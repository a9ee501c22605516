import ObjectQuery.Proofs.Deeds

/-!
Families of boxes. A box that is made from a store founds a family with a cell of its own; every
other box is a copy, also the ones inside builders and queries. A copy is the founder over again,
so a family keeps the entity and the store it was founded with, whatever becomes of the store that
the client holds, and builders and queries keep to the family they came from.
-/
namespace ObjectQuery.Workspace

def founded (w : Workspace) : Operation → List EntityBox
  | .newBox store entity => w.stores[store]?.toList.map fun s => ⟨s, entity, w.cells.length⟩
  | _ => []

/-- The founders of all families, in the order of their cells. -/
def founders (operations : List Operation) : List EntityBox := along founded {} operations

def Holds (w : Workspace) (box : EntityBox) : Prop :=
  box ∈ w.boxes ∨ (∃ b ∈ w.builders, b.box = box) ∨ ∃ q ∈ w.queries, q.box = box

section Holds

variable {w : Workspace} {id : Nat} {box : EntityBox}

theorem holds_of_builder {handle : Option ContextHandle}
    (found : w.builders[id]? = some ⟨box, handle⟩) : w.Holds box :=
  Or.inr (Or.inl ⟨_, List.mem_of_getElem? found, rfl⟩)

theorem holds_of_query {handle : Option QueryHandle}
    (found : w.queries[id]? = some ⟨box, handle⟩) : w.Holds box :=
  Or.inr (Or.inr ⟨_, List.mem_of_getElem? found, rfl⟩)

theorem holds_of_boxOf? (owner : Owner) (found : w.ledger.boxOf? owner = some box) :
    w.Holds box := by
  cases owner with
  | builder id =>
    obtain ⟨b, place, rfl⟩ := Option.map_eq_some_iff.mp found
    exact holds_of_builder place
  | query id =>
    obtain ⟨q, place, rfl⟩ := Option.map_eq_some_iff.mp found
    exact holds_of_query place

theorem holds_of_copied {o : Operation} (copied : w.copied? o = some box) : w.Holds box := by
  unfold copied? at copied
  split at copied
  · exact Or.inl (List.mem_of_getElem? copied)
  · exact holds_of_boxOf? (.builder _) copied
  · exact holds_of_boxOf? (.query _) copied
  · contradiction

theorem holds_of_consulted {o : Operation} (asked : w.consulted? o = some box) :
    w.Holds box := by
  unfold consulted? at asked
  split at asked
  · exact Or.inl (List.mem_of_getElem? asked)
  · exact Or.inl (List.mem_of_getElem? asked)
  · exact Or.inl (List.mem_of_getElem? asked)
  · exact holds_of_boxOf? (.builder _) asked
  · contradiction

end Holds

/-- Every box is a copy of the founder of its family, and every family has a cell. -/
structure Kin (founders : List EntityBox) (w : Workspace) : Prop where
  cells : w.cells.length = founders.length
  boxes : ∀ box ∈ w.boxes, founders[box.cell]? = some box
  builders : ∀ b ∈ w.builders, founders[b.box.cell]? = some b.box
  queries : ∀ q ∈ w.queries, founders[q.box.cell]? = some q.box

namespace Kin

variable {founders : List EntityBox} {w w' : Workspace} {box : EntityBox}

theorem fresh : Kin [] {} where
  cells := rfl
  boxes := by simp
  builders := by simp
  queries := by simp

theorem founder (kin : Kin founders w) (held : w.Holds box) : founders[box.cell]? = some box := by
  rcases held with member | ⟨b, member, rfl⟩ | ⟨q, member, rfl⟩
  · exact kin.boxes box member
  · exact kin.builders b member
  · exact kin.queries q member

theorem cell_lt (kin : Kin founders w) (held : w.Holds box) : box.cell < w.cells.length := by
  rw [kin.cells]
  exact (List.getElem?_eq_some_iff.mp (kin.founder held)).1

theorem found (kin : Kin founders w) (s : Store) (entity : String) :
    let box : EntityBox := ⟨s, entity, w.cells.length⟩
    Kin (founders ++ [box]) { w with boxes := w.boxes ++ [box], cells := w.cells ++ [none] } := by
  intro box
  have still : ∀ {b : EntityBox}, founders[b.cell]? = some b →
      (founders ++ [box])[b.cell]? = some b := fun earlier => getElem?_concat_of_some earlier box
  have new : (founders ++ [box])[box.cell]? = some box := by
    rw [show box.cell = founders.length from kin.cells]
    exact List.getElem?_concat_length
  exact ⟨by simp [kin.cells], forall_mem_concat (fun b member => still (kin.boxes b member)) new,
    fun b member => still (kin.builders b member), fun q member => still (kin.queries q member)⟩

theorem copy (kin : Kin founders w) (held : w.Holds box) :
    Kin founders { w with boxes := w.boxes ++ [box] } :=
  ⟨kin.cells, forall_mem_concat kin.boxes (kin.founder held), kin.builders, kin.queries⟩

theorem addBuilder (kin : Kin founders w) (held : w.Holds box) (handle : Option ContextHandle) :
    Kin founders { w with builders := w.builders ++ [⟨box, handle⟩] } :=
  ⟨kin.cells, kin.boxes, forall_mem_concat kin.builders (kin.founder held), kin.queries⟩

theorem addQuery (kin : Kin founders w) (held : w.Holds box) (handle : Option QueryHandle) :
    Kin founders { w with queries := w.queries ++ [⟨box, handle⟩] } :=
  ⟨kin.cells, kin.boxes, kin.builders, forall_mem_concat kin.queries (kin.founder held)⟩

theorem setBuilder (kin : Kin founders w) (held : w.Holds box) (id : Nat)
    (handle : Option ContextHandle) :
    Kin founders { w with builders := w.builders.set id ⟨box, handle⟩ } :=
  ⟨kin.cells, kin.boxes, forall_mem_set kin.builders (kin.founder held) id, kin.queries⟩

theorem setQuery (kin : Kin founders w) (held : w.Holds box) (id : Nat)
    (handle : Option QueryHandle) :
    Kin founders { w with queries := w.queries.set id ⟨box, handle⟩ } :=
  ⟨kin.cells, kin.boxes, kin.builders, forall_mem_set kin.queries (kin.founder held) id⟩

theorem of_same (kin : Kin founders w) (cells : w'.cells.length = w.cells.length)
    (boxes : w'.boxes = w.boxes) (builders : w'.builders = w.builders)
    (queries : w'.queries = w.queries) : Kin founders w' where
  cells := cells.trans kin.cells
  boxes := by rw [boxes]; exact kin.boxes
  builders := by rw [builders]; exact kin.builders
  queries := by rw [queries]; exact kin.queries

theorem properties (kin : Kin founders w) (box : EntityBox) :
    Kin founders (w.properties box).2 := by
  obtain ⟨metadata, cells, effects, leaves, length⟩ := properties_owners (w := w) box
  rw [leaves]
  exact kin.of_same length rfl rfl rfl

theorem holds_after_properties (held : w.Holds box) : (w.properties box).2.Holds box := by
  obtain ⟨metadata, cells, effects, leaves, -⟩ := properties_owners (w := w) box
  rw [leaves]
  exact held

end Kin

section Founded

variable {w : Workspace} {o : Operation}

theorem founded_of_lacks (absent : w.lacks o = true) : w.founded o = [] := by
  cases o with
  | newBox store entity => simp_all [lacks, founded]
  | _ => rfl

theorem founded_of_other (other : ∀ store entity, o ≠ .newBox store entity) :
    w.founded o = [] := by
  cases o with
  | newBox store entity => exact absurd rfl (other store entity)
  | _ => rfl

end Founded

theorem kin_deed {founders : List EntityBox} {w w' : Workspace} {o : Operation} {a : Answer}
    (kin : Kin founders w) (deed : Deed w o a w') : Kin (founders ++ w.founded o) w' := by
  have unfounded (nothing : w.founded o = []) (kept : Kin founders w') :
      Kin (founders ++ w.founded o) w' := by
    rw [nothing, List.append_nil]
    exact kept
  cases deed with
  | unknown absent => exact unfounded (founded_of_lacks absent) kin
  | @boxMade id s entity found =>
    have founds : w.founded (.newBox id entity) = [⟨s, entity, w.cells.length⟩] := by
      simp [founded, found]
    rw [founds]
    exact kin.found s entity
  | boxCopied copied =>
    refine unfounded (founded_of_other ?_) (kin.copy (holds_of_copied copied))
    rintro store entity rfl
    contradiction
  | told asked reply =>
    refine unfounded (founded_of_other ?_) (kin.properties _)
    rintro store entity rfl
    contradiction
  | @openRefused id box model w' error engine found resolution failed =>
    have kept : Kin founders w' := by simpa [resolution] using kin.properties box
    exact unfounded rfl (kept.of_same rfl rfl rfl rfl)
  | @opened id box model w' context engine found resolution done =>
    have kept : Kin founders w' := by simpa [resolution] using kin.properties box
    have held : w'.Holds box := by
      have before : w.Holds box := Or.inl (List.mem_of_getElem? found)
      have after := Kin.holds_after_properties before
      rwa [resolution] at after
    exact unfounded rfl ((kept.addBuilder held _).of_same rfl rfl rfl rfl)
  | buildRefused found failed =>
    exact unfounded rfl ((kin.setBuilder (holds_of_builder found) _ none).of_same rfl rfl rfl rfl)
  | @built id box context query engine found done =>
    have added := kin.addQuery (holds_of_builder found) (some query)
    have held : Holds { w with queries := w.queries ++ [⟨box, some query⟩] } box :=
      holds_of_builder found
    exact unfounded rfl ((added.setBuilder held id none).of_same rfl rfl rfl rfl)
  | @builderReleased _ id box context onDrop release found =>
    refine unfounded (founded_of_other ?_)
      ((kin.setBuilder (holds_of_builder found) id none).of_same rfl rfl rfl rfl)
    rintro store entity rfl
    cases onDrop <;> contradiction
  | @queryReleased _ id box query onDrop release found =>
    refine unfounded (founded_of_other ?_)
      ((kin.setQuery (holds_of_query found) id none).of_same rfl rfl rfl rfl)
    rintro store entity rfl
    cases onDrop <;> contradiction
  | refusedClosed closed asking =>
    refine unfounded (founded_of_other ?_) (kin.of_same rfl rfl rfl rfl)
    rintro store entity rfl
    contradiction
  | releasedClosed closed releasing =>
    refine unfounded (founded_of_other ?_) kin
    rintro store entity rfl
    contradiction
  | _ => exact unfounded rfl (kin.of_same rfl rfl rfl rfl)

theorem kin_of_after (operations : List Operation) :
    Kin (founders operations) (after operations) := by
  induction operations using List.reverseRecOn with
  | nil => exact Kin.fresh
  | append_singleton earlier o ih =>
    rw [founders, along_concat, after, run_concat]
    exact kin_deed ih (deed_of_step _ o)

structure Keeps (w w' : Workspace) : Prop where
  boxes : w.boxes <+: w'.boxes
  builders : w.builders.map Builder.box <+: w'.builders.map Builder.box
  queries : w.queries.map Query.box <+: w'.queries.map Query.box

namespace Keeps

variable {w w' w'' : Workspace}

theorem of_same (boxes : w'.boxes = w.boxes) (builders : w'.builders = w.builders)
    (queries : w'.queries = w.queries) : w.Keeps w' := by
  constructor
  · exact ⟨[], by rw [boxes, List.append_nil]⟩
  · exact ⟨[], by rw [builders, List.append_nil]⟩
  · exact ⟨[], by rw [queries, List.append_nil]⟩

theorem trans (first : w.Keeps w') (second : w'.Keeps w'') : w.Keeps w'' :=
  ⟨first.boxes.trans second.boxes, first.builders.trans second.builders,
    first.queries.trans second.queries⟩

theorem properties (box : EntityBox) : w.Keeps (w.properties box).2 := by
  obtain ⟨metadata, cells, effects, leaves, -⟩ := properties_owners (w := w) box
  rw [leaves]
  exact of_same rfl rfl rfl

end Keeps

theorem prefix_of_concat {α : Type} {f : α → EntityBox} (l : List α) (a : α) :
    l.map f <+: (l ++ [a]).map f := by
  rw [List.map_append]
  exact List.prefix_append _ _

theorem prefix_of_set {α : Type} {f : α → EntityBox} {l : List α} {i : Nat} {a : α}
    (found : l[i]? = some a) (b : α) (same : f b = f a) : l.map f <+: (l.set i b).map f :=
  ⟨[], by rw [map_set_of_same found b same, List.append_nil]⟩

theorem keeps_deed {w w' : Workspace} {o : Operation} {a : Answer} (deed : Deed w o a w') :
    w.Keeps w' := by
  cases deed with
  | boxMade | boxCopied => exact ⟨List.prefix_append _ _, List.prefix_rfl, List.prefix_rfl⟩
  | told => exact .properties _
  | @openRefused id box model w' error engine found resolution failed =>
    have kept : w.Keeps w' := by simpa [resolution] using Keeps.properties (w := w) box
    exact kept.trans (.of_same rfl rfl rfl)
  | @opened id box model w' context engine found resolution done =>
    have kept : w.Keeps w' := by simpa [resolution] using Keeps.properties (w := w) box
    exact kept.trans ⟨List.prefix_rfl, prefix_of_concat w'.builders _, List.prefix_rfl⟩
  | buildRefused found | builderReleased release found =>
    exact ⟨List.prefix_rfl, prefix_of_set found ⟨_, none⟩ rfl, List.prefix_rfl⟩
  | @built id box context query engine found done =>
    exact ⟨List.prefix_rfl, prefix_of_set found ⟨box, none⟩ rfl, prefix_of_concat w.queries _⟩
  | queryReleased release found =>
    exact ⟨List.prefix_rfl, List.prefix_rfl, prefix_of_set found ⟨_, none⟩ rfl⟩
  | _ => exact .of_same rfl rfl rfl

theorem keeps_of_run (w : Workspace) (operations : List Operation) :
    w.Keeps (w.run operations).2 := by
  induction operations generalizing w with
  | nil => exact .of_same rfl rfl rfl
  | cons o rest ih => exact (keeps_deed (deed_of_step w o)).trans (ih (w.step o).2)

theorem box_of_built {w : Workspace} {builder query : Nat}
    (built : (w.step (.build builder)).1 = .query query) : ∃ box,
      w.ledger.boxOf? (.builder builder) = some box ∧
      (w.step (.build builder)).2.ledger.boxOf? (.query query) = some box := by
  have deed := deed_of_step w (.build builder)
  rw [built] at deed
  generalize (w.step (.build builder)).2 = w' at deed ⊢
  cases deed with
  | told asked reply => contradiction
  | @built _ box context _ engine found done =>
    exact ⟨box, by simp [Ledger.boxOf?, ledger, found], by simp [Ledger.boxOf?, ledger]⟩

end ObjectQuery.Workspace
