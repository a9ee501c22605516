import Mathlib.Data.List.Induction
import ObjectQuery.Proofs.Deeds
import ObjectQuery.Proofs.History

/-!
Observing changes nothing. Two workspaces are alike if they differ in the policies of stores, in
what has been recorded and in the level of condition notices at most. Policies are set by two
operations, which keep a workspace alike to what it was; every other operation answers alike in
alike workspaces and leaves them alike. The level of a condition notice is read off the builder's
own store in each run.
-/
namespace ObjectQuery

def Operation.setsPolicy : Operation → Bool
  | .configure .. | .route .. => true
  | _ => false

namespace Notice

def conditionLevel? : Notice → Option Level
  | condition level .. => some level
  | _ => none

/-- The notice with the level that a store without debug gives it. -/
def quiet : Notice → Notice
  | condition _ entity context op property => condition .trace entity context op property
  | n => n

end Notice

namespace Effect

def isRecorded : Effect → Bool
  | recorded .. => true
  | _ => false

def quiet : Effect → Effect
  | noticed n => noticed n.quiet
  | e => e

def level? : Effect → Option Level
  | noticed n => n.conditionLevel?
  | _ => none

end Effect

def unrecorded (history : List Effect) : List Effect := history.filter (!·.isRecorded)

def levelsIn (history : List Effect) : List Level := (unrecorded history).filterMap Effect.level?

/-! A box, builder or query without the policy of its store. -/

def EntityBox.bare (box : EntityBox) : SessionHandle × String × Nat :=
  (box.store.session, box.entity, box.cell)

def Builder.bare (b : Builder) : (SessionHandle × String × Nat) × Option ContextHandle :=
  (b.box.bare, b.handle)

def Query.bare (q : Query) : (SessionHandle × String × Nat) × Option QueryHandle :=
  (q.box.bare, q.handle)

section Unrecorded

@[simp] theorem unrecorded_append (later earlier : List Effect) :
    unrecorded (later ++ earlier) = unrecorded later ++ unrecorded earlier :=
  List.filter_append later earlier

@[simp] theorem unrecorded_called (call : EngineCall) (outcome : Engine.Outcome)
    (earlier : List Effect) :
    unrecorded (.called call outcome :: earlier) = .called call outcome :: unrecorded earlier := rfl

@[simp] theorem unrecorded_noticed (n : Notice) (earlier : List Effect) :
    unrecorded (.noticed n :: earlier) = .noticed n :: unrecorded earlier := rfl

@[simp] theorem unrecorded_nil : unrecorded [] = [] := rfl

@[simp] theorem unrecorded_recordings (s : Store) (e : Event) :
    unrecorded (s.recordings e) = [] := by
  unfold Store.recordings
  split <;> rfl

variable (box : EntityBox)

@[simp] theorem unrecorded_announcement (context : ContextHandle) (p : Property) (m : Method)
    (earlier : List Effect) :
    unrecorded (box.announcement context p m :: earlier) =
      box.announcement context p m :: unrecorded earlier := rfl

@[simp] theorem quiet_announcement (context : ContextHandle) (p : Property) (m : Method) :
    (box.announcement context p m).quiet =
      .noticed (.condition .trace box.entity context m.op p.name) := rfl

@[simp] theorem unrecorded_refusal (op : EngineOp) (error : EngineError) :
    unrecorded (box.refusal op error) =
      [.noticed (.engineRejected box.entity op error.message)] := by
  simp [EntityBox.refusal]

@[simp] theorem unrecorded_opening (context : ContextHandle) :
    unrecorded (box.opening context) = [.noticed (.builderOpened box.entity context)] := by
  simp [EntityBox.opening]

@[simp] theorem unrecorded_compiling (query : QueryHandle) :
    unrecorded (box.compiling query) = [.noticed (.queryCompiled box.entity query)] := by
  simp [EntityBox.compiling]

@[simp] theorem unrecorded_closing (context : ContextHandle) (onDrop : Bool) :
    unrecorded (box.closing context onDrop) =
      [.noticed (.builderClosed box.entity context onDrop),
        .called (.destroyContext context) .done] := by
  simp [EntityBox.closing]

@[simp] theorem unrecorded_closingQuery (query : QueryHandle) (onDrop : Bool) :
    unrecorded (box.closingQuery query onDrop) =
      [.noticed (.queryClosed box.entity query onDrop), .called (.destroyQuery query) .done] := by
  simp [EntityBox.closingQuery]

end Unrecorded

namespace Workspace

/-- Everything but policies, recordings and the level of condition notices. -/
structure Alike (w w' : Workspace) : Prop where
  engine : w.engine = w'.engine
  metadata : w.metadata = w'.metadata
  cells : w.cells = w'.cells
  stores : w.stores.map Store.session = w'.stores.map Store.session
  boxes : w.boxes.map EntityBox.bare = w'.boxes.map EntityBox.bare
  builders : w.builders.map Builder.bare = w'.builders.map Builder.bare
  queries : w.queries.map Query.bare = w'.queries.map Query.bare
  history : (unrecorded w.history).map Effect.quiet = (unrecorded w'.history).map Effect.quiet

def Agree (r r' : Answer × Workspace) : Prop := r.1 = r'.1 ∧ r.2.Alike r'.2

namespace Alike

variable {w w' w'' : Workspace}

theorem refl (w : Workspace) : w.Alike w := ⟨rfl, rfl, rfl, rfl, rfl, rfl, rfl, rfl⟩

theorem symm (alike : w.Alike w') : w'.Alike w :=
  ⟨alike.engine.symm, alike.metadata.symm, alike.cells.symm, alike.stores.symm, alike.boxes.symm,
    alike.builders.symm, alike.queries.symm, alike.history.symm⟩

theorem trans (first : w.Alike w') (second : w'.Alike w'') : w.Alike w'' :=
  ⟨first.engine.trans second.engine, first.metadata.trans second.metadata,
    first.cells.trans second.cells, first.stores.trans second.stores,
    first.boxes.trans second.boxes, first.builders.trans second.builders,
    first.queries.trans second.queries, first.history.trans second.history⟩

theorem write (alike : w.Alike w') {e e' : Engine} (engine : e = e') {h h' : List Effect}
    (history : (unrecorded h).map Effect.quiet = (unrecorded h').map Effect.quiet) :
    Alike { w with engine := e, history := h } { w' with engine := e', history := h' } :=
  ⟨engine, alike.metadata, alike.cells, alike.stores, alike.boxes, alike.builders, alike.queries,
    history⟩

end Alike

section Step

variable {w w' : Workspace} {id : Nat} {box box' : EntityBox} {o : Operation}

theorem agree_on {α β : Type} {g : α → β} {l l' : List α} (same : l.map g = l'.map g)
    (alike : w.Alike w') {f f' : α → Answer × Workspace}
    (agree : ∀ a a', l[id]? = some a → l'[id]? = some a' → g a = g a' → Agree (f a) (f' a')) :
    Agree (w.on l id f) (w'.on l' id f') := by
  have place : l[id]?.map g = l'[id]?.map g := by
    rw [← List.getElem?_map, ← List.getElem?_map, same]
  unfold on
  cases found : l[id]? with
  | none =>
    have missing : l'[id]? = none := by simpa [found] using place.symm
    rw [missing]
    exact ⟨rfl, alike⟩
  | some a =>
    obtain ⟨a', found', image⟩ := Option.map_eq_some_iff.mp (place.symm.trans (by rw [found]; rfl))
    rw [found']
    exact agree a a' found found' image.symm

theorem agree_engine (alike : w.Alike w') (action : Engine.Action) :
    Agree (w.step (.engine action)) (w'.step (.engine action)) := by
  cases action with
  | call call =>
    simp only [step, act_call, alike.engine]
    exact ⟨rfl, alike.write rfl (by simp [alike.history])⟩
  | _ =>
    simp only [step, act, alike.engine]
    exact ⟨rfl, alike.write rfl alike.history⟩

/-- Boxes that are bare the same differ in policy only. -/
theorem eq_of_bare (same : box.bare = box'.bare) : ∃ config sink,
    box' = ⟨⟨box.store.session, config, sink⟩, box.entity, box.cell⟩ := by
  obtain ⟨⟨session, config, sink⟩, entity, cell⟩ := box'
  simp only [EntityBox.bare, Prod.mk.injEq] at same
  obtain ⟨rfl, rfl, rfl⟩ := same
  exact ⟨config, sink, rfl⟩

theorem agree_properties (alike : w.Alike w') (same : box.bare = box'.bare) :
    (w.properties box).1 = (w'.properties box').1 ∧
      (w.properties box).2.Alike (w'.properties box').2 := by
  obtain ⟨config, sink, rfl⟩ := eq_of_bare same
  have family : w'.resolved? ⟨⟨box.store.session, config, sink⟩, box.entity, box.cell⟩ =
      w.resolved? box := by
    rw [resolved?, resolved?, alike.cells]
  cases resolved : w.resolved? box with
  | some model =>
    rw [properties_resolved resolved, properties_resolved (family.trans resolved)]
    exact ⟨rfl, alike⟩
  | none =>
    cases verdict : (w.metadata.resolve box.entity).1.verdict box.entity with
    | ok model =>
      rw [properties_settled resolved verdict, properties_settled (family.trans resolved)
        (by rw [← alike.metadata]; exact verdict)]
      exact ⟨rfl, alike.engine, by rw [alike.metadata], by rw [alike.cells], alike.stores,
        alike.boxes, alike.builders, alike.queries, by simp [alike.history]⟩
    | error failure =>
      rw [properties_failed resolved verdict, properties_failed (family.trans resolved)
        (by rw [← alike.metadata]; exact verdict)]
      exact ⟨rfl, alike.engine, by rw [alike.metadata], alike.cells, alike.stores,
        alike.boxes, alike.builders, alike.queries, alike.history⟩

theorem agree_property (alike : w.Alike w') (same : box.bare = box'.bare) (name : String) :
    (w.property box name).1 = (w'.property box' name).1 ∧
      (w.property box name).2.Alike (w'.property box' name).2 := by
  obtain ⟨reply, after⟩ := agree_properties alike same
  obtain ⟨config, sink, rfl⟩ := eq_of_bare same
  rw [property_eq, property_eq, reply]
  exact ⟨rfl, after⟩

theorem agree_openBuilder (alike : w.Alike w') (same : box.bare = box'.bare) :
    Agree (w.stepOpenBuilder box) (w'.stepOpenBuilder box') := by
  obtain ⟨reply, after⟩ := agree_properties alike same
  rcases resolution : w.properties box with ⟨r, v⟩
  rcases resolution' : w'.properties box' with ⟨r', v'⟩
  rw [resolution, resolution'] at reply after
  dsimp only at reply after
  subst reply
  obtain ⟨config, sink, rfl⟩ := eq_of_bare same
  cases r with
  | error failure =>
    rw [stepOpenBuilder_unresolved resolution, stepOpenBuilder_unresolved resolution']
    exact ⟨rfl, after⟩
  | ok model =>
    rcases call : v.engine.createContext box.store.session box.entity with ⟨r, engine⟩
    have call' : v'.engine.createContext box.store.session box.entity = (r, engine) := by
      rw [← after.engine, call]
    cases r with
    | error error =>
      rw [stepOpenBuilder_refused resolution call, stepOpenBuilder_refused resolution' call']
      exact ⟨rfl, after.write rfl (by simp [after.history])⟩
    | ok context =>
      rw [stepOpenBuilder_ok resolution call, stepOpenBuilder_ok resolution' call']
      have count : v.builders.length = v'.builders.length := by
        simpa using congrArg List.length after.builders
      exact ⟨congrArg Answer.builder count, rfl, after.metadata, after.cells, after.stores,
        after.boxes, by simp [after.builders, Builder.bare, EntityBox.bare], after.queries,
        by simp [after.history]⟩

variable {b b' : Builder} {q q' : Query}

theorem builder_of_bare (same : b.bare = b'.bare) : ∃ config sink,
    b' = ⟨⟨⟨b.box.store.session, config, sink⟩, b.box.entity, b.box.cell⟩, b.handle⟩ := by
  obtain ⟨box, handle⟩ := b'
  obtain ⟨bare, rfl⟩ := Prod.mk.inj same
  obtain ⟨config, sink, rfl⟩ := eq_of_bare bare
  exact ⟨config, sink, rfl⟩

theorem query_of_bare (same : q.bare = q'.bare) : ∃ config sink,
    q' = ⟨⟨⟨q.box.store.session, config, sink⟩, q.box.entity, q.box.cell⟩, q.handle⟩ := by
  obtain ⟨box, handle⟩ := q'
  obtain ⟨bare, rfl⟩ := Prod.mk.inj same
  obtain ⟨config, sink, rfl⟩ := eq_of_bare bare
  exact ⟨config, sink, rfl⟩

theorem agree_condition (alike : w.Alike w') (same : b.bare = b'.bare) (p : Property)
    (m : Method) :
    (w.apply b p m).1 = (w'.apply b' p m).1 ∧ (w.apply b p m).2.Alike (w'.apply b' p m).2 := by
  obtain ⟨config, sink, rfl⟩ := builder_of_bare same
  obtain ⟨box, handle⟩ := b
  cases handle with
  | none =>
    rw [apply_closed, apply_closed]
    exact ⟨rfl, alike.write alike.engine (by simp [alike.history])⟩
  | some context =>
    rcases call : w.engine.addCondition context ⟨p.id, m.test⟩ with ⟨r, engine⟩
    have call' : w'.engine.addCondition context ⟨p.id, m.test⟩ = (r, engine) := by
      rw [← alike.engine, call]
    cases r with
    | error error =>
      rw [apply_refused call, apply_refused call']
      exact ⟨rfl, alike.write rfl (by simp [alike.history])⟩
    | ok done =>
      rw [apply_ok call, apply_ok call']
      exact ⟨rfl, alike.write rfl (by simp [alike.history])⟩

theorem agree_build (alike : w.Alike w') (found : w.builders[id]? = some b)
    (found' : w'.builders[id]? = some b') (same : b.bare = b'.bare) :
    Agree (w.stepBuild id b) (w'.stepBuild id b') := by
  obtain ⟨config, sink, rfl⟩ := builder_of_bare same
  obtain ⟨box, handle⟩ := b
  cases handle with
  | none =>
    rw [stepBuild_closed found, stepBuild_closed found']
    exact ⟨rfl, alike.write alike.engine (by simp [alike.history])⟩
  | some context =>
    rcases call : w.engine.compile context with ⟨r, engine⟩
    have call' : w'.engine.compile context = (r, engine) := by
      rw [← alike.engine, call]
    cases r with
    | error error =>
      rw [stepBuild_refused call, stepBuild_refused call']
      exact ⟨rfl, rfl, alike.metadata, alike.cells, alike.stores, alike.boxes,
        by simp [List.map_set, alike.builders, Builder.bare, EntityBox.bare], alike.queries,
        by simp [alike.history]⟩
    | ok query =>
      rw [stepBuild_ok call, stepBuild_ok call']
      have count : w.queries.length = w'.queries.length := by
        simpa using congrArg List.length alike.queries
      exact ⟨congrArg Answer.query count, rfl, alike.metadata, alike.cells, alike.stores,
        alike.boxes, by simp [List.map_set, alike.builders, Builder.bare, EntityBox.bare],
        by simp [alike.queries, Query.bare, EntityBox.bare], by simp [alike.history]⟩

theorem agree_releaseBuilder (alike : w.Alike w') (found : w.builders[id]? = some b)
    (found' : w'.builders[id]? = some b') (same : b.bare = b'.bare) (onDrop : Bool) :
    Agree (w.stepReleaseBuilder id b onDrop) (w'.stepReleaseBuilder id b' onDrop) := by
  obtain ⟨config, sink, rfl⟩ := builder_of_bare same
  obtain ⟨box, handle⟩ := b
  cases handle with
  | none =>
    rw [stepReleaseBuilder_closed found, stepReleaseBuilder_closed found']
    exact ⟨rfl, alike⟩
  | some context =>
    rw [stepReleaseBuilder_open, stepReleaseBuilder_open]
    exact ⟨rfl, by rw [alike.engine], alike.metadata, alike.cells, alike.stores, alike.boxes,
      by simp [List.map_set, alike.builders, Builder.bare, EntityBox.bare], alike.queries,
      by simp [alike.history]⟩

theorem agree_queryHandle (alike : w.Alike w') (same : q.bare = q'.bare) :
    (w.queryHandle q).1 = (w'.queryHandle q').1 ∧
      (w.queryHandle q).2.Alike (w'.queryHandle q').2 := by
  obtain ⟨config, sink, rfl⟩ := query_of_bare same
  obtain ⟨box, handle⟩ := q
  cases handle with
  | none =>
    rw [queryHandle_closed, queryHandle_closed]
    exact ⟨rfl, alike.write alike.engine (by simp [alike.history])⟩
  | some query => exact ⟨rfl, alike⟩

theorem agree_releaseQuery (alike : w.Alike w') (found : w.queries[id]? = some q)
    (found' : w'.queries[id]? = some q') (same : q.bare = q'.bare) (onDrop : Bool) :
    Agree (w.stepReleaseQuery id q onDrop) (w'.stepReleaseQuery id q' onDrop) := by
  obtain ⟨config, sink, rfl⟩ := query_of_bare same
  obtain ⟨box, handle⟩ := q
  cases handle with
  | none =>
    rw [stepReleaseQuery_closed found, stepReleaseQuery_closed found']
    exact ⟨rfl, alike⟩
  | some query =>
    rw [stepReleaseQuery_open, stepReleaseQuery_open]
    exact ⟨rfl, by rw [alike.engine], alike.metadata, alike.cells, alike.stores, alike.boxes,
      alike.builders, by simp [List.map_set, alike.queries, Query.bare, EntityBox.bare],
      by simp [alike.history]⟩

theorem agree_addStore (alike : w.Alike w') {s s' : Store} (same : s.session = s'.session) :
    Agree (w.addStore s) (w'.addStore s') := by
  have count : w.stores.length = w'.stores.length := by
    simpa using congrArg List.length alike.stores
  exact ⟨congrArg Answer.store count, alike.engine, alike.metadata, alike.cells,
    by simp [addStore, alike.stores, same], alike.boxes, alike.builders, alike.queries,
    alike.history⟩

theorem agree_addBox (alike : w.Alike w') (same : box.bare = box'.bare) :
    Agree (w.addBox box) (w'.addBox box') := by
  have count : w.boxes.length = w'.boxes.length := by
    simpa using congrArg List.length alike.boxes
  exact ⟨congrArg Answer.box count, alike.engine, alike.metadata, alike.cells, alike.stores,
    by simp [addBox, alike.boxes, same], alike.builders, alike.queries, alike.history⟩

theorem agree_newBox (alike : w.Alike w') {s s' : Store} (same : s.session = s'.session)
    (entity : String) :
    Agree ((w.newBox s entity).2.addBox (w.newBox s entity).1)
      ((w'.newBox s' entity).2.addBox (w'.newBox s' entity).1) := by
  apply agree_addBox
  · exact ⟨alike.engine, alike.metadata, by simp [newBox, alike.cells], alike.stores, alike.boxes,
      alike.builders, alike.queries, alike.history⟩
  · simp [newBox, EntityBox.bare, same, alike.cells]

theorem agree_step (alike : w.Alike w') (blind : o.setsPolicy = false) :
    Agree (w.step o) (w'.step o) := by
  cases o with
  | engine action => exact agree_engine alike action
  | lineUp entity line =>
    exact ⟨rfl, alike.engine, by simp [step, alike.metadata], alike.cells, alike.stores,
      alike.boxes, alike.builders, alike.queries, alike.history⟩
  | resetReport =>
    exact ⟨rfl, alike.write alike.engine (congrArg (Effect.reportReset :: ·) alike.history)⟩
  | openStore session => exact agree_addStore alike rfl
  | copyStore store =>
    exact agree_on alike.stores alike fun s s' _ _ same => agree_addStore alike same
  | configure | route => contradiction
  | newBox store entity =>
    exact agree_on alike.stores alike fun s s' _ _ same => agree_newBox alike same entity
  | copyBox box => exact agree_on alike.boxes alike fun _ _ _ _ same => agree_addBox alike same
  | boxOfBuilder builder =>
    exact agree_on alike.builders alike fun _ _ _ _ same =>
      agree_addBox alike (congrArg Prod.fst same)
  | boxOfQuery query =>
    exact agree_on alike.queries alike fun _ _ _ _ same =>
      agree_addBox alike (congrArg Prod.fst same)
  | properties box =>
    refine agree_on alike.boxes alike fun box box' _ _ same => ?_
    obtain ⟨reply, after⟩ := agree_properties alike same
    rcases resolution : w.properties box with ⟨r, v⟩
    rcases resolution' : w'.properties box' with ⟨r', v'⟩
    rw [resolution, resolution'] at reply after
    obtain rfl : r = r' := reply
    cases r <;> exact ⟨rfl, after⟩
  | property box name =>
    refine agree_on alike.boxes alike fun box box' _ _ same => ?_
    obtain ⟨reply, after⟩ := agree_property alike same name
    exact ⟨congrArg (answerWith .property) reply, after⟩
  | propertyOfBuilder builder name =>
    refine agree_on alike.builders alike fun b b' _ _ same => ?_
    obtain ⟨reply, after⟩ := agree_property alike (congrArg Prod.fst same) name
    exact ⟨congrArg (answerWith .property) reply, after⟩
  | openBuilder box =>
    exact agree_on alike.boxes alike fun _ _ _ _ same => agree_openBuilder alike same
  | condition builder p m =>
    refine agree_on alike.builders alike fun b b' _ _ same => ?_
    obtain ⟨reply, after⟩ := agree_condition alike same p m
    exact ⟨congrArg (answerWith fun _ => .done) reply, after⟩
  | build builder =>
    exact agree_on alike.builders alike fun _ _ found found' same =>
      agree_build alike found found' same
  | closeBuilder builder | dropBuilder builder =>
    exact agree_on alike.builders alike fun _ _ found found' same =>
      agree_releaseBuilder alike found found' same _
  | queryHandle query =>
    refine agree_on alike.queries alike fun q q' _ _ same => ?_
    obtain ⟨reply, after⟩ := agree_queryHandle alike same
    exact ⟨congrArg (answerWith .handle) reply, after⟩
  | closeQuery query | dropQuery query =>
    exact agree_on alike.queries alike fun _ _ found found' same =>
      agree_releaseQuery alike found found' same _

theorem alike_setStore {s s' : Store} (found : w.stores[id]? = some s)
    (same : s'.session = s.session) : (w.setStore id s').2.Alike w :=
  ⟨rfl, rfl, rfl, map_set_of_same found s' same, rfl, rfl, rfl, rfl⟩

theorem alike_of_policy (setting : o.setsPolicy = true) : (w.step o).2.Alike w := by
  have set_or_unknown {id : Nat} {f : Store → Store} (same : ∀ s, (f s).session = s.session) :
      (w.on w.stores id fun s => w.setStore id (f s)).2.Alike w := by
    unfold on
    split
    · rename_i s found
      exact alike_setStore found (same s)
    · exact .refl w
  cases o with
  | configure store config => exact set_or_unknown fun _ => rfl
  | route store sink => exact set_or_unknown fun _ => rfl
  | _ => contradiction

end Step

def announced (w : Workspace) : Operation → List Level
  | .condition builder _ _ => match w.builders[builder]? with
    | some ⟨box, some _⟩ => [if box.store.config.debug then .debug else .trace]
    | _ => []
  | _ => []

section Levels

variable {w w' : Workspace} {o : Operation} {a : Answer} {box : EntityBox}

theorem announced_of_lacks (absent : w.lacks o = true) : w.announced o = [] := by
  cases o <;> simp_all [lacks, announced]

theorem announced_of_closed {owner : Owner} (closed : w.ledger.IsClosed box owner)
    (known : o.asks? = some owner ∨ o.releases? = some owner) : w.announced o = [] := by
  cases o with
  | condition id p m =>
    obtain rfl : Owner.builder id = owner := by
      simpa [Operation.asks?, Operation.releases?] using known
    have found : w.builders[id]? = some ⟨box, none⟩ := closed
    simp [announced, found]
  | _ => rfl

theorem levelsIn_properties (box : EntityBox) :
    levelsIn (w.properties box).2.history = levelsIn w.history := by
  obtain ⟨metadata, cells, effects, leaves, noticed⟩ := properties_leaves (w := w) box
  have none_told : (unrecorded effects).filterMap Effect.level? = [] := by
    apply List.filterMap_eq_nil_iff.mpr
    intro e member
    obtain ⟨n, rfl⟩ := noticed e (List.mem_filter.mp member).1
    rfl
  rw [leaves, levelsIn, unrecorded_append, List.filterMap_append, none_told, List.nil_append,
    levelsIn]

theorem levelsIn_trace (call : EngineCall) (outcome : Engine.Outcome) (earlier : List Effect) :
    levelsIn (call.trace outcome ++ earlier) = levelsIn earlier := by
  unfold EngineCall.trace
  split <;> rfl

theorem levels_of_deed (deed : Deed w o a w') :
    levelsIn w'.history = (w.announced o).reverse ++ levelsIn w.history := by
  have silent (nothing : w.announced o = []) (same : levelsIn w'.history = levelsIn w.history) :
      levelsIn w'.history = (w.announced o).reverse ++ levelsIn w.history := by
    rw [nothing, same, List.reverse_nil, List.nil_append]
  cases deed with
  | unknown absent => exact silent (announced_of_lacks absent) rfl
  | called => exact levelsIn_trace _ _ _
  | @boxCopied o box copied =>
    refine silent ?_ rfl
    cases o <;> first | rfl | contradiction
  | @told o a box asked reply =>
    refine silent ?_ (levelsIn_properties box)
    cases o <;> first | rfl | contradiction
  | @openRefused id box model w' error engine found resolution failed =>
    have before : levelsIn w'.history = levelsIn w.history := by
      simpa [resolution] using levelsIn_properties (w := w) box
    refine silent rfl (Eq.trans ?_ before)
    simp [levelsIn, List.filterMap_cons, Effect.level?, Notice.conditionLevel?]
  | @opened id box model w' context engine found resolution done =>
    have before : levelsIn w'.history = levelsIn w.history := by
      simpa [resolution] using levelsIn_properties (w := w) box
    refine silent rfl (Eq.trans ?_ before)
    simp [levelsIn, List.filterMap_cons, Effect.level?, Notice.conditionLevel?]
  | conditionRefused found failed | conditionAdded found done =>
    simp [levelsIn, List.filterMap_cons, Effect.level?, Notice.conditionLevel?, announced, found,
      EntityBox.announcement]
  | buildRefused found failed | built found done =>
    refine silent rfl ?_
    simp [levelsIn, List.filterMap_cons, Effect.level?, Notice.conditionLevel?]
  | @builderReleased _ id box context onDrop release found =>
    refine silent (by cases onDrop <;> subst release <;> rfl) ?_
    simp [levelsIn, List.filterMap_cons, Effect.level?, Notice.conditionLevel?]
  | @queryReleased _ id box query onDrop release found =>
    refine silent (by cases onDrop <;> subst release <;> rfl) ?_
    simp [levelsIn, List.filterMap_cons, Effect.level?, Notice.conditionLevel?]
  | refusedClosed closed asking =>
    exact silent (announced_of_closed closed (Or.inl asking)) (by simp [levelsIn])
  | releasedClosed closed releasing =>
    exact silent (announced_of_closed closed (Or.inr releasing)) rfl
  | _ => exact silent rfl rfl

end Levels

theorem levels_of_log (w : Workspace) :
    w.log.filterMap Notice.conditionLevel? = (levelsIn w.history).reverse := by
  have level (e : Effect) : e.notice?.bind Notice.conditionLevel? = e.level? := by
    cases e <;> rfl
  have kept : levelsIn w.history = w.history.filterMap Effect.level? := by
    apply filterMap_of_silent
    intro e recorded
    cases e <;> first | rfl | contradiction
  rw [log, List.filterMap_reverse, List.filterMap_filterMap, kept]
  simp only [level]

section Views

variable {w w' : Workspace}

theorem same_view {β : Type} {f : Effect → Option β} (alike : w.Alike w')
    (silent : ∀ sink e, f (.recorded sink e) = none) :
    w.history.filterMap (f ∘ Effect.quiet) = w'.history.filterMap (f ∘ Effect.quiet) := by
  have seen (history : List Effect) : ((unrecorded history).map Effect.quiet).filterMap f =
      history.filterMap (f ∘ Effect.quiet) := by
    rw [List.filterMap_map]
    apply filterMap_of_silent
    intro e recorded
    cases e <;> first | exact silent _ _ | contradiction
  rw [← seen, ← seen, alike.history]

theorem quiet_log (alike : w.Alike w') : w.log.map Notice.quiet = w'.log.map Notice.quiet := by
  have quieted : Effect.notice? ∘ Effect.quiet = fun e => e.notice?.map Notice.quiet := by
    funext e
    cases e <;> rfl
  have view := same_view alike (f := Effect.notice?) fun _ _ => rfl
  rw [quieted, ← List.map_filterMap, ← List.map_filterMap] at view
  rw [log, log, List.map_reverse, List.map_reverse, view]

theorem same_calls (alike : w.Alike w') : w.calls = w'.calls := by
  have called : Effect.call? ∘ Effect.quiet = Effect.call? := by
    funext e
    cases e <;> rfl
  have view := same_view alike (f := Effect.call?) fun _ _ => rfl
  rw [called] at view
  rw [calls, calls, callsIn, callsIn, view]

theorem same_resolved (alike : w.Alike w') : w.boxes.map w.resolved? = w'.boxes.map w'.resolved? := by
  have seen (w : Workspace) : w.boxes.map w.resolved? =
      (w.boxes.map EntityBox.bare).map fun box => w.cells[box.2.2]?.join := by
    rw [List.map_map]
    rfl
  rw [seen, seen, alike.boxes, alike.cells]

end Views

theorem levels_of_run (w : Workspace) (operations : List Operation) :
    levelsIn (w.run operations).2.history =
      (w.along announced operations).reverse ++ levelsIn w.history := by
  induction operations generalizing w with
  | nil => rfl
  | cons o rest ih =>
    rw [run, along, List.reverse_append, List.append_assoc, ← levels_of_deed (deed_of_step w o)]
    exact ih (w.step o).2

theorem levels_of_after (operations : List Operation) :
    (after operations).log.filterMap Notice.conditionLevel? = along announced {} operations := by
  rw [levels_of_log, after, levels_of_run, List.reverse_append, List.reverse_reverse]
  rfl

theorem run_alike {w w' : Workspace} (alike : w.Alike w') (operations : List Operation) :
    let blind := operations.filter (!·.setsPolicy)
    (operations.zip (w.run operations).1).filter (fun entry => !entry.1.setsPolicy) =
        blind.zip (w'.run blind).1 ∧
      (w.run operations).2.Alike (w'.run blind).2 := by
  induction operations generalizing w w' with
  | nil => exact ⟨rfl, alike⟩
  | cons o rest ih =>
    cases setting : o.setsPolicy with
    | true =>
      -- The other run stands still here: it never sees this operation.
      obtain ⟨answers, after⟩ := ih ((alike_of_policy setting).trans alike)
      simpa [run, setting] using And.intro answers after
    | false =>
      obtain ⟨answer, next⟩ := agree_step alike setting
      obtain ⟨answers, after⟩ := ih next
      simpa [run, setting, answer] using And.intro answers after

/-- Two runs of the same operations, but for those that set policies, get the same answers. They
leave the same engine, resolver and models, boxes, builders and queries that differ in policy only,
the same calls and the same log but for the level of conditions, which each run takes from the
stores of its own builders. -/
theorem observing_changes_nothing {operations operations' : List Operation}
    (same : operations.filter (!·.setsPolicy) = operations'.filter (!·.setsPolicy)) :
    let w := after operations
    let w' := after operations'
    (transcript operations).filter (fun entry => !entry.1.setsPolicy) =
      (transcript operations').filter (fun entry => !entry.1.setsPolicy) ∧
    w.engine = w'.engine ∧
    w.metadata = w'.metadata ∧
    w.cells = w'.cells ∧
    w.boxes.map w.resolved? = w'.boxes.map w'.resolved? ∧
    w.boxes.map EntityBox.bare = w'.boxes.map EntityBox.bare ∧
    w.builders.map Builder.bare = w'.builders.map Builder.bare ∧
    w.queries.map Query.bare = w'.queries.map Query.bare ∧
    w.calls = w'.calls ∧
    w.log.map Notice.quiet = w'.log.map Notice.quiet ∧
    w.log.filterMap Notice.conditionLevel? = along announced {} operations ∧
    w'.log.filterMap Notice.conditionLevel? = along announced {} operations' := by
  intro w w'
  obtain ⟨answers, plain⟩ := run_alike (.refl {}) operations
  obtain ⟨answers', plain'⟩ := run_alike (.refl {}) operations'
  rw [← same] at answers' plain'
  have alike : w.Alike w' := plain.trans plain'.symm
  exact ⟨answers.trans answers'.symm, alike.engine, alike.metadata, alike.cells,
    same_resolved alike, alike.boxes, alike.builders, alike.queries, same_calls alike,
    quiet_log alike, levels_of_after operations, levels_of_after operations'⟩

/-- The sample run over a store that debugs, counts nothing and has a sink. -/
def observedRun : List Operation :=
  sampleRun.take 4 ++ .configure 0 { debug := true, metrics := false } :: .route 0 "audit" ::
    sampleRun.drop 4

theorem observedRun_changes_levels :
    sampleRun.filter (!·.setsPolicy) = observedRun.filter (!·.setsPolicy) ∧
    (after sampleRun).engine = (after observedRun).engine ∧
    (after sampleRun).log.map Notice.quiet = (after observedRun).log.map Notice.quiet ∧
    (after sampleRun).log.filterMap Notice.conditionLevel? = [.trace, .trace, .trace, .trace] ∧
    (after observedRun).log.filterMap Notice.conditionLevel? = [.debug, .debug, .debug, .debug] := by
  have same : sampleRun.filter (!·.setsPolicy) = observedRun.filter (!·.setsPolicy) := by
    decide +kernel
  obtain ⟨-, engine, -, -, -, -, -, -, -, log, levels, levels'⟩ := observing_changes_nothing same
  refine ⟨same, engine, log, ?_, ?_⟩
  · rw [levels]
    decide +kernel
  · rw [levels']
    decide +kernel

end Workspace

end ObjectQuery
