import ObjectQuery.Proofs.Accepted
import ObjectQuery.Proofs.Duplicates
import ObjectQuery.Proofs.Families
import ObjectQuery.Proofs.Verdicts

/-!
Where a box and its engine have the same checked model, they agree on it. A box looks a property up
by its name, the engine by its id; as neither occurs twice, both arrive at the same property, and a
condition from an open builder fails for its operand or not at all.
-/
namespace ObjectQuery

/-- The class of the operands that a method is given; the methods for null are given none. -/
def Method.operandClass? : Method → Option ValueType
  | .isNull | .notNull => none
  | .equal (.int _) | .notEqual (.int _) | .less (.int _) | .greater (.int _) | .between _ _
  | .isIn _ => some .int64
  | .equal (.text _) | .notEqual (.text _) | .contains _ | .startsWith _ | .endsWith _ => some .text
  | .less (.float _) | .greater (.float _) => some .float64

theorem Method.operandType?_test (m : Method) : m.test.operandType? = m.operandClass? := by
  cases m with
  | equal operand | notEqual operand | less operand | greater operand | isIn operand =>
    cases operand <;> rfl
  | _ => rfl

theorem Method.operandClass?_eq_none_iff (m : Method) :
    m.operandClass? = none ↔ m = .isNull ∨ m = .notNull := by
  cases m with
  | equal operand | notEqual operand | less operand | greater operand =>
    cases operand <;> simp [operandClass?]
  | _ => simp [operandClass?]

/-- The context that a builder holds was created for the entity of its box. -/
def Ledger.Matched (l : Ledger) : Prop :=
  ∀ (id : Nat) (box : EntityBox) (context : ContextHandle),
    l.builders[id]? = some ⟨box, some context⟩ →
      ∀ ctx, l.engine.contexts.get? context = some ctx → ctx.entity = box.entity

namespace Ledger.Matched

variable {n : Nat} {l l' : Ledger} {o : Operation} {a : Answer} {box : EntityBox}
  {context : ContextHandle} {engine : Engine}

theorem fresh : Matched {} := by
  intro id box context found
  contradiction

theorem of_engine (matched : l.Matched) (builders : l'.builders = l.builders)
    (kept : ∀ h ctx', l'.engine.contexts.get? h = some ctx' →
      ∃ ctx, l.engine.contexts.get? h = some ctx ∧ ctx'.entity = ctx.entity) : l'.Matched := by
  intro id box context found ctx' live
  rw [builders] at found
  obtain ⟨ctx, before, same⟩ := kept context ctx' live
  rw [same]
  exact matched id box context found ctx before

theorem of_same (matched : l.Matched) (builders : l'.builders = l.builders)
    (contexts : l'.engine.contexts = l.engine.contexts) : l'.Matched := by
  apply matched.of_engine builders
  intro h ctx live
  rw [contexts] at live
  exact ⟨ctx, live, rfl⟩

theorem opened (matched : l.Matched) (owned : Owned n l) (fits : n + 1 ≤ UInt64.size - 1)
    (done : l.engine.createContext box.store.session box.entity = (.ok context, engine)) :
    ({ l with engine }.addBuilder ⟨box, some context⟩).Matched := by
  obtain ⟨-, -, next, rfl⟩ := Engine.createContext_ok done
  intro id box' h found ctx live
  have live : (l.engine.contexts.insert context ⟨box.entity, []⟩).get? h = some ctx := live
  rw [Table.get?_insert] at live
  have place : (l.builders ++ [⟨box, some context⟩])[id]? = some ⟨box', some h⟩ := found
  rcases Nat.lt_trichotomy id l.builders.length with earlier | last | beyond
  · rw [List.getElem?_append_left earlier] at place
    have apart : context ≠ h := by
      rw [next]
      exact owned.context_not_next fits (contextOf?_of_found place)
    rw [if_neg apart] at live
    exact matched id box' h place ctx live
  · rw [last, List.getElem?_concat_length] at place
    cases place
    rw [if_pos rfl] at live
    cases live
    rfl
  · rw [List.getElem?_eq_none (by simp; omega)] at place
    contradiction

theorem closed (matched : l.Matched) (id : Nat) (box : EntityBox) (context : ContextHandle)
    (onDrop : Bool) : (l.close id box context onDrop).Matched := by
  intro j box' h found ctx live
  have place : (l.builders.set id ⟨box, none⟩)[j]? = some ⟨box', some h⟩ := found
  have live : (l.engine.destroyContext context).contexts.get? h = some ctx := live
  rw [Engine.get?_contexts_destroyContext] at live
  split at live
  · contradiction
  · rw [List.getElem?_set] at place
    split at place
    · split at place <;> cases place
    · exact matched j box' h place ctx live

theorem turn (matched : l.Matched) (owned : Owned n l) (turn : Turn l o a l')
    (fits : n + a.handles ≤ UInt64.size - 1) : l'.Matched := by
  cases turn with
  | aside added effects plain minor unmet => exact matched.of_same rfl rfl
  | engine indirect => exact matched.of_same rfl (Engine.act_tables indirect).1
  | openRefused effects minor found failed =>
    obtain ⟨left, rfl, -⟩ := Engine.createContext_error failed
    exact matched.of_same rfl rfl
  | opened effects minor found done => exact (matched.opened owned fits done).of_same rfl rfl
  | conditionRefused found failed =>
    obtain ⟨left, rfl, -⟩ := Engine.addCondition_error failed
    exact matched.of_same rfl rfl
  | conditionAdded found done =>
    obtain ⟨-, rfl⟩ := Engine.addCondition_ok done
    refine matched.of_engine rfl ?_
    intro h ctx' live
    simp only [Ledger.write_engine, Table.get?_modify] at live
    split at live
    · obtain ⟨ctx, before, rfl⟩ := Option.map_eq_some_iff.mp live
      exact ⟨ctx, before, rfl⟩
    · exact ⟨ctx', live, rfl⟩
  | @buildRefused id box context error engine found failed =>
    obtain ⟨left, rfl, -⟩ := Engine.compile_error failed
    apply of_same (l := Ledger.close _ id box context false) _ rfl rfl
    apply closed
    exact matched.of_same rfl rfl
  | @built id box context query engine found done =>
    obtain ⟨ctx, -, -, rfl⟩ := Engine.compile_ok done
    apply closed
    exact matched.of_same rfl rfl
  | builderReleased release found => exact matched.closed _ _ _ _
  | queryReleased release found => exact matched.of_same rfl Engine.contexts_destroyQuery

end Ledger.Matched

namespace Workspace

theorem matched_after {operations : List Operation}
    (indirect : ∀ o ∈ operations, o.isDirect = false)
    (few : (transcript operations).handles ≤ UInt64.size - 1) :
    (after operations).ledger.Matched := by
  apply (course_of_after indirect).keeps (P := fun _ l => l.Matched) few Ledger.Matched.fresh
  intro t l l' o a owned matched turn fits
  exact matched.turn owned turn fits

section Lookup

variable {w : Workspace} {id : Nat} {box : EntityBox} {model : EntityModel}

def looksUp (entity name : String) (model : EntityModel) : Answer :=
  match model.property? name with
  | some p => .property p
  | none => .refused (.unknownProperty entity name)

theorem property_resolved (cached : w.resolved? box = some model) (name : String) :
    (answerWith .property (w.property box name).1, (w.property box name).2) =
      (looksUp box.entity name model, w) := by
  unfold property looksUp
  rw [properties_resolved cached]
  cases found : model.property? name <;> simp [answerWith, found]

theorem step_property (found : w.boxes[id]? = some box) (cached : w.resolved? box = some model)
    (name : String) :
    w.step (.property id name) = (looksUp box.entity name model, w) := by
  rw [← property_resolved cached]
  exact on_found found _

theorem step_propertyOfBuilder {handle : Option ContextHandle}
    (found : w.builders[id]? = some ⟨box, handle⟩) (cached : w.resolved? box = some model)
    (name : String) :
    w.step (.propertyOfBuilder id name) = (looksUp box.entity name model, w) := by
  rw [← property_resolved cached]
  exact on_found found _

theorem looksUp_eq_property_iff (distinct : (model.properties.map Property.name).Nodup)
    (entity : String) (p : Property) : looksUp entity name model = .property p ↔
      model.properties.filter (fun q => q.name = name) = [p] := by
  rw [← EntityModel.property?_eq_some_iff distinct]
  unfold looksUp
  cases model.property? name <;> simp

theorem looksUp_of_none_unique (distinct : (model.properties.map Property.name).Nodup)
    (none_unique : ∀ p, model.properties.filter (fun q => q.name = name) ≠ [p])
    (entity : String) : looksUp entity name model = .refused (.unknownProperty entity name) := by
  unfold looksUp
  cases found : model.property? name with
  | none => rfl
  | some p =>
    have only := (EntityModel.property?_eq_some_iff distinct).mp found
    exact absurd only (none_unique p)

end Lookup

section Answer

variable {w : Workspace} {id : Nat} {box : EntityBox} {context : ContextHandle} {p : Property}
  {m : Method} {model : EntityModel}

theorem answer_of_condition (found : w.builders[id]? = some ⟨box, some context⟩) :
    (w.step (.condition id p m)).1 =
      match (w.engine.perform (.condition context ⟨p.id, m.test⟩)).1 with
      | .refused error => .refused (.engineRejected box.entity m.op error)
      | _ => .done := by
  rw [step_condition found]
  rcases ended : w.engine.addCondition context ⟨p.id, m.test⟩ with ⟨r, engine⟩
  rw [Engine.perform_condition ended]
  cases r with
  | error error =>
    rw [apply_refused ended]
    rfl
  | ok done =>
    rw [apply_ok ended]
    rfl

theorem answer_of_listed {ctx : Context} (found : w.builders[id]? = some ⟨box, some context⟩)
    (live : w.engine.contexts.get? context = some ctx) (entity : ctx.entity = box.entity)
    (registered : w.engine.entities.get? box.entity = some model)
    (distinct : (model.properties.map Property.id).Nodup) (listed : p ∈ model.properties)
    (clear : w.engine.Clear m.op) :
    ((w.step (.condition id p m)).1 = .done ↔
      (m = .isNull ∨ m = .notNull) ∨ m.operandClass? = some p.valueType) ∧
    ((w.step (.condition id p m)).1 = .done ∨ ∃ found, m.operandClass? = some found ∧
      found ≠ p.valueType ∧ (w.step (.condition id p m)).1 = .refused
        (.engineRejected box.entity m.op (.typeMismatch p.id p.valueType found))) := by
  have operand : (⟨p.id, m.test⟩ : Condition).operandType? = m.operandClass? := m.operandType?_test
  have first : model.IsFirst p.id p :=
    EntityModel.propertyById?_eq_some_iff.mp (EntityModel.propertyById?_of_mem distinct listed)
  have clear : w.engine.Clear (⟨p.id, m.test⟩ : Condition).op := by
    have label : (⟨p.id, m.test⟩ : Condition).op = m.op := m.op_test
    rw [label]
    exact clear
  have known : w.engine.entities.get? ctx.entity = some model := by rw [entity, registered]
  have judged := Engine.judgement_of_perform clear live known
  rw [answer_of_condition found, ← m.operandClass?_eq_none_iff]
  generalize (w.engine.perform (.condition context ⟨p.id, m.test⟩)).1 = outcome at judged ⊢
  cases judged with
  | unlisted absent => exact absurd absent first.not_absent
  | mismatched first' present other =>
    obtain rfl := first.unique first'
    rw [operand] at present
    constructor
    · simp [present, other]
    · exact Or.inr ⟨_, present, other, rfl⟩
  | fitting first' fits =>
    obtain rfl := first.unique first'
    rw [operand] at fits
    constructor
    · cases present : m.operandClass? with
      | none => simp
      | some found => simp [fits found present]
    · exact Or.inl rfl

end Answer

/-- The box may be any of its family, and so may the one inside the builder. -/
theorem metadata_agrees_with_validation {operations : List Operation}
    (indirect : ∀ o ∈ operations, o.isDirect = false)
    (few : (transcript operations).handles ≤ UInt64.size - 1)
    {i j : Nat} {box copy : EntityBox} {context : ContextHandle} {properties : List Property}
    {model : EntityModel} (held : (after operations).boxes[i]? = some box)
    (opened : (after operations).builders[j]? = some ⟨copy, some context⟩)
    (family : copy.cell = box.cell)
    (accepted : EntityModel.ofProperties box.entity properties = .ok model)
    (cached : (after operations).resolved? box = some model)
    (registered : (after operations).engine.entities.get? box.entity = some model) :
    let w := after operations
    (∀ name p, (w.step (.property i name)).1 = .property p ↔
      model.properties.filter (fun q => q.name = name) = [p]) ∧
    (∀ name, (∀ p, model.properties.filter (fun q => q.name = name) ≠ [p]) →
      (w.step (.property i name)).1 = .refused (.unknownProperty box.entity name)) ∧
    (∀ name, w.step (.propertyOfBuilder j name) = w.step (.property i name) ∧
      (w.step (.property i name)).2 = w) ∧
    ∀ name p, model.properties.filter (fun q => q.name = name) = [p] →
      ∀ m, w.engine.Clear m.op →
        ((w.step (.condition j p m)).1 = .done ↔
          (m = .isNull ∨ m = .notNull) ∨ m.operandClass? = some p.valueType) ∧
        ((w.step (.condition j p m)).1 = .done ∨ ∃ found, m.operandClass? = some found ∧
          found ≠ p.valueType ∧ (w.step (.condition j p m)).1 = .refused
            (.engineRejected box.entity m.op (.typeMismatch p.id p.valueType found))) := by
  intro w
  have kin := kin_of_after operations
  obtain rfl : copy = box := by
    have founder := kin.founder (holds_of_builder opened)
    rw [family, kin.founder (Or.inl (List.mem_of_getElem? held))] at founder
    exact (Option.some.inj founder).symm
  obtain ⟨⟨ids, names⟩, rfl⟩ := EntityModel.ofProperties_eq_ok_iff.mp accepted
  obtain ⟨ctx, live⟩ := Option.isSome_iff_exists.mp
    ((owned_after indirect few).context_live (Ledger.contextOf?_of_found opened))
  have entity : ctx.entity = copy.entity :=
    matched_after indirect few j copy context opened ctx live
  have lookup := step_property held cached
  refine ⟨?_, ?_, ?_, ?_⟩
  · intro name p
    rw [lookup]
    exact looksUp_eq_property_iff names copy.entity p
  · intro name none_unique
    rw [lookup]
    exact looksUp_of_none_unique names none_unique copy.entity
  · intro name
    rw [lookup]
    exact ⟨step_propertyOfBuilder opened cached name, rfl⟩
  · intro name p only m clear
    have kept : p ∈ properties.filter (fun q => q.name = name) := by simp [only]
    have listed : p ∈ properties := (List.mem_filter.mp kept).1
    exact answer_of_listed opened live entity registered ids listed clear

/-- A builder is opened over a copy of a box, and the model has two properties. -/
def checkedRun : List Operation :=
  let model : EntityModel := ⟨"Order", [⟨⟨1⟩, "total", .int64⟩, ⟨⟨2⟩, "note", .text⟩]⟩
  [.engine (.register model), .engine .openSession, .lineUp "Order" [.model model],
    .openStore (HandleCounter.start.peek .session), .newBox 0 "Order", .copyBox 0, .openBuilder 1]

theorem checkedRun_agrees :
    let w := after checkedRun
    let note : Property := ⟨⟨2⟩, "note", .text⟩
    (∀ o ∈ checkedRun, o.isDirect = false) ∧
    (transcript checkedRun).handles ≤ UInt64.size - 1 ∧
    (w.step (.property 0 "note")).1 = .property note ∧
    (w.step (.property 0 "Note")).1 = .refused (.unknownProperty "Order" "Note") ∧
    (w.step (.condition 0 note (.equal (.text "")))).1 = .done ∧
    (w.step (.condition 0 note (.less (.float .nan)))).1 =
      .refused (.engineRejected "Order" .lessFloat (.typeMismatch ⟨2⟩ .text .float64)) := by
  intro w note
  have indirect : ∀ o ∈ checkedRun, o.isDirect = false := by decide
  have few : (transcript checkedRun).handles ≤ UInt64.size - 1 :=
    Nat.le_trans (handles_le_length checkedRun) (by decide)
  let store : Store := { session := ⟨1, by decide⟩ }
  let model : EntityModel := ⟨"Order", [⟨⟨1⟩, "total", .int64⟩, note]⟩
  let box : EntityBox := ⟨store, "Order", 0⟩
  have held : w.boxes[0]? = some box := by decide +kernel
  have opened : w.builders[0]? = some ⟨box, some ⟨2, by decide⟩⟩ := by decide +kernel
  have accepted : EntityModel.ofProperties box.entity model.properties = .ok model := by
    decide +kernel
  have cached : w.resolved? box = some model := by decide +kernel
  have registered : w.engine.entities.get? box.entity = some model := by decide +kernel
  obtain ⟨found, missing, -, conditions⟩ :=
    metadata_agrees_with_validation indirect few held opened rfl accepted cached registered
  have only : model.properties.filter (fun q => q.name = "note") = [note] := by decide +kernel
  refine ⟨indirect, few, (found "note" note).mpr only, ?_, ?_, ?_⟩
  · apply missing
    intro p
    have none_named : model.properties.filter (fun q => q.name = "Note") = [] := by decide +kernel
    rw [none_named]
    simp
  · have clear : w.engine.Clear .equalText := by
      unfold Engine.Clear
      decide +kernel
    exact (conditions "note" note only (.equal (.text "")) clear).1.mpr (Or.inr rfl)
  · have clear : w.engine.Clear .lessFloat := by
      unfold Engine.Clear
      decide +kernel
    obtain ⟨done_iff, done | ⟨operand, given, other, answer⟩⟩ :=
      conditions "note" note only (.less (.float .nan)) clear
    · have fits := done_iff.mp done
      simp [Method.operandClass?, note] at fits
    · obtain rfl : operand = .float64 := (Option.some.inj given).symm
      exact answer

end Workspace

end ObjectQuery
