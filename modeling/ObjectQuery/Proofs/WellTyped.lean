import Mathlib.Data.List.Induction
import ObjectQuery.Proofs.Moves

/-!
Stored conditions are well typed. What a context or a compiled query holds was checked against the
model of an entity when it was added, and is right for that model ever after, as long as no name is
registered again with another model. Nothing is asked of the models: they may list a property twice,
and then the first one counts.
-/
namespace ObjectQuery

theorem Test.operandType?_eq_none_iff (t : Test) :
    t.operandType? = none ↔ t = .isNull ∨ t = .notNull := by
  cases t <;> simp [operandType?]

/-- The model resolves the property of the condition, and the operand is of the property's class
if there is one; only a test for null has none. -/
def EntityModel.Admits (model : EntityModel) (c : Condition) : Prop :=
  ∃ p, model.propertyById? c.property = some p ∧
    match c.operandType? with
    | none => c.test = .isNull ∨ c.test = .notNull
    | some found => found = p.valueType

namespace Engine

variable {e e' : Engine} {action : Action} {outcome : Outcome} {context : ContextHandle}
  {c : Condition}

theorem validate_ok {p : Property} (valid : e.validate context c = .ok p) :
    ∃ ctx model, e.contexts.get? context = some ctx ∧
      e.entities.get? ctx.entity = some model ∧ model.Admits c := by
  unfold validate at valid
  split at valid
  · contradiction
  · rename_i ctx live
    split at valid
    · contradiction
    · rename_i model known
      split at valid
      · contradiction
      · rename_i p' resolved
        refine ⟨ctx, model, live, known, p', resolved, ?_⟩
        cases operand : c.operandType? with
        | none => exact c.test.operandType?_eq_none_iff.mp operand
        | some found =>
          by_cases same : found = p'.valueType
          · exact same
          · simp [operand, same] at valid

def Extends (e e' : Engine) : Prop :=
  ∀ name model, e.entities.get? name = some model → e'.entities.get? name = some model

theorem extends_of_eq (same : e'.entities = e.entities) : e.Extends e' := by
  intro name model known
  rw [same]
  exact known

def Fit (e : Engine) (entity : String) (conditions : List Condition) : Prop :=
  ∃ model, e.entities.get? entity = some model ∧ ∀ c ∈ conditions, model.Admits c

namespace Fit

variable {entity : String} {conditions : List Condition}

theorem extended (fit : e.Fit entity conditions) (more : e.Extends e') :
    e'.Fit entity conditions := by
  obtain ⟨model, known, admitted⟩ := fit
  exact ⟨model, more entity model known, admitted⟩

theorem concat {model : EntityModel} (fit : e.Fit entity conditions)
    (known : e.entities.get? entity = some model) (admits : model.Admits c) :
    e.Fit entity (conditions ++ [c]) := by
  obtain ⟨model', known', admitted⟩ := fit
  obtain rfl : model = model' := Option.some.inj (known.symm.trans known')
  refine ⟨model, known, ?_⟩
  intro d member
  rcases List.mem_append.mp member with earlier | last
  · exact admitted d earlier
  · rw [List.mem_singleton.mp last]
    exact admits

end Fit

structure WellTyped (e : Engine) : Prop where
  contexts : ∀ h ctx, e.contexts.get? h = some ctx → e.Fit ctx.entity ctx.conditions
  queries : ∀ h conditions, e.queries.get? h = some conditions →
    ∃ entity, e.Fit entity conditions

namespace WellTyped

theorem fresh : WellTyped {} where
  contexts h ctx live := by contradiction
  queries h conditions live := by contradiction

theorem kept (typed : e.WellTyped) (more : e.Extends e')
    (contexts : ∀ h ctx, e'.contexts.get? h = some ctx → e.contexts.get? h = some ctx)
    (queries : ∀ h conditions, e'.queries.get? h = some conditions →
      e.queries.get? h = some conditions) : e'.WellTyped where
  contexts h ctx live := (typed.contexts h ctx (contexts h ctx live)).extended more
  queries h conditions live := by
    obtain ⟨entity, fit⟩ := typed.queries h conditions (queries h conditions live)
    exact ⟨entity, fit.extended more⟩

theorem created (typed : e.WellTyped) {entity : String} (known : (e.entities.get? entity).isSome)
    {counter : HandleCounter} {journal : Journal} (h : ContextHandle) :
    WellTyped { e with counter, journal, contexts := e.contexts.insert h ⟨entity, []⟩ } where
  contexts h' ctx live := by
    rw [Table.get?_insert] at live
    split at live
    · obtain rfl := Option.some.inj live
      obtain ⟨model, found⟩ := Option.isSome_iff_exists.mp known
      exact ⟨model, found, by simp⟩
    · exact typed.contexts h' ctx live
  queries := typed.queries

theorem added (typed : e.WellTyped) {p : Property} (valid : e.validate context c = .ok p)
    {journal : Journal} :
    WellTyped { e with journal, contexts := e.contexts.modify context fun ctx =>
      { ctx with conditions := ctx.conditions ++ [c] } } where
  contexts h ctx' live := by
    obtain ⟨ctx, model, found, known, admits⟩ := validate_ok valid
    rw [Table.get?_modify] at live
    split at live
    · rename_i same
      subst same
      rw [found] at live
      obtain rfl := Option.some.inj live
      exact (typed.contexts context ctx found).concat known admits
    · exact typed.contexts h ctx' live
  queries := typed.queries

theorem compiled (typed : e.WellTyped) {ctx : Context}
    (live : e.contexts.get? context = some ctx) {counter : HandleCounter} {journal : Journal}
    (h : QueryHandle) :
    WellTyped { e with counter, journal, queries := e.queries.insert h ctx.conditions } where
  contexts := typed.contexts
  queries h' conditions found := by
    rw [Table.get?_insert] at found
    split at found
    · obtain rfl := Option.some.inj found
      exact ⟨ctx.entity, typed.contexts context ctx live⟩
    · exact typed.queries h' conditions found

theorem move (typed : e.WellTyped) (move : Move e action outcome e') (more : e.Extends e') :
    e'.WellTyped := by
  cases move with
  | created free opened known => exact typed.created known _
  | added free valid =>
    obtain ⟨p, valid⟩ := valid
    exact typed.added valid
  | compiled free live => exact typed.compiled live _
  | destroyed live =>
    refine typed.kept more ?_ fun h conditions found => found
    intro h ctx found
    rw [Table.get?_erase] at found
    split at found
    · contradiction
    · exact found
  | destroyedQuery live =>
    refine typed.kept more (fun h ctx found => found) ?_
    intro h conditions found
    rw [Table.get?_erase] at found
    split at found
    · contradiction
    · exact found
  | _ => exact typed.kept more (fun h ctx found => found) fun h conditions found => found

end WellTyped

theorem entities_of_move (move : Move e action outcome e') :
    (∃ model, action = .register model ∧ e'.entities = e.entities.insert model.name model) ∨
      e'.entities = e.entities := by
  cases move with
  | @registered model => exact Or.inl ⟨model, rfl, rfl⟩
  | _ => exact Or.inr rfl

theorem run_concat (e : Engine) (actions : List Action) (action : Action) :
    (e.run (actions ++ [action])).2 = ((e.run actions).2.act action).2 := by
  rw [run_append]
  rfl

theorem registered_of_run {actions : List Action} {name : String} {model : EntityModel}
    (known : (run {} actions).2.entities.get? name = some model) :
    .register model ∈ actions ∧ model.name = name := by
  induction actions using List.reverseRecOn generalizing name model with
  | nil => contradiction
  | append_singleton earlier action ih =>
    rw [run_concat] at known
    rcases entities_of_move (move_of_act (run {} earlier).2 action) with
      ⟨registered, rfl, inserted⟩ | same
    · rw [inserted, Table.get?_insert] at known
      split at known
      · rename_i here
        obtain rfl := Option.some.inj known
        exact ⟨by simp, here⟩
      · obtain ⟨member, named⟩ := ih known
        exact ⟨List.mem_append_left _ member, named⟩
    · rw [same] at known
      obtain ⟨member, named⟩ := ih known
      exact ⟨List.mem_append_left _ member, named⟩

/-- No name is registered again with another model. -/
def Steady (actions : List Action) : Prop :=
  ∀ model model', .register model ∈ actions → .register model' ∈ actions →
    model.name = model'.name → model = model'

theorem extends_of_act {earlier : List Action} (steady : Steady (earlier ++ [action])) :
    (run {} earlier).2.Extends ((run {} earlier).2.act action).2 := by
  rcases entities_of_move (move_of_act (run {} earlier).2 action) with
    ⟨registered, rfl, inserted⟩ | same
  · intro name model known
    rw [inserted, Table.get?_insert]
    split
    · rename_i here
      obtain ⟨member, named⟩ := registered_of_run known
      have unchanged : registered = model :=
        steady registered model (by simp) (List.mem_append_left _ member) (here.trans named.symm)
      rw [unchanged]
    · exact known
  · exact extends_of_eq same

theorem wellTyped_of_run {actions : List Action} (steady : Steady actions) :
    (run {} actions).2.WellTyped := by
  induction actions using List.reverseRecOn with
  | nil => exact WellTyped.fresh
  | append_singleton earlier action ih =>
    have before : Steady earlier := fun model model' hm hm' =>
      steady model model' (List.mem_append_left _ hm) (List.mem_append_left _ hm')
    rw [run_concat]
    exact (ih before).move (move_of_act _ action) (extends_of_act steady)

theorem stored_conditions_are_well_typed {actions : List Action} (steady : Steady actions) :
    let e := (run {} actions).2
    (∀ h ctx, e.contexts.get? h = some ctx →
      ∃ model, e.entities.get? ctx.entity = some model ∧ ∀ c ∈ ctx.conditions, model.Admits c) ∧
    ∀ h conditions, e.queries.get? h = some conditions →
      ∃ entity model, e.entities.get? entity = some model ∧ ∀ c ∈ conditions, model.Admits c := by
  intro e
  have typed := wellTyped_of_run steady
  exact ⟨typed.contexts, typed.queries⟩

/-- The model lists one id twice, with different classes. It is registered twice, and of three
conditions the second is refused. -/
def typedActions : List Action :=
  let model : EntityModel := ⟨"Order", [⟨⟨1⟩, "note", .text⟩, ⟨⟨1⟩, "total", .int64⟩]⟩
  let context := HandleCounter.start.advance.peek .context
  [.register model,
    .openSession,
    .call (.createContext (HandleCounter.start.peek .session) "Order"),
    .call (.condition context ⟨⟨1⟩, .containsText "x"⟩),
    .register model,
    .call (.condition context ⟨⟨1⟩, .equalInt 3⟩),
    .call (.condition context ⟨⟨1⟩, .isNull⟩),
    .call (.compile context),
    .call (.destroyContext context)]

theorem typedActions_are_well_typed :
    Steady typedActions ∧
    ∃ entity model, (run {} typedActions).2.entities.get? entity = some model ∧
      model.Admits ⟨⟨1⟩, .containsText "x"⟩ ∧ model.Admits ⟨⟨1⟩, .isNull⟩ := by
  have steady : Steady typedActions := by
    intro model model' member member' named
    simp only [typedActions, List.mem_cons, Action.register.injEq, reduceCtorEq, false_or,
      List.not_mem_nil, or_false, or_self] at member member'
    rw [member, member']
  refine ⟨steady, ?_⟩
  have stored : (run {} typedActions).2.queries.get? ⟨3, by decide⟩ =
      some [⟨⟨1⟩, .containsText "x"⟩, ⟨⟨1⟩, .isNull⟩] := by decide +kernel
  obtain ⟨entity, model, known, admitted⟩ :=
    (stored_conditions_are_well_typed steady).2 _ _ stored
  exact ⟨entity, model, known, admitted _ (by simp), admitted _ (by simp)⟩

end Engine

end ObjectQuery
