import ObjectQuery.Proofs.WellTyped

/-!
How an engine decides a call for which no fault is in line. Handles may be anybody's, a name may be
registered again and again, and a model may list an id twice. Each context still belongs to a
registered entity, which is why a condition is never refused for its entity, and why one that is
accepted is stored.
-/
namespace ObjectQuery

/-- The property that an id means: the first one that has it. -/
def EntityModel.IsFirst (model : EntityModel) (id : PropertyId) (p : Property) : Prop :=
  ∃ before after, model.properties = before ++ p :: after ∧ p.id = id ∧ ∀ q ∈ before, q.id ≠ id

theorem EntityModel.propertyById?_eq_some_iff {model : EntityModel} {id : PropertyId}
    {p : Property} : model.propertyById? id = some p ↔ model.IsFirst id p := by
  unfold propertyById? IsFirst
  rw [List.find?_eq_some_iff_append]
  constructor
  · rintro ⟨same, before, after, split, others⟩
    refine ⟨before, after, split, by simpa using same, ?_⟩
    simpa using others
  · rintro ⟨before, after, split, same, others⟩
    refine ⟨by simpa using same, before, after, split, ?_⟩
    simpa using others

theorem EntityModel.IsFirst.unique {model : EntityModel} {id : PropertyId} {p q : Property}
    (first : model.IsFirst id p) (again : model.IsFirst id q) : p = q := by
  have resolved := propertyById?_eq_some_iff.mpr first
  rw [propertyById?_eq_some_iff.mpr again] at resolved
  exact (Option.some.inj resolved).symm

theorem EntityModel.IsFirst.not_absent {model : EntityModel} {id : PropertyId} {p : Property}
    (first : model.IsFirst id p) : ¬ ∀ q ∈ model.properties, q.id ≠ id := by
  obtain ⟨before, after, split, same, -⟩ := first
  intro absent
  exact absent p (by simp [split]) same

theorem EntityModel.propertyById?_eq_none_iff {model : EntityModel} {id : PropertyId} :
    model.propertyById? id = none ↔ ∀ p ∈ model.properties, p.id ≠ id := by
  simp [propertyById?]

namespace Engine

variable {e e' : Engine} {action : Action} {outcome : Outcome} {context : ContextHandle}
  {c : Condition}

def Clear (e : Engine) (op : EngineOp) : Prop := ∀ f ∈ e.faults, f.op ≠ op

def Rooted (e : Engine) : Prop :=
  ∀ context ctx, e.contexts.get? context = some ctx →
    ∃ model, e.entities.get? ctx.entity = some model

theorem Rooted.fresh : Rooted {} := by
  intro context ctx live
  contradiction

theorem Rooted.registered (rooted : e.Rooted) (model : EntityModel) :
    (e.register model).Rooted := by
  intro context ctx live
  obtain ⟨known, found⟩ := rooted context ctx live
  have entities : (e.register model).entities = e.entities.insert model.name model := rfl
  rw [entities, Table.get?_insert]
  split
  · exact ⟨model, rfl⟩
  · exact ⟨known, found⟩

theorem Rooted.move (rooted : e.Rooted) (move : Move e action outcome e') : e'.Rooted := by
  cases move with
  | registered => exact rooted.registered _
  | created free opened known =>
    intro h ctx live
    rw [Table.get?_insert] at live
    split at live
    · obtain rfl := Option.some.inj live
      exact Option.isSome_iff_exists.mp known
    · exact rooted h ctx live
  | added free valid =>
    intro h ctx live
    rw [Table.get?_modify] at live
    split at live
    · obtain ⟨before, found, rfl⟩ := Option.map_eq_some_iff.mp live
      exact rooted h before found
    · exact rooted h ctx live
  | destroyed found =>
    intro h ctx live
    rw [Table.get?_erase] at live
    split at live
    · contradiction
    · exact rooted h ctx live
  | _ => exact rooted

theorem Rooted.run (rooted : e.Rooted) (actions : List Action) : (e.run actions).2.Rooted := by
  induction actions generalizing e with
  | nil => exact rooted
  | cons action rest ih => exact ih (rooted.move (move_of_act e action))

theorem sessions_of_move (move : Move e action outcome e') :
    (∃ h, outcome = .session h ∧ e'.sessions = e.sessions.insert h ()) ∨
      (∀ h, outcome ≠ .session h) ∧ e'.sessions = e.sessions := by
  cases move with
  | sessionOpened => exact Or.inl ⟨_, rfl, rfl⟩
  | _ => exact Or.inr ⟨by simp, rfl⟩

theorem outcomes_concat (e : Engine) (actions : List Action) (action : Action) :
    (e.run (actions ++ [action])).1 = (e.run actions).1 ++ [((e.run actions).2.act action).1] := by
  rw [run_append]
  rfl

theorem opened_iff (actions : List Action) (session : SessionHandle) :
    (run {} actions).2.sessions.contains session = true ↔
      .session session ∈ (run {} actions).1 := by
  induction actions using List.reverseRecOn with
  | nil => simp [run]
  | append_singleton earlier action ih =>
    rw [run_concat, outcomes_concat, List.mem_append, List.mem_singleton, ← ih]
    rcases sessions_of_move (move_of_act (run {} earlier).2 action) with
      ⟨h, answered, inserted⟩ | ⟨other, same⟩
    · rw [answered, inserted, Table.contains_eq_isSome, Table.contains_eq_isSome,
        Table.get?_insert]
      split
      · simp_all
      · rename_i apart
        simp [Ne.symm apart]
    · rw [same]
      simp [(other session).symm]

theorem entities_of_register_or_not (move : Move e action outcome e') :
    (∃ model, action = .register model ∧ e'.entities = e.entities.insert model.name model) ∨
      (∀ model, action ≠ .register model) ∧ e'.entities = e.entities := by
  cases move with
  | @registered model => exact Or.inl ⟨model, rfl, rfl⟩
  | _ => exact Or.inr ⟨by simp, rfl⟩

theorem known_iff (actions : List Action) (name : String) :
    (run {} actions).2.entities.contains name = true ↔
      ∃ model, .register model ∈ actions ∧ model.name = name := by
  induction actions using List.reverseRecOn with
  | nil => simp [run]
  | append_singleton earlier action ih =>
    rw [run_concat]
    rcases entities_of_register_or_not (move_of_act (run {} earlier).2 action) with
      ⟨registered, rfl, inserted⟩ | ⟨other, same⟩
    · rw [inserted, Table.contains_eq_isSome, Table.get?_insert]
      split
      · rename_i here
        simp only [Option.isSome_some, true_iff]
        exact ⟨registered, by simp, here⟩
      · rename_i apart
        rw [← Table.contains_eq_isSome, ih]
        constructor
        · rintro ⟨model, member, named⟩
          exact ⟨model, List.mem_append_left _ member, named⟩
        · rintro ⟨model, member, named⟩
          rcases List.mem_append.mp member with earlier | last
          · exact ⟨model, earlier, named⟩
          · obtain rfl : model = registered := by simpa using last
            exact absurd named apart
    · rw [same, ih]
      constructor
      · rintro ⟨model, member, named⟩
        exact ⟨model, List.mem_append_left _ member, named⟩
      · rintro ⟨model, member, named⟩
        rcases List.mem_append.mp member with earlier | last
        · exact ⟨model, earlier, named⟩
        · exact absurd (List.mem_singleton.mp last).symm (other model)

theorem attempt_of_clear {α : Type} (call : EngineCall) (clear : e.Clear call.op)
    (answer : Engine → Except EngineError (α × Engine)) :
    e.attempt call answer = match answer (e.note call) with
      | .error error => (.error error, e.note call)
      | .ok (a, e') => (.ok a, e') := by
  have free : PendingFault.take? call.op (e.note call).faults = none :=
    PendingFault.take?_eq_none_iff.mpr clear
  cases answered : answer (e.note call) <;> simp [attempt, free, answered]

theorem perform_createContext_of_clear (clear : e.Clear .createContext) (session : SessionHandle)
    (entity : String) :
    e.perform (.createContext session entity) =
      if e.sessions.contains session = false then
        (.refused (.unknownSession session.raw), e.note (.createContext session entity))
      else if e.entities.contains entity = false then
        (.refused (.unknownEntity entity), e.note (.createContext session entity))
      else (.context (e.counter.peek .context), { e.note (.createContext session entity) with
        counter := e.counter.advance
        contexts := e.contexts.insert (e.counter.peek .context) ⟨entity, []⟩ }) := by
  have opened : (e.note (.createContext session entity)).sessions.contains session =
      e.sessions.contains session := rfl
  have known : (e.note (.createContext session entity)).entities.contains entity =
      e.entities.contains entity := rfl
  simp only [perform, createContext]
  rw [attempt_of_clear (.createContext session entity) clear, opened, known]
  cases e.sessions.contains session with
  | false => rfl
  | true => cases e.entities.contains entity <;> rfl

theorem perform_compile_of_clear (clear : e.Clear .compile) (context : ContextHandle) :
    e.perform (.compile context) = match e.contexts.get? context with
      | none => (.refused (.unknownContext context.raw), e.note (.compile context))
      | some ctx => (.query (e.counter.peek .query), { e.note (.compile context) with
        counter := e.counter.advance
        queries := e.queries.insert (e.counter.peek .query) ctx.conditions }) := by
  have found : (e.note (.compile context)).contexts.get? context = e.contexts.get? context := rfl
  simp only [perform, compile]
  rw [attempt_of_clear (.compile context) clear, found]
  cases e.contexts.get? context <;> rfl

theorem perform_condition_of_clear (clear : e.Clear c.op) (context : ContextHandle) :
    e.perform (.condition context c) = match e.validate context c with
      | .error error => (.refused error, e.note (.condition context c))
      | .ok _ => (.done, { e.note (.condition context c) with
        contexts := e.contexts.modify context fun ctx =>
          { ctx with conditions := ctx.conditions ++ [c] } }) := by
  have verdict : (e.note (.condition context c)).validate context c = e.validate context c := rfl
  simp only [perform, addCondition]
  rw [attempt_of_clear (.condition context c) clear, verdict]
  cases e.validate context c <;> rfl

section Judgement

variable {ctx : Context} {model : EntityModel} {p : Property} {found : ValueType}

/-- How a condition on a live context fares with the model of the entity, by the first thing that
is wrong with it. -/
inductive Judgement (ctx : Context) (model : EntityModel) (c : Condition) : Outcome → Prop where
  | unlisted (absent : ∀ p ∈ model.properties, p.id ≠ c.property) :
      Judgement ctx model c (.refused (.unknownProperty ctx.entity c.property))
  | mismatched {p : Property} {found : ValueType} (first : model.IsFirst c.property p)
      (operand : c.operandType? = some found) (other : found ≠ p.valueType) :
      Judgement ctx model c (.refused (.typeMismatch p.id p.valueType found))
  | fitting {p : Property} (first : model.IsFirst c.property p)
      (fits : ∀ found, c.operandType? = some found → found = p.valueType) :
      Judgement ctx model c .done

theorem validate_of_dead (dead : e.contexts.get? context = none) :
    e.validate context c = .error (.unknownContext context.raw) := by
  simp [validate, dead]

theorem judgement_of_perform (clear : e.Clear c.op) (live : e.contexts.get? context = some ctx)
    (known : e.entities.get? ctx.entity = some model) :
    Judgement ctx model c (e.perform (.condition context c)).1 := by
  rw [perform_condition_of_clear clear context]
  unfold validate
  simp only [live, known]
  cases resolved : model.propertyById? c.property with
  | none => exact .unlisted (EntityModel.propertyById?_eq_none_iff.mp resolved)
  | some p =>
    have first := EntityModel.propertyById?_eq_some_iff.mp resolved
    cases operand : c.operandType? with
    | none => exact .fitting first (by simp [operand])
    | some found =>
      by_cases same : found = p.valueType
      · simp only [same, ↓reduceIte]
        exact .fitting first (by simp [operand, same])
      · simp only [same, ↓reduceIte]
        exact .mismatched first operand same

namespace Judgement

variable (judged : Judgement ctx model c outcome)
include judged

theorem unlisted_iff (name : String) (id : PropertyId) :
    outcome = .refused (.unknownProperty name id) ↔
      (∀ p ∈ model.properties, p.id ≠ c.property) ∧ name = ctx.entity ∧ id = c.property := by
  cases judged with
  | unlisted absent => simpa [eq_comm] using fun _ _ => absent
  | mismatched first operand other => simp [first.not_absent]
  | fitting first fits => simp [first.not_absent]

theorem mismatched_iff (first : model.IsFirst c.property p) (id : PropertyId)
    (expected found : ValueType) :
    outcome = .refused (.typeMismatch id expected found) ↔
      c.operandType? = some found ∧ found ≠ p.valueType ∧ id = p.id ∧ expected = p.valueType := by
  cases judged with
  | unlisted absent => exact absurd absent first.not_absent
  | mismatched first' operand other =>
    obtain rfl := first.unique first'
    constructor
    · intro same
      cases same
      exact ⟨operand, other, rfl, rfl⟩
    · rintro ⟨operand', -, rfl, rfl⟩
      rw [Option.some.inj (operand.symm.trans operand')]
  | fitting first' fits =>
    obtain rfl := first.unique first'
    constructor
    · intro same
      contradiction
    · rintro ⟨operand, other, -⟩
      exact absurd (fits found operand) other

theorem done_iff (first : model.IsFirst c.property p) :
    outcome = .done ↔ ∀ found, c.operandType? = some found → found = p.valueType := by
  cases judged with
  | unlisted absent => exact absurd absent first.not_absent
  | mismatched first' operand other =>
    obtain rfl := first.unique first'
    constructor
    · intro same
      contradiction
    · intro fits
      exact absurd (fits _ operand) other
  | fitting first' fits =>
    obtain rfl := first.unique first'
    exact ⟨fun _ => fits, fun _ => rfl⟩

theorem entity_known (name : String) : outcome ≠ .refused (.unknownEntity name) := by
  cases judged <;> simp

theorem context_known (raw : UInt64) : outcome ≠ .refused (.unknownContext raw) := by
  cases judged <;> simp

end Judgement

end Judgement

/-- What becomes of a condition that no fault decides. An id that several properties have means the
first of them. -/
structure ConditionDecided (e : Engine) (context : ContextHandle) (c : Condition) : Prop where
  context_unknown : ∀ raw, (e.perform (.condition context c)).1 = .refused (.unknownContext raw) ↔
    e.contexts.get? context = none ∧ raw = context.raw
  entity_known : ∀ name, (e.perform (.condition context c)).1 ≠ .refused (.unknownEntity name)
  property_unknown : ∀ ctx model, e.contexts.get? context = some ctx →
    e.entities.get? ctx.entity = some model → ∀ name id,
      (e.perform (.condition context c)).1 = .refused (.unknownProperty name id) ↔
        (∀ p ∈ model.properties, p.id ≠ c.property) ∧ name = ctx.entity ∧ id = c.property
  mismatched : ∀ ctx model p, e.contexts.get? context = some ctx →
    e.entities.get? ctx.entity = some model → model.IsFirst c.property p → ∀ id expected found,
      (e.perform (.condition context c)).1 = .refused (.typeMismatch id expected found) ↔
        c.operandType? = some found ∧ found ≠ p.valueType ∧ id = p.id ∧ expected = p.valueType
  accepted : ∀ ctx model p, e.contexts.get? context = some ctx →
    e.entities.get? ctx.entity = some model → model.IsFirst c.property p →
      ((e.perform (.condition context c)).1 = .done ↔
        ∀ found, c.operandType? = some found → found = p.valueType)
  stored : (e.perform (.condition context c)).1 = .done →
    ∃ ctx, e.contexts.get? context = some ctx ∧
      ∀ h, (e.perform (.condition context c)).2.contexts.get? h =
        if context = h then some { ctx with conditions := ctx.conditions ++ [c] }
        else e.contexts.get? h

theorem condition_decided (rooted : e.Rooted) (clear : e.Clear c.op) (context : ContextHandle) :
    ConditionDecided e context c := by
  have answered := perform_condition_of_clear clear context
  cases live : e.contexts.get? context with
  | none =>
    rw [validate_of_dead live] at answered
    constructor <;> simp [answered, live, eq_comm]
  | some ctx =>
    obtain ⟨model, known⟩ := rooted context ctx live
    have judged := judgement_of_perform clear live known
    constructor
    case context_unknown => simp [judged.context_known, live]
    case entity_known => exact judged.entity_known
    case property_unknown =>
      intro ctx' model' live' known'
      exact (judgement_of_perform clear live' known').unlisted_iff
    case mismatched =>
      intro ctx' model' p live' known' first
      exact (judgement_of_perform clear live' known').mismatched_iff first
    case accepted =>
      intro ctx' model' p live' known' first
      exact (judgement_of_perform clear live' known').done_iff first
    case stored =>
      intro done
      refine ⟨ctx, live, ?_⟩
      intro h
      cases verdict : e.validate context c with
      | error error => simp [answered, verdict] at done
      | ok p =>
        simp only [answered, verdict, Table.get?_modify]
        split
        · rename_i same
          subst same
          rw [live]
          rfl
        · rfl

structure CreationDecided (e : Engine) (session : SessionHandle) (entity : String)
    (opened registered : Prop) : Prop where
  session_unknown : ∀ raw,
    (e.perform (.createContext session entity)).1 = .refused (.unknownSession raw) ↔
      ¬ opened ∧ raw = session.raw
  entity_unknown : ∀ name,
    (e.perform (.createContext session entity)).1 = .refused (.unknownEntity name) ↔
      opened ∧ ¬ registered ∧ name = entity
  created : opened → registered →
    (e.perform (.createContext session entity)).1 = .context (e.counter.peek .context) ∧
    ∀ h, (e.perform (.createContext session entity)).2.contexts.get? h =
      if e.counter.peek .context = h then some ⟨entity, []⟩ else e.contexts.get? h

theorem creation_decided (clear : e.Clear .createContext) (session : SessionHandle)
    (entity : String) : CreationDecided e session entity
      (e.sessions.contains session = true) (e.entities.contains entity = true) := by
  have answered := perform_createContext_of_clear clear session entity
  cases opened : e.sessions.contains session with
  | false =>
    rw [if_pos opened] at answered
    constructor <;> simp [answered, eq_comm (b := session.raw)]
  | true =>
    simp only [opened, Bool.true_eq_false, ↓reduceIte] at answered
    cases known : e.entities.contains entity with
    | false =>
      rw [if_pos known] at answered
      constructor <;> simp [answered, eq_comm (b := entity)]
    | true =>
      simp only [known, Bool.true_eq_false, ↓reduceIte] at answered
      constructor <;> simp [answered, Table.get?_insert]

structure CompilationDecided (e : Engine) (context : ContextHandle) : Prop where
  context_unknown : ∀ raw, (e.perform (.compile context)).1 = .refused (.unknownContext raw) ↔
    e.contexts.get? context = none ∧ raw = context.raw
  compiled : ∀ ctx, e.contexts.get? context = some ctx →
    (e.perform (.compile context)).1 = .query (e.counter.peek .query) ∧
    (e.perform (.compile context)).2.contexts = e.contexts ∧
    ∀ h, (e.perform (.compile context)).2.queries.get? h =
      if e.counter.peek .query = h then some ctx.conditions else e.queries.get? h

theorem compilation_decided (clear : e.Clear .compile) (context : ContextHandle) :
    CompilationDecided e context := by
  have answered := perform_compile_of_clear clear context
  cases live : e.contexts.get? context with
  | none =>
    rw [live] at answered
    constructor <;> simp [answered, live, eq_comm]
  | some ctx =>
    rw [live] at answered
    constructor
    · simp [answered, live]
    · intro ctx' live'
      obtain rfl := Option.some.inj (live.symm.trans live')
      refine ⟨by rw [answered], by rw [answered]; rfl, ?_⟩
      intro h
      rw [answered]
      exact Table.get?_insert ..

theorem calls_decided_exactly (actions : List Action) :
    let e := (run {} actions).2
    (∀ context ctx, e.contexts.get? context = some ctx →
      ∃ model, e.entities.get? ctx.entity = some model) ∧
    (∀ name model, e.entities.get? name = some model → model.name = name) ∧
    (∀ context c, e.Clear c.op → ConditionDecided e context c) ∧
    (∀ session entity, e.Clear .createContext → CreationDecided e session entity
      (.session session ∈ (run {} actions).1)
      (∃ model, .register model ∈ actions ∧ model.name = entity)) ∧
    ∀ context, e.Clear .compile → CompilationDecided e context := by
  intro e
  have rooted : e.Rooted := Rooted.fresh.run actions
  refine ⟨rooted, ?_, ?_, ?_, ?_⟩
  · intro name model known
    exact (registered_of_run known).2
  · intro context c clear
    exact condition_decided rooted clear context
  · intro session entity clear
    rw [← opened_iff, ← known_iff]
    exact creation_decided clear session entity
  · intro context clear
    exact compilation_decided clear context

/-- A model that lists an id twice is registered in place of another, and a fault waits for a kind
of condition that is not asked for. -/
def reregistered : List Action :=
  let first := HandleCounter.start
  [.register ⟨"Order", [⟨⟨1⟩, "total", .int64⟩]⟩, .openSession,
    .call (.createContext (first.peek .session) "Order"),
    .failNext .isNull (.rejected "later"),
    .register ⟨"Order", [⟨⟨1⟩, "note", .text⟩, ⟨⟨1⟩, "total", .int64⟩]⟩]

theorem reregistered_decided :
    let e := (run {} reregistered).2
    let total : Condition := ⟨⟨1⟩, .equalInt 5⟩
    let note : Condition := ⟨⟨1⟩, .equalText "paid"⟩
    e.Clear .equalInt ∧ e.Clear .equalText ∧
    (e.perform (.condition ⟨2, by decide⟩ total)).1 =
      .refused (.typeMismatch ⟨1⟩ .text .int64) ∧
    (e.perform (.condition ⟨2, by decide⟩ note)).1 = .done ∧
    (e.perform (.condition ⟨3, by decide⟩ note)).1 = .refused (.unknownContext 3) := by
  intro e total note
  have int_clear : e.Clear .equalInt := by
    unfold Clear
    decide +kernel
  have text_clear : e.Clear .equalText := by
    unfold Clear
    decide +kernel
  have live : e.contexts.get? ⟨2, by decide⟩ = some ⟨"Order", []⟩ := by decide +kernel
  have known : e.entities.get? "Order" =
      some ⟨"Order", [⟨⟨1⟩, "note", .text⟩, ⟨⟨1⟩, "total", .int64⟩]⟩ := by
    decide +kernel
  have first : EntityModel.IsFirst ⟨"Order", [⟨⟨1⟩, "note", .text⟩, ⟨⟨1⟩, "total", .int64⟩]⟩ ⟨1⟩
      ⟨⟨1⟩, "note", .text⟩ := ⟨[], _, rfl, rfl, by simp⟩
  obtain ⟨-, -, condition, -⟩ := calls_decided_exactly reregistered
  refine ⟨int_clear, text_clear, ?_, ?_, ?_⟩
  · have decided := condition ⟨2, by decide⟩ total int_clear
    apply (decided.mismatched _ _ _ live known first _ _ _).mpr
    decide
  · have decided := condition ⟨2, by decide⟩ note text_clear
    apply (decided.accepted _ _ _ live known first).mpr
    decide
  · have decided := condition ⟨3, by decide⟩ note text_clear
    apply (decided.context_unknown _).mpr
    decide +kernel

end Engine

end ObjectQuery
