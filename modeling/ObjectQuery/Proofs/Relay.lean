import ObjectQuery.Proofs.Ownership
import ObjectQuery.Proofs.History

/-!
What the engine refuses is refused to the client, once and under the right name. An operation of a
builder that gets as far as the engine puts one call to it that can fail; the operation is refused
exactly when that call is, and says for which entity and at which entry point. Nothing is assumed
of the workspace, so this holds in every state a run can reach.
-/
namespace ObjectQuery

/-- What is called next, however a call ends: a context is released once it has been compiled. -/
def EngineCall.sequel : EngineCall → List EngineCall
  | .compile context => [.destroyContext context]
  | _ => []

def Effect.isVerdict : Effect → Bool
  | noticed n => n.level = .warn
  | recorded _ (.engineRejected ..) | recorded _ (.builderOpened _)
  | recorded _ (.conditionAdded ..) | recorded _ (.queryCompiled _) => true
  | _ => false

def verdicts (effects : List Effect) : List Effect := effects.filter Effect.isVerdict

section Verdicts

@[simp] theorem verdicts_nil : verdicts [] = [] := rfl

@[simp] theorem verdicts_append (later earlier : List Effect) :
    verdicts (later ++ earlier) = verdicts later ++ verdicts earlier := by
  simp [verdicts]

@[simp] theorem verdicts_called (call : EngineCall) (outcome : Engine.Outcome)
    (earlier : List Effect) : verdicts (.called call outcome :: earlier) = verdicts earlier := rfl

theorem verdicts_recordings (s : Store) {e : Event}
    (verdict : (Effect.recorded s.sink e).isVerdict = true) :
    verdicts (s.recordings e) = s.recordings e := by
  unfold Store.recordings
  split
  · simp [verdicts, verdict]
  · rfl

variable (box : EntityBox)

@[simp] theorem verdicts_announcement (context : ContextHandle) (p : Property) (m : Method)
    (earlier : List Effect) :
    verdicts (box.announcement context p m :: earlier) = verdicts earlier := by
  cases debug : box.store.config.debug <;>
    simp [verdicts, EntityBox.announcement, Effect.isVerdict, Notice.level, debug]

@[simp] theorem verdicts_refusal (op : EngineOp) (error : EngineError) :
    verdicts (box.refusal op error) = box.refusal op error := by
  rw [EntityBox.refusal, verdicts_append, verdicts_recordings box.store rfl]
  rfl

@[simp] theorem verdicts_closing (context : ContextHandle) (onDrop : Bool) :
    verdicts (box.closing context onDrop) = [] := by
  unfold EntityBox.closing Store.recordings
  split <;> rfl

end Verdicts

namespace Workspace

/-- The call that can fail which an operation puts to the engine, with the box it is made for. An
operation that ends before that makes none: the model of the box may not be had, or the builder be
closed. -/
def request? (w : Workspace) : Operation → Option (EntityBox × EngineCall)
  | .openBuilder id => w.boxes[id]?.bind fun box => match (w.properties box).1 with
    | .ok _ => some (box, .createContext box.store.session box.entity)
    | .error _ => none
  | .condition id p m => w.builders[id]?.bind fun b => b.handle.map fun context =>
    (b.box, .condition context ⟨p.id, m.test⟩)
  | .build id => w.builders[id]?.bind fun b => b.handle.map fun context =>
    (b.box, .compile context)
  | _ => none

/-- What a refused operation leaves: no builder where one was to be opened, the builder as it was
where a condition was to be added, and a closed one, its context released, where it was to be
built. -/
def RefusalLeaves (w w' : Workspace) (box : EntityBox) : Operation → Prop
  | .openBuilder _ => w'.builders = w.builders ∧ w'.queries = w.queries ∧
      w'.engine.contexts = w.engine.contexts ∧ w'.engine.counter = w.engine.counter
  | .condition _ _ _ => w'.builders = w.builders ∧ w'.queries = w.queries ∧
      w'.engine.contexts = w.engine.contexts
  | .build id => w'.builders = w.builders.set id ⟨box, none⟩ ∧ w'.queries = w.queries ∧
      ∀ context, w.ledger.contextOf? id = some context → w'.engine.contexts.get? context = none
  | _ => False

structure Relayed (w : Workspace) (o : Operation) (box : EntityBox) (call : EngineCall) :
    Prop where
  refused_iff : ∀ refusal, (w.step o).1 = .refused refusal ↔
    ∃ error, (w.engine.perform call).1 = .refused error ∧
      refusal = .engineRejected box.entity call.op error
  engine : (w.step o).2.engine = ((w.engine.perform call).2.run (call.sequel.map .call)).2
  written : ∃ new, (w.step o).2.history = new ++ w.history ∧
    callsIn new = (call, (w.engine.perform call).1) :: call.sequel.map (·, .done) ∧
    ∀ error, (w.engine.perform call).1 = .refused error →
      verdicts new = box.store.recordings (.engineRejected box.entity call.op) ++
        [.noticed (.engineRejected box.entity call.op error.message)]
  leaves : ∀ error, (w.engine.perform call).1 = .refused error →
    w.RefusalLeaves (w.step o).2 box o

namespace Relayed

variable {w w' : Workspace} {o : Operation} {box : EntityBox} {call : EngineCall} {e : Engine}

theorem of_refused {error : EngineError} (performed : w.engine.perform call = (.refused error, e))
    (ended : w.step o = (.refused (.engineRejected box.entity call.op error), w'))
    (engine : w'.engine = (e.run (call.sequel.map .call)).2)
    (written : ∃ new, w'.history = new ++ w.history ∧
      callsIn new = (call, .refused error) :: call.sequel.map (·, .done) ∧
      verdicts new = box.refusal call.op error)
    (leaves : w.RefusalLeaves w' box o) : Relayed w o box call where
  refused_iff refusal := by
    rw [ended, performed]
    constructor
    · intro answer
      exact ⟨error, rfl, (Answer.refused.inj answer).symm⟩
    · rintro ⟨same, outcome, rfl⟩
      rw [Engine.Outcome.refused.inj outcome]
  engine := by
    rw [ended, performed]
    exact engine
  written := by
    obtain ⟨new, history, calls, verdict⟩ := written
    rw [ended, performed]
    refine ⟨new, history, calls, ?_⟩
    intro same outcome
    rw [← Engine.Outcome.refused.inj outcome]
    exact verdict
  leaves same outcome := by
    rw [ended]
    exact leaves

theorem of_accepted {outcome : Engine.Outcome} {a : Answer}
    (performed : w.engine.perform call = (outcome, e)) (ended : w.step o = (a, w'))
    (accepted : ∀ error, outcome ≠ .refused error) (answered : ∀ refusal, a ≠ .refused refusal)
    (engine : w'.engine = (e.run (call.sequel.map .call)).2)
    (written : ∃ new, w'.history = new ++ w.history ∧
      callsIn new = (call, outcome) :: call.sequel.map (·, .done)) : Relayed w o box call where
  refused_iff refusal := by
    rw [ended, performed]
    constructor
    · intro answer
      exact absurd answer (answered refusal)
    · rintro ⟨error, refused, -⟩
      exact absurd refused (accepted error)
  engine := by
    rw [ended, performed]
    exact engine
  written := by
    obtain ⟨new, history, calls⟩ := written
    rw [ended, performed]
    exact ⟨new, history, calls, fun error refused => absurd refused (accepted error)⟩
  leaves error refused := by
    rw [performed] at refused
    exact absurd refused (accepted error)

end Relayed

variable {w : Workspace} {id : Nat} {box : EntityBox} {context : ContextHandle}

theorem relayed_openBuilder {model : EntityModel} (found : w.boxes[id]? = some box)
    (resolution : (w.properties box).1 = .ok model) :
    Relayed w (.openBuilder id) box (.createContext box.store.session box.entity) := by
  obtain ⟨metadata, cells, effects, leaves, noticed⟩ := properties_leaves (w := w) box
  have resolved : w.properties box =
      (.ok model, { w with metadata, cells, history := effects ++ w.history }) :=
    Prod.ext resolution leaves
  have uncalled : callsIn effects = [] := by
    apply callsIn_minor
    intro e member
    obtain ⟨n, rfl⟩ := noticed e member
    rfl
  have unjudged : verdicts effects = [] := by
    apply List.filter_eq_nil_iff.mpr
    intro e member
    obtain ⟨n, rfl⟩ := noticed e member
    simp [Effect.isVerdict, Notice.level]
  rcases ended : w.engine.createContext box.store.session box.entity with ⟨r, engine⟩
  have performed := Engine.perform_createContext ended
  cases r with
  | error error =>
    have stepped := (step_openBuilder found).trans (stepOpenBuilder_refused resolved ended)
    refine .of_refused performed stepped rfl ?_ ?_
    · refine ⟨box.refusal .createContext error ++
        .called (.createContext box.store.session box.entity) (.refused error) :: effects,
        ?_, ?_, ?_⟩
      · simp
      · simp [uncalled, EngineCall.sequel]
      · simp [unjudged, EngineCall.op]
    · obtain ⟨left, rfl, -⟩ := Engine.createContext_error ended
      exact ⟨rfl, rfl, rfl, rfl⟩
  | ok context =>
    have stepped := (step_openBuilder found).trans (stepOpenBuilder_ok resolved ended)
    refine .of_accepted performed stepped (by simp [Engine.Outcome.ofExcept]) (by simp) rfl ?_
    refine ⟨box.opening context ++
      .called (.createContext box.store.session box.entity) (.context context) :: effects, ?_, ?_⟩
    · simp
    · simp [uncalled, EngineCall.sequel, Engine.Outcome.ofExcept]

theorem relayed_condition (found : w.builders[id]? = some ⟨box, some context⟩) (p : Property)
    (m : Method) : Relayed w (.condition id p m) box (.condition context ⟨p.id, m.test⟩) := by
  -- the refusal bears the entry point of the method, the engine is called at that of the test
  have label : (EngineCall.condition context ⟨p.id, m.test⟩).op = m.op := m.op_test
  rcases ended : w.engine.addCondition context ⟨p.id, m.test⟩ with ⟨r, engine⟩
  have performed := Engine.perform_condition ended
  have stepped := step_condition found p m
  cases r with
  | error error =>
    rw [apply_refused ended, ← label] at stepped
    refine .of_refused performed stepped rfl ?_ ?_
    · refine ⟨box.refusal m.op error ++ [.called (.condition context ⟨p.id, m.test⟩)
        (.refused error), box.announcement context p m], ?_, ?_, ?_⟩
      · simp [label]
      · simp [EngineCall.sequel]
      · simp [label]
    · obtain ⟨left, rfl, -⟩ := Engine.addCondition_error ended
      exact ⟨rfl, rfl, rfl⟩
  | ok done =>
    rw [apply_ok ended] at stepped
    refine .of_accepted performed stepped (by simp [Engine.Outcome.ofExcept])
      (by simp [answerWith]) rfl ?_
    refine ⟨box.store.recordings (.conditionAdded box.entity m.op) ++
      [.noticed (.conditionStored context m.op),
        .called (.condition context ⟨p.id, m.test⟩) .done, box.announcement context p m], ?_, ?_⟩
    · simp
    · simp [EngineCall.sequel, Engine.Outcome.ofExcept]

theorem relayed_build (found : w.builders[id]? = some ⟨box, some context⟩) :
    Relayed w (.build id) box (.compile context) := by
  rcases ended : w.engine.compile context with ⟨r, engine⟩
  have performed := Engine.perform_compile ended
  cases r with
  | error error =>
    have stepped := (step_build found).trans (stepBuild_refused ended)
    refine .of_refused performed stepped rfl ?_ ⟨rfl, rfl, ?_⟩
    · refine ⟨box.refusal .compile error ++
        (box.closing context false ++ [.called (.compile context) (.refused error)]), ?_, ?_, ?_⟩
      · simp
      · simp [EngineCall.sequel]
      · simp [EngineCall.op]
    · intro held place
      have same : context = held :=
        Option.some.inj ((Ledger.contextOf?_of_found found).symm.trans place)
      simp [Engine.get?_contexts_destroyContext, same]
  | ok query =>
    have stepped := (step_build found).trans (stepBuild_ok ended)
    refine .of_accepted performed stepped (by simp [Engine.Outcome.ofExcept]) (by simp) rfl ?_
    refine ⟨box.closing context false ++ (box.compiling query ++
      [.called (.compile context) (.query query)]), ?_, ?_⟩
    · simp
    · simp [EngineCall.sequel, Engine.Outcome.ofExcept]

theorem engine_failures_are_relayed {w : Workspace} {o : Operation} {box : EntityBox}
    {call : EngineCall} (reaches : w.request? o = some (box, call)) : Relayed w o box call := by
  cases o with
  | openBuilder id =>
    obtain ⟨box', found, reached⟩ := Option.bind_eq_some_iff.mp reaches
    split at reached
    · rename_i model resolution
      obtain ⟨rfl, rfl⟩ := Prod.mk.inj (Option.some.inj reached)
      exact relayed_openBuilder found resolution
    · contradiction
  | condition id p m =>
    obtain ⟨⟨box', handle⟩, found, reached⟩ := Option.bind_eq_some_iff.mp reaches
    obtain ⟨context, rfl, same⟩ := Option.map_eq_some_iff.mp reached
    obtain ⟨rfl, rfl⟩ := Prod.mk.inj same
    exact relayed_condition found p m
  | build id =>
    obtain ⟨⟨box', handle⟩, found, reached⟩ := Option.bind_eq_some_iff.mp reaches
    obtain ⟨context, rfl, same⟩ := Option.map_eq_some_iff.mp reached
    obtain ⟨rfl, rfl⟩ := Prod.mk.inj same
    exact relayed_build found
  | _ => contradiction

theorem sampleRun_build_refusal_is_relayed :
    let w := after (sampleRun.take 11)
    let box : EntityBox := ⟨{ session := ⟨1, by decide⟩ }, "Order", 0⟩
    w.request? (.build 0) = some (box, .compile ⟨2, by decide⟩) ∧
    (w.step (.build 0)).1 = .refused (.engineRejected "Order" .compile (.unknownContext 9)) ∧
    (w.step (.build 0)).2.builders = w.builders.set 0 ⟨box, none⟩ ∧
    (w.step (.build 0)).2.engine.contexts.get? ⟨2, by decide⟩ = none := by
  intro w box
  have reaches : w.request? (.build 0) = some (box, .compile ⟨2, by decide⟩) := by decide +kernel
  have refused : (w.engine.perform (.compile ⟨2, by decide⟩)).1 =
      .refused (.unknownContext 9) := by decide +kernel
  have relayed := engine_failures_are_relayed reaches
  obtain ⟨builders, -, released⟩ := relayed.leaves _ refused
  exact ⟨reaches, (relayed.refused_iff _).mpr ⟨_, refused, rfl⟩, builders,
    released _ (by decide +kernel)⟩

end Workspace

end ObjectQuery
