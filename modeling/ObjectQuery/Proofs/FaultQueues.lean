import ObjectQuery.Proofs.Atomicity
import ObjectQuery.Proofs.Releases

/-!
One line of pending faults serves every entry point. Since a call searches it for the first fault
of its own entry point, the line is as good as a queue for each: an engine that keeps such queues
answers every run alike and is left with the same faults.
-/
namespace ObjectQuery

open Engine

namespace PendingFault

def queue (op : EngineOp) (faults : List PendingFault) : List EngineError :=
  (faults.filter (·.op = op)).map error

variable {op other : EngineOp} {error : EngineError} {later : List EngineError}
  {faults : List PendingFault}

theorem queue_append (op : EngineOp) (faults more : List PendingFault) :
    queue op (faults ++ more) = queue op faults ++ queue op more := by
  simp [queue]

theorem queue_of_ne {f : PendingFault} (foreign : f.op ≠ op) :
    queue op (f :: faults) = queue op faults := by
  simp [queue, foreign]

theorem queue_of_eq {f : PendingFault} (own : f.op = op) :
    queue op (f :: faults) = f.error :: queue op faults := by
  simp [queue, own]

theorem queue_eq_nil_iff : queue op faults = [] ↔ ∀ f ∈ faults, f.op ≠ op := by
  simp [queue]

theorem take?_of_queue_nil (empty : queue op faults = []) : take? op faults = none :=
  take?_eq_none_iff.mpr (queue_eq_nil_iff.mp empty)

theorem take?_of_queue_cons (waiting : queue op faults = error :: later) :
    take? op faults = some (error, faults.eraseP (·.op = op)) := by
  induction faults with
  | nil => contradiction
  | cons f rest ih =>
    by_cases own : f.op = op
    · rw [queue_of_eq own, List.cons.injEq] at waiting
      obtain ⟨rfl, -⟩ := waiting
      simp [take?, own]
    · rw [queue_of_ne own] at waiting
      simp [take?, own, ih waiting]

theorem queue_eraseP_self (op : EngineOp) (faults : List PendingFault) :
    queue op (faults.eraseP (·.op = op)) = (queue op faults).tail := by
  induction faults with
  | nil => rfl
  | cons f rest ih =>
    by_cases own : f.op = op
    · simp [queue_of_eq, own]
    · simp [queue_of_ne, own, ih]

theorem queue_eraseP_of_ne (foreign : op ≠ other) (faults : List PendingFault) :
    queue other (faults.eraseP (·.op = op)) = queue other faults := by
  induction faults with
  | nil => rfl
  | cons f rest ih =>
    by_cases own : f.op = op
    · have skipped : f.op ≠ other := own ▸ foreign
      simp [queue_of_ne skipped, own]
    · by_cases theirs : f.op = other
      · simp [queue_of_eq theirs, own, ih]
      · simp [queue_of_ne theirs, own, ih]

theorem eraseP_of_queue_nil (empty : queue op faults = []) :
    faults.eraseP (·.op = op) = faults := by
  apply List.eraseP_of_forall_not
  simpa using queue_eq_nil_iff.mp empty

end PendingFault

open PendingFault

theorem EngineOp.isFallible_eq_false_iff {op : EngineOp} :
    op.isFallible = false ↔ op = .destroyContext ∨ op = .destroyQuery := by
  cases op <;> decide

/-- An engine whose own line stays empty, and beside it the errors that wait for each entry
point. -/
structure QueuedEngine where
  engine : Engine
  queues : EngineOp → List EngineError

namespace QueuedEngine

def start : QueuedEngine := ⟨{}, fun _ => []⟩

def setQueue (q : QueuedEngine) (op : EngineOp) (errors : List EngineError) : QueuedEngine :=
  { q with queues := fun other => if other = op then errors else q.queues other }

def act (q : QueuedEngine) : Action → Outcome × QueuedEngine
  | .failNext op error =>
    if op.isFallible then (.done, q.setQueue op (q.queues op ++ [error]))
    else (.refused (.rejected s!"{op.label} cannot be made to fail"), q)
  | .call call => match q.queues call.op with
    | error :: later =>
      (.refused error, { q with engine := q.engine.note call }.setQueue call.op later)
    | [] => ((q.engine.perform call).1, { q with engine := (q.engine.perform call).2 })
  | action => ((q.engine.act action).1, { q with engine := (q.engine.act action).2 })

def run (q : QueuedEngine) : List Action → List Outcome × QueuedEngine
  | [] => ([], q)
  | action :: rest =>
    let (outcome, q) := q.act action
    let (outcomes, q) := run q rest
    (outcome :: outcomes, q)

variable {q : QueuedEngine} {call : EngineCall} {error : EngineError} {later : List EngineError}

theorem act_of_waiting (waiting : q.queues call.op = error :: later) :
    q.act (.call call) =
      (.refused error, { q with engine := q.engine.note call }.setQueue call.op later) := by
  simp [act, waiting]

theorem act_of_idle (idle : q.queues call.op = []) :
    q.act (.call call) =
      ((q.engine.perform call).1, { q with engine := (q.engine.perform call).2 }) := by
  simp [act, idle]

end QueuedEngine

namespace Engine

def withFaults (e : Engine) (faults : List PendingFault) : Engine := { e with faults }

def queued (e : Engine) : QueuedEngine := ⟨e.withFaults [], fun op => queue op e.faults⟩

def FaultsFit (e : Engine) : Prop := ∀ f ∈ e.faults, f.op.isFallible = true

variable {e : Engine} {op : EngineOp} {call : EngineCall} {error : EngineError}
  {later : List EngineError} {action : Action} {actions : List Action}

theorem attempt_withFaults {α : Type} {answer : Engine → Except EngineError (α × Engine)}
    (blind : ∀ e faults, answer (e.withFaults faults) =
      (answer e).map fun r => (r.1, r.2.withFaults faults))
    (free : take? call.op e.faults = none) :
    (e.withFaults []).attempt call answer =
      ((e.attempt call answer).1, (e.attempt call answer).2.withFaults []) := by
  have noted : (e.withFaults []).note call = (e.note call).withFaults [] := rfl
  have line : (e.note call).faults = e.faults := rfl
  have emptied : ((e.note call).withFaults []).faults = [] := rfl
  unfold attempt
  dsimp only
  rw [noted, blind, line, free, emptied]
  unfold take?
  cases answer (e.note call) <;> rfl

theorem createContext_withFaults {session : SessionHandle} {entity : String}
    (free : take? .createContext e.faults = none) :
    (e.withFaults []).createContext session entity =
      ((e.createContext session entity).1,
        (e.createContext session entity).2.withFaults []) := by
  apply attempt_withFaults
  · intro e faults
    have opened : (e.withFaults faults).sessions.contains session =
        e.sessions.contains session := rfl
    have known : (e.withFaults faults).entities.contains entity =
        e.entities.contains entity := rfl
    rw [opened, known]
    cases e.sessions.contains session with
    | false => rfl
    | true => cases e.entities.contains entity <;> rfl
  · exact free

theorem addCondition_withFaults {context : ContextHandle} {c : Condition}
    (free : take? c.op e.faults = none) :
    (e.withFaults []).addCondition context c =
      ((e.addCondition context c).1, (e.addCondition context c).2.withFaults []) := by
  apply attempt_withFaults
  · intro e faults
    have verdict : (e.withFaults faults).validate context c = e.validate context c := rfl
    rw [verdict]
    cases e.validate context c <;> rfl
  · exact free

theorem compile_withFaults {context : ContextHandle} (free : take? .compile e.faults = none) :
    (e.withFaults []).compile context =
      ((e.compile context).1, (e.compile context).2.withFaults []) := by
  apply attempt_withFaults
  · intro e faults
    have found : (e.withFaults faults).contexts.get? context = e.contexts.get? context := rfl
    rw [found]
    cases e.contexts.get? context <;> rfl
  · exact free

theorem destroyContext_withFaults (context : ContextHandle) :
    (e.withFaults []).destroyContext context = (e.destroyContext context).withFaults [] := by
  cases live : e.contexts.get? context with
  | none =>
    rw [destroyContext_dead live, destroyContext_dead (e := e.withFaults []) live]
    rfl
  | some ctx =>
    have live : (e.contexts.get? context).isSome := by simp [live]
    rw [destroyContext_live live, destroyContext_live (e := e.withFaults []) live]
    rfl

theorem destroyQuery_withFaults (query : QueryHandle) :
    (e.withFaults []).destroyQuery query = (e.destroyQuery query).withFaults [] := by
  cases live : e.queries.get? query with
  | none =>
    rw [destroyQuery_dead live, destroyQuery_dead (e := e.withFaults []) live]
    rfl
  | some conditions =>
    have live : (e.queries.get? query).isSome := by simp [live]
    rw [destroyQuery_live live, destroyQuery_live (e := e.withFaults []) live]
    rfl

theorem perform_withFaults (free : take? call.op e.faults = none) :
    (e.withFaults []).perform call =
      ((e.perform call).1, (e.perform call).2.withFaults []) := by
  cases call with
  | createContext session entity => simp only [perform, createContext_withFaults free]
  | condition context c => simp only [perform, addCondition_withFaults free]
  | compile context => simp only [perform, compile_withFaults free]
  | destroyContext context => simp only [perform, destroyContext_withFaults]
  | destroyQuery query => simp only [perform, destroyQuery_withFaults]

theorem faults_perform_of_free (free : take? call.op e.faults = none) :
    (e.perform call).2.faults = e.faults := by
  have move := move_of_act e (.call call)
  unfold act at move
  generalize (e.perform call).1 = outcome at move
  generalize (e.perform call).2 = e' at move ⊢
  cases move with
  | refused cause =>
    cases cause with
    | fault taken => simp [free] at taken
    | own _ => rfl
  | _ => rfl

theorem attempt_of_fault {α : Type} {left : List PendingFault}
    (taken : take? call.op e.faults = some (error, left))
    (answer : Engine → Except EngineError (α × Engine)) :
    e.attempt call answer = (.error error, { e.note call with faults := left }) := by
  have line : (e.note call).faults = e.faults := rfl
  unfold attempt
  dsimp only
  rw [line, taken]

theorem FaultsFit.not_waiting (fit : e.FaultsFit) (infallible : op.isFallible = false) :
    queue op e.faults = [] := by
  apply queue_eq_nil_iff.mpr
  intro f pending same
  have fallible := fit f pending
  rw [same, infallible] at fallible
  contradiction

/-- The head of the queue decides the call, whatever else is wrong with it. -/
theorem perform_of_waiting (fit : e.FaultsFit) (waiting : queue call.op e.faults = error :: later) :
    e.perform call =
      (.refused error, (e.note call).withFaults (e.faults.eraseP (·.op = call.op))) := by
  have taken := take?_of_queue_cons waiting
  cases call with
  | createContext session entity => exact perform_createContext (attempt_of_fault taken _)
  | condition context c => exact perform_condition (attempt_of_fault taken _)
  | compile context => exact perform_compile (attempt_of_fault taken _)
  | destroyContext context =>
    have empty : queue .destroyContext e.faults = [] := fit.not_waiting rfl
    rw [EngineCall.op, empty] at waiting
    contradiction
  | destroyQuery query =>
    have empty : queue .destroyQuery e.faults = [] := fit.not_waiting rfl
    rw [EngineCall.op, empty] at waiting
    contradiction

theorem faults_perform (fit : e.FaultsFit) (call : EngineCall) :
    (e.perform call).2.faults = e.faults.eraseP (·.op = call.op) := by
  cases waiting : queue call.op e.faults with
  | nil => rw [faults_perform_of_free (take?_of_queue_nil waiting), eraseP_of_queue_nil waiting]
  | cons error later =>
    rw [perform_of_waiting fit waiting]
    rfl

theorem FaultsFit.act (fit : e.FaultsFit) (action : Action) : (e.act action).2.FaultsFit := by
  cases action with
  | failNext op error =>
    cases fallible : op.isFallible with
    | true =>
      rw [act_failNext_fallible fallible]
      intro f pending
      rcases List.mem_append.mp pending with before | new
      · exact fit f before
      · rw [List.mem_singleton.mp new]
        exact fallible
    | false =>
      rw [act_failNext_infallible fallible]
      exact fit
  | call call =>
    intro f pending
    rw [Engine.act, faults_perform fit] at pending
    exact fit f (List.mem_of_mem_eraseP pending)
  | _ => exact fit

theorem queued_of_failNext (fallible : op.isFallible = true) :
    ({ e with faults := e.faults ++ [⟨op, error⟩] } : Engine).queued =
      e.queued.setQueue op (queue op e.faults ++ [error]) := by
  simp only [queued, QueuedEngine.setQueue, QueuedEngine.mk.injEq]
  constructor
  · rfl
  · funext other
    rw [queue_append]
    by_cases own : other = op
    · subst own
      simp [queue]
    · simp [queue, own, Ne.symm own]

theorem queued_of_waiting (waiting : queue op e.faults = error :: later) :
    ((e.note call).withFaults (e.faults.eraseP (·.op = op))).queued =
      { e.queued with engine := (e.withFaults []).note call }.setQueue op later := by
  simp only [queued, QueuedEngine.setQueue, QueuedEngine.mk.injEq]
  constructor
  · rfl
  · funext other
    by_cases own : other = op
    · subst own
      simp [withFaults, queue_eraseP_self, waiting]
    · simp [withFaults, queue_eraseP_of_ne (Ne.symm own), own]

theorem queued_act (fit : e.FaultsFit) (action : Action) :
    e.queued.act action = ((e.act action).1, (e.act action).2.queued) := by
  cases action with
  | failNext op error =>
    cases fallible : op.isFallible with
    | true =>
      rw [act_failNext_fallible fallible, queued_of_failNext fallible]
      simp [QueuedEngine.act, fallible, queued]
    | false =>
      rw [act_failNext_infallible fallible]
      simp [QueuedEngine.act, fallible]
  | call call =>
    cases waiting : queue call.op e.faults with
    | cons error later =>
      rw [QueuedEngine.act_of_waiting waiting, Engine.act, perform_of_waiting fit waiting,
        queued_of_waiting waiting]
      rfl
    | nil =>
      have free := take?_of_queue_nil waiting
      rw [QueuedEngine.act_of_idle waiting, Engine.act]
      simp only [queued, perform_withFaults free, faults_perform_of_free free]
  | _ => rfl

theorem FaultsFit.run (fit : e.FaultsFit) (actions : List Action) :
    (e.run actions).2.FaultsFit := by
  induction actions generalizing e with
  | nil => exact fit
  | cons action rest ih => exact ih (fit.act action)

theorem queued_run (fit : e.FaultsFit) (actions : List Action) :
    e.queued.run actions = ((e.run actions).1, (e.run actions).2.queued) := by
  induction actions generalizing e with
  | nil => rfl
  | cons action rest ih =>
    have tail := ih (fit.act action)
    simp only [QueuedEngine.run, Engine.run, queued_act fit, tail]

def acceptedFault (op : EngineOp) : Action × Outcome → Option EngineError
  | (.failNext op' error, .done) => if op' = op then some error else none
  | _ => none

/-- The error that a call of this entry point is answered with while a fault waits for it. -/
def spentFault (op : EngineOp) : Engine × Action → Option EngineError
  | (e, .call call) =>
    if call.op = op ∧ ∃ f ∈ e.faults, f.op = op then
      match (e.perform call).1 with
      | .refused error => some error
      | _ => none
    else none
  | _ => none

theorem spentFault_call (fit : e.FaultsFit) (call : EngineCall) :
    spentFault call.op (e, .call call) = (queue call.op e.faults).head? := by
  cases waiting : queue call.op e.faults with
  | nil =>
    have absent : ¬ ∃ f ∈ e.faults, f.op = call.op := by
      simpa using queue_eq_nil_iff.mp waiting
    simp [spentFault, absent]
  | cons error later =>
    have pending : ∃ f ∈ e.faults, f.op = call.op :=
      isSome_take?_iff.mp (by simp [take?_of_queue_cons waiting])
    simp only [spentFault, pending, and_self, ↓reduceIte, perform_of_waiting fit waiting,
      List.head?_cons]

/-- One action adds to the end of a queue what it accepts and takes from its head what it spends. -/
theorem queue_act (fit : e.FaultsFit) (op : EngineOp) (action : Action) :
    queue op e.faults ++ (acceptedFault op (action, (e.act action).1)).toList =
      (spentFault op (e, action)).toList ++ queue op (e.act action).2.faults := by
  cases action with
  | failNext op' error =>
    cases fallible : op'.isFallible with
    | true =>
      rw [act_failNext_fallible fallible, queue_append]
      by_cases own : op' = op
      · simp [acceptedFault, spentFault, queue, own]
      · simp [acceptedFault, spentFault, queue, own]
    | false =>
      rw [act_failNext_infallible fallible]
      simp [acceptedFault, spentFault]
  | call call =>
    have accepted : acceptedFault op (.call call, (e.act (.call call)).1) = none := rfl
    have left : (e.act (.call call)).2.faults = e.faults.eraseP (·.op = call.op) :=
      faults_perform fit call
    rw [accepted, left, Option.toList_none, List.append_nil]
    by_cases own : call.op = op
    · subst own
      rw [spentFault_call fit, queue_eraseP_self]
      cases queue call.op e.faults <;> rfl
    · rw [queue_eraseP_of_ne own]
      simp [spentFault, own]
  | _ => simp [acceptedFault, spentFault, Engine.act, register, openSession]

theorem filterMap_cons_toList {α β : Type} (f : α → Option β) (a : α) (l : List α) :
    (a :: l).filterMap f = (f a).toList ++ l.filterMap f := by
  rw [List.filterMap_cons]
  cases f a <;> rfl

theorem queue_run (fit : e.FaultsFit) (op : EngineOp) (actions : List Action) :
    queue op e.faults ++ (e.chronicle actions).filterMap (acceptedFault op) =
      (e.stages actions).filterMap (spentFault op) ++ queue op (e.run actions).2.faults := by
  induction actions generalizing e with
  | nil => simp [chronicle, stages, run]
  | cons action rest ih =>
    rw [chronicle_cons, stages, filterMap_cons_toList, filterMap_cons_toList, ← List.append_assoc,
      queue_act fit, List.append_assoc, ih (fit.act action), ← List.append_assoc]
    rfl

theorem FaultsFit.fresh : FaultsFit {} := by
  intro f pending
  contradiction

theorem act_of_infallible (fit : e.FaultsFit) (infallible : call.op.isFallible = false) :
    e.act (.call call) =
      (.done, ((e.withFaults []).act (.call call)).2.withFaults e.faults) := by
  have free := take?_of_queue_nil (fit.not_waiting infallible)
  have answered : (e.perform call).1 = .done := by
    cases call with
    | createContext session entity => contradiction
    | condition context c =>
      have fallible := c.test.isCondition_op
      simp [EngineCall.op, EngineOp.isFallible, Condition.op, fallible] at infallible
    | compile context => contradiction
    | destroyContext context => rfl
    | destroyQuery query => rfl
  have kept := faults_perform_of_free free
  rw [act, act, perform_withFaults free, ← answered, ← kept]
  rfl

theorem faults_queue_per_entry_point (actions : List Action) :
    let e := (run {} actions).2
    QueuedEngine.start.run actions = ((run {} actions).1, e.queued) ∧
    (∀ call error later, queue call.op e.faults = error :: later →
      e.act (.call call) =
        (.refused error, { e.note call with faults := e.faults.eraseP (·.op = call.op) })) ∧
    (∀ call, (e.act (.call call)).2.faults = e.faults.eraseP (·.op = call.op)) ∧
    (∀ op, (chronicle {} actions).filterMap (acceptedFault op) =
      (stages {} actions).filterMap (spentFault op) ++ queue op e.faults) ∧
    (∀ op error, e.act (.failNext op error) =
      if op = .destroyContext ∨ op = .destroyQuery then
        (.refused (.rejected (op.label ++ " cannot be made to fail")), e)
      else (.done, { e with faults := e.faults ++ [⟨op, error⟩] })) ∧
    (∀ f ∈ e.faults, f.op ≠ .destroyContext ∧ f.op ≠ .destroyQuery) ∧
    ∀ call, call.op = .destroyContext ∨ call.op = .destroyQuery →
      e.act (.call call) =
        (.done, ((e.withFaults []).act (.call call)).2.withFaults e.faults) := by
  intro e
  have fit : e.FaultsFit := FaultsFit.fresh.run actions
  refine ⟨?refines, ?waiting, ?line, ?accounts, ?lining, ?fitting, ?releases⟩
  case refines => exact queued_run .fresh actions
  case waiting =>
    intro call error later waiting
    exact perform_of_waiting fit waiting
  case line => exact faults_perform fit
  case accounts =>
    intro op
    exact queue_run .fresh op actions
  case lining =>
    intro op error
    split
    · rename_i destroys
      have infallible := EngineOp.isFallible_eq_false_iff.mpr destroys
      rw [act_failNext_infallible infallible]
      rfl
    · rename_i other
      have fallible : op.isFallible = true := by
        rw [← Bool.not_eq_false]
        exact mt EngineOp.isFallible_eq_false_iff.mp other
      exact act_failNext_fallible fallible
  case fitting =>
    intro f pending
    have fallible := fit f pending
    constructor
    · intro same
      rw [same] at fallible
      contradiction
    · intro same
      rw [same] at fallible
      contradiction
  case releases =>
    intro call destroys
    exact act_of_infallible fit (EngineOp.isFallible_eq_false_iff.mpr destroys)

/-- Faults of two entry points alternate in line, one is refused, and a call takes one of them
that stands behind another. -/
def alternatingFaults : List Action :=
  let nobody := HandleCounter.start.peek .context
  [.failNext .isNull (.invalidKey "first"), .failNext .compile (.rejected "between"),
    .failNext .isNull (.unknownContext 5), .failNext .destroyContext (.rejected "never"),
    .call (.compile nobody), .call (.condition nobody ⟨⟨1⟩, .isNull⟩),
    .call (.destroyContext nobody)]

theorem alternating_faults_in_turn :
    let e := (run {} alternatingFaults).2
    let call := EngineCall.condition ⟨1, by decide⟩ ⟨⟨1⟩, .isNull⟩
    QueuedEngine.start.run alternatingFaults = ((run {} alternatingFaults).1, e.queued) ∧
    (stages {} alternatingFaults).filterMap (spentFault .isNull) = [.invalidKey "first"] ∧
    e.faults = [⟨.isNull, .unknownContext 5⟩] ∧
    (e.act (.call call)).1 = .refused (.unknownContext 5) ∧
    (e.act (.call call)).2.faults = [] := by
  intro e call
  obtain ⟨refines, waiting, line, accounts, -⟩ := faults_queue_per_entry_point alternatingFaults
  have left : e.faults = [⟨.isNull, .unknownContext 5⟩] := by decide +kernel
  refine ⟨refines, ?_, left, ?_, ?_⟩
  · have spent := accounts .isNull
    rw [show (run {} alternatingFaults).2.faults = _ from left] at spent
    have accepted : (chronicle {} alternatingFaults).filterMap (acceptedFault .isNull) =
        [.invalidKey "first"] ++ [.unknownContext 5] := by
      decide +kernel
    rw [accepted] at spent
    exact (List.append_cancel_right spent).symm
  · rw [waiting call (.unknownContext 5) [] (by rw [left]; rfl)]
  · rw [line call, left]
    rfl

end Engine

end ObjectQuery
