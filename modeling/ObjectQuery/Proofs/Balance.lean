import ObjectQuery.Proofs.History

/-!
The accounts of a workspace: calls to the engine, recorded events and open owners. Calls and
events are counted over a whole history, whichever sink an event went to. All that is asked of the
stores is that they record; the number of handles given out does not matter here.
-/
namespace ObjectQuery

/-- What an event reports, whatever its entity. -/
inductive EventKind where
  | builderOpened
  | conditionAdded (op : EngineOp)
  | builderClosed
  | queryCompiled
  | queryClosed
  | engineRejected (op : EngineOp)
  | useAfterClose
  deriving DecidableEq, Repr

def Event.kind : Event → EventKind
  | builderOpened _ => .builderOpened
  | conditionAdded _ op => .conditionAdded op
  | builderClosed .. => .builderClosed
  | queryCompiled _ => .queryCompiled
  | queryClosed .. => .queryClosed
  | engineRejected _ op => .engineRejected op
  | useAfterClose _ => .useAfterClose

def Event.op? : Event → Option EngineOp
  | builderOpened _ => some .createContext
  | conditionAdded _ op | engineRejected _ op => some op
  | builderClosed .. => some .destroyContext
  | queryCompiled _ => some .compile
  | queryClosed .. => some .destroyQuery
  | useAfterClose _ => none

def EngineOp.success : EngineOp → EventKind
  | createContext => .builderOpened
  | destroyContext => .builderClosed
  | compile => .queryCompiled
  | destroyQuery => .queryClosed
  | op => .conditionAdded op

theorem EngineOp.success_of_condition {op : EngineOp} (condition : op.isCondition = true) :
    op.success = .conditionAdded op := by
  cases op <;> first | rfl | contradiction

/-- Whether an event names an entry point that can end as the event says. -/
def Event.isSound : Event → Bool
  | conditionAdded _ op => op.isCondition
  | engineRejected _ op => op.isFallible
  | _ => true

def countKind (kind : EventKind) (events : List Event) : Nat := events.countP (·.kind = kind)

def countFor (entity : String) (kind : EventKind) (events : List Event) : Nat :=
  events.countP fun e => e.kind = kind ∧ e.entity = entity

def openBuilders (entity : String) (builders : List Builder) : Nat :=
  builders.countP fun b => !b.isClosed && b.box.entity = entity

def openQueries (entity : String) (queries : List Query) : Nat :=
  queries.countP fun q => !q.isClosed && q.box.entity = entity

theorem countFor_append (entity : String) (kind : EventKind) (events new : List Event) :
    countFor entity kind (events ++ new) = countFor entity kind events + countFor entity kind new :=
  List.countP_append

theorem Event.op?_eq_some_iff (e : Event) (sound : e.isSound = true) (op : EngineOp) :
    e.op? = some op ↔ e.kind = op.success ∨ e.kind = .engineRejected op := by
  cases e <;> cases op <;> simp_all [Event.op?, Event.kind, Event.isSound, EngineOp.success] <;>
    rintro rfl <;> contradiction

theorem countP_eq_add {α : Type} {p q r : α → Bool} {l : List α}
    (split : ∀ a ∈ l, (if p a then 1 else 0) = (if q a then 1 else 0) + if r a then 1 else 0) :
    l.countP p = l.countP q + l.countP r := by
  induction l with
  | nil => rfl
  | cons a rest ih =>
    have head := split a (by simp)
    have tail := ih fun b member => split b (by simp [member])
    rw [List.countP_cons, List.countP_cons, List.countP_cons]
    omega

/-- Each call is reported once: as a success or as a rejection. -/
structure Balanced (ops : List EngineOp) (events : List Event) : Prop where
  counts : ∀ op, ops.count op = events.countP (·.op? = some op)
  sound : ∀ e ∈ events, e.isSound = true

namespace Balanced

variable {ops more : List EngineOp} {events new : List Event}

theorem silent (minor : ∀ e ∈ events, ∃ entity, e = .useAfterClose entity) :
    Balanced [] events where
  counts op := by
    refine (List.countP_eq_zero.mpr ?_).symm
    intro e member
    obtain ⟨entity, rfl⟩ := minor e member
    simp [Event.op?]
  sound e member := by
    obtain ⟨entity, rfl⟩ := minor e member
    rfl

theorem single {op : EngineOp} {e : Event} (reports : e.op? = some op) (sound : e.isSound = true) :
    Balanced [op] [e] where
  counts op' := by simp [List.count_cons, List.countP_cons, reports]
  sound e' member := by rw [List.mem_singleton.mp member]; exact sound

theorem append (first : Balanced ops events) (second : Balanced more new) :
    Balanced (ops ++ more) (events ++ new) where
  counts op := by
    rw [List.count_append, List.countP_append, first.counts op, second.counts op]
  sound e member := by
    rcases List.mem_append.mp member with earlier | now
    · exact first.sound e earlier
    · exact second.sound e now

theorem perm (balanced : Balanced ops events) (same : events.Perm new) : Balanced ops new where
  counts op := by rw [balanced.counts op, same.countP_eq]
  sound e member := balanced.sound e (same.mem_iff.mpr member)

theorem count_eq (balanced : Balanced ops events) (op : EngineOp) :
    ops.count op = countKind op.success events + countKind (.engineRejected op) events := by
  rw [balanced.counts op]
  refine countP_eq_add ?_
  intro e member
  have either := e.op?_eq_some_iff (balanced.sound e member) op
  by_cases first : e.kind = op.success
  · have differ : op.success ≠ .engineRejected op := by cases op <;> simp [EngineOp.success]
    simp [either, first, differ]
  · simp [either, first]

theorem count_infallible (balanced : Balanced ops events) {op : EngineOp}
    (infallible : op.isFallible = false) : ops.count op = countKind op.success events := by
  have rejected : countKind (.engineRejected op) events = 0 := by
    refine List.countP_eq_zero.mpr ?_
    intro e member rejected
    have sound := balanced.sound e member
    cases e <;> simp_all [Event.kind, Event.isSound]
  rw [balanced.count_eq, rejected, Nat.add_zero]

end Balanced

theorem countP_set {α : Type} {p : α → Bool} {l : List α} {id : Nat} {a b : α}
    (found : l[id]? = some a) (dropped : p b = false) :
    l.countP p = (l.set id b).countP p + if p a then 1 else 0 := by
  induction l generalizing id with
  | nil => simp at found
  | cons head rest ih =>
    cases id with
    | zero =>
      have same : head = a := by simpa using found
      simp [List.countP_cons, same, dropped]
    | succ id =>
      have later := ih (by simpa using found)
      rw [List.set_cons_succ, List.countP_cons, List.countP_cons, later]
      omega

structure Housed (boxes : List EntityBox) (builders : List Builder) (queries : List Query) :
    Prop where
  builders : ∀ b ∈ builders, b.box ∈ boxes
  queries : ∀ q ∈ queries, q.box ∈ boxes

theorem countFor_minor {events : List Event}
    (minor : ∀ e ∈ events, ∃ entity, e = .useAfterClose entity) (entity : String)
    {kind : EventKind} (other : kind ≠ .useAfterClose) : countFor entity kind events = 0 := by
  refine List.countP_eq_zero.mpr ?_
  intro e member
  obtain ⟨entity', rfl⟩ := minor e member
  simp [Event.kind, other.symm]

theorem countFor_concat (entity : String) (kind : EventKind) (events : List Event) (e : Event) :
    countFor entity kind (events ++ [e]) =
      countFor entity kind events + if e.kind = kind ∧ e.entity = entity then 1 else 0 := by
  simp [countFor, List.countP_append, List.countP_cons]

theorem openBuilders_add (builders : List Builder) (box : EntityBox) (context : ContextHandle)
    (entity : String) : openBuilders entity (builders ++ [⟨box, some context⟩]) =
      openBuilders entity builders + if box.entity = entity then 1 else 0 := by
  simp [openBuilders, Builder.isClosed, List.countP_append, List.countP_cons]

theorem openQueries_add (queries : List Query) (box : EntityBox) (query : QueryHandle)
    (entity : String) : openQueries entity (queries ++ [⟨box, some query⟩]) =
      openQueries entity queries + if box.entity = entity then 1 else 0 := by
  simp [openQueries, Query.isClosed, List.countP_append, List.countP_cons]

theorem openBuilders_close {builders : List Builder} {id : Nat} {box : EntityBox}
    {context : ContextHandle} (found : builders[id]? = some ⟨box, some context⟩) (entity : String) :
    openBuilders entity builders =
      openBuilders entity (builders.set id ⟨box, none⟩) + if box.entity = entity then 1 else 0 := by
  rw [openBuilders, countP_set found (b := ⟨box, none⟩) rfl]
  simp [openBuilders, Builder.isClosed]

theorem openQueries_close {queries : List Query} {id : Nat} {box : EntityBox} {query : QueryHandle}
    (found : queries[id]? = some ⟨box, some query⟩) (entity : String) :
    openQueries entity queries =
      openQueries entity (queries.set id ⟨box, none⟩) + if box.entity = entity then 1 else 0 := by
  rw [openQueries, countP_set found (b := ⟨box, none⟩) rfl]
  simp [openQueries, Query.isClosed]

theorem Method.isCondition_op (m : Method) : m.op.isCondition = true := by
  rw [← m.op_test]
  exact m.test.isCondition_op

structure Accounts (ops : List EngineOp) (events : List Event) (builders : List Builder)
    (queries : List Query) : Prop where
  balanced : Balanced ops events
  builders : ∀ entity, countFor entity .builderOpened events =
    countFor entity .builderClosed events + openBuilders entity builders
  queries : ∀ entity, countFor entity .queryCompiled events =
    countFor entity .queryClosed events + openQueries entity queries

namespace Accounts

variable {ops : List EngineOp} {events new : List Event} {builders : List Builder}
  {queries : List Query} {id : Nat} {box : EntityBox}

theorem fresh : Accounts [] [] [] [] where
  balanced := .silent (by simp)
  builders _ := rfl
  queries _ := rfl

theorem silent (accounts : Accounts ops events builders queries)
    (minor : ∀ e ∈ new, ∃ entity, e = .useAfterClose entity) :
    Accounts ops (events ++ new) builders queries where
  balanced := by
    have balanced := accounts.balanced.append (.silent minor)
    rwa [List.append_nil] at balanced
  builders entity := by
    simp [countFor_append, countFor_minor minor, accounts.builders entity]
  queries entity := by
    simp [countFor_append, countFor_minor minor, accounts.queries entity]

theorem rejected (accounts : Accounts ops events builders queries) (entity : String)
    {op : EngineOp} (fallible : op.isFallible = true) :
    Accounts (ops ++ [op]) (events ++ [.engineRejected entity op]) builders queries where
  balanced := accounts.balanced.append (.single rfl fallible)
  builders entity := by
    simp [countFor_concat, Event.kind, accounts.builders entity]
  queries entity := by
    simp [countFor_concat, Event.kind, accounts.queries entity]

theorem added (accounts : Accounts ops events builders queries) (entity : String)
    {op : EngineOp} (condition : op.isCondition = true) :
    Accounts (ops ++ [op]) (events ++ [.conditionAdded entity op]) builders queries where
  balanced := accounts.balanced.append (.single rfl condition)
  builders entity := by
    simp [countFor_concat, Event.kind, accounts.builders entity]
  queries entity := by
    simp [countFor_concat, Event.kind, accounts.queries entity]

theorem opened (accounts : Accounts ops events builders queries) (box : EntityBox)
    (context : ContextHandle) :
    Accounts (ops ++ [.createContext]) (events ++ [.builderOpened box.entity])
      (builders ++ [⟨box, some context⟩]) queries where
  balanced := accounts.balanced.append (.single rfl rfl)
  builders entity := by
    have before := accounts.builders entity
    simp only [countFor_concat, Event.kind, Event.entity,
      openBuilders_add, reduceCtorEq, true_and, false_and, ↓reduceIte]
    omega
  queries entity := by
    simp [countFor_concat, Event.kind, accounts.queries entity]

theorem closed (accounts : Accounts ops events builders queries) {context : ContextHandle}
    (found : builders[id]? = some ⟨box, some context⟩) (onDrop : Bool) :
    Accounts (ops ++ [.destroyContext]) (events ++ [.builderClosed box.entity onDrop])
      (builders.set id ⟨box, none⟩) queries where
  balanced := accounts.balanced.append (.single rfl rfl)
  builders entity := by
    have before := accounts.builders entity
    have drop := openBuilders_close found entity
    simp only [countFor_concat, Event.kind, Event.entity,
      reduceCtorEq, true_and, false_and, ↓reduceIte]
    omega
  queries entity := by
    simp [countFor_concat, Event.kind, accounts.queries entity]

theorem compiled (accounts : Accounts ops events builders queries) (box : EntityBox)
    (query : QueryHandle) :
    Accounts (ops ++ [.compile]) (events ++ [.queryCompiled box.entity]) builders
      (queries ++ [⟨box, some query⟩]) where
  balanced := accounts.balanced.append (.single rfl rfl)
  builders entity := by
    simp [countFor_concat, Event.kind, accounts.builders entity]
  queries entity := by
    have before := accounts.queries entity
    simp only [countFor_concat, Event.kind, Event.entity,
      openQueries_add, reduceCtorEq, true_and, false_and, ↓reduceIte]
    omega

theorem closedQuery (accounts : Accounts ops events builders queries) {query : QueryHandle}
    (found : queries[id]? = some ⟨box, some query⟩) (onDrop : Bool) :
    Accounts (ops ++ [.destroyQuery]) (events ++ [.queryClosed box.entity onDrop]) builders
      (queries.set id ⟨box, none⟩) where
  balanced := accounts.balanced.append (.single rfl rfl)
  builders entity := by
    simp [countFor_concat, Event.kind, accounts.builders entity]
  queries entity := by
    have before := accounts.queries entity
    have drop := openQueries_close found entity
    simp only [countFor_concat, Event.kind, Event.entity,
      reduceCtorEq, true_and, false_and, ↓reduceIte]
    omega

theorem perm (accounts : Accounts ops events builders queries) (same : events.Perm new) :
    Accounts ops new builders queries where
  balanced := accounts.balanced.perm same
  builders entity := by
    have counts : ∀ kind, countFor entity kind new = countFor entity kind events :=
      fun kind => same.symm.countP_eq _
    rw [counts, counts]
    exact accounts.builders entity
  queries entity := by
    have counts : ∀ kind, countFor entity kind new = countFor entity kind events :=
      fun kind => same.symm.countP_eq _
    rw [counts, counts]
    exact accounts.queries entity

end Accounts

section Turn

variable {l l' : Ledger} {o : Operation} {a : Answer}

theorem boxes_after_turn (turn : Turn l o a l') : l.boxes ⊆ l'.boxes := by
  cases turn <;> simp [Ledger.close, Ledger.closeQuery, Ledger.addBuilder, Ledger.addQuery]

theorem box_of_builder (housed : Housed l.boxes l.builders l.queries) {id : Nat} {box : EntityBox}
    {handle : Option ContextHandle} (found : l.builders[id]? = some ⟨box, handle⟩) :
    box ∈ l.boxes :=
  housed.builders _ (List.mem_of_getElem? found)

theorem box_of_query (housed : Housed l.boxes l.builders l.queries) {id : Nat} {box : EntityBox}
    {handle : Option QueryHandle} (found : l.queries[id]? = some ⟨box, handle⟩) : box ∈ l.boxes :=
  housed.queries _ (List.mem_of_getElem? found)

theorem housed_turn (housed : Housed l.boxes l.builders l.queries) (turn : Turn l o a l') :
    Housed l'.boxes l'.builders l'.queries := by
  cases turn with
  | aside added effects plain minor unmet =>
    constructor
    · intro b member
      exact List.mem_append_left added (housed.builders b member)
    · intro q member
      exact List.mem_append_left added (housed.queries q member)
  | opened effects minor found done =>
    exact ⟨forall_mem_concat housed.builders (List.mem_of_getElem? found), housed.queries⟩
  | built found done =>
    have member := box_of_builder housed found
    exact ⟨forall_mem_set housed.builders member _, forall_mem_concat housed.queries member⟩
  | buildRefused found failed =>
    exact ⟨forall_mem_set housed.builders (box_of_builder housed found) _, housed.queries⟩
  | builderReleased release found =>
    exact ⟨forall_mem_set housed.builders (box_of_builder housed found) _, housed.queries⟩
  | queryReleased release found =>
    exact ⟨housed.builders, forall_mem_set housed.queries (box_of_query housed found) _⟩
  | _ => exact housed

def Ledger.Accounted (l : Ledger) : Prop :=
  Accounts (l.calls.map fun entry => entry.1.op) l.events l.builders l.queries

theorem accounted_turn (accounts : l.Accounted) (housed : Housed l.boxes l.builders l.queries)
    (metrics : ∀ box ∈ l.boxes, box.store.config.metrics = true) (turn : Turn l o a l') :
    l'.Accounted := by
  unfold Ledger.Accounted at accounts ⊢
  cases turn with
  | aside added effects plain minor unmet =>
    rw [Ledger.calls_write, Ledger.events_write, callsIn_minor minor, List.append_nil]
    exact accounts.silent (eventsIn_minor minor)
  | engine indirect => exact accounts
  | @openRefused id box error engine effects minor found failed =>
    have records := metrics box (List.mem_of_getElem? found)
    have next := (accounts.silent (eventsIn_minor minor)).rejected box.entity
      (show EngineOp.createContext.isFallible = true from rfl)
    simpa [callsIn_minor minor, EntityBox.eventsIn_refusal records, EngineCall.op] using next
  | @opened id box context engine effects minor found done =>
    have records := metrics box (List.mem_of_getElem? found)
    have next := (accounts.silent (eventsIn_minor minor)).opened box context
    simpa [callsIn_minor minor, EntityBox.eventsIn_opening records, EngineCall.op] using next
  | @conditionRefused id box context p m error engine found failed =>
    have records := metrics box (box_of_builder housed found)
    have label : (⟨p.id, m.test⟩ : Condition).op = m.op := m.op_test
    have fallible : m.op.isFallible = true := by
      rw [EngineOp.isFallible, m.isCondition_op]
      rfl
    have next := accounts.rejected box.entity fallible
    simpa [EntityBox.eventsIn_refusal records, EngineCall.op, label] using next
  | @conditionAdded id box context p m engine found done =>
    have records := metrics box (box_of_builder housed found)
    have label : (⟨p.id, m.test⟩ : Condition).op = m.op := m.op_test
    have next := accounts.added box.entity m.isCondition_op
    simpa [eventsIn_recordings records, EngineCall.op, label] using next
  | @buildRefused id box context error engine found failed =>
    have records := metrics box (box_of_builder housed found)
    have rejected := accounts.rejected box.entity (show EngineOp.compile.isFallible = true from rfl)
    have next := rejected.closed found false
    -- the rejection is recorded after the release, though the compilation came first
    rw [List.append_assoc l.events] at next
    have late := next.perm (List.perm_append_comm.append_left l.events)
    simpa [Ledger.events_close, EntityBox.eventsIn_closing records,
      EntityBox.eventsIn_refusal records, EngineCall.op] using late
  | @built id box context query engine found done =>
    have records := metrics box (box_of_builder housed found)
    have next := (accounts.compiled box query).closed found false
    simpa [Ledger.events_close, EntityBox.eventsIn_closing records,
      EntityBox.eventsIn_compiling records, EngineCall.op] using next
  | @builderReleased _ id box context onDrop release found =>
    have records := metrics box (box_of_builder housed found)
    have next := accounts.closed found onDrop
    simpa [Ledger.events_close, EntityBox.eventsIn_closing records, EngineCall.op] using next
  | @queryReleased _ id box query onDrop release found =>
    have records := metrics box (box_of_query housed found)
    have next := accounts.closedQuery found onDrop
    simpa [Ledger.events_closeQuery, EntityBox.eventsIn_closingQuery records, EngineCall.op]
      using next

end Turn

theorem housed_of_course {t : Transcript} {l : Ledger} (course : Course {} t l) :
    Housed l.boxes l.builders l.queries := by
  induction course with
  | refl => exact ⟨by simp, by simp⟩
  | step course turn ih => exact housed_turn ih turn

theorem accounted_of_course {t : Transcript} {l : Ledger} (course : Course {} t l)
    (metrics : ∀ box ∈ l.boxes, box.store.config.metrics = true) : l.Accounted := by
  induction course with
  | refl => exact Accounts.fresh
  | @step t l l' o a course turn ih =>
    have before : ∀ box ∈ l.boxes, box.store.config.metrics = true :=
      fun box member => metrics box (boxes_after_turn turn member)
    exact accounted_turn (ih before) (housed_of_course course) before turn

namespace Workspace

/-- No box is ever forgotten, so the last hypothesis is about every store that was used. -/
theorem accounts_balance {operations : List Operation}
    (indirect : ∀ o ∈ operations, o.isDirect = false)
    (metrics : ∀ box ∈ (after operations).boxes, box.store.config.metrics = true) :
    let w := after operations
    let ops := w.calls.map fun entry => entry.1.op
    ops.count .createContext =
      countKind .builderOpened w.events + countKind (.engineRejected .createContext) w.events ∧
    (∀ op, op.isCondition = true → ops.count op =
      countKind (.conditionAdded op) w.events + countKind (.engineRejected op) w.events) ∧
    ops.count .compile =
      countKind .queryCompiled w.events + countKind (.engineRejected .compile) w.events ∧
    ops.count .destroyContext = countKind .builderClosed w.events ∧
    ops.count .destroyQuery = countKind .queryClosed w.events ∧
    (∀ entity op, .engineRejected entity op ∈ w.events →
      op ≠ .destroyContext ∧ op ≠ .destroyQuery) ∧
    (∀ entity, countFor entity .builderOpened w.events =
      countFor entity .builderClosed w.events + openBuilders entity w.builders) ∧
    (∀ entity, countFor entity .queryCompiled w.events =
      countFor entity .queryClosed w.events + openQueries entity w.queries) := by
  intro w ops
  have accounts : Accounts ops w.events w.builders w.queries :=
    accounted_of_course (course_of_after indirect) metrics
  have balanced := accounts.balanced
  refine ⟨balanced.count_eq .createContext, ?_, balanced.count_eq .compile,
    balanced.count_infallible rfl, balanced.count_infallible rfl, ?_, accounts.builders,
    accounts.queries⟩
  · intro op condition
    rw [← EngineOp.success_of_condition condition]
    exact balanced.count_eq op
  · intro entity op rejected
    have fallible : op.isFallible = true := balanced.sound _ rejected
    constructor
    · rintro rfl
      contradiction
    · rintro rfl
      contradiction

theorem sampleRun_accounts_balance :
    (∀ o ∈ sampleRun, o.isDirect = false) ∧
    (∀ box ∈ (after sampleRun).boxes, box.store.config.metrics = true) ∧
    ((after sampleRun).calls.map fun entry => entry.1.op).count .compile = 1 + 1 ∧
    countFor "Order" .builderOpened (after sampleRun).events = 2 + 1 := by
  have indirect : ∀ o ∈ sampleRun, o.isDirect = false := by decide
  have metrics : ∀ box ∈ (after sampleRun).boxes, box.store.config.metrics = true := by
    decide +kernel
  obtain ⟨-, -, compiled, -, -, -, builders, -⟩ := accounts_balance indirect metrics
  refine ⟨indirect, metrics, ?_, ?_⟩
  · rw [compiled]
    decide +kernel
  · rw [builders "Order"]
    decide +kernel

end Workspace

end ObjectQuery
