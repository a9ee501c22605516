import ObjectQuery.Workspace.Step

/-!
The ledger of a workspace: its engine, what its clients own and what has happened, without the
stores and the metadata. `Turn` lists what one operation can make of a ledger. Direct calls to the
engine are left out of it: contexts and queries are reached through builders and queries only.
-/
namespace ObjectQuery

def Operation.isDirect : Operation → Bool
  | .engine (.call _) => true
  | _ => false

namespace Answer

def handles : Answer → Nat
  | .engine (.session _) | .engine (.context _) | .engine (.query _) | .builder _ | .query _ => 1
  | _ => 0

def isPlain : Answer → Bool
  | .engine _ | .builder _ | .query _ | .refused (.engineRejected ..) => false
  | _ => true

theorem handles_of_plain {a : Answer} (plain : a.isPlain = true) : a.handles = 0 := by
  unfold handles
  split <;> simp_all [isPlain]

end Answer

namespace Effect

def call? : Effect → Option (EngineCall × Engine.Outcome)
  | called call outcome => some (call, outcome)
  | _ => none

def event? : Effect → Option Event
  | recorded _ e => some e
  | _ => none

/-- Effects that are neither calls nor events of an open builder or query. -/
def isMinor : Effect → Bool
  | called .. => false
  | recorded _ (.useAfterClose _) => true
  | recorded .. => false
  | noticed _ | reportReset => true

end Effect

def callsIn (history : List Effect) : List (EngineCall × Engine.Outcome) :=
  (history.filterMap Effect.call?).reverse

/-- The events in a history, oldest first, whichever sink they went to. -/
def eventsIn (history : List Effect) : List Event := (history.filterMap Effect.event?).reverse

def Workspace.calls (w : Workspace) : List (EngineCall × Engine.Outcome) := callsIn w.history

def Workspace.events (w : Workspace) : List Event := eventsIn w.history

def Store.recordings (s : Store) (e : Event) : List Effect :=
  if s.config.metrics then [.recorded s.sink e] else []

namespace EntityBox

/- Latest first, as in a history. -/

def refusal (box : EntityBox) (op : EngineOp) (error : EngineError) : List Effect :=
  box.store.recordings (.engineRejected box.entity op) ++
    [.noticed (.engineRejected box.entity op error.message)]

def opening (box : EntityBox) (context : ContextHandle) : List Effect :=
  .noticed (.builderOpened box.entity context) ::
    box.store.recordings (.builderOpened box.entity)

def announcement (box : EntityBox) (context : ContextHandle) (p : Property) (m : Method) :
    Effect :=
  .noticed (.condition (if box.store.config.debug then .debug else .trace) box.entity context
    m.op p.name)

def closing (box : EntityBox) (context : ContextHandle) (onDrop : Bool) : List Effect :=
  .noticed (.builderClosed box.entity context onDrop) ::
    (box.store.recordings (.builderClosed box.entity onDrop) ++
      [.called (.destroyContext context) .done])

def compiling (box : EntityBox) (query : QueryHandle) : List Effect :=
  .noticed (.queryCompiled box.entity query) :: box.store.recordings (.queryCompiled box.entity)

def closingQuery (box : EntityBox) (query : QueryHandle) (onDrop : Bool) : List Effect :=
  .noticed (.queryClosed box.entity query onDrop) ::
    (box.store.recordings (.queryClosed box.entity onDrop) ++
      [.called (.destroyQuery query) .done])

end EntityBox

structure Ledger where
  engine : Engine := {}
  boxes : List EntityBox := []
  builders : List Builder := []
  queries : List Query := []
  history : List Effect := []

def Workspace.ledger (w : Workspace) : Ledger :=
  ⟨w.engine, w.boxes, w.builders, w.queries, w.history⟩

namespace Ledger

def calls (l : Ledger) : List (EngineCall × Engine.Outcome) := callsIn l.history

def events (l : Ledger) : List Event := eventsIn l.history

def contextOf? (l : Ledger) (id : Nat) : Option ContextHandle := l.builders[id]?.bind Builder.handle

def queryOf? (l : Ledger) (id : Nat) : Option QueryHandle := l.queries[id]?.bind Query.handle

def write (l : Ledger) (effects : List Effect) : Ledger :=
  { l with history := effects ++ l.history }

def addBuilder (l : Ledger) (b : Builder) : Ledger := { l with builders := l.builders ++ [b] }

def addQuery (l : Ledger) (q : Query) : Ledger := { l with queries := l.queries ++ [q] }

def close (l : Ledger) (id : Nat) (box : EntityBox) (context : ContextHandle) (onDrop : Bool) :
    Ledger :=
  { l with
    engine := l.engine.destroyContext context
    builders := l.builders.set id ⟨box, none⟩
    history := box.closing context onDrop ++ l.history }

def closeQuery (l : Ledger) (id : Nat) (box : EntityBox) (query : QueryHandle) (onDrop : Bool) :
    Ledger :=
  { l with
    engine := l.engine.destroyQuery query
    queries := l.queries.set id ⟨box, none⟩
    history := box.closingQuery query onDrop ++ l.history }

end Ledger

/-- What an operation makes of a ledger. An operation that goes through to the engine has a case
for each way the engine can answer; `aside` has all that leave engine and owners alone. -/
inductive Turn (l : Ledger) : Operation → Answer → Ledger → Prop where
  | aside {o : Operation} {a : Answer} (added : List EntityBox) (effects : List Effect)
      (plain : a.isPlain = true) (minor : ∀ e ∈ effects, e.isMinor = true)
      (unmet : ∀ id p m, o = .condition id p m → a ≠ .done) :
      Turn l o a ({ l with boxes := l.boxes ++ added }.write effects)
  | engine {action : Engine.Action} (indirect : ∀ call, action ≠ .call call) :
      Turn l (.engine action) (.engine (l.engine.act action).1)
        { l with engine := (l.engine.act action).2 }
  | openRefused {id : Nat} {box : EntityBox} {error : EngineError} {engine : Engine}
      (effects : List Effect) (minor : ∀ e ∈ effects, e.isMinor = true)
      (found : l.boxes[id]? = some box)
      (failed : l.engine.createContext box.store.session box.entity = (.error error, engine)) :
      Turn l (.openBuilder id) (.refused (.engineRejected box.entity .createContext error))
        (({ l with engine }.write
          (.called (.createContext box.store.session box.entity) (.refused error) :: effects)).write
            (box.refusal .createContext error))
  | opened {id : Nat} {box : EntityBox} {context : ContextHandle} {engine : Engine}
      (effects : List Effect) (minor : ∀ e ∈ effects, e.isMinor = true)
      (found : l.boxes[id]? = some box)
      (done : l.engine.createContext box.store.session box.entity = (.ok context, engine)) :
      Turn l (.openBuilder id) (.builder l.builders.length)
        ((({ l with engine }.addBuilder ⟨box, some context⟩).write
          (.called (.createContext box.store.session box.entity) (.context context) ::
            effects)).write (box.opening context))
  | conditionRefused {id : Nat} {box : EntityBox} {context : ContextHandle} {p : Property}
      {m : Method} {error : EngineError} {engine : Engine}
      (found : l.builders[id]? = some ⟨box, some context⟩)
      (failed : l.engine.addCondition context ⟨p.id, m.test⟩ = (.error error, engine)) :
      Turn l (.condition id p m) (.refused (.engineRejected box.entity m.op error))
        (({ l with engine }.write [.called (.condition context ⟨p.id, m.test⟩) (.refused error),
          box.announcement context p m]).write (box.refusal m.op error))
  | conditionAdded {id : Nat} {box : EntityBox} {context : ContextHandle} {p : Property}
      {m : Method} {engine : Engine}
      (found : l.builders[id]? = some ⟨box, some context⟩)
      (done : l.engine.addCondition context ⟨p.id, m.test⟩ = (.ok (), engine)) :
      Turn l (.condition id p m) .done
        (({ l with engine }.write [.noticed (.conditionStored context m.op),
          .called (.condition context ⟨p.id, m.test⟩) .done, box.announcement context p m]).write
            (box.store.recordings (.conditionAdded box.entity m.op)))
  | buildRefused {id : Nat} {box : EntityBox} {context : ContextHandle} {error : EngineError}
      {engine : Engine}
      (found : l.builders[id]? = some ⟨box, some context⟩)
      (failed : l.engine.compile context = (.error error, engine)) :
      Turn l (.build id) (.refused (.engineRejected box.entity .compile error))
        ((({ l with engine }.write [.called (.compile context) (.refused error)]).close id box
          context false).write (box.refusal .compile error))
  | built {id : Nat} {box : EntityBox} {context : ContextHandle} {query : QueryHandle}
      {engine : Engine}
      (found : l.builders[id]? = some ⟨box, some context⟩)
      (done : l.engine.compile context = (.ok query, engine)) :
      Turn l (.build id) (.query l.queries.length)
        (((({ l with engine }.addQuery ⟨box, some query⟩).write
          [.called (.compile context) (.query query)]).write (box.compiling query)).close id box
            context false)
  | builderReleased {o : Operation} {id : Nat} {box : EntityBox} {context : ContextHandle}
      {onDrop : Bool} (release : o = if onDrop then .dropBuilder id else .closeBuilder id)
      (found : l.builders[id]? = some ⟨box, some context⟩) :
      Turn l o .done (l.close id box context onDrop)
  | queryReleased {o : Operation} {id : Nat} {box : EntityBox} {query : QueryHandle}
      {onDrop : Bool} (release : o = if onDrop then .dropQuery id else .closeQuery id)
      (found : l.queries[id]? = some ⟨box, some query⟩) :
      Turn l o .done (l.closeQuery id box query onDrop)

/-- Operations with their answers, oldest first. -/
abbrev Transcript := List (Operation × Answer)

def Transcript.handles : Transcript → Nat
  | [] => 0
  | (_, a) :: rest => a.handles + handles rest

@[simp] theorem Transcript.handles_append (t u : Transcript) :
    (t ++ u).handles = t.handles + u.handles := by
  induction t with
  | nil => simp [handles]
  | cons entry rest ih =>
    simp only [List.cons_append, handles, ih]
    omega

@[simp] theorem Transcript.handles_single (o : Operation) (a : Answer) :
    handles [(o, a)] = a.handles := by
  simp [handles]

theorem Transcript.handles_le_length (t : Transcript) : t.handles ≤ t.length := by
  induction t with
  | nil => simp [handles]
  | cons entry rest ih =>
    have one : entry.2.handles ≤ 1 := by
      unfold Answer.handles
      split <;> omega
    simp only [handles, List.length_cons]
    omega

inductive Course (start : Ledger) : Transcript → Ledger → Prop where
  | refl : Course start [] start
  | step {t : Transcript} {l l' : Ledger} {o : Operation} {a : Answer}
      (course : Course start t l) (turn : Turn l o a l') : Course start (t ++ [(o, a)]) l'

theorem Course.trans {l l' l'' : Ledger} {t u : Transcript} (first : Course l t l')
    (second : Course l' u l'') : Course l (t ++ u) l'' := by
  induction second with
  | refl => simpa using first
  | step course turn ih =>
    rw [← List.append_assoc]
    exact ih.step turn

namespace Workspace

/-- A workspace that was fresh before these operations. -/
def after (operations : List Operation) : Workspace := (run {} operations).2

def transcript (operations : List Operation) : Transcript :=
  operations.zip (run {} operations).1

end Workspace

end ObjectQuery
