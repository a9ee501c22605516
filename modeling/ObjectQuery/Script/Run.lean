import ObjectQuery.Script.Step
import ObjectQuery.Workspace.Describe
import ObjectQuery.Codec.StoreConfig

/-!
Runs scripts on a fresh workspace. A step that fails binds nothing. A name that is bound again
drops what it stood for after the new one has been made. At the end of a script the builders that
are still bound are dropped in the order of their names, and then the queries.
-/
namespace ObjectQuery.Script

structure State where
  workspace : Workspace := {}
  stores : Table String Nat := ∅
  boxes : Table String Nat := ∅
  builders : Table String Nat := ∅
  queries : Table String Nat := ∅
  sinks : Table String Unit := ∅
  deriving DecidableEq, Repr

namespace State

instance : Inhabited State := ⟨{}⟩

def perform (s : State) (o : Operation) : Answer × State :=
  let (answer, workspace) := s.workspace.step o
  (answer, { s with workspace })

def store? (s : State) (name : String) : Option Store :=
  (s.stores.get? name).bind fun id => s.workspace.stores[id]?

def box? (s : State) (name : String) : Option EntityBox :=
  (s.boxes.get? name).bind fun id => s.workspace.boxes[id]?

def builder? (s : State) (name : String) : Option Builder :=
  (s.builders.get? name).bind fun id => s.workspace.builders[id]?

def query? (s : State) (name : String) : Option Query :=
  (s.queries.get? name).bind fun id => s.workspace.queries[id]?

def viewBox (s : State) (box : EntityBox) : BoxView where
  entity := box.entity
  isResolved := (s.workspace.resolved? box).isSome
  description := s.workspace.describeBox box

def replyStore (s : State) (name : String) : Reply :=
  ((s.store? name).map Reply.store).getD .unbound

def replyBox (s : State) (name : String) : Reply :=
  ((s.box? name).map fun box => Reply.box (s.viewBox box)).getD .unbound

def replyBuilder (s : State) (name : String) : Reply :=
  ((s.builder? name).map fun b => Reply.owner b.isClosed b.describe).getD .unbound

def replyQuery (s : State) (name : String) : Reply :=
  ((s.query? name).map fun q => Reply.owner q.isClosed q.describe).getD .unbound

def replyOutcome : Engine.Outcome → Reply
  | .done => .ok
  | .session h => .handle h.raw
  | .context h => .handle h.raw
  | .query h => .handle h.raw
  | .refused error => .refused error

def replyAnswer : Answer → Reply
  | .unknown => .unbound
  | .done | .store _ | .box _ | .builder _ | .query _ => .ok
  | .engine outcome => replyOutcome outcome
  | .handle h => .handle h.raw
  | .model m => .model m
  | .property p => .property p
  | .failed failure => .failed failure
  | .refused error => .queryError error

def reply (s : State) (o : Operation) : Reply × State :=
  let (answer, s) := s.perform o
  (replyAnswer answer, s)

def replyOn (s : State) (names : Table String Nat) (name : String) (o : Nat → Operation) :
    Reply × State :=
  match names.get? name with
  | some id => s.reply (o id)
  | none => (.unbound, s)

def call (s : State) (call : EngineCall) : Reply × State := s.reply (.engine (.call call))

def withHandle (s : State) (kind : HandleKind) (raw : UInt64)
    (f : Handle kind → Reply × State) : Reply × State :=
  match Handle.ofRaw? kind raw with
  | some h => f h
  | none => (.zeroHandle, s)

def makeStore (s : State) : StoreSource → Except Reply (Nat × State)
  | .session raw => match Handle.ofRaw? .session raw with
    | none => .error .zeroHandle
    | some h => match s.perform (.openStore h) with
      | (.store id, s) => .ok (id, s)
      | _ => .error .unbound
  | .copyOf name => match s.stores.get? name with
    | none => .error .unbound
    | some id => match s.perform (.copyStore id) with
      | (.store id, s) => .ok (id, s)
      | _ => .error .unbound

def configure (s : State) (id : Nat) : Option String → Except Failure State
  | none => .ok s
  | some text => (StoreConfig.ofJson text).map fun config => (s.perform (.configure id config)).2

def route (s : State) (id : Nat) : Option String → State
  | none => s
  | some sink => { (s.perform (.route id sink)).2 with sinks := s.sinks.insert sink () }

def bindStore (s : State) (name : String) (source : StoreSource) (config sink : Option String) :
    Reply × State :=
  match s.makeStore source with
  | .error reply => (reply, s)
  | .ok (id, made) => match made.configure id config with
    | .error failure => (.failed failure, s)
    | .ok made =>
      let made := made.route id sink
      let made := { made with stores := made.stores.insert name id }
      (made.replyStore name, made)

def boxOperation? (s : State) : BoxSource → Option Operation
  | .store store entity => (s.stores.get? store).map (.newBox · entity)
  | .copyOf box => (s.boxes.get? box).map .copyBox
  | .ofBuilder builder => (s.builders.get? builder).map .boxOfBuilder
  | .ofQuery query => (s.queries.get? query).map .boxOfQuery

def bindBox (s : State) (name : String) (source : BoxSource) : Reply × State :=
  match s.boxOperation? source with
  | none => (.unbound, s)
  | some o => match s.perform o with
    | (.box id, s) =>
      let s := { s with boxes := s.boxes.insert name id }
      (s.replyBox name, s)
    | (answer, s) => (replyAnswer answer, s)

def dropBuilderIfAny (s : State) : Option Nat → State
  | some id => (s.perform (.dropBuilder id)).2
  | none => s

def dropQueryIfAny (s : State) : Option Nat → State
  | some id => (s.perform (.dropQuery id)).2
  | none => s

def bindBuilder (s : State) (name box : String) : Reply × State :=
  match s.boxes.get? box with
  | none => (.unbound, s)
  | some id => match s.perform (.openBuilder id) with
    | (.builder id, s) =>
      let earlier := s.builders.get? name
      let s := { s with builders := s.builders.insert name id }
      let reply := s.replyBuilder name
      (reply, s.dropBuilderIfAny earlier)
    | (answer, s) => (replyAnswer answer, s)

def bindQuery (s : State) (name builder : String) : Reply × State :=
  match s.builders.get? builder with
  | none => (.unbound, s)
  | some id => match s.perform (.build id) with
    | (.query id, s) =>
      let earlier := s.queries.get? name
      let s := { s with queries := s.queries.insert name id }
      let reply := s.replyQuery name
      (reply, s.dropQueryIfAny earlier)
    | (answer, s) => (replyAnswer answer, s)

def applyMethod (s : State) (builder : Nat) (p : Property) (m : Method) :
    Option QueryError × State :=
  match s.perform (.condition builder p m) with
  | (.refused error, s) => (some error, s)
  | (_, s) => (none, s)

def applyClause (s : State) (builder : Nat) (c : Clause) : Option QueryError × State :=
  match c.property with
  | .given p => s.applyMethod builder p c.method
  | .named name => match s.perform (.propertyOfBuilder builder name) with
    | (.property p, s) => s.applyMethod builder p c.method
    | (.refused error, s) => (some error, s)
    | (_, s) => (none, s)

def applyAll (s : State) (builder applied : Nat) : List Clause → Reply × State
  | [] => (.ok, s)
  | c :: rest => match s.applyClause builder c with
    | (some error, s) => (.stopped applied error, s)
    | (none, s) => s.applyAll builder (applied + 1) rest

def dropBuilder (s : State) (name : String) : Reply × State :=
  let (reply, s) := s.replyOn s.builders name .dropBuilder
  (reply, { s with builders := s.builders.erase name })

def dropQuery (s : State) (name : String) : Reply × State :=
  let (reply, s) := s.replyOn s.queries name .dropQuery
  (reply, { s with queries := s.queries.erase name })

def replyJournalEnds (s : State) (n : Nat) : Reply :=
  let calls := s.workspace.engine.journal.calls
  .journalEnds calls.length (calls.take n) (lastOf n calls)

def replyEvents (s : State) (sink : String) : Reply :=
  if s.sinks.contains sink then .events (s.workspace.received sink) else .unbound

def replyBoxInfo (s : State) (name : String) : Reply :=
  ((s.box? name).map fun box => Reply.boxWithStore (s.viewBox box) box.store).getD .unbound

def step (s : State) : Step → Reply × State
  | .register draft => match draft.model with
    | .ok model => s.reply (.engine (.register model))
    | .error failure => (.failed failure, s)
  | .resizeJournal capacity => s.reply (.engine (.resizeJournal capacity))
  | .openSession => s.reply (.engine .openSession)
  | .failNext op error => s.reply (.engine (.failNext op error))
  | .journal => (.journal s.workspace.engine.journal.calls, s)
  | .clearJournal => s.reply (.engine .clearJournal)
  | .journalEnds n => (s.replyJournalEnds n, s)
  | .contextConditions context => s.withHandle .context context fun h =>
    (.conditions (s.workspace.engine.contextConditions? h), s)
  | .compiledConditions query => s.withHandle .query query fun h =>
    (.conditions (s.workspace.engine.compiledConditions? h), s)
  | .createContext session entity => s.withHandle .session session fun h =>
    s.call (.createContext h entity)
  | .addCondition context c => s.withHandle .context context fun h => s.call (.condition h c)
  | .compile context => s.withHandle .context context fun h => s.call (.compile h)
  | .destroyContext context => s.withHandle .context context fun h => s.call (.destroyContext h)
  | .destroyQuery query => s.withHandle .query query fun h => s.call (.destroyQuery h)
  | .lineUp entity line => s.reply (.lineUp entity line)
  | .store name source config sink => s.bindStore name source config sink
  | .storeInfo store => (s.replyStore store, s)
  | .events sink => (s.replyEvents sink, s)
  | .report => (.report s.workspace.report, s)
  | .resetReport => s.reply .resetReport
  | .box name source => s.bindBox name source
  | .boxInfo box => (s.replyBoxInfo box, s)
  | .properties box => s.replyOn s.boxes box .properties
  | .property box name => s.replyOn s.boxes box (.property · name)
  | .openBuilder name box => s.bindBuilder name box
  | .applyAll builder clauses => match s.builders.get? builder with
    | some id => s.applyAll id 0 clauses
    | none => (.unbound, s)
  | .builderInfo builder => (s.replyBuilder builder, s)
  | .closeBuilder builder => s.replyOn s.builders builder .closeBuilder
  | .dropBuilder builder => s.dropBuilder builder
  | .build name builder => s.bindQuery name builder
  | .queryInfo query => (s.replyQuery query, s)
  | .queryHandle query => s.replyOn s.queries query .queryHandle
  | .closeQuery query => s.replyOn s.queries query .closeQuery
  | .dropQuery query => s.dropQuery query

/-- Drops every builder and then every query that still has a name. -/
def finish (s : State) : State :=
  let s := s.builders.entries.foldl (fun s e => s.dropBuilderIfAny (some e.2)) s
  s.queries.entries.foldl (fun s e => s.dropQueryIfAny (some e.2)) s

def noticesSince (s earlier : State) : List Notice :=
  let added := s.workspace.history.length - earlier.workspace.history.length
  ((s.workspace.history.take added).filterMap Effect.notice?).reverse

end State

structure Status where
  liveContexts : Nat
  liveQueries : Nat
  doubleReleases : UInt64
  journalLength : Nat
  resolveCalls : Nat
  deriving DecidableEq, Repr

def State.status (s : State) : Status where
  liveContexts := s.workspace.engine.liveContexts
  liveQueries := s.workspace.engine.liveQueries
  doubleReleases := s.workspace.engine.doubleReleases
  journalLength := s.workspace.engine.journal.calls.length
  resolveCalls := s.workspace.metadata.calls

structure Line where
  reply : Reply
  status : Status
  notices : List Notice
  deriving DecidableEq, Repr

structure Ending where
  status : Status
  report : Report
  events : List (String × List Event)
  journal : List EngineCall
  notices : List Notice
  deriving DecidableEq, Repr

def State.lines (s : State) : List Step → List Line × State
  | [] => ([], s)
  | step :: rest =>
    let (reply, after) := s.step step
    let line : Line := ⟨reply, after.status, after.noticesSince s⟩
    let (lines, last) := after.lines rest
    (line :: lines, last)

def State.ending (s : State) : Ending :=
  let last := s.finish
  { status := last.status
    report := last.workspace.report
    events := last.sinks.entries.map fun e => (e.1, last.workspace.received e.1)
    journal := last.workspace.engine.journal.calls
    notices := last.noticesSince s }

def run (steps : List Step) : List Line × Ending :=
  let (lines, last) := State.lines {} steps
  (lines, last.ending)

end ObjectQuery.Script
