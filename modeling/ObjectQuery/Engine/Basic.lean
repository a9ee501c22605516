import ObjectQuery.Table.Basic
import ObjectQuery.EntityModel
import ObjectQuery.Engine.Journal
import ObjectQuery.Engine.PendingFault

/-!
An engine held in memory. It opens sessions, collects conditions in contexts, compiles contexts
into queries and releases both. Every call is entered in the journal before it is decided. A call
that can fail goes through `Engine.attempt`, so one that fails leaves nothing behind but its
journal entry and, if a fault decided it, the fault taken.
-/
namespace ObjectQuery

structure Context where
  entity : String
  conditions : List Condition
  deriving DecidableEq, Repr

structure Engine where
  counter : HandleCounter := .start
  sessions : Table SessionHandle Unit := ∅
  entities : Table String EntityModel := ∅
  contexts : Table ContextHandle Context := ∅
  queries : Table QueryHandle (List Condition) := ∅
  journal : Journal := {}
  faults : List PendingFault := []
  doubleReleases : UInt64 := 0
  deriving DecidableEq, Repr

namespace Engine

instance : Inhabited Engine := ⟨{}⟩

def liveContexts (e : Engine) : Nat := e.contexts.size

def liveQueries (e : Engine) : Nat := e.queries.size

def contextConditions? (e : Engine) (context : ContextHandle) : Option (List Condition) :=
  (e.contexts.get? context).map Context.conditions

def compiledConditions? (e : Engine) (query : QueryHandle) : Option (List Condition) :=
  e.queries.get? query

def register (e : Engine) (model : EntityModel) : Engine :=
  { e with entities := e.entities.insert model.name model }

def openSession (e : Engine) : SessionHandle × Engine :=
  let h := e.counter.peek .session
  (h, { e with counter := e.counter.advance, sessions := e.sessions.insert h () })

/-- Lines up a fault for the next call of an entry point, if calls of it can fail. -/
def failNext (e : Engine) (op : EngineOp) (error : EngineError) : Except EngineError Engine :=
  if op.isFallible then .ok { e with faults := e.faults ++ [⟨op, error⟩] }
  else .error (.rejected s!"{op.label} cannot be made to fail")

def note (e : Engine) (call : EngineCall) : Engine := { e with journal := e.journal.push call }

def attempt {α : Type} (e : Engine) (call : EngineCall)
    (answer : Engine → Except EngineError (α × Engine)) : Except EngineError α × Engine :=
  let e := e.note call
  match PendingFault.take? call.op e.faults with
  | some (error, left) => (.error error, { e with faults := left })
  | none => match answer e with
    | .error error => (.error error, e)
    | .ok (a, e) => (.ok a, e)

def validate (e : Engine) (context : ContextHandle) (c : Condition) :
    Except EngineError Property :=
  match e.contexts.get? context with
  | none => .error (.unknownContext context.raw)
  | some ctx => match e.entities.get? ctx.entity with
    | none => .error (.unknownEntity ctx.entity)
    | some model => match model.propertyById? c.property with
      | none => .error (.unknownProperty ctx.entity c.property)
      | some p => match c.operandType? with
        | none => .ok p
        | some found =>
          if found = p.valueType then .ok p
          else .error (.typeMismatch p.id p.valueType found)

def createContext (e : Engine) (session : SessionHandle) (entity : String) :
    Except EngineError ContextHandle × Engine :=
  e.attempt (.createContext session entity) fun e =>
    if !e.sessions.contains session then .error (.unknownSession session.raw)
    else if !e.entities.contains entity then .error (.unknownEntity entity)
    else
      let h := e.counter.peek .context
      .ok (h, { e with
        counter := e.counter.advance
        contexts := e.contexts.insert h ⟨entity, []⟩ })

def addCondition (e : Engine) (context : ContextHandle) (c : Condition) :
    Except EngineError Unit × Engine :=
  e.attempt (.condition context c) fun e =>
    match e.validate context c with
    | .error error => .error error
    | .ok _ => .ok ((), { e with
        contexts := e.contexts.modify context fun ctx =>
          { ctx with conditions := ctx.conditions ++ [c] } })

/-- A query of the conditions the context holds now; the context itself stays as it is. -/
def compile (e : Engine) (context : ContextHandle) : Except EngineError QueryHandle × Engine :=
  e.attempt (.compile context) fun e =>
    match e.contexts.get? context with
    | none => .error (.unknownContext context.raw)
    | some ctx =>
      let h := e.counter.peek .query
      .ok (h, { e with
        counter := e.counter.advance
        queries := e.queries.insert h ctx.conditions })

def destroyContext (e : Engine) (context : ContextHandle) : Engine :=
  let e := e.note (.destroyContext context)
  if e.contexts.contains context then { e with contexts := e.contexts.erase context }
  else { e with doubleReleases := e.doubleReleases + 1 }

def destroyQuery (e : Engine) (query : QueryHandle) : Engine :=
  let e := e.note (.destroyQuery query)
  if e.queries.contains query then { e with queries := e.queries.erase query }
  else { e with doubleReleases := e.doubleReleases + 1 }

end Engine

end ObjectQuery
