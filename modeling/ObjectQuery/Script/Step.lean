import ObjectQuery.Workspace.Step

/-!
Scripts name what they make. A step is one line of a script, and a reply is what it shows.
Handles are given as plain numbers, of which zero is none.
-/
namespace ObjectQuery.Script

/-- A property by its name, looked up in the box of the builder, or given in full. -/
inductive PropertyRef where
  | named (name : String)
  | given (property : Property)
  deriving DecidableEq, Repr

structure Clause where
  property : PropertyRef
  method : Method
  deriving DecidableEq, Repr

inductive StoreSource where
  | session (raw : UInt64)
  | copyOf (store : String)
  deriving DecidableEq, Repr

inductive BoxSource where
  | store (store entity : String)
  | copyOf (box : String)
  | ofBuilder (builder : String)
  | ofQuery (query : String)
  deriving DecidableEq, Repr

inductive Step where
  | register (model : ModelDraft)
  | resizeJournal (capacity : Nat)
  | openSession
  | failNext (op : EngineOp) (error : EngineError)
  | journal
  | clearJournal
  | journalEnds (n : Nat)
  | contextConditions (context : UInt64)
  | compiledConditions (query : UInt64)
  | createContext (session : UInt64) (entity : String)
  | addCondition (context : UInt64) (condition : Condition)
  | compile (context : UInt64)
  | destroyContext (context : UInt64)
  | destroyQuery (query : UInt64)
  | lineUp (entity : String) (line : List Resolution)
  | store (name : String) (source : StoreSource) (config sink : Option String)
  | storeInfo (store : String)
  | events (sink : String)
  | report
  | resetReport
  | box (name : String) (source : BoxSource)
  | boxInfo (box : String)
  | properties (box : String)
  | property (box name : String)
  | openBuilder (name box : String)
  | applyAll (builder : String) (clauses : List Clause)
  | builderInfo (builder : String)
  | closeBuilder (builder : String)
  | dropBuilder (builder : String)
  | build (name builder : String)
  | queryInfo (query : String)
  | queryHandle (query : String)
  | closeQuery (query : String)
  | dropQuery (query : String)
  deriving DecidableEq, Repr

structure BoxView where
  entity : String
  isResolved : Bool
  description : String
  deriving DecidableEq, Repr

inductive Reply where
  | ok
  | unbound
  | zeroHandle
  | failed (failure : Failure)
  | refused (error : EngineError)
  | queryError (error : QueryError)
  /-- So many clauses were applied before the error. -/
  | stopped (applied : Nat) (error : QueryError)
  | handle (raw : UInt64)
  | journal (calls : List EngineCall)
  | journalEnds (length : Nat) (first last : List EngineCall)
  | conditions (conditions : Option (List Condition))
  | store (store : Store)
  | events (events : List Event)
  | report (report : Report)
  | box (view : BoxView)
  | boxWithStore (view : BoxView) (store : Store)
  | model (model : EntityModel)
  | property (property : Property)
  | owner (isClosed : Bool) (description : String)
  deriving DecidableEq, Repr

end ObjectQuery.Script
