import ObjectQuery.Engine.Condition

/-!
Notices are the lines of the log: a level, a message and named fields in a fixed order.
-/
namespace ObjectQuery

inductive Level where
  | trace
  | debug
  | info
  | warn
  | error
  deriving DecidableEq, Repr

inductive Notice where
  | conditionStored (context : ContextHandle) (op : EngineOp)
  | modelResolved (entity : String) (properties : Nat)
  | builderOpened (entity : String) (context : ContextHandle)
  | condition (level : Level) (entity : String) (context : ContextHandle) (op : EngineOp)
      (property : String)
  | builderClosed (entity : String) (context : ContextHandle) (onDrop : Bool)
  | queryCompiled (entity : String) (query : QueryHandle)
  | queryClosed (entity : String) (query : QueryHandle) (onDrop : Bool)
  | engineRejected (entity : String) (op : EngineOp) (error : String)
  deriving DecidableEq, Repr

namespace Notice

def level : Notice → Level
  | conditionStored .. => .trace
  | condition level .. => level
  | engineRejected .. => .warn
  | _ => .debug

def message : Notice → String
  | conditionStored .. => "memory engine added condition"
  | modelResolved .. => "entity model resolved"
  | builderOpened .. => "query builder opened"
  | condition .. => "condition"
  | builderClosed _ _ onDrop =>
    if onDrop then "query builder released on drop" else "query builder closed"
  | queryCompiled .. => "query compiled"
  | queryClosed .. => "query closed"
  | engineRejected .. => "engine rejected operation"

def fields : Notice → List (String × String)
  | conditionStored context op => [("context", context.text), ("op", op.label)]
  | modelResolved entity properties =>
    [("entity", entity), ("properties", toString properties)]
  | builderOpened entity context | builderClosed entity context _ =>
    [("entity", entity), ("context", context.text)]
  | condition _ entity context op property =>
    [("entity", entity), ("context", context.text), ("op", op.label), ("property", property)]
  | queryCompiled entity query => [("entity", entity), ("query", query.text)]
  | queryClosed entity query onDrop =>
    [("entity", entity), ("query", query.text), ("on_drop", if onDrop then "true" else "false")]
  | engineRejected entity op error => [("entity", entity), ("op", op.label), ("error", error)]

end Notice

end ObjectQuery
