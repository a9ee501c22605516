import ObjectQuery.Engine.Op

/-! Events in the life of builders and queries. -/
namespace ObjectQuery

inductive Event where
  | builderOpened (entity : String)
  | conditionAdded (entity : String) (op : EngineOp)
  | builderClosed (entity : String) (onDrop : Bool)
  | queryCompiled (entity : String)
  | queryClosed (entity : String) (onDrop : Bool)
  | engineRejected (entity : String) (op : EngineOp)
  | useAfterClose (entity : String)
  deriving DecidableEq, Repr

def Event.entity : Event → String
  | builderOpened entity | conditionAdded entity _ | builderClosed entity _
  | queryCompiled entity | queryClosed entity _ | engineRejected entity _
  | useAfterClose entity => entity

end ObjectQuery
