import ObjectQuery.Failure
import ObjectQuery.Engine.Error
import ObjectQuery.Engine.Op

/-! Why an operation on a builder, a query or a box fails. -/
namespace ObjectQuery

inductive QueryError where
  | useAfterClose (entity : String)
  | engineRejected (entity : String) (op : EngineOp) (source : EngineError)
  | modelUnresolved (source : Failure)
  | unknownProperty (entity property : String)
  deriving DecidableEq, Repr

namespace QueryError

def message : QueryError → String
  | useAfterClose entity =>
    s!"handle for '{entity}' has already been closed; use a new instance"
  | engineRejected entity op source =>
    s!"engine rejected {op.label} for '{entity}': {source.message}"
  | modelUnresolved source => source.message
  | unknownProperty entity property => s!"entity '{entity}' has no property '{property}'"

def kind : QueryError → FailureClass
  | useAfterClose _ => .invariantViolation
  | engineRejected .. => .unsupported
  | modelUnresolved source => source.kind
  | unknownProperty .. => .notFound

def origin : QueryError → FailureOrigin
  | useAfterClose _ => .query
  | engineRejected .. => .engine
  | modelUnresolved source => source.origin
  | unknownProperty .. => .model

def isUseAfterClose : QueryError → Bool
  | useAfterClose _ => true
  | _ => false

def refusedOp? : QueryError → Option EngineOp
  | engineRejected _ op _ => some op
  | _ => none

def engineError? : QueryError → Option EngineError
  | engineRejected _ _ source => some source
  | _ => none

end QueryError

end ObjectQuery
