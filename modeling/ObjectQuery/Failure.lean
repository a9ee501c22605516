/-! Failures outside the engine, each with a class and the part of the library it arose in. -/
namespace ObjectQuery

inductive FailureClass where
  | notFound
  | unsupported
  | invariantViolation
  deriving DecidableEq, Repr

def FailureClass.label : FailureClass → String
  | .notFound => "not_found"
  | .unsupported => "unsupported"
  | .invariantViolation => "invariant_violation"

inductive FailureOrigin where
  | config
  | model
  | engine
  | query
  deriving DecidableEq, Repr

def FailureOrigin.label : FailureOrigin → String
  | .config => "config"
  | .model => "model"
  | .engine => "engine"
  | .query => "query"

structure Failure where
  kind : FailureClass
  origin : FailureOrigin
  message : String
  deriving DecidableEq, Repr

namespace Failure

def modelUnresolved (entity reason : String) : Failure :=
  ⟨.notFound, .model, s!"entity model unresolved for '{entity}': {reason}"⟩

def modelInvariant (message : String) : Failure := ⟨.invariantViolation, .model, message⟩

def invalidConfig (fault : String) : Failure :=
  ⟨.unsupported, .config, s!"invalid store config: {fault}"⟩

def labelled (f : Failure) : String := s!"{f.origin.label}:{f.kind.label}: {f.message}"

end Failure

end ObjectQuery
