import ObjectQuery.Property
import ObjectQuery.Engine.Handle

/-! Why an engine refuses a call. -/
namespace ObjectQuery

inductive EngineError where
  | unknownEntity (name : String)
  | unknownSession (handle : UInt64)
  | unknownContext (handle : UInt64)
  | unknownProperty (entity : String) (property : PropertyId)
  | typeMismatch (property : PropertyId) (expected found : ValueType)
  | invalidKey (message : String)
  | rejected (message : String)
  deriving DecidableEq, Repr

def EngineError.message : EngineError → String
  | unknownEntity name => s!"unknown entity: '{name}'"
  | unknownSession handle => "unknown session: " ++ hexNumeral handle
  | unknownContext handle => "unknown predicate context: " ++ hexNumeral handle
  | unknownProperty entity property => s!"unknown property {property.text} on '{entity}'"
  | typeMismatch property expected found =>
    s!"property {property.text} is {expected.label}, condition operand is {found.label}"
  | invalidKey message => s!"invalid key: {message}"
  | rejected message => message

end ObjectQuery
