/-! Properties of an entity: a small stable number, a name and the class of their values. -/
namespace ObjectQuery

structure PropertyId where
  number : UInt32
  deriving DecidableEq, Repr, Inhabited

def PropertyId.text (id : PropertyId) : String := toString id.number.toNat

/- Conditions are typed by these three classes; nothing converts between them. -/
inductive ValueType where
  | int64
  | float64
  | text
  deriving DecidableEq, Repr, Inhabited

def ValueType.label : ValueType → String
  | .int64 => "int64"
  | .float64 => "float64"
  | .text => "text"

structure Property where
  id : PropertyId
  name : String
  valueType : ValueType
  deriving DecidableEq, Repr, Inhabited

end ObjectQuery
