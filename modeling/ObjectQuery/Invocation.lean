import ObjectQuery.Method

/-!
Condition methods as they are called. A text is given whole or as a slice of a longer one, a list
of integers in one of three containers; a method keeps what was given and forgets in which form.
-/
namespace ObjectQuery

inductive TextForm where
  | whole (text : String)
  | slice (text : String.Slice)

def TextForm.text : TextForm → String
  | whole text => text
  | slice text => text.copy

inductive ListForm (α : Type) where
  | list (values : List α)
  | array (values : Array α)
  | vector {n : Nat} (values : Vector α n)

def ListForm.values {α : Type} : ListForm α → List α
  | list values => values
  | array values => values.toList
  | vector values => values.toList

inductive EqualForm where
  | int (value : Int64)
  | text (form : TextForm)

def EqualForm.operand : EqualForm → EqualOperand
  | int value => .int value
  | text form => .text form.text

inductive SetForm where
  | int32 (form : ListForm Int32)
  | int64 (form : ListForm Int64)

def SetForm.operand : SetForm → SetOperand
  | int32 form => .int32 form.values
  | int64 form => .int64 form.values

inductive Invocation where
  | isNull
  | notNull
  | equal (form : EqualForm)
  | notEqual (form : EqualForm)
  | less (operand : OrderOperand)
  | greater (operand : OrderOperand)
  | between (low high : Int64)
  | isIn (form : SetForm)
  | contains (text : String.Slice)
  | startsWith (text : String.Slice)
  | endsWith (text : String.Slice)

def Invocation.method : Invocation → Method
  | isNull => .isNull
  | notNull => .notNull
  | equal form => .equal form.operand
  | notEqual form => .notEqual form.operand
  | less operand => .less operand
  | greater operand => .greater operand
  | between low high => .between low high
  | isIn form => .isIn form.operand
  | contains text => .contains text.copy
  | startsWith text => .startsWith text.copy
  | endsWith text => .endsWith text.copy

end ObjectQuery
