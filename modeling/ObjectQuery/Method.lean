import ObjectQuery.Engine.Condition

/-!
The condition methods of a builder. A method says under which entry point it is announced
(`Method.op`) and which test it forwards (`Method.test`); `op_test` says that the two match.
-/
namespace ObjectQuery

inductive EqualOperand where
  | int (value : Int64)
  | text (value : String)
  deriving DecidableEq, Repr

inductive OrderOperand where
  | int (value : Int64)
  | float (value : Binary64)
  deriving DecidableEq, Repr

inductive SetOperand where
  | int32 (values : List Int32)
  | int64 (values : List Int64)
  deriving DecidableEq, Repr

inductive Method where
  | isNull
  | notNull
  | equal (operand : EqualOperand)
  | notEqual (operand : EqualOperand)
  | less (operand : OrderOperand)
  | greater (operand : OrderOperand)
  | between (low high : Int64)
  | isIn (operand : SetOperand)
  | contains (text : String)
  | startsWith (text : String)
  | endsWith (text : String)
  deriving DecidableEq, Repr

namespace EqualOperand

def equalOp : EqualOperand → EngineOp
  | int _ => .equalInt
  | text _ => .equalText

def notEqualOp : EqualOperand → EngineOp
  | int _ => .notEqualInt
  | text _ => .notEqualText

def equalTest : EqualOperand → Test
  | int v => .equalInt v
  | text s => .equalText s

def notEqualTest : EqualOperand → Test
  | int v => .notEqualInt v
  | text s => .notEqualText s

end EqualOperand

namespace OrderOperand

def lessOp : OrderOperand → EngineOp
  | int _ => .lessInt
  | float _ => .lessFloat

def greaterOp : OrderOperand → EngineOp
  | int _ => .greaterInt
  | float _ => .greaterFloat

def lessTest : OrderOperand → Test
  | int v => .lessInt v
  | float x => .lessFloat x

def greaterTest : OrderOperand → Test
  | int v => .greaterInt v
  | float x => .greaterFloat x

end OrderOperand

namespace SetOperand

def op : SetOperand → EngineOp
  | int32 _ => .inInt32
  | int64 _ => .inInt64

def test : SetOperand → Test
  | int32 l => .inInt32 l
  | int64 l => .inInt64 l

end SetOperand

namespace Method

def op : Method → EngineOp
  | isNull => .isNull
  | notNull => .notNull
  | equal operand => operand.equalOp
  | notEqual operand => operand.notEqualOp
  | less operand => operand.lessOp
  | greater operand => operand.greaterOp
  | between _ _ => .betweenInt
  | isIn operand => operand.op
  | contains _ => .containsText
  | startsWith _ => .startsWithText
  | endsWith _ => .endsWithText

def test : Method → Test
  | isNull => .isNull
  | notNull => .notNull
  | equal operand => operand.equalTest
  | notEqual operand => operand.notEqualTest
  | less operand => operand.lessTest
  | greater operand => operand.greaterTest
  | between low high => .betweenInt low high
  | isIn operand => operand.test
  | contains text => .containsText text
  | startsWith text => .startsWithText text
  | endsWith text => .endsWithText text

theorem op_test (m : Method) : m.test.op = m.op := by
  cases m with
  | equal operand | notEqual operand | less operand | greater operand | isIn operand =>
    cases operand <;> rfl
  | _ => rfl

end Method

end ObjectQuery
