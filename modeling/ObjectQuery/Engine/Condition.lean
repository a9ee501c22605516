import ObjectQuery.Property
import ObjectQuery.Binary64
import ObjectQuery.Engine.Op
import ObjectQuery.Engine.Handle

/-!
Conditions on one property, and the calls that bring them to an engine. Both have two equalities:
that of the type compares operands bit for bit, `agrees` compares floating operands as numbers.
-/
namespace ObjectQuery

inductive Test where
  | isNull
  | notNull
  | equalInt (value : Int64)
  | notEqualInt (value : Int64)
  | lessInt (value : Int64)
  | greaterInt (value : Int64)
  | betweenInt (low high : Int64)
  | inInt32 (values : List Int32)
  | inInt64 (values : List Int64)
  | equalText (value : String)
  | notEqualText (value : String)
  | containsText (value : String)
  | startsWithText (value : String)
  | endsWithText (value : String)
  | lessFloat (value : Binary64)
  | greaterFloat (value : Binary64)
  deriving DecidableEq, Repr

namespace Test

def op : Test → EngineOp
  | isNull => .isNull
  | notNull => .notNull
  | equalInt _ => .equalInt
  | notEqualInt _ => .notEqualInt
  | lessInt _ => .lessInt
  | greaterInt _ => .greaterInt
  | betweenInt _ _ => .betweenInt
  | inInt32 _ => .inInt32
  | inInt64 _ => .inInt64
  | equalText _ => .equalText
  | notEqualText _ => .notEqualText
  | containsText _ => .containsText
  | startsWithText _ => .startsWithText
  | endsWithText _ => .endsWithText
  | lessFloat _ => .lessFloat
  | greaterFloat _ => .greaterFloat

def operandType? : Test → Option ValueType
  | isNull | notNull => none
  | equalInt _ | notEqualInt _ | lessInt _ | greaterInt _ | betweenInt _ _ | inInt32 _
  | inInt64 _ => some .int64
  | equalText _ | notEqualText _ | containsText _ | startsWithText _ | endsWithText _ => some .text
  | lessFloat _ | greaterFloat _ => some .float64

def agrees : Test → Test → Bool
  | lessFloat x, lessFloat y => x.agrees y
  | greaterFloat x, greaterFloat y => x.agrees y
  | s, t => s == t

theorem isCondition_op (t : Test) : t.op.isCondition = true := by cases t <;> rfl

end Test

structure Condition where
  property : PropertyId
  test : Test
  deriving DecidableEq, Repr

namespace Condition

def op (c : Condition) : EngineOp := c.test.op

def operandType? (c : Condition) : Option ValueType := c.test.operandType?

def agrees (c d : Condition) : Bool := c.property == d.property && c.test.agrees d.test

end Condition

inductive EngineCall where
  | createContext (session : SessionHandle) (entity : String)
  | condition (context : ContextHandle) (condition : Condition)
  | compile (context : ContextHandle)
  | destroyContext (context : ContextHandle)
  | destroyQuery (query : QueryHandle)
  deriving DecidableEq, Repr

namespace EngineCall

def op : EngineCall → EngineOp
  | createContext .. => .createContext
  | condition _ c => c.op
  | compile _ => .compile
  | destroyContext _ => .destroyContext
  | destroyQuery _ => .destroyQuery

def agrees : EngineCall → EngineCall → Bool
  | condition x c, condition y d => x == y && c.agrees d
  | a, b => a == b

end EngineCall

end ObjectQuery
