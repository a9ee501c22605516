/-! The entry points of an engine, in their fixed order. -/
namespace ObjectQuery

inductive EngineOp where
  | createContext
  | destroyContext
  | compile
  | destroyQuery
  | isNull
  | notNull
  | equalInt
  | notEqualInt
  | lessInt
  | greaterInt
  | betweenInt
  | inInt32
  | inInt64
  | equalText
  | notEqualText
  | containsText
  | startsWithText
  | endsWithText
  | lessFloat
  | greaterFloat
  deriving DecidableEq, Repr, Inhabited

namespace EngineOp

def all : List EngineOp :=
  [createContext, destroyContext, compile, destroyQuery, isNull, notNull, equalInt, notEqualInt,
    lessInt, greaterInt, betweenInt, inInt32, inInt64, equalText, notEqualText, containsText,
    startsWithText, endsWithText, lessFloat, greaterFloat]

def label : EngineOp → String
  | createContext => "create_context"
  | destroyContext => "destroy_context"
  | compile => "compile"
  | destroyQuery => "destroy_query"
  | isNull => "is_null"
  | notNull => "not_null"
  | equalInt => "equal_int"
  | notEqualInt => "not_equal_int"
  | lessInt => "less_int"
  | greaterInt => "greater_int"
  | betweenInt => "between_int"
  | inInt32 => "in_int32"
  | inInt64 => "in_int64"
  | equalText => "equal_text"
  | notEqualText => "not_equal_text"
  | containsText => "contains_text"
  | startsWithText => "starts_with_text"
  | endsWithText => "ends_with_text"
  | lessFloat => "less_float"
  | greaterFloat => "greater_float"

def isCondition : EngineOp → Bool
  | createContext | destroyContext | compile | destroyQuery => false
  | _ => true

def isFallible (op : EngineOp) : Bool :=
  op.isCondition || op == createContext || op == compile

def position (op : EngineOp) : Nat := all.idxOf op

def sort (ops : List EngineOp) : List EngineOp :=
  ops.mergeSort fun a b => a.position ≤ b.position

theorem mem_all (op : EngineOp) : op ∈ all := by cases op <;> decide

theorem label_injective {a b : EngineOp} (h : a.label = b.label) : a = b := by
  revert a b
  have : ∀ a ∈ all, ∀ b ∈ all, a.label = b.label → a = b := by decide +kernel
  exact fun {a b} h => this a (mem_all a) b (mem_all b) h

end EngineOp

end ObjectQuery
