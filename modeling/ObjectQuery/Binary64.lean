/-!
Double-precision numbers by their bits. Equality of the type is equality of the bits;
`Binary64.agrees` is equality of the numbers, for which a NaN equals nothing and the two zeros are
one.
-/
namespace ObjectQuery

structure Binary64 where
  bits : UInt64
  deriving DecidableEq, Repr, Inhabited

namespace Binary64

def nan : Binary64 := ⟨0x7ff8000000000000⟩

def magnitude (x : Binary64) : UInt64 := x.bits &&& 0x7fffffffffffffff

def isNaN (x : Binary64) : Bool := x.magnitude > 0x7ff0000000000000

def isZero (x : Binary64) : Bool := x.magnitude == 0

def agrees (x y : Binary64) : Bool :=
  !x.isNaN && !y.isNaN && (x == y || (x.isZero && y.isZero))

example : agrees ⟨0⟩ ⟨0x8000000000000000⟩ = true ∧ agrees nan nan = false := by decide

end Binary64

end ObjectQuery
