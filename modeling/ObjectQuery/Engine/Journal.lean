import ObjectQuery.Engine.Condition

/-!
A journal keeps the most recent calls, oldest first, up to its capacity. A journal of capacity
zero stays empty.
-/
namespace ObjectQuery

def lastOf {α : Type} (n : Nat) (l : List α) : List α := l.drop (l.length - n)

theorem length_lastOf_le {α : Type} (n : Nat) (l : List α) : (lastOf n l).length ≤ n := by
  simp only [lastOf, List.length_drop]
  omega

structure Journal where
  capacity : Nat := 4096
  calls : List EngineCall := []
  deriving DecidableEq, Repr, Inhabited

namespace Journal

def push (j : Journal) (call : EngineCall) : Journal :=
  { j with calls := lastOf j.capacity (j.calls ++ [call]) }

def resize (j : Journal) (capacity : Nat) : Journal := ⟨capacity, lastOf capacity j.calls⟩

def clear (j : Journal) : Journal := { j with calls := [] }

theorem length_push_le (j : Journal) (call : EngineCall) :
    (j.push call).calls.length ≤ j.capacity := length_lastOf_le ..

theorem length_resize_le (j : Journal) (n : Nat) : (j.resize n).calls.length ≤ n :=
  length_lastOf_le ..

end Journal

end ObjectQuery
