import ObjectQuery.Engine.Error
import ObjectQuery.Engine.Op

/-! Faults wait in line until a call of their entry point comes, and then fail it. -/
namespace ObjectQuery

structure PendingFault where
  op : EngineOp
  error : EngineError
  deriving DecidableEq, Repr

/-- Takes the oldest fault of an entry point out of the line. -/
def PendingFault.take? (op : EngineOp) :
    List PendingFault → Option (EngineError × List PendingFault)
  | [] => none
  | f :: rest =>
    if f.op = op then some (f.error, rest)
    else match take? op rest with
      | some (error, left) => some (error, f :: left)
      | none => none

theorem PendingFault.take?_eq_none_iff {op : EngineOp} {faults : List PendingFault} :
    take? op faults = none ↔ ∀ f ∈ faults, f.op ≠ op := by
  induction faults with
  | nil => simp [take?]
  | cons f rest ih =>
    simp only [take?, List.forall_mem_cons]
    split
    · simp_all
    · split <;> simp_all

end ObjectQuery
