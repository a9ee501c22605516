import ObjectQuery.Proofs.Moves

/-!
Failed calls are atomic. A call that ends in an error leaves two traces: its entry in the journal
and, if a fault of its entry point was in line, the gap where the oldest of these stood. Nothing is
assumed of the engine, so this holds in every state a run can reach.
-/
namespace ObjectQuery

theorem PendingFault.isSome_take?_iff {op : EngineOp} {faults : List PendingFault} :
    (take? op faults).isSome ↔ ∃ f ∈ faults, f.op = op := by
  rw [Option.isSome_iff_ne_none, Ne, take?_eq_none_iff]
  simp

namespace Engine

/-- The fault of this entry point that came first is gone, and the others stand as they stood. -/
def OldestTaken (op : EngineOp) (error : EngineError) (faults left : List PendingFault) : Prop :=
  ∃ before after, faults = before ++ ⟨op, error⟩ :: after ∧ (∀ f ∈ before, f.op ≠ op) ∧
    left = before ++ after

section Cause

variable {e : Engine} {op : EngineOp} {error : EngineError} {left : List PendingFault}

theorem Cause.taken_iff (cause : Cause e op error left) :
    (∃ f ∈ e.faults, f.op = op) ↔ OldestTaken op error e.faults left := by
  constructor
  · intro pending
    cases cause with
    | fault taken =>
      obtain ⟨before, after, line, rest, earlier⟩ := PendingFault.take?_eq_some taken
      exact ⟨before, after, line, earlier, rest⟩
    | own free =>
      have waiting := PendingFault.isSome_take?_iff.mpr pending
      rw [free] at waiting
      contradiction
  · rintro ⟨before, after, line, -, -⟩
    rw [line]
    exact ⟨⟨op, error⟩, by simp, rfl⟩

theorem Cause.same_of_not_pending (cause : Cause e op error left)
    (absent : ¬ ∃ f ∈ e.faults, f.op = op) : left = e.faults := by
  cases cause with
  | fault taken =>
    have waiting : (PendingFault.take? op e.faults).isSome := by simp [taken]
    exact absurd (PendingFault.isSome_take?_iff.mp waiting) absent
  | own free => rfl

end Cause

theorem failed_call_is_atomic {e e' : Engine} {call : EngineCall} {error : EngineError}
    (failed : e.perform call = (.refused error, e')) :
    e'.sessions = e.sessions ∧ e'.entities = e.entities ∧ e'.contexts = e.contexts ∧
    e'.queries = e.queries ∧ e'.counter = e.counter ∧ e'.doubleReleases = e.doubleReleases ∧
    e'.journal.capacity = e.journal.capacity ∧
    e'.journal.calls = lastOf e.journal.capacity (e.journal.calls ++ [call]) ∧
    ((∃ f ∈ e.faults, f.op = call.op) ↔ OldestTaken call.op error e.faults e'.faults) ∧
    ((¬ ∃ f ∈ e.faults, f.op = call.op) → e'.faults = e.faults) := by
  have move : Move e (.call call) (.refused error) e' := by
    have acted := move_of_act e (.call call)
    rwa [act, failed] at acted
  cases move with
  | refused cause =>
    exact ⟨rfl, rfl, rfl, rfl, rfl, rfl, rfl, rfl, cause.taken_iff, cause.same_of_not_pending⟩

/-- Two faults wait for compilations, one for another entry point stands between them, and the
journal holds a single call. -/
def lineOfFaults : Engine :=
  (run {} [.openSession, .failNext .isNull (.invalidKey "k"),
    .failNext .compile (.unknownContext 9), .failNext .compile (.rejected "later"),
    .resizeJournal 1, .call (.destroyQuery ⟨7, by decide⟩)]).2

theorem compile_in_line_is_atomic :
    let call := EngineCall.compile ⟨5, by decide⟩
    let e' := (lineOfFaults.perform call).2
    lineOfFaults.perform call = (.refused (.unknownContext 9), e') ∧
    e'.sessions = lineOfFaults.sessions ∧ e'.journal.calls = [call] ∧
    OldestTaken .compile (.unknownContext 9) lineOfFaults.faults e'.faults := by
  intro call e'
  have failed : lineOfFaults.perform call = (.refused (.unknownContext 9), e') := by
    decide +kernel
  obtain ⟨sessions, -, -, -, -, -, -, journal, taken, -⟩ := failed_call_is_atomic failed
  refine ⟨failed, sessions, ?_, ?_⟩
  · rw [journal]
    decide +kernel
  · apply taken.mp
    decide +kernel

end Engine

end ObjectQuery
