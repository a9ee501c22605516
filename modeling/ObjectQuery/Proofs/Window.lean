import ObjectQuery.Proofs.Unjournaled

/-!
The journal is a window on the calls made since it was cleared. It shows the end of them, never
more than its capacity, and if the capacity has not changed since, it shows as much as fits. What
it shows has no bearing on anything else: two runs that differ in what is done to the journal only
differ in the journal only.
-/
namespace ObjectQuery

section LastOf

variable {α : Type}

theorem lastOf_suffix (n : Nat) (l : List α) : lastOf n l <:+ l := List.drop_suffix _ _

theorem lastOf_of_length_le {n : Nat} {l : List α} (fits : l.length ≤ n) : lastOf n l = l := by
  rw [lastOf, Nat.sub_eq_zero_of_le fits, List.drop_zero]

theorem lastOf_lastOf_append (n : Nat) (l more : List α) :
    lastOf n (lastOf n l ++ more) = lastOf n (l ++ more) := by
  have within : l.length - n ≤ l.length := by omega
  have cut : lastOf n l ++ more = (l ++ more).drop (l.length - n) :=
    (List.drop_append_of_le_length within).symm
  rw [cut, lastOf, lastOf, List.drop_drop, List.length_drop, List.length_append]
  congr 1
  omega

theorem lastOf_min_length (n : Nat) (l : List α) : lastOf (min n l.length) l = lastOf n l := by
  unfold lastOf
  congr 1
  omega

end LastOf

namespace Journal

variable {j : Journal} {calls : List EngineCall}

def Fits (j : Journal) : Prop := j.calls.length ≤ j.capacity

theorem capacity_pushAll (j : Journal) (calls : List EngineCall) :
    (j.pushAll calls).capacity = j.capacity := by
  induction calls generalizing j with
  | nil => rfl
  | cons call rest ih => exact ih (j.push call)

theorem calls_pushAll (fits : j.Fits) (calls : List EngineCall) :
    (j.pushAll calls).calls = lastOf j.capacity (j.calls ++ calls) := by
  induction calls generalizing j with
  | nil =>
    rw [List.append_nil, lastOf_of_length_le fits]
    rfl
  | cons call rest ih =>
    calc (j.pushAll (call :: rest)).calls
        = lastOf j.capacity (lastOf j.capacity (j.calls ++ [call]) ++ rest) :=
          ih (length_push_le j call)
      _ = lastOf j.capacity (j.calls ++ call :: rest) := by
          rw [lastOf_lastOf_append, List.append_assoc]
          rfl

theorem Fits.pushAll (fits : j.Fits) (calls : List EngineCall) : (j.pushAll calls).Fits := by
  unfold Fits
  rw [calls_pushAll fits, capacity_pushAll]
  exact length_lastOf_le ..

theorem Fits.tend (fits : j.Fits) (o : Operation) : (o.tend j).Fits := by
  cases o with
  | engine action =>
    cases action with
    | clearJournal => exact Nat.zero_le _
    | resizeJournal capacity => exact length_resize_le j capacity
    | _ => exact fits
  | _ => exact fits

/-- Short of clearing, tending to a journal only cuts off its beginning. -/
theorem calls_tend (fits : j.Fits) {o : Operation} (uncleared : o ≠ .engine .clearJournal) :
    (o.tend j).calls = lastOf (o.tend j).capacity j.calls := by
  cases o with
  | engine action =>
    cases action with
    | clearJournal => contradiction
    | resizeJournal capacity => rfl
    | _ => exact (lastOf_of_length_le fits).symm
  | _ => exact (lastOf_of_length_le fits).symm

end Journal

def Operation.capacity? : Operation → Option Nat
  | .engine (.resizeJournal capacity) => some capacity
  | _ => none

theorem Operation.capacity_tend (o : Operation) (j : Journal) :
    (o.tend j).capacity = o.capacity?.getD j.capacity := by
  cases o with
  | engine action => cases action <;> rfl
  | _ => rfl

namespace Workspace

theorem journal_of_concat (operations : List Operation) (o : Operation) :
    ∃ made, (after (operations ++ [o])).calls = (after operations).calls ++ made ∧
      (after (operations ++ [o])).engine.journal =
        (o.tend (after operations).engine.journal).pushAll (made.map Prod.fst) := by
  have step := journal_of_step (after operations) o
  rwa [after, ← run_concat] at step

theorem journal_fits (operations : List Operation) : (after operations).engine.journal.Fits := by
  induction operations using List.reverseRecOn with
  | nil => exact Nat.zero_le _
  | append_singleton earlier o ih =>
    obtain ⟨made, -, journal⟩ := journal_of_concat earlier o
    rw [journal]
    exact (ih.tend o).pushAll _

theorem capacity_of_after (operations : List Operation) :
    (after operations).engine.journal.capacity =
      (operations.filterMap Operation.capacity?).getLast?.getD 4096 := by
  induction operations using List.reverseRecOn with
  | nil => rfl
  | append_singleton earlier o ih =>
    obtain ⟨made, -, journal⟩ := journal_of_concat earlier o
    rw [journal, Journal.capacity_pushAll, Operation.capacity_tend, ih, List.filterMap_append]
    cases set : o.capacity? <;> simp [set]

theorem entered_of_concat (operations : List Operation) {o : Operation}
    (uncleared : o ≠ .engine .clearJournal) :
    ∃ made, (after (operations ++ [o])).calls = (after operations).calls ++ made ∧
      (after (operations ++ [o])).engine.journal.calls =
        lastOf (after (operations ++ [o])).engine.journal.capacity
          ((after operations).engine.journal.calls ++ made.map Prod.fst) := by
  obtain ⟨made, calls, journal⟩ := journal_of_concat operations o
  have fits := journal_fits operations
  refine ⟨made, calls, ?_⟩
  rw [journal, Journal.capacity_pushAll, Journal.calls_pushAll (fits.tend o),
    Journal.calls_tend fits uncleared, lastOf_lastOf_append]

/-- The journal has just been made or cleared. -/
def IsStart (past : List Operation) : Prop :=
  past = [] ∨ ∃ earlier, past = earlier ++ [.engine .clearJournal]

theorem journal_of_start {past : List Operation} (start : IsStart past) :
    (after past).engine.journal.calls = [] := by
  rcases start with rfl | ⟨earlier, rfl⟩
  · rfl
  · rw [after, run_concat]
    rfl

theorem window_since_start {past recent : List Operation} (start : IsStart past)
    (uncleared : .engine .clearJournal ∉ recent) :
    ∃ made, (after (past ++ recent)).calls = (after past).calls ++ made ∧
      (after (past ++ recent)).engine.journal.calls <:+ made.map Prod.fst ∧
      ∀ capacity, (∀ part rest, recent = part ++ rest →
          (after (past ++ part)).engine.journal.capacity = capacity) →
        (after (past ++ recent)).engine.journal.calls = lastOf capacity (made.map Prod.fst) := by
  induction recent using List.reverseRecOn with
  | nil =>
    rw [List.append_nil, journal_of_start start]
    refine ⟨[], (List.append_nil _).symm, List.suffix_rfl, ?_⟩
    intro capacity steady
    exact (lastOf_of_length_le (Nat.zero_le _)).symm
  | append_singleton recent o ih =>
    rw [List.mem_append, List.mem_singleton, not_or] at uncleared
    obtain ⟨since, now⟩ := uncleared
    obtain ⟨made, calls, ending, full⟩ := ih since
    obtain ⟨more, further, entered⟩ := entered_of_concat (past ++ recent) (Ne.symm now)
    rw [List.append_assoc] at further entered
    refine ⟨made ++ more, ?_, ?_, ?_⟩
    · rw [further, calls, List.append_assoc]
    · rw [entered, List.map_append]
      exact (lastOf_suffix _ _).trans (List.suffix_append_self_iff.mpr ending)
    · intro capacity steady
      have before : (after (past ++ recent)).engine.journal.calls =
          lastOf capacity (made.map Prod.fst) := by
        apply full
        intro part rest split
        apply steady part (rest ++ [o])
        rw [split, List.append_assoc]
      have same := steady (recent ++ [o]) [] (List.append_nil _).symm
      rw [entered, same, before, lastOf_lastOf_append, List.map_append]

theorem same_but_journal {operations operations' : List Operation}
    (same : operations.filter (!·.tendsJournal) = operations'.filter (!·.tendsJournal)) :
    (transcript operations).filter (fun entry => !entry.1.tendsJournal) =
      (transcript operations').filter (fun entry => !entry.1.tendsJournal) ∧
    (after operations').withJournal (after operations).engine.journal = after operations := by
  obtain ⟨answers, j, plain⟩ := run_withJournal {} {} operations
  obtain ⟨answers', j', plain'⟩ := run_withJournal {} {} operations'
  rw [← same] at answers' plain'
  constructor
  · exact answers.trans answers'.symm
  · have alike : (after operations').withJournal j' = (after operations).withJournal j :=
      plain'.symm.trans plain
    exact congrArg (·.withJournal (after operations).engine.journal) alike

/-- The journal is a bounded window on the calls since it was cleared, every call is entered
whether or not it is refused, and nothing else depends on what is done to the journal. -/
theorem journal_is_a_window :
    (∀ operations, let j := (after operations).engine.journal
      j.calls.length ≤ j.capacity ∧
      j.capacity = (operations.filterMap Operation.capacity?).getLast?.getD 4096 ∧
      (j.capacity = 0 → j.calls = [])) ∧
    (∀ past recent, IsStart past → .engine .clearJournal ∉ recent →
      ∃ made, (after (past ++ recent)).calls = (after past).calls ++ made ∧
        (after (past ++ recent)).engine.journal.calls <:+ made.map Prod.fst ∧
        ∀ capacity, (∀ part rest, recent = part ++ rest →
            (after (past ++ part)).engine.journal.capacity = capacity) →
          (after (past ++ recent)).engine.journal.calls =
            lastOf (min capacity made.length) (made.map Prod.fst)) ∧
    (∀ (e : Engine) call, (e.perform call).2.journal.capacity = e.journal.capacity ∧
      (e.perform call).2.journal.calls = lastOf e.journal.capacity (e.journal.calls ++ [call])) ∧
    (∀ operations o, o ≠ .engine .clearJournal →
      ∃ made, (after (operations ++ [o])).calls = (after operations).calls ++ made ∧
        (after (operations ++ [o])).engine.journal.calls =
          lastOf (after (operations ++ [o])).engine.journal.capacity
            ((after operations).engine.journal.calls ++ made.map Prod.fst)) ∧
    (∀ operations operations',
      operations.filter (!·.tendsJournal) = operations'.filter (!·.tendsJournal) →
      let w := after operations
      let w' := after operations'
      (transcript operations).filter (fun entry => !entry.1.tendsJournal) =
        (transcript operations').filter (fun entry => !entry.1.tendsJournal) ∧
      w.engine.sessions = w'.engine.sessions ∧ w.engine.entities = w'.engine.entities ∧
      w.engine.contexts = w'.engine.contexts ∧ w.engine.queries = w'.engine.queries ∧
      w.engine.faults = w'.engine.faults ∧ w.engine.counter = w'.engine.counter ∧
      w.engine.doubleReleases = w'.engine.doubleReleases ∧
      w = w'.withJournal w.engine.journal) := by
  refine ⟨?_, ?_, ?_, ?_, ?_⟩
  · intro operations j
    have fits : j.calls.length ≤ j.capacity := journal_fits operations
    refine ⟨fits, capacity_of_after operations, ?_⟩
    intro off
    rw [off] at fits
    exact List.eq_nil_of_length_eq_zero (Nat.le_zero.mp fits)
  · intro past recent start uncleared
    obtain ⟨made, calls, ending, full⟩ := window_since_start start uncleared
    refine ⟨made, calls, ending, ?_⟩
    intro capacity steady
    rw [full capacity steady, ← lastOf_min_length capacity, List.length_map]
  · intro e call
    have moved := Engine.perform_withJournal (e := e) (j := e.journal) call
    have pushed : (e.perform call).2.journal = e.journal.push call :=
      congrArg (fun r => r.2.journal) moved
    rw [pushed]
    exact ⟨rfl, rfl⟩
  · intro operations o uncleared
    exact entered_of_concat operations uncleared
  · intro operations operations' same w w'
    obtain ⟨answers, alike⟩ := same_but_journal same
    have engine : w.engine = w'.engine.withJournal w.engine.journal :=
      congrArg Workspace.engine alike.symm
    refine ⟨answers, ?_, ?_, ?_, ?_, ?_, ?_, ?_, alike.symm⟩
    all_goals
      rw [engine]
      rfl

/-- Half of the sample run with a journal of one call, which is then cleared and made for three;
the rest of the sample run. -/
def windowedRun : List Operation :=
  .engine (.resizeJournal 1) :: sampleRun.take 8 ++
    .engine (.resizeJournal 3) :: .engine .clearJournal :: sampleRun.drop 8

theorem windowedRun_shows_three_calls :
    sampleRun.filter (!·.tendsJournal) = windowedRun.filter (!·.tendsJournal) ∧
    (after sampleRun).engine.contexts = (after windowedRun).engine.contexts ∧
    (after windowedRun).engine.journal.calls.length = 3 ∧
    ∃ made : List (EngineCall × Engine.Outcome), made.length = 8 ∧
      (after windowedRun).engine.journal.calls = lastOf (min 3 made.length) (made.map Prod.fst) := by
  obtain ⟨bounded, window, -, -, runs⟩ := journal_is_a_window
  have same : sampleRun.filter (!·.tendsJournal) = windowedRun.filter (!·.tendsJournal) := by
    decide +kernel
  obtain ⟨-, -, -, contexts, -⟩ := runs sampleRun windowedRun same
  let past := windowedRun.take 11
  have start : IsStart past := Or.inr ⟨windowedRun.take 10, by decide +kernel⟩
  have uncleared : .engine .clearJournal ∉ sampleRun.drop 8 := by decide +kernel
  obtain ⟨made, calls, -, full⟩ := window past (sampleRun.drop 8) start uncleared
  have steady : ∀ part rest, sampleRun.drop 8 = part ++ rest →
      (after (past ++ part)).engine.journal.capacity = 3 := by
    intro part rest split
    obtain ⟨-, capacity, -⟩ := bounded (past ++ part)
    have unset : (sampleRun.drop 8).filterMap Operation.capacity? = [] := by decide +kernel
    rw [split, List.filterMap_append, List.append_eq_nil_iff] at unset
    rw [capacity, List.filterMap_append, unset.1]
    decide +kernel
  have whole : past ++ sampleRun.drop 8 = windowedRun := by decide +kernel
  have shows := full 3 steady
  rw [whole] at calls shows
  refine ⟨same, contexts, ?_, made, ?_, shows⟩
  · decide +kernel
  · have counted := congrArg List.length calls
    have all : (after windowedRun).calls.length = 11 := by decide +kernel
    have earlier : (after past).calls.length = 3 := by decide +kernel
    rw [List.length_append] at counted
    omega

end Workspace

end ObjectQuery
