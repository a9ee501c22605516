import ObjectQuery.Proofs.Handles

/-!
The chronicle of an engine: what was done to it and what came of it. A chronicle that is cut at an
entry is the chronicles of two shorter runs, with the engine between them; and while the numbers
last, no two of its entries give out the same one.
-/
namespace ObjectQuery.Engine

/-- Actions with their outcomes, oldest first. -/
abbrev Chronicle := List (Action × Outcome)

def chronicle (e : Engine) (actions : List Action) : Chronicle := actions.zip (e.run actions).1

variable {e : Engine} {actions : List Action} {action : Action} {outcome : Outcome}
  {before after : Chronicle}

theorem length_run (e : Engine) (actions : List Action) :
    (e.run actions).1.length = actions.length := by
  induction actions generalizing e with
  | nil => rfl
  | cons action rest ih => simp [run, ih]

theorem chronicle_cons (e : Engine) (action : Action) (rest : List Action) :
    e.chronicle (action :: rest) =
      (action, (e.act action).1) :: (e.act action).2.chronicle rest := rfl

theorem chronicle_append (e : Engine) (actions more : List Action) :
    e.chronicle (actions ++ more) = e.chronicle actions ++ (e.run actions).2.chronicle more := by
  rw [chronicle, run_append]
  exact List.zip_append (length_run e actions).symm

theorem actions_of_chronicle (e : Engine) (actions : List Action) :
    (e.chronicle actions).map Prod.fst = actions :=
  List.map_fst_zip (Nat.le_of_eq (length_run e actions).symm)

theorem run_past (e : Engine) (past : List Action) (action : Action) (future : List Action) :
    (e.run (past ++ action :: future)).2 = (((e.run past).2.act action).2.run future).2 := by
  rw [run_append]
  rfl

theorem split_of_chronicle (split : e.chronicle actions = before ++ (action, outcome) :: after) :
    ∃ past future, actions = past ++ action :: future ∧ before = e.chronicle past ∧
      outcome = ((e.run past).2.act action).1 ∧
      after = ((e.run past).2.act action).2.chronicle future := by
  induction before generalizing e actions with
  | nil =>
    cases actions with
    | nil => contradiction
    | cons a rest =>
      rw [chronicle_cons, List.nil_append, List.cons.injEq, Prod.mk.injEq] at split
      obtain ⟨⟨rfl, rfl⟩, rfl⟩ := split
      exact ⟨[], rest, rfl, rfl, rfl, rfl⟩
  | cons entry before ih =>
    cases actions with
    | nil => contradiction
    | cons a rest =>
      rw [chronicle_cons, List.cons_append, List.cons.injEq] at split
      obtain ⟨rfl, split⟩ := split
      obtain ⟨past, future, rfl, rfl, outcome, after⟩ := ih split
      exact ⟨a :: past, future, rfl, rfl, outcome, after⟩

theorem grants_eq (e : Engine) (actions : List Action) :
    grants (e.run actions).1 = (e.chronicle actions).filterMap fun entry => entry.2.grant? := by
  have outcomes : (e.chronicle actions).map Prod.snd = (e.run actions).1 :=
    List.map_snd_zip (Nat.le_of_eq (length_run e actions))
  rw [grants, ← outcomes, List.filterMap_map]
  rfl

theorem grants_of_past (e : Engine) (past future : List Action) :
    (grants (e.run past).1).length ≤ (grants (e.run (past ++ future)).1).length := by
  rw [grants_eq, grants_eq, chronicle_append, List.filterMap_append, List.length_append]
  omega

theorem nodup_numbers (few : (grants (run {} actions).1).length ≤ UInt64.size - 1) :
    ((grants (run {} actions).1).map Grant.number).Nodup := by
  apply nodup_of_places
  intro i g placed
  obtain ⟨bound, -⟩ := List.getElem?_eq_some_iff.mp placed
  have number := Counted.fresh.number_of_run actions i placed
  omega

theorem granted_once (few : (grants (run {} actions).1).length ≤ UInt64.size - 1)
    (split : chronicle {} actions = before ++ (action, outcome) :: after) {g : Grant}
    (granted : outcome.grant? = some g) :
    ∀ entry, entry ∈ before ∨ entry ∈ after → entry.2.grant? ≠ some g := by
  have distinct := nodup_numbers few
  rw [grants_eq, split, List.filterMap_append, List.filterMap_cons, granted, List.map_append,
    List.nodup_append] at distinct
  obtain ⟨-, later, apart⟩ := distinct
  intro entry member again
  have listed (part : Chronicle) (within : entry ∈ part) :
      g.number ∈ (part.filterMap fun entry => entry.2.grant?).map Grant.number :=
    List.mem_map_of_mem (List.mem_filterMap.mpr ⟨entry, within, again⟩)
  rcases member with earlier | later'
  · exact apart g.number (listed before earlier) g.number (by simp) rfl
  · exact (List.nodup_cons.mp later).1 (listed after later')

end ObjectQuery.Engine
