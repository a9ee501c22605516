import ObjectQuery.Proofs.Chronicle

/-!
The accounts of releases. Whatever handles clients name, each one that came to be and each release
that found nothing is matched by an entry that still stands or by a release that was made. A
release that finds nothing is counted and does nothing else.
-/
namespace ObjectQuery

theorem Table.get?_of_not_mem_numbers {kind : HandleKind} {α : Type} {t : Table (Handle kind) α}
    {h : Handle kind} (absent : h.raw ∉ t.numbers) : t.get? h = none := by
  cases found : t.get? h with
  | none => rfl
  | some a => exact absurd (mem_numbers_iff.mpr ⟨h, by simp [found], rfl⟩) absent

namespace Engine

def Action.isDestroy : Action → Bool
  | .call (.destroyContext _) | .call (.destroyQuery _) => true
  | _ => false

namespace Chronicle

def isCreation : Action × Outcome → Bool
  | (.call (.createContext _ _), .context _) => true
  | _ => false

def isCompilation : Action × Outcome → Bool
  | (.call (.compile _), .query _) => true
  | _ => false

end Chronicle

open Chronicle

/-- The action destroys what has no entry of the kind it names. -/
def misses (e : Engine) : Action → Bool
  | .call (.destroyContext context) => !e.contexts.contains context
  | .call (.destroyQuery query) => !e.queries.contains query
  | _ => false

def stages (e : Engine) : List Action → List (Engine × Action)
  | [] => []
  | action :: rest => (e, action) :: stages (e.act action).2 rest

variable {e : Engine} {action : Action} {actions : List Action} {n : Nat}

theorem outcome_of_isDestroy (e : Engine) (destroys : action.isDestroy = true) :
    (e.act action).1 = .done := by
  unfold Action.isDestroy at destroys
  split at destroys
  · rfl
  · rfl
  · contradiction

theorem isDestroy_of_misses (missed : e.misses action = true) : action.isDestroy = true := by
  unfold misses at missed
  split at missed
  · rfl
  · rfl
  · contradiction

theorem Counted.contexts_peek (counted : Counted n e) (fits : n + 1 ≤ UInt64.size - 1) :
    e.contexts.get? (e.counter.peek .context) = none :=
  Table.get?_of_not_mem_numbers (counted.next_not_mem fits .context)

theorem Counted.queries_peek (counted : Counted n e) (fits : n + 1 ≤ UInt64.size - 1) :
    e.queries.get? (e.counter.peek .query) = none :=
  Table.get?_of_not_mem_numbers (counted.next_not_mem fits .query)

theorem act_of_misses (missed : e.misses action = true) :
    ∃ call, action = .call call ∧
      (e.act action).2 = { e.note call with doubleReleases := e.doubleReleases + 1 } := by
  unfold misses at missed
  split at missed
  · rename_i context
    exact ⟨_, rfl, destroyContext_dead (by simpa using missed)⟩
  · rename_i query
    exact ⟨_, rfl, destroyQuery_dead (by simpa using missed)⟩
  · contradiction

theorem doubleReleases_act (e : Engine) (action : Action) :
    (e.act action).2.doubleReleases =
      if e.misses action then e.doubleReleases + 1 else e.doubleReleases := by
  cases missed : e.misses action with
  | true =>
    obtain ⟨call, rfl, after⟩ := act_of_misses missed
    rw [after]
    rfl
  | false =>
    have move := move_of_act e action
    generalize (e.act action).1 = outcome at move
    generalize (e.act action).2 = e' at move ⊢
    cases move with
    | missed dead => simp [misses, dead] at missed
    | missedQuery dead => simp [misses, dead] at missed
    | _ => rfl

theorem entries_act (counted : Counted n e) (action : Action)
    (few : n + (grants [(e.act action).1]).length ≤ UInt64.size - 1) :
    let e' := (e.act action).2
    let entry := (action, (e.act action).1)
    e'.liveContexts + e'.liveQueries + (if action.isDestroy then 1 else 0) =
      e.liveContexts + e.liveQueries + (if isCreation entry then 1 else 0) +
        (if isCompilation entry then 1 else 0) + (if e.misses action then 1 else 0) := by
  have answered : action.isDestroy = true → (e.act action).1 = .done := outcome_of_isDestroy e
  have move := move_of_act e action
  generalize (e.act action).1 = outcome at move few answered ⊢
  generalize (e.act action).2 = e' at move ⊢
  cases move with
  | @refused call error left cause =>
    have kept : Action.isDestroy (.call call) = false := by
      apply Bool.eq_false_iff.mpr
      intro destroys
      exact absurd (answered destroys) (by simp)
    have hit : e.misses (.call call) = false := by
      apply Bool.eq_false_iff.mpr
      intro missed
      exact absurd (isDestroy_of_misses missed) (by simp [kept])
    simp [kept, hit, isCreation, isCompilation, liveContexts, liveQueries, note]
  | @created session entity free opened known =>
    have larger := Table.size_insert (⟨entity, []⟩ : Context) (counted.contexts_peek few)
    exact (congrArg (· + e.queries.size) larger).trans (Nat.add_right_comm ..)
  | @compiled context ctx free live =>
    have larger := Table.size_insert ctx.conditions (counted.queries_peek few)
    exact congrArg (e.contexts.size + ·) larger
  | added free valid =>
    simp only [liveContexts, Table.size_modify]
    rfl
  | @destroyed context live =>
    have hit : e.misses (.call (.destroyContext context)) = false := by simp [misses, live]
    have less := Table.size_erase live
    rw [hit]
    change (e.contexts.erase context).size + e.queries.size + 1 = e.contexts.size + e.queries.size
    omega
  | @missed context dead =>
    have missed : e.misses (.call (.destroyContext context)) = true := by simp [misses, dead]
    rw [missed]
    rfl
  | @destroyedQuery query live =>
    have hit : e.misses (.call (.destroyQuery query)) = false := by simp [misses, live]
    have less := Table.size_erase live
    rw [hit]
    change e.contexts.size + (e.queries.erase query).size + 1 = e.contexts.size + e.queries.size
    omega
  | @missedQuery query dead =>
    have missed : e.misses (.call (.destroyQuery query)) = true := by simp [misses, dead]
    rw [missed]
    rfl
  | _ => rfl

theorem countP_misses_le (e : Engine) (actions : List Action) :
    (e.stages actions).countP (fun stage => stage.1.misses stage.2) ≤
      actions.countP Action.isDestroy := by
  induction actions generalizing e with
  | nil => exact Nat.le_refl 0
  | cons action rest ih =>
    have later := ih (e.act action).2
    rw [stages, List.countP_cons, List.countP_cons]
    cases missed : e.misses action with
    | true =>
      rw [isDestroy_of_misses missed]
      simp only [↓reduceIte]
      omega
    | false =>
      simp only [Bool.false_eq_true, ↓reduceIte]
      omega

theorem doubleReleases_run (e : Engine) (actions : List Action) :
    (e.run actions).2.doubleReleases.toNat =
      (e.doubleReleases.toNat +
        (e.stages actions).countP fun stage => stage.1.misses stage.2) % UInt64.size := by
  induction actions generalizing e with
  | nil =>
    have bound := e.doubleReleases.toNat_lt
    exact (Nat.mod_eq_of_lt bound).symm
  | cons action rest ih =>
    have step := doubleReleases_act e action
    rw [run, ih, stages, List.countP_cons, step]
    cases missed : e.misses action with
    | true =>
      simp only [↓reduceIte, UInt64.toNat_add, UInt64.toNat_one, UInt64.size]
      omega
    | false => simp

theorem entries_run (counted : Counted n e) (actions : List Action)
    (few : n + (grants (e.run actions).1).length ≤ UInt64.size - 1) :
    let e' := (e.run actions).2
    let t := e.chronicle actions
    e'.liveContexts + e'.liveQueries + actions.countP Action.isDestroy =
      e.liveContexts + e.liveQueries + t.countP isCreation + t.countP isCompilation +
        (e.stages actions).countP fun stage => stage.1.misses stage.2 := by
  induction actions generalizing n e with
  | nil => rfl
  | cons action rest ih =>
    intro e' t
    have all : grants (e.run (action :: rest)).1 =
        grants [(e.act action).1] ++ grants ((e.act action).2.run rest).1 := grants_cons ..
    rw [all, List.length_append] at few
    have now := entries_act counted action (by omega)
    have later := ih (counted.act action) (by omega)
    have whole : e' = ((e.act action).2.run rest).2 := rfl
    simp only [whole, t, chronicle_cons, stages, List.countP_cons]
    dsimp only at now later
    omega

/-- Contexts and queries that came to be and releases that missed are accounted for by entries
that stand and by releases. -/
theorem releases_balance {actions : List Action}
    (few : (grants (run {} actions).1).length ≤ UInt64.size - 1)
    (bounded : actions.countP Action.isDestroy < UInt64.size) :
    let t := chronicle {} actions
    let e := (run {} actions).2
    t.countP isCreation + t.countP isCompilation + e.doubleReleases.toNat =
      e.liveContexts + e.liveQueries + actions.countP Action.isDestroy ∧
    e.doubleReleases.toNat =
      ((stages {} actions).countP fun stage => stage.1.misses stage.2) ∧
    ∀ stage ∈ stages {} actions, stage.1.misses stage.2 = true →
      let next := (stage.1.act stage.2).2
      next.contexts = stage.1.contexts ∧ next.queries = stage.1.queries ∧
        next.sessions = stage.1.sessions ∧ next.faults = stage.1.faults := by
  intro t e
  have within : 0 + (grants (run {} actions).1).length ≤ UInt64.size - 1 := by omega
  have entries : e.liveContexts + e.liveQueries + actions.countP Action.isDestroy =
      0 + t.countP isCreation + t.countP isCompilation +
        (stages {} actions).countP fun stage => stage.1.misses stage.2 :=
    entries_run Counted.fresh actions within
  have fewer := countP_misses_le {} actions
  have missed : e.doubleReleases.toNat =
      (stages {} actions).countP fun stage => stage.1.misses stage.2 := by
    have counted := doubleReleases_run {} actions
    simp only [UInt64.toNat_zero, Nat.zero_add] at counted
    rw [counted]
    apply Nat.mod_eq_of_lt
    omega
  constructor
  · rw [missed]
    omega
  · constructor
    · exact missed
    · intro stage member misses next
      obtain ⟨call, named, after⟩ := act_of_misses misses
      have changed : next = { stage.1.note call with
        doubleReleases := stage.1.doubleReleases + 1 } := after
      rw [changed]
      exact ⟨rfl, rfl, rfl, rfl⟩

/-- Two contexts, the first compiled and destroyed twice. A query and a context are destroyed that
do not exist, though their numbers do, and a context whose number was never given out; one creation
meets a fault and one compilation a dead context. -/
def strayReleases : List Action :=
  let first := HandleCounter.start
  let second := first.advance
  let third := second.advance
  let session := first.peek .session
  let context := second.peek .context
  [.register ⟨"Order", []⟩,
    .openSession,
    .call (.createContext session "Order"),
    .call (.compile context),
    .failNext .createContext (.rejected "full"),
    .call (.destroyContext (third.peek .context)),
    .call (.destroyQuery (second.peek .query)),
    .call (.destroyContext (third.advance.advance.peek .context)),
    .call (.destroyContext context),
    .call (.destroyContext context),
    .call (.createContext session "Order"),
    .call (.compile context),
    .call (.createContext session "Order")]

theorem strayReleases_balance :
    (grants (run {} strayReleases).1).length ≤ UInt64.size - 1 ∧
    strayReleases.countP Action.isDestroy = 5 ∧
    (run {} strayReleases).2.doubleReleases.toNat = 4 ∧
    (run {} strayReleases).2.liveContexts + (run {} strayReleases).2.liveQueries = 2 := by
  have few : (grants (run {} strayReleases).1).length ≤ UInt64.size - 1 := by decide +kernel
  have five : strayReleases.countP Action.isDestroy = 5 := by decide
  have bounded : strayReleases.countP Action.isDestroy < UInt64.size := by
    rw [five]
    decide
  obtain ⟨balance, missed, -⟩ := releases_balance few bounded
  have four : (run {} strayReleases).2.doubleReleases.toNat = 4 := by
    rw [missed]
    decide +kernel
  have contexts : (chronicle {} strayReleases).countP isCreation = 2 := by decide +kernel
  have queries : (chronicle {} strayReleases).countP isCompilation = 1 := by decide +kernel
  refine ⟨few, five, four, ?_⟩
  rw [contexts, queries, four, five] at balance
  omega

end Engine

end ObjectQuery
