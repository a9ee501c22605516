import ObjectQuery.Proofs.Moves

/-!
The numbers of handles. Sessions, contexts and queries draw on one counter: the handles an engine
gives out are numbered 1, 2, 3 and so on, and while the numbers last none is ever met again. The
last number does not run out. It is given out for ever, to whoever asks.
-/
namespace ObjectQuery

def Table.numbers {kind : HandleKind} {α : Type} (t : Table (Handle kind) α) : List UInt64 :=
  t.keys.map Handle.raw

section Numbers

variable {kind : HandleKind} {α : Type} {t : Table (Handle kind) α} {h : Handle kind}
  {number : UInt64}

theorem Table.mem_numbers_iff :
    number ∈ t.numbers ↔ ∃ h, (t.get? h).isSome ∧ h.raw = number := by
  simp only [numbers, List.mem_map, mem_keys_iff]

theorem Table.mem_numbers_insert (a : α) :
    number ∈ (t.insert h a).numbers ↔ number ∈ t.numbers ∨ number = h.raw := by
  simp only [mem_numbers_iff, get?_insert]
  constructor
  · rintro ⟨k, live, rfl⟩
    by_cases same : h = k
    · subst same
      exact Or.inr rfl
    · rw [if_neg same] at live
      exact Or.inl ⟨k, live, rfl⟩
  · rintro (⟨k, live, rfl⟩ | rfl)
    · refine ⟨k, ?_, rfl⟩
      split
      · rfl
      · exact live
    · exact ⟨h, by simp, rfl⟩

theorem Table.numbers_erase_subset : (t.erase h).numbers ⊆ t.numbers := by
  intro number member
  rw [mem_numbers_iff] at member ⊢
  obtain ⟨k, live, same⟩ := member
  refine ⟨k, ?_, same⟩
  rw [get?_erase] at live
  split at live
  · contradiction
  · exact live

theorem Table.numbers_modify_subset (f : α → α) : (t.modify h f).numbers ⊆ t.numbers := by
  intro number member
  rw [mem_numbers_iff] at member ⊢
  obtain ⟨k, live, same⟩ := member
  refine ⟨k, ?_, same⟩
  rw [get?_modify] at live
  split at live
  · simpa using live
  · exact live

end Numbers

namespace Engine

structure Grant where
  kind : HandleKind
  number : UInt64
  deriving DecidableEq, Repr

def Outcome.grant? : Outcome → Option Grant
  | .session h => some ⟨.session, h.raw⟩
  | .context h => some ⟨.context, h.raw⟩
  | .query h => some ⟨.query, h.raw⟩
  | .done | .refused _ => none

def grants (outcomes : List Outcome) : List Grant := outcomes.filterMap Outcome.grant?

def numbers (e : Engine) : HandleKind → List UInt64
  | .session => e.sessions.numbers
  | .context => e.contexts.numbers
  | .query => e.queries.numbers

structure Keeps (e e' : Engine) : Prop where
  sessions : ∀ h, e.sessions.get? h = some () → e'.sessions.get? h = some ()
  contexts : ∀ h ctx, e.contexts.get? h = some ctx → e'.contexts.get? h = some ctx
  queries : ∀ h conditions, e.queries.get? h = some conditions →
    e'.queries.get? h = some conditions

variable {e e' : Engine} {action : Action} {outcome : Outcome} {g : Grant}

/-- What one action means for the numbers: it gives out the next one, or none. -/
inductive Numbered (e e' : Engine) : Option Grant → Prop where
  | kept (counter : e'.counter = e.counter) (numbers : ∀ kind, e'.numbers kind ⊆ e.numbers kind) :
      Numbered e e' none
  | granted {kind : HandleKind} (counter : e'.counter = e.counter.advance)
      (numbers : ∀ kind' number, number ∈ e'.numbers kind' ↔
        number ∈ e.numbers kind' ∨ kind' = kind ∧ number = e.counter.next) :
      Numbered e e' (some ⟨kind, e.counter.next⟩)

theorem kept_of_subset (counter : e'.counter = e.counter) (sessions : e'.sessions = e.sessions)
    (contexts : e'.contexts.numbers ⊆ e.contexts.numbers)
    (queries : e'.queries.numbers ⊆ e.queries.numbers) : Numbered e e' none := by
  apply Numbered.kept counter
  intro kind
  cases kind with
  | session =>
    simp only [numbers, sessions]
    exact List.Subset.refl _
  | context => exact contexts
  | query => exact queries

theorem numbered_of_move (move : Move e action outcome e') : Numbered e e' outcome.grant? := by
  have all {l : List UInt64} : l ⊆ l := List.Subset.refl l
  cases move with
  | sessionOpened =>
    apply Numbered.granted rfl
    intro kind number
    cases kind with
    | session => simp [numbers, Table.mem_numbers_insert, HandleCounter.peek]
    | _ => simp [numbers]
  | created free opened known =>
    apply Numbered.granted rfl
    intro kind number
    cases kind with
    | context => simp [numbers, Table.mem_numbers_insert, HandleCounter.peek]
    | _ => simp [numbers, note]
  | compiled free live =>
    apply Numbered.granted rfl
    intro kind number
    cases kind with
    | query => simp [numbers, Table.mem_numbers_insert, HandleCounter.peek]
    | _ => simp [numbers, note]
  | added free valid => exact kept_of_subset rfl rfl (Table.numbers_modify_subset _) all
  | destroyed live => exact kept_of_subset rfl rfl Table.numbers_erase_subset all
  | destroyedQuery live => exact kept_of_subset rfl rfl all Table.numbers_erase_subset
  | _ => exact kept_of_subset rfl rfl all all

theorem keeps_of_move (move : Move e action outcome e') (granted : outcome.grant? = some g)
    (new : g.number ∉ e.numbers g.kind) : e.Keeps e' := by
  cases move with
  | sessionOpened =>
    refine ⟨?_, fun _ _ live => live, fun _ _ live => live⟩
    intro h live
    rw [Table.get?_insert, live]
    split <;> rfl
  | created free opened known =>
    refine ⟨fun _ live => live, ?_, fun _ _ live => live⟩
    intro h ctx live
    have other : e.counter.peek .context ≠ h := by
      intro same
      obtain rfl := Option.some.inj granted
      apply new
      exact Table.mem_numbers_iff.mpr ⟨h, by simp [live], by rw [← same]⟩
    rw [Table.get?_insert, if_neg other]
    exact live
  | compiled free found =>
    refine ⟨fun _ live => live, fun _ _ live => live, ?_⟩
    intro h conditions live
    have other : e.counter.peek .query ≠ h := by
      intro same
      obtain rfl := Option.some.inj granted
      apply new
      exact Table.mem_numbers_iff.mpr ⟨h, by simp [live], by rw [← same]⟩
    rw [Table.get?_insert, if_neg other]
    exact live
  | _ => contradiction

theorem grants_cons (outcome : Outcome) (rest : List Outcome) :
    grants (outcome :: rest) = grants [outcome] ++ grants rest :=
  List.filterMap_append (l := [outcome])

theorem length_grants_before (before after : List Action)
    (granted : ((e.run before).2.act action).1.grant? = some g) :
    (grants (e.run before).1).length + 1 ≤
      (grants (e.run (before ++ action :: after)).1).length := by
  have one : grants [((e.run before).2.act action).1] = [g] := by simp [grants, granted]
  have through : grants (e.run (before ++ action :: after)).1 = grants (e.run before).1 ++
      ([g] ++ grants (((e.run before).2.act action).2.run after).1) := by
    rw [← one, ← grants_cons, run_append]
    exact List.filterMap_append
  rw [through]
  simp only [List.length_append, List.length_cons, List.length_nil]
  omega

/-- The numbers of an engine that has given out `n` handles. -/
structure Counted (n : Nat) (e : Engine) : Prop where
  counter : e.counter.next.toNat = min (n + 1) (UInt64.size - 1)
  given : ∀ kind, ∀ number ∈ e.numbers kind, number.toNat ≤ n
  apart : n ≤ UInt64.size - 1 → ∀ kind kind' number,
    number ∈ e.numbers kind → number ∈ e.numbers kind' → kind = kind'

namespace Counted

variable {n : Nat}

theorem fresh : Counted 0 {} where
  counter := by decide
  given kind number member := by cases kind <;> contradiction
  apart few kind kind' number member := by cases kind <;> contradiction

theorem next_not_mem (counted : Counted n e) (fits : n + 1 ≤ UInt64.size - 1)
    (kind : HandleKind) : e.counter.next ∉ e.numbers kind := by
  intro member
  have bound := counted.given kind _ member
  have next := counted.counter
  omega

theorem kept (counted : Counted n e) (counter : e'.counter = e.counter)
    (numbers : ∀ kind, e'.numbers kind ⊆ e.numbers kind) : Counted n e' where
  counter := by rw [counter]; exact counted.counter
  given kind number member := counted.given kind number (numbers kind member)
  apart few kind kind' number member member' :=
    counted.apart few kind kind' number (numbers kind member) (numbers kind' member')

theorem granted (counted : Counted n e) {kind : HandleKind}
    (counter : e'.counter = e.counter.advance)
    (numbers : ∀ kind' number, number ∈ e'.numbers kind' ↔
      number ∈ e.numbers kind' ∨ kind' = kind ∧ number = e.counter.next) : Counted (n + 1) e' where
  counter := by
    rw [counter, HandleCounter.toNat_next_advance, counted.counter]
    omega
  given kind' number member := by
    rcases (numbers kind' number).mp member with earlier | ⟨-, rfl⟩
    · have bound := counted.given kind' number earlier
      omega
    · have next := counted.counter
      omega
  apart few x y number hx hy := by
    have unheld := counted.next_not_mem few
    rcases (numbers x number).mp hx with earlier | ⟨rfl, rfl⟩
    · rcases (numbers y number).mp hy with earlier' | ⟨-, rfl⟩
      · exact counted.apart (by omega) x y number earlier earlier'
      · exact absurd earlier (unheld x)
    · rcases (numbers y e.counter.next).mp hy with earlier' | ⟨rfl, -⟩
      · exact absurd earlier' (unheld y)
      · rfl

theorem act (counted : Counted n e) (action : Action) :
    Counted (n + (grants [(e.act action).1]).length) (e.act action).2 := by
  have numbered := numbered_of_move (move_of_act e action)
  generalize granted : (e.act action).1.grant? = given at numbered
  cases numbered with
  | kept counter numbers => simpa [grants, granted] using counted.kept counter numbers
  | granted counter numbers => simpa [grants, granted] using counted.granted counter numbers

theorem number_of_act (counted : Counted n e) (granted : (e.act action).1.grant? = some g) :
    g.number = e.counter.next ∧ g.number.toNat = min (n + 1) (UInt64.size - 1) := by
  have numbered := numbered_of_move (move_of_act e action)
  rw [granted] at numbered
  cases numbered with
  | granted counter numbers => exact ⟨rfl, counted.counter⟩

theorem new_grant (counted : Counted n e) (fits : n + 1 ≤ UInt64.size - 1)
    (granted : (e.act action).1.grant? = some g) :
    (∀ kind, g.number ∉ e.numbers kind) ∧ g.number ∈ (e.act action).2.numbers g.kind ∧
      e.Keeps (e.act action).2 := by
  obtain ⟨next, -⟩ := counted.number_of_act granted
  have new : ∀ kind, g.number ∉ e.numbers kind := by
    rw [next]
    exact counted.next_not_mem fits
  have move := move_of_act e action
  refine ⟨new, ?_, keeps_of_move move granted (new g.kind)⟩
  have numbered := numbered_of_move move
  rw [granted] at numbered
  cases numbered with
  | granted counter numbers => exact (numbers _ _).mpr (Or.inr ⟨rfl, rfl⟩)

theorem run (counted : Counted n e) (actions : List Action) :
    Counted (n + (grants (e.run actions).1).length) (e.run actions).2 := by
  induction actions generalizing n e with
  | nil => exact counted
  | cons action rest ih =>
    have later := ih (counted.act action)
    rw [Nat.add_assoc, ← List.length_append, ← grants_cons] at later
    exact later

/-- The place of a handle among those given out is its number, up to the greatest. -/
theorem number_of_run (counted : Counted n e) (actions : List Action) :
    ∀ i, (grants (e.run actions).1)[i]? = some g →
      g.number.toNat = min (n + i + 1) (UInt64.size - 1) := by
  induction actions generalizing n e with
  | nil =>
    intro i placed
    contradiction
  | cons action rest ih =>
    intro i placed
    have placed' : (grants [(e.act action).1] ++ grants ((e.act action).2.run rest).1)[i]? =
        some g := by
      rw [← grants_cons]
      exact placed
    have later := ih (counted.act action)
    cases granted : (e.act action).1.grant? with
    | none =>
      have none_given : grants [(e.act action).1] = [] := by simp [grants, granted]
      rw [none_given] at later placed'
      exact later i placed'
    | some first =>
      have one_given : grants [(e.act action).1] = [first] := by simp [grants, granted]
      rw [one_given] at later placed'
      cases i with
      | zero =>
        obtain rfl : first = g := by simpa using placed'
        exact (counted.number_of_act granted).2
      | succ i =>
        have number := later i (by simpa using placed')
        rw [number]
        simp only [List.length_cons, List.length_nil]
        omega

end Counted

theorem nodup_of_places {given : List Grant}
    (places : ∀ i g, given[i]? = some g → g.number.toNat = i + 1) :
    (given.map Grant.number).Nodup := by
  apply List.pairwise_iff_getElem.mpr
  intro i j hi hj before same
  rw [List.length_map] at hi hj
  rw [List.getElem_map, List.getElem_map] at same
  have first := places i _ (List.getElem?_eq_getElem hi)
  have second := places j _ (List.getElem?_eq_getElem hj)
  rw [same, second] at first
  omega

theorem handles_never_alias (actions : List Action) :
    let given := grants (run {} actions).1
    let last := (run {} actions).2
    (∀ i g, given[i]? = some g →
      g.number.toNat = min (i + 1) (UInt64.size - 1) ∧ g.number ≠ 0) ∧
    (given.length ≤ UInt64.size - 1 →
      (given.map Grant.number).Nodup ∧
      (∀ kind kind', kind ≠ kind' → ∀ number ∈ last.numbers kind,
        number ∉ last.numbers kind') ∧
      (∀ before action after, actions = before ++ action :: after →
        let e := (run {} before).2
        let e' := (e.act action).2
        ∀ g, (e.act action).1.grant? = some g →
          (∀ kind, g.number ∉ e.numbers kind) ∧ g.number ∈ e'.numbers g.kind ∧ e.Keeps e')) ∧
    (∀ i g, given[i]? = some g → UInt64.size ≤ i + 1 → g.number.toNat = UInt64.size - 1) := by
  intro given last
  have places : ∀ i g, given[i]? = some g → g.number.toNat = min (i + 1) (UInt64.size - 1) := by
    intro i g placed
    have number := Counted.fresh.number_of_run actions i placed
    rwa [Nat.zero_add] at number
  refine ⟨?_, ?_, ?_⟩
  · intro i g placed
    have number := places i g placed
    refine ⟨number, ?_⟩
    intro zero
    rw [zero] at number
    simp only [UInt64.toNat_zero, UInt64.size] at number
    omega
  · intro few
    refine ⟨?_, ?_, ?_⟩
    · apply nodup_of_places
      intro i g placed
      obtain ⟨bound, -⟩ := List.getElem?_eq_some_iff.mp placed
      have number := places i g placed
      omega
    · intro kind kind' differ number member member'
      have counted := Counted.fresh.run actions
      have within : 0 + given.length ≤ UInt64.size - 1 := by omega
      exact differ (counted.apart within kind kind' number member member')
    · intro before action after split e e' g granted
      have room : (grants (run {} before).1).length + 1 ≤ given.length := by
        have within := length_grants_before before after granted
        rwa [← split] at within
      have within : 0 + (grants (run {} before).1).length + 1 ≤ UInt64.size - 1 := by omega
      exact (Counted.fresh.run before).new_grant within granted
  · intro i g placed far
    have number := places i g placed
    omega

/-- Two contexts of one session. The first is destroyed, and compiled in vain after that. -/
def sampleActions : List Action :=
  let first := HandleCounter.start
  let second := first.advance
  [.register ⟨"Order", []⟩,
    .openSession,
    .call (.createContext (first.peek .session) "Order"),
    .call (.destroyContext (second.peek .context)),
    .call (.createContext (first.peek .session) "Order"),
    .call (.compile (second.peek .context)),
    .call (.compile (second.advance.peek .context))]

theorem length_grants_openSession (n : Nat) (e : Engine) :
    (grants (e.run (List.replicate n .openSession)).1).length = n := by
  induction n generalizing e with
  | zero => rfl
  | succ n ih =>
    have later := ih e.openSession.2
    calc (grants (e.run (List.replicate (n + 1) .openSession)).1).length
        = (grants (e.openSession.2.run (List.replicate n .openSession)).1).length + 1 := rfl
      _ = n + 1 := by rw [later]

theorem exists_grant_openSession {n i : Nat} (before : i < n) (e : Engine) :
    ∃ g, (grants (e.run (List.replicate n .openSession)).1)[i]? = some g := by
  have length := length_grants_openSession n e
  exact ⟨_, List.getElem?_eq_getElem (by rw [length]; exact before)⟩

/-- Four handles differ; of as many sessions as there are 64-bit numbers, the last two do not. -/
theorem last_handle_repeats :
    (grants (run {} sampleActions).1).length ≤ UInt64.size - 1 ∧
    ((grants (run {} sampleActions).1).map Grant.number).Nodup ∧
    (⟨4, by decide⟩ : QueryHandle).raw ∉ (run {} sampleActions).2.numbers .context ∧
    ∃ g g', (grants (run {} (List.replicate UInt64.size .openSession)).1)[UInt64.size - 2]? =
        some g ∧
      (grants (run {} (List.replicate UInt64.size .openSession)).1)[UInt64.size - 1]? = some g' ∧
      g.number = g'.number := by
  have few : (grants (run {} sampleActions).1).length ≤ UInt64.size - 1 := by decide +kernel
  obtain ⟨-, while_few, -⟩ := handles_never_alias sampleActions
  obtain ⟨nodup, apart, -⟩ := while_few few
  refine ⟨few, nodup, ?_, ?_⟩
  · exact apart .query .context (by decide) 4 (by decide +kernel)
  · obtain ⟨places, -, past⟩ := handles_never_alias (List.replicate UInt64.size .openSession)
    have last_but_one : UInt64.size - 2 < UInt64.size := by decide
    have last : UInt64.size - 1 < UInt64.size := by decide
    obtain ⟨g, first⟩ := exists_grant_openSession last_but_one {}
    obtain ⟨g', second⟩ := exists_grant_openSession last {}
    refine ⟨g, g', first, second, UInt64.toNat_inj.mp ?_⟩
    rw [(places _ g first).1, past _ g' second (by decide)]
    decide

end Engine

end ObjectQuery
