import ObjectQuery.Proofs.Chronicle

/-!
What a handle shows is settled by the chronicle. A context is a log that grows by the conditions
accepted for it until it is destroyed, and a query is a copy of that log from the moment it was
compiled. Handles may be named as clients please: stale ones, ones never given out, or ones of the
wrong kind that bear the same number.
-/
namespace ObjectQuery.Engine

namespace Chronicle

def addedTo (context : ContextHandle) : Action × Outcome → Option Condition
  | (.call (.condition h c), .done) => if h = context then some c else none
  | _ => none

/-- The conditions accepted for a context, oldest first. -/
def accepted (t : Chronicle) (context : ContextHandle) : List Condition :=
  t.filterMap (addedTo context)

theorem accepted_cons (entry : Action × Outcome) (t : Chronicle) (context : ContextHandle) :
    accepted (entry :: t) context = (addedTo context entry).toList ++ t.accepted context := by
  cases added : addedTo context entry <;> simp [accepted, added]

theorem accepted_append (t u : Chronicle) (context : ContextHandle) :
    accepted (t ++ u) context = t.accepted context ++ u.accepted context := List.filterMap_append

theorem addedTo_eq_some {context : ContextHandle} {entry : Action × Outcome} {c : Condition}
    (added : addedTo context entry = some c) :
    entry = (.call (.condition context c), .done) := by
  unfold addedTo at added
  split at added
  · split at added
    · rename_i same
      rw [same, Option.some.inj added]
    · contradiction
  · contradiction

theorem addedTo_refused (context : ContextHandle) (call : EngineCall) (error : EngineError) :
    addedTo context (.call call, .refused error) = none := by
  cases call <;> rfl

end Chronicle

open Chronicle

variable {e : Engine} {actions : List Action} {action : Action} {context : ContextHandle}
  {query : QueryHandle} {before after : Chronicle}

/-- Only its own conditions and its own destruction change what a context shows, unless this very
handle is given out. -/
theorem contextConditions?_act (e : Engine) (unborn : (e.act action).1 ≠ .context context) :
    (e.act action).2.contextConditions? context =
      if action = .call (.destroyContext context) then none
      else (e.contextConditions? context).map
        (· ++ (addedTo context (action, (e.act action).1)).toList) := by
  by_cases destroyed : action = .call (.destroyContext context)
  · subst destroyed
    simp [act, perform, contextConditions?, get?_contexts_destroyContext]
  · rw [if_neg destroyed]
    have move := move_of_act e action
    generalize (e.act action).1 = outcome at move unborn ⊢
    generalize (e.act action).2 = e' at move ⊢
    have kept (nothing : addedTo context (action, outcome) = none)
        (same : e'.contextConditions? context = e.contextConditions? context) :
        e'.contextConditions? context = (e.contextConditions? context).map
          (· ++ (addedTo context (action, outcome)).toList) := by
      simp [nothing, same]
    cases move with
    | refused cause => exact kept (addedTo_refused ..) rfl
    | created free opened known =>
      have other : e.counter.peek .context ≠ context := fun same => unborn (by rw [same])
      exact kept rfl (by simp [contextConditions?, Table.get?_insert, other])
    | @added named c free valid =>
      by_cases same : named = context
      · subst same
        simp only [addedTo, contextConditions?, Table.get?_modify, ↓reduceIte]
        cases e.contexts.get? named <;> rfl
      · exact kept (by simp [addedTo, same])
          (by simp [contextConditions?, Table.get?_modify, same])
    | @destroyed named live =>
      have other : named ≠ context := fun same => destroyed (by rw [same])
      exact kept rfl (by simp [contextConditions?, Table.get?_erase, other])
    | _ => exact kept rfl rfl

theorem compiledConditions?_act (e : Engine) (unborn : (e.act action).1 ≠ .query query) :
    (e.act action).2.compiledConditions? query =
      if action = .call (.destroyQuery query) then none else e.compiledConditions? query := by
  by_cases destroyed : action = .call (.destroyQuery query)
  · subst destroyed
    simp [act, perform, compiledConditions?, get?_queries_destroyQuery]
  · rw [if_neg destroyed]
    have move := move_of_act e action
    generalize (e.act action).1 = outcome at move unborn ⊢
    generalize (e.act action).2 = e' at move ⊢
    cases move with
    | compiled free live =>
      have other : e.counter.peek .query ≠ query := fun same => unborn (by rw [same])
      simp [compiledConditions?, Table.get?_insert, other]
    | @destroyedQuery named live =>
      have other : named ≠ query := fun same => destroyed (by rw [same])
      simp [compiledConditions?, Table.get?_erase, other]
    | _ => rfl

theorem created_act (created : (e.act action).1 = .context context) :
    (∃ session entity, action = .call (.createContext session entity)) ∧
      (e.act action).2.contextConditions? context = some [] := by
  have move := move_of_act e action
  rw [created] at move
  generalize (e.act action).2 = e' at move ⊢
  cases move with
  | @created session entity free opened known =>
    exact ⟨⟨session, entity, rfl⟩, by simp [contextConditions?, Table.get?_insert]⟩

theorem compiled_act (compiled : (e.act action).1 = .query query) :
    ∃ c, action = .call (.compile c) ∧ (e.contextConditions? c).isSome ∧
      (e.act action).2.compiledConditions? query = e.contextConditions? c := by
  have move := move_of_act e action
  rw [compiled] at move
  generalize (e.act action).2 = e' at move ⊢
  cases move with
  | @compiled c ctx free live =>
    refine ⟨c, rfl, ?_, ?_⟩
    · simp [contextConditions?, live]
    · simp [contextConditions?, compiledConditions?, Table.get?_insert, live]

theorem live_of_accepted {c : Condition}
    (accepted : (e.act (.call (.condition context c))).1 = .done) :
    (e.contextConditions? context).isSome := by
  have move := move_of_act e (.call (.condition context c))
  rw [accepted] at move
  generalize (e.act (.call (.condition context c))).2 = e' at move
  cases move with
  | added free valid =>
    obtain ⟨p, valid⟩ := valid
    cases live : e.contexts.get? context with
    | none => simp [validate, live] at valid
    | some ctx => simp [contextConditions?, live]

theorem contextConditions?_run (e : Engine) (actions : List Action)
    (unborn : ∀ entry ∈ e.chronicle actions, entry.2 ≠ .context context) :
    (e.run actions).2.contextConditions? context =
      if .call (.destroyContext context) ∈ actions then none
      else (e.contextConditions? context).map (· ++ (e.chronicle actions).accepted context) := by
  induction actions generalizing e with
  | nil => simp [run, chronicle, accepted]
  | cons action rest ih =>
    rw [chronicle_cons, List.forall_mem_cons] at unborn
    obtain ⟨now, later⟩ := unborn
    have step := contextConditions?_act e now
    have rest_shows := ih (e.act action).2 later
    rw [step] at rest_shows
    rw [run, rest_shows, chronicle_cons, accepted_cons]
    by_cases destroyed : action = .call (.destroyContext context)
    · simp [destroyed]
    · simp [destroyed, Ne.symm destroyed, Option.map_map, Function.comp_def]

theorem compiledConditions?_run (e : Engine) (actions : List Action)
    (unborn : ∀ entry ∈ e.chronicle actions, entry.2 ≠ .query query) :
    (e.run actions).2.compiledConditions? query =
      if .call (.destroyQuery query) ∈ actions then none else e.compiledConditions? query := by
  induction actions generalizing e with
  | nil => simp [run]
  | cons action rest ih =>
    rw [chronicle_cons, List.forall_mem_cons] at unborn
    obtain ⟨now, later⟩ := unborn
    have rest_shows := ih (e.act action).2 later
    rw [compiledConditions?_act e now] at rest_shows
    rw [run, rest_shows]
    by_cases destroyed : action = .call (.destroyQuery query)
    · simp [destroyed]
    · simp [destroyed, Ne.symm destroyed]

section History

variable {session : SessionHandle} {entity : String}

theorem created_of_outcome {entry : Action × Outcome} (member : entry ∈ e.chronicle actions)
    (created : entry.2 = .context context) :
    ∃ session entity, entry = (.call (.createContext session entity), .context context) := by
  obtain ⟨action, outcome⟩ := entry
  obtain ⟨before, after, split⟩ := List.append_of_mem member
  obtain ⟨past, future, -, -, outcome_eq, -⟩ := split_of_chronicle split
  obtain ⟨⟨session, entity, rfl⟩, -⟩ := created_act (outcome_eq.symm.trans created)
  exact ⟨session, entity, Prod.ext rfl created⟩

theorem compiled_of_outcome {entry : Action × Outcome} (member : entry ∈ e.chronicle actions)
    (compiled : entry.2 = .query query) :
    ∃ c, entry = (.call (.compile c), .query query) := by
  obtain ⟨action, outcome⟩ := entry
  obtain ⟨before, after, split⟩ := List.append_of_mem member
  obtain ⟨past, future, -, -, outcome_eq, -⟩ := split_of_chronicle split
  obtain ⟨c, rfl, -⟩ := compiled_act (outcome_eq.symm.trans compiled)
  exact ⟨c, Prod.ext rfl compiled⟩

theorem contextConditions?_of_unborn
    (unborn : ∀ entry ∈ chronicle {} actions, entry.2 ≠ .context context) :
    (run {} actions).2.contextConditions? context = none := by
  rw [contextConditions?_run {} actions unborn]
  split <;> rfl

theorem accepted_of_unborn
    (unborn : ∀ entry ∈ chronicle {} actions, entry.2 ≠ .context context) :
    (chronicle {} actions).accepted context = [] := by
  apply List.filterMap_eq_nil_iff.mpr
  intro entry member
  cases added : addedTo context entry with
  | none => rfl
  | some c =>
    obtain rfl := addedTo_eq_some added
    obtain ⟨before, after, split⟩ := List.append_of_mem member
    obtain ⟨past, future, -, rfl, outcome, -⟩ := split_of_chronicle split
    have live := live_of_accepted outcome.symm
    rw [contextConditions?_of_unborn] at live
    · contradiction
    · intro entry earlier
      apply unborn
      rw [split]
      exact List.mem_append_left _ earlier

variable (few : (grants (run {} actions).1).length ≤ UInt64.size - 1)

include few

theorem unborn_before (split : chronicle {} actions =
      before ++ (.call (.createContext session entity), .context context) :: after) :
    (∀ entry ∈ before, entry.2 ≠ .context context) ∧
      ∀ entry ∈ after, entry.2 ≠ .context context := by
  have once := granted_once few split (g := ⟨.context, context.raw⟩) rfl
  constructor
  · intro entry member same
    exact once entry (Or.inl member) (by rw [same]; rfl)
  · intro entry member same
    exact once entry (Or.inr member) (by rw [same]; rfl)

theorem contextConditions?_of_created (split : chronicle {} actions =
      before ++ (.call (.createContext session entity), .context context) :: after) :
    (run {} actions).2.contextConditions? context =
      if .call (.destroyContext context) ∈ after.map Prod.fst then none
      else some (after.accepted context) := by
  obtain ⟨-, later⟩ := unborn_before few split
  obtain ⟨past, future, rfl, -, outcome, rfl⟩ := split_of_chronicle split
  have born := (created_act outcome.symm).2
  rw [run_past, contextConditions?_run _ future later, born, actions_of_chronicle]
  simp

theorem shown_since_creation {shown : List Condition}
    (shows : (run {} actions).2.contextConditions? context = some shown) :
    ∃ (session : SessionHandle) (entity : String) (past life : Chronicle),
      chronicle {} actions =
        past ++ (.call (.createContext session entity), .context context) :: life ∧
      .call (.destroyContext context) ∉ life.map Prod.fst ∧ shown = life.accepted context ∧
      (chronicle {} actions).accepted context = life.accepted context := by
  by_cases born : ∃ entry ∈ chronicle {} actions, entry.2 = .context context
  · obtain ⟨entry, member, created⟩ := born
    obtain ⟨session, entity, rfl⟩ := created_of_outcome member created
    obtain ⟨past, life, split⟩ := List.append_of_mem member
    have tells := contextConditions?_of_created few split
    rw [shows] at tells
    obtain ⟨before, -⟩ := unborn_before few split
    refine ⟨session, entity, past, life, split, ?_⟩
    split at tells
    · contradiction
    · rename_i alive
      refine ⟨alive, Option.some.inj tells, ?_⟩
      obtain ⟨earlier, future, -, rfl, -, -⟩ := split_of_chronicle split
      rw [split, accepted_append, accepted_cons, accepted_of_unborn before]
      rfl
  · have unborn : ∀ entry ∈ chronicle {} actions, entry.2 ≠ .context context :=
      fun entry member created => born ⟨entry, member, created⟩
    rw [contextConditions?_of_unborn unborn] at shows
    contradiction

theorem compiledConditions?_of_compiled (split : chronicle {} actions =
      before ++ (.call (.compile context), .query query) :: after) :
    (∃ (session : SessionHandle) (entity : String) (past life : Chronicle),
      before = past ++ (.call (.createContext session entity), .context context) :: life ∧
      .call (.destroyContext context) ∉ life.map Prod.fst ∧
      before.accepted context = life.accepted context) ∧
    (run {} actions).2.compiledConditions? query =
      if .call (.destroyQuery query) ∈ after.map Prod.fst then none
      else some (before.accepted context) := by
  have once := granted_once few split (g := ⟨.query, query.raw⟩) rfl
  have later : ∀ entry ∈ after, entry.2 ≠ .query query := by
    intro entry member same
    exact once entry (Or.inr member) (by rw [same]; rfl)
  obtain ⟨past, future, rfl, rfl, outcome, rfl⟩ := split_of_chronicle split
  obtain ⟨c, named, live, copied⟩ := compiled_act outcome.symm
  obtain rfl : context = c := EngineCall.compile.inj (Action.call.inj named)
  obtain ⟨shown, shows⟩ := Option.isSome_iff_exists.mp live
  have few_past := Nat.le_trans (grants_of_past {} past _) few
  obtain ⟨session, entity, earlier, life, born, alive, rfl, same⟩ :=
    shown_since_creation few_past shows
  refine ⟨⟨session, entity, earlier, life, born, alive, same⟩, ?_⟩
  rw [run_past, compiledConditions?_run _ future later, copied, shows, actions_of_chronicle, same]

theorem shown_of_compiled {shown : List Condition} (split : chronicle {} actions =
      before ++ (.call (.compile context), .query query) :: after)
    (shows : (run {} actions).2.compiledConditions? query = some shown) :
    shown = before.accepted context := by
  obtain ⟨-, tells⟩ := compiledConditions?_of_compiled few split
  rw [shows] at tells
  split at tells
  · contradiction
  · exact Option.some.inj tells

end History

/-- Each handle is an append-only log of its own history. -/
theorem handles_show_their_history {actions : List Action}
    (few : (grants (run {} actions).1).length ≤ UInt64.size - 1) :
    let t := chronicle {} actions
    let e := (run {} actions).2
    (∀ context, (∀ session entity,
        (Action.call (.createContext session entity), Outcome.context context) ∉ t) →
      e.contextConditions? context = none) ∧
    (∀ context session entity (before after : Chronicle),
      t = before ++ (.call (.createContext session entity), .context context) :: after →
      e.contextConditions? context =
        if .call (.destroyContext context) ∈ after.map Prod.fst then none
        else some (after.accepted context)) ∧
    (∀ query, (∀ context, (Action.call (.compile context), Outcome.query query) ∉ t) →
      e.compiledConditions? query = none) ∧
    (∀ query context (before after : Chronicle),
      t = before ++ (.call (.compile context), .query query) :: after →
      (∃ (session : SessionHandle) (entity : String) (past life : Chronicle),
        before = past ++ (.call (.createContext session entity), .context context) :: life ∧
        .call (.destroyContext context) ∉ life.map Prod.fst ∧
        before.accepted context = life.accepted context) ∧
      e.compiledConditions? query =
        if .call (.destroyQuery query) ∈ after.map Prod.fst then none
        else some (before.accepted context)) ∧
    (∀ context query query' first between last shown shown',
      t = first ++ (.call (.compile context), .query query) ::
        (between ++ (.call (.compile context), .query query') :: last) →
      e.compiledConditions? query = some shown → e.compiledConditions? query' = some shown' →
      shown <+: shown') ∧
    (∀ context h, (e.act (.call (.compile context))).2.contextConditions? h =
      e.contextConditions? h) ∧
    (∀ action, let e' := (e.act action).2
      (∀ context, (∀ c, action ≠ .call (.condition context c)) →
        action ≠ .call (.destroyContext context) → (e.act action).1 ≠ .context context →
        e'.contextConditions? context = e.contextConditions? context) ∧
      ∀ query, action ≠ .call (.destroyQuery query) → (e.act action).1 ≠ .query query →
        e'.compiledConditions? query = e.compiledConditions? query) := by
  intro t e
  refine ⟨?_, ?_, ?_, ?_, ?_, ?_, ?_⟩
  · intro context uncreated
    apply contextConditions?_of_unborn
    intro entry member created
    obtain ⟨session, entity, rfl⟩ := created_of_outcome member created
    exact uncreated session entity member
  · intro context session entity before after split
    exact contextConditions?_of_created few split
  · intro query uncompiled
    have unborn : ∀ entry ∈ t, entry.2 ≠ .query query := by
      intro entry member compiled
      obtain ⟨context, rfl⟩ := compiled_of_outcome member compiled
      exact uncompiled context member
    rw [compiledConditions?_run {} actions unborn]
    split <;> rfl
  · intro query context before after split
    exact compiledConditions?_of_compiled few split
  · intro context query query' first between last shown shown' split shows shows'
    have split' : t = (first ++ (.call (.compile context), .query query) :: between) ++
        (.call (.compile context), .query query') :: last := by
      rw [split]
      simp
    rw [shown_of_compiled few split shows, shown_of_compiled few split' shows', accepted_append]
    exact List.prefix_append _ _
  · intro context h
    have unborn : (e.act (.call (.compile context))).1 ≠ .context h := by
      intro created
      obtain ⟨⟨session, entity, named⟩, -⟩ := created_act created
      simp at named
    rw [contextConditions?_act e unborn]
    simp [addedTo]
  · intro action e'
    constructor
    · intro context unasked undestroyed unborn
      have nothing : addedTo context (action, (e.act action).1) = none := by
        cases added : addedTo context (action, (e.act action).1) with
        | none => rfl
        | some c => exact absurd (congrArg Prod.fst (addedTo_eq_some added)) (unasked c)
      have step := contextConditions?_act e unborn
      rw [if_neg undestroyed, nothing] at step
      simpa using step
    · intro query undestroyed unborn
      have step := compiledConditions?_act e unborn
      rwa [if_neg undestroyed] at step

/-- One context compiled twice, with a condition between. Then a query and a context are destroyed
that do not exist, though their numbers do, and at last the context itself. -/
def entangledActions : List Action :=
  let first := HandleCounter.start
  let second := first.advance
  let context := second.peek .context
  [.register ⟨"Order", [⟨⟨1⟩, "note", .text⟩]⟩,
    .openSession,
    .call (.createContext (first.peek .session) "Order"),
    .call (.condition context ⟨⟨1⟩, .isNull⟩),
    .call (.compile context),
    .call (.condition context ⟨⟨1⟩, .containsText "x"⟩),
    .call (.condition context ⟨⟨2⟩, .isNull⟩),
    .call (.compile context),
    .call (.destroyQuery (second.peek .query)),
    .call (.destroyContext (second.advance.peek .context)),
    .call (.destroyContext context)]

theorem entangledActions_show_their_history :
    (grants (run {} entangledActions).1).length ≤ UInt64.size - 1 ∧
    (run {} entangledActions).2.contextConditions? ⟨2, by decide⟩ = none ∧
    (run {} entangledActions).2.compiledConditions? ⟨3, by decide⟩ = some [⟨⟨1⟩, .isNull⟩] ∧
    (run {} entangledActions).2.compiledConditions? ⟨4, by decide⟩ =
      some [⟨⟨1⟩, .isNull⟩, ⟨⟨1⟩, .containsText "x"⟩] := by
  have few : (grants (run {} entangledActions).1).length ≤ UInt64.size - 1 := by decide +kernel
  obtain ⟨-, contexts, -, queries, -⟩ := handles_show_their_history few
  refine ⟨few, ?_, ?_, ?_⟩
  · rw [contexts ⟨2, by decide⟩ ⟨1, by decide⟩ "Order" ((chronicle {} entangledActions).take 2)
      ((chronicle {} entangledActions).drop 3) (by decide +kernel)]
    decide +kernel
  · rw [(queries ⟨3, by decide⟩ ⟨2, by decide⟩ ((chronicle {} entangledActions).take 4)
      ((chronicle {} entangledActions).drop 5) (by decide +kernel)).2]
    decide +kernel
  · rw [(queries ⟨4, by decide⟩ ⟨2, by decide⟩ ((chronicle {} entangledActions).take 7)
      ((chronicle {} entangledActions).drop 8) (by decide +kernel)).2]
    decide +kernel

end ObjectQuery.Engine
