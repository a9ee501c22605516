import ObjectQuery.Proofs.Exchange
import ObjectQuery.Proofs.Faults

/-!
The order of the calls to an engine. A handle is named only after the call that returned it, the
last call that names a handle releases it, and a context is released right after its compilation.
Which errors the engine answers with is settled from the state: what a builder names is live.
-/
namespace ObjectQuery

namespace EngineCall

@[simp] def context? : EngineCall → Option ContextHandle
  | condition context _ | compile context | destroyContext context => some context
  | createContext .. | destroyQuery _ => none

@[simp] def query? : EngineCall → Option QueryHandle
  | destroyQuery query => some query
  | _ => none

end EngineCall

/-- A kind of handles: which call returns one, what may be said to it while it is live, and with
what its life ends. -/
structure Resource (H : Type) where
  named? : EngineCall → Option H
  number : H → Nat
  isLive : Engine → H → Bool
  returns : H → EngineCall × Engine.Outcome → Prop
  use : H → EngineCall → Prop
  farewell : H → List EngineCall → Prop

namespace Resource

def contexts : Resource ContextHandle where
  named? := EngineCall.context?
  number h := h.raw.toNat
  isLive e h := (e.contexts.get? h).isSome
  returns h entry := ∃ session entity, entry = (.createContext session entity, .context h)
  use h call := ∃ c, call = .condition h c
  farewell h calls := calls = [.destroyContext h] ∨ calls = [.compile h, .destroyContext h]

def queries : Resource QueryHandle where
  named? := EngineCall.query?
  number h := h.raw.toNat
  isLive e h := (e.queries.get? h).isSome
  returns h entry := ∃ context, entry = (.compile context, .query h)
  use _ _ := False
  farewell h calls := calls = [.destroyQuery h]

@[simp] theorem named?_contexts : contexts.named? = EngineCall.context? := rfl

@[simp] theorem named?_queries : queries.named? = EngineCall.query? := rfl

variable {H : Type} [DecidableEq H] (R : Resource H)

def naming (h : H) (calls : List (EngineCall × Engine.Outcome)) : List EngineCall :=
  (calls.map Prod.fst).filter fun call => R.named? call = some h

variable {R} {h : H}

theorem naming_append (calls new : List (EngineCall × Engine.Outcome)) :
    R.naming h (calls ++ new) = R.naming h calls ++ R.naming h new := by
  simp [naming]

@[simp] theorem naming_nil : R.naming h [] = [] := rfl

@[simp] theorem naming_cons (entry : EngineCall × Engine.Outcome)
    (rest : List (EngineCall × Engine.Outcome)) :
    R.naming h (entry :: rest) =
      if R.named? entry.1 = some h then entry.1 :: R.naming h rest else R.naming h rest := by
  simp [naming, List.filter_cons]

theorem mem_naming {entry : EngineCall × Engine.Outcome}
    {calls : List (EngineCall × Engine.Outcome)} (member : entry ∈ calls)
    (named : R.named? entry.1 = some h) : entry.1 ∈ R.naming h calls := by
  refine List.mem_filter.mpr ⟨List.mem_map_of_mem member, ?_⟩
  simpa using named

/-- What one turn can mean for a handle, when `n` handles have been given out before it and `n'`
after it. -/
inductive Turned (R : Resource H) (n n' : Nat) (h : H) (e e' : Engine)
    (new : List (EngineCall × Engine.Outcome)) : Prop where
  | unnamed (silent : R.naming h new = []) (same : R.isLive e' h = R.isLive e h)
  | returned (silent : R.naming h new = []) (fresh : n < R.number h) (given : R.number h ≤ n')
      (source : ∃ entry ∈ new, R.returns h entry)
  | used {call : EngineCall} (live : R.isLive e h = true) (named : R.naming h new = [call])
      (use : R.use h call)
  | released (live : R.isLive e h = true) (gone : R.isLive e' h = false)
      (last : R.farewell h (R.naming h new))

structure Story (R : Resource H) (n : Nat) (h : H) (e : Engine)
    (calls : List (EngineCall × Engine.Outcome)) : Prop where
  unborn : n < R.number h → R.naming h calls = []
  live : R.isLive e h = true →
    (∃ entry ∈ calls, R.returns h entry) ∧ ∀ call ∈ R.naming h calls, R.use h call
  ordered : ∃ uses rest, R.naming h calls = uses ++ rest ∧ (∀ call ∈ uses, R.use h call) ∧
    (rest = [] ∨ R.farewell h rest)
  born : ∀ before entry after, calls = before ++ entry :: after → R.named? entry.1 = some h →
    ∃ source ∈ before, R.returns h source

variable {n n' : Nat} {e e' : Engine} {calls new : List (EngineCall × Engine.Outcome)}

theorem Turned.live_of_named (turned : R.Turned n n' h e e' new) (named : R.naming h new ≠ []) :
    R.isLive e h = true := by
  cases turned with
  | unnamed silent same => exact absurd silent named
  | returned silent fresh given source => exact absurd silent named
  | used live named' use => exact live
  | released live gone last => exact live

namespace Story

theorem fresh (dead : R.isLive e h = false) : R.Story n h e [] where
  unborn _ := rfl
  live alive := by rw [dead] at alive; contradiction
  ordered := ⟨[], [], rfl, by simp, Or.inl rfl⟩
  born before entry after split := by simp at split

theorem turn (story : R.Story n h e calls) (turned : R.Turned n n' h e e' new) (grows : n ≤ n')
    (bounded : R.isLive e h = true → R.number h ≤ n) : R.Story n' h e' (calls ++ new) := by
  constructor
  case unborn =>
    intro future
    -- what is named was live, and what is live has been given out before
    have silent : R.naming h new = [] := by
      by_cases named : R.naming h new = []
      · exact named
      · have past := bounded (turned.live_of_named named)
        omega
    rw [naming_append, story.unborn (by omega), silent]
    rfl
  case live =>
    intro alive
    rw [naming_append]
    cases turned with
    | unnamed silent same =>
      rw [same] at alive
      obtain ⟨⟨entry, member, returns⟩, uses⟩ := story.live alive
      refine ⟨⟨entry, List.mem_append_left _ member, returns⟩, ?_⟩
      rw [silent, List.append_nil]
      exact uses
    | returned silent fresh given source =>
      obtain ⟨entry, member, returns⟩ := source
      refine ⟨⟨entry, List.mem_append_right _ member, returns⟩, ?_⟩
      rw [silent, story.unborn fresh]
      simp
    | used live named use =>
      obtain ⟨⟨entry, member, returns⟩, uses⟩ := story.live live
      refine ⟨⟨entry, List.mem_append_left _ member, returns⟩, ?_⟩
      intro call called
      rw [named] at called
      rcases List.mem_append.mp called with earlier | now
      · exact uses call earlier
      · rw [List.mem_singleton.mp now]
        exact use
    | released live gone last =>
      rw [gone] at alive
      contradiction
  case ordered =>
    rw [naming_append]
    cases turned with
    | unnamed silent same =>
      rw [silent, List.append_nil]
      exact story.ordered
    | returned silent fresh given source =>
      rw [silent, List.append_nil]
      exact story.ordered
    | @used call live named use =>
      refine ⟨R.naming h calls ++ [call], [], by rw [named, List.append_nil], ?_, Or.inl rfl⟩
      intro call' called
      rcases List.mem_append.mp called with earlier | now
      · exact (story.live live).2 call' earlier
      · rw [List.mem_singleton.mp now]
        exact use
    | released live gone last =>
      exact ⟨R.naming h calls, R.naming h new, rfl, (story.live live).2, Or.inr last⟩
  case born =>
    intro before entry after split named
    rcases split_of_append split with ⟨rest, earlier, -⟩ | ⟨rest, rfl, now⟩
    · exact story.born before entry rest earlier named
    · have called : entry.1 ∈ R.naming h new := mem_naming (by simp [now]) named
      have live := turned.live_of_named (List.ne_nil_of_mem called)
      obtain ⟨⟨source, member, returns⟩, -⟩ := story.live live
      exact ⟨source, List.mem_append_left _ member, returns⟩

end Story

end Resource

section Exchange

open Resource

variable {n n' : Nat} {e e' : Engine} {new : List (EngineCall × Engine.Outcome)}

theorem contexts_turned_of_release {context : ContextHandle}
    (live : (e.contexts.get? context).isSome)
    (gone : ∀ h, (e'.contexts.get? h).isSome =
      if context = h then false else (e.contexts.get? h).isSome)
    (last : contexts.farewell context (contexts.naming context new))
    (alone : ∀ h, context ≠ h → contexts.naming h new = []) (h : ContextHandle) :
    contexts.Turned n n' h e e' new := by
  by_cases same : context = h
  · subst same
    exact .released live ((gone context).trans (if_pos rfl)) last
  · exact .unnamed (alone h same) ((gone h).trans (if_neg same))

theorem contexts_turned (exchange : Exchange n n' e e' new) (h : ContextHandle) :
    contexts.Turned n n' h e e' new := by
  cases exchange with
  | silent same queries => exact .unnamed rfl (by simp only [contexts, same])
  | createRefused same queries => exact .unnamed rfl (by simp only [contexts, same])
  | @created session entity context next given live queries =>
    by_cases same : context = h
    · subst same
      refine .returned rfl ?_ ?_ ⟨_, List.mem_singleton_self _, session, entity, rfl⟩
      · simp only [contexts]
        omega
      · simp only [contexts]
        omega
    · exact .unnamed rfl ((live h).trans (if_neg same))
  | @condition context c outcome live still queries =>
    by_cases same : context = h
    · subst same
      have named : contexts.naming context [(.condition context c, outcome)] =
          [.condition context c] := by simp
      exact .used live named ⟨c, rfl⟩
    · refine .unnamed ?_ (still h)
      simp [same]
  | compileRefused live gone queries =>
    refine contexts_turned_of_release live gone (Or.inr ?_) ?_ h
    · simp
    · intro h differ
      simp [differ]
  | compiled live next given gone queries =>
    refine contexts_turned_of_release live gone (Or.inr ?_) ?_ h
    · simp
    · intro h differ
      simp [differ]
  | destroyed live gone queries =>
    refine contexts_turned_of_release live gone (Or.inl ?_) ?_ h
    · simp
    · intro h differ
      simp [differ]
  | destroyedQuery live same gone => exact .unnamed rfl (by simp only [contexts, same])

theorem queries_turned (exchange : Exchange n n' e e' new) (h : QueryHandle) :
    queries.Turned n n' h e e' new := by
  cases exchange with
  | @compiled context query live next given gone grown =>
    by_cases same : query = h
    · subst same
      refine .returned rfl ?_ ?_ ⟨_, List.mem_cons_self, context, rfl⟩
      · simp only [queries]
        omega
      · simp only [queries]
        omega
    · exact .unnamed rfl ((grown h).trans (if_neg same))
  | @destroyedQuery query live same gone =>
    by_cases here : query = h
    · subst here
      refine .released live ((gone query).trans (if_pos rfl)) ?_
      simp [queries]
    · refine .unnamed ?_ ((gone h).trans (if_neg here))
      simp [here]
  | silent contexts same => exact .unnamed rfl (by simp only [queries, same])
  | createRefused contexts same => exact .unnamed rfl (by simp only [queries, same])
  | created next given live same => exact .unnamed rfl (by simp only [queries, same])
  | condition live still same => exact .unnamed rfl (by simp only [queries, same])
  | compileRefused live gone same => exact .unnamed rfl (by simp only [queries, same])
  | destroyed live gone same => exact .unnamed rfl (by simp only [queries, same])

/-- Whatever came of a compilation, the next call destroys the context. -/
def Prompt (calls : List (EngineCall × Engine.Outcome)) : Prop :=
  ∀ before context outcome after, calls = before ++ (.compile context, outcome) :: after →
    ∃ rest, after = (.destroyContext context, .done) :: rest

theorem Prompt.append {calls : List (EngineCall × Engine.Outcome)} (first : Prompt calls)
    (second : Prompt new) : Prompt (calls ++ new) := by
  intro before context outcome after split
  rcases split_of_append split with ⟨rest, earlier, rfl⟩ | ⟨rest, -, now⟩
  · obtain ⟨more, rfl⟩ := first before context outcome rest earlier
    exact ⟨more ++ new, rfl⟩
  · exact second rest context outcome after now

theorem prompt_nil : Prompt [] := by
  intro before context outcome after split
  simp at split

theorem prompt_single {call : EngineCall} (other : ∀ context, call ≠ .compile context)
    (outcome : Engine.Outcome) : Prompt [(call, outcome)] := by
  intro before context outcome' after split
  have member : (EngineCall.compile context, outcome') ∈ [(call, outcome)] := by simp [split]
  exact absurd (Prod.mk.inj (List.mem_singleton.mp member)).1.symm (other context)

theorem prompt_compile (context : ContextHandle) (outcome : Engine.Outcome) :
    Prompt [(.compile context, outcome), (.destroyContext context, .done)] := by
  intro before context' outcome' after split
  cases before with
  | nil =>
    obtain ⟨first, rest⟩ := List.cons.inj split
    obtain ⟨same, -⟩ := Prod.mk.inj first
    rw [← EngineCall.compile.inj same]
    exact ⟨[], rest.symm⟩
  | cons first earlier =>
    have later : Prompt [(.destroyContext context, .done)] := prompt_single (by simp) .done
    exact later earlier context' outcome' after (List.cons.inj split).2

theorem prompt_exchange (exchange : Exchange n n' e e' new) : Prompt new := by
  cases exchange with
  | silent => exact prompt_nil
  | compileRefused => exact prompt_compile _ _
  | compiled => exact prompt_compile _ _
  | _ => exact prompt_single (by simp) _

structure Orderly (n : Nat) (l : Ledger) : Prop where
  contexts : ∀ h, contexts.Story n h l.engine l.calls
  queries : ∀ h, queries.Story n h l.engine l.calls
  prompt : Prompt l.calls

namespace Orderly

variable {l l' : Ledger}

theorem fresh : Orderly 0 {} where
  contexts _ := Story.fresh rfl
  queries _ := Story.fresh rfl
  prompt := prompt_nil

theorem turn {o : Operation} {a : Answer} (orderly : Orderly n l) (owned : Owned n l)
    (turn : Turn l o a l') (fits : n + a.handles ≤ UInt64.size - 1) :
    Orderly (n + a.handles) l' := by
  obtain ⟨new, calls, exchange⟩ := exchange_of_turn owned turn fits
  constructor
  · intro h
    rw [calls]
    refine (orderly.contexts h).turn (contexts_turned exchange h) (Nat.le_add_right ..) ?_
    intro live
    obtain ⟨i, held⟩ := (owned.contexts h).mp live
    exact owned.numbers.given (.builder i) h.raw (by simp [Ledger.numberOf?, held])
  · intro h
    rw [calls]
    refine (orderly.queries h).turn (queries_turned exchange h) (Nat.le_add_right ..) ?_
    intro live
    obtain ⟨i, held⟩ := (owned.queries h).mp live
    exact owned.numbers.given (.query i) h.raw (by simp [Ledger.numberOf?, held])
  · rw [calls]
    exact orderly.prompt.append (prompt_exchange exchange)

theorem of_course {t : Transcript} (course : Course {} t l)
    (few : t.handles ≤ UInt64.size - 1) : Orderly t.handles l := by
  refine course.keeps (P := fun t l => Orderly t.handles l) few fresh ?_
  intro t l l' o a owned orderly turn fits
  rw [Transcript.handles_append, Transcript.handles_single]
  exact orderly.turn owned turn fits

end Orderly

/-- Conditions, then at most one compilation, then at most one release. -/
def InOrder (context : ContextHandle) (calls : List EngineCall) : Prop :=
  ∃ (conditions : List Condition) (compiled destroyed : List EngineCall),
    calls = conditions.map (.condition context) ++ compiled ++ destroyed ∧
    (compiled = [] ∨ compiled = [.compile context]) ∧
    (destroyed = [] ∨ destroyed = [.destroyContext context])

theorem exists_conditions {context : ContextHandle} {calls : List EngineCall}
    (uses : ∀ call ∈ calls, ∃ c, call = .condition context c) :
    ∃ conditions : List Condition, calls = conditions.map (.condition context) := by
  induction calls with
  | nil => exact ⟨[], rfl⟩
  | cons call rest ih =>
    obtain ⟨c, rfl⟩ := uses call (by simp)
    obtain ⟨conditions, rfl⟩ := ih fun call member => uses call (by simp [member])
    exact ⟨c :: conditions, rfl⟩

theorem Orderly.inOrder {l : Ledger} (orderly : Orderly n l) (context : ContextHandle) :
    InOrder context ((l.calls.map Prod.fst).filter fun call => call.context? = some context) := by
  obtain ⟨uses, rest, split, only_uses, last⟩ := (orderly.contexts context).ordered
  obtain ⟨conditions, rfl⟩ := exists_conditions only_uses
  rcases last with rfl | rfl | rfl
  · exact ⟨conditions, [], [], by rw [List.append_nil]; exact split, Or.inl rfl, Or.inl rfl⟩
  · exact ⟨conditions, [], [.destroyContext context], by rw [List.append_nil]; exact split,
      Or.inl rfl, Or.inr rfl⟩
  · exact ⟨conditions, [.compile context], [.destroyContext context],
      by rw [List.append_assoc]; exact split, Or.inr rfl, Or.inr rfl⟩

theorem Orderly.released_once {l : Ledger} (orderly : Orderly n l) (query : QueryHandle) :
    ((l.calls.map Prod.fst).filter fun call => call.query? = some query) = [] ∨
    ((l.calls.map Prod.fst).filter fun call => call.query? = some query) =
      [.destroyQuery query] := by
  obtain ⟨uses, rest, split, only_uses, last⟩ := (orderly.queries query).ordered
  have nothing : uses = [] := List.eq_nil_iff_forall_not_mem.mpr only_uses
  subst nothing
  rcases last with rfl | rfl
  · exact Or.inl split
  · exact Or.inr split

end Exchange

namespace Workspace

theorem calls_keep_order {operations : List Operation}
    (indirect : ∀ o ∈ operations, o.isDirect = false)
    (few : (transcript operations).handles ≤ UInt64.size - 1) :
    let w := after operations
    (∀ context earlier entry later, w.calls = earlier ++ entry :: later →
      entry.1.context? = some context →
        ∃ session entity, (EngineCall.createContext session entity, .context context) ∈ earlier) ∧
    (∀ context, InOrder context
      ((w.calls.map Prod.fst).filter fun call => call.context? = some context)) ∧
    (∀ context outcome earlier later,
      w.calls = earlier ++ (.compile context, outcome) :: later →
        ∃ rest, later = (.destroyContext context, .done) :: rest) ∧
    (∀ query earlier entry later, w.calls = earlier ++ entry :: later →
      entry.1.query? = some query →
        ∃ context, (EngineCall.compile context, .query query) ∈ earlier) ∧
    (∀ query, ((w.calls.map Prod.fst).filter fun call => call.query? = some query) = [] ∨
      ((w.calls.map Prod.fst).filter fun call => call.query? = some query) =
        [.destroyQuery query]) ∧
    (∀ op handle entity o earlier later,
      transcript operations = earlier ++
        (o, .refused (.engineRejected entity op (.unknownContext handle))) :: later →
          (.engine (.failNext op (.unknownContext handle)), .engine .done) ∈ earlier) ∧
    (∀ op handle, (transcript operations).relayed ⟨op, .unknownContext handle⟩ +
        w.engine.faults.count ⟨op, .unknownContext handle⟩ =
      (transcript operations).injected ⟨op, .unknownContext handle⟩) := by
  intro w
  have course : Course {} (transcript operations) w.ledger := course_of_after indirect
  have orderly : Orderly (transcript operations).handles w.ledger := Orderly.of_course course few
  refine ⟨?_, orderly.inOrder, ?_, ?_, orderly.released_once, ?_, relayed_add_pending course few⟩
  · intro context earlier entry later split named
    obtain ⟨source, member, session, entity, rfl⟩ :=
      (orderly.contexts context).born earlier entry later split named
    exact ⟨session, entity, member⟩
  · intro context outcome earlier later split
    exact orderly.prompt earlier context outcome later split
  · intro query earlier entry later split named
    obtain ⟨source, member, context, rfl⟩ :=
      (orderly.queries query).born earlier entry later split named
    exact ⟨context, member⟩
  · intro op handle entity o earlier later split
    exact lined_up_of_relayed course few split

/-- The first builder's context is compiled in vain; the error it reports was lined up. -/
theorem sampleRun_calls_keep_order :
    (∀ o ∈ sampleRun, o.isDirect = false) ∧
    (transcript sampleRun).handles ≤ UInt64.size - 1 ∧
    InOrder ⟨2, by decide⟩ [.condition ⟨2, by decide⟩ ⟨⟨1⟩, .isNull⟩,
      .condition ⟨2, by decide⟩ ⟨⟨2⟩, .notNull⟩, .compile ⟨2, by decide⟩,
      .destroyContext ⟨2, by decide⟩] ∧
    (.engine (.failNext .compile (.unknownContext 9)), .engine .done) ∈
      (transcript sampleRun).take 11 ∧
    (transcript sampleRun).relayed ⟨.compile, .unknownContext 9⟩ = 1 := by
  have indirect : ∀ o ∈ sampleRun, o.isDirect = false := by decide
  have few : (transcript sampleRun).handles ≤ UInt64.size - 1 :=
    Nat.le_trans (handles_le_length sampleRun) (by decide)
  obtain ⟨-, order, -, -, -, lined, accounts⟩ := calls_keep_order indirect few
  refine ⟨indirect, few, order ⟨2, by decide⟩, ?_, ?_⟩
  · exact lined .compile 9 "Order" (.build 0) ((transcript sampleRun).take 11)
      ((transcript sampleRun).drop 12) (by decide +kernel)
  · have account := accounts .compile 9
    have pending : (after sampleRun).engine.faults.count ⟨.compile, .unknownContext 9⟩ = 0 := by
      decide +kernel
    have injected : (transcript sampleRun).injected ⟨.compile, .unknownContext 9⟩ = 1 := by
      decide +kernel
    omega

end Workspace

end ObjectQuery
