import ObjectQuery.Engine.Action
import ObjectQuery.Table.Lemmas

/-!
How a call to an engine can end. Each entry point has one statement for its success and one for
its failure; both give the whole engine that follows, so later proofs never open an entry point.
-/
namespace ObjectQuery

theorem HandleCounter.toNat_next_advance (c : HandleCounter) :
    c.advance.next.toNat = min (c.next.toNat + 1) (UInt64.size - 1) := by
  have bound := c.next.toNat_lt
  unfold advance
  split
  · rename_i last
    have wraps : (c.next.toNat + 1) % UInt64.size = 0 := by
      simpa [UInt64.toNat_add] using congrArg UInt64.toNat last
    simp only [UInt64.size] at *
    omega
  · rename_i more
    have stays : (c.next.toNat + 1) % UInt64.size ≠ 0 := by
      intro zero
      exact more (UInt64.toNat_inj.mp (by simpa [UInt64.toNat_add] using zero))
    simp only [UInt64.toNat_add, UInt64.size] at *
    simp only [UInt64.toNat_one] at *
    omega

theorem PendingFault.take?_eq_some {op : EngineOp} {faults left : List PendingFault}
    {error : EngineError} (taken : take? op faults = some (error, left)) :
    ∃ before after, faults = before ++ ⟨op, error⟩ :: after ∧ left = before ++ after ∧
      ∀ f ∈ before, f.op ≠ op := by
  induction faults generalizing left with
  | nil => simp [take?] at taken
  | cons f rest ih =>
    by_cases same : f.op = op
    · simp only [take?, same, ↓reduceIte, Option.some.injEq, Prod.mk.injEq] at taken
      obtain ⟨rfl, rfl⟩ := taken
      exact ⟨[], rest, by simp [← same], rfl, by simp⟩
    · simp only [take?, same, ↓reduceIte] at taken
      split at taken
      · rename_i found
        simp only [Option.some.injEq, Prod.mk.injEq] at taken
        obtain ⟨rfl, rfl⟩ := taken
        obtain ⟨before, after, rfl, rfl, earlier⟩ := ih found
        refine ⟨f :: before, after, rfl, rfl, ?_⟩
        intro g member
        rcases List.mem_cons.mp member with rfl | member
        · exact same
        · exact earlier g member
      · simp at taken

namespace Engine

variable {e e' : Engine}

section Attempt

variable {α : Type} {call : EngineCall} {answer : Engine → Except EngineError (α × Engine)}

theorem attempt_ok {a : α} (done : e.attempt call answer = (.ok a, e')) :
    PendingFault.take? call.op e.faults = none ∧ answer (e.note call) = .ok (a, e') := by
  unfold attempt at done
  dsimp only at done
  split at done
  · simp at done
  · rename_i free
    split at done
    · simp at done
    · rename_i answered
      simp only [Prod.mk.injEq, Except.ok.injEq] at done
      obtain ⟨rfl, rfl⟩ := done
      exact ⟨free, answered⟩

/-- A failed call leaves its journal entry and takes the fault that decided it, if one did. -/
theorem attempt_error {error : EngineError} (failed : e.attempt call answer = (.error error, e')) :
    ∃ left, e' = { e.note call with faults := left } ∧
      (PendingFault.take? call.op e.faults = some (error, left) ∨
        PendingFault.take? call.op e.faults = none ∧ left = e.faults ∧
          answer (e.note call) = .error error) := by
  unfold attempt at failed
  dsimp only at failed
  split at failed
  · rename_i taken
    simp only [Prod.mk.injEq, Except.error.injEq] at failed
    obtain ⟨rfl, rfl⟩ := failed
    exact ⟨_, rfl, Or.inl taken⟩
  · rename_i free
    split at failed
    · rename_i answered
      simp only [Prod.mk.injEq, Except.error.injEq] at failed
      obtain ⟨rfl, rfl⟩ := failed
      exact ⟨e.faults, rfl, Or.inr ⟨free, rfl, answered⟩⟩
    · simp at failed

end Attempt

variable {session : SessionHandle} {entity : String} {context : ContextHandle} {c : Condition}
  {query : QueryHandle} {error : EngineError}

theorem createContext_ok (done : e.createContext session entity = (.ok context, e')) :
    (e.sessions.get? session).isSome ∧ (e.entities.get? entity).isSome ∧
      context = e.counter.peek .context ∧
      e' = { e.note (.createContext session entity) with
        counter := e.counter.advance
        contexts := e.contexts.insert context ⟨entity, []⟩ } := by
  obtain ⟨-, answered⟩ := attempt_ok done
  split at answered
  · simp at answered
  · rename_i session_open
    split at answered
    · simp at answered
    · rename_i entity_known
      simp only [Except.ok.injEq, Prod.mk.injEq] at answered
      obtain ⟨rfl, rfl⟩ := answered
      simp only [note, Table.contains_eq_isSome, Bool.not_eq_true', Bool.not_eq_false]
        at session_open entity_known
      exact ⟨session_open, entity_known, rfl, rfl⟩

theorem createContext_error (failed : e.createContext session entity = (.error error, e')) :
    ∃ left, e' = { e.note (.createContext session entity) with faults := left } ∧
      (PendingFault.take? .createContext e.faults = some (error, left) ∨
        PendingFault.take? .createContext e.faults = none ∧ left = e.faults ∧
          (error = .unknownSession session.raw ∨ error = .unknownEntity entity)) := by
  obtain ⟨left, rfl, cause⟩ := attempt_error failed
  refine ⟨left, rfl, ?_⟩
  rcases cause with taken | ⟨free, same, answered⟩
  · exact Or.inl taken
  · refine Or.inr ⟨free, same, ?_⟩
    split at answered
    · exact Or.inl (Except.error.inj answered).symm
    · split at answered
      · exact Or.inr (Except.error.inj answered).symm
      · simp at answered

theorem validate_unknownContext {handle : UInt64}
    (failed : e.validate context c = .error (.unknownContext handle)) :
    e.contexts.get? context = none := by
  unfold validate at failed
  repeat' split at failed
  all_goals first | assumption | simp at failed

theorem addCondition_ok (done : e.addCondition context c = (.ok (), e')) :
    (∃ p, e.validate context c = .ok p) ∧
      e' = { e.note (.condition context c) with
        contexts := e.contexts.modify context fun ctx =>
          { ctx with conditions := ctx.conditions ++ [c] } } := by
  obtain ⟨-, answered⟩ := attempt_ok done
  split at answered
  · simp at answered
  · rename_i p valid
    simp only [Except.ok.injEq, Prod.mk.injEq, true_and] at answered
    exact ⟨⟨p, valid⟩, answered.symm⟩

theorem addCondition_error (failed : e.addCondition context c = (.error error, e')) :
    ∃ left, e' = { e.note (.condition context c) with faults := left } ∧
      (PendingFault.take? c.op e.faults = some (error, left) ∨
        PendingFault.take? c.op e.faults = none ∧ left = e.faults ∧
          e.validate context c = .error error) := by
  obtain ⟨left, rfl, cause⟩ := attempt_error failed
  refine ⟨left, rfl, ?_⟩
  rcases cause with taken | ⟨free, same, answered⟩
  · exact Or.inl taken
  · refine Or.inr ⟨free, same, ?_⟩
    split at answered
    · rename_i invalid
      rw [← Except.error.inj answered]
      exact invalid
    · simp at answered

theorem compile_ok (done : e.compile context = (.ok query, e')) :
    ∃ ctx, e.contexts.get? context = some ctx ∧ query = e.counter.peek .query ∧
      e' = { e.note (.compile context) with
        counter := e.counter.advance
        queries := e.queries.insert query ctx.conditions } := by
  obtain ⟨-, answered⟩ := attempt_ok done
  split at answered
  · simp at answered
  · rename_i ctx live
    simp only [Except.ok.injEq, Prod.mk.injEq] at answered
    obtain ⟨rfl, rfl⟩ := answered
    exact ⟨ctx, live, rfl, rfl⟩

theorem compile_error (failed : e.compile context = (.error error, e')) :
    ∃ left, e' = { e.note (.compile context) with faults := left } ∧
      (PendingFault.take? .compile e.faults = some (error, left) ∨
        PendingFault.take? .compile e.faults = none ∧ left = e.faults ∧
          e.contexts.get? context = none ∧ error = .unknownContext context.raw) := by
  obtain ⟨left, rfl, cause⟩ := attempt_error failed
  refine ⟨left, rfl, ?_⟩
  rcases cause with taken | ⟨free, same, answered⟩
  · exact Or.inl taken
  · refine Or.inr ⟨free, same, ?_⟩
    split at answered
    · rename_i dead
      exact ⟨dead, (Except.error.inj answered).symm⟩
    · simp at answered

theorem get?_contexts_destroyContext (h : ContextHandle) :
    (e.destroyContext context).contexts.get? h =
      if context = h then none else e.contexts.get? h := by
  unfold destroyContext
  dsimp only
  split
  · exact Table.get?_erase ..
  · rename_i dead
    split
    · rename_i same
      subst same
      simpa [note] using dead
    · rfl

theorem queries_destroyContext : (e.destroyContext context).queries = e.queries := by
  unfold destroyContext
  dsimp only
  split <;> rfl

theorem get?_queries_destroyQuery (h : QueryHandle) :
    (e.destroyQuery query).queries.get? h = if query = h then none else e.queries.get? h := by
  unfold destroyQuery
  dsimp only
  split
  · exact Table.get?_erase ..
  · rename_i dead
    split
    · rename_i same
      subst same
      simpa [note] using dead
    · rfl

theorem contexts_destroyQuery : (e.destroyQuery query).contexts = e.contexts := by
  unfold destroyQuery
  dsimp only
  split <;> rfl

theorem destroyContext_live (live : (e.contexts.get? context).isSome) :
    e.destroyContext context =
      { e.note (.destroyContext context) with contexts := e.contexts.erase context } := by
  simp [destroyContext, note, live]

theorem destroyQuery_live (live : (e.queries.get? query).isSome) :
    e.destroyQuery query =
      { e.note (.destroyQuery query) with queries := e.queries.erase query } := by
  simp [destroyQuery, note, live]

theorem destroyContext_dead (dead : e.contexts.get? context = none) :
    e.destroyContext context =
      { e.note (.destroyContext context) with doubleReleases := e.doubleReleases + 1 } := by
  simp [destroyContext, note, dead]

theorem destroyQuery_dead (dead : e.queries.get? query = none) :
    e.destroyQuery query =
      { e.note (.destroyQuery query) with doubleReleases := e.doubleReleases + 1 } := by
  simp [destroyQuery, note, dead]

theorem perform_createContext {r : Except EngineError ContextHandle}
    (ended : e.createContext session entity = (r, e')) :
    e.perform (.createContext session entity) = (.ofExcept .context r, e') := by
  simp [perform, ended]

theorem perform_condition {r : Except EngineError Unit}
    (ended : e.addCondition context c = (r, e')) :
    e.perform (.condition context c) = (.ofExcept (fun _ => .done) r, e') := by
  simp [perform, ended]

theorem perform_compile {r : Except EngineError QueryHandle}
    (ended : e.compile context = (r, e')) :
    e.perform (.compile context) = (.ofExcept .query r, e') := by
  simp [perform, ended]

theorem act_failNext_fallible {op : EngineOp} (fallible : op.isFallible = true) :
    e.act (.failNext op error) = (.done, { e with faults := e.faults ++ [⟨op, error⟩] }) := by
  simp [act, failNext, fallible]

theorem act_failNext_infallible {op : EngineOp} (infallible : op.isFallible = false) :
    e.act (.failNext op error) =
      (.refused (.rejected s!"{op.label} cannot be made to fail"), e) := by
  simp [act, failNext, infallible]

theorem act_tables {action : Action} (indirect : ∀ call, action ≠ .call call) :
    (e.act action).2.contexts = e.contexts ∧ (e.act action).2.queries = e.queries := by
  cases action with
  | failNext op error =>
    cases fallible : op.isFallible with
    | true => rw [act_failNext_fallible fallible]; exact ⟨rfl, rfl⟩
    | false => rw [act_failNext_infallible fallible]; exact ⟨rfl, rfl⟩
  | call call => exact absurd rfl (indirect call)
  | _ => exact ⟨rfl, rfl⟩

end Engine

end ObjectQuery
