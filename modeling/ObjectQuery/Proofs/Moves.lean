import ObjectQuery.Proofs.EngineCalls

/-!
What one action can make of an engine. `Move` has one case for each way an action can end, guards
and the whole next engine included, so facts about runs are proved by going through its cases.
-/
namespace ObjectQuery.Engine

/-- The fault that decides a call is taken out of line; other failures leave the line alone. -/
inductive Cause (e : Engine) (op : EngineOp) (error : EngineError) : List PendingFault → Prop where
  | fault {left : List PendingFault} (taken : PendingFault.take? op e.faults = some (error, left)) :
      Cause e op error left
  | own (free : PendingFault.take? op e.faults = none) : Cause e op error e.faults

inductive Move (e : Engine) : Action → Outcome → Engine → Prop where
  | registered {model : EntityModel} : Move e (.register model) .done (e.register model)
  | sessionOpened : Move e .openSession (.session (e.counter.peek .session))
      { e with
        counter := e.counter.advance
        sessions := e.sessions.insert (e.counter.peek .session) () }
  | linedUp {op : EngineOp} {error : EngineError} (fallible : op.isFallible = true) :
      Move e (.failNext op error) .done { e with faults := e.faults ++ [⟨op, error⟩] }
  | unfit {op : EngineOp} {error : EngineError} (infallible : op.isFallible = false) :
      Move e (.failNext op error) (.refused (.rejected s!"{op.label} cannot be made to fail")) e
  | cleared : Move e .clearJournal .done { e with journal := e.journal.clear }
  | resized {capacity : Nat} :
      Move e (.resizeJournal capacity) .done { e with journal := e.journal.resize capacity }
  | refused {call : EngineCall} {error : EngineError} {left : List PendingFault}
      (cause : Cause e call.op error left) :
      Move e (.call call) (.refused error) { e.note call with faults := left }
  | created {session : SessionHandle} {entity : String}
      (free : PendingFault.take? .createContext e.faults = none)
      (opened : (e.sessions.get? session).isSome) (known : (e.entities.get? entity).isSome) :
      Move e (.call (.createContext session entity)) (.context (e.counter.peek .context))
        { e.note (.createContext session entity) with
          counter := e.counter.advance
          contexts := e.contexts.insert (e.counter.peek .context) ⟨entity, []⟩ }
  | added {context : ContextHandle} {c : Condition}
      (free : PendingFault.take? c.op e.faults = none)
      (valid : ∃ p, e.validate context c = .ok p) :
      Move e (.call (.condition context c)) .done
        { e.note (.condition context c) with
          contexts := e.contexts.modify context fun ctx =>
            { ctx with conditions := ctx.conditions ++ [c] } }
  | compiled {context : ContextHandle} {ctx : Context}
      (free : PendingFault.take? .compile e.faults = none)
      (live : e.contexts.get? context = some ctx) :
      Move e (.call (.compile context)) (.query (e.counter.peek .query))
        { e.note (.compile context) with
          counter := e.counter.advance
          queries := e.queries.insert (e.counter.peek .query) ctx.conditions }
  | destroyed {context : ContextHandle} (live : (e.contexts.get? context).isSome) :
      Move e (.call (.destroyContext context)) .done
        { e.note (.destroyContext context) with contexts := e.contexts.erase context }
  | missed {context : ContextHandle} (dead : e.contexts.get? context = none) :
      Move e (.call (.destroyContext context)) .done
        { e.note (.destroyContext context) with doubleReleases := e.doubleReleases + 1 }
  | destroyedQuery {query : QueryHandle} (live : (e.queries.get? query).isSome) :
      Move e (.call (.destroyQuery query)) .done
        { e.note (.destroyQuery query) with queries := e.queries.erase query }
  | missedQuery {query : QueryHandle} (dead : e.queries.get? query = none) :
      Move e (.call (.destroyQuery query)) .done
        { e.note (.destroyQuery query) with doubleReleases := e.doubleReleases + 1 }

variable {e : Engine}

theorem move_createContext (session : SessionHandle) (entity : String) :
    Move e (.call (.createContext session entity)) (e.perform (.createContext session entity)).1
      (e.perform (.createContext session entity)).2 := by
  rcases ended : e.createContext session entity with ⟨r, e'⟩
  rw [perform_createContext ended]
  cases r with
  | error error =>
    obtain ⟨left, rfl, taken | ⟨free, rfl, -⟩⟩ := createContext_error ended
    · exact .refused (.fault taken)
    · exact .refused (.own free)
  | ok context =>
    obtain ⟨opened, known, rfl, rfl⟩ := createContext_ok ended
    exact .created (attempt_ok ended).1 opened known

theorem move_addCondition (context : ContextHandle) (c : Condition) :
    Move e (.call (.condition context c)) (e.perform (.condition context c)).1
      (e.perform (.condition context c)).2 := by
  rcases ended : e.addCondition context c with ⟨r, e'⟩
  rw [perform_condition ended]
  cases r with
  | error error =>
    obtain ⟨left, rfl, taken | ⟨free, rfl, -⟩⟩ := addCondition_error ended
    · exact .refused (.fault taken)
    · exact .refused (.own free)
  | ok done =>
    obtain ⟨valid, rfl⟩ := addCondition_ok ended
    exact .added (attempt_ok ended).1 valid

theorem move_compile (context : ContextHandle) :
    Move e (.call (.compile context)) (e.perform (.compile context)).1
      (e.perform (.compile context)).2 := by
  rcases ended : e.compile context with ⟨r, e'⟩
  rw [perform_compile ended]
  cases r with
  | error error =>
    obtain ⟨left, rfl, taken | ⟨free, rfl, -⟩⟩ := compile_error ended
    · exact .refused (.fault taken)
    · exact .refused (.own free)
  | ok query =>
    obtain ⟨ctx, live, rfl, rfl⟩ := compile_ok ended
    exact .compiled (attempt_ok ended).1 live

theorem move_destroyContext (context : ContextHandle) :
    Move e (.call (.destroyContext context)) .done (e.destroyContext context) := by
  by_cases live : (e.contexts.get? context).isSome
  · rw [destroyContext_live live]
    exact .destroyed live
  · have dead : e.contexts.get? context = none := by simpa using live
    rw [destroyContext_dead dead]
    exact .missed dead

theorem move_destroyQuery (query : QueryHandle) :
    Move e (.call (.destroyQuery query)) .done (e.destroyQuery query) := by
  by_cases live : (e.queries.get? query).isSome
  · rw [destroyQuery_live live]
    exact .destroyedQuery live
  · have dead : e.queries.get? query = none := by simpa using live
    rw [destroyQuery_dead dead]
    exact .missedQuery dead

theorem move_of_act (e : Engine) (action : Action) :
    Move e action (e.act action).1 (e.act action).2 := by
  cases action with
  | register model => exact .registered
  | openSession => exact .sessionOpened
  | failNext op error =>
    cases fallible : op.isFallible with
    | true =>
      rw [act_failNext_fallible fallible]
      exact .linedUp fallible
    | false =>
      rw [act_failNext_infallible fallible]
      exact .unfit fallible
  | clearJournal => exact .cleared
  | resizeJournal capacity => exact .resized
  | call call =>
    cases call with
    | createContext session entity => exact move_createContext session entity
    | condition context c => exact move_addCondition context c
    | compile context => exact move_compile context
    | destroyContext context => exact move_destroyContext context
    | destroyQuery query => exact move_destroyQuery query

theorem run_append (e : Engine) (actions more : List Action) :
    e.run (actions ++ more) =
      ((e.run actions).1 ++ ((e.run actions).2.run more).1, ((e.run actions).2.run more).2) := by
  induction actions generalizing e with
  | nil => rfl
  | cons action rest ih => simp [run, ih]

end ObjectQuery.Engine
