import ObjectQuery.Proofs.Ownership
import ObjectQuery.Proofs.History

/-!
What one turn says to the engine. A turn makes at most two calls; `exchange_of_turn` lists which,
with their outcomes and with what becomes of the live handles.
-/
namespace ObjectQuery

/-- The calls of one turn and what becomes of the live handles, when `n` handles have been given
out before it and `n'` after it. -/
inductive Exchange (n n' : Nat) (e e' : Engine) : List (EngineCall × Engine.Outcome) → Prop where
  | silent (contexts : e'.contexts = e.contexts) (queries : e'.queries = e.queries) :
      Exchange n n' e e' []
  | createRefused {session : SessionHandle} {entity : String} {error : EngineError}
      (contexts : e'.contexts = e.contexts) (queries : e'.queries = e.queries) :
      Exchange n n' e e' [(.createContext session entity, .refused error)]
  | created {session : SessionHandle} {entity : String} {context : ContextHandle}
      (next : context.raw.toNat = n + 1) (given : n' = n + 1)
      (contexts : ∀ h, (e'.contexts.get? h).isSome =
        if context = h then true else (e.contexts.get? h).isSome)
      (queries : e'.queries = e.queries) :
      Exchange n n' e e' [(.createContext session entity, .context context)]
  | condition {context : ContextHandle} {c : Condition} {outcome : Engine.Outcome}
      (live : (e.contexts.get? context).isSome)
      (contexts : ∀ h, (e'.contexts.get? h).isSome = (e.contexts.get? h).isSome)
      (queries : e'.queries = e.queries) : Exchange n n' e e' [(.condition context c, outcome)]
  | compileRefused {context : ContextHandle} {error : EngineError}
      (live : (e.contexts.get? context).isSome)
      (contexts : ∀ h, (e'.contexts.get? h).isSome =
        if context = h then false else (e.contexts.get? h).isSome)
      (queries : e'.queries = e.queries) :
      Exchange n n' e e' [(.compile context, .refused error), (.destroyContext context, .done)]
  | compiled {context : ContextHandle} {query : QueryHandle}
      (live : (e.contexts.get? context).isSome) (next : query.raw.toNat = n + 1)
      (given : n' = n + 1)
      (contexts : ∀ h, (e'.contexts.get? h).isSome =
        if context = h then false else (e.contexts.get? h).isSome)
      (queries : ∀ h, (e'.queries.get? h).isSome =
        if query = h then true else (e.queries.get? h).isSome) :
      Exchange n n' e e' [(.compile context, .query query), (.destroyContext context, .done)]
  | destroyed {context : ContextHandle} (live : (e.contexts.get? context).isSome)
      (contexts : ∀ h, (e'.contexts.get? h).isSome =
        if context = h then false else (e.contexts.get? h).isSome)
      (queries : e'.queries = e.queries) : Exchange n n' e e' [(.destroyContext context, .done)]
  | destroyedQuery {query : QueryHandle} (live : (e.queries.get? query).isSome)
      (contexts : e'.contexts = e.contexts)
      (queries : ∀ h, (e'.queries.get? h).isSome =
        if query = h then false else (e.queries.get? h).isSome) :
      Exchange n n' e e' [(.destroyQuery query, .done)]

section Turn

variable {n : Nat} {l l' : Ledger} {o : Operation} {a : Answer}

theorem isSome_get?_close (id : Nat) (box : EntityBox) (context : ContextHandle) (onDrop : Bool)
    (h : ContextHandle) : ((l.close id box context onDrop).engine.contexts.get? h).isSome =
      if context = h then false else (l.engine.contexts.get? h).isSome := by
  simp only [Ledger.close, Engine.get?_contexts_destroyContext]
  split <;> rfl

theorem isSome_get?_closeQuery (id : Nat) (box : EntityBox) (query : QueryHandle) (onDrop : Bool)
    (h : QueryHandle) : ((l.closeQuery id box query onDrop).engine.queries.get? h).isSome =
      if query = h then false else (l.engine.queries.get? h).isSome := by
  simp only [Ledger.closeQuery, Engine.get?_queries_destroyQuery]
  split <;> rfl

theorem exchange_of_turn (owned : Owned n l) (turn : Turn l o a l')
    (fits : n + a.handles ≤ UInt64.size - 1) :
    ∃ new, l'.calls = l.calls ++ new ∧ Exchange n (n + a.handles) l.engine l'.engine new := by
  cases turn with
  | aside added effects plain minor unmet =>
    refine ⟨[], ?_, .silent rfl rfl⟩
    rw [Ledger.calls_write, callsIn_minor minor]
    rfl
  | engine indirect =>
    refine ⟨[], (List.append_nil _).symm, ?_⟩
    exact .silent (Engine.act_tables indirect).1 (Engine.act_tables indirect).2
  | @openRefused id box error engine effects minor found failed =>
    obtain ⟨left, rfl, -⟩ := Engine.createContext_error failed
    refine ⟨[(.createContext box.store.session box.entity, .refused error)], ?_, ?_⟩
    · simp [callsIn_minor minor]
    · exact .createRefused rfl rfl
  | @opened id box context engine effects minor found done =>
    obtain ⟨-, -, next, rfl⟩ := Engine.createContext_ok done
    refine ⟨[(.createContext box.store.session box.entity, .context context)], ?_, ?_⟩
    · simp [callsIn_minor minor]
    · refine .created ?_ rfl ?_ rfl
      · rw [next]
        exact owned.next_eq fits
      · intro h
        simp only [Ledger.write_engine, Ledger.addBuilder, Table.get?_insert]
        split <;> rfl
  | @conditionRefused id box context p m error engine found failed =>
    obtain ⟨left, rfl, -⟩ := Engine.addCondition_error failed
    refine ⟨[(.condition context ⟨p.id, m.test⟩, .refused error)], by simp, ?_⟩
    exact .condition (owned.context_live (Ledger.contextOf?_of_found found)) (fun h => rfl) rfl
  | @conditionAdded id box context p m engine found done =>
    obtain ⟨-, rfl⟩ := Engine.addCondition_ok done
    refine ⟨[(.condition context ⟨p.id, m.test⟩, .done)], by simp, ?_⟩
    refine .condition (owned.context_live (Ledger.contextOf?_of_found found)) ?_ rfl
    intro h
    simp only [Ledger.write_engine, Table.get?_modify]
    split <;> simp
  | @buildRefused id box context error engine found failed =>
    obtain ⟨left, rfl, -⟩ := Engine.compile_error failed
    refine ⟨[(.compile context, .refused error), (.destroyContext context, .done)], by simp, ?_⟩
    refine .compileRefused (owned.context_live (Ledger.contextOf?_of_found found)) ?_
      Engine.queries_destroyContext
    intro h
    rw [Ledger.write_engine, isSome_get?_close]
    rfl
  | @built id box context query engine found done =>
    obtain ⟨ctx, -, next, rfl⟩ := Engine.compile_ok done
    refine ⟨[(.compile context, .query query), (.destroyContext context, .done)], by simp, ?_⟩
    refine .compiled (owned.context_live (Ledger.contextOf?_of_found found)) ?_ rfl ?_ ?_
    · rw [next]
      exact owned.next_eq fits
    · intro h
      rw [isSome_get?_close]
      rfl
    · intro h
      rw [Ledger.close, Engine.queries_destroyContext]
      simp only [Ledger.write_engine, Ledger.addQuery, Table.get?_insert]
      split <;> rfl
  | @builderReleased _ id box context onDrop release found =>
    refine ⟨[(.destroyContext context, .done)], by simp, ?_⟩
    exact .destroyed (owned.context_live (Ledger.contextOf?_of_found found))
      (isSome_get?_close id box context onDrop) Engine.queries_destroyContext
  | @queryReleased _ id box query onDrop release found =>
    refine ⟨[(.destroyQuery query, .done)], by simp, ?_⟩
    exact .destroyedQuery (owned.query_live (Ledger.queryOf?_of_found found))
      Engine.contexts_destroyQuery (isSome_get?_closeQuery id box query onDrop)

end Turn

end ObjectQuery
