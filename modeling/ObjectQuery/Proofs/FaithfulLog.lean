import ObjectQuery.Proofs.Registers
import ObjectQuery.Proofs.Timeline

/-!
The log as an account of resources. What the notices say of contexts is entered in one register,
what they say of queries in another. The scenes of a timeline show that each operation enters only
what the owners bear out, so both registers are accounts, and that a call and the notices of it
stand next to each other.
-/
namespace ObjectQuery

namespace Notice

def onContext? : Notice → Option (Entry .context)
  | builderOpened entity h => some (.opened entity h)
  | condition _ _ h _ _ | conditionStored h _ => some (.used h)
  | builderClosed entity h onDrop => some (.closed entity h onDrop)
  | _ => none

def onQuery? : Notice → Option (Entry .query)
  | queryCompiled entity h => some (.opened entity h)
  | queryClosed entity h onDrop => some (.closed entity h onDrop)
  | _ => none

theorem context_field (n : Notice) :
    n.fields.lookup "context" = n.onContext?.map fun x => x.handle.text := by
  cases n <;> rfl

theorem query_field (n : Notice) :
    n.fields.lookup "query" = n.onQuery?.map fun x => x.handle.text := by
  cases n <;> rfl

end Notice

def created? : EngineCall × Engine.Outcome → Option (String × ContextHandle)
  | (.createContext _ entity, .context h) => some (entity, h)
  | _ => none

def compiled? : EngineCall × Engine.Outcome → Option QueryHandle
  | (.compile _, .query h) => some h
  | _ => none

def entered {kind : HandleKind} (on? : Notice → Option (Entry kind)) (effects : List Effect) :
    List (Entry kind) :=
  (effects.filterMap Effect.notice?).filterMap on?

theorem entered_append {kind : HandleKind} (on? : Notice → Option (Entry kind))
    (effects more : List Effect) :
    entered on? (effects ++ more) = entered on? effects ++ entered on? more := by
  simp [entered]

theorem notices_of_silent {effects : List Effect} {β : Type} {f : Notice → Option β}
    (resolving : ∀ entity n, f (.modelResolved entity n) = none)
    (silent : ∀ e ∈ effects, e.isSilent = true) :
    (effects.filterMap Effect.notice?).filterMap f = [] := by
  rw [List.filterMap_eq_nil_iff]
  intro n noticed
  obtain ⟨e, member, same⟩ := List.mem_filterMap.mp noticed
  have hushed := silent e member
  cases e with
  | noticed m =>
    obtain rfl : m = n := by simpa [Effect.notice?] using same
    cases m with
    | modelResolved entity k => exact resolving entity k
    | _ => contradiction
  | _ => contradiction

namespace Workspace

def contextRegister (w : Workspace) : List (Entry .context) := w.log.filterMap Notice.onContext?

def queryRegister (w : Workspace) : List (Entry .query) := w.log.filterMap Notice.onQuery?

def contextHoldings (w : Workspace) : List (Holding .context) :=
  w.builders.map fun b => (b.box.entity, b.handle)

def queryHoldings (w : Workspace) : List (Holding .query) :=
  w.queries.map fun q => (q.box.entity, q.handle)

section Scene

variable {w w' : Workspace} {o : Operation} {a : Answer} {core : List Effect} {n : Nat}

theorem contexts_entered (scene : Scene w o a w' core) (owned : Owned n w.ledger)
    (fits : n + a.handles ≤ UInt64.size - 1) :
    Entered n (n + a.handles) w.contextHoldings w'.contextHoldings
      (entered Notice.onContext? core) := by
  have same (builders : w'.builders = w.builders) : w'.contextHoldings = w.contextHoldings := by
    rw [contextHoldings, builders, contextHoldings]
  have holding {id : Nat} {box : EntityBox} {context : ContextHandle}
      (found : w.builders[id]? = some ⟨box, some context⟩) :
      w.contextHoldings[id]? = some (box.entity, some context) := by
    simp [contextHoldings, found]
  have dropped {id : Nat} {box : EntityBox}
      (builders : w'.builders = w.builders.set id ⟨box, none⟩) :
      w'.contextHoldings = w.contextHoldings.set id (box.entity, none) := by
    simp [contextHoldings, builders, List.map_set]
  cases scene with
  | quiet builders queries | openRefused found builders queries
  | queryReleased release found builders queries =>
    rw [same builders]
    exact .nothing
  | @opened id k box context _ found next builders queries =>
    have number : context.raw.toNat = n + 1 := by
      rw [next]
      exact owned.next_eq fits
    have grown : w'.contextHoldings = w.contextHoldings ++ [(box.entity, some context)] := by
      simp [contextHoldings, builders]
    have handles : (Answer.builder k).handles = 1 := rfl
    rw [grown]
    exact .opened (by omega) (by omega)
  -- A condition is noticed once when it is announced, and once more if the engine stores it.
  | conditionRefused found builders queries =>
    rw [same builders]
    exact .used 1 (holding found)
  | conditionAdded found builders queries =>
    rw [same builders]
    exact .used 2 (holding found)
  | buildRefused found builders queries | built found next builders queries
  | builderReleased release found builders queries =>
    rw [dropped builders]
    exact .closed (holding found)

theorem queries_entered (scene : Scene w o a w' core) (owned : Owned n w.ledger)
    (fits : n + a.handles ≤ UInt64.size - 1) :
    Entered n (n + a.handles) w.queryHoldings w'.queryHoldings
      (entered Notice.onQuery? core) := by
  have same (queries : w'.queries = w.queries) : w'.queryHoldings = w.queryHoldings := by
    rw [queryHoldings, queries, queryHoldings]
  cases scene with
  | quiet builders queries | openRefused found builders queries
  | opened found next builders queries | conditionRefused found builders queries
  | conditionAdded found builders queries | buildRefused found builders queries
  | builderReleased release found builders queries =>
    rw [same queries]
    exact .nothing
  | @built id k box context query _ found next builders queries =>
    have number : query.raw.toNat = n + 1 := by
      rw [next]
      exact owned.next_eq fits
    have grown : w'.queryHoldings = w.queryHoldings ++ [(box.entity, some query)] := by
      simp [queryHoldings, queries]
    have handles : (Answer.query k).handles = 1 := rfl
    rw [grown]
    exact .opened (by omega) (by omega)
  | @queryReleased _ _ id box query onDrop _ release found builders queries =>
    have holding : w.queryHoldings[id]? = some (box.entity, some query) := by
      simp [queryHoldings, found]
    have dropped : w'.queryHoldings = w.queryHoldings.set id (box.entity, none) := by
      simp [queryHoldings, queries, List.map_set]
    rw [dropped]
    exact .closed holding

/-- Contexts and queries come to be in the calls as the log has it. -/
theorem openings_of_scene (scene : Scene w o a w' core) :
    (core.filterMap Effect.call?).filterMap created? =
      openings (entered Notice.onContext? core) ∧
    (core.filterMap Effect.call?).filterMap compiled? =
      (openings (entered Notice.onQuery? core)).map Prod.snd := by
  cases scene <;> exact ⟨rfl, rfl⟩

variable {pre post : List Effect}

theorem condition_of_call {h : ContextHandle} {c : Condition} {outcome : Engine.Outcome}
    (scene : Scene w o a w' core) (split : core = pre ++ .called (.condition h c) outcome :: post) :
    ∃ id p m box, o = .condition id p m ∧ w.builders[id]? = some ⟨box, some h⟩ ∧
      c = ⟨p.id, m.test⟩ ∧
      pre = [.noticed (.condition (if box.store.config.debug then .debug else .trace) box.entity h
        m.op p.name)] ∧
      ((outcome = .done ∧ post = [.noticed (.conditionStored h m.op)]) ∨
        ∃ error, outcome = .refused error ∧
          post = [.noticed (.engineRejected box.entity m.op error.message)]) := by
  cases scene with
  | @conditionRefused id box context p m error _ found builders queries =>
    simp [List.cons_eq_append_iff] at split
    obtain ⟨rfl, ⟨⟨rfl, rfl⟩, rfl⟩, rfl⟩ := split
    exact ⟨id, p, m, box, rfl, found, rfl, rfl, Or.inr ⟨error, rfl, rfl⟩⟩
  | @conditionAdded id box context p m _ found builders queries =>
    simp [List.cons_eq_append_iff] at split
    obtain ⟨rfl, ⟨⟨rfl, rfl⟩, rfl⟩, rfl⟩ := split
    exact ⟨id, p, m, box, rfl, found, rfl, rfl, Or.inl ⟨rfl, rfl⟩⟩
  | _ => simp [List.cons_eq_append_iff] at split

theorem call_of_announcement {level : Level} {entity property : String} {h : ContextHandle}
    {op : EngineOp} (scene : Scene w o a w' core)
    (split : core = pre ++ .noticed (.condition level entity h op property) :: post) :
    ∃ c outcome rest, post = .called (.condition h c) outcome :: rest ∧ c.op = op := by
  cases scene with
  | @conditionRefused _ _ _ _ m _ _ found builders queries
  | @conditionAdded _ _ _ _ m _ found builders queries =>
    simp [List.cons_eq_append_iff] at split
    obtain ⟨-, ⟨-, -, rfl, rfl, -⟩, rfl⟩ := split
    exact ⟨_, _, _, rfl, m.op_test⟩
  | _ => simp [List.cons_eq_append_iff] at split

theorem call_of_stored {h : ContextHandle} {op : EngineOp} (scene : Scene w o a w' core)
    (split : core = pre ++ .noticed (.conditionStored h op) :: post) :
    ∃ c rest, pre = rest ++ [.called (.condition h c) .done] ∧ c.op = op := by
  cases scene with
  | @conditionAdded _ _ _ _ m _ found builders queries =>
    simp [List.cons_eq_append_iff] at split
    obtain ⟨rfl, ⟨rfl, rfl⟩, -⟩ := split
    exact ⟨_, [_], rfl, m.op_test⟩
  | _ => simp [List.cons_eq_append_iff] at split

theorem closing_of_destroy {h : ContextHandle} {outcome : Engine.Outcome}
    (scene : Scene w o a w' core)
    (split : core = pre ++ .called (.destroyContext h) outcome :: post) :
    ∃ id box onDrop rest, w.builders[id]? = some ⟨box, some h⟩ ∧
      (o, onDrop) ∈ [(.build id, false), (.closeBuilder id, false), (.dropBuilder id, true)] ∧
      post = .noticed (.builderClosed box.entity h onDrop) :: rest := by
  cases scene with
  | @buildRefused id box context error _ found builders queries =>
    simp [List.cons_eq_append_iff] at split
    obtain ⟨-, ⟨rfl, -⟩, rfl⟩ := split
    exact ⟨id, box, false, _, found, by simp, rfl⟩
  | @built id k box context query _ found next builders queries =>
    simp [List.cons_eq_append_iff] at split
    obtain ⟨-, ⟨rfl, -⟩, rfl⟩ := split
    exact ⟨id, box, false, _, found, by simp, rfl⟩
  | @builderReleased _ _ id box context onDrop _ release found builders queries =>
    simp [List.cons_eq_append_iff] at split
    obtain ⟨-, ⟨rfl, -⟩, rfl⟩ := split
    refine ⟨id, box, onDrop, _, found, ?_, rfl⟩
    cases onDrop <;> simp [release]
  | _ => simp [List.cons_eq_append_iff] at split

theorem destroy_of_closing {entity : String} {h : ContextHandle} {onDrop : Bool}
    (scene : Scene w o a w' core)
    (split : core = pre ++ .noticed (.builderClosed entity h onDrop) :: post) :
    ∃ rest, pre = rest ++ [.called (.destroyContext h) .done] := by
  cases scene with
  | buildRefused found builders queries =>
    simp [List.cons_eq_append_iff] at split
    obtain ⟨rfl, ⟨-, rfl, -⟩, -⟩ := split
    exact ⟨[_], rfl⟩
  | built found next builders queries =>
    simp [List.cons_eq_append_iff] at split
    obtain ⟨rfl, ⟨-, rfl, -⟩, -⟩ := split
    exact ⟨[_, _], rfl⟩
  | builderReleased release found builders queries =>
    simp [List.cons_eq_append_iff] at split
    obtain ⟨rfl, ⟨-, rfl, -⟩, -⟩ := split
    exact ⟨[], rfl⟩
  | _ => simp [List.cons_eq_append_iff] at split

theorem closing_of_destroyQuery {h : QueryHandle} {outcome : Engine.Outcome}
    (scene : Scene w o a w' core)
    (split : core = pre ++ .called (.destroyQuery h) outcome :: post) :
    ∃ id box onDrop, w.queries[id]? = some ⟨box, some h⟩ ∧
      (o, onDrop) ∈ [(.closeQuery id, false), (.dropQuery id, true)] ∧
      post = [.noticed (.queryClosed box.entity h onDrop)] := by
  cases scene with
  | @queryReleased _ _ id box query onDrop _ release found builders queries =>
    simp [List.cons_eq_append_iff] at split
    obtain ⟨-, ⟨rfl, -⟩, rfl⟩ := split
    refine ⟨id, box, onDrop, found, ?_, rfl⟩
    cases onDrop <;> simp [release]
  | _ => simp [List.cons_eq_append_iff] at split

theorem destroyQuery_of_closing {entity : String} {h : QueryHandle} {onDrop : Bool}
    (scene : Scene w o a w' core)
    (split : core = pre ++ .noticed (.queryClosed entity h onDrop) :: post) :
    ∃ rest, pre = rest ++ [.called (.destroyQuery h) .done] := by
  cases scene with
  | queryReleased release found builders queries =>
    simp [List.cons_eq_append_iff] at split
    obtain ⟨rfl, ⟨-, rfl, -⟩, -⟩ := split
    exact ⟨[], rfl⟩
  | _ => simp [List.cons_eq_append_iff] at split

end Scene

theorem handles_concat (earlier : List Operation) (o : Operation) :
    (transcript (earlier ++ [o])).handles =
      (transcript earlier).handles + ((after earlier).step o).1.handles := by
  rw [transcript_append, Transcript.handles_append]
  rfl

theorem registers_of_grown {w w' : Workspace} {asides core : List Effect}
    (grown : w'.timeline = w.timeline ++ (asides ++ core))
    (silent : ∀ e ∈ asides, e.isSilent = true) :
    w'.contextRegister = w.contextRegister ++ entered Notice.onContext? core ∧
      w'.queryRegister = w.queryRegister ++ entered Notice.onQuery? core := by
  have no_contexts : entered Notice.onContext? asides = [] :=
    notices_of_silent (fun _ _ => rfl) silent
  have no_queries : entered Notice.onQuery? asides = [] :=
    notices_of_silent (fun _ _ => rfl) silent
  have register {kind : HandleKind} (on? : Notice → Option (Entry kind))
      (none_aside : entered on? asides = []) :
      w'.log.filterMap on? = w.log.filterMap on? ++ entered on? core := by
    rw [log_eq, grown, log_eq]
    calc entered on? (w.timeline ++ (asides ++ core))
      _ = entered on? w.timeline ++ (entered on? asides ++ entered on? core) := by
        rw [entered_append, entered_append]
      _ = entered on? w.timeline ++ entered on? core := by rw [none_aside, List.nil_append]
  constructor
  · exact register Notice.onContext? no_contexts
  · exact register Notice.onQuery? no_queries

theorem calls_of_grown {w w' : Workspace} {asides core : List Effect}
    (grown : w'.timeline = w.timeline ++ (asides ++ core))
    (silent : ∀ e ∈ asides, e.isSilent = true) :
    w'.calls = w.calls ++ core.filterMap Effect.call? := by
  have uncalled : asides.filterMap Effect.call? = [] := by
    apply List.filterMap_eq_nil_iff.mpr
    intro e member
    have hushed := silent e member
    cases e with
    | called => contradiction
    | _ => rfl
  rw [calls_eq, grown, List.filterMap_append, List.filterMap_append, uncalled, List.nil_append,
    calls_eq]

theorem accounts_after {operations : List Operation}
    (indirect : ∀ o ∈ operations, o.isDirect = false)
    (few : (transcript operations).handles ≤ UInt64.size - 1) :
    Account (transcript operations).handles (after operations).contextHoldings
        (after operations).contextRegister ∧
      Account (transcript operations).handles (after operations).queryHoldings
        (after operations).queryRegister := by
  induction operations using List.reverseRecOn with
  | nil => exact ⟨.fresh, .fresh⟩
  | append_singleton earlier o ih =>
    have before : ∀ p ∈ earlier, p.isDirect = false := fun p member => indirect p (by simp [member])
    rw [handles_concat] at few ⊢
    have few_before : (transcript earlier).handles ≤ UInt64.size - 1 := by omega
    obtain ⟨contexts, queries⟩ := ih before few_before
    have owned := owned_after before few_before
    have last : after (earlier ++ [o]) = ((after earlier).step o).2 := run_concat {} earlier o
    obtain ⟨asides, core, grown, silent, scene⟩ :=
      scene_of_step (after earlier) (indirect o (by simp))
    obtain ⟨context_register, query_register⟩ := registers_of_grown grown silent
    rw [last, context_register, query_register]
    constructor
    · exact contexts.enter (Nat.le_add_right ..) (contexts_entered scene owned few)
    · exact queries.enter (Nat.le_add_right ..) (queries_entered scene owned few)

theorem openings_after {operations : List Operation}
    (indirect : ∀ o ∈ operations, o.isDirect = false) :
    (after operations).calls.filterMap created? = openings (after operations).contextRegister ∧
    (after operations).calls.filterMap compiled? =
      (openings (after operations).queryRegister).map Prod.snd := by
  induction operations using List.reverseRecOn with
  | nil => exact ⟨rfl, rfl⟩
  | append_singleton earlier o ih =>
    obtain ⟨created, compiled⟩ := ih fun p member => indirect p (by simp [member])
    have last : after (earlier ++ [o]) = ((after earlier).step o).2 := run_concat {} earlier o
    obtain ⟨asides, core, grown, silent, scene⟩ :=
      scene_of_step (after earlier) (indirect o (by simp))
    obtain ⟨context_register, query_register⟩ := registers_of_grown grown silent
    obtain ⟨created_now, compiled_now⟩ := openings_of_scene scene
    rw [last, calls_of_grown grown silent, context_register, query_register,
      Account.openings_append, Account.openings_append]
    constructor
    · rw [List.filterMap_append, created, created_now]
    · rw [List.filterMap_append, compiled, compiled_now, List.map_append]

/-- The log of a run is an account of its contexts and queries: `contexts` and `queries` say that
each was opened once, before anything else was said of it, and closed at most once, and no line
names any other handle; the remaining fields match the calls for a handle with the notices right
before and after them. -/
structure FaithfulLog (operations : List Operation) : Prop where
  created : (after operations).calls.filterMap created? =
    openings (after operations).contextRegister
  contexts : Account (transcript operations).handles (after operations).contextHoldings
    (after operations).contextRegister
  named : ∀ n ∈ (after operations).log, ∀ text, n.fields.lookup "context" = some text →
    ∃ opening ∈ openings (after operations).contextRegister, opening.2.text = text
  announced : ∀ before later level entity h op property, (after operations).timeline =
      before ++ .noticed (.condition level entity h op property) :: later →
    ∃ c outcome, later.head? = some (.called (.condition h c) outcome) ∧ c.op = op
  stored : ∀ before later h op, (after operations).timeline =
      before ++ .noticed (.conditionStored h op) :: later →
    ∃ c, before.getLast? = some (.called (.condition h c) .done) ∧ c.op = op
  decided : ∀ before later h c outcome, (after operations).timeline =
      before ++ .called (.condition h c) outcome :: later →
    ∃ past id p m future box, operations = past ++ .condition id p m :: future ∧
      (after past).builders[id]? = some ⟨box, some h⟩ ∧ c = ⟨p.id, m.test⟩ ∧
      before.getLast? = some (.noticed (.condition
        (if box.store.config.debug then .debug else .trace) box.entity h c.op p.name)) ∧
      ((outcome = .done ∧ later.head? = some (.noticed (.conditionStored h c.op))) ∨
        ∃ error, outcome = .refused error ∧
          later.head? = some (.noticed (.engineRejected box.entity c.op error.message)))
  destroyed : ∀ before later h outcome, (after operations).timeline =
      before ++ .called (.destroyContext h) outcome :: later →
    ∃ past o future id box onDrop, operations = past ++ o :: future ∧
      (after past).builders[id]? = some ⟨box, some h⟩ ∧
      (o, onDrop) ∈ [(.build id, false), (.closeBuilder id, false), (.dropBuilder id, true)] ∧
      later.head? = some (.noticed (.builderClosed box.entity h onDrop))
  closed : ∀ before later entity h onDrop, (after operations).timeline =
      before ++ .noticed (.builderClosed entity h onDrop) :: later →
    before.getLast? = some (.called (.destroyContext h) .done)
  compiled : (after operations).calls.filterMap compiled? =
    (openings (after operations).queryRegister).map Prod.snd
  queries : Account (transcript operations).handles (after operations).queryHoldings
    (after operations).queryRegister
  namedQuery : ∀ n ∈ (after operations).log, ∀ text, n.fields.lookup "query" = some text →
    ∃ opening ∈ openings (after operations).queryRegister, opening.2.text = text
  destroyedQuery : ∀ before later h outcome, (after operations).timeline =
      before ++ .called (.destroyQuery h) outcome :: later →
    ∃ past o future id box onDrop, operations = past ++ o :: future ∧
      (after past).queries[id]? = some ⟨box, some h⟩ ∧
      (o, onDrop) ∈ [(.closeQuery id, false), (.dropQuery id, true)] ∧
      later.head? = some (.noticed (.queryClosed box.entity h onDrop))
  closedQuery : ∀ before later entity h onDrop, (after operations).timeline =
      before ++ .noticed (.queryClosed entity h onDrop) :: later →
    before.getLast? = some (.called (.destroyQuery h) .done)

theorem log_accounts_for_handles {operations : List Operation}
    (indirect : ∀ o ∈ operations, o.isDirect = false)
    (few : (transcript operations).handles ≤ UInt64.size - 1) : FaithfulLog operations := by
  obtain ⟨contexts, queries⟩ := accounts_after indirect few
  obtain ⟨created, compiled⟩ := openings_after indirect
  constructor
  case created => exact created
  case contexts => exact contexts
  case named =>
    intro n noticed text carried
    rw [n.context_field] at carried
    obtain ⟨x, entry, rfl⟩ := Option.map_eq_some_iff.mp carried
    exact contexts.opening_of_entry (List.mem_filterMap.mpr ⟨n, noticed, entry⟩)
  case compiled => exact compiled
  case queries => exact queries
  case namedQuery =>
    intro n noticed text carried
    rw [n.query_field] at carried
    obtain ⟨x, entry, rfl⟩ := Option.map_eq_some_iff.mp carried
    exact queries.opening_of_entry (List.mem_filterMap.mpr ⟨n, noticed, entry⟩)
  case announced =>
    intro before later level entity h op property split
    obtain ⟨past, o, future, earlier, pre, post, rest, -, -, rfl, scene⟩ :=
      scene_of_split indirect rfl split
    obtain ⟨c, outcome, after_call, rfl, label⟩ := call_of_announcement scene rfl
    exact ⟨c, outcome, rfl, label⟩
  case stored =>
    intro before later h op split
    obtain ⟨past, o, future, earlier, pre, post, rest, -, rfl, -, scene⟩ :=
      scene_of_split indirect rfl split
    obtain ⟨c, before_call, rfl, label⟩ := call_of_stored scene rfl
    exact ⟨c, by simp, label⟩
  case decided =>
    intro before later h c outcome split
    obtain ⟨past, o, future, earlier, pre, post, rest, course, rfl, rfl, scene⟩ :=
      scene_of_split indirect rfl split
    obtain ⟨id, p, m, box, rfl, found, rfl, rfl, verdict⟩ := condition_of_call scene rfl
    have label : (⟨p.id, m.test⟩ : Condition).op = m.op := m.op_test
    rw [label]
    refine ⟨past, id, p, m, future, box, course, found, rfl, by simp, ?_⟩
    rcases verdict with ⟨accepted, rfl⟩ | ⟨error, refused, rfl⟩
    · exact Or.inl ⟨accepted, rfl⟩
    · exact Or.inr ⟨error, refused, rfl⟩
  case destroyed =>
    intro before later h outcome split
    obtain ⟨past, o, future, earlier, pre, post, rest, course, -, rfl, scene⟩ :=
      scene_of_split indirect rfl split
    obtain ⟨id, box, onDrop, after_closing, found, closing, rfl⟩ := closing_of_destroy scene rfl
    exact ⟨past, o, future, id, box, onDrop, course, found, closing, rfl⟩
  case closed =>
    intro before later entity h onDrop split
    obtain ⟨past, o, future, earlier, pre, post, rest, -, rfl, -, scene⟩ :=
      scene_of_split indirect rfl split
    obtain ⟨before_call, rfl⟩ := destroy_of_closing scene rfl
    simp
  case destroyedQuery =>
    intro before later h outcome split
    obtain ⟨past, o, future, earlier, pre, post, rest, course, -, rfl, scene⟩ :=
      scene_of_split indirect rfl split
    obtain ⟨id, box, onDrop, found, closing, rfl⟩ := closing_of_destroyQuery scene rfl
    exact ⟨past, o, future, id, box, onDrop, course, found, closing, rfl⟩
  case closedQuery =>
    intro before later entity h onDrop split
    obtain ⟨past, o, future, earlier, pre, post, rest, -, rfl, -, scene⟩ :=
      scene_of_split indirect rfl split
    obtain ⟨before_call, rfl⟩ := destroyQuery_of_closing scene rfl
    simp

/-- The sample run until its last builder is dropped and its query closed. -/
def narratedRun : List Operation := sampleRun ++ [.dropBuilder 2, .closeQuery 0]

theorem narratedRun_accounted :
    (∀ o ∈ narratedRun, o.isDirect = false) ∧
    (transcript narratedRun).handles ≤ UInt64.size - 1 ∧
    FaithfulLog narratedRun ∧
    (after narratedRun).contextRegister.filter (·.handle = ⟨5, by decide⟩) =
      [.opened "Order" ⟨5, by decide⟩, .used ⟨5, by decide⟩, .used ⟨5, by decide⟩,
        .closed "Order" ⟨5, by decide⟩ true] ∧
    (after narratedRun).queryRegister =
      [.opened "Order" ⟨4, by decide⟩, .closed "Order" ⟨4, by decide⟩ false] := by
  have indirect : ∀ o ∈ narratedRun, o.isDirect = false := by decide
  have few : (transcript narratedRun).handles ≤ UInt64.size - 1 :=
    Nat.le_trans (handles_le_length narratedRun) (by decide)
  refine ⟨indirect, few, log_accounts_for_handles indirect few, ?_, ?_⟩
  · decide +kernel
  · decide +kernel

end Workspace

end ObjectQuery
