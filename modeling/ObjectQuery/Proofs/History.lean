import ObjectQuery.Proofs.Turns

/-!
The calls and the events that turns add to a history. What is written later comes later in both.
-/
namespace ObjectQuery

theorem split_of_append {α : Type} {xs ys before after : List α} {a : α}
    (split : xs ++ ys = before ++ a :: after) :
    (∃ rest, xs = before ++ a :: rest ∧ after = rest ++ ys) ∨
    (∃ rest, before = xs ++ rest ∧ ys = rest ++ a :: after) := by
  rcases List.append_eq_append_iff.mp split with ⟨rest, first, second⟩ | ⟨rest, first, second⟩
  · exact Or.inr ⟨rest, first, second⟩
  · cases rest with
    | nil => exact Or.inr ⟨[], by simpa using first.symm, by simpa using second.symm⟩
    | cons b rest =>
      obtain ⟨rfl, rfl⟩ := List.cons.inj second
      exact Or.inl ⟨rest, first, rfl⟩

theorem filterMap_of_silent {α β : Type} {p : α → Bool} {f : α → Option β}
    (silent : ∀ a, p a = false → f a = none) (l : List α) :
    (l.filter p).filterMap f = l.filterMap f := by
  induction l with
  | nil => rfl
  | cons a rest ih =>
    cases kept : p a with
    | true => simp only [List.filter_cons_of_pos kept, List.filterMap_cons, ih]
    | false => simp [kept, silent a kept, ih]

@[simp] theorem callsIn_append (later earlier : List Effect) :
    callsIn (later ++ earlier) = callsIn earlier ++ callsIn later := by
  simp [callsIn]

@[simp] theorem eventsIn_append (later earlier : List Effect) :
    eventsIn (later ++ earlier) = eventsIn earlier ++ eventsIn later := by
  simp [eventsIn]

@[simp] theorem callsIn_nil : callsIn [] = [] := rfl

@[simp] theorem callsIn_called (call : EngineCall) (outcome : Engine.Outcome)
    (earlier : List Effect) :
    callsIn (.called call outcome :: earlier) = callsIn earlier ++ [(call, outcome)] :=
  callsIn_append [.called call outcome] earlier

@[simp] theorem callsIn_noticed (n : Notice) (earlier : List Effect) :
    callsIn (.noticed n :: earlier) = callsIn earlier := rfl

@[simp] theorem eventsIn_nil : eventsIn [] = [] := rfl

@[simp] theorem eventsIn_called (call : EngineCall) (outcome : Engine.Outcome)
    (earlier : List Effect) : eventsIn (.called call outcome :: earlier) = eventsIn earlier := rfl

@[simp] theorem eventsIn_noticed (n : Notice) (earlier : List Effect) :
    eventsIn (.noticed n :: earlier) = eventsIn earlier := rfl

theorem callsIn_minor {effects : List Effect} (minor : ∀ e ∈ effects, e.isMinor = true) :
    callsIn effects = [] := by
  have none_called : effects.filterMap Effect.call? = [] := by
    refine List.filterMap_eq_nil_iff.mpr ?_
    intro e member
    have small := minor e member
    cases e <;> simp_all [Effect.isMinor, Effect.call?]
  rw [callsIn, none_called, List.reverse_nil]

/-- The events among minor effects come from closed builders and queries. -/
theorem eventsIn_minor {effects : List Effect} (minor : ∀ e ∈ effects, e.isMinor = true) :
    ∀ e ∈ eventsIn effects, ∃ entity, e = .useAfterClose entity := by
  intro e member
  obtain ⟨effect, written, event⟩ := List.mem_filterMap.mp (List.mem_reverse.mp member)
  have small := minor effect written
  cases effect with
  | recorded sink event' =>
    simp only [Effect.event?, Option.some.injEq] at event
    subst event
    cases event' <;> simp_all [Effect.isMinor]
  | _ => simp [Effect.event?] at event

@[simp] theorem callsIn_recordings (s : Store) (e : Event) : callsIn (s.recordings e) = [] := by
  unfold Store.recordings
  split <;> rfl

theorem eventsIn_recordings {s : Store} (metrics : s.config.metrics = true) (e : Event) :
    eventsIn (s.recordings e) = [e] := by
  rw [Store.recordings, if_pos metrics]
  rfl

namespace EntityBox

variable (box : EntityBox)

@[simp] theorem callsIn_refusal (op : EngineOp) (error : EngineError) :
    callsIn (box.refusal op error) = [] := by
  simp [refusal]

@[simp] theorem callsIn_opening (context : ContextHandle) : callsIn (box.opening context) = [] := by
  simp [opening]

@[simp] theorem callsIn_announcement (context : ContextHandle) (p : Property) (m : Method)
    (earlier : List Effect) :
    callsIn (box.announcement context p m :: earlier) = callsIn earlier := rfl

@[simp] theorem eventsIn_announcement (context : ContextHandle) (p : Property) (m : Method)
    (earlier : List Effect) :
    eventsIn (box.announcement context p m :: earlier) = eventsIn earlier := rfl

@[simp] theorem callsIn_compiling (query : QueryHandle) : callsIn (box.compiling query) = [] := by
  simp [compiling]

@[simp] theorem callsIn_closing (context : ContextHandle) (onDrop : Bool) :
    callsIn (box.closing context onDrop) = [(.destroyContext context, .done)] := by
  simp [closing]

@[simp] theorem callsIn_closingQuery (query : QueryHandle) (onDrop : Bool) :
    callsIn (box.closingQuery query onDrop) = [(.destroyQuery query, .done)] := by
  simp [closingQuery]

section Metrics

variable {box} (metrics : box.store.config.metrics = true)

include metrics

theorem eventsIn_refusal (op : EngineOp) (error : EngineError) :
    eventsIn (box.refusal op error) = [.engineRejected box.entity op] := by
  simp [refusal, eventsIn_recordings metrics]

theorem eventsIn_opening (context : ContextHandle) :
    eventsIn (box.opening context) = [.builderOpened box.entity] := by
  simp [opening, eventsIn_recordings metrics]

theorem eventsIn_compiling (query : QueryHandle) :
    eventsIn (box.compiling query) = [.queryCompiled box.entity] := by
  simp [compiling, eventsIn_recordings metrics]

theorem eventsIn_closing (context : ContextHandle) (onDrop : Bool) :
    eventsIn (box.closing context onDrop) = [.builderClosed box.entity onDrop] := by
  simp [closing, eventsIn_recordings metrics]

theorem eventsIn_closingQuery (query : QueryHandle) (onDrop : Bool) :
    eventsIn (box.closingQuery query onDrop) = [.queryClosed box.entity onDrop] := by
  simp [closingQuery, eventsIn_recordings metrics]

end Metrics

end EntityBox

namespace Ledger

variable (l : Ledger) (id : Nat) (box : EntityBox) (onDrop : Bool)

@[simp] theorem calls_write (effects : List Effect) :
    (l.write effects).calls = l.calls ++ callsIn effects := callsIn_append effects l.history

@[simp] theorem events_write (effects : List Effect) :
    (l.write effects).events = l.events ++ eventsIn effects := eventsIn_append effects l.history

@[simp] theorem calls_engine (engine : Engine) : ({ l with engine } : Ledger).calls = l.calls := rfl

@[simp] theorem events_engine (engine : Engine) :
    ({ l with engine } : Ledger).events = l.events := rfl

@[simp] theorem calls_addBuilder (b : Builder) : (l.addBuilder b).calls = l.calls := rfl

@[simp] theorem events_addBuilder (b : Builder) : (l.addBuilder b).events = l.events := rfl

@[simp] theorem calls_addQuery (q : Query) : (l.addQuery q).calls = l.calls := rfl

@[simp] theorem events_addQuery (q : Query) : (l.addQuery q).events = l.events := rfl

@[simp] theorem calls_close (context : ContextHandle) :
    (l.close id box context onDrop).calls = l.calls ++ [(.destroyContext context, .done)] := by
  rw [← box.callsIn_closing context onDrop]
  exact callsIn_append (box.closing context onDrop) l.history

@[simp] theorem calls_closeQuery (query : QueryHandle) :
    (l.closeQuery id box query onDrop).calls = l.calls ++ [(.destroyQuery query, .done)] := by
  rw [← box.callsIn_closingQuery query onDrop]
  exact callsIn_append (box.closingQuery query onDrop) l.history

theorem events_close (context : ContextHandle) :
    (l.close id box context onDrop).events =
      l.events ++ eventsIn (box.closing context onDrop) :=
  eventsIn_append (box.closing context onDrop) l.history

theorem events_closeQuery (query : QueryHandle) :
    (l.closeQuery id box query onDrop).events =
      l.events ++ eventsIn (box.closingQuery query onDrop) :=
  eventsIn_append (box.closingQuery query onDrop) l.history

end Ledger

end ObjectQuery
