import ObjectQuery.Proofs.Ledger

/-!
What an operation on a builder or a query answers, and the whole workspace that follows: one
equation for each state the owner can be in and each way the engine can answer. What holds of these
operations is read off here, and not off their definitions.
-/
namespace ObjectQuery.Workspace

variable {w w' : Workspace} {id : Nat} {box : EntityBox} {engine : Engine} {error : EngineError}

theorem record_eq (s : Store) (e : Event) :
    w.record s e = { w with history := s.recordings e ++ w.history } := by
  unfold record Store.recordings
  split <;> rfl

theorem on_found {α : Type} {l : List α} {a : α} (found : l[id]? = some a)
    (f : α → Answer × Workspace) : w.on l id f = f a := by
  simp [on, found]

theorem setBuilder_same {b : Builder} (found : w.builders[id]? = some b) :
    w.setBuilder id b = w := by
  obtain ⟨bound, same⟩ := List.getElem?_eq_some_iff.mp found
  rw [setBuilder, ← same, List.set_getElem_self]

theorem setQuery_same {q : Query} (found : w.queries[id]? = some q) : w.setQuery id q = w := by
  obtain ⟨bound, same⟩ := List.getElem?_eq_some_iff.mp found
  rw [setQuery, ← same, List.set_getElem_self]

section Named

variable {b : Builder} {q : Query}

theorem step_openBuilder (found : w.boxes[id]? = some box) :
    w.step (.openBuilder id) = w.stepOpenBuilder box := on_found found _

theorem step_condition (found : w.builders[id]? = some b) (p : Property) (m : Method) :
    w.step (.condition id p m) =
      (answerWith (fun _ => .done) (w.apply b p m).1, (w.apply b p m).2) := on_found found _

theorem step_build (found : w.builders[id]? = some b) :
    w.step (.build id) = w.stepBuild id b := on_found found _

theorem step_releaseBuilder (found : w.builders[id]? = some b) (onDrop : Bool) :
    w.step (if onDrop then .dropBuilder id else .closeBuilder id) =
      w.stepReleaseBuilder id b onDrop := by
  cases onDrop <;> exact on_found found _

theorem step_queryHandle (found : w.queries[id]? = some q) :
    w.step (.queryHandle id) = (answerWith .handle (w.queryHandle q).1, (w.queryHandle q).2) :=
  on_found found _

theorem step_releaseQuery (found : w.queries[id]? = some q) (onDrop : Bool) :
    w.step (if onDrop then .dropQuery id else .closeQuery id) = w.stepReleaseQuery id q onDrop := by
  cases onDrop <;> exact on_found found _

end Named

theorem properties_leaves (box : EntityBox) : ∃ metadata cells effects,
    (w.properties box).2 = { w with metadata, cells, history := effects ++ w.history } ∧
      ∀ e ∈ effects, ∃ n, e = .noticed (.modelResolved box.entity n) := by
  unfold properties
  split
  · exact ⟨w.metadata, w.cells, [], rfl, by simp⟩
  · dsimp only
    split
    · exact ⟨_, w.cells, [], rfl, by simp⟩
    · split
      · exact ⟨_, _, [_], rfl, by simp⟩
      · exact ⟨_, w.cells, [], rfl, by simp⟩

section Opening

variable {model : EntityModel} {context : ContextHandle} {failure : Failure}

theorem stepOpenBuilder_unresolved (resolution : w.properties box = (.error failure, w')) :
    w.stepOpenBuilder box = (.refused (.modelUnresolved failure), w') := by
  simp [stepOpenBuilder, openBuilder, resolution]

theorem stepOpenBuilder_refused (resolution : w.properties box = (.ok model, w'))
    (failed : w'.engine.createContext box.store.session box.entity = (.error error, engine)) :
    w.stepOpenBuilder box = (.refused (.engineRejected box.entity .createContext error),
      { w' with
        engine
        history := box.refusal .createContext error ++
          .called (.createContext box.store.session box.entity) (.refused error) ::
            w'.history }) := by
  simp [stepOpenBuilder, openBuilder, resolution, createContext, failed, reject, record_eq, notice,
    emit, EntityBox.refusal, Engine.Outcome.ofExcept]

theorem stepOpenBuilder_ok (resolution : w.properties box = (.ok model, w'))
    (done : w'.engine.createContext box.store.session box.entity = (.ok context, engine)) :
    w.stepOpenBuilder box = (.builder w'.builders.length,
      { w' with
        engine
        builders := w'.builders ++ [⟨box, some context⟩]
        history := box.opening context ++
          .called (.createContext box.store.session box.entity) (.context context) ::
            w'.history }) := by
  simp [stepOpenBuilder, openBuilder, resolution, createContext, done, record_eq, notice, emit,
    EntityBox.opening, Engine.Outcome.ofExcept]

end Opening

section Open

variable {context : ContextHandle} {query : QueryHandle} {p : Property} {m : Method}

theorem apply_refused
    (failed : w.engine.addCondition context ⟨p.id, m.test⟩ = (.error error, engine)) :
    w.apply ⟨box, some context⟩ p m = (.error (.engineRejected box.entity m.op error),
      { w with
        engine
        history := box.refusal m.op error ++
          .called (.condition context ⟨p.id, m.test⟩) (.refused error) ::
            box.announcement context p m :: w.history }) := by
  simp [apply, addCondition, failed, reject, record_eq, notice, emit, EntityBox.refusal,
    EntityBox.announcement, Engine.Outcome.ofExcept]

theorem apply_ok (done : w.engine.addCondition context ⟨p.id, m.test⟩ = (.ok (), engine)) :
    w.apply ⟨box, some context⟩ p m = (.ok (),
      { w with
        engine
        history := box.store.recordings (.conditionAdded box.entity m.op) ++
          .noticed (.conditionStored context m.op) ::
            .called (.condition context ⟨p.id, m.test⟩) .done ::
              box.announcement context p m :: w.history }) := by
  have label : (⟨p.id, m.test⟩ : Condition).op = m.op := m.op_test
  simp [apply, addCondition, done, record_eq, notice, emit, label, EntityBox.announcement,
    Engine.Outcome.ofExcept]

/-- The builder is closed before the refusal is reported. -/
theorem stepBuild_refused (failed : w.engine.compile context = (.error error, engine)) :
    w.stepBuild id ⟨box, some context⟩ = (.refused (.engineRejected box.entity .compile error),
      { w with
        engine := engine.destroyContext context
        builders := w.builders.set id ⟨box, none⟩
        history := box.refusal .compile error ++ (box.closing context false ++
          .called (.compile context) (.refused error) :: w.history) }) := by
  simp [stepBuild, build, compile, failed, releaseBuilder, destroyContext, reject, setBuilder,
    record_eq, notice, emit, EntityBox.refusal, EntityBox.closing, Engine.Outcome.ofExcept]

theorem stepBuild_ok (done : w.engine.compile context = (.ok query, engine)) :
    w.stepBuild id ⟨box, some context⟩ = (.query w.queries.length,
      { w with
        engine := engine.destroyContext context
        builders := w.builders.set id ⟨box, none⟩
        queries := w.queries ++ [⟨box, some query⟩]
        history := box.closing context false ++ (box.compiling query ++
          .called (.compile context) (.query query) :: w.history) }) := by
  simp [stepBuild, build, compile, done, releaseBuilder, destroyContext, setBuilder, record_eq,
    notice, emit, EntityBox.compiling, EntityBox.closing, Engine.Outcome.ofExcept]

theorem stepReleaseBuilder_open (onDrop : Bool) :
    w.stepReleaseBuilder id ⟨box, some context⟩ onDrop = (.done,
      { w with
        engine := w.engine.destroyContext context
        builders := w.builders.set id ⟨box, none⟩
        history := box.closing context onDrop ++ w.history }) := by
  simp [stepReleaseBuilder, releaseBuilder, destroyContext, setBuilder, record_eq, notice, emit,
    EntityBox.closing]

theorem stepReleaseQuery_open (onDrop : Bool) :
    w.stepReleaseQuery id ⟨box, some query⟩ onDrop = (.done,
      { w with
        engine := w.engine.destroyQuery query
        queries := w.queries.set id ⟨box, none⟩
        history := box.closingQuery query onDrop ++ w.history }) := by
  simp [stepReleaseQuery, releaseQuery, destroyQuery, setQuery, record_eq, notice, emit,
    EntityBox.closingQuery]

end Open

theorem apply_closed (p : Property) (m : Method) :
    w.apply ⟨box, none⟩ p m = (.error (.useAfterClose box.entity),
      { w with history := box.store.recordings (.useAfterClose box.entity) ++ w.history }) := by
  simp [apply, refuseClosed, record_eq]

theorem stepBuild_closed (found : w.builders[id]? = some ⟨box, none⟩) :
    w.stepBuild id ⟨box, none⟩ = (.refused (.useAfterClose box.entity),
      { w with history := box.store.recordings (.useAfterClose box.entity) ++ w.history }) := by
  have written : (w.record box.store (.useAfterClose box.entity)).setBuilder id ⟨box, none⟩ =
      w.record box.store (.useAfterClose box.entity) := by
    apply setBuilder_same
    rw [record_eq]
    exact found
  simp only [stepBuild, build, refuseClosed]
  rw [written, record_eq]

theorem queryHandle_closed :
    w.queryHandle ⟨box, none⟩ = (.error (.useAfterClose box.entity),
      { w with history := box.store.recordings (.useAfterClose box.entity) ++ w.history }) := by
  simp [queryHandle, refuseClosed, record_eq]

theorem stepReleaseBuilder_closed (found : w.builders[id]? = some ⟨box, none⟩) (onDrop : Bool) :
    w.stepReleaseBuilder id ⟨box, none⟩ onDrop = (.done, w) := by
  simp only [stepReleaseBuilder, releaseBuilder, setBuilder_same found]

theorem stepReleaseQuery_closed (found : w.queries[id]? = some ⟨box, none⟩) (onDrop : Bool) :
    w.stepReleaseQuery id ⟨box, none⟩ onDrop = (.done, w) := by
  simp only [stepReleaseQuery, releaseQuery, setQuery_same found]

end ObjectQuery.Workspace
