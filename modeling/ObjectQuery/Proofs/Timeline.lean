import ObjectQuery.Proofs.Families
import ObjectQuery.Proofs.Unobserved

/-!
Calls and notices in the order in which they came. The timeline of a workspace is its history
without what was recorded, oldest first. Each operation adds a scene to it, and `Scene` lists what
a scene can be, so that whatever stands on a timeline is found in the scene of one operation.
-/
namespace ObjectQuery

/-- Effects that tell of no handle: a resolved model, and a reset of the report. -/
def Effect.isSilent : Effect → Bool
  | .noticed (.modelResolved ..) | .reportReset => true
  | _ => false

namespace Workspace

def timeline (w : Workspace) : List Effect := (unrecorded w.history).reverse

theorem log_eq (w : Workspace) : w.log = w.timeline.filterMap Effect.notice? := by
  have silent : ∀ e : Effect, (!e.isRecorded) = false → e.notice? = none := by
    intro e recorded
    cases e <;> simp_all [Effect.isRecorded, Effect.notice?]
  rw [log, timeline, unrecorded, List.filterMap_reverse, filterMap_of_silent silent]

theorem calls_eq (w : Workspace) : w.calls = w.timeline.filterMap Effect.call? := by
  have silent : ∀ e : Effect, (!e.isRecorded) = false → e.call? = none := by
    intro e recorded
    cases e <;> simp_all [Effect.isRecorded, Effect.call?]
  rw [calls, callsIn, timeline, unrecorded, List.filterMap_reverse, filterMap_of_silent silent]

/-- What one operation adds to the timeline after silent effects, oldest first, and what becomes of
the owners. -/
inductive Scene (w : Workspace) : Operation → Answer → Workspace → List Effect → Prop where
  | quiet {o : Operation} {a : Answer} {w' : Workspace} (builders : w'.builders = w.builders)
      (queries : w'.queries = w.queries) : Scene w o a w' []
  | openRefused {id : Nat} {box : EntityBox} {error : EngineError} {w' : Workspace}
      (found : w.boxes[id]? = some box) (builders : w'.builders = w.builders)
      (queries : w'.queries = w.queries) :
      Scene w (.openBuilder id) (.refused (.engineRejected box.entity .createContext error)) w'
        [.called (.createContext box.store.session box.entity) (.refused error),
          .noticed (.engineRejected box.entity .createContext error.message)]
  | opened {id k : Nat} {box : EntityBox} {context : ContextHandle} {w' : Workspace}
      (found : w.boxes[id]? = some box) (next : context = w.engine.counter.peek .context)
      (builders : w'.builders = w.builders ++ [⟨box, some context⟩])
      (queries : w'.queries = w.queries) :
      Scene w (.openBuilder id) (.builder k) w'
        [.called (.createContext box.store.session box.entity) (.context context),
          .noticed (.builderOpened box.entity context)]
  | conditionRefused {id : Nat} {box : EntityBox} {context : ContextHandle} {p : Property}
      {m : Method} {error : EngineError} {w' : Workspace}
      (found : w.builders[id]? = some ⟨box, some context⟩) (builders : w'.builders = w.builders)
      (queries : w'.queries = w.queries) :
      Scene w (.condition id p m) (.refused (.engineRejected box.entity m.op error)) w'
        [.noticed (.condition (if box.store.config.debug then .debug else .trace) box.entity context
            m.op p.name),
          .called (.condition context ⟨p.id, m.test⟩) (.refused error),
          .noticed (.engineRejected box.entity m.op error.message)]
  | conditionAdded {id : Nat} {box : EntityBox} {context : ContextHandle} {p : Property}
      {m : Method} {w' : Workspace} (found : w.builders[id]? = some ⟨box, some context⟩)
      (builders : w'.builders = w.builders) (queries : w'.queries = w.queries) :
      Scene w (.condition id p m) .done w'
        [.noticed (.condition (if box.store.config.debug then .debug else .trace) box.entity context
            m.op p.name),
          .called (.condition context ⟨p.id, m.test⟩) .done,
          .noticed (.conditionStored context m.op)]
  | buildRefused {id : Nat} {box : EntityBox} {context : ContextHandle} {error : EngineError}
      {w' : Workspace} (found : w.builders[id]? = some ⟨box, some context⟩)
      (builders : w'.builders = w.builders.set id ⟨box, none⟩) (queries : w'.queries = w.queries) :
      Scene w (.build id) (.refused (.engineRejected box.entity .compile error)) w'
        [.called (.compile context) (.refused error), .called (.destroyContext context) .done,
          .noticed (.builderClosed box.entity context false),
          .noticed (.engineRejected box.entity .compile error.message)]
  | built {id k : Nat} {box : EntityBox} {context : ContextHandle} {query : QueryHandle}
      {w' : Workspace} (found : w.builders[id]? = some ⟨box, some context⟩)
      (next : query = w.engine.counter.peek .query)
      (builders : w'.builders = w.builders.set id ⟨box, none⟩)
      (queries : w'.queries = w.queries ++ [⟨box, some query⟩]) :
      Scene w (.build id) (.query k) w'
        [.called (.compile context) (.query query), .noticed (.queryCompiled box.entity query),
          .called (.destroyContext context) .done,
          .noticed (.builderClosed box.entity context false)]
  | builderReleased {o : Operation} {a : Answer} {id : Nat} {box : EntityBox}
      {context : ContextHandle} {onDrop : Bool} {w' : Workspace}
      (release : o = if onDrop then .dropBuilder id else .closeBuilder id)
      (found : w.builders[id]? = some ⟨box, some context⟩)
      (builders : w'.builders = w.builders.set id ⟨box, none⟩) (queries : w'.queries = w.queries) :
      Scene w o a w'
        [.called (.destroyContext context) .done,
          .noticed (.builderClosed box.entity context onDrop)]
  | queryReleased {o : Operation} {a : Answer} {id : Nat} {box : EntityBox}
      {query : QueryHandle} {onDrop : Bool} {w' : Workspace}
      (release : o = if onDrop then .dropQuery id else .closeQuery id)
      (found : w.queries[id]? = some ⟨box, some query⟩)
      (builders : w'.builders = w.builders)
      (queries : w'.queries = w.queries.set id ⟨box, none⟩) :
      Scene w o a w'
        [.called (.destroyQuery query) .done, .noticed (.queryClosed box.entity query onDrop)]

section Scene

variable {w w' : Workspace} {o : Operation} {a : Answer}

theorem asides_of_properties (w : Workspace) (box : EntityBox) :
    ∃ asides, (w.properties box).2.timeline = w.timeline ++ asides ∧
      (∀ e ∈ asides, e.isSilent = true) ∧ (w.properties box).2.engine = w.engine ∧
      (w.properties box).2.builders = w.builders ∧ (w.properties box).2.queries = w.queries := by
  obtain ⟨metadata, cells, effects, leaves, resolving⟩ := properties_leaves (w := w) box
  rw [leaves]
  refine ⟨(unrecorded effects).reverse, by simp [timeline], ?_, rfl, rfl, rfl⟩
  intro e member
  have written : e ∈ effects := (List.mem_filter.mp (List.mem_reverse.mp member)).1
  obtain ⟨n, rfl⟩ := resolving e written
  rfl

theorem scene_of_deed (indirect : o.isDirect = false) (deed : Deed w o a w') :
    ∃ asides core, w'.timeline = w.timeline ++ (asides ++ core) ∧
      (∀ e ∈ asides, e.isSilent = true) ∧ Scene w o a w' core := by
  have plain {core : List Effect} (scene : Scene w o a w' core)
      (grown : w'.timeline = w.timeline ++ core) :
      ∃ asides core, w'.timeline = w.timeline ++ (asides ++ core) ∧
        (∀ e ∈ asides, e.isSilent = true) ∧ Scene w o a w' core :=
    ⟨[], core, grown, by simp, scene⟩
  cases deed with
  | called => contradiction
  | reportReset =>
    refine ⟨[.reportReset], [], ?_, by simp [Effect.isSilent], .quiet rfl rfl⟩
    simp [timeline, unrecorded, Effect.isRecorded]
  | told asked reply =>
    obtain ⟨asides, grown, silent, -, builders, queries⟩ := asides_of_properties w _
    refine ⟨asides, [], ?_, silent, .quiet builders queries⟩
    rw [List.append_nil, grown]
  | @openRefused id box model asking error engine found resolution failed =>
    obtain ⟨asides, grown, silent, -, builders, queries⟩ := asides_of_properties w box
    rw [resolution] at grown builders queries
    refine ⟨asides, _, ?_, silent, .openRefused found builders queries⟩
    rw [← List.append_assoc, ← grown]
    simp [timeline]
  | @opened id box model asking context engine found resolution done =>
    obtain ⟨asides, grown, silent, same, builders, queries⟩ := asides_of_properties w box
    rw [resolution] at grown same builders queries
    have next : context = w.engine.counter.peek .context := by
      rw [← same]
      exact (Engine.createContext_ok done).2.2.1
    refine ⟨asides, _, ?_, silent, .opened found next (by rw [← builders]) queries⟩
    rw [← List.append_assoc, ← grown]
    simp [timeline]
  | conditionRefused found failed =>
    apply plain (.conditionRefused found rfl rfl)
    simp [timeline, EntityBox.announcement]
  | conditionAdded found done =>
    apply plain (.conditionAdded found rfl rfl)
    simp [timeline, EntityBox.announcement]
  | buildRefused found failed =>
    apply plain (.buildRefused found rfl rfl)
    simp [timeline]
  | built found done =>
    obtain ⟨-, -, next, -⟩ := Engine.compile_ok done
    apply plain (.built found next rfl rfl)
    simp [timeline]
  | builderReleased release found =>
    apply plain (.builderReleased release found rfl rfl)
    simp [timeline]
  | queryReleased release found =>
    apply plain (.queryReleased release found rfl rfl)
    simp [timeline]
  | _ =>
    apply plain (.quiet rfl rfl)
    simp [timeline]

theorem scene_of_step (w : Workspace) (indirect : o.isDirect = false) :
    ∃ asides core, (w.step o).2.timeline = w.timeline ++ (asides ++ core) ∧
      (∀ e ∈ asides, e.isSilent = true) ∧ Scene w o (w.step o).1 (w.step o).2 core :=
  scene_of_deed indirect (deed_of_step w o)

end Scene

theorem scene_of_split {operations : List Operation}
    (indirect : ∀ o ∈ operations, o.isDirect = false) {before later : List Effect} {e : Effect}
    (loud : e.isSilent = false) (split : (after operations).timeline = before ++ e :: later) :
    ∃ past o future earlier pre post rest, operations = past ++ o :: future ∧
      before = earlier ++ pre ∧ later = post ++ rest ∧
      Scene (after past) o ((after past).step o).1 ((after past).step o).2 (pre ++ e :: post) := by
  induction operations using List.reverseRecOn generalizing later with
  | nil => simp [after, run, timeline] at split
  | append_singleton past o ih =>
    have last : after (past ++ [o]) = ((after past).step o).2 := run_concat {} past o
    obtain ⟨asides, core, grown, silent, scene⟩ := scene_of_step (after past) (indirect o (by simp))
    rw [last, grown] at split
    -- It stands in an earlier scene, among the silent effects of the last operation, or in its
    -- scene.
    rcases split_of_append split with ⟨rest, within, rfl⟩ | ⟨beyond, rfl, within⟩
    · obtain ⟨past', o', future, earlier, pre, post, rest', rfl, first, second, found⟩ :=
        ih (fun p member => indirect p (by simp [member])) within
      refine ⟨past', o', future ++ [o], earlier, pre, post, rest' ++ (asides ++ core), by simp,
        first, ?_, found⟩
      rw [second, List.append_assoc]
    · rcases split_of_append within with ⟨rest, aside, -⟩ | ⟨pre, rfl, inside⟩
      · have hushed := silent e (by simp [aside])
        rw [loud] at hushed
        contradiction
      · rw [inside] at scene
        refine ⟨past, o, [], (after past).timeline ++ asides, pre, later, [], rfl, ?_, by simp,
          scene⟩
        rw [List.append_assoc]

end Workspace

end ObjectQuery
