import ObjectQuery.Proofs.Steps
import ObjectQuery.Proofs.Deeds
import ObjectQuery.Proofs.History

/-!
The journal runs beside the engine. With another journal in its place every operation answers the
same and makes the same calls, and what becomes of the journal is told from these calls alone: each
is pushed, in order, whether or not it was refused. Two operations tend to the journal, and they
touch nothing else.
-/
namespace ObjectQuery

def Journal.pushAll (j : Journal) (calls : List EngineCall) : Journal := calls.foldl push j

namespace Engine

def withJournal (e : Engine) (journal : Journal) : Engine := { e with journal }

variable {e : Engine} {j : Journal}

theorem attempt_withJournal {α : Type} {answer : Engine → Except EngineError (α × Engine)}
    (blind : ∀ e j, answer (e.withJournal j) =
      (answer e).map fun r => (r.1, r.2.withJournal j)) (call : EngineCall) :
    (e.withJournal j).attempt call answer =
      ((e.attempt call answer).1, (e.attempt call answer).2.withJournal (j.push call)) := by
  have noted : (e.withJournal j).note call = (e.note call).withJournal (j.push call) := rfl
  unfold attempt
  dsimp only
  rw [noted, blind]
  have line : ((e.note call).withJournal (j.push call)).faults = (e.note call).faults := rfl
  rw [line]
  cases PendingFault.take? call.op (e.note call).faults with
  | none => cases answer (e.note call) <;> rfl
  | some taken => rfl

theorem createContext_withJournal (session : SessionHandle) (entity : String) :
    (e.withJournal j).createContext session entity =
      ((e.createContext session entity).1,
        (e.createContext session entity).2.withJournal
          (j.push (.createContext session entity))) := by
  apply attempt_withJournal
  intro e j
  have opened : (e.withJournal j).sessions.contains session = e.sessions.contains session := rfl
  have known : (e.withJournal j).entities.contains entity = e.entities.contains entity := rfl
  rw [opened, known]
  cases e.sessions.contains session with
  | false => rfl
  | true => cases e.entities.contains entity <;> rfl

theorem addCondition_withJournal (context : ContextHandle) (c : Condition) :
    (e.withJournal j).addCondition context c =
      ((e.addCondition context c).1,
        (e.addCondition context c).2.withJournal (j.push (.condition context c))) := by
  apply attempt_withJournal
  intro e j
  have verdict : (e.withJournal j).validate context c = e.validate context c := rfl
  rw [verdict]
  cases e.validate context c <;> rfl

theorem compile_withJournal (context : ContextHandle) :
    (e.withJournal j).compile context =
      ((e.compile context).1, (e.compile context).2.withJournal (j.push (.compile context))) := by
  apply attempt_withJournal
  intro e j
  have found : (e.withJournal j).contexts.get? context = e.contexts.get? context := rfl
  rw [found]
  cases e.contexts.get? context <;> rfl

theorem destroyContext_withJournal (context : ContextHandle) :
    (e.withJournal j).destroyContext context =
      (e.destroyContext context).withJournal (j.push (.destroyContext context)) := by
  cases live : e.contexts.get? context with
  | none =>
    rw [destroyContext_dead live, destroyContext_dead (e := e.withJournal j) live]
    rfl
  | some ctx =>
    have live : (e.contexts.get? context).isSome := by simp [live]
    rw [destroyContext_live live, destroyContext_live (e := e.withJournal j) live]
    rfl

theorem destroyQuery_withJournal (query : QueryHandle) :
    (e.withJournal j).destroyQuery query =
      (e.destroyQuery query).withJournal (j.push (.destroyQuery query)) := by
  cases live : e.queries.get? query with
  | none =>
    rw [destroyQuery_dead live, destroyQuery_dead (e := e.withJournal j) live]
    rfl
  | some conditions =>
    have live : (e.queries.get? query).isSome := by simp [live]
    rw [destroyQuery_live live, destroyQuery_live (e := e.withJournal j) live]
    rfl

theorem perform_withJournal (call : EngineCall) :
    (e.withJournal j).perform call =
      ((e.perform call).1, (e.perform call).2.withJournal (j.push call)) := by
  cases call with
  | createContext session entity => simp only [perform, createContext_withJournal]
  | condition context c => simp only [perform, addCondition_withJournal]
  | compile context => simp only [perform, compile_withJournal]
  | destroyContext context => simp only [perform, destroyContext_withJournal]
  | destroyQuery query => simp only [perform, destroyQuery_withJournal]

def Action.tend : Action → Journal → Journal
  | .clearJournal, j => j.clear
  | .resizeJournal capacity, j => j.resize capacity
  | _, j => j

theorem act_withJournal {action : Action} (indirect : ∀ call, action ≠ .call call) :
    (e.withJournal j).act action =
      ((e.act action).1, (e.act action).2.withJournal (action.tend j)) := by
  cases action with
  | failNext op error =>
    cases fallible : op.isFallible with
    | true =>
      rw [act_failNext_fallible fallible, act_failNext_fallible fallible]
      rfl
    | false =>
      rw [act_failNext_infallible fallible, act_failNext_infallible fallible]
      rfl
  | call call => exact absurd rfl (indirect call)
  | _ => rfl

end Engine

def Operation.tendsJournal : Operation → Bool
  | .engine .clearJournal | .engine (.resizeJournal _) => true
  | _ => false

def Operation.tend : Operation → Journal → Journal
  | .engine action => action.tend
  | _ => id

namespace Workspace

def withJournal (w : Workspace) (journal : Journal) : Workspace :=
  { w with engine := w.engine.withJournal journal }

theorem engine_withJournal (w : Workspace) (j : Journal) :
    (w.withJournal j).engine = w.engine.withJournal j := rfl

/-- Whatever the journal holds, `p` answers the same, leaves the same and makes the same calls,
which are entered in the journal as they are made. -/
def Enters {α : Type} (w : Workspace) (p : Workspace → α × Workspace) : Prop :=
  ∃ made, (p w).2.calls = w.calls ++ made ∧
    ∀ j, p (w.withJournal j) = ((p w).1, (p w).2.withJournal (j.pushAll (made.map Prod.fst)))

variable {w w' : Workspace} {id : Nat} {box : EntityBox}

theorem Enters.making {α : Type} {p : Workspace → α × Workspace}
    (made : List (EngineCall × Engine.Outcome)) (calls : (p w).2.calls = w.calls ++ made)
    (same : ∀ j, p (w.withJournal j) =
      ((p w).1, (p w).2.withJournal (j.pushAll (made.map Prod.fst)))) : w.Enters p :=
  ⟨made, calls, same⟩

theorem Enters.silent {α : Type} {p : Workspace → α × Workspace} (calls : (p w).2.calls = w.calls)
    (same : ∀ j, p (w.withJournal j) = ((p w).1, (p w).2.withJournal j)) : w.Enters p :=
  .making [] (by rw [calls, List.append_nil]) same

theorem Enters.map {α β : Type} {p : Workspace → α × Workspace} (enters : w.Enters p)
    (f : α → β) : w.Enters fun w => (f (p w).1, (p w).2) := by
  obtain ⟨made, calls, same⟩ := enters
  refine ⟨made, calls, ?_⟩
  intro j
  dsimp only
  rw [same]

theorem Enters.on {α : Type} {l : Workspace → List α} {f : Workspace → α → Answer × Workspace}
    (unmoved : ∀ j, l (w.withJournal j) = l w)
    (enters : ∀ a, (l w)[id]? = some a → w.Enters fun w => f w a) :
    w.Enters fun w => w.on (l w) id (f w) := by
  cases found : (l w)[id]? with
  | none =>
    refine Enters.silent ?_ ?_
    · simp [Workspace.on, found]
    · intro j
      simp [Workspace.on, unmoved, found]
  | some a =>
    obtain ⟨made, calls, same⟩ := enters a found
    refine .making made ?_ ?_
    · rw [on_found found]
      exact calls
    · intro j
      have found' : (l (w.withJournal j))[id]? = some a := by rw [unmoved, found]
      rw [on_found found, on_found found']
      exact same j

theorem properties_withJournal (box : EntityBox) (j : Journal) :
    (w.withJournal j).properties box =
      ((w.properties box).1, (w.properties box).2.withJournal j) := by
  cases resolved : w.resolved? box with
  | some model =>
    rw [properties_resolved resolved, properties_resolved (w := w.withJournal j) resolved]
  | none =>
    cases verdict : (w.metadata.resolve box.entity).1.verdict box.entity with
    | ok model =>
      rw [properties_settled resolved verdict,
        properties_settled (w := w.withJournal j) resolved verdict]
      rfl
    | error failure =>
      rw [properties_failed resolved verdict,
        properties_failed (w := w.withJournal j) resolved verdict]
      rfl

theorem calls_properties (box : EntityBox) : (w.properties box).2.calls = w.calls := by
  cases resolved : w.resolved? box with
  | some model => rw [properties_resolved resolved]
  | none =>
    cases verdict : (w.metadata.resolve box.entity).1.verdict box.entity with
    | ok model =>
      rw [properties_settled resolved verdict]
      exact callsIn_noticed ..
    | error failure => rw [properties_failed resolved verdict, calls, calls]

theorem enters_properties (box : EntityBox) : w.Enters fun w => match w.properties box with
    | (.ok model, w) => (Answer.model model, w)
    | (.error failure, w) => (.failed failure, w) := by
  have kept := calls_properties (w := w) box
  have same := properties_withJournal (w := w) box
  rcases resolution : w.properties box with ⟨r, v⟩
  rw [resolution] at kept same
  cases r with
  | ok model | error failure =>
    refine Enters.silent ?_ ?_
    · simp only [resolution]
      exact kept
    · intro j
      simp only [resolution, same]

theorem enters_property (box : EntityBox) (name : String) : w.Enters (·.property box name) := by
  refine Enters.silent ?_ ?_
  · rw [property_eq]
    exact calls_properties box
  · intro j
    rw [property_eq, property_eq, properties_withJournal]

section Owners

variable {b : Builder} {q : Query}

theorem enters_openBuilder (box : EntityBox) : w.Enters (·.stepOpenBuilder box) := by
  have kept := calls_properties (w := w) box
  have same := properties_withJournal (w := w) box
  rcases resolution : w.properties box with ⟨r, v⟩
  rw [resolution] at kept same
  cases r with
  | error failure =>
    refine Enters.silent ?_ ?_
    · rw [stepOpenBuilder_unresolved resolution]
      exact kept
    · intro j
      rw [stepOpenBuilder_unresolved resolution, stepOpenBuilder_unresolved (same j)]
  | ok model =>
    rcases call : v.engine.createContext box.store.session box.entity with ⟨r, engine⟩
    have call' (j : Journal) : (v.withJournal j).engine.createContext box.store.session box.entity =
        (r, engine.withJournal (j.push (.createContext box.store.session box.entity))) := by
      rw [engine_withJournal, Engine.createContext_withJournal, call]
    cases r with
    | error error =>
      refine .making [(.createContext box.store.session box.entity, .refused error)] ?_ ?_
      · rw [stepOpenBuilder_refused resolution call, ← kept]
        simp [calls]
      · intro j
        rw [stepOpenBuilder_refused resolution call, stepOpenBuilder_refused (same j) (call' j)]
        rfl
    | ok context =>
      refine .making [(.createContext box.store.session box.entity, .context context)] ?_ ?_
      · rw [stepOpenBuilder_ok resolution call, ← kept]
        simp [calls]
      · intro j
        rw [stepOpenBuilder_ok resolution call, stepOpenBuilder_ok (same j) (call' j)]
        rfl

theorem enters_condition (b : Builder) (p : Property) (m : Method) :
    w.Enters (·.apply b p m) := by
  obtain ⟨box, handle⟩ := b
  cases handle with
  | none =>
    refine Enters.silent ?_ ?_
    · rw [apply_closed]
      simp [calls]
    · intro j
      rw [apply_closed, apply_closed]
      rfl
  | some context =>
    rcases call : w.engine.addCondition context ⟨p.id, m.test⟩ with ⟨r, engine⟩
    have call' (j : Journal) : (w.withJournal j).engine.addCondition context ⟨p.id, m.test⟩ =
        (r, engine.withJournal (j.push (.condition context ⟨p.id, m.test⟩))) := by
      rw [engine_withJournal, Engine.addCondition_withJournal, call]
    cases r with
    | error error =>
      refine .making [(.condition context ⟨p.id, m.test⟩, .refused error)] ?_ ?_
      · rw [apply_refused call]
        simp [calls]
      · intro j
        rw [apply_refused call, apply_refused (call' j)]
        rfl
    | ok done =>
      refine .making [(.condition context ⟨p.id, m.test⟩, .done)] ?_ ?_
      · rw [apply_ok call]
        simp [calls]
      · intro j
        rw [apply_ok call, apply_ok (call' j)]
        rfl

theorem enters_build (found : w.builders[id]? = some b) : w.Enters (·.stepBuild id b) := by
  obtain ⟨box, handle⟩ := b
  cases handle with
  | none =>
    refine Enters.silent ?_ ?_
    · rw [stepBuild_closed found]
      simp [calls]
    · intro j
      rw [stepBuild_closed found, stepBuild_closed (w := w.withJournal j) found]
      rfl
  | some context =>
    rcases call : w.engine.compile context with ⟨r, engine⟩
    have call' (j : Journal) : (w.withJournal j).engine.compile context =
        (r, engine.withJournal (j.push (.compile context))) := by
      rw [engine_withJournal, Engine.compile_withJournal, call]
    cases r with
    | error error =>
      refine .making [(.compile context, .refused error), (.destroyContext context, .done)] ?_ ?_
      · rw [stepBuild_refused call]
        simp [calls]
      · intro j
        rw [stepBuild_refused call, stepBuild_refused (call' j),
          Engine.destroyContext_withJournal]
        rfl
    | ok query =>
      refine .making [(.compile context, .query query), (.destroyContext context, .done)] ?_ ?_
      · rw [stepBuild_ok call]
        simp [calls]
      · intro j
        rw [stepBuild_ok call, stepBuild_ok (call' j), Engine.destroyContext_withJournal]
        rfl

theorem enters_releaseBuilder (found : w.builders[id]? = some b) (onDrop : Bool) :
    w.Enters (·.stepReleaseBuilder id b onDrop) := by
  obtain ⟨box, handle⟩ := b
  cases handle with
  | none =>
    refine Enters.silent ?_ ?_
    · rw [stepReleaseBuilder_closed found]
    · intro j
      rw [stepReleaseBuilder_closed found, stepReleaseBuilder_closed (w := w.withJournal j) found]
  | some context =>
    refine .making [(.destroyContext context, .done)] ?_ ?_
    · rw [stepReleaseBuilder_open]
      simp [calls]
    · intro j
      rw [stepReleaseBuilder_open, stepReleaseBuilder_open, engine_withJournal,
        Engine.destroyContext_withJournal]
      rfl

theorem enters_queryHandle (q : Query) : w.Enters (·.queryHandle q) := by
  obtain ⟨box, handle⟩ := q
  cases handle with
  | none =>
    refine Enters.silent ?_ ?_
    · rw [queryHandle_closed]
      simp [calls]
    · intro j
      rw [queryHandle_closed, queryHandle_closed]
      rfl
  | some query => exact .silent rfl fun j => rfl

theorem enters_releaseQuery (found : w.queries[id]? = some q) (onDrop : Bool) :
    w.Enters (·.stepReleaseQuery id q onDrop) := by
  obtain ⟨box, handle⟩ := q
  cases handle with
  | none =>
    refine Enters.silent ?_ ?_
    · rw [stepReleaseQuery_closed found]
    · intro j
      rw [stepReleaseQuery_closed found, stepReleaseQuery_closed (w := w.withJournal j) found]
  | some query =>
    refine .making [(.destroyQuery query, .done)] ?_ ?_
    · rw [stepReleaseQuery_open]
      simp [calls]
    · intro j
      rw [stepReleaseQuery_open, stepReleaseQuery_open, engine_withJournal,
        Engine.destroyQuery_withJournal]
      rfl

end Owners

variable {o : Operation}

theorem enters_act {action : Engine.Action} (untended : (Operation.engine action).tendsJournal = false) :
    w.Enters (·.act action) := by
  cases action with
  | call call =>
    refine .making [(call, (w.engine.perform call).1)] ?_ ?_
    · rw [act_call]
      cases call with
      | condition context c =>
        cases ended : (w.engine.perform (.condition context c)).1 <;> simp [calls, EngineCall.trace]
      | _ => simp [calls, EngineCall.trace]
    · intro j
      rw [act_call, act_call, engine_withJournal, Engine.perform_withJournal]
      rfl
  | failNext op error =>
    refine .silent rfl ?_
    intro j
    have indirect : ∀ call, Engine.Action.failNext op error ≠ .call call := by simp
    simp only [act, engine_withJournal, Engine.act_withJournal indirect]
    rfl
  | register model | openSession => exact .silent rfl fun j => rfl
  | clearJournal | resizeJournal capacity => contradiction

theorem enters_step (untended : o.tendsJournal = false) : w.Enters (·.step o) := by
  cases o with
  | engine action => exact (enters_act untended).map Answer.engine
  | lineUp entity line | resetReport | openStore session => exact .silent rfl fun j => rfl
  | copyStore store | configure store config | route store sink | newBox store entity =>
    exact .on (l := Workspace.stores) (fun j => rfl) fun s found => .silent rfl fun j => rfl
  | copyBox box =>
    exact .on (l := Workspace.boxes) (fun j => rfl) fun box found => .silent rfl fun j => rfl
  | boxOfBuilder builder =>
    exact .on (l := Workspace.builders) (fun j => rfl) fun b found => .silent rfl fun j => rfl
  | boxOfQuery query =>
    exact .on (l := Workspace.queries) (fun j => rfl) fun q found => .silent rfl fun j => rfl
  | properties box =>
    exact .on (l := Workspace.boxes) (fun j => rfl) fun box found => enters_properties box
  | property box name =>
    exact .on (l := Workspace.boxes) (fun j => rfl) fun box found =>
      (enters_property box name).map (answerWith .property)
  | propertyOfBuilder builder name =>
    exact .on (l := Workspace.builders) (fun j => rfl) fun b found =>
      (enters_property b.box name).map (answerWith .property)
  | openBuilder box =>
    exact .on (l := Workspace.boxes) (fun j => rfl) fun box found => enters_openBuilder box
  | condition builder p m =>
    exact .on (l := Workspace.builders) (fun j => rfl) fun b found =>
      (enters_condition b p m).map (answerWith fun _ => .done)
  | build builder =>
    exact .on (l := Workspace.builders) (fun j => rfl) fun b found => enters_build found
  | closeBuilder builder =>
    exact .on (l := Workspace.builders) (fun j => rfl) fun b found =>
      enters_releaseBuilder found false
  | dropBuilder builder =>
    exact .on (l := Workspace.builders) (fun j => rfl) fun b found =>
      enters_releaseBuilder found true
  | queryHandle query =>
    exact .on (l := Workspace.queries) (fun j => rfl) fun q found =>
      (enters_queryHandle q).map (answerWith .handle)
  | closeQuery query =>
    exact .on (l := Workspace.queries) (fun j => rfl) fun q found => enters_releaseQuery found false
  | dropQuery query =>
    exact .on (l := Workspace.queries) (fun j => rfl) fun q found => enters_releaseQuery found true

theorem step_tending (tending : o.tendsJournal = true) :
    w.step o = (.engine .done, w.withJournal (o.tend w.engine.journal)) := by
  unfold Operation.tendsJournal at tending
  split at tending
  · rfl
  · rfl
  · contradiction

theorem tend_of_untended (untended : o.tendsJournal = false) (j : Journal) : o.tend j = j := by
  cases o with
  | engine action =>
    cases action with
    | clearJournal | resizeJournal capacity => contradiction
    | _ => rfl
  | _ => rfl

theorem journal_of_step (w : Workspace) (o : Operation) :
    ∃ made, (w.step o).2.calls = w.calls ++ made ∧
      (w.step o).2.engine.journal = (o.tend w.engine.journal).pushAll (made.map Prod.fst) := by
  cases tending : o.tendsJournal with
  | true =>
    rw [step_tending tending]
    exact ⟨[], (List.append_nil _).symm, rfl⟩
  | false =>
    obtain ⟨made, calls, same⟩ := enters_step (w := w) tending
    refine ⟨made, calls, ?_⟩
    rw [tend_of_untended tending]
    exact congrArg (fun r => r.2.engine.journal) (same w.engine.journal)

/-- A run from another journal, without the operations that tend to it. -/
theorem run_withJournal (w : Workspace) (j : Journal) (operations : List Operation) :
    let plain := operations.filter (!·.tendsJournal)
    (operations.zip (w.run operations).1).filter (fun entry => !entry.1.tendsJournal) =
        plain.zip ((w.withJournal j).run plain).1 ∧
      ∃ j', ((w.withJournal j).run plain).2 = (w.run operations).2.withJournal j' := by
  induction operations generalizing w j with
  | nil => exact ⟨rfl, j, rfl⟩
  | cons o rest ih =>
    cases tending : o.tendsJournal with
    | true =>
      -- The plain run stands still here; what was done to the other journal is overwritten.
      obtain ⟨answers, after⟩ := ih (w.withJournal (o.tend w.engine.journal)) j
      have overwritten : (w.withJournal (o.tend w.engine.journal)).withJournal j =
        w.withJournal j := rfl
      rw [overwritten] at answers after
      simpa [run, tending, step_tending] using And.intro answers after
    | false =>
      obtain ⟨made, -, same⟩ := enters_step (w := w) tending
      obtain ⟨answers, after⟩ := ih (w.step o).2 (j.pushAll (made.map Prod.fst))
      have next := same j
      dsimp only at next
      simpa [run, tending, next] using And.intro answers after

end Workspace

end ObjectQuery
