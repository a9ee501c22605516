import ObjectQuery.Proofs.Steps

/-!
Every operation but a direct call is a turn of the ledger (`turn_of_step`), so a run of such
operations is a course (`course_of_run`), and what each turn keeps holds after any run.
-/
namespace ObjectQuery

namespace Ledger

variable (l : Ledger) (effects : List Effect)

@[simp] theorem write_engine : (l.write effects).engine = l.engine := rfl
@[simp] theorem write_boxes : (l.write effects).boxes = l.boxes := rfl
@[simp] theorem write_builders : (l.write effects).builders = l.builders := rfl
@[simp] theorem write_queries : (l.write effects).queries = l.queries := rfl

section Owners

variable (id : Nat) (box : EntityBox) (context : ContextHandle) (query : QueryHandle)
  (onDrop : Bool) (b : Builder) (q : Query)

@[simp] theorem builders_addBuilder : (l.addBuilder b).builders = l.builders ++ [b] := rfl
@[simp] theorem queries_addBuilder : (l.addBuilder b).queries = l.queries := rfl
@[simp] theorem builders_addQuery : (l.addQuery q).builders = l.builders := rfl
@[simp] theorem queries_addQuery : (l.addQuery q).queries = l.queries ++ [q] := rfl

@[simp] theorem builders_close :
    (l.close id box context onDrop).builders = l.builders.set id ⟨box, none⟩ := rfl

@[simp] theorem queries_close : (l.close id box context onDrop).queries = l.queries := rfl

@[simp] theorem builders_closeQuery :
    (l.closeQuery id box query onDrop).builders = l.builders := rfl

@[simp] theorem queries_closeQuery :
    (l.closeQuery id box query onDrop).queries = l.queries.set id ⟨box, none⟩ := rfl

end Owners

end Ledger

theorem forall_mem_concat {α : Type} {p : α → Prop} {l : List α} {b : α}
    (all : ∀ a ∈ l, p a) (last : p b) : ∀ a ∈ l ++ [b], p a := by
  intro a member
  rcases List.mem_append.mp member with earlier | now
  · exact all a earlier
  · rw [List.mem_singleton.mp now]
    exact last

theorem forall_mem_set {α : Type} {p : α → Prop} {l : List α} {b : α} (all : ∀ a ∈ l, p a)
    (new : p b) (id : Nat) : ∀ a ∈ l.set id b, p a := by
  intro a member
  rcases List.mem_or_eq_of_mem_set member with kept | rfl
  · exact all a kept
  · exact new

theorem map_set_of_same {α β : Type} {f : α → β} {l : List α} {i : Nat} {a : α}
    (found : l[i]? = some a) (b : α) (same : f b = f a) : (l.set i b).map f = l.map f := by
  obtain ⟨bound, rfl⟩ := List.getElem?_eq_some_iff.mp found
  rw [List.map_set, same, ← List.map_set, List.set_getElem_self]

namespace Turn

variable {l : Ledger} {o : Operation} {a : Answer}

theorem written (effects : List Effect) (plain : a.isPlain = true)
    (minor : ∀ e ∈ effects, e.isMinor = true)
    (unmet : ∀ id p m, o = .condition id p m → a ≠ .done) : Turn l o a (l.write effects) := by
  simpa using Turn.aside (l := l) [] effects plain minor unmet

theorem idle (plain : a.isPlain = true) (unmet : ∀ id p m, o = .condition id p m → a ≠ .done) :
    Turn l o a l :=
  written [] plain (by simp) unmet

end Turn

theorem Store.recordings_minor (s : Store) (entity : String) :
    ∀ e ∈ s.recordings (.useAfterClose entity), e.isMinor = true := by
  intro e member
  unfold recordings at member
  split at member <;> simp_all [Effect.isMinor]

namespace Workspace

variable {w : Workspace}

theorem ledger_properties (box : EntityBox) :
    ∃ effects, (∀ e ∈ effects, e.isMinor = true) ∧
      (w.properties box).2.ledger = w.ledger.write effects := by
  obtain ⟨metadata, cells, effects, leaves, noticed⟩ := properties_leaves (w := w) box
  refine ⟨effects, ?_, ?_⟩
  · intro e member
    obtain ⟨n, rfl⟩ := noticed e member
    rfl
  · rw [leaves]
    rfl

theorem ledger_property (box : EntityBox) (name : String) :
    ∃ effects, (∀ e ∈ effects, e.isMinor = true) ∧
      (w.property box name).2.ledger = w.ledger.write effects := by
  obtain ⟨effects, minor, same⟩ := ledger_properties (w := w) box
  refine ⟨effects, minor, ?_⟩
  rw [← same]
  unfold property
  split
  · simp_all
  · split <;> simp_all

variable {id : Nat}

theorem turn_openBuilder {box : EntityBox} (found : w.boxes[id]? = some box) :
    Turn w.ledger (.openBuilder id) (w.stepOpenBuilder box).1 (w.stepOpenBuilder box).2.ledger := by
  obtain ⟨effects, minor, same⟩ := ledger_properties (w := w) box
  rcases resolution : w.properties box with ⟨r, w'⟩
  rw [resolution] at same
  have same_engine : w'.engine = w.engine := congrArg Ledger.engine same
  cases r with
  | error failure =>
    rw [stepOpenBuilder_unresolved resolution]
    dsimp only at same ⊢
    rw [same]
    exact Turn.written effects rfl minor (by simp)
  | ok model =>
    rcases call : w.engine.createContext box.store.session box.entity with ⟨r, engine⟩
    have called : w'.engine.createContext box.store.session box.entity = (r, engine) := by
      rw [same_engine]
      exact call
    cases r with
    | error error =>
      rw [stepOpenBuilder_refused resolution called]
      change Turn w.ledger _ _ (({ w'.ledger with engine }.write
        [.called (.createContext box.store.session box.entity) (.refused error)]).write
          (box.refusal .createContext error))
      rw [show w'.ledger = w.ledger.write effects from same]
      exact Turn.openRefused effects minor found call
    | ok context =>
      rw [stepOpenBuilder_ok resolution called]
      change Turn w.ledger _ (.builder w'.ledger.builders.length)
        ((({ w'.ledger with engine }.addBuilder ⟨box, some context⟩).write
          [.called (.createContext box.store.session box.entity) (.context context)]).write
            (box.opening context))
      rw [show w'.ledger = w.ledger.write effects from same]
      exact Turn.opened effects minor found call

theorem turn_apply {b : Builder} {p : Property} {m : Method}
    (found : w.builders[id]? = some b) :
    Turn w.ledger (.condition id p m) (answerWith (fun _ => .done) (w.apply b p m).1)
      (w.apply b p m).2.ledger := by
  obtain ⟨box, handle⟩ := b
  cases handle with
  | none =>
    rw [apply_closed]
    exact Turn.written _ rfl (box.store.recordings_minor box.entity) (by simp [answerWith])
  | some context =>
    rcases call : w.engine.addCondition context ⟨p.id, m.test⟩ with ⟨r, engine⟩
    cases r with
    | error error =>
      rw [apply_refused call]
      exact Turn.conditionRefused found call
    | ok done =>
      rw [apply_ok call]
      exact Turn.conditionAdded found call

theorem turn_build {b : Builder} (found : w.builders[id]? = some b) :
    Turn w.ledger (.build id) (w.stepBuild id b).1 (w.stepBuild id b).2.ledger := by
  obtain ⟨box, handle⟩ := b
  cases handle with
  | none =>
    rw [stepBuild_closed found]
    exact Turn.written _ rfl (box.store.recordings_minor box.entity) (by simp)
  | some context =>
    rcases call : w.engine.compile context with ⟨r, engine⟩
    cases r with
    | error error =>
      rw [stepBuild_refused call]
      exact Turn.buildRefused found call
    | ok query =>
      rw [stepBuild_ok call]
      exact Turn.built found call

theorem turn_releaseBuilder {o : Operation} {b : Builder} {onDrop : Bool}
    (release : o = if onDrop then .dropBuilder id else .closeBuilder id)
    (found : w.builders[id]? = some b) :
    Turn w.ledger o (w.stepReleaseBuilder id b onDrop).1
      (w.stepReleaseBuilder id b onDrop).2.ledger := by
  obtain ⟨box, handle⟩ := b
  cases handle with
  | none =>
    rw [stepReleaseBuilder_closed found]
    refine Turn.idle rfl ?_
    intro id p m same
    subst same
    cases onDrop <;> simp at release
  | some context =>
    rw [stepReleaseBuilder_open]
    exact Turn.builderReleased release found

theorem turn_releaseQuery {o : Operation} {q : Query} {onDrop : Bool}
    (release : o = if onDrop then .dropQuery id else .closeQuery id)
    (found : w.queries[id]? = some q) :
    Turn w.ledger o (w.stepReleaseQuery id q onDrop).1
      (w.stepReleaseQuery id q onDrop).2.ledger := by
  obtain ⟨box, handle⟩ := q
  cases handle with
  | none =>
    rw [stepReleaseQuery_closed found]
    refine Turn.idle rfl ?_
    intro id p m same
    subst same
    cases onDrop <;> simp at release
  | some query =>
    rw [stepReleaseQuery_open]
    exact Turn.queryReleased release found

theorem turn_queryHandle (q : Query) :
    Turn w.ledger (.queryHandle id) (answerWith .handle (w.queryHandle q).1)
      (w.queryHandle q).2.ledger := by
  obtain ⟨box, handle⟩ := q
  cases handle with
  | none =>
    rw [queryHandle_closed]
    exact Turn.written _ rfl (box.store.recordings_minor box.entity) (by simp)
  | some query => exact Turn.idle rfl (by simp)

theorem turn_on {α : Type} {l : List α} {o : Operation} {f : α → Answer × Workspace}
    (turn : ∀ a, l[id]? = some a → Turn w.ledger o (f a).1 (f a).2.ledger) :
    Turn w.ledger o (w.on l id f).1 (w.on l id f).2.ledger := by
  unfold on
  split
  · rename_i a found
    exact turn a found
  · exact Turn.idle rfl (by simp)

theorem turn_addBox {o : Operation} (box : EntityBox) (unmet : ∀ id p m, o ≠ .condition id p m) :
    Turn w.ledger o (w.addBox box).1 (w.addBox box).2.ledger :=
  Turn.aside [box] [] rfl (by simp) fun id p m same => absurd same (unmet id p m)

theorem turn_property {o : Operation} (box : EntityBox) (name : String)
    (unmet : ∀ id p m, o ≠ .condition id p m) :
    Turn w.ledger o (answerWith .property (w.property box name).1)
      (w.property box name).2.ledger := by
  obtain ⟨effects, minor, same⟩ := ledger_property (w := w) box name
  rw [same]
  refine Turn.written effects ?_ minor fun id p m same => absurd same (unmet id p m)
  unfold property
  split
  · rfl
  · split <;> rfl

theorem turn_properties (box : EntityBox) :
    Turn w.ledger (.properties id)
      (match w.properties box with
        | (.ok model, w) => (Answer.model model, w)
        | (.error failure, w) => (.failed failure, w)).1
      (match w.properties box with
        | (.ok model, w) => (Answer.model model, w)
        | (.error failure, w) => (.failed failure, w)).2.ledger := by
  obtain ⟨effects, minor, same⟩ := ledger_properties (w := w) box
  split
  · rename_i resolution
    rw [resolution] at same
    rw [same]
    exact Turn.written effects rfl minor (by simp)
  · rename_i resolution
    rw [resolution] at same
    rw [same]
    exact Turn.written effects rfl minor (by simp)

theorem turn_act {action : Engine.Action} (indirect : (Operation.engine action).isDirect = false) :
    Turn w.ledger (.engine action) (.engine (w.act action).1) (w.act action).2.ledger := by
  have uncalled : ∀ call, action ≠ .call call := by
    intro call same
    subst same
    simp [Operation.isDirect] at indirect
  have turn := Turn.engine (l := w.ledger) uncalled
  cases action with
  | call call => exact absurd rfl (uncalled call)
  | _ => exact turn

theorem turn_of_step (w : Workspace) {o : Operation} (indirect : o.isDirect = false) :
    Turn w.ledger o (w.step o).1 (w.step o).2.ledger := by
  cases o with
  | engine action => exact turn_act indirect
  | lineUp entity line => exact Turn.idle rfl (by simp)
  | resetReport => exact Turn.written [.reportReset] rfl (by simp [Effect.isMinor]) (by simp)
  | openStore session => exact Turn.idle rfl (by simp)
  | copyStore store => exact turn_on fun s _ => Turn.idle rfl (by simp)
  | configure store config => exact turn_on fun s _ => Turn.idle rfl (by simp)
  | route store sink => exact turn_on fun s _ => Turn.idle rfl (by simp)
  | newBox store entity => exact turn_on fun s _ => turn_addBox _ (by simp)
  | copyBox box => exact turn_on fun box _ => turn_addBox box (by simp)
  | boxOfBuilder builder => exact turn_on fun b _ => turn_addBox b.box (by simp)
  | boxOfQuery query => exact turn_on fun q _ => turn_addBox q.box (by simp)
  | properties box => exact turn_on fun box _ => turn_properties box
  | property box name => exact turn_on fun box _ => turn_property box name (by simp)
  | propertyOfBuilder builder name =>
    exact turn_on fun b _ => turn_property b.box name (by simp)
  | openBuilder box => exact turn_on fun box found => turn_openBuilder found
  | condition builder p m => exact turn_on fun b found => turn_apply found
  | build builder => exact turn_on fun b found => turn_build found
  | closeBuilder builder => exact turn_on fun b found => turn_releaseBuilder rfl found
  | dropBuilder builder => exact turn_on fun b found => turn_releaseBuilder rfl found
  | queryHandle query => exact turn_on fun q _ => turn_queryHandle q
  | closeQuery query => exact turn_on fun q found => turn_releaseQuery rfl found
  | dropQuery query => exact turn_on fun q found => turn_releaseQuery rfl found

theorem course_of_run (w : Workspace) (operations : List Operation)
    (indirect : ∀ o ∈ operations, o.isDirect = false) :
    Course w.ledger (operations.zip (w.run operations).1) (w.run operations).2.ledger := by
  induction operations generalizing w with
  | nil => exact Course.refl
  | cons o rest ih =>
    have first : Course w.ledger [(o, (w.step o).1)] (w.step o).2.ledger :=
      Course.refl.step (turn_of_step w (indirect o (by simp)))
    exact first.trans (ih (w.step o).2 fun p member => indirect p (by simp [member]))

theorem run_append (w : Workspace) (operations more : List Operation) :
    w.run (operations ++ more) =
      ((w.run operations).1 ++ ((w.run operations).2.run more).1,
        ((w.run operations).2.run more).2) := by
  induction operations generalizing w with
  | nil => rfl
  | cons o rest ih => simp [run, ih]

theorem length_run (w : Workspace) (operations : List Operation) :
    (w.run operations).1.length = operations.length := by
  induction operations generalizing w with
  | nil => rfl
  | cons o rest ih => simp [run, ih]

theorem after_append (operations more : List Operation) :
    after (operations ++ more) = ((after operations).run more).2 := by
  rw [after, run_append]
  rfl

theorem transcript_append (operations more : List Operation) :
    transcript (operations ++ more) =
      transcript operations ++ more.zip ((after operations).run more).1 := by
  rw [transcript, run_append]
  exact List.zip_append (length_run {} operations).symm

theorem course_of_after {operations : List Operation}
    (indirect : ∀ o ∈ operations, o.isDirect = false) :
    Course {} (transcript operations) (after operations).ledger :=
  course_of_run {} operations indirect

theorem handles_le_length (operations : List Operation) :
    (transcript operations).handles ≤ operations.length := by
  have length : (transcript operations).length = operations.length := by
    simp [transcript, length_run]
  rw [← length]
  exact Transcript.handles_le_length _

/-- Three builders over one box. The first is refused a condition and, by a fault, its query; the
second is built; the third stays open. -/
def sampleRun : List Operation :=
  [.engine (.register ⟨"Order", [⟨⟨1⟩, "note", .text⟩]⟩),
    .engine .openSession,
    .lineUp "Order" [.model ⟨"Order", [⟨⟨1⟩, "note", .text⟩]⟩],
    .openStore (HandleCounter.start.peek .session),
    .newBox 0 "Order",
    .openBuilder 0,
    .openBuilder 0,
    .condition 0 ⟨⟨1⟩, "note", .text⟩ .isNull,
    .condition 1 ⟨⟨1⟩, "note", .text⟩ (.contains "x"),
    .condition 0 ⟨⟨2⟩, "total", .int64⟩ .notNull,
    .engine (.failNext .compile (.unknownContext 9)),
    .build 0,
    .build 1,
    .closeBuilder 0,
    .openBuilder 0,
    .condition 2 ⟨⟨1⟩, "note", .text⟩ .notNull]

end Workspace

end ObjectQuery
