import ObjectQuery.Proofs.Occurrences

/-!
The lifecycle of a builder and of the query it builds, in their events. While an owner is open the
engine's verdicts are told one by one; it is closed once, by one of a few groups of events; and what
is asked of it later is told as such, whatever else goes on in between. This is shown of builders
and queries whose store has metrics enabled.
-/
namespace ObjectQuery

namespace Occurrence

inductive WhileOpen (entity : String) : Owner → Occurrence → Prop where
  | accepted (id : Nat) (p : Property) (m : Method) :
      WhileOpen entity (.builder id) ⟨.condition id p m, .done, [.conditionAdded entity m.op]⟩
  | rejected (id : Nat) (p : Property) (m : Method) (error : EngineError) :
      WhileOpen entity (.builder id)
        ⟨.condition id p m, .refused (.engineRejected entity m.op error),
          [.engineRejected entity m.op]⟩
  | shown (id : Nat) (handle : QueryHandle) :
      WhileOpen entity (.query id) ⟨.queryHandle id, .handle handle, []⟩

inductive Closing (entity : String) : Owner → Occurrence → Prop where
  | built (id query : Nat) :
      Closing entity (.builder id)
        ⟨.build id, .query query, [.queryCompiled entity, .builderClosed entity false]⟩
  | unbuilt (id : Nat) (error : EngineError) :
      Closing entity (.builder id)
        ⟨.build id, .refused (.engineRejected entity .compile error),
          [.builderClosed entity false, .engineRejected entity .compile]⟩
  | closed (id : Nat) :
      Closing entity (.builder id) ⟨.closeBuilder id, .done, [.builderClosed entity false]⟩
  | dropped (id : Nat) :
      Closing entity (.builder id) ⟨.dropBuilder id, .done, [.builderClosed entity true]⟩
  | queryClosed (id : Nat) :
      Closing entity (.query id) ⟨.closeQuery id, .done, [.queryClosed entity false]⟩
  | queryDropped (id : Nat) :
      Closing entity (.query id) ⟨.dropQuery id, .done, [.queryClosed entity true]⟩

/-- What may come of a closed owner: asking is told, releasing again is not. -/
inductive AfterClose (entity : String) (owner : Owner) : Occurrence → Prop where
  | asked {o : Operation} (asking : o.asks? = some owner) :
      AfterClose entity owner ⟨o, .refused (.useAfterClose entity), [.useAfterClose entity]⟩
  | released {o : Operation} (releasing : o.releases? = some owner) :
      AfterClose entity owner ⟨o, .done, []⟩

theorem Closing.closes {entity : String} {owner : Owner} {x : Occurrence}
    (closing : Closing entity owner x) : x.operation.closes? = some owner := by
  cases closing <;> rfl

end Occurrence

open Occurrence

/-- The lives of an owner once it has come to be, of one that is open still and of one that is
closed. -/
inductive IsLife (entity : String) (owner : Owner) : Bool → List Occurrence → Prop where
  | ongoing {life : List Occurrence} (going : ∀ x ∈ life, WhileOpen entity owner x) :
      IsLife entity owner false life
  | ended {before after : List Occurrence} {ending : Occurrence}
      (going : ∀ x ∈ before, WhileOpen entity owner x) (closing : Closing entity owner ending)
      (late : ∀ x ∈ after, AfterClose entity owner x) :
      IsLife entity owner true (before ++ ending :: after)

namespace IsLife

variable {entity : String} {owner : Owner} {isClosed : Bool} {life : List Occurrence}
  {x : Occurrence}

theorem cons (isLife : IsLife entity owner isClosed life) (going : WhileOpen entity owner x) :
    IsLife entity owner isClosed (x :: life) := by
  cases isLife with
  | ongoing earlier => exact .ongoing (List.forall_mem_cons.mpr ⟨going, earlier⟩)
  | ended earlier closing late =>
    exact .ended (List.forall_mem_cons.mpr ⟨going, earlier⟩) closing late

theorem going_of_open (isLife : IsLife entity owner false life) :
    ∀ x ∈ life, WhileOpen entity owner x := by
  cases isLife with
  | ongoing going => exact going

theorem closed_of_released (isLife : IsLife entity owner isClosed life) (member : x ∈ life)
    (releasing : x.operation.releases? = some owner) : isClosed = true := by
  cases isLife with
  | ongoing going => cases going x member <;> contradiction
  | ended => rfl

end IsLife

namespace Ledger

def Stands (l : Ledger) (box : EntityBox) (isClosed : Bool) : Owner → Prop
  | .builder id => ∃ b, l.builders[id]? = some b ∧ b.box = box ∧ b.isClosed = isClosed
  | .query id => ∃ q, l.queries[id]? = some q ∧ q.box = box ∧ q.isClosed = isClosed

namespace Stands

variable {l l' : Ledger} {box : EntityBox} {isClosed : Bool} {owner : Owner}

theorem of_closed (closed : l.IsClosed box owner) : l.Stands box true owner := by
  cases owner with
  | builder id => exact ⟨_, closed, rfl, rfl⟩
  | query id => exact ⟨_, closed, rfl, rfl⟩

theorem boxOf? (stands : l.Stands box isClosed owner) : l.boxOf? owner = some box := by
  cases owner with
  | builder id =>
    obtain ⟨b, found, rfl, -⟩ := stands
    exact Option.map_eq_some_iff.mpr ⟨b, found, rfl⟩
  | query id =>
    obtain ⟨q, found, rfl, -⟩ := stands
    exact Option.map_eq_some_iff.mpr ⟨q, found, rfl⟩

theorem of_owners (stands : l.Stands box isClosed owner) (builders : l'.builders = l.builders)
    (queries : l'.queries = l.queries) : l'.Stands box isClosed owner := by
  cases owner with
  | builder id => simpa [Stands, builders] using stands
  | query id => simpa [Stands, queries] using stands

theorem addBuilder (stands : l.Stands box isClosed owner) (b : Builder) :
    (l.addBuilder b).Stands box isClosed owner := by
  cases owner with
  | builder id =>
    obtain ⟨b', found, known⟩ := stands
    exact ⟨b', getElem?_concat_of_some found b, known⟩
  | query id => exact stands

theorem addQuery (stands : l.Stands box isClosed owner) (q : Query) :
    (l.addQuery q).Stands box isClosed owner := by
  cases owner with
  | builder id => exact stands
  | query id =>
    obtain ⟨q', found, known⟩ := stands
    exact ⟨q', getElem?_concat_of_some found q, known⟩

theorem setBuilder (stands : l.Stands box isClosed owner) {id : Nat} (b : Builder)
    (other : owner ≠ .builder id) :
    ({ l with builders := l.builders.set id b } : Ledger).Stands box isClosed owner := by
  cases owner with
  | builder i =>
    obtain ⟨b', found, known⟩ := stands
    have apart : id ≠ i := fun same => other (congrArg Owner.builder same.symm)
    exact ⟨b', by rw [List.getElem?_set_ne apart, found], known⟩
  | query i => exact stands

theorem setQuery (stands : l.Stands box isClosed owner) {id : Nat} (q : Query)
    (other : owner ≠ .query id) :
    ({ l with queries := l.queries.set id q } : Ledger).Stands box isClosed owner := by
  cases owner with
  | builder i => exact stands
  | query i =>
    obtain ⟨q', found, known⟩ := stands
    have apart : id ≠ i := fun same => other (congrArg Owner.query same.symm)
    exact ⟨q', by rw [List.getElem?_set_ne apart, found], known⟩

end Stands

end Ledger

namespace Workspace

variable {w w' : Workspace} {o : Operation} {a : Answer} {box : EntityBox} {owner : Owner}
  {isClosed : Bool}

theorem stands_properties (stands : w.ledger.Stands box isClosed owner) (asked : EntityBox) :
    (w.properties asked).2.ledger.Stands box isClosed owner := by
  obtain ⟨metadata, cells, effects, leaves, -⟩ := properties_owners (w := w) asked
  rw [leaves]
  exact stands.of_owners rfl rfl

theorem stands_of_other {events : List Event} (stands : w.ledger.Stands box isClosed owner)
    (deed : Deed w o a w') (other : (⟨o, a, events⟩ : Occurrence).owner? ≠ some owner) :
    w'.ledger.Stands box isClosed owner := by
  have apart {named : Owner} (known : a ≠ .unknown)
      (naming : o.asks? = some named ∨ o.releases? = some named) : owner ≠ named := by
    rintro rfl
    exact other (owner_of_named naming known)
  cases deed with
  | told asked reply => exact stands_properties stands _
  | @openRefused id box model w' error engine found resolution failed =>
    have kept := stands_properties stands box
    rw [resolution] at kept
    exact kept.of_owners rfl rfl
  | @opened id box model w' context engine found resolution done =>
    have kept := stands_properties stands box
    rw [resolution] at kept
    exact (kept.addBuilder _).of_owners rfl rfl
  | @buildRefused id box context error engine found failed =>
    exact (stands.setBuilder ⟨box, none⟩ (apart (by simp) (Or.inl rfl))).of_owners rfl rfl
  | @built id box context query engine found done =>
    have closed := stands.setBuilder ⟨box, none⟩ (apart (by simp) (Or.inl rfl))
    exact (closed.addQuery ⟨box, some query⟩).of_owners rfl rfl
  | @builderReleased _ id box context onDrop release found =>
    have named : o.releases? = some (.builder id) := by
      cases onDrop <;> subst release <;> rfl
    exact (stands.setBuilder ⟨box, none⟩ (apart (by simp) (Or.inr named))).of_owners rfl rfl
  | @queryReleased _ id box query onDrop release found =>
    have named : o.releases? = some (.query id) := by
      cases onDrop <;> subst release <;> rfl
    exact (stands.setQuery ⟨box, none⟩ (apart (by simp) (Or.inr named))).of_owners rfl rfl
  | _ => exact stands.of_owners rfl rfl

theorem named_of_owned (present : w.ledger.boxOf? owner = some box)
    (owned : (w.occurrence o).owner? = some owner) :
    o.asks? = some owner ∨ o.releases? = some owner := by
  rcases owner_cases owned with ⟨id, i, rfl, answered, rfl⟩ | ⟨-, named⟩
  · obtain ⟨rfl, -⟩ := opened_of_answer answered
    simp [Ledger.boxOf?, ledger] at present
  · exact named

theorem occurrence_eq {isOpen : Bool} (actor : w.actor? o = some (box, isOpen))
    (metrics : box.store.config.metrics = true) :
    w.occurrence o = ⟨o, (w.step o).1, o.events box.entity isOpen (w.step o).1⟩ := by
  rw [← events_of_actor actor metrics]
  rfl

section Metrics

variable (metrics : box.store.config.metrics = true)

include metrics

theorem builder_of_step {id : Nat} {context : ContextHandle}
    (found : w.builders[id]? = some ⟨box, some context⟩)
    (named : o.asks? = some (.builder id) ∨ o.releases? = some (.builder id)) :
    WhileOpen box.entity (.builder id) (w.occurrence o) ∧
        (w.step o).2.ledger.Stands box false (.builder id) ∨
      Closing box.entity (.builder id) (w.occurrence o) := by
  rw [occurrence_eq (actor_of_builder found named) metrics]
  cases o with
  | condition i p m =>
    obtain rfl : i = id := by simpa [Operation.asks?, Operation.releases?] using named
    rw [step_condition found]
    left
    rcases call : w.engine.addCondition context ⟨p.id, m.test⟩ with ⟨r, engine⟩
    cases r with
    | error error =>
      rw [apply_refused call]
      exact ⟨.rejected i p m error, _, found, rfl, rfl⟩
    | ok done =>
      rw [apply_ok call]
      exact ⟨.accepted i p m, _, found, rfl, rfl⟩
  | build i =>
    obtain rfl : i = id := by simpa [Operation.asks?, Operation.releases?] using named
    rw [step_build found]
    right
    rcases call : w.engine.compile context with ⟨r, engine⟩
    cases r with
    | error error =>
      rw [stepBuild_refused call]
      exact .unbuilt i error
    | ok query =>
      rw [stepBuild_ok call]
      exact .built i _
  | closeBuilder i =>
    obtain rfl : i = id := by simpa [Operation.asks?, Operation.releases?] using named
    have released : w.step (.closeBuilder i) = _ :=
      (step_releaseBuilder found false).trans (stepReleaseBuilder_open false)
    right
    rw [released]
    exact .closed i
  | dropBuilder i =>
    obtain rfl : i = id := by simpa [Operation.asks?, Operation.releases?] using named
    have released : w.step (.dropBuilder i) = _ :=
      (step_releaseBuilder found true).trans (stepReleaseBuilder_open true)
    right
    rw [released]
    exact .dropped i
  | _ => simp [Operation.asks?, Operation.releases?] at named

theorem query_of_step {id : Nat} {query : QueryHandle}
    (found : w.queries[id]? = some ⟨box, some query⟩)
    (named : o.asks? = some (.query id) ∨ o.releases? = some (.query id)) :
    WhileOpen box.entity (.query id) (w.occurrence o) ∧
        (w.step o).2.ledger.Stands box false (.query id) ∨
      Closing box.entity (.query id) (w.occurrence o) := by
  rw [occurrence_eq (actor_of_query found named) metrics]
  cases o with
  | queryHandle i =>
    obtain rfl : i = id := by simpa [Operation.asks?, Operation.releases?] using named
    rw [step_queryHandle found]
    exact Or.inl ⟨.shown i query, _, found, rfl, rfl⟩
  | closeQuery i =>
    obtain rfl : i = id := by simpa [Operation.asks?, Operation.releases?] using named
    have released : w.step (.closeQuery i) = _ :=
      (step_releaseQuery found false).trans (stepReleaseQuery_open false)
    right
    rw [released]
    exact .queryClosed i
  | dropQuery i =>
    obtain rfl : i = id := by simpa [Operation.asks?, Operation.releases?] using named
    have released : w.step (.dropQuery i) = _ :=
      (step_releaseQuery found true).trans (stepReleaseQuery_open true)
    right
    rw [released]
    exact .queryDropped i
  | _ => simp [Operation.asks?, Operation.releases?] at named

theorem open_of_step (stands : w.ledger.Stands box false owner)
    (owned : (w.occurrence o).owner? = some owner) :
    WhileOpen box.entity owner (w.occurrence o) ∧ (w.step o).2.ledger.Stands box false owner ∨
      Closing box.entity owner (w.occurrence o) ∧ (w.step o).2.ledger.IsClosed box owner := by
  have present := stands.boxOf?
  have named := named_of_owned present owned
  have outcome : WhileOpen box.entity owner (w.occurrence o) ∧
      (w.step o).2.ledger.Stands box false owner ∨ Closing box.entity owner (w.occurrence o) := by
    cases owner with
    | builder id =>
      obtain ⟨⟨_, handle⟩, found, rfl, unclosed⟩ := stands
      obtain ⟨context, rfl⟩ := Option.isSome_iff_exists.mp (by simpa [Builder.isClosed] using unclosed)
      exact builder_of_step metrics found named
    | query id =>
      obtain ⟨⟨_, handle⟩, found, rfl, unclosed⟩ := stands
      obtain ⟨query, rfl⟩ := Option.isSome_iff_exists.mp (by simpa [Query.isClosed] using unclosed)
      exact query_of_step metrics found named
  rcases outcome with going | closing
  · exact Or.inl going
  · exact Or.inr ⟨closing, closed_by_step present closing.closes⟩

theorem late_of_step (closed : w.ledger.IsClosed box owner)
    (owned : (w.occurrence o).owner? = some owner) :
    AfterClose box.entity owner (w.occurrence o) := by
  have named := named_of_owned (Ledger.Stands.of_closed closed).boxOf? owned
  rw [occurrence_eq (actor_of_closed closed named) metrics]
  rcases named with asking | releasing
  · rw [step_asks_closed closed asking, events_of_refusal]
    exact .asked asking
  · rw [step_releases_closed closed releasing, events_of_closed releasing]
    exact .released releasing

theorem late_of_run (closed : w.ledger.IsClosed box owner) (operations : List Operation) :
    ∀ x ∈ lifeOf owner (w.occurrences operations), AfterClose box.entity owner x := by
  induction operations generalizing w with
  | nil => exact List.forall_mem_nil _
  | cons o rest ih =>
    have later := ih (closed_of_step closed o)
    rw [occurrences_cons]
    by_cases owned : (w.occurrence o).owner? = some owner
    · rw [lifeOf_cons_of_owned owned]
      exact List.forall_mem_cons.mpr ⟨late_of_step metrics closed owned, later⟩
    · rw [lifeOf_cons_of_not_owned owned]
      exact later

theorem life_of_run (stands : w.ledger.Stands box false owner) (operations : List Operation) :
    ∃ isClosed, (w.run operations).2.ledger.Stands box isClosed owner ∧
      IsLife box.entity owner isClosed (lifeOf owner (w.occurrences operations)) := by
  induction operations generalizing w with
  | nil => exact ⟨false, stands, .ongoing (List.forall_mem_nil _)⟩
  | cons o rest ih =>
    rw [occurrences_cons]
    by_cases owned : (w.occurrence o).owner? = some owner
    · rw [lifeOf_cons_of_owned owned]
      rcases open_of_step metrics stands owned with ⟨going, still⟩ | ⟨closing, closed⟩
      · obtain ⟨isClosed, stands, life⟩ := ih still
        exact ⟨isClosed, stands, life.cons going⟩
      · have late := late_of_run metrics closed rest
        have final := closed_of_run closed rest
        exact ⟨true, .of_closed final, .ended (List.forall_mem_nil _) closing late⟩
    · rw [lifeOf_cons_of_not_owned owned]
      exact ih (stands_of_other stands (deed_of_step w o) owned)

end Metrics

theorem opening_of_builder {operations : List Operation} {i : Nat} {b : Builder}
    (found : (after operations).builders[i]? = some b)
    (metrics : b.box.store.config.metrics = true) :
    ∃ past id future, operations = past ++ .openBuilder id :: future ∧
      lifeOf (.builder i) (occurrences {} past) = [] ∧
      (after past).occurrence (.openBuilder id) =
        ⟨.openBuilder id, .builder i, [.builderOpened b.box.entity]⟩ ∧
      ((after past).step (.openBuilder id)).2.ledger.Stands b.box false (.builder i) := by
  obtain ⟨bound, -⟩ := List.getElem?_eq_some_iff.mp found
  obtain ⟨past, id, future, rfl, answered⟩ := opened_in_run (w := {}) (Nat.zero_le i) bound
  obtain ⟨last, box, context, owned, grown⟩ := opened_of_answer answered
  have stands : ((after past).step (.openBuilder id)).2.ledger.Stands box false (.builder i) := by
    refine ⟨⟨box, some context⟩, ?_, rfl, rfl⟩
    change ((after past).step (.openBuilder id)).2.builders[i]? = some ⟨box, some context⟩
    rw [after, grown, last]
    exact List.getElem?_concat_length
  have same : b.box = box := by
    have kept := (keeps_of_run ((after past).step (.openBuilder id)).2 future).boxOf? stands.boxOf?
    have there : (after (past ++ .openBuilder id :: future)).ledger.boxOf? (.builder i) =
        some b.box := Option.map_eq_some_iff.mpr ⟨b, found, rfl⟩
    rw [after, run_append] at there
    exact Option.some.inj (there.symm.trans kept)
  refine ⟨past, id, future, rfl, ?_, ?_, ?_⟩
  · apply lifeOf_absent
    have missing : (after past).builders[i]? = none := by
      apply List.getElem?_eq_none_iff.mpr
      exact Nat.le_of_eq last.symm
    exact Option.map_eq_none_iff.mpr missing
  · have actor : (after past).actor? (.openBuilder id) = some (box, true) := by
      have held : (after past).boxes[id]? = some box := owned
      simp [actor?, held]
    rw [same] at metrics ⊢
    rw [occurrence_eq actor metrics, after, answered]
    rfl
  · rw [same]
    exact stands

theorem life_of_builder {operations : List Operation} {i : Nat} {b : Builder}
    (found : (after operations).builders[i]? = some b)
    (metrics : b.box.store.config.metrics = true) :
    ∃ id life, lifeOf (.builder i) (occurrences {} operations) =
        ⟨.openBuilder id, .builder i, [.builderOpened b.box.entity]⟩ :: life ∧
      IsLife b.box.entity (.builder i) b.isClosed life := by
  obtain ⟨past, id, future, rfl, before, opening, stands⟩ := opening_of_builder found metrics
  obtain ⟨isClosed, ⟨b', found', -, rfl⟩, life⟩ := life_of_run metrics stands future
  obtain rfl : b' = b := by
    rw [after, run_append] at found
    exact Option.some.inj (found'.symm.trans found)
  refine ⟨id, _, ?_, life⟩
  rw [occurrences_append, lifeOf_append, before, List.nil_append, occurrences_cons]
  change lifeOf (.builder i) ((after past).occurrence (.openBuilder id) :: _) = _
  rw [opening]
  exact lifeOf_cons_of_owned rfl _

theorem built_of_answer {i query : Nat} (answered : (w.step (.build i)).1 = .query query) :
    ∃ box context, w.builders[i]? = some ⟨box, some context⟩ ∧ query = w.queries.length ∧
      (w.step (.build i)).2.ledger.Stands box false (.query query) := by
  have deed := deed_of_step w (.build i)
  rw [answered] at deed
  generalize (w.step (.build i)).2 = w' at deed ⊢
  cases deed with
  | told asked reply => contradiction
  | @built _ box context handle engine found done =>
    exact ⟨box, context, found, rfl, ⟨box, some handle⟩, List.getElem?_concat_length, rfl, rfl⟩

/-- The lives of a builder and of the query it built, up to the build and from there on. -/
theorem lives_of_built {past future : List Operation} {i query : Nat} {b : Builder}
    (found : (after (past ++ .build i :: future)).builders[i]? = some b)
    (metrics : b.box.store.config.metrics = true)
    (answered : ((after past).step (.build i)).1 = .query query) :
    ∃ q id before rest,
      (after (past ++ .build i :: future)).queries[query]? = some q ∧ q.box = b.box ∧
      livesOf (.builder i) (.query query) (occurrences {} (past ++ .build i :: future)) =
        ⟨.openBuilder id, .builder i, [.builderOpened b.box.entity]⟩ :: (before ++
          ⟨.build i, .query query,
            [.queryCompiled b.box.entity, .builderClosed b.box.entity false]⟩ :: rest) ∧
      (∀ x ∈ before, WhileOpen b.box.entity (.builder i) x) ∧
      (∀ x ∈ lifeOf (.builder i) rest, AfterClose b.box.entity (.builder i) x) ∧
      IsLife b.box.entity (.query query) q.isClosed (lifeOf (.query query) rest) := by
  obtain ⟨box, context, unbuilt, last, stands⟩ := built_of_answer answered
  have present : (after past).ledger.boxOf? (.builder i) = some box :=
    Option.map_eq_some_iff.mpr ⟨_, unbuilt, rfl⟩
  have same : box = b.box := by
    have kept := (keeps_of_run (after past) (.build i :: future)).boxOf? present
    rw [← after_append] at kept
    have there : (after (past ++ .build i :: future)).ledger.boxOf? (.builder i) = some b.box :=
      Option.map_eq_some_iff.mpr ⟨b, found, rfl⟩
    exact Option.some.inj (kept.symm.trans there)
  subst same
  obtain ⟨id, before, opening, going⟩ := life_of_builder unbuilt metrics
  have closed := closed_by_step present (o := .build i) rfl
  obtain ⟨isClosed, ⟨q, there, box, rfl⟩, life⟩ := life_of_run metrics stands future
  have built : (after past).occurrence (.build i) = ⟨.build i, .query query,
      [.queryCompiled b.box.entity, .builderClosed b.box.entity false]⟩ := by
    rw [occurrence_eq (actor_of_builder unbuilt (Or.inl rfl)) metrics, answered]
    rfl
  have unborn : lifeOf (.query query) (occurrences {} past) = [] := by
    apply lifeOf_absent
    have missing : (after past).queries[query]? = none := by
      apply List.getElem?_eq_none_iff.mpr
      exact Nat.le_of_eq last.symm
    exact Option.map_eq_none_iff.mpr missing
  refine ⟨q, id, before, livesOf (.builder i) (.query query)
    (((after past).step (.build i)).2.occurrences future), ?_, box, ?_, going.going_of_open, ?_, ?_⟩
  · rw [after, run_append]
    exact there
  · have parts : occurrences {} (past ++ .build i :: future) = occurrences {} past ++
        (after past).occurrence (.build i) ::
          ((after past).step (.build i)).2.occurrences future := occurrences_append ..
    have first := livesOf_of_absent (.builder i) unborn
    rw [opening] at first
    rw [parts, built, livesOf, List.filter_append]
    change livesOf _ _ _ ++ _ = _
    rw [first, List.filter_cons_of_pos (by simp [owner?, Operation.asks?])]
    rfl
  · rw [lifeOf_livesOf_left]
    exact late_of_run metrics closed future
  · rw [lifeOf_livesOf_right]
    exact life

theorem events_follow_the_lifecycle {operations : List Operation} {i : Nat} {b : Builder}
    (found : (after operations).builders[i]? = some b)
    (metrics : b.box.store.config.metrics = true) :
    let w := after operations
    let all := occurrences {} operations
    let entity := b.box.entity
    w.events = all.flatMap Occurrence.events ∧
    (∀ x ∈ all, x.owner? = none → (∀ box, x.operation ≠ .openBuilder box) → x.events = []) ∧
    (∃ id life, lifeOf (.builder i) all =
        ⟨.openBuilder id, .builder i, [.builderOpened entity]⟩ :: life ∧
      IsLife entity (.builder i) b.isClosed life ∧
      ((∃ x ∈ life, x.operation = .dropBuilder i) → b.isClosed = true)) ∧
    ∀ past future query, operations = past ++ .build i :: future →
      ((after past).step (.build i)).1 = .query query →
      ∃ q id before rest, w.queries[query]? = some q ∧ q.box = b.box ∧
        livesOf (.builder i) (.query query) all =
          ⟨.openBuilder id, .builder i, [.builderOpened entity]⟩ :: (before ++
            ⟨.build i, .query query, [.queryCompiled entity, .builderClosed entity false]⟩ ::
              rest) ∧
        (∀ x ∈ before, WhileOpen entity (.builder i) x) ∧
        (∀ x ∈ lifeOf (.builder i) rest, AfterClose entity (.builder i) x) ∧
        IsLife entity (.query query) q.isClosed (lifeOf (.query query) rest) ∧
        ((∃ x ∈ lifeOf (.query query) rest, x.operation = .dropQuery query) →
          q.isClosed = true) := by
  intro w all entity
  refine ⟨?_, ?_, ?_, ?_⟩
  · exact events_of_run {} operations
  · intro x member nobody other
    obtain ⟨v, o, rfl⟩ := exists_of_occurrence member
    exact events_of_not_owned nobody other
  · obtain ⟨id, life, opening, isLife⟩ := life_of_builder found metrics
    refine ⟨id, life, opening, isLife, ?_⟩
    rintro ⟨x, member, dropped⟩
    exact isLife.closed_of_released member (by rw [dropped]; rfl)
  · rintro past future query rfl answered
    obtain ⟨q, id, before, rest, there, box, lives, going, late, isLife⟩ :=
      lives_of_built found metrics answered
    refine ⟨q, id, before, rest, there, box, lives, going, late, isLife, ?_⟩
    rintro ⟨x, member, dropped⟩
    exact isLife.closed_of_released member (by rw [dropped]; rfl)

/-- The sample run to the end of its second builder and of the query built by it. -/
def spentRun : List Operation :=
  sampleRun ++ [.dropBuilder 1, .queryHandle 0, .dropQuery 0, .queryHandle 0]

theorem spentRun_follows_the_lifecycle :
    let box : EntityBox := ⟨{ session := ⟨1, by decide⟩ }, "Order", 0⟩
    (after spentRun).builders[1]? = some ⟨box, none⟩ ∧
    ((after (sampleRun.take 12)).step (.build 1)).1 = .query 0 ∧
    (livesOf (.builder 1) (.query 0) (occurrences {} spentRun)).flatMap Occurrence.events =
      [.builderOpened "Order", .conditionAdded "Order" .containsText, .queryCompiled "Order",
        .builderClosed "Order" false, .queryClosed "Order" true, .useAfterClose "Order"] ∧
    ∃ q rest, (after spentRun).queries[0]? = some q ∧
      IsLife "Order" (.query 0) q.isClosed (lifeOf (.query 0) rest) := by
  intro box
  have found : (after spentRun).builders[1]? = some ⟨box, none⟩ := by decide +kernel
  have answered : ((after (sampleRun.take 12)).step (.build 1)).1 = .query 0 := by decide +kernel
  have split : spentRun = sampleRun.take 12 ++ .build 1 :: spentRun.drop 13 := by decide +kernel
  obtain ⟨-, -, -, built⟩ := events_follow_the_lifecycle found rfl
  obtain ⟨q, id, before, rest, there, -, -, -, -, isLife, -⟩ := built _ _ _ split answered
  refine ⟨found, answered, ?_, q, rest, there, isLife⟩
  decide +kernel

end Workspace

end ObjectQuery
