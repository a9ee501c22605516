import ObjectQuery.Proofs.Ownership

/-!
Closed is final and harmless. A builder is closed by being closed, dropped or built, whether or not
the engine agrees to the query; a query by being closed or dropped. What is done afterwards, to the
same owner or to others or to the engine itself, never opens it again, and nothing that is asked of
it reaches the engine.
-/
namespace ObjectQuery

namespace Operation

/-- The owner that has to be open for an operation to succeed. -/
def asks? : Operation → Option Owner
  | .condition builder _ _ | .build builder => some (.builder builder)
  | .queryHandle query => some (.query query)
  | _ => none

def releases? : Operation → Option Owner
  | .closeBuilder builder | .dropBuilder builder => some (.builder builder)
  | .closeQuery query | .dropQuery query => some (.query query)
  | _ => none

/-- The owner that an operation leaves closed, however it ends. -/
def closes? : Operation → Option Owner
  | .build builder => some (.builder builder)
  | o => o.releases?

end Operation

theorem getElem?_concat_of_some {α : Type} {l : List α} {i : Nat} {a : α} (found : l[i]? = some a)
    (b : α) : (l ++ [b])[i]? = some a := by
  obtain ⟨bound, -⟩ := List.getElem?_eq_some_iff.mp found
  rw [List.getElem?_append_left bound, found]

theorem getElem?_set_of_ne {α : Type} {l : List α} {i j : Nat} {a b : α} (found : l[i]? = some a)
    (written : l[j]? = some b) (differ : b ≠ a) (c : α) : (l.set j c)[i]? = some a := by
  have other : j ≠ i := by
    intro same
    rw [same, found] at written
    exact differ (Option.some.inj written).symm
  rw [List.getElem?_set_ne other, found]

namespace Ledger

def boxOf? (l : Ledger) : Owner → Option EntityBox
  | .builder id => l.builders[id]?.map Builder.box
  | .query id => l.queries[id]?.map Query.box

def IsClosed (l : Ledger) (box : EntityBox) : Owner → Prop
  | .builder id => l.builders[id]? = some ⟨box, none⟩
  | .query id => l.queries[id]? = some ⟨box, none⟩

namespace IsClosed

variable {l l' : Ledger} {box : EntityBox} {owner : Owner}

theorem of_owners (closed : l.IsClosed box owner) (builders : l'.builders = l.builders)
    (queries : l'.queries = l.queries) : l'.IsClosed box owner := by
  cases owner with
  | builder id => simpa [IsClosed, builders] using closed
  | query id => simpa [IsClosed, queries] using closed

theorem addBuilder (closed : l.IsClosed box owner) (b : Builder) :
    (l.addBuilder b).IsClosed box owner := by
  cases owner with
  | builder id => exact getElem?_concat_of_some closed b
  | query id => exact closed

theorem addQuery (closed : l.IsClosed box owner) (q : Query) :
    (l.addQuery q).IsClosed box owner := by
  cases owner with
  | builder id => exact closed
  | query id => exact getElem?_concat_of_some closed q

theorem close (closed : l.IsClosed box owner) {id : Nat} {other : EntityBox}
    {context : ContextHandle} (found : l.builders[id]? = some ⟨other, some context⟩)
    (onDrop : Bool) : (l.close id other context onDrop).IsClosed box owner := by
  cases owner with
  | builder i => exact getElem?_set_of_ne closed found (by simp) _
  | query i => exact closed

theorem closeQuery (closed : l.IsClosed box owner) {id : Nat} {other : EntityBox}
    {query : QueryHandle} (found : l.queries[id]? = some ⟨other, some query⟩) (onDrop : Bool) :
    (l.closeQuery id other query onDrop).IsClosed box owner := by
  cases owner with
  | builder i => exact closed
  | query i => exact getElem?_set_of_ne closed found (by simp) _

theorem turn {o : Operation} {a : Answer} (closed : l.IsClosed box owner)
    (turn : Turn l o a l') : l'.IsClosed box owner := by
  cases turn with
  | aside | engine | openRefused | conditionRefused | conditionAdded =>
    exact closed.of_owners rfl rfl
  | opened effects minor found done =>
    exact (closed.addBuilder _).of_owners rfl rfl
  | @buildRefused id other context error engine found failed =>
    refine (IsClosed.close ?_ found false).of_owners rfl rfl
    exact closed.of_owners rfl rfl
  | @built id other context query engine found done =>
    have added : ({ l with engine }.addQuery ⟨other, some query⟩).IsClosed box owner :=
      IsClosed.addQuery (closed.of_owners rfl rfl) _
    exact (added.close found false).of_owners rfl rfl
  | builderReleased release found => exact closed.close found _
  | queryReleased release found => exact closed.closeQuery found _

end IsClosed

end Ledger

namespace Workspace

variable {w : Workspace} {box : EntityBox} {owner : Owner} {o : Operation}

theorem owners_perform (call : EngineCall) :
    (w.perform call).2.builders = w.builders ∧ (w.perform call).2.queries = w.queries := by
  cases call with
  | condition context c =>
    simp only [perform, addCondition]
    split <;> exact ⟨rfl, rfl⟩
  | _ => exact ⟨rfl, rfl⟩

theorem closed_of_step (closed : w.ledger.IsClosed box owner) (o : Operation) :
    (w.step o).2.ledger.IsClosed box owner := by
  cases direct : o.isDirect with
  | false => exact closed.turn (turn_of_step w direct)
  | true =>
    unfold Operation.isDirect at direct
    split at direct
    · rename_i call
      obtain ⟨builders, queries⟩ := owners_perform (w := w) call
      exact closed.of_owners builders queries
    · contradiction

theorem closed_of_run (closed : w.ledger.IsClosed box owner) (operations : List Operation) :
    (w.run operations).2.ledger.IsClosed box owner := by
  induction operations generalizing w with
  | nil => exact closed
  | cons o rest ih => exact ih (closed_of_step closed o)

theorem closed_by_build {id : Nat} (found : w.ledger.boxOf? (.builder id) = some box) :
    (w.step (.build id)).2.ledger.IsClosed box (.builder id) := by
  obtain ⟨⟨_, handle⟩, place, rfl⟩ := Option.map_eq_some_iff.mp found
  have bound : id < w.builders.length := (List.getElem?_eq_some_iff.mp place).1
  rw [step_build place]
  cases handle with
  | none =>
    rw [stepBuild_closed place]
    exact place
  | some context =>
    rcases call : w.engine.compile context with ⟨r, engine⟩
    cases r with
    | error error =>
      rw [stepBuild_refused call]
      exact List.getElem?_set_self bound
    | ok query =>
      rw [stepBuild_ok call]
      exact List.getElem?_set_self bound

theorem closed_by_release {id : Nat} (found : w.ledger.boxOf? (.builder id) = some box)
    (onDrop : Bool) :
    (w.step (if onDrop then .dropBuilder id else .closeBuilder id)).2.ledger.IsClosed box
      (.builder id) := by
  obtain ⟨⟨_, handle⟩, place, rfl⟩ := Option.map_eq_some_iff.mp found
  rw [step_releaseBuilder place]
  cases handle with
  | none =>
    rw [stepReleaseBuilder_closed place]
    exact place
  | some context =>
    rw [stepReleaseBuilder_open]
    exact List.getElem?_set_self (List.getElem?_eq_some_iff.mp place).1

theorem closed_by_releaseQuery {id : Nat} (found : w.ledger.boxOf? (.query id) = some box)
    (onDrop : Bool) :
    (w.step (if onDrop then .dropQuery id else .closeQuery id)).2.ledger.IsClosed box
      (.query id) := by
  obtain ⟨⟨_, handle⟩, place, rfl⟩ := Option.map_eq_some_iff.mp found
  rw [step_releaseQuery place]
  cases handle with
  | none =>
    rw [stepReleaseQuery_closed place]
    exact place
  | some query =>
    rw [stepReleaseQuery_open]
    exact List.getElem?_set_self (List.getElem?_eq_some_iff.mp place).1

theorem closed_by_step (found : w.ledger.boxOf? owner = some box)
    (closing : o.closes? = some owner) : (w.step o).2.ledger.IsClosed box owner := by
  cases o with
  | build builder =>
    obtain rfl := Option.some.inj closing
    exact closed_by_build found
  | closeBuilder builder =>
    obtain rfl := Option.some.inj closing
    exact closed_by_release found false
  | dropBuilder builder =>
    obtain rfl := Option.some.inj closing
    exact closed_by_release found true
  | closeQuery query =>
    obtain rfl := Option.some.inj closing
    exact closed_by_releaseQuery found false
  | dropQuery query =>
    obtain rfl := Option.some.inj closing
    exact closed_by_releaseQuery found true
  | _ => contradiction

theorem step_asks_closed (closed : w.ledger.IsClosed box owner) (asking : o.asks? = some owner) :
    w.step o = (.refused (.useAfterClose box.entity),
      { w with history := box.store.recordings (.useAfterClose box.entity) ++ w.history }) := by
  cases o with
  | condition builder p m =>
    obtain rfl := Option.some.inj asking
    rw [step_condition closed, apply_closed]
    rfl
  | build builder =>
    obtain rfl := Option.some.inj asking
    rw [step_build closed, stepBuild_closed closed]
  | queryHandle query =>
    obtain rfl := Option.some.inj asking
    rw [step_queryHandle closed, queryHandle_closed]
    rfl
  | _ => contradiction

theorem step_releases_closed (closed : w.ledger.IsClosed box owner)
    (releasing : o.releases? = some owner) : w.step o = (.done, w) := by
  cases o with
  | closeBuilder builder =>
    obtain rfl := Option.some.inj releasing
    exact (step_releaseBuilder closed false).trans (stepReleaseBuilder_closed closed false)
  | dropBuilder builder =>
    obtain rfl := Option.some.inj releasing
    exact (step_releaseBuilder closed true).trans (stepReleaseBuilder_closed closed true)
  | closeQuery query =>
    obtain rfl := Option.some.inj releasing
    exact (step_releaseQuery closed false).trans (stepReleaseQuery_closed closed false)
  | dropQuery query =>
    obtain rfl := Option.some.inj releasing
    exact (step_releaseQuery closed true).trans (stepReleaseQuery_closed closed true)
  | _ => contradiction

theorem closed_is_final (operations more : List Operation) (owner : Owner) (box : EntityBox) :
    let w := after operations
    let w' := after (operations ++ more)
    (∀ o, o.closes? = some owner → w.ledger.boxOf? owner = some box →
      (w.step o).2.ledger.IsClosed box owner) ∧
    (w.ledger.IsClosed box owner →
      w'.ledger.IsClosed box owner ∧
      (∀ o, o.asks? = some owner → w'.step o = (.refused (.useAfterClose box.entity),
        { w' with history := box.store.recordings (.useAfterClose box.entity) ++ w'.history })) ∧
      ∀ o, o.releases? = some owner → w'.step o = (.done, w')) := by
  intro w w'
  constructor
  · intro o closing found
    exact closed_by_step found closing
  · intro closed
    have still : w'.ledger.IsClosed box owner := by
      have ran := closed_of_run closed more
      rwa [← after_append] at ran
    refine ⟨still, ?_, ?_⟩
    · intro o asking
      exact step_asks_closed still asking
    · intro o releasing
      exact step_releases_closed still releasing

/-- The first builder is closed by a build that the engine refused, and dropped long after. -/
theorem sampleRun_first_builder_stays_closed :
    let box : EntityBox := ⟨{ session := ⟨1, by decide⟩ }, "Order", 0⟩
    ((after (sampleRun.take 11)).step (.build 0)).2.ledger.IsClosed box (.builder 0) ∧
    (after sampleRun).ledger.IsClosed box (.builder 0) ∧
    ((after sampleRun).step (.condition 0 ⟨⟨1⟩, "note", .text⟩ .isNull)).1 =
      .refused (.useAfterClose "Order") ∧
    (after sampleRun).step (.dropBuilder 0) = (.done, after sampleRun) := by
  intro box
  have refused : (after (sampleRun.take 12)).ledger.IsClosed box (.builder 0) := by
    change (after (sampleRun.take 12)).builders[0]? = some ⟨box, none⟩
    decide +kernel
  have closing := (closed_is_final (sampleRun.take 11) [] (.builder 0) box).1 (.build 0) rfl
    (by decide +kernel)
  have final := (closed_is_final (sampleRun.take 12) (sampleRun.drop 12) (.builder 0) box).2 refused
  rw [List.take_append_drop] at final
  obtain ⟨still, asked, released⟩ := final
  refine ⟨closing, still, ?_, released (.dropBuilder 0) rfl⟩
  rw [asked (.condition 0 ⟨⟨1⟩, "note", .text⟩ .isNull) rfl]

end Workspace

end ObjectQuery
