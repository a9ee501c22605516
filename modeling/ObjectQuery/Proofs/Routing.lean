import ObjectQuery.Proofs.Families
import ObjectQuery.Proofs.History

/-!
Where events go. The events of builders and queries are told from what a client sees: the answer to
an operation and whether the owner was open. Each is then sent by the store that the family of the
owner was founded with. Sinks, the global report and the events recorded at all are exactly what
this rule gives, in order; a store that is configured or routed later sends nothing anew.
-/
namespace ObjectQuery

/-- The events of an operation on an owner of this entity. Releasing is an event only where there
was something to release. -/
def Operation.events (entity : String) (isOpen : Bool) : Operation → Answer → List Event
  | .openBuilder _, .builder _ => [.builderOpened entity]
  | .condition _ _ m, .done => [.conditionAdded entity m.op]
  | .build _, .query _ => [.queryCompiled entity, .builderClosed entity false]
  | .build _, .refused (.engineRejected _ op _) =>
    [.builderClosed entity false, .engineRejected entity op]
  | .closeBuilder _, .done => if isOpen then [.builderClosed entity false] else []
  | .dropBuilder _, .done => if isOpen then [.builderClosed entity true] else []
  | .closeQuery _, .done => if isOpen then [.queryClosed entity false] else []
  | .dropQuery _, .done => if isOpen then [.queryClosed entity true] else []
  | _, .refused (.engineRejected _ op _) => [.engineRejected entity op]
  | _, .refused (.useAfterClose _) => [.useAfterClose entity]
  | _, _ => []

def Effect.isNews : Effect → Bool
  | recorded .. | reportReset => true
  | called .. | noticed _ => false

namespace Workspace

/-- The box of the owner that an operation is done on, or that is to come of it, and whether the
owner is open. -/
def actor? (w : Workspace) : Operation → Option (EntityBox × Bool)
  | .openBuilder box => w.boxes[box]?.map (·, true)
  | .condition builder _ _ | .build builder | .closeBuilder builder | .dropBuilder builder =>
    w.builders[builder]?.map fun b => (b.box, !b.isClosed)
  | .queryHandle query | .closeQuery query | .dropQuery query =>
    w.queries[query]?.map fun q => (q.box, !q.isClosed)
  | _ => none

def emitted (w : Workspace) (o : Operation) (a : Answer) : List (EntityBox × Event) :=
  match w.actor? o with
  | some (box, isOpen) => (o.events box.entity isOpen a).map (box, ·)
  | none => []

def emissions (w : Workspace) (operations : List Operation) : List (EntityBox × Event) :=
  w.along (fun w o => w.emitted o (w.step o).1) operations

def delivered (founders : List EntityBox) (way : Store → Bool)
    (emissions : List (EntityBox × Event)) : List Event :=
  (emissions.filter fun x => founders[x.1.cell]?.any fun founder => way founder.store).map Prod.snd

def news (w : Workspace) (o : Operation) (a : Answer) : List Effect :=
  match o with
  | .resetReport => [.reportReset]
  | o => (w.emitted o a).flatMap fun x => x.1.store.recordings x.2

section News

variable (box : EntityBox)

@[simp] theorem news_recordings (s : Store) (e : Event) :
    (s.recordings e).filter Effect.isNews = s.recordings e := by
  unfold Store.recordings
  split <;> rfl

@[simp] theorem reverse_recordings (s : Store) (e : Event) :
    (s.recordings e).reverse = s.recordings e := by
  unfold Store.recordings
  split <;> rfl

@[simp] theorem news_noticed (n : Notice) (earlier : List Effect) :
    (Effect.noticed n :: earlier).filter Effect.isNews = earlier.filter Effect.isNews := rfl

@[simp] theorem news_called (call : EngineCall) (outcome : Engine.Outcome)
    (earlier : List Effect) :
    (Effect.called call outcome :: earlier).filter Effect.isNews =
      earlier.filter Effect.isNews := rfl

@[simp] theorem news_announcement (context : ContextHandle) (p : Property) (m : Method)
    (earlier : List Effect) :
    (box.announcement context p m :: earlier).filter Effect.isNews =
      earlier.filter Effect.isNews := rfl

@[simp] theorem news_refusal (op : EngineOp) (error : EngineError) :
    (box.refusal op error).filter Effect.isNews =
      box.store.recordings (.engineRejected box.entity op) := by
  simp [EntityBox.refusal]

@[simp] theorem news_opening (context : ContextHandle) :
    (box.opening context).filter Effect.isNews =
      box.store.recordings (.builderOpened box.entity) := by
  simp [EntityBox.opening]

@[simp] theorem news_compiling (query : QueryHandle) :
    (box.compiling query).filter Effect.isNews =
      box.store.recordings (.queryCompiled box.entity) := by
  simp [EntityBox.compiling]

@[simp] theorem news_closing (context : ContextHandle) (onDrop : Bool) :
    (box.closing context onDrop).filter Effect.isNews =
      box.store.recordings (.builderClosed box.entity onDrop) := by
  simp [EntityBox.closing]

@[simp] theorem news_closingQuery (query : QueryHandle) (onDrop : Bool) :
    (box.closingQuery query onDrop).filter Effect.isNews =
      box.store.recordings (.queryClosed box.entity onDrop) := by
  simp [EntityBox.closingQuery]

@[simp] theorem news_trace (call : EngineCall) (outcome : Engine.Outcome) :
    (call.trace outcome).filter Effect.isNews = [] := by
  unfold EngineCall.trace
  split <;> rfl

end News

section Deed

variable {w w' : Workspace} {o : Operation} {a : Answer} {box : EntityBox}

theorem news_properties (box : EntityBox) :
    (w.properties box).2.history.filter Effect.isNews = w.history.filter Effect.isNews := by
  obtain ⟨metadata, cells, effects, leaves, noticed⟩ := properties_leaves (w := w) box
  have none_recorded : effects.filter Effect.isNews = [] := by
    apply List.filter_eq_nil_iff.mpr
    intro e member
    obtain ⟨n, rfl⟩ := noticed e member
    simp [Effect.isNews]
  rw [leaves, List.filter_append, none_recorded, List.nil_append]

theorem news_of_actor {isOpen : Bool} (actor : w.actor? o = some (box, isOpen)) :
    w.news o a = (o.events box.entity isOpen a).flatMap box.store.recordings := by
  have owned : o ≠ .resetReport := by
    rintro rfl
    contradiction
  have sent : w.news o a = (w.emitted o a).flatMap fun x => x.1.store.recordings x.2 := by
    cases o <;> first | rfl | exact absurd rfl owned
  rw [sent, emitted, actor, List.flatMap_map]

theorem news_of_no_actor (nobody : w.actor? o = none) (other : o ≠ .resetReport) :
    w.news o a = [] := by
  have silent : w.emitted o a = [] := by
    rw [emitted, nobody]
  cases o <;> first | exact absurd rfl other | simp [news, silent]

theorem news_of_unknown (absent : w.lacks o = true) : w.news o .unknown = [] := by
  apply news_of_no_actor
  · cases o <;> simp_all [lacks, actor?]
  · rintro rfl
    contradiction

theorem news_of_told {r : Except Failure EntityModel} (asked : w.consulted? o = some box)
    (reply : o.reply? box.entity r = some a) : w.news o a = [] := by
  cases o with
  | openBuilder id =>
    have actor : w.actor? (.openBuilder id) = some (box, true) := by
      have found : w.boxes[id]? = some box := asked
      simp [actor?, found]
    rw [news_of_actor actor]
    cases r with
    | ok model => contradiction
    | error failure =>
      obtain rfl := Option.some.inj reply
      rfl
  | properties | property | propertyOfBuilder => exact news_of_no_actor rfl (by simp)
  | _ => contradiction

theorem news_of_copied {id : Nat} (copied : w.copied? o = some box) :
    w.news o (.box id) = [] := by
  cases o with
  | copyBox | boxOfBuilder | boxOfQuery => exact news_of_no_actor rfl (by simp)
  | _ => contradiction

theorem actor_of_builder {id : Nat} {b : Builder} (found : w.builders[id]? = some b)
    (known : o.asks? = some (.builder id) ∨ o.releases? = some (.builder id)) :
    w.actor? o = some (b.box, !b.isClosed) := by
  cases o with
  | condition i p m | build i | closeBuilder i | dropBuilder i =>
    obtain rfl : i = id := by simpa [Operation.asks?, Operation.releases?] using known
    simp [actor?, found]
  | _ => simp [Operation.asks?, Operation.releases?] at known

theorem actor_of_query {id : Nat} {q : Query} (found : w.queries[id]? = some q)
    (known : o.asks? = some (.query id) ∨ o.releases? = some (.query id)) :
    w.actor? o = some (q.box, !q.isClosed) := by
  cases o with
  | queryHandle i | closeQuery i | dropQuery i =>
    obtain rfl : i = id := by simpa [Operation.asks?, Operation.releases?] using known
    simp [actor?, found]
  | _ => simp [Operation.asks?, Operation.releases?] at known

theorem actor_of_closed {owner : Owner} (closed : w.ledger.IsClosed box owner)
    (known : o.asks? = some owner ∨ o.releases? = some owner) :
    w.actor? o = some (box, false) := by
  cases owner with
  | builder id => exact actor_of_builder closed known
  | query id => exact actor_of_query closed known

theorem events_of_refusal (o : Operation) (entity : String) (isOpen : Bool) :
    o.events entity isOpen (.refused (.useAfterClose entity)) = [.useAfterClose entity] := by
  cases o <;> rfl

theorem events_of_closed {owner : Owner} (releasing : o.releases? = some owner)
    (entity : String) : o.events entity false .done = [] := by
  cases o <;> first | rfl | contradiction

theorem news_of_deed (deed : Deed w o a w') :
    w'.history.filter Effect.isNews =
      (w.news o a).reverse ++ w.history.filter Effect.isNews := by
  have quiet (nothing : w.news o a = [])
      (same : w'.history.filter Effect.isNews = w.history.filter Effect.isNews) :
      w'.history.filter Effect.isNews =
        (w.news o a).reverse ++ w.history.filter Effect.isNews := by
    rw [nothing, same, List.reverse_nil, List.nil_append]
  cases deed with
  | unknown absent => exact quiet (news_of_unknown absent) rfl
  | acted => exact quiet (news_of_no_actor rfl (by simp)) rfl
  | called => exact quiet (news_of_no_actor rfl (by simp)) (by simp)
  | reportReset => rfl
  | boxCopied copied => exact quiet (news_of_copied copied) rfl
  | told asked reply => exact quiet (news_of_told asked reply) (news_properties _)
  | @openRefused id box model w' error engine found resolution failed =>
    have before : w'.history.filter Effect.isNews = w.history.filter Effect.isNews := by
      simpa [resolution] using news_properties (w := w) box
    have actor : w.actor? (.openBuilder id) = some (box, true) := by simp [actor?, found]
    rw [news_of_actor actor]
    simp [Operation.events, before]
  | @opened id box model w' context engine found resolution done =>
    have before : w'.history.filter Effect.isNews = w.history.filter Effect.isNews := by
      simpa [resolution] using news_properties (w := w) box
    have actor : w.actor? (.openBuilder id) = some (box, true) := by simp [actor?, found]
    rw [news_of_actor actor]
    simp [Operation.events, before]
  | conditionRefused found failed =>
    rw [news_of_actor (actor_of_builder found (Or.inl rfl))]
    simp [Operation.events]
  | conditionAdded found done =>
    rw [news_of_actor (actor_of_builder found (Or.inl rfl))]
    simp [Operation.events]
  | buildRefused found failed =>
    rw [news_of_actor (actor_of_builder found (Or.inl rfl))]
    simp [Operation.events]
  | built found done =>
    rw [news_of_actor (actor_of_builder found (Or.inl rfl))]
    simp [Operation.events]
  | @builderReleased _ id box context onDrop release found =>
    cases onDrop <;> obtain rfl := release <;>
      rw [news_of_actor (actor_of_builder found (Or.inr rfl))] <;>
      simp [Operation.events, Builder.isClosed]
  | @queryReleased _ id box query onDrop release found =>
    cases onDrop <;> obtain rfl := release <;>
      rw [news_of_actor (actor_of_query found (Or.inr rfl))] <;>
      simp [Operation.events, Query.isClosed]
  | handleShown found =>
    refine quiet ?_ rfl
    rw [news_of_actor (actor_of_query found (Or.inl rfl))]
    rfl
  | refusedClosed closed asking =>
    rw [news_of_actor (actor_of_closed closed (Or.inl asking)), events_of_refusal]
    simp
  | releasedClosed closed releasing =>
    refine quiet ?_ rfl
    rw [news_of_actor (actor_of_closed closed (Or.inr releasing)), events_of_closed releasing]
    rfl
  | _ => exact quiet (news_of_no_actor rfl (by simp)) rfl

theorem news_of_run (w : Workspace) (operations : List Operation) :
    (w.run operations).2.history.filter Effect.isNews =
      (w.along (fun w o => w.news o (w.step o).1) operations).reverse ++
        w.history.filter Effect.isNews := by
  induction operations generalizing w with
  | nil => rfl
  | cons o rest ih =>
    rw [run, along, List.reverse_append, List.append_assoc, ← news_of_deed (deed_of_step w o)]
    exact ih (w.step o).2

end Deed

section Views

variable {β : Type} {f : Effect → Option β}

theorem takeWhile_isNews (history : List Effect) :
    ((history.filter Effect.isNews).takeWhile (· ≠ .reportReset)).filterMap
        Effect.globalEvent? =
      (history.takeWhile (· ≠ .reportReset)).filterMap Effect.globalEvent? := by
  induction history with
  | nil => rfl
  | cons e earlier ih =>
    cases e with
    | reportReset => rfl
    | called call outcome | noticed n =>
      rw [List.filter_cons_of_neg (by simp [Effect.isNews]), List.takeWhile_cons_of_pos (by simp),
        List.filterMap_cons_none rfl, ih]
    | recorded sink event =>
      rw [List.filter_cons_of_pos rfl, List.takeWhile_cons_of_pos (by simp),
        List.takeWhile_cons_of_pos (by simp)]
      simp only [List.filterMap_cons, ih]

theorem filterMap_news (unseen : f .reportReset = none) (w : Workspace) (o : Operation)
    (a : Answer) :
    (w.news o a).filterMap f =
      ((w.emitted o a).flatMap fun x => x.1.store.recordings x.2).filterMap f := by
  cases o with
  | resetReport => simp [news, emitted, actor?, unseen]
  | _ => rfl

theorem filterMap_along_news (unseen : f .reportReset = none) (w : Workspace)
    (operations : List Operation) :
    (w.along (fun w o => w.news o (w.step o).1) operations).filterMap f =
      ((w.emissions operations).flatMap fun x => x.1.store.recordings x.2).filterMap f := by
  induction operations generalizing w with
  | nil => rfl
  | cons o rest ih =>
    simp only [emissions, along, List.filterMap_append, List.flatMap_append,
      filterMap_news unseen] at ih ⊢
    rw [ih]

/-- What the owners' own stores record is what their founding stores send. -/
theorem filterMap_recordings {f : Effect → Option Event} {way : Store → Bool}
    (sends : ∀ (s : Store) (e : Event),
      (s.recordings e).filterMap f = if way s then [e] else [])
    {founders : List EntityBox} {emissions : List (EntityBox × Event)}
    (kin : ∀ x ∈ emissions, founders[x.1.cell]? = some x.1) :
    (emissions.flatMap fun x => x.1.store.recordings x.2).filterMap f =
      delivered founders way emissions := by
  induction emissions with
  | nil => rfl
  | cons x rest ih =>
    have founder : founders[x.1.cell]? = some x.1 := kin x List.mem_cons_self
    have later := ih fun y member => kin y (List.mem_cons_of_mem x member)
    rw [List.flatMap_cons, List.filterMap_append, sends, later]
    by_cases sent : way x.1.store = true
    · simp [delivered, founder, sent]
    · simp [delivered, founder, sent]

end Views

theorem founders_append (operations more : List Operation) :
    founders (operations ++ more) = founders operations ++ (after operations).along founded more :=
  along_append founded {} operations more

theorem founders_grow {operations : List Operation} {box : EntityBox}
    (founder : (founders operations)[box.cell]? = some box) (more : List Operation) :
    (founders (operations ++ more))[box.cell]? = some box := by
  rw [founders_append, List.getElem?_append_left (List.getElem?_eq_some_iff.mp founder).1]
  exact founder

theorem holds_of_actor {w : Workspace} {o : Operation} {box : EntityBox} {isOpen : Bool}
    (actor : w.actor? o = some (box, isOpen)) : w.Holds box := by
  cases o with
  | openBuilder id =>
    obtain ⟨held, found, same⟩ := Option.map_eq_some_iff.mp actor
    obtain rfl := (Prod.mk.inj same).1
    exact Or.inl (List.mem_of_getElem? found)
  | condition id p m | build id | closeBuilder id | dropBuilder id =>
    obtain ⟨b, found, same⟩ := Option.map_eq_some_iff.mp actor
    obtain rfl := (Prod.mk.inj same).1
    exact holds_of_builder found
  | queryHandle id | closeQuery id | dropQuery id =>
    obtain ⟨q, found, same⟩ := Option.map_eq_some_iff.mp actor
    obtain rfl := (Prod.mk.inj same).1
    exact holds_of_query found
  | _ => contradiction

theorem holds_of_emitted {w : Workspace} {o : Operation} {a : Answer} {x : EntityBox × Event}
    (member : x ∈ w.emitted o a) : w.Holds x.1 := by
  unfold emitted at member
  split at member
  · rename_i box isOpen actor
    obtain ⟨e, -, rfl⟩ := List.mem_map.mp member
    exact holds_of_actor actor
  · contradiction

theorem founder_of_emission (operations : List Operation) :
    ∀ x ∈ emissions {} operations, (founders operations)[x.1.cell]? = some x.1 := by
  induction operations using List.reverseRecOn with
  | nil => simp [emissions, along]
  | append_singleton earlier o ih =>
    intro x member
    rw [emissions, along_concat] at member
    rcases List.mem_append.mp member with before | now
    · exact founders_grow (ih x before) [o]
    · exact founders_grow ((kin_of_after earlier).founder (holds_of_emitted now)) [o]

theorem view_of_after {f : Effect → Option Event} {way : Store → Bool}
    (silent : ∀ e, e.isNews = false → f e = none) (unseen : f .reportReset = none)
    (sends : ∀ (s : Store) (e : Event),
      (s.recordings e).filterMap f = if way s then [e] else [])
    (operations : List Operation) :
    ((after operations).history.filterMap f).reverse =
      delivered (founders operations) way (emissions {} operations) := by
  have news := news_of_run {} operations
  rw [← filterMap_of_silent silent, after, news]
  simp [filterMap_along_news unseen, filterMap_recordings sends (founder_of_emission operations)]

theorem received_of_after (operations : List Operation) (sink : String) :
    (after operations).received sink = delivered (founders operations)
      (fun s => s.config.metrics && s.sink == some sink) (emissions {} operations) := by
  apply view_of_after
  · intro e quiet
    cases e <;> first | rfl | contradiction
  · rfl
  · intro s e
    rcases s with ⟨session, ⟨debug, metrics⟩, route⟩
    cases metrics with
    | false => rfl
    | true =>
      cases route with
      | none => rfl
      | some name =>
        by_cases same : name = sink <;>
          simp [Store.recordings, Effect.eventFor?, same]

theorem events_of_after (operations : List Operation) :
    (after operations).events =
      delivered (founders operations) (·.config.metrics) (emissions {} operations) := by
  apply view_of_after
  · intro e quiet
    cases e <;> first | rfl | contradiction
  · rfl
  · intro s e
    unfold Store.recordings
    split <;> simp_all [Effect.event?]

theorem ne_reset_of_news {w : Workspace} {o : Operation} {a : Answer} (other : o ≠ .resetReport) :
    ∀ e ∈ w.news o a, e ≠ .reportReset := by
  have recorded : ∀ e ∈ (w.emitted o a).flatMap fun x => x.1.store.recordings x.2,
      e ≠ .reportReset := by
    intro e member
    obtain ⟨x, -, sent⟩ := List.mem_flatMap.mp member
    unfold Store.recordings at sent
    split at sent
    · rw [List.mem_singleton.mp sent]
      exact Effect.noConfusion
    · contradiction
  cases o with
  | resetReport => exact absurd rfl other
  | _ => exact recorded

theorem ne_reset_of_along {w : Workspace} {operations : List Operation}
    (unreset : .resetReport ∉ operations) :
    ∀ e ∈ w.along (fun w o => w.news o (w.step o).1) operations, e ≠ .reportReset := by
  induction operations generalizing w with
  | nil => simp [along]
  | cons o rest ih =>
    intro e member
    rw [List.mem_cons, not_or] at unreset
    rcases List.mem_append.mp member with now | later
    · exact ne_reset_of_news (Ne.symm unreset.1) e now
    · exact ih unreset.2 e later

theorem report_of_after {past recent : List Operation}
    (counting : past = [] ∨ ∃ earlier, past = earlier ++ [.resetReport])
    (unreset : .resetReport ∉ recent) :
    (after (past ++ recent)).report = .ofEvents (delivered (founders (past ++ recent))
      (fun s => s.config.metrics && s.sink == none) ((after past).emissions recent)) := by
  have stops : ((after past).history.filter Effect.isNews).takeWhile (· ≠ .reportReset) = [] := by
    rcases counting with rfl | ⟨earlier, rfl⟩
    · rfl
    · rw [after, run_concat]
      rfl
  have fresh := ne_reset_of_along (w := after past) unreset
  have kin : ∀ x ∈ (after past).emissions recent,
      (founders (past ++ recent))[x.1.cell]? = some x.1 := by
    intro x member
    apply founder_of_emission
    rw [emissions, along_append]
    exact List.mem_append_right _ member
  have sends : ∀ (s : Store) (e : Event), (s.recordings e).filterMap Effect.globalEvent? =
      if s.config.metrics && s.sink == none then [e] else [] := by
    intro s e
    rcases s with ⟨session, ⟨debug, metrics⟩, route⟩
    cases metrics <;> cases route <;> rfl
  have history : ((after (past ++ recent)).history.filter Effect.isNews).takeWhile
      (· ≠ .reportReset) =
        ((after past).along (fun w o => w.news o (w.step o).1) recent).reverse := by
    rw [after, run_append]
    change (((after past).run recent).2.history.filter Effect.isNews).takeWhile _ = _
    rw [news_of_run, List.takeWhile_append_of_pos (by simpa using fresh), stops, List.append_nil]
  have counted := filterMap_recordings sends kin
  rw [← filterMap_along_news rfl] at counted
  rw [report, ← takeWhile_isNews, history, List.filterMap_reverse, List.reverse_reverse, counted]

/-- A sink has received, and the report has counted since it was last reset, what the stores that
the families were founded with send there of all that their owners have done. Boxes, builders and
queries stay in the family they came to be in, and the store of a family stays what it was. -/
theorem events_follow_the_founding_store (operations : List Operation) :
    let w := after operations
    let founders := founders operations
    let emissions := emissions {} operations
    (∀ sink, w.received sink =
      delivered founders (fun s => s.config.metrics && s.sink == some sink) emissions) ∧
    (∀ past recent, operations = past ++ recent →
      (past = [] ∨ ∃ earlier, past = earlier ++ [.resetReport]) → .resetReport ∉ recent →
      w.report = .ofEvents (delivered founders (fun s => s.config.metrics && s.sink == none)
        ((after past).emissions recent))) ∧
    w.events = delivered founders (·.config.metrics) emissions ∧
    (∀ x ∈ emissions, founders[x.1.cell]? = some x.1) ∧
    (∀ box, w.Holds box → founders[box.cell]? = some box) ∧
    (∀ more, founders <+: Workspace.founders (operations ++ more) ∧
      w.Keeps (after (operations ++ more))) ∧
    (∀ builder query, (w.step (.build builder)).1 = .query query → ∃ box,
      w.ledger.boxOf? (.builder builder) = some box ∧
      (w.step (.build builder)).2.ledger.boxOf? (.query query) = some box) := by
  intro w founders emissions
  refine ⟨received_of_after operations, ?_, events_of_after operations,
    founder_of_emission operations, fun box held => (kin_of_after operations).founder held, ?_,
    fun builder query => box_of_built⟩
  · rintro past recent rfl counting unreset
    exact report_of_after counting unreset
  · intro more
    constructor
    · rw [founders_append]
      exact List.prefix_append _ _
    · rw [after_append]
      exact keeps_of_run w more

/-- Four families: one founded with a sink, one without metrics, one with another sink after the
first store was routed anew, and one with no sink. The store of the first loses its metrics before
the query over it is closed. -/
def reroutedRun : List Operation :=
  [.engine (.register ⟨"Order", [⟨⟨1⟩, "note", .text⟩]⟩),
    .engine .openSession,
    .lineUp "Order" [.model ⟨"Order", [⟨⟨1⟩, "note", .text⟩]⟩],
    .openStore (HandleCounter.start.peek .session),
    .copyStore 0,
    .copyStore 0,
    .route 0 "audit",
    .configure 1 { metrics := false },
    .newBox 0 "Order",
    .newBox 1 "Order",
    .route 0 "other",
    .newBox 0 "Order",
    .newBox 2 "Order",
    .openBuilder 0,
    .openBuilder 1,
    .openBuilder 2,
    .openBuilder 3,
    .condition 0 ⟨⟨1⟩, "note", .text⟩ .isNull,
    .build 0,
    .resetReport,
    .configure 0 { metrics := false },
    .closeQuery 0,
    .closeBuilder 1,
    .dropBuilder 3]

theorem reroutedRun_events :
    (after reroutedRun).received "audit" =
      [.builderOpened "Order", .conditionAdded "Order" .isNull, .queryCompiled "Order",
        .builderClosed "Order" false, .queryClosed "Order" false] ∧
    (after reroutedRun).received "other" = [.builderOpened "Order"] ∧
    (after reroutedRun).report = .ofEvents [.builderClosed "Order" true] := by
  obtain ⟨received, report, -⟩ := events_follow_the_founding_store reroutedRun
  refine ⟨?_, ?_, ?_⟩
  · rw [received "audit"]
    decide +kernel
  · rw [received "other"]
    decide +kernel
  · have reset : reroutedRun.take 20 = reroutedRun.take 19 ++ [.resetReport] := rfl
    rw [report (reroutedRun.take 20) (reroutedRun.drop 20) rfl (Or.inr ⟨_, reset⟩) (by decide)]
    decide +kernel

end Workspace

end ObjectQuery
