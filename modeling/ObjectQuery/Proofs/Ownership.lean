import ObjectQuery.Proofs.EngineCalls
import ObjectQuery.Proofs.Turns

/-!
Who holds which handle. The live contexts of the engine are those of the open builders, its live
queries those of the open queries, and no number is held twice. The bound on the handles given out
is the last at which they still differ: past it the counter stays and numbers repeat.
-/
namespace ObjectQuery

theorem bind_getElem?_concat {α β : Type} (f : α → Option β) (l : List α) (a : α) (i : Nat) :
    (l ++ [a])[i]?.bind f = if i = l.length then f a else l[i]?.bind f := by
  split
  · rename_i last
    simp [last]
  · rename_i other
    by_cases earlier : i < l.length
    · rw [List.getElem?_append_left earlier]
    · have past : (l ++ [a]).length ≤ i := by
        simp only [List.length_append, List.length_cons, List.length_nil]
        omega
      rw [List.getElem?_eq_none past, List.getElem?_eq_none (by omega)]

theorem bind_getElem?_set {α β : Type} {f : α → Option β} {a : α} (nothing : f a = none)
    (l : List α) (id i : Nat) :
    (l.set id a)[i]?.bind f = if i = id then none else l[i]?.bind f := by
  rw [List.getElem?_set]
  split <;> split <;> simp_all

theorem exists_added {β : Type} {f : Nat → Option β} {k : Nat} (free : f k = none) (b h : β) :
    (∃ i, (if i = k then some b else f i) = some h) ↔ b = h ∨ ∃ i, f i = some h := by
  constructor
  · rintro ⟨i, held⟩
    split at held
    · exact Or.inl (Option.some.inj held)
    · exact Or.inr ⟨i, held⟩
  · rintro (rfl | ⟨i, held⟩)
    · exact ⟨k, if_pos rfl⟩
    · have other : i ≠ k := by
        intro same
        simp [same, free] at held
      exact ⟨i, by rw [if_neg other]; exact held⟩

theorem exists_dropped {β : Type} {f : Nat → Option β} {k : Nat} {b : β} (held : f k = some b)
    (alone : ∀ i, f i = some b → i = k) (h : β) :
    (∃ i, (if i = k then none else f i) = some h) ↔ b ≠ h ∧ ∃ i, f i = some h := by
  constructor
  · rintro ⟨i, kept⟩
    split at kept
    · contradiction
    · rename_i other
      exact ⟨fun same => other (alone i (same ▸ kept)), i, kept⟩
  · rintro ⟨differ, i, kept⟩
    have other : i ≠ k := by
      intro same
      rw [same, held] at kept
      exact differ (Option.some.inj kept)
    exact ⟨i, by rw [if_neg other]; exact kept⟩

/-- Whoever can hold a handle, by its place among the builders or the queries. -/
inductive Owner where
  | builder (id : Nat)
  | query (id : Nat)
  deriving DecidableEq, Repr

structure Distinct (n : Nat) (numberOf? : Owner → Option UInt64) : Prop where
  apart : ∀ x y r, numberOf? x = some r → numberOf? y = some r → x = y
  given : ∀ x r, numberOf? x = some r → r.toNat ≤ n

namespace Distinct

variable {n : Nat} {numberOf? : Owner → Option UInt64}

theorem grow (distinct : Distinct n numberOf?) (owner : Owner) {number : UInt64}
    (next : number.toNat = n + 1) :
    Distinct (n + 1) fun x => if x = owner then some number else numberOf? x where
  apart x y r hx hy := by
    have unheld : ∀ z, numberOf? z ≠ some number := by
      intro z held
      have bound := distinct.given z number held
      omega
    split at hx <;> split at hy
    · simp_all
    · exact absurd (hx ▸ hy) (unheld y)
    · exact absurd (hy ▸ hx) (unheld x)
    · exact distinct.apart x y r hx hy
  given x r hx := by
    split at hx
    · rw [← Option.some.inj hx]
      omega
    · have bound := distinct.given x r hx
      omega

theorem drop (distinct : Distinct n numberOf?) (owner : Owner) :
    Distinct n fun x => if x = owner then none else numberOf? x where
  apart x y r hx hy := by
    split at hx <;> split at hy <;> first | contradiction | exact distinct.apart x y r hx hy
  given x r hx := by
    split at hx
    · contradiction
    · exact distinct.given x r hx

end Distinct

namespace Ledger

def numberOf? (l : Ledger) : Owner → Option UInt64
  | .builder id => (l.contextOf? id).map Handle.raw
  | .query id => (l.queryOf? id).map Handle.raw

variable {l : Ledger}

theorem contextOf?_addBuilder (b : Builder) (i : Nat) :
    (l.addBuilder b).contextOf? i = if i = l.builders.length then b.handle else l.contextOf? i :=
  bind_getElem?_concat Builder.handle l.builders b i

theorem queryOf?_addQuery (q : Query) (i : Nat) :
    (l.addQuery q).queryOf? i = if i = l.queries.length then q.handle else l.queryOf? i :=
  bind_getElem?_concat Query.handle l.queries q i

theorem contextOf?_close (id : Nat) (box : EntityBox) (context : ContextHandle) (onDrop : Bool)
    (i : Nat) :
    (l.close id box context onDrop).contextOf? i = if i = id then none else l.contextOf? i :=
  bind_getElem?_set rfl l.builders id i

theorem queryOf?_closeQuery (id : Nat) (box : EntityBox) (query : QueryHandle) (onDrop : Bool)
    (i : Nat) :
    (l.closeQuery id box query onDrop).queryOf? i = if i = id then none else l.queryOf? i :=
  bind_getElem?_set rfl l.queries id i

theorem exists_contextOf?_addBuilder (box : EntityBox) (context h : ContextHandle) :
    (∃ i, (l.addBuilder ⟨box, some context⟩).contextOf? i = some h) ↔
      context = h ∨ ∃ i, l.contextOf? i = some h := by
  have free : l.contextOf? l.builders.length = none := by simp [contextOf?]
  simp only [contextOf?_addBuilder]
  exact exists_added free context h

theorem exists_queryOf?_addQuery (box : EntityBox) (query h : QueryHandle) :
    (∃ i, (l.addQuery ⟨box, some query⟩).queryOf? i = some h) ↔
      query = h ∨ ∃ i, l.queryOf? i = some h := by
  have free : l.queryOf? l.queries.length = none := by simp [queryOf?]
  simp only [queryOf?_addQuery]
  exact exists_added free query h

theorem contextOf?_of_found {id : Nat} {box : EntityBox} {context : ContextHandle}
    (found : l.builders[id]? = some ⟨box, some context⟩) : l.contextOf? id = some context := by
  simp [contextOf?, found]

theorem queryOf?_of_found {id : Nat} {box : EntityBox} {query : QueryHandle}
    (found : l.queries[id]? = some ⟨box, some query⟩) : l.queryOf? id = some query := by
  simp [queryOf?, found]

theorem numberOf?_addBuilder (box : EntityBox) (context : ContextHandle) :
    (l.addBuilder ⟨box, some context⟩).numberOf? =
      fun x => if x = .builder l.builders.length then some context.raw else l.numberOf? x := by
  funext x
  cases x with
  | builder i =>
    simp only [numberOf?, contextOf?_addBuilder, Owner.builder.injEq]
    split <;> rfl
  | query i => rfl

theorem numberOf?_addQuery (box : EntityBox) (query : QueryHandle) :
    (l.addQuery ⟨box, some query⟩).numberOf? =
      fun x => if x = .query l.queries.length then some query.raw else l.numberOf? x := by
  funext x
  cases x with
  | builder i => rfl
  | query i =>
    simp only [numberOf?, queryOf?_addQuery, Owner.query.injEq]
    split <;> rfl

theorem numberOf?_close (id : Nat) (box : EntityBox) (context : ContextHandle) (onDrop : Bool) :
    (l.close id box context onDrop).numberOf? =
      fun x => if x = .builder id then none else l.numberOf? x := by
  funext x
  cases x with
  | builder i =>
    simp only [numberOf?, contextOf?_close, Owner.builder.injEq]
    split <;> rfl
  | query i => rfl

theorem numberOf?_closeQuery (id : Nat) (box : EntityBox) (query : QueryHandle) (onDrop : Bool) :
    (l.closeQuery id box query onDrop).numberOf? =
      fun x => if x = .query id then none else l.numberOf? x := by
  funext x
  cases x with
  | builder i => rfl
  | query i =>
    simp only [numberOf?, queryOf?_closeQuery, Owner.query.injEq]
    split <;> rfl

end Ledger

/-- Accounts of a ledger after `n` handles have been given out. -/
structure Owned (n : Nat) (l : Ledger) : Prop where
  counter : l.engine.counter.next.toNat = min (n + 1) (UInt64.size - 1)
  contexts : ∀ h, (l.engine.contexts.get? h).isSome ↔ ∃ i, l.contextOf? i = some h
  queries : ∀ h, (l.engine.queries.get? h).isSome ↔ ∃ i, l.queryOf? i = some h
  numbers : Distinct n l.numberOf?
  released : l.engine.doubleReleases = 0

namespace Owned

variable {n : Nat} {l : Ledger}

theorem fresh : Owned 0 {} where
  counter := by decide
  contexts h := by simp [Ledger.contextOf?]
  queries h := by simp [Ledger.queryOf?]
  numbers := by
    constructor <;> intro x <;> cases x <;>
      simp [Ledger.numberOf?, Ledger.contextOf?, Ledger.queryOf?]
  released := rfl

theorem write (owned : Owned n l) (effects : List Effect) : Owned n (l.write effects) :=
  ⟨owned.counter, owned.contexts, owned.queries, owned.numbers, owned.released⟩

theorem of_engine (owned : Owned n l) {engine : Engine}
    (counter : engine.counter = l.engine.counter)
    (contexts : ∀ h, (engine.contexts.get? h).isSome = (l.engine.contexts.get? h).isSome)
    (queries : engine.queries = l.engine.queries)
    (released : engine.doubleReleases = l.engine.doubleReleases) :
    Owned n { l with engine } where
  counter := by rw [← owned.counter, counter]
  contexts h := by rw [contexts h]; exact owned.contexts h
  queries h := by rw [queries]; exact owned.queries h
  numbers := owned.numbers
  released := released.trans owned.released

theorem of_refused (owned : Owned n l) (call : EngineCall) (left : List PendingFault) :
    Owned n { l with engine := { l.engine.note call with faults := left } } :=
  owned.of_engine rfl (fun _ => rfl) rfl rfl

theorem next_eq (owned : Owned n l) (fits : n + 1 ≤ UInt64.size - 1) :
    l.engine.counter.next.toNat = n + 1 := by
  rw [owned.counter]
  exact Nat.min_eq_left fits

theorem counter_advance (owned : Owned n l) (fits : n + 1 ≤ UInt64.size - 1) :
    l.engine.counter.advance.next.toNat = min (n + 1 + 1) (UInt64.size - 1) := by
  rw [HandleCounter.toNat_next_advance, owned.next_eq fits]

theorem session (owned : Owned n l) (fits : n + 1 ≤ UInt64.size - 1) :
    Owned (n + 1) { l with engine := l.engine.openSession.2 } where
  counter := owned.counter_advance fits
  contexts := owned.contexts
  queries := owned.queries
  numbers := ⟨owned.numbers.apart, fun x r held => Nat.le_succ_of_le (owned.numbers.given x r held)⟩
  released := owned.released

theorem opened (owned : Owned n l) (fits : n + 1 ≤ UInt64.size - 1) {box : EntityBox}
    {context : ContextHandle} {engine : Engine}
    (done : l.engine.createContext box.store.session box.entity = (.ok context, engine)) :
    Owned (n + 1) ({ l with engine }.addBuilder ⟨box, some context⟩) := by
  obtain ⟨-, -, next, rfl⟩ := Engine.createContext_ok done
  have number : context.raw.toNat = n + 1 := by rw [next]; exact owned.next_eq fits
  refine ⟨owned.counter_advance fits, ?_, owned.queries, ?_, owned.released⟩
  · intro h
    refine Iff.trans ?_ (Ledger.exists_contextOf?_addBuilder box context h).symm
    refine Iff.trans ?_ (or_congr_right (owned.contexts h))
    simp only [Ledger.addBuilder, Table.get?_insert]
    split <;> simp_all
  · rw [Ledger.numberOf?_addBuilder]
    exact owned.numbers.grow _ number

theorem added (owned : Owned n l) {context : ContextHandle} {c : Condition} {engine : Engine}
    (done : l.engine.addCondition context c = (.ok (), engine)) :
    Owned n { l with engine } := by
  obtain ⟨-, rfl⟩ := Engine.addCondition_ok done
  refine owned.of_engine rfl ?_ rfl rfl
  intro h
  rw [Table.get?_modify]
  split <;> simp

theorem compiled (owned : Owned n l) (fits : n + 1 ≤ UInt64.size - 1) (box : EntityBox)
    {context : ContextHandle} {query : QueryHandle} {engine : Engine}
    (done : l.engine.compile context = (.ok query, engine)) :
    Owned (n + 1) ({ l with engine }.addQuery ⟨box, some query⟩) := by
  obtain ⟨ctx, -, next, rfl⟩ := Engine.compile_ok done
  have number : query.raw.toNat = n + 1 := by rw [next]; exact owned.next_eq fits
  refine ⟨owned.counter_advance fits, owned.contexts, ?_, ?_, owned.released⟩
  · intro h
    refine Iff.trans ?_ (Ledger.exists_queryOf?_addQuery box query h).symm
    refine Iff.trans ?_ (or_congr_right (owned.queries h))
    simp only [Ledger.addQuery, Table.get?_insert]
    split <;> simp_all
  · rw [Ledger.numberOf?_addQuery]
    exact owned.numbers.grow _ number

theorem context_live (owned : Owned n l) {id : Nat} {context : ContextHandle}
    (held : l.contextOf? id = some context) : (l.engine.contexts.get? context).isSome :=
  (owned.contexts context).mpr ⟨id, held⟩

theorem query_live (owned : Owned n l) {id : Nat} {query : QueryHandle}
    (held : l.queryOf? id = some query) : (l.engine.queries.get? query).isSome :=
  (owned.queries query).mpr ⟨id, held⟩

theorem context_alone (owned : Owned n l) {i j : Nat} {context : ContextHandle}
    (hi : l.contextOf? i = some context) (hj : l.contextOf? j = some context) : i = j := by
  have same := owned.numbers.apart (.builder i) (.builder j) context.raw
    (by simp [Ledger.numberOf?, hi]) (by simp [Ledger.numberOf?, hj])
  exact Owner.builder.inj same

theorem query_alone (owned : Owned n l) {i j : Nat} {query : QueryHandle}
    (hi : l.queryOf? i = some query) (hj : l.queryOf? j = some query) : i = j := by
  have same := owned.numbers.apart (.query i) (.query j) query.raw
    (by simp [Ledger.numberOf?, hi]) (by simp [Ledger.numberOf?, hj])
  exact Owner.query.inj same

theorem closed (owned : Owned n l) {id : Nat} {context : ContextHandle}
    (held : l.contextOf? id = some context) (box : EntityBox) (onDrop : Bool) :
    Owned n (l.close id box context onDrop) := by
  have destroyed := Engine.destroyContext_live (owned.context_live held)
  refine ⟨?_, ?_, ?_, ?_, ?_⟩
  · simp only [Ledger.close, destroyed]
    exact owned.counter
  · intro h
    simp only [Ledger.contextOf?_close]
    rw [exists_dropped held (fun i hi => owned.context_alone hi held), ← owned.contexts h]
    simp only [Ledger.close, destroyed, Table.get?_erase]
    split <;> simp_all
  · simp only [Ledger.close, destroyed]
    exact owned.queries
  · rw [Ledger.numberOf?_close]
    exact owned.numbers.drop _
  · simp only [Ledger.close, destroyed]
    exact owned.released

theorem closedQuery (owned : Owned n l) {id : Nat} {query : QueryHandle}
    (held : l.queryOf? id = some query) (box : EntityBox) (onDrop : Bool) :
    Owned n (l.closeQuery id box query onDrop) := by
  have destroyed := Engine.destroyQuery_live (owned.query_live held)
  refine ⟨?_, ?_, ?_, ?_, ?_⟩
  · simp only [Ledger.closeQuery, destroyed]
    exact owned.counter
  · simp only [Ledger.closeQuery, destroyed]
    exact owned.contexts
  · intro h
    simp only [Ledger.queryOf?_closeQuery]
    rw [exists_dropped held (fun i hi => owned.query_alone hi held), ← owned.queries h]
    simp only [Ledger.closeQuery, destroyed, Table.get?_erase]
    split <;> simp_all
  · rw [Ledger.numberOf?_closeQuery]
    exact owned.numbers.drop _
  · simp only [Ledger.closeQuery, destroyed]
    exact owned.released

theorem acted (owned : Owned n l) {action : Engine.Action} (indirect : ∀ call, action ≠ .call call)
    (fits : n + (Answer.engine (l.engine.act action).1).handles ≤ UInt64.size - 1) :
    Owned (n + (Answer.engine (l.engine.act action).1).handles)
      { l with engine := (l.engine.act action).2 } := by
  cases action with
  | register model => exact owned.of_engine rfl (fun _ => rfl) rfl rfl
  | openSession => exact owned.session fits
  | failNext op error =>
    cases fallible : op.isFallible with
    | true =>
      rw [Engine.act_failNext_fallible fallible]
      exact owned.of_engine rfl (fun _ => rfl) rfl rfl
    | false =>
      rw [Engine.act_failNext_infallible fallible]
      exact owned
  | clearJournal => exact owned.of_engine rfl (fun _ => rfl) rfl rfl
  | resizeJournal capacity => exact owned.of_engine rfl (fun _ => rfl) rfl rfl
  | call call => exact absurd rfl (indirect call)

theorem turn (owned : Owned n l) {o : Operation} {a : Answer} {l' : Ledger} (turn : Turn l o a l')
    (fits : n + a.handles ≤ UInt64.size - 1) : Owned (n + a.handles) l' := by
  cases turn with
  | aside added effects plain minor unmet =>
    rw [Answer.handles_of_plain plain]
    exact Owned.write (l := { l with boxes := l.boxes ++ added })
      ⟨owned.counter, owned.contexts, owned.queries, owned.numbers, owned.released⟩ effects
  | engine indirect => exact owned.acted indirect fits
  | openRefused effects minor found failed =>
    obtain ⟨left, rfl, -⟩ := Engine.createContext_error failed
    exact ((owned.of_refused _ left).write _).write _
  | opened effects minor found done => exact ((owned.opened fits done).write _).write _
  | conditionRefused found failed =>
    obtain ⟨left, rfl, -⟩ := Engine.addCondition_error failed
    exact ((owned.of_refused _ left).write _).write _
  | conditionAdded found done => exact ((owned.added done).write _).write _
  | @buildRefused id box context error engine found failed =>
    obtain ⟨left, rfl, -⟩ := Engine.compile_error failed
    have held : l.contextOf? id = some context := Ledger.contextOf?_of_found found
    exact (((owned.of_refused _ left).write _).closed held box false).write _
  | @built id box context query engine found done =>
    have held : l.contextOf? id = some context := Ledger.contextOf?_of_found found
    exact (((owned.compiled fits box done).write _).write _).closed held box false
  | builderReleased release found =>
    exact owned.closed (Ledger.contextOf?_of_found found) _ _
  | queryReleased release found =>
    exact owned.closedQuery (Ledger.queryOf?_of_found found) _ _

theorem course (owned : Owned n l) {t : Transcript} {l' : Ledger} (course : Course l t l')
    (fits : n + t.handles ≤ UInt64.size - 1) : Owned (n + t.handles) l' := by
  induction course with
  | refl => exact owned
  | step course turn ih =>
    rw [Transcript.handles_append, Transcript.handles_single, ← Nat.add_assoc] at fits ⊢
    exact (ih (by omega)).turn turn fits

theorem of_course {t : Transcript} (course : Course {} t l)
    (few : t.handles ≤ UInt64.size - 1) : Owned t.handles l := by
  have owned := fresh.course course (by omega)
  rwa [Nat.zero_add] at owned

end Owned

/-- What holds at first and is kept by every turn holds after a course, as long as there are
handles to give out. -/
theorem Course.keeps {P : Transcript → Ledger → Prop} {t : Transcript} {l : Ledger}
    (course : Course {} t l) (few : t.handles ≤ UInt64.size - 1) (first : P [] {})
    (step : ∀ {t : Transcript} {l l' : Ledger} {o : Operation} {a : Answer},
      Owned t.handles l → P t l → Turn l o a l' → t.handles + a.handles ≤ UInt64.size - 1 →
        P (t ++ [(o, a)]) l') : P t l := by
  induction course with
  | refl => exact first
  | @step t l l' o a course turn ih =>
    rw [Transcript.handles_append, Transcript.handles_single] at few
    have before : t.handles ≤ UInt64.size - 1 := by omega
    exact step (Owned.of_course course before) (ih before) turn few

theorem nodup_filterMap {α β : Type} {f : α → Option β} {l : List α}
    (alone : ∀ (i j : Nat) (b : β), l[i]?.bind f = some b → l[j]?.bind f = some b → i = j) :
    (l.filterMap f).Nodup := by
  induction l with
  | nil => simp
  | cons a rest ih =>
    have tail : (rest.filterMap f).Nodup := by
      apply ih
      intro i j b hi hj
      have same := alone (i + 1) (j + 1) b hi hj
      omega
    rw [List.filterMap_cons]
    split
    · exact tail
    · rename_i b value
      refine List.nodup_cons.mpr ⟨?_, tail⟩
      intro again
      obtain ⟨c, member, same⟩ := List.mem_filterMap.mp again
      obtain ⟨j, place⟩ := List.mem_iff_getElem?.mp member
      have first := alone 0 (j + 1) b (by simpa using value) (by simpa [place] using same)
      omega

theorem exists_bind_getElem?_iff {α β : Type} (f : α → Option β) (l : List α) (b : β) :
    (∃ i : Nat, l[i]?.bind f = some b) ↔ ∃ a ∈ l, f a = some b := by
  constructor
  · rintro ⟨i, value⟩
    obtain ⟨a, place, holds⟩ := Option.bind_eq_some_iff.mp value
    exact ⟨a, List.mem_of_getElem? place, holds⟩
  · rintro ⟨a, member, holds⟩
    obtain ⟨i, place⟩ := List.mem_iff_getElem?.mp member
    exact ⟨i, by simp [place, holds]⟩

theorem size_eq_countP {κ α β : Type} [Ord κ] [Std.TransOrd κ] [Std.LawfulEqOrd κ]
    [DecidableEq κ] {t : Table κ α} {f : β → Option κ} {l : List β}
    (held : ∀ k, (t.get? k).isSome ↔ ∃ i : Nat, l[i]?.bind f = some k)
    (alone : ∀ (i j : Nat) (k : κ), l[i]?.bind f = some k → l[j]?.bind f = some k → i = j) :
    t.size = l.countP fun b => (f b).isSome := by
  have same : t.keys.Perm (l.filterMap f) := by
    refine (List.perm_ext_iff_of_nodup t.nodup_keys (nodup_filterMap alone)).mpr ?_
    intro k
    rw [Table.mem_keys_iff, held, List.mem_filterMap]
    exact exists_bind_getElem?_iff f l k
  rw [← List.length_filterMap_eq_countP, ← same.length_eq]
  simp [Table.size, Table.keys]

theorem Owned.liveContexts_eq {n : Nat} {l : Ledger} (owned : Owned n l) :
    l.engine.liveContexts = l.builders.countP fun b => !b.isClosed := by
  have size := size_eq_countP owned.contexts fun _ _ _ hi hj => owned.context_alone hi hj
  simpa [Engine.liveContexts, Builder.isClosed] using size

theorem Owned.liveQueries_eq {n : Nat} {l : Ledger} (owned : Owned n l) :
    l.engine.liveQueries = l.queries.countP fun q => !q.isClosed := by
  have size := size_eq_countP owned.queries fun _ _ _ hi hj => owned.query_alone hi hj
  simpa [Engine.liveQueries, Query.isClosed] using size

namespace Workspace

theorem owned_after {operations : List Operation}
    (indirect : ∀ o ∈ operations, o.isDirect = false)
    (few : (transcript operations).handles ≤ UInt64.size - 1) :
    Owned (transcript operations).handles (after operations).ledger :=
  Owned.of_course (course_of_after indirect) few

theorem open_owners_hold_live_handles {operations : List Operation}
    (indirect : ∀ o ∈ operations, o.isDirect = false)
    (few : (transcript operations).handles ≤ UInt64.size - 1) :
    let w := after operations
    (∀ h, h ∈ w.engine.contexts.keys ↔ ∃ b ∈ w.builders, b.handle = some h) ∧
    (∀ h, h ∈ w.engine.queries.keys ↔ ∃ q ∈ w.queries, q.handle = some h) ∧
    (∀ x y number, w.ledger.numberOf? x = some number → w.ledger.numberOf? y = some number →
      x = y) ∧
    w.engine.doubleReleases = 0 ∧
    w.engine.liveContexts = w.builders.countP (fun b => !b.isClosed) ∧
    w.engine.liveQueries = w.queries.countP (fun q => !q.isClosed) ∧
    ((∀ b ∈ w.builders, b.isClosed = true) → (∀ q ∈ w.queries, q.isClosed = true) →
      w.engine.liveContexts = 0 ∧ w.engine.liveQueries = 0) := by
  intro w
  have owned := owned_after indirect few
  have contexts : w.engine.liveContexts = w.builders.countP fun b => !b.isClosed :=
    owned.liveContexts_eq
  have queries : w.engine.liveQueries = w.queries.countP fun q => !q.isClosed :=
    owned.liveQueries_eq
  refine ⟨?_, ?_, owned.numbers.apart, owned.released, contexts, queries, ?_⟩
  · intro h
    rw [Table.mem_keys_iff]
    exact (owned.contexts h).trans (exists_bind_getElem?_iff Builder.handle w.builders h)
  · intro h
    rw [Table.mem_keys_iff]
    exact (owned.queries h).trans (exists_bind_getElem?_iff Query.handle w.queries h)
  · intro builders_closed queries_closed
    rw [contexts, queries]
    constructor
    · exact List.countP_eq_zero.mpr fun b member => by simp [builders_closed b member]
    · exact List.countP_eq_zero.mpr fun q member => by simp [queries_closed q member]

theorem sampleRun_holds_live_handles :
    (∀ o ∈ sampleRun, o.isDirect = false) ∧
    (transcript sampleRun).handles ≤ UInt64.size - 1 ∧
    (after sampleRun).engine.doubleReleases = 0 ∧
    (after sampleRun).engine.liveContexts = 1 ∧ (after sampleRun).engine.liveQueries = 1 := by
  have indirect : ∀ o ∈ sampleRun, o.isDirect = false := by decide
  have few : (transcript sampleRun).handles ≤ UInt64.size - 1 :=
    Nat.le_trans (handles_le_length sampleRun) (by decide)
  obtain ⟨-, -, -, released, contexts, queries, -⟩ := open_owners_hold_live_handles indirect few
  refine ⟨indirect, few, released, ?_, ?_⟩
  · rw [contexts]
    decide +kernel
  · rw [queries]
    decide +kernel

end Workspace

end ObjectQuery
