import ObjectQuery.Proofs.Closed

/-!
What an open handle shows. The context of a builder holds the conditions that were accepted from
that builder, in the order of the calls; a query holds those of the builder it was built from, and
nothing that happens later changes them.
-/
namespace ObjectQuery

namespace Transcript

def acceptedIn (id : Nat) : Operation × Answer → Option Condition
  | (.condition builder p m, .done) => if builder = id then some ⟨p.id, m.test⟩ else none
  | _ => none

/-- The conditions accepted from a builder, oldest first. -/
def accepted (t : Transcript) (id : Nat) : List Condition := t.filterMap (acceptedIn id)

theorem accepted_concat (t : Transcript) (entry : Operation × Answer) (id : Nat) :
    accepted (t ++ [entry]) id = t.accepted id ++ (acceptedIn id entry).toList := by
  rw [accepted, List.filterMap_append]
  cases added : acceptedIn id entry <;> simp [accepted, added]

theorem acceptedIn_eq_some {id : Nat} {o : Operation} {a : Answer} {c : Condition}
    (met : acceptedIn id (o, a) = some c) :
    ∃ p m, o = .condition id p m ∧ a = .done ∧ c = ⟨p.id, m.test⟩ := by
  unfold acceptedIn at met
  split at met
  · rename_i entry builder p m same
    split at met
    · rename_i here
      obtain ⟨rfl, rfl⟩ := Prod.mk.inj same
      exact ⟨p, m, by rw [here], rfl, (Option.some.inj met).symm⟩
    · contradiction
  · contradiction

theorem acceptedIn_eq_none {id : Nat} {o : Operation} {a : Answer}
    (unmet : ∀ builder p m, o = .condition builder p m → a ≠ .done) :
    acceptedIn id (o, a) = none := by
  cases met : acceptedIn id (o, a) with
  | none => rfl
  | some c =>
    obtain ⟨p, m, condition, done, -⟩ := acceptedIn_eq_some met
    exact absurd done (unmet id p m condition)

end Transcript

open Transcript

theorem Owned.context_not_next {n : Nat} {l : Ledger} (owned : Owned n l)
    (fits : n + 1 ≤ UInt64.size - 1) {i : Nat} {h : ContextHandle}
    (held : l.contextOf? i = some h) : l.engine.counter.peek .context ≠ h := by
  intro same
  have bound := owned.numbers.given (.builder i) h.raw (by simp [Ledger.numberOf?, held])
  have next := owned.next_eq fits
  have number : h.raw = l.engine.counter.next := by rw [← same]; rfl
  rw [number] at bound
  omega

theorem Owned.query_not_next {n : Nat} {l : Ledger} (owned : Owned n l)
    (fits : n + 1 ≤ UInt64.size - 1) {i : Nat} {h : QueryHandle}
    (held : l.queryOf? i = some h) : l.engine.counter.peek .query ≠ h := by
  intro same
  have bound := owned.numbers.given (.query i) h.raw (by simp [Ledger.numberOf?, held])
  have next := owned.next_eq fits
  have number : h.raw = l.engine.counter.next := by rw [← same]; rfl
  rw [number] at bound
  omega

theorem Owned.context_after_close {n : Nat} {l : Ledger} (owned : Owned n l) {id i : Nat}
    {context h : ContextHandle} (box : EntityBox) (onDrop : Bool)
    (closed : l.contextOf? id = some context)
    (held : (l.close id box context onDrop).contextOf? i = some h) :
    l.contextOf? i = some h ∧
      (l.close id box context onDrop).engine.contextConditions? h =
        l.engine.contextConditions? h := by
  rw [Ledger.contextOf?_close] at held
  split at held
  · contradiction
  · rename_i other
    have differ : context ≠ h := by
      intro same
      subst same
      exact other (owned.context_alone held closed)
    refine ⟨held, ?_⟩
    simp [Engine.contextConditions?, Ledger.close, Engine.get?_contexts_destroyContext, differ]

theorem Owned.query_after_close {n : Nat} {l : Ledger} (owned : Owned n l) {id j : Nat}
    {query h : QueryHandle} (box : EntityBox) (onDrop : Bool)
    (closed : l.queryOf? id = some query)
    (held : (l.closeQuery id box query onDrop).queryOf? j = some h) :
    l.queryOf? j = some h ∧
      (l.closeQuery id box query onDrop).engine.compiledConditions? h =
        l.engine.compiledConditions? h := by
  rw [Ledger.queryOf?_closeQuery] at held
  split at held
  · contradiction
  · rename_i other
    have differ : query ≠ h := by
      intro same
      subst same
      exact other (owned.query_alone held closed)
    refine ⟨held, ?_⟩
    simp [Engine.compiledConditions?, Ledger.closeQuery, Engine.get?_queries_destroyQuery, differ]

theorem compiledConditions?_close (l : Ledger) (id : Nat) (box : EntityBox)
    (context : ContextHandle) (onDrop : Bool) (h : QueryHandle) :
    (l.close id box context onDrop).engine.compiledConditions? h =
      l.engine.compiledConditions? h := by
  simp [Engine.compiledConditions?, Ledger.close, Engine.queries_destroyContext]

section Turn

variable {n : Nat} {l l' : Ledger} {o : Operation} {a : Answer}

/-- A builder that is open after a turn was just opened, or was open before and shows besides what
it showed then the condition the turn added to it. -/
theorem context_after_turn (owned : Owned n l) (turn : Turn l o a l')
    (fits : n + a.handles ≤ UInt64.size - 1) {i : Nat} {h : ContextHandle}
    (held : l'.contextOf? i = some h) :
    (l.contextOf? i = some h ∧ ∀ shown, l.engine.contextConditions? h = some shown →
      l'.engine.contextConditions? h = some (shown ++ (acceptedIn i (o, a)).toList)) ∨
    (i = l.builders.length ∧ acceptedIn i (o, a) = none ∧
      l'.engine.contextConditions? h = some []) := by
  have kept : acceptedIn i (o, a) = none → l.contextOf? i = some h →
      l'.engine.contextConditions? h = l.engine.contextConditions? h →
      l.contextOf? i = some h ∧ ∀ shown, l.engine.contextConditions? h = some shown →
        l'.engine.contextConditions? h = some (shown ++ (acceptedIn i (o, a)).toList) := by
    intro none_added before same
    refine ⟨before, ?_⟩
    intro shown showing
    rw [same, showing, none_added, Option.toList_none, List.append_nil]
  cases turn with
  | aside added effects plain minor unmet =>
    exact Or.inl (kept (acceptedIn_eq_none unmet) held rfl)
  | engine indirect =>
    refine Or.inl (kept rfl held ?_)
    simp only [Engine.contextConditions?, (Engine.act_tables indirect).1]
  | openRefused effects minor found failed =>
    obtain ⟨left, rfl, -⟩ := Engine.createContext_error failed
    exact Or.inl (kept rfl held rfl)
  | @opened id box context engine effects minor found done =>
    obtain ⟨-, -, next, rfl⟩ := Engine.createContext_ok done
    change (Ledger.addBuilder _ _).contextOf? i = some h at held
    rw [Ledger.contextOf?_addBuilder] at held
    split at held
    · rename_i last
      have same : context = h := Option.some.inj held
      subst same
      refine Or.inr ⟨last, rfl, ?_⟩
      simp [Engine.contextConditions?, Ledger.addBuilder, Table.get?_insert]
    · have differ : context ≠ h := by
        rw [next]
        exact owned.context_not_next fits held
      refine Or.inl (kept rfl held ?_)
      simp [Engine.contextConditions?, Ledger.addBuilder, Table.get?_insert, differ, Engine.note]
  | conditionRefused found failed =>
    obtain ⟨left, rfl, -⟩ := Engine.addCondition_error failed
    exact Or.inl (kept rfl held rfl)
  | @conditionAdded id box context p m engine found done =>
    obtain ⟨-, rfl⟩ := Engine.addCondition_ok done
    have place : l.contextOf? id = some context := Ledger.contextOf?_of_found found
    by_cases here : id = i
    · subst here
      have same : context = h := Option.some.inj (place.symm.trans held)
      subst same
      refine Or.inl ⟨held, ?_⟩
      intro shown showing
      obtain ⟨ctx, live, rfl⟩ := Option.map_eq_some_iff.mp showing
      simp [Engine.contextConditions?, Table.get?_modify, live, acceptedIn]
    · have differ : context ≠ h := by
        intro same
        subst same
        exact here (owned.context_alone place held)
      refine Or.inl (kept (by simp [acceptedIn, here]) held ?_)
      simp [Engine.contextConditions?, Table.get?_modify, differ, Engine.note]
  | @buildRefused id box context error engine found failed =>
    obtain ⟨left, rfl, -⟩ := Engine.compile_error failed
    have before := (owned.of_refused (.compile context) left).context_after_close box
      false (Ledger.contextOf?_of_found found) held
    exact Or.inl (kept rfl before.1 before.2)
  | @built id box context query engine found done =>
    have before := (owned.compiled fits box done).context_after_close box false
      (Ledger.contextOf?_of_found found) held
    obtain ⟨ctx, -, next, rfl⟩ := Engine.compile_ok done
    exact Or.inl (kept rfl before.1 before.2)
  | @builderReleased _ id box context onDrop release found =>
    have before :=
      owned.context_after_close box onDrop (Ledger.contextOf?_of_found found) held
    refine Or.inl (kept ?_ before.1 before.2)
    subst release
    cases onDrop <;> rfl
  | @queryReleased _ id box query onDrop release found =>
    refine Or.inl (kept ?_ held ?_)
    · subst release
      cases onDrop <;> rfl
    · simp [Engine.contextConditions?, Ledger.closeQuery, Engine.contexts_destroyQuery]

/-- A query that is open after a turn was open before and shows what it showed then, or the turn
built it and it shows what its builder did. -/
theorem query_after_turn (owned : Owned n l) (turn : Turn l o a l')
    (fits : n + a.handles ≤ UInt64.size - 1) {j : Nat} {h : QueryHandle}
    (held : l'.queryOf? j = some h) :
    (l.queryOf? j = some h ∧
      l'.engine.compiledConditions? h = l.engine.compiledConditions? h) ∨
    (j = l.queries.length ∧ ∃ b context, o = .build b ∧ a = .query j ∧
      l.contextOf? b = some context ∧
      l'.engine.compiledConditions? h = l.engine.contextConditions? context) := by
  cases turn with
  | aside added effects plain minor unmet => exact Or.inl ⟨held, rfl⟩
  | engine indirect =>
    refine Or.inl ⟨held, ?_⟩
    simp only [Engine.compiledConditions?, (Engine.act_tables indirect).2]
  | openRefused effects minor found failed =>
    obtain ⟨left, rfl, -⟩ := Engine.createContext_error failed
    exact Or.inl ⟨held, rfl⟩
  | opened effects minor found done =>
    obtain ⟨-, -, -, rfl⟩ := Engine.createContext_ok done
    exact Or.inl ⟨held, rfl⟩
  | conditionRefused found failed =>
    obtain ⟨left, rfl, -⟩ := Engine.addCondition_error failed
    exact Or.inl ⟨held, rfl⟩
  | conditionAdded found done =>
    obtain ⟨-, rfl⟩ := Engine.addCondition_ok done
    exact Or.inl ⟨held, rfl⟩
  | @buildRefused id box context error engine found failed =>
    obtain ⟨left, rfl, -⟩ := Engine.compile_error failed
    refine Or.inl ⟨held, ?_⟩
    rw [Ledger.write_engine, compiledConditions?_close]
    rfl
  | @built id box context query engine found done =>
    obtain ⟨ctx, live, next, rfl⟩ := Engine.compile_ok done
    have place : l.contextOf? id = some context := Ledger.contextOf?_of_found found
    change (Ledger.addQuery _ _).queryOf? j = some h at held
    rw [Ledger.queryOf?_addQuery] at held
    split at held
    · rename_i last
      have same : query = h := Option.some.inj held
      subst same
      refine Or.inr ⟨last, id, context, rfl, by rw [last], place, ?_⟩
      rw [compiledConditions?_close]
      simp [Engine.compiledConditions?, Engine.contextConditions?, Ledger.addQuery,
        Table.get?_insert, live]
    · have differ : query ≠ h := by
        rw [next]
        exact owned.query_not_next fits held
      refine Or.inl ⟨held, ?_⟩
      rw [compiledConditions?_close]
      simp [Engine.compiledConditions?, Ledger.addQuery, Table.get?_insert, differ, Engine.note]
  | builderReleased release found => exact Or.inl ⟨held, compiledConditions?_close ..⟩
  | @queryReleased _ id box query onDrop release found =>
    exact Or.inl (owned.query_after_close box onDrop (Ledger.queryOf?_of_found found) held)

theorem length_after_turn (turn : Turn l o a l') :
    l.builders.length ≤ l'.builders.length ∧ l.queries.length ≤ l'.queries.length := by
  cases turn <;> simp

theorem open_of_accepted (turn : Turn l o a l') {i : Nat} {c : Condition}
    (met : acceptedIn i (o, a) = some c) : (l.contextOf? i).isSome := by
  obtain ⟨p, m, rfl, rfl, -⟩ := acceptedIn_eq_some met
  cases turn with
  | aside added effects plain minor unmet => exact absurd rfl (unmet i p m rfl)
  | conditionAdded found done => simp [Ledger.contextOf?, found]
  | builderReleased release found => split at release <;> contradiction
  | queryReleased release found => split at release <;> contradiction

theorem closed_after_turn (turn : Turn l o a l') {i : Nat} (bound : i < l.builders.length)
    (closed : l.contextOf? i = none) : l'.contextOf? i = none := by
  have place : l.builders[i]? = some l.builders[i] := List.getElem?_eq_getElem bound
  rcases b : l.builders[i] with ⟨box, handle⟩
  rw [b] at place
  have unheld : handle = none := by simpa [Ledger.contextOf?, place] using closed
  subst unheld
  have still : l'.IsClosed box (.builder i) := Ledger.IsClosed.turn place turn
  have place' : l'.builders[i]? = some ⟨box, none⟩ := still
  simp [Ledger.contextOf?, place']

theorem build_turn {b j : Nat} (turn : Turn l (.build b) (.query j) l') :
    b < l.builders.length ∧ l'.contextOf? b = none ∧ j = l.queries.length ∧
      j < l'.queries.length := by
  cases turn with
  | aside added effects plain minor unmet => simp [Answer.isPlain] at plain
  | built found done =>
    obtain ⟨bound, -⟩ := List.getElem?_eq_some_iff.mp found
    refine ⟨bound, ?_, rfl, by simp [Ledger.close, Ledger.addQuery]⟩
    rw [Ledger.contextOf?_close, if_pos rfl]

end Turn

/-- What the open handles of a ledger show, after a course that began with nothing. -/
structure Kept (t : Transcript) (l : Ledger) : Prop where
  unopened : ∀ i, l.builders.length ≤ i → t.accepted i = []
  context : ∀ i h, l.contextOf? i = some h →
    l.engine.contextConditions? h = some (t.accepted i)
  built : ∀ b j, (Operation.build b, Answer.query j) ∈ t →
    b < l.builders.length ∧ l.contextOf? b = none ∧ j < l.queries.length
  query : ∀ j h, l.queryOf? j = some h → ∃ b, (Operation.build b, Answer.query j) ∈ t ∧
    l.engine.compiledConditions? h = some (t.accepted b)
  once : ∀ b b' j, (Operation.build b, Answer.query j) ∈ t →
    (Operation.build b', Answer.query j) ∈ t → b = b'

namespace Kept

variable {n : Nat} {t : Transcript} {l l' : Ledger} {o : Operation} {a : Answer}

theorem fresh : Kept [] {} := by
  constructor <;> simp [accepted, Ledger.contextOf?, Ledger.queryOf?]

theorem accepted_of_closed (turn : Turn l o a l') {i : Nat} (closed : l.contextOf? i = none) :
    accepted (t ++ [(o, a)]) i = t.accepted i := by
  rw [accepted_concat]
  cases met : acceptedIn i (o, a) with
  | none => simp
  | some c =>
    have still_open := open_of_accepted turn met
    rw [closed] at still_open
    contradiction

theorem turn (kept : Kept t l) (owned : Owned n l) (turn : Turn l o a l')
    (fits : n + a.handles ≤ UInt64.size - 1) : Kept (t ++ [(o, a)]) l' := by
  have grown := length_after_turn turn
  have unborn : ∀ i, l.builders.length ≤ i → l.contextOf? i = none := by
    intro i past
    simp [Ledger.contextOf?, List.getElem?_eq_none past]
  constructor
  case unopened =>
    intro i past
    rw [accepted_of_closed turn (unborn i (by omega))]
    exact kept.unopened i (by omega)
  case context =>
    intro i h held
    rw [accepted_concat]
    rcases context_after_turn owned turn fits held with ⟨before, adds⟩ | ⟨new, unmet, empty⟩
    · exact adds _ (kept.context i h before)
    · rw [empty, unmet, kept.unopened i (by omega)]
      rfl
  case built =>
    intro b j member
    rcases List.mem_append.mp member with earlier | now
    · obtain ⟨bound, closed, place⟩ := kept.built b j earlier
      exact ⟨by omega, closed_after_turn turn bound closed, by omega⟩
    · obtain ⟨rfl, rfl⟩ := Prod.mk.inj (List.mem_singleton.mp now)
      obtain ⟨bound, closed, -, place⟩ := build_turn turn
      exact ⟨by omega, closed, place⟩
  case query =>
    intro j h held
    rcases query_after_turn owned turn fits held with
      ⟨before, same⟩ | ⟨new, b, c, rfl, rfl, place, shows⟩
    · obtain ⟨b, member, showing⟩ := kept.query j h before
      refine ⟨b, List.mem_append_left _ member, ?_⟩
      rw [same, showing, accepted_of_closed turn (kept.built b j member).2.1]
    · refine ⟨b, by simp, ?_⟩
      rw [shows, kept.context b c place, accepted_concat]
      simp [acceptedIn]
  case once =>
    intro b b' j first second
    rcases List.mem_append.mp first with earlier | now
    · rcases List.mem_append.mp second with earlier' | now'
      · exact kept.once b b' j earlier earlier'
      · -- a query built now gets a number that no earlier one has
        obtain ⟨rfl, rfl⟩ := Prod.mk.inj (List.mem_singleton.mp now')
        have old := (kept.built b j earlier).2.2
        have new := (build_turn turn).2.2.1
        omega
    · obtain ⟨rfl, rfl⟩ := Prod.mk.inj (List.mem_singleton.mp now)
      rcases List.mem_append.mp second with earlier' | now'
      · have old := (kept.built b' j earlier').2.2
        have new := (build_turn turn).2.2.1
        omega
      · have same := (Prod.mk.inj (List.mem_singleton.mp now')).1
        exact (Operation.build.inj same).symm

theorem of_course (course : Course {} t l) (few : t.handles ≤ UInt64.size - 1) : Kept t l :=
  course.keeps few fresh fun owned kept turn fits => kept.turn owned turn fits

end Kept

namespace Workspace

end Workspace

end ObjectQuery
