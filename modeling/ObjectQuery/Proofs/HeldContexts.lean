import ObjectQuery.Proofs.Deeds
import ObjectQuery.Proofs.Handles
import ObjectQuery.Proofs.Ownership

/-!
No two open builders hold the same context. This needs no more than that the numbers have not run
out: calls to the engine past the builders can destroy a context, but no call gives out a number
that was given out before.
-/
namespace ObjectQuery

namespace Engine

variable {e e' : Engine} {call : EngineCall} {outcome : Outcome}

theorem handles_of_outcome (outcome : Outcome) :
    (Answer.engine outcome).handles = if outcome.grant?.isSome then 1 else 0 := by
  cases outcome <;> rfl

theorem counter_of_act {n : Nat}
    (counter : e.counter.next.toNat = min (n + 1) (UInt64.size - 1)) (action : Action)
    (fits : n + (Answer.engine (e.act action).1).handles ≤ UInt64.size - 1) :
    (e.act action).2.counter.next.toNat =
      min (n + (Answer.engine (e.act action).1).handles + 1) (UInt64.size - 1) := by
  have numbered := numbered_of_move (move_of_act e action)
  rw [handles_of_outcome] at fits ⊢
  cases granted : (e.act action).1.grant? with
  | none =>
    rw [granted] at numbered
    cases numbered with
    | kept same =>
      rw [same]
      exact counter
  | some g =>
    rw [granted] at fits numbered
    have room : n + 1 ≤ UInt64.size - 1 := fits
    cases numbered with
    | granted advanced =>
      rw [advanced, HandleCounter.toNat_next_advance, counter, Nat.min_eq_left room]
      rfl

theorem counter_of_call {n : Nat} (counter : e.counter.next.toNat = min (n + 1) (UInt64.size - 1))
    (performed : e.perform call = (outcome, e'))
    (fits : n + (Answer.engine outcome).handles ≤ UInt64.size - 1) :
    e'.counter.next.toNat =
      min (n + (Answer.engine outcome).handles + 1) (UInt64.size - 1) := by
  have acted : e.act (.call call) = (outcome, e') := performed
  have after := counter_of_act counter (.call call)
  rw [acted] at after
  exact after fits

theorem counter_of_destroyContext (e : Engine) (context : ContextHandle) :
    (e.destroyContext context).counter = e.counter := by
  unfold destroyContext
  dsimp only
  split <;> rfl

theorem counter_of_destroyQuery (e : Engine) (query : QueryHandle) :
    (e.destroyQuery query).counter = e.counter := by
  unfold destroyQuery
  dsimp only
  split <;> rfl

end Engine

theorem Operation.handles_of_reply {o : Operation} {a : Answer} {entity : String}
    {r : Except Failure EntityModel} (reply : o.reply? entity r = some a) : a.handles = 0 := by
  unfold reply? at reply
  split at reply
  case h_3 | h_4 => split at reply <;> cases reply <;> rfl
  all_goals cases reply <;> rfl

/-- Open builders hold contexts of different numbers, none of which is above the `n` given out. -/
structure Spread (n : Nat) (w : Workspace) : Prop where
  counter : w.engine.counter.next.toNat = min (n + 1) (UInt64.size - 1)
  given : ∀ i context, w.ledger.contextOf? i = some context → context.raw.toNat ≤ n
  apart : ∀ i j context, w.ledger.contextOf? i = some context →
    w.ledger.contextOf? j = some context → i = j

namespace Spread

variable {n n' : Nat} {w w' : Workspace} {o : Operation} {a : Answer}

theorem fresh : Spread 0 {} := by
  constructor <;> simp [Workspace.ledger, Ledger.contextOf?]
  decide

theorem of_fewer (spread : Spread n w) (grows : n ≤ n')
    (counter : w'.engine.counter.next.toNat = min (n' + 1) (UInt64.size - 1))
    (fewer : ∀ i context, w'.ledger.contextOf? i = some context →
      w.ledger.contextOf? i = some context) : Spread n' w' := by
  constructor
  · exact counter
  · intro i context held
    exact Nat.le_trans (spread.given i context (fewer i context held)) grows
  · intro i j context hi hj
    exact spread.apart i j context (fewer i context hi) (fewer j context hj)

theorem of_closed (spread : Spread n w) (grows : n ≤ n')
    (counter : w'.engine.counter.next.toNat = min (n' + 1) (UInt64.size - 1)) {id : Nat}
    {box : EntityBox} (closed : w'.builders = w.builders.set id ⟨box, none⟩) : Spread n' w' := by
  apply spread.of_fewer grows counter
  intro i context held
  have held : (w'.builders[i]?).bind Builder.handle = some context := held
  rw [closed, bind_getElem?_set rfl] at held
  split at held
  · contradiction
  · exact held

theorem opened (spread : Spread n w) {box : EntityBox} {context : ContextHandle}
    (counter : w'.engine.counter.next.toNat = min (n + 1 + 1) (UInt64.size - 1))
    (number : context.raw.toNat = n + 1)
    (builders : w'.builders = w.builders ++ [⟨box, some context⟩]) : Spread (n + 1) w' := by
  have held (i : Nat) : w'.ledger.contextOf? i =
      if i = w.builders.length then some context else w.ledger.contextOf? i := by
    have found := bind_getElem?_concat Builder.handle w.builders ⟨box, some context⟩ i
    rw [← builders] at found
    exact found
  have unheld : ∀ i, w.ledger.contextOf? i ≠ some context := by
    intro i earlier
    have bound := spread.given i context earlier
    omega
  constructor
  · exact counter
  · intro i h holds
    rw [held] at holds
    split at holds
    · cases holds
      omega
    · have bound := spread.given i h holds
      omega
  · intro i j h hi hj
    rw [held] at hi hj
    split at hi <;> split at hj
    · simp_all
    · cases hi
      exact absurd hj (unheld j)
    · cases hj
      exact absurd hi (unheld i)
    · exact spread.apart i j h hi hj

theorem of_same (spread : Spread n w) (engine : w'.engine = w.engine)
    (builders : w'.builders = w.builders) (none_given : a.handles = 0) :
    Spread (n + a.handles) w' := by
  rw [none_given]
  apply spread.of_fewer (Nat.le_refl n)
  · rw [engine]
    exact spread.counter
  · intro i context held
    have held : (w'.builders[i]?).bind Builder.handle = some context := held
    rw [builders] at held
    exact held

theorem properties (spread : Spread n w) (box : EntityBox) : Spread n (w.properties box).2 := by
  obtain ⟨metadata, cells, effects, same, -⟩ := w.properties_owners box
  rw [same]
  exact ⟨spread.counter, spread.given, spread.apart⟩

theorem deed (spread : Spread n w) (deed : w.Deed o a w')
    (fits : n + a.handles ≤ UInt64.size - 1) : Spread (n + a.handles) w' := by
  cases deed with
  | acted indirect =>
    exact spread.of_fewer (Nat.le_add_right ..) (Engine.counter_of_act spread.counter _ fits)
      fun _ _ held => held
  | @called call =>
    exact spread.of_fewer (Nat.le_add_right ..) (Engine.counter_of_call spread.counter rfl fits)
      fun _ _ held => held
  | @told o a box asked reply =>
    rw [Operation.handles_of_reply reply]
    exact spread.properties box
  | @openRefused id box model w' error engine found resolution failed =>
    have spread := spread.properties box
    rw [resolution] at spread
    have performed := Engine.perform_createContext failed
    exact spread.of_fewer (Nat.le_refl n) (Engine.counter_of_call spread.counter performed fits)
      fun _ _ held => held
  | @opened id box model w' context engine found resolution done =>
    have spread := spread.properties box
    rw [resolution] at spread
    have performed := Engine.perform_createContext done
    have room : n + 1 ≤ UInt64.size - 1 := fits
    obtain ⟨-, -, next, -⟩ := Engine.createContext_ok done
    have number : context.raw.toNat = n + 1 := by
      rw [next]
      exact spread.counter.trans (Nat.min_eq_left room)
    exact spread.opened (Engine.counter_of_call spread.counter performed fits) number rfl
  | conditionRefused found failed =>
    have performed := Engine.perform_condition failed
    exact spread.of_fewer (Nat.le_refl n) (Engine.counter_of_call spread.counter performed fits)
      fun _ _ held => held
  | conditionAdded found done =>
    have performed := Engine.perform_condition done
    exact spread.of_fewer (Nat.le_refl n) (Engine.counter_of_call spread.counter performed fits)
      fun _ _ held => held
  | @buildRefused id box context error engine found failed =>
    have performed := Engine.perform_compile failed
    have counter := Engine.counter_of_call spread.counter performed fits
    rw [← Engine.counter_of_destroyContext engine context] at counter
    exact spread.of_closed (Nat.le_refl n) counter rfl
  | @built id box context query engine found done =>
    have performed := Engine.perform_compile done
    have counter := Engine.counter_of_call spread.counter performed fits
    rw [← Engine.counter_of_destroyContext engine context] at counter
    exact spread.of_closed (Nat.le_add_right n 1) counter rfl
  | @builderReleased o id box context onDrop release found =>
    have counter := spread.counter
    rw [← Engine.counter_of_destroyContext w.engine context] at counter
    exact spread.of_closed (Nat.le_refl n) counter rfl
  | @queryReleased o id box query onDrop release found =>
    have counter := spread.counter
    rw [← Engine.counter_of_destroyQuery w.engine query] at counter
    exact spread.of_fewer (Nat.le_refl n) counter fun _ _ held => held
  | _ => exact spread.of_same rfl rfl rfl

end Spread

namespace Workspace

theorem spread_after {operations : List Operation}
    (few : (transcript operations).handles ≤ UInt64.size - 1) :
    Spread (transcript operations).handles (after operations) := by
  induction operations using List.reverseRecOn with
  | nil => exact Spread.fresh
  | append_singleton earlier o ih =>
    have last : [o].zip ((after earlier).run [o]).1 = [(o, ((after earlier).step o).1)] := rfl
    rw [transcript_append, last, Transcript.handles_append, Transcript.handles_single] at few ⊢
    have before : (transcript earlier).handles ≤ UInt64.size - 1 := by omega
    rw [after_append]
    exact (ih before).deed (deed_of_step _ o) few

theorem held_contexts_differ {operations : List Operation}
    (few : (transcript operations).handles ≤ UInt64.size - 1) {i j : Nat} {box other : EntityBox}
    {x y : ContextHandle} (left : (after operations).builders[i]? = some ⟨box, some x⟩)
    (right : (after operations).builders[j]? = some ⟨other, some y⟩) (differ : i ≠ j) : x ≠ y := by
  rintro rfl
  exact differ ((spread_after few).apart i j x (Ledger.contextOf?_of_found left)
    (Ledger.contextOf?_of_found right))

end Workspace

end ObjectQuery
