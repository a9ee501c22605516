import Mathlib.Data.List.Basic
import ObjectQuery.Proofs.Chronicle
import ObjectQuery.Proofs.FaultQueues
import ObjectQuery.Proofs.Forwarding
import ObjectQuery.Proofs.HeldContexts
import ObjectQuery.Proofs.Interleaving
import ObjectQuery.Proofs.Relay
import ObjectQuery.Proofs.Window

/-!
Builders on one engine do not disturb each other. What the engine says to a condition is settled by
the entity of the context, the registered models and the oldest fault in line for the entry point;
adding conditions to another context changes none of these, save that it may use up a fault. So the
conditions for two contexts may be interleaved in any way, as long as no fault is waiting for an
entry point that both use.
-/
namespace ObjectQuery

theorem Table.modify_comm {κ α : Type} [Ord κ] [Std.TransOrd κ] [Std.LawfulEqOrd κ] [DecidableEq κ]
    (t : Table κ α) {x y : κ} (apart : x ≠ y) (f g : α → α) :
    (t.modify x f).modify y g = (t.modify y g).modify x f := by
  apply Table.ext_get?
  intro k
  simp only [Table.get?_modify]
  by_cases first : x = k
  · have second : y ≠ k := fun same => apart (first.trans same.symm)
    rw [if_pos first, if_neg second, if_pos first, if_neg second]
  · rw [if_neg first, if_neg first]

namespace Engine

open PendingFault

variable {e e' : Engine} {x y : ContextHandle} {c d : Condition}

def verdict (e : Engine) (context : ContextHandle) (c : Condition) : Outcome :=
  match queue c.op e.faults with
  | error :: _ => .refused error
  | [] => .ofExcept (fun _ => .done) (e.validate context c)

/-- What is left when a condition has been given this answer: a fault that was waiting for it is
used up, and the condition is stored if it was accepted. -/
def settle (e : Engine) (context : ContextHandle) (c : Condition) (answer : Outcome) : Engine :=
  { e with
    faults := e.faults.eraseP (·.op = c.op)
    contexts := if answer = .done then
      e.contexts.modify context fun ctx => { ctx with conditions := ctx.conditions ++ [c] }
      else e.contexts }

theorem perform_condition_eq (e : Engine) (context : ContextHandle) (c : Condition) :
    e.perform (.condition context c) = (e.verdict context c,
      (e.note (.condition context c)).settle context c (e.verdict context c)) := by
  have line : (e.note (.condition context c)).faults = e.faults := rfl
  have valid : (e.note (.condition context c)).validate context c = e.validate context c := rfl
  have entry : (EngineCall.condition context c).op = c.op := rfl
  simp only [perform, addCondition, attempt, settle, entry, line, valid]
  cases waiting : queue c.op e.faults with
  | cons error later =>
    have said : e.verdict context c = .refused error := by simp [verdict, waiting]
    rw [take?_of_queue_cons waiting, said]
    rfl
  | nil =>
    have said : e.verdict context c = .ofExcept (fun _ => .done) (e.validate context c) := by
      simp [verdict, waiting]
    rw [take?_of_queue_nil waiting, eraseP_of_queue_nil waiting, said]
    cases e.validate context c with
    | error error => rfl
    | ok p => rfl

theorem entity_after_condition (e : Engine) (x : ContextHandle) (c : Condition)
    (h : ContextHandle) :
    ((e.perform (.condition x c)).2.contexts.get? h).map Context.entity =
      (e.contexts.get? h).map Context.entity := by
  rw [perform_condition_eq]
  dsimp only [settle]
  split
  · rw [Table.get?_modify]
    split
    · rw [Option.map_map]
      rfl
    · rfl
  · rfl

theorem validate_of_same (entities : e'.entities = e.entities)
    (known : (e'.contexts.get? x).map Context.entity = (e.contexts.get? x).map Context.entity)
    (c : Condition) : e'.validate x c = e.validate x c := by
  unfold validate
  rw [entities]
  cases before : e.contexts.get? x with
  | none =>
    rw [before, Option.map_none, Option.map_eq_none_iff] at known
    rw [known]
  | some ctx =>
    rw [before, Option.map_some, Option.map_eq_some_iff] at known
    obtain ⟨ctx', after, same⟩ := known
    rw [after]
    dsimp only
    rw [same]

/-- A condition changes what is said to another only by using up a fault that the other was to
meet. -/
theorem verdict_after_condition (free : c.op ≠ d.op ∨ queue c.op e.faults = []) :
    (e.perform (.condition x c)).2.verdict y d = e.verdict y d := by
  have line : queue d.op (e.perform (.condition x c)).2.faults = queue d.op e.faults := by
    rw [perform_condition_eq]
    rcases free with foreign | empty
    · exact queue_eraseP_of_ne foreign e.faults
    · exact congrArg (queue d.op) (eraseP_of_queue_nil empty)
  have entities : (e.perform (.condition x c)).2.entities = e.entities := by
    rw [perform_condition_eq]
    rfl
  unfold verdict
  rw [line, validate_of_same entities (entity_after_condition e x c y)]

def unjournaled (e : Engine) : Engine := e.withJournal {}

theorem eq_of_unjournaled (same : e.unjournaled = e'.unjournaled) :
    e = e'.withJournal e.journal := by
  have back : e.unjournaled.withJournal e.journal = e := rfl
  rw [← back, same]
  rfl

theorem perform_of_unjournaled (same : e.unjournaled = e'.unjournaled) (call : EngineCall) :
    (e.perform call).1 = (e'.perform call).1 ∧
      (e.perform call).2.unjournaled = (e'.perform call).2.unjournaled := by
  rw [eq_of_unjournaled same, perform_withJournal]
  exact ⟨rfl, rfl⟩

theorem journal_of_perform (e : Engine) (call : EngineCall) :
    (e.perform call).2.journal = e.journal.push call := by
  have entered := perform_withJournal (e := e) (j := e.journal) call
  exact congrArg (fun r => r.2.journal) entered

theorem settle_comm (e : Engine) (apart : x ≠ y) (a b : Outcome) :
    (e.settle y d b).settle x c a = (e.settle x c a).settle y d b := by
  -- Even two conditions for one entry point leave the same line: which of them took which fault
  -- shows in the answers only.
  have faults : (e.faults.eraseP (·.op = d.op)).eraseP (·.op = c.op) =
      (e.faults.eraseP (·.op = c.op)).eraseP (·.op = d.op) := by
    by_cases same : c.op = d.op
    · rw [same]
    · apply List.eraseP_comm
      intro f member
      by_cases own : f.op = d.op
      · have foreign : f.op ≠ c.op := fun met => same (met.symm.trans own)
        exact Or.inr (by simpa using foreign)
      · exact Or.inl (by simpa using own)
  have contexts := Table.modify_comm e.contexts apart.symm
    (fun ctx => { ctx with conditions := ctx.conditions ++ [d] })
    (fun ctx => { ctx with conditions := ctx.conditions ++ [c] })
  unfold settle
  dsimp only
  rw [faults]
  by_cases first : a = .done
  · by_cases second : b = .done
    · rw [if_pos first, if_pos second, if_pos first, if_pos second, contexts]
    · rw [if_pos first, if_neg second, if_pos first, if_neg second]
  · rw [if_neg first, if_neg first]

theorem conditions_commute (apart : x ≠ y) (first : (e.perform (.condition y d)).2.verdict x c =
      e.verdict x c) (second : (e.perform (.condition x c)).2.verdict y d = e.verdict y d) :
    ((e.perform (.condition y d)).2.perform (.condition x c)).2.unjournaled =
      ((e.perform (.condition x c)).2.perform (.condition y d)).2.unjournaled := by
  rw [perform_condition_eq (e.perform (.condition y d)).2 x c,
    perform_condition_eq (e.perform (.condition x c)).2 y d, first, second,
    perform_condition_eq e x c, perform_condition_eq e y d]
  exact settle_comm e.unjournaled apart (e.verdict x c) (e.verdict y d)

def FaultsApart (e : Engine) (xs ys : List Condition) : Prop :=
  ∀ f ∈ e.faults, ¬(f.op ∈ xs.map Condition.op ∧ f.op ∈ ys.map Condition.op)

instance (e : Engine) (xs ys : List Condition) : Decidable (e.FaultsApart xs ys) :=
  inferInstanceAs (Decidable (∀ f ∈ e.faults,
    ¬(f.op ∈ xs.map Condition.op ∧ f.op ∈ ys.map Condition.op)))

namespace FaultsApart

variable {xs ys : List Condition}

theorem symm (clear : e.FaultsApart xs ys) : e.FaultsApart ys xs := by
  intro f member both
  exact clear f member both.symm

theorem after_condition (clear : e.FaultsApart xs ys) (h : ContextHandle) (c : Condition) :
    (e.perform (.condition h c)).2.FaultsApart xs ys := by
  intro f member
  rw [perform_condition_eq] at member
  exact clear f (List.mem_of_mem_eraseP member)

theorem verdict_after (clear : e.FaultsApart xs ys) (first : c ∈ xs) (second : d ∈ ys) :
    (e.perform (.condition x c)).2.verdict y d = e.verdict y d := by
  apply verdict_after_condition
  by_cases same : c.op = d.op
  · right
    rw [queue_eq_nil_iff]
    intro f member met
    apply clear f member
    constructor
    · rw [met]
      exact List.mem_map_of_mem first
    · rw [met, same]
      exact List.mem_map_of_mem second
  · exact Or.inl same

end FaultsApart

theorem conditions_independent (apart : x ≠ y) (xs ys : List Condition) :
    Independent perform unjournaled (FaultsApart · xs ys) (· ∈ xs.map (.condition x))
      (· ∈ ys.map (.condition y)) where
  kept e call clear asked := by
    rcases asked with asked | asked <;> obtain ⟨c, -, rfl⟩ := List.mem_map.mp asked <;>
      exact clear.after_condition _ c
  blind e e' call _ _ same _ := perform_of_unjournaled same call
  first e a b clear asked asked' := by
    obtain ⟨c, first, rfl⟩ := List.mem_map.mp asked
    obtain ⟨d, second, rfl⟩ := List.mem_map.mp asked'
    rw [perform_condition_eq _ x c, perform_condition_eq e x c]
    exact clear.symm.verdict_after second first
  second e a b clear asked asked' := by
    obtain ⟨c, first, rfl⟩ := List.mem_map.mp asked
    obtain ⟨d, second, rfl⟩ := List.mem_map.mp asked'
    rw [perform_condition_eq _ y d, perform_condition_eq e y d]
    exact clear.verdict_after first second
  joined e a b clear asked asked' := by
    obtain ⟨c, first, rfl⟩ := List.mem_map.mp asked
    obtain ⟨d, second, rfl⟩ := List.mem_map.mp asked'
    exact conditions_commute apart (clear.symm.verdict_after second first)
      (clear.verdict_after first second)

theorem journal_of_leaves (e : Engine) (calls : List EngineCall) :
    (leaves perform e calls).journal = e.journal.pushAll calls := by
  induction calls generalizing e with
  | nil => rfl
  | cons call rest ih =>
    rw [leaves_cons, ih, journal_of_perform]
    rfl

theorem chronicle_of_calls (e : Engine) (calls : List EngineCall) :
    e.chronicle (calls.map .call) =
      (dialogue perform e calls).map fun entry => (.call entry.1, entry.2) := by
  induction calls generalizing e with
  | nil => rfl
  | cons call rest ih =>
    rw [List.map_cons, chronicle_cons, ih, dialogue_cons, List.map_cons]
    rfl

theorem run_of_calls (e : Engine) (calls : List EngineCall) :
    (e.run (calls.map .call)).2 = leaves perform e calls := by
  induction calls generalizing e with
  | nil => rfl
  | cons call rest ih => exact ih (e.perform call).2

/-- However the calls of two clients are interleaved, each is answered as if all those of the
first had come before those of the second, and the engines differ in the journal only. It shows
the calls in the order they came in, down to its capacity. -/
structure Undisturbed (e : Engine) (one two all : List EngineCall) : Prop where
  answers : Interleaves (e.chronicle (one.map .call))
    ((e.run (one.map .call)).2.chronicle (two.map .call)) (e.chronicle (all.map .call))
  engine : (e.run (all.map .call)).2 =
    (e.run ((one ++ two).map .call)).2.withJournal (e.run (all.map .call)).2.journal
  journal : (e.run (all.map .call)).2.journal =
    ⟨e.journal.capacity, lastOf e.journal.capacity (e.journal.calls ++ all)⟩

theorem conditions_undisturbed (fits : e.journal.Fits) (apart : x ≠ y) {xs ys : List Condition}
    (clear : e.FaultsApart xs ys) {zs : List EngineCall}
    (mixed : Interleaves (xs.map (.condition x)) (ys.map (.condition y)) zs) :
    e.Undisturbed (xs.map (.condition x)) (ys.map (.condition y)) zs := by
  obtain ⟨answers, last⟩ := (conditions_independent apart xs ys).interleaved clear mixed
    (fun _ member => member) (fun _ member => member)
  constructor
  · rw [chronicle_of_calls, chronicle_of_calls, chronicle_of_calls, run_of_calls]
    exact answers.map _
  · rw [run_of_calls, run_of_calls]
    exact eq_of_unjournaled last
  · rw [run_of_calls, journal_of_leaves, ← Journal.calls_pushAll fits,
      ← Journal.capacity_pushAll e.journal zs]

theorem fits_act (fits : e.journal.Fits) (action : Action) : (e.act action).2.journal.Fits := by
  cases action with
  | call call =>
    have pushed : (e.act (.call call)).2.journal = e.journal.push call := journal_of_perform e call
    rw [pushed]
    exact Journal.length_push_le e.journal call
  | clearJournal => exact Nat.zero_le _
  | resizeJournal capacity => exact Journal.length_resize_le e.journal capacity
  | failNext op error =>
    cases fallible : op.isFallible with
    | true =>
      rw [act_failNext_fallible fallible]
      exact fits
    | false =>
      rw [act_failNext_infallible fallible]
      exact fits
  | _ => exact fits

theorem fits_run (fits : e.journal.Fits) (actions : List Action) :
    (e.run actions).2.journal.Fits := by
  induction actions generalizing e with
  | nil => exact fits
  | cons action rest ih => exact ih (fits_act fits action)

end Engine

def forwarded (asked : Property × Method) : Condition := ⟨asked.1.id, asked.2.test⟩

namespace Workspace

variable {w w' : Workspace} {i j id : Nat} {box other : EntityBox} {x y context : ContextHandle}
  {xs ys : List (Property × Method)} {o : Operation}

/-- Everything but what is written down, in the history and in the journal. -/
def unwritten (w : Workspace) : Workspace :=
  { w with engine := w.engine.unjournaled, history := [] }

theorem eq_of_unwritten (same : w.unwritten = w'.unwritten) :
    w = { w' with
      engine := w'.engine.withJournal w.engine.journal
      history := w.history } := by
  have back : w = { w.unwritten with
      engine := w.unwritten.engine.withJournal w.engine.journal
      history := w.history } := rfl
  rw [back, same]
  rfl

section Open

variable (opened : w.builders[id]? = some ⟨box, some context⟩) (p : Property) (m : Method)

include opened

theorem engine_of_condition : (w.step (.condition id p m)).2.engine =
    (w.engine.perform (.condition context (forwarded (p, m)))).2 :=
  (forwards_condition opened p m).engine

theorem builders_of_condition : (w.step (.condition id p m)).2.builders = w.builders := by
  rw [(forwards_condition opened p m).frame]

theorem unwritten_of_condition : (w.step (.condition id p m)).2.unwritten =
    { w.unwritten with
      engine := (w.engine.perform (.condition context (forwarded (p, m)))).2.unjournaled } := by
  rw [← engine_of_condition opened p m, (forwards_condition opened p m).frame]
  rfl

theorem request_of_condition :
    w.request? (.condition id p m) = some (box, .condition context (forwarded (p, m))) := by
  simp [request?, opened, forwarded]

theorem answer_of_outcome (opened' : w'.builders[id]? = some ⟨box, some context⟩)
    (outcome : (w'.engine.perform (.condition context (forwarded (p, m)))).1 =
      (w.engine.perform (.condition context (forwarded (p, m)))).1) :
    (w'.step (.condition id p m)).1 = (w.step (.condition id p m)).1 := by
  rw [answer_of_condition opened, answer_of_condition opened']
  unfold forwarded at outcome
  rw [outcome]

theorem condition_of_unwritten (same : w'.unwritten = w.unwritten) :
    (w'.step (.condition id p m)).1 = (w.step (.condition id p m)).1 ∧
      (w'.step (.condition id p m)).2.unwritten = (w.step (.condition id p m)).2.unwritten := by
  have builders : w'.unwritten.builders = w.unwritten.builders := by rw [same]
  have engines : w'.unwritten.engine = w.unwritten.engine := by rw [same]
  have opened' : w'.builders[id]? = some ⟨box, some context⟩ := by
    rw [← opened]
    exact congrArg (fun l : List Builder => l[id]?) builders
  obtain ⟨outcome, engine⟩ :=
    Engine.perform_of_unjournaled engines (.condition context (forwarded (p, m)))
  constructor
  · exact answer_of_outcome opened p m opened' outcome
  · rw [unwritten_of_condition opened, unwritten_of_condition opened', engine, same]

end Open

def conditionsBy (id : Nat) (asked : List (Property × Method)) : List Operation :=
  asked.map fun a => .condition id a.1 a.2

structure OpenApart (i j : Nat) (box other : EntityBox) (x y : ContextHandle)
    (xs ys : List (Property × Method)) (w : Workspace) : Prop where
  left : w.builders[i]? = some ⟨box, some x⟩
  right : w.builders[j]? = some ⟨other, some y⟩
  clear : w.engine.FaultsApart (xs.map forwarded) (ys.map forwarded)

namespace OpenApart

theorem after_condition (sound : OpenApart i j box other x y xs ys w)
    (asked : o ∈ conditionsBy i xs ∨ o ∈ conditionsBy j ys) :
    OpenApart i j box other x y xs ys (w.step o).2 := by
  rcases asked with asked | asked
  · obtain ⟨⟨p, m⟩, -, rfl⟩ := List.mem_map.mp asked
    constructor
    · rw [builders_of_condition sound.left, sound.left]
    · rw [builders_of_condition sound.left, sound.right]
    · rw [engine_of_condition sound.left]
      exact sound.clear.after_condition x _
  · obtain ⟨⟨p, m⟩, -, rfl⟩ := List.mem_map.mp asked
    constructor
    · rw [builders_of_condition sound.right, sound.left]
    · rw [builders_of_condition sound.right, sound.right]
    · rw [engine_of_condition sound.right]
      exact sound.clear.after_condition y _

end OpenApart

theorem builders_independent (apart : x ≠ y) :
    Independent step unwritten (OpenApart i j box other x y xs ys) (· ∈ conditionsBy i xs)
      (· ∈ conditionsBy j ys) where
  kept w o sound asked := sound.after_condition asked
  blind w w' o sound sound' same asked := by
    rcases asked with asked | asked <;> obtain ⟨⟨p, m⟩, -, rfl⟩ := List.mem_map.mp asked
    · exact condition_of_unwritten sound'.left p m same
    · exact condition_of_unwritten sound'.right p m same
  first w a b sound asked asked' := by
    have later := sound.after_condition (Or.inr asked')
    obtain ⟨⟨p, m⟩, first, rfl⟩ := List.mem_map.mp asked
    obtain ⟨⟨q, n⟩, second, rfl⟩ := List.mem_map.mp asked'
    apply answer_of_outcome sound.left p m later.left
    rw [engine_of_condition sound.right]
    exact (Engine.conditions_independent apart _ _).first _ _ _ sound.clear
      (List.mem_map_of_mem (List.mem_map_of_mem first))
      (List.mem_map_of_mem (List.mem_map_of_mem second))
  second w a b sound asked asked' := by
    have later := sound.after_condition (Or.inl asked)
    obtain ⟨⟨p, m⟩, first, rfl⟩ := List.mem_map.mp asked
    obtain ⟨⟨q, n⟩, second, rfl⟩ := List.mem_map.mp asked'
    apply answer_of_outcome sound.right q n later.right
    rw [engine_of_condition sound.left]
    exact (Engine.conditions_independent apart _ _).second _ _ _ sound.clear
      (List.mem_map_of_mem (List.mem_map_of_mem first))
      (List.mem_map_of_mem (List.mem_map_of_mem second))
  joined w a b sound asked asked' := by
    have later := sound.after_condition (Or.inl asked)
    have later' := sound.after_condition (Or.inr asked')
    obtain ⟨⟨p, m⟩, first, rfl⟩ := List.mem_map.mp asked
    obtain ⟨⟨q, n⟩, second, rfl⟩ := List.mem_map.mp asked'
    rw [unwritten_of_condition later'.left, unwritten_of_condition sound.right,
      engine_of_condition sound.right, unwritten_of_condition later.right,
      unwritten_of_condition sound.left, engine_of_condition sound.left]
    have joined := (Engine.conditions_independent apart _ _).joined _ _ _ sound.clear
      (List.mem_map_of_mem (List.mem_map_of_mem first))
      (List.mem_map_of_mem (List.mem_map_of_mem second))
    rw [joined]

def requests (w : Workspace) (operations : List Operation) : List EngineCall :=
  operations.filterMap fun o => (w.request? o).map Prod.snd

theorem requests_of_condition (opened : w.builders[id]? = some ⟨box, some context⟩)
    (p : Property) (m : Method) {rest : List Operation}
    (conditions : ∀ o ∈ rest, ∃ k q n, o = .condition k q n) :
    w.requests (.condition id p m :: rest) =
      .condition context (forwarded (p, m)) :: (w.step (.condition id p m)).2.requests rest := by
  have builders := builders_of_condition opened p m
  have same : ∀ o ∈ rest, ((w.step (.condition id p m)).2.request? o).map Prod.snd =
      (w.request? o).map Prod.snd := by
    intro o member
    obtain ⟨k, q, n, rfl⟩ := conditions o member
    simp only [request?, builders]
  rw [requests, List.filterMap_cons, request_of_condition opened, requests,
    List.filterMap_congr same]
  rfl

theorem journal_of_conditions (sound : OpenApart i j box other x y xs ys w)
    {zs : List Operation} (asked : ∀ o ∈ zs, o ∈ conditionsBy i xs ∨ o ∈ conditionsBy j ys) :
    (leaves step w zs).engine.journal = w.engine.journal.pushAll (w.requests zs) := by
  induction zs generalizing w with
  | nil => rfl
  | cons o rest ih =>
    rw [List.forall_mem_cons] at asked
    have conditions : ∀ o ∈ rest, ∃ k q n, o = .condition k q n := by
      intro o member
      rcases asked.2 o member with asked | asked <;>
        obtain ⟨⟨q, n⟩, -, rfl⟩ := List.mem_map.mp asked <;> exact ⟨_, q, n, rfl⟩
    rw [leaves_cons, ih (sound.after_condition asked.1) asked.2]
    rcases asked.1 with asked | asked <;> obtain ⟨⟨p, m⟩, -, rfl⟩ := List.mem_map.mp asked
    · rw [requests_of_condition sound.left p m conditions, engine_of_condition sound.left,
        Engine.journal_of_perform]
      rfl
    · rw [requests_of_condition sound.right p m conditions, engine_of_condition sound.right,
        Engine.journal_of_perform]
      rfl

theorem dialogue_eq_zip (w : Workspace) (operations : List Operation) :
    dialogue step w operations = operations.zip (w.run operations).1 := by
  induction operations generalizing w with
  | nil => rfl
  | cons o rest ih =>
    rw [dialogue_cons, ih]
    rfl

theorem leaves_eq_run (w : Workspace) (operations : List Operation) :
    leaves step w operations = (w.run operations).2 := by
  induction operations generalizing w with
  | nil => rfl
  | cons o rest ih => exact ih (w.step o).2

/-- However the operations of two clients are interleaved, each is answered as if all those of the
first had come before those of the second, and only what is written down differs. The journal shows
the calls in the order they came in, down to its capacity. -/
structure Undisturbed (w : Workspace) (one two all : List Operation) : Prop where
  answers : Interleaves (one.zip (w.run one).1) (two.zip ((w.run one).2.run two).1)
    (all.zip (w.run all).1)
  workspace : (w.run all).2 = { (w.run (one ++ two)).2 with
    engine := (w.run (one ++ two)).2.engine.withJournal (w.run all).2.engine.journal
    history := (w.run all).2.history }
  journal : (w.run all).2.engine.journal = ⟨w.engine.journal.capacity,
    lastOf w.engine.journal.capacity (w.engine.journal.calls ++ w.requests all)⟩

theorem builders_undisturbed (fits : w.engine.journal.Fits) (apart : x ≠ y)
    (sound : OpenApart i j box other x y xs ys w) {zs : List Operation}
    (mixed : Interleaves (conditionsBy i xs) (conditionsBy j ys) zs) :
    w.Undisturbed (conditionsBy i xs) (conditionsBy j ys) zs := by
  obtain ⟨answers, last⟩ := (builders_independent apart).interleaved sound mixed
    (fun _ member => member) (fun _ member => member)
  constructor
  · rw [← dialogue_eq_zip, ← dialogue_eq_zip, ← dialogue_eq_zip, ← leaves_eq_run]
    exact answers
  · rw [← leaves_eq_run, ← leaves_eq_run]
    exact eq_of_unwritten last
  · rw [← leaves_eq_run, journal_of_conditions sound fun o member => mixed.mem member,
      ← Journal.calls_pushAll fits, ← Journal.capacity_pushAll w.engine.journal (w.requests zs)]

theorem clients_do_not_disturb_each_other :
    (∀ (actions : List Engine.Action) (x y : ContextHandle) (xs ys : List Condition)
      (zs : List EngineCall), x ≠ y → (Engine.run {} actions).2.FaultsApart xs ys →
        Interleaves (xs.map (.condition x)) (ys.map (.condition y)) zs →
        (Engine.run {} actions).2.Undisturbed (xs.map (.condition x)) (ys.map (.condition y)) zs) ∧
    ∀ (operations : List Operation) (i j : Nat) (box other : EntityBox) (x y : ContextHandle),
      (after operations).builders[i]? = some ⟨box, some x⟩ →
      (after operations).builders[j]? = some ⟨other, some y⟩ →
      (i ≠ j → (transcript operations).handles ≤ UInt64.size - 1 → x ≠ y) ∧
      ∀ (xs ys : List (Property × Method)) (zs : List Operation), x ≠ y →
        (after operations).engine.FaultsApart (xs.map forwarded) (ys.map forwarded) →
        Interleaves (conditionsBy i xs) (conditionsBy j ys) zs →
        (after operations).Undisturbed (conditionsBy i xs) (conditionsBy j ys) zs := by
  constructor
  · intro actions x y xs ys zs apart clear mixed
    exact Engine.conditions_undisturbed (Engine.fits_run (Nat.zero_le _) actions) apart clear mixed
  · intro operations i j box other x y left right
    constructor
    · intro differ few
      exact held_contexts_differ few left right differ
    · intro xs ys zs apart clear mixed
      exact builders_undisturbed (journal_fits operations) apart ⟨left, right, clear⟩ mixed

/-- Two builders are open over one model, and a fault is in line for one entry point. -/
def sharedRun : List Operation :=
  sampleRun.take 7 ++ [.engine (.failNext .isNull (.rejected "busy"))]

def sharedActions : List Engine.Action :=
  let session := HandleCounter.start.peek .session
  [.register ⟨"Order", [⟨⟨1⟩, "note", .text⟩]⟩, .openSession,
    .call (.createContext session "Order"), .call (.createContext session "Order"),
    .failNext .isNull (.rejected "busy")]

theorem sharedRun_undisturbed :
    let w := after sharedRun
    let e := (Engine.run {} sharedActions).2
    let x := HandleCounter.start.advance.peek .context
    let y := HandleCounter.start.advance.advance.peek .context
    let note : Property := ⟨⟨1⟩, "note", .text⟩
    let xs : List (Property × Method) := [(note, .isNull), (note, .isNull)]
    let ys : List (Property × Method) := [(note, .contains "x"), (note, .less (.int 3))]
    let calls : List EngineCall := [.condition y ⟨⟨1⟩, .containsText "x"⟩,
      .condition x ⟨⟨1⟩, .isNull⟩, .condition y ⟨⟨1⟩, .lessInt 3⟩, .condition x ⟨⟨1⟩, .isNull⟩]
    let operations : List Operation := [.condition 1 note (.contains "x"),
      .condition 0 note .isNull, .condition 1 note (.less (.int 3)), .condition 0 note .isNull]
    (x ≠ y ∧ e.FaultsApart (xs.map forwarded) (ys.map forwarded) ∧
      e.Undisturbed ((xs.map forwarded).map (.condition x)) ((ys.map forwarded).map (.condition y))
        calls) ∧
    (∃ box, w.builders[0]? = some ⟨box, some x⟩ ∧ w.builders[1]? = some ⟨box, some y⟩) ∧
    w.engine.FaultsApart (xs.map forwarded) (ys.map forwarded) ∧
    w.Undisturbed (conditionsBy 0 xs) (conditionsBy 1 ys) operations ∧
    (w.run operations).1 = [.done,
      .refused (.engineRejected "Order" .isNull (.rejected "busy")),
      .refused (.engineRejected "Order" .lessInt (.typeMismatch ⟨1⟩ .text .int64)), .done] := by
  intro w e x y note xs ys calls operations
  obtain ⟨engines, builders⟩ := clients_do_not_disturb_each_other
  have apart : x ≠ y := by decide
  have clear : e.FaultsApart (xs.map forwarded) (ys.map forwarded) := by decide +kernel
  have clear' : w.engine.FaultsApart (xs.map forwarded) (ys.map forwarded) := by decide +kernel
  let box : EntityBox := ⟨{ session := HandleCounter.start.peek .session }, "Order", 0⟩
  have left : w.builders[0]? = some ⟨box, some x⟩ := by decide +kernel
  have right : w.builders[1]? = some ⟨box, some y⟩ := by decide +kernel
  have mixed : Interleaves ((xs.map forwarded).map (.condition x))
      ((ys.map forwarded).map (.condition y)) calls :=
    .right _ (.left _ (.right _ (.left _ .nil)))
  have mixed' : Interleaves (conditionsBy 0 xs) (conditionsBy 1 ys) operations :=
    .right _ (.left _ (.right _ (.left _ .nil)))
  refine ⟨⟨apart, clear, ?_⟩, ⟨box, left, right⟩, clear', ?_, by decide +kernel⟩
  · exact engines sharedActions x y _ _ calls apart clear mixed
  · exact (builders sharedRun 0 1 box box x y left right).2 xs ys operations apart clear' mixed'

end Workspace

end ObjectQuery
