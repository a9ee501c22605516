import ObjectQuery.Invocation
import ObjectQuery.Proofs.Agreement
import ObjectQuery.Proofs.History

/-!
A condition method forwards what it is given, under the entry point of what it forwards. A test is
told by what it compares with which operands (`Test.comparison`, `Test.operands`), and so is the
call of a method, in whatever form the operands come. An open builder puts one condition to the
engine for each call, the one with the comparison and the operands of the call.
-/
namespace ObjectQuery

inductive Comparison where
  | isNull
  | notNull
  | equal
  | notEqual
  | less
  | greater
  | between
  | isIn
  | contains
  | startsWith
  | endsWith
  deriving DecidableEq, Repr

/-- One operand of a condition. Operands of two classes, or of two widths, are never the same. -/
inductive Operand where
  | int (value : Int64)
  | float (value : Binary64)
  | text (value : String)
  | int32s (values : List Int32)
  | int64s (values : List Int64)
  deriving DecidableEq, Repr

namespace Test

def comparison : Test → Comparison
  | isNull => .isNull
  | notNull => .notNull
  | equalInt _ | equalText _ => .equal
  | notEqualInt _ | notEqualText _ => .notEqual
  | lessInt _ | lessFloat _ => .less
  | greaterInt _ | greaterFloat _ => .greater
  | betweenInt _ _ => .between
  | inInt32 _ | inInt64 _ => .isIn
  | containsText _ => .contains
  | startsWithText _ => .startsWith
  | endsWithText _ => .endsWith

def operands : Test → List Operand
  | isNull | notNull => []
  | equalInt v | notEqualInt v | lessInt v | greaterInt v => [.int v]
  | betweenInt low high => [.int low, .int high]
  | inInt32 values => [.int32s values]
  | inInt64 values => [.int64s values]
  | equalText s | notEqualText s | containsText s | startsWithText s | endsWithText s => [.text s]
  | lessFloat x | greaterFloat x => [.float x]

def of? : Comparison → List Operand → Option Test
  | .isNull, [] => some isNull
  | .notNull, [] => some notNull
  | .equal, [.int v] => some (equalInt v)
  | .equal, [.text s] => some (equalText s)
  | .notEqual, [.int v] => some (notEqualInt v)
  | .notEqual, [.text s] => some (notEqualText s)
  | .less, [.int v] => some (lessInt v)
  | .less, [.float x] => some (lessFloat x)
  | .greater, [.int v] => some (greaterInt v)
  | .greater, [.float x] => some (greaterFloat x)
  | .between, [.int low, .int high] => some (betweenInt low high)
  | .isIn, [.int32s values] => some (inInt32 values)
  | .isIn, [.int64s values] => some (inInt64 values)
  | .contains, [.text s] => some (containsText s)
  | .startsWith, [.text s] => some (startsWithText s)
  | .endsWith, [.text s] => some (endsWithText s)
  | _, _ => none

theorem of?_views (t : Test) : of? t.comparison t.operands = some t := by cases t <;> rfl

theorem eq_of_views {s t : Test} (comparison : s.comparison = t.comparison)
    (operands : s.operands = t.operands) : s = t := by
  have read := of?_views s
  rw [comparison, operands, of?_views t] at read
  exact (Option.some.inj read).symm

end Test

def EqualForm.given : EqualForm → Operand
  | int value => .int value
  | text (.whole value) => .text value
  | text (.slice value) => .text value.copy

def OrderOperand.given : OrderOperand → Operand
  | int value => .int value
  | float value => .float value

def SetForm.given : SetForm → Operand
  | int32 (.list values) => .int32s values
  | int32 (.array values) => .int32s values.toList
  | int32 (.vector values) => .int32s values.toList
  | int64 (.list values) => .int64s values
  | int64 (.array values) => .int64s values.toList
  | int64 (.vector values) => .int64s values.toList

namespace Invocation

def comparison : Invocation → Comparison
  | isNull => .isNull
  | notNull => .notNull
  | equal _ => .equal
  | notEqual _ => .notEqual
  | less _ => .less
  | greater _ => .greater
  | between _ _ => .between
  | isIn _ => .isIn
  | contains _ => .contains
  | startsWith _ => .startsWith
  | endsWith _ => .endsWith

def operands : Invocation → List Operand
  | isNull | notNull => []
  | equal form | notEqual form => [form.given]
  | less operand | greater operand => [operand.given]
  | between low high => [.int low, .int high]
  | isIn form => [form.given]
  | contains text | startsWith text | endsWith text => [.text text.copy]

theorem comparison_test (given : Invocation) :
    given.method.test.comparison = given.comparison := by
  cases given with
  | equal form | notEqual form | isIn form => cases form <;> rfl
  | less operand | greater operand => cases operand <;> rfl
  | _ => rfl

theorem operands_test (given : Invocation) : given.method.test.operands = given.operands := by
  cases given with
  | equal form | notEqual form =>
    cases form with
    | int => rfl
    | text form => cases form <;> rfl
  | isIn form =>
    cases form with
    | int32 form | int64 form => cases form <;> rfl
  | less operand | greater operand => cases operand <;> rfl
  | _ => rfl

/-- The form in which an operand is given makes no difference to what is forwarded. -/
theorem test_of_views {given other : Invocation} (comparison : other.comparison = given.comparison)
    (operands : other.operands = given.operands) : other.method.test = given.method.test := by
  apply Test.eq_of_views
  · rw [comparison_test, comparison_test, comparison]
  · rw [operands_test, operands_test, operands]

end Invocation

def EntityBox.announced (box : EntityBox) (context : ContextHandle) (op : EngineOp)
    (name : String) : Effect :=
  .noticed (.condition (if box.store.config.debug then .debug else .trace) box.entity context op
    name)

namespace Workspace

/-- An operation puts this condition to the engine, once, and everything that is said of it bears
the entry point of the condition. Histories are latest first. -/
structure Forwards (w : Workspace) (o : Operation) (box : EntityBox) (context : ContextHandle)
    (name : String) (c : Condition) : Prop where
  engine : (w.step o).2.engine = (w.engine.perform (.condition context c)).2
  called_once : (w.step o).2.calls =
    w.calls ++ [(.condition context c, (w.engine.perform (.condition context c)).1)]
  frame : (w.step o).2 =
    { w with engine := (w.step o).2.engine, history := (w.step o).2.history }
  labelled :
    ((w.engine.perform (.condition context c)).1 = .done ∧ (w.step o).1 = .done ∧
      (w.step o).2.history = box.store.recordings (.conditionAdded box.entity c.op) ++
        [.noticed (.conditionStored context c.op), .called (.condition context c) .done,
          box.announced context c.op name] ++ w.history) ∨
    ∃ error, (w.engine.perform (.condition context c)).1 = .refused error ∧
      (w.step o).1 = .refused (.engineRejected box.entity c.op error) ∧
      (w.step o).2.history = box.store.recordings (.engineRejected box.entity c.op) ++
        [.noticed (.engineRejected box.entity c.op error.message),
          .called (.condition context c) (.refused error),
          box.announced context c.op name] ++ w.history

variable {w : Workspace} {id : Nat} {box : EntityBox} {context : ContextHandle}

theorem forwards_condition (opened : w.builders[id]? = some ⟨box, some context⟩) (p : Property)
    (m : Method) : w.Forwards (.condition id p m) box context p.name ⟨p.id, m.test⟩ := by
  have label : (⟨p.id, m.test⟩ : Condition).op = m.op := m.op_test
  have stepped := step_condition opened p m
  rcases ended : w.engine.addCondition context ⟨p.id, m.test⟩ with ⟨r, engine⟩
  have performed := Engine.perform_condition ended
  cases r with
  | error error =>
    rw [apply_refused ended] at stepped
    constructor
    · rw [stepped, performed]
    · rw [stepped, performed]
      simp [calls, Engine.Outcome.ofExcept]
    · rw [stepped]
    · refine Or.inr ⟨error, ?_, ?_, ?_⟩
      · rw [performed]
        rfl
      · rw [stepped, label]
        rfl
      · rw [stepped, label]
        simp [EntityBox.refusal, EntityBox.announcement, EntityBox.announced]
  | ok done =>
    rw [apply_ok ended] at stepped
    constructor
    · rw [stepped, performed]
    · rw [stepped, performed]
      simp [calls, Engine.Outcome.ofExcept]
    · rw [stepped]
    · refine Or.inl ⟨?_, ?_, ?_⟩
      · rw [performed]
        rfl
      · rw [stepped]
        rfl
      · rw [stepped, label]
        simp [EntityBox.announcement, EntityBox.announced]

theorem step_condition_blind (opened : w.builders[id]? = some ⟨box, some context⟩)
    {p q : Property} {m m' : Method} (number : q.id = p.id) (test : m'.test = m.test) :
    (w.step (.condition id q m')).1 = (w.step (.condition id p m)).1 ∧
    (w.step (.condition id q m')).2.engine = (w.step (.condition id p m)).2.engine ∧
    (q.name = p.name → w.step (.condition id q m') = w.step (.condition id p m)) := by
  have label : m'.op = m.op := by rw [← m'.op_test, ← m.op_test, test]
  have same : (⟨q.id, m'.test⟩ : Condition) = ⟨p.id, m.test⟩ := by rw [number, test]
  have engine := (forwards_condition opened q m').engine
  rw [same, ← (forwards_condition opened p m).engine] at engine
  refine ⟨?_, engine, ?_⟩
  · rw [answer_of_condition opened, answer_of_condition opened, same, label]
  · intro name
    rw [step_condition opened, step_condition opened]
    simp only [apply, number, test, label, name]

theorem methods_forward_what_they_are_given
    (opened : w.builders[id]? = some ⟨box, some context⟩) (p : Property) (given : Invocation) :
    ∃ c : Condition, c.property = p.id ∧ c.test.comparison = given.comparison ∧
      c.test.operands = given.operands ∧
      (∀ d : Condition, d.property = p.id → d.test.comparison = given.comparison →
        d.test.operands = given.operands → d = c) ∧
      w.Forwards (.condition id p given.method) box context p.name c ∧
      ∀ (q : Property) (other : Invocation), q.id = p.id →
        other.comparison = given.comparison → other.operands = given.operands →
        (w.step (.condition id q other.method)).1 = (w.step (.condition id p given.method)).1 ∧
        (w.step (.condition id q other.method)).2.engine =
          (w.step (.condition id p given.method)).2.engine ∧
        (q.name = p.name →
          w.step (.condition id q other.method) = w.step (.condition id p given.method)) := by
  refine ⟨⟨p.id, given.method.test⟩, rfl, given.comparison_test, given.operands_test, ?_,
    forwards_condition opened p given.method, ?_⟩
  · intro d property comparison operands
    obtain ⟨number, test⟩ := d
    obtain rfl : number = p.id := property
    have same : test = given.method.test := by
      apply Test.eq_of_views
      · rw [comparison, given.comparison_test]
      · rw [operands, given.operands_test]
    rw [same]
  · intro q other number comparison operands
    exact step_condition_blind opened number (Invocation.test_of_views comparison operands)

/-- The record of the property says that it is a number called `total`; the engine knows it as a
text. Numbers are given in each of the three containers, a text whole and as a part of another. -/
theorem misdescribed_property_is_forwarded :
    let w := after (sampleRun.take 7)
    let p : Property := ⟨⟨1⟩, "total", .int64⟩
    let numbers (form : ListForm Int32) := (Invocation.isIn (.int32 form)).method
    let text (form : TextForm) := (Invocation.equal (.text form)).method
    let slice : TextForm := .slice ("unpaid".toSlice.drop 2)
    let mismatch : EngineError := .typeMismatch ⟨1⟩ .text .int64
    ∃ box context, w.builders[1]? = some ⟨box, some context⟩ ∧
      ((w.step (.condition 1 p (numbers (.array #[3, 1, 3])))).1 =
          .refused (.engineRejected "Order" .inInt32 mismatch) ∧
        (w.step (.condition 1 p (numbers (.array #[3, 1, 3])))).2.calls = w.calls ++
          [(.condition context ⟨⟨1⟩, .inInt32 [3, 1, 3]⟩, .refused mismatch)] ∧
        w.step (.condition 1 ⟨⟨1⟩, "total", .text⟩ (numbers (.list [3, 1, 3]))) =
          w.step (.condition 1 p (numbers (.array #[3, 1, 3]))) ∧
        w.step (.condition 1 p (numbers (.vector #v[3, 1, 3]))) =
          w.step (.condition 1 p (numbers (.array #[3, 1, 3])))) ∧
      (w.step (.condition 1 p (text slice))).1 = .done ∧
        (w.step (.condition 1 p (text slice))).2.calls = w.calls ++
          [(.condition context ⟨⟨1⟩, .equalText "paid"⟩, .done)] ∧
        w.step (.condition 1 p (text (.whole "paid"))) = w.step (.condition 1 p (text slice)) := by
  intro w p numbers text slice mismatch
  let box : EntityBox := ⟨{ session := ⟨1, by decide⟩ }, "Order", 0⟩
  have opened : w.builders[1]? = some ⟨box, some ⟨3, by decide⟩⟩ := by decide +kernel
  refine ⟨box, _, opened, ?numbers, ?text⟩
  case numbers =>
    obtain ⟨c, -, -, -, only, forwards, same⟩ := methods_forward_what_they_are_given opened p
      (.isIn (.int32 (.array #[3, 1, 3])))
    obtain rfl : ⟨⟨1⟩, .inInt32 [3, 1, 3]⟩ = c := only _ rfl rfl rfl
    have refused : (w.engine.perform
        (.condition ⟨3, by decide⟩ ⟨⟨1⟩, .inInt32 [3, 1, 3]⟩)).1 = .refused mismatch := by
      decide +kernel
    refine ⟨?_, ?_, ?_, ?_⟩
    · rcases forwards.labelled with ⟨done, -⟩ | ⟨error, outcome, answer, -⟩
      · rw [refused] at done
        contradiction
      · rw [refused] at outcome
        cases outcome
        exact answer
    · rw [forwards.called_once, refused]
    · exact (same ⟨⟨1⟩, "total", .text⟩ (.isIn (.int32 (.list [3, 1, 3]))) rfl rfl rfl).2.2 rfl
    · exact (same p (.isIn (.int32 (.vector #v[3, 1, 3]))) rfl rfl rfl).2.2 rfl
  case text =>
    obtain ⟨c, -, -, -, only, forwards, same⟩ := methods_forward_what_they_are_given opened p
      (.equal (.text slice))
    obtain rfl : ⟨⟨1⟩, .equalText "paid"⟩ = c := only _ rfl rfl rfl
    have done : (w.engine.perform (.condition ⟨3, by decide⟩ ⟨⟨1⟩, .equalText "paid"⟩)).1 =
        .done := by
      decide +kernel
    refine ⟨?_, ?_, ?_⟩
    · rcases forwards.labelled with ⟨-, answer, -⟩ | ⟨error, outcome, -⟩
      · exact answer
      · rw [done] at outcome
        contradiction
    · rw [forwards.called_once, done]
    · exact (same p (.equal (.text (.whole "paid"))) rfl rfl rfl).2.2 rfl

end Workspace

end ObjectQuery
