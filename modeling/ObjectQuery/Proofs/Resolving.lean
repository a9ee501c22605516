import ObjectQuery.Proofs.Families

/-!
Models are resolved once for each family, and before the engine. A family asks for its model
whenever one of its boxes is asked and none is known; the first resolution that bears the name of
the entity is kept, and what came before it were failures. What is kept is shared by every copy and
is never asked for again. Resolutions are whatever has been lined up for the entity by then.
-/
namespace ObjectQuery

theorem Metadata.calls_resolve (m : Metadata) (entity : String) :
    (m.resolve entity).2.calls = m.calls + 1 := by
  unfold resolve
  dsimp only
  split <;> rfl

/-- The answer tells of this model or of this failure. A builder that is opened over a model goes on
to the engine; it does not fail for want of one. -/
def Operation.Hears (entity : String) (o : Operation) (r : Except Failure EntityModel)
    (a : Answer) : Prop :=
  match o.reply? entity r with
  | some answer => a = answer
  | none => ∀ failure, a ≠ .refused (.modelUnresolved failure)

namespace Workspace

def asked (w : Workspace) (o : Operation) : List (Nat × Except Failure EntityModel) :=
  match w.consulted? o with
  | none => []
  | some box => match w.resolved? box with
    | some _ => []
    | none => [(box.cell, (w.metadata.resolve box.entity).1.verdict box.entity)]

def asks (operations : List Operation) : List (Nat × Except Failure EntityModel) :=
  along asked {} operations

def verdicts (cell : Nat) (operations : List Operation) : List (Except Failure EntityModel) :=
  ((asks operations).filter fun entry => entry.1 == cell).map Prod.snd

section Resolving

variable {w w' : Workspace} {o : Operation} {a : Answer} {box other : EntityBox}
  {model : EntityModel} {failure : Failure}

theorem resolved_of_cells (cells : w'.cells = w.cells) (box : EntityBox) :
    w'.resolved? box = w.resolved? box := by
  rw [resolved?, cells, resolved?]

theorem metadata_of_unresolved (unresolved : w.resolved? box = none) :
    (w.properties box).2.metadata = (w.metadata.resolve box.entity).2 := by
  cases verdict : (w.metadata.resolve box.entity).1.verdict box.entity with
  | ok model => rw [properties_settled unresolved verdict]
  | error failure => rw [properties_failed unresolved verdict]

theorem reply_of_unresolved (unresolved : w.resolved? box = none) :
    (w.properties box).1 = (w.metadata.resolve box.entity).1.verdict box.entity := by
  cases verdict : (w.metadata.resolve box.entity).1.verdict box.entity with
  | ok model => rw [properties_settled unresolved verdict]
  | error failure => rw [properties_failed unresolved verdict]

theorem resolved_of_unresolved (bound : box.cell < w.cells.length)
    (unresolved : w.resolved? box = none) (other : EntityBox) :
    (w.properties box).2.resolved? other =
      if other.cell = box.cell then
        ((w.metadata.resolve box.entity).1.verdict box.entity).toOption
      else w.resolved? other := by
  cases verdict : (w.metadata.resolve box.entity).1.verdict box.entity with
  | ok model =>
    rw [properties_settled unresolved verdict]
    by_cases family : other.cell = box.cell
    · simp [resolved?, family, bound, Except.toOption]
    · simp [resolved?, family, List.getElem?_set_ne (Ne.symm family)]
  | error failure =>
    rw [properties_failed unresolved verdict]
    by_cases family : other.cell = box.cell
    · rw [if_pos family]
      have same : w.resolved? other = w.resolved? box := by rw [resolved?, family, resolved?]
      exact same.trans unresolved
    · rw [if_neg family]
      rfl

theorem consulted_of_lacks (absent : w.lacks o = true) : w.consulted? o = none := by
  cases o <;> simp_all [lacks, consulted?]

theorem consulted_of_owner {owner : Owner}
    (known : o.asks? = some owner ∨ o.releases? = some owner) : w.consulted? o = none := by
  cases o <;> first | rfl | simp [Operation.asks?, Operation.releases?] at known

theorem consulted_deed (asking : w.consulted? o = some box) (deed : Deed w o a w') :
    w'.metadata = (w.properties box).2.metadata ∧ w'.cells = (w.properties box).2.cells ∧
      o.Hears box.entity (w.properties box).1 a ∧
      ∀ failure, (w.properties box).1 = .error failure → w' = (w.properties box).2 := by
  cases deed with
  | unknown absent => simp [consulted_of_lacks absent] at asking
  | @told o a other asked reply =>
    obtain rfl : other = box := Option.some.inj (asked.symm.trans asking)
    refine ⟨rfl, rfl, ?_, fun _ _ => rfl⟩
    rw [Operation.Hears, reply]
  | @openRefused id other model w' error engine found resolution failed =>
    obtain rfl : other = box := Option.some.inj (found.symm.trans asking)
    rw [resolution]
    exact ⟨rfl, rfl, by simp [Operation.Hears, Operation.reply?], by simp⟩
  | @opened id other model w' context engine found resolution done =>
    obtain rfl : other = box := Option.some.inj (found.symm.trans asking)
    rw [resolution]
    exact ⟨rfl, rfl, by simp [Operation.Hears, Operation.reply?], by simp⟩
  | @boxCopied o other copied =>
    cases o <;> contradiction
  | @builderReleased _ id other context onDrop release found =>
    cases onDrop <;> subst release <;> contradiction
  | @queryReleased _ id other query onDrop release found =>
    cases onDrop <;> subst release <;> contradiction
  | refusedClosed closed asks => simp [consulted_of_owner (Or.inl asks)] at asking
  | releasedClosed closed releasing => simp [consulted_of_owner (Or.inr releasing)] at asking
  | _ => contradiction

theorem unconsulted_deed (nobody : w.consulted? o = none) (deed : Deed w o a w') :
    w'.metadata.calls = w.metadata.calls ∧ ∀ box, w'.resolved? box = w.resolved? box := by
  cases deed with
  | boxMade =>
    refine ⟨rfl, fun box => ?_⟩
    rw [resolved?, resolved?]
    dsimp only
    rcases Nat.lt_or_ge box.cell w.cells.length with bound | beyond
    · rw [List.getElem?_append_left bound]
    · rw [List.getElem?_append_right beyond, List.getElem?_eq_none beyond]
      cases box.cell - w.cells.length <;> rfl
  | told asked reply => simp [asked] at nobody
  | openRefused found resolution failed => simp [consulted?, found] at nobody
  | opened found resolution done => simp [consulted?, found] at nobody
  | _ => exact ⟨rfl, fun _ => rfl⟩

theorem step_of_resolved (asking : w.consulted? o = some box)
    (resolved : w.resolved? box = some model) :
    (w.step o).2.metadata = w.metadata ∧
      (∀ other, (w.step o).2.resolved? other = w.resolved? other) ∧
      o.Hears box.entity (.ok model) (w.step o).1 := by
  obtain ⟨metadata, cells, heard, -⟩ := consulted_deed asking (deed_of_step w o)
  rw [properties_resolved resolved] at metadata cells heard
  exact ⟨metadata, resolved_of_cells cells, heard⟩

theorem step_of_unresolved (bound : box.cell < w.cells.length)
    (asking : w.consulted? o = some box) (unresolved : w.resolved? box = none) :
    let verdict := (w.metadata.resolve box.entity).1.verdict box.entity
    (w.step o).2.metadata = (w.metadata.resolve box.entity).2 ∧
      (∀ other, (w.step o).2.resolved? other =
        if other.cell = box.cell then verdict.toOption else w.resolved? other) ∧
      o.Hears box.entity verdict (w.step o).1 ∧
      ∀ failure, verdict = .error failure →
        (w.step o).2 = { w with metadata := (w.metadata.resolve box.entity).2 } := by
  intro verdict
  obtain ⟨metadata, cells, heard, failing⟩ := consulted_deed asking (deed_of_step w o)
  rw [reply_of_unresolved unresolved] at heard failing
  refine ⟨?_, ?_, heard, ?_⟩
  · rw [metadata, metadata_of_unresolved unresolved]
  · intro other
    rw [resolved_of_cells cells, resolved_of_unresolved bound unresolved]
  · intro failure failed
    rw [failing failure failed, properties_failed unresolved failed]

/-- An operation leaves models as they are, or has one asked for by a family that has none. -/
theorem models_of_step (bound : ∀ box, w.consulted? o = some box → box.cell < w.cells.length) :
    (w.asked o = [] ∧ (w.step o).2.metadata.calls = w.metadata.calls ∧
      ∀ other, (w.step o).2.resolved? other = w.resolved? other) ∨
    ∃ box verdict, w.resolved? box = none ∧ w.asked o = [(box.cell, verdict)] ∧
      (w.step o).2.metadata.calls = w.metadata.calls + 1 ∧
      ∀ other, (w.step o).2.resolved? other =
        if other.cell = box.cell then verdict.toOption else w.resolved? other := by
  cases asking : w.consulted? o with
  | none =>
    obtain ⟨calls, same⟩ := unconsulted_deed asking (deed_of_step w o)
    exact Or.inl ⟨by simp [asked, asking], calls, same⟩
  | some box =>
    cases resolved : w.resolved? box with
    | some model =>
      obtain ⟨metadata, same, -⟩ := step_of_resolved asking resolved
      exact Or.inl ⟨by simp [asked, asking, resolved], by rw [metadata], same⟩
    | none =>
      obtain ⟨metadata, shared, -⟩ := step_of_unresolved (bound box asking) asking resolved
      refine Or.inr ⟨box, _, resolved, by simp [asked, asking, resolved], ?_, shared⟩
      rw [metadata, Metadata.calls_resolve]

theorem calls_of_step (bound : ∀ box, w.consulted? o = some box → box.cell < w.cells.length) :
    (w.step o).2.metadata.calls = w.metadata.calls + (w.asked o).length := by
  rcases models_of_step bound with ⟨nothing, calls, -⟩ | ⟨box, verdict, -, asked, calls, -⟩
  · rw [nothing, calls]
    rfl
  · rw [asked, calls]
    rfl

theorem verdicts_of_step (bound : ∀ box, w.consulted? o = some box → box.cell < w.cells.length)
    (other : EntityBox) : ∃ failures : List Failure,
    (w.resolved? other).toList.map .ok ++
        ((w.asked o).filter fun entry => entry.1 == other.cell).map Prod.snd =
      failures.map Except.error ++ ((w.step o).2.resolved? other).toList.map .ok := by
  rcases models_of_step bound with
    ⟨nothing, -, same⟩ | ⟨box, verdict, unresolved, asked, -, shared⟩
  · rw [nothing, same]
    exact ⟨[], by simp⟩
  · rw [asked, shared]
    by_cases family : other.cell = box.cell
    · have none_yet : w.resolved? other = none := by rwa [resolved?, family]
      rw [if_pos family, none_yet]
      cases verdict with
      | ok model => exact ⟨[], by simp [family, Except.toOption]⟩
      | error failure => exact ⟨[failure], by simp [family, Except.toOption]⟩
    · rw [if_neg family]
      exact ⟨[], by simp [Ne.symm family]⟩

theorem resolved_of_step (bound : ∀ box, w.consulted? o = some box → box.cell < w.cells.length)
    (resolved : w.resolved? other = some model) :
    (w.step o).2.resolved? other = some model := by
  rcases models_of_step bound with ⟨-, -, same⟩ | ⟨box, verdict, unresolved, -, -, shared⟩
  · rw [same, resolved]
  · have differs : other.cell ≠ box.cell := by
      intro family
      have none_yet : w.resolved? other = none := by rwa [resolved?, family]
      exact Option.some_ne_none model (resolved.symm.trans none_yet)
    rw [shared, if_neg differs, resolved]

end Resolving

theorem consulted_bound (operations : List Operation) (o : Operation) (box : EntityBox)
    (asking : (after operations).consulted? o = some box) :
    box.cell < (after operations).cells.length :=
  (kin_of_after operations).cell_lt (holds_of_consulted asking)

theorem calls_of_after (operations : List Operation) :
    (after operations).metadata.calls = (asks operations).length := by
  induction operations using List.reverseRecOn with
  | nil => rfl
  | append_singleton earlier o ih =>
    rw [asks, along_concat, List.length_append, after, run_concat]
    exact (calls_of_step (consulted_bound earlier o)).trans (by rw [ih]; rfl)

theorem verdicts_concat (cell : Nat) (earlier : List Operation) (o : Operation) :
    verdicts cell (earlier ++ [o]) = verdicts cell earlier ++
      (((after earlier).asked o).filter fun entry => entry.1 == cell).map Prod.snd := by
  rw [verdicts, asks, along_concat, List.filter_append, List.map_append]
  rfl

theorem verdicts_of_after (operations : List Operation) (box : EntityBox) :
    ∃ failures : List Failure, verdicts box.cell operations =
      failures.map Except.error ++ ((after operations).resolved? box).toList.map .ok := by
  induction operations using List.reverseRecOn with
  | nil => exact ⟨[], rfl⟩
  | append_singleton earlier o ih =>
    obtain ⟨failures, told⟩ := ih
    obtain ⟨added, step⟩ := verdicts_of_step (consulted_bound earlier o) box
    refine ⟨failures ++ added, ?_⟩
    rw [verdicts_concat, told, List.append_assoc, step, List.map_append, List.append_assoc, after,
      after, run_concat]

theorem resolved_of_after {operations : List Operation} {box : EntityBox} {model : EntityModel}
    (resolved : (after operations).resolved? box = some model) (more : List Operation) :
    (after (operations ++ more)).resolved? box = some model := by
  induction more using List.reverseRecOn with
  | nil => rwa [List.append_nil]
  | append_singleton earlier o ih =>
    rw [← List.append_assoc, after, run_concat]
    exact resolved_of_step (consulted_bound (operations ++ earlier) o) ih

/-- The calls for models are those that families without a model have made. The verdicts on what a
family was given are failures and then, if it has a model, that model, which it keeps: so it asks
each time until the first good model and never again. Boxes of a family are alike and share what
it has; other families and all else are left alone where there is no model yet. -/
theorem models_are_resolved_once (operations : List Operation) :
    let w := after operations
    w.metadata.calls = (asks operations).length ∧
    (∀ box, ∃ failures : List Failure, verdicts box.cell operations =
      failures.map Except.error ++ (w.resolved? box).toList.map .ok) ∧
    (∀ box model, w.resolved? box = some model →
      ∀ more, (after (operations ++ more)).resolved? box = some model) ∧
    (∀ box, w.Holds box → (founders operations)[box.cell]? = some box) ∧
    ∀ o,
      (w.consulted? o = none → (w.step o).2.metadata.calls = w.metadata.calls ∧
        ∀ box, (w.step o).2.resolved? box = w.resolved? box) ∧
      ∀ box, w.consulted? o = some box →
        (∀ model, w.resolved? box = some model →
          (w.step o).2.metadata = w.metadata ∧
          (∀ other, (w.step o).2.resolved? other = w.resolved? other) ∧
          o.Hears box.entity (.ok model) (w.step o).1) ∧
        (w.resolved? box = none →
          let verdict := (w.metadata.resolve box.entity).1.verdict box.entity
          (w.step o).2.metadata = (w.metadata.resolve box.entity).2 ∧
          (w.step o).2.metadata.calls = w.metadata.calls + 1 ∧
          (∀ other, (w.step o).2.resolved? other =
            if other.cell = box.cell then verdict.toOption else w.resolved? other) ∧
          o.Hears box.entity verdict (w.step o).1 ∧
          ∀ failure, verdict = .error failure →
            (w.step o).2 = { w with metadata := (w.metadata.resolve box.entity).2 }) := by
  intro w
  refine ⟨calls_of_after operations, verdicts_of_after operations,
    fun box model resolved => resolved_of_after resolved,
    fun box held => (kin_of_after operations).founder held, ?_⟩
  intro o
  refine ⟨fun nobody => unconsulted_deed nobody (deed_of_step w o), ?_⟩
  intro box asking
  refine ⟨fun model resolved => step_of_resolved asking resolved, ?_⟩
  intro unresolved verdict
  have bound := consulted_bound operations o box asking
  obtain ⟨metadata, rest⟩ := step_of_unresolved bound asking unresolved
  exact ⟨metadata, by rw [metadata, Metadata.calls_resolve], rest⟩

/-- Two families of one entity, which is given a failure, a model of another name and two good
models. A fault waits for the first builder. -/
def resolvingRun : List Operation :=
  [.engine (.register ⟨"Order", [⟨⟨1⟩, "note", .text⟩]⟩),
    .engine .openSession,
    .lineUp "Order" [.failed (.modelUnresolved "Order" "offline"), .model ⟨"Item", []⟩,
      .model ⟨"Order", [⟨⟨1⟩, "note", .text⟩]⟩, .model ⟨"Order", []⟩],
    .openStore (HandleCounter.start.peek .session),
    .newBox 0 "Order",
    .copyBox 0,
    .newBox 0 "Order",
    .engine (.failNext .createContext (.unknownContext 9)),
    .openBuilder 0,
    .properties 1,
    .property 0 "note",
    .openBuilder 1,
    .openBuilder 0,
    .boxOfBuilder 0,
    .properties 3,
    .properties 2]

theorem resolvingRun_models :
    let copy : EntityBox := ⟨{ session := ⟨1, by decide⟩ }, "Order", 0⟩
    let order : EntityModel := ⟨"Order", [⟨⟨1⟩, "note", .text⟩]⟩
    let offline : Failure := .modelUnresolved "Order" "offline"
    (after resolvingRun).metadata.calls = 4 ∧
    (after (resolvingRun ++ [.lineUp "Order" [], .properties 3])).resolved? copy = some order ∧
    ((after resolvingRun).step (.properties 3)).1 = .model order ∧
    ((after (resolvingRun.take 8)).step (.openBuilder 0)).1 = .refused (.modelUnresolved offline) ∧
    ((after (resolvingRun.take 8)).step (.openBuilder 0)).2.engine =
      (after (resolvingRun.take 8)).engine := by
  intro copy order offline
  obtain ⟨calls, -, kept, -, operations⟩ := models_are_resolved_once resolvingRun
  obtain ⟨-, -, -, -, earlier⟩ := models_are_resolved_once (resolvingRun.take 8)
  have resolved : (after resolvingRun).resolved? copy = some order := by decide +kernel
  have shown := (operations (.properties 3)).2 copy (by decide +kernel)
  have failed : ((after (resolvingRun.take 8)).metadata.resolve "Order").1.verdict "Order" =
      .error offline := by
    decide +kernel
  obtain ⟨-, -, -, refused, nothing⟩ :=
    ((earlier (.openBuilder 0)).2 copy (by decide +kernel)).2 (by decide +kernel)
  rw [failed] at refused
  refine ⟨?_, kept copy order resolved _, (shown.1 order resolved).2.2, refused, ?_⟩
  · rw [calls]
    decide +kernel
  · rw [nothing offline failed]

end Workspace

end ObjectQuery
