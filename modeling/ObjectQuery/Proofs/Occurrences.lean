import ObjectQuery.Proofs.Routing

/-!
A run as a list of occurrences. An occurrence is an operation with its answer and with the events
it has added to the history, and it belongs to the builder or query that was opened, asked or
released. The events of a run are those of its occurrences, and nothing belongs to an owner that
has not come to be.
-/
namespace ObjectQuery

structure Occurrence where
  operation : Operation
  answer : Answer
  events : List Event
  deriving DecidableEq, Repr

namespace Occurrence

/-- The builder or query that was opened, asked or released, if there was one. -/
def owner? (x : Occurrence) : Option Owner :=
  match x.operation with
  | .openBuilder _ => match x.answer with
    | .builder id => some (.builder id)
    | _ => none
  | o => if x.answer = .unknown then none else o.asks?.or o.releases?

variable {o : Operation} {a : Answer} {events : List Event} {owner : Owner}

theorem owner_of_named (named : o.asks? = some owner ∨ o.releases? = some owner)
    (known : a ≠ .unknown) : (⟨o, a, events⟩ : Occurrence).owner? = some owner := by
  cases o with
  | condition | build | closeBuilder | dropBuilder | queryHandle | closeQuery | dropQuery =>
    simpa [owner?, known, Operation.asks?, Operation.releases?] using named
  | _ => simp [Operation.asks?, Operation.releases?] at named

theorem owner_cases (owned : (⟨o, a, events⟩ : Occurrence).owner? = some owner) :
    (∃ box id, o = .openBuilder box ∧ a = .builder id ∧ owner = .builder id) ∨
      a ≠ .unknown ∧ (o.asks? = some owner ∨ o.releases? = some owner) := by
  cases o with
  | openBuilder box =>
    cases a with
    | builder id => exact Or.inl ⟨box, id, rfl, rfl, (Option.some.inj owned).symm⟩
    | _ => contradiction
  | condition | build | closeBuilder | dropBuilder | queryHandle | closeQuery | dropQuery =>
    right
    simpa [owner?, Operation.asks?, Operation.releases?] using owned
  | _ => simp [owner?, Operation.asks?, Operation.releases?] at owned

end Occurrence

def lifeOf (owner : Owner) (occurrences : List Occurrence) : List Occurrence :=
  occurrences.filter (·.owner? = some owner)

theorem lifeOf_append (owner : Owner) (before after : List Occurrence) :
    lifeOf owner (before ++ after) = lifeOf owner before ++ lifeOf owner after :=
  List.filter_append ..

theorem lifeOf_cons_of_owned {owner : Owner} {x : Occurrence} (owned : x.owner? = some owner)
    (rest : List Occurrence) : lifeOf owner (x :: rest) = x :: lifeOf owner rest :=
  List.filter_cons_of_pos (by simpa using owned)

theorem lifeOf_cons_of_not_owned {owner : Owner} {x : Occurrence} (other : x.owner? ≠ some owner)
    (rest : List Occurrence) : lifeOf owner (x :: rest) = lifeOf owner rest :=
  List.filter_cons_of_neg (by simpa using other)

/-- The occurrences that belong to one of two owners, as they come. -/
def livesOf (first second : Owner) (occurrences : List Occurrence) : List Occurrence :=
  occurrences.filter fun x => x.owner? = some first ∨ x.owner? = some second

section LivesOf

variable {first second : Owner} {occurrences : List Occurrence}

theorem lifeOf_livesOf_left :
    lifeOf first (livesOf first second occurrences) = lifeOf first occurrences := by
  rw [lifeOf, livesOf, List.filter_filter]
  apply List.filter_congr
  intro x member
  by_cases owned : x.owner? = some first <;> simp [owned]

theorem lifeOf_livesOf_right :
    lifeOf second (livesOf first second occurrences) = lifeOf second occurrences := by
  rw [lifeOf, livesOf, List.filter_filter]
  apply List.filter_congr
  intro x member
  by_cases owned : x.owner? = some second <;> simp [owned]

theorem livesOf_of_absent (first : Owner) (absent : lifeOf second occurrences = []) :
    livesOf first second occurrences = lifeOf first occurrences := by
  apply List.filter_congr
  intro x member
  have other : x.owner? ≠ some second := by
    simpa using List.filter_eq_nil_iff.mp absent x member
  simp [other]

end LivesOf

namespace Workspace

def occurrence (w : Workspace) (o : Operation) : Occurrence :=
  ⟨o, (w.step o).1, (w.step o).2.events.drop w.events.length⟩

def occurrences (w : Workspace) (operations : List Operation) : List Occurrence :=
  w.along (fun w o => [w.occurrence o]) operations

variable {w w' : Workspace} {o : Operation} {a : Answer} {box : EntityBox} {owner : Owner}

theorem occurrences_cons (w : Workspace) (o : Operation) (rest : List Operation) :
    w.occurrences (o :: rest) = w.occurrence o :: (w.step o).2.occurrences rest := rfl

theorem occurrences_append (w : Workspace) (operations more : List Operation) :
    w.occurrences (operations ++ more) =
      w.occurrences operations ++ (w.run operations).2.occurrences more :=
  along_append _ w operations more

theorem events_of_deed (deed : Deed w o a w') :
    w'.events = w.events ++ (w.news o a).filterMap Effect.event? := by
  have silent : ∀ e : Effect, e.isNews = false → e.event? = none := by
    intro e quiet
    cases e <;> first | rfl | contradiction
  have recorded (w : Workspace) :
      w.events = ((w.history.filter Effect.isNews).filterMap Effect.event?).reverse := by
    rw [filterMap_of_silent silent]
    rfl
  rw [recorded w', recorded w, news_of_deed deed]
  simp

theorem events_of_occurrence (w : Workspace) (o : Operation) :
    (w.occurrence o).events = (w.news o (w.step o).1).filterMap Effect.event? := by
  change (w.step o).2.events.drop w.events.length = _
  rw [events_of_deed (deed_of_step w o), List.drop_left]

theorem events_of_actor {isOpen : Bool} (actor : w.actor? o = some (box, isOpen))
    (metrics : box.store.config.metrics = true) :
    (w.occurrence o).events = o.events box.entity isOpen (w.step o).1 := by
  have sent (e : Event) : (box.store.recordings e).filterMap Effect.event? = [e] := by
    rw [Store.recordings, if_pos metrics]
    rfl
  rw [events_of_occurrence, news_of_actor actor, List.filterMap_flatMap]
  simp [sent]

/-- Only openings that fail tell something that belongs to nobody. -/
theorem events_of_not_owned (nobody : (w.occurrence o).owner? = none)
    (other : ∀ box, o ≠ .openBuilder box) : (w.occurrence o).events = [] := by
  have unanswered {named : Owner} (naming : o.asks? = some named ∨ o.releases? = some named) :
      (w.step o).1 = .unknown := by
    by_contra known
    have owned : (w.occurrence o).owner? = some named := Occurrence.owner_of_named naming known
    rw [nobody] at owned
    contradiction
  have unemitted : w.emitted o (w.step o).1 = [] := by
    unfold emitted
    cases o with
    | condition | build | queryHandle =>
      rw [unanswered (Or.inl rfl)]
      split <;> rfl
    | closeBuilder | dropBuilder | closeQuery | dropQuery =>
      rw [unanswered (Or.inr rfl)]
      split <;> rfl
    | openBuilder box => exact absurd rfl (other box)
    | _ => rfl
  rw [events_of_occurrence]
  cases o with
  | resetReport => rfl
  | _ => simp [news, unemitted]

theorem exists_of_occurrence {operations : List Operation} {x : Occurrence}
    (member : x ∈ w.occurrences operations) : ∃ v o, x = occurrence v o := by
  induction operations generalizing w with
  | nil => contradiction
  | cons o rest ih =>
    rw [occurrences_cons] at member
    rcases List.mem_cons.mp member with rfl | later
    · exact ⟨w, o, rfl⟩
    · exact ih later

theorem events_of_run (w : Workspace) (operations : List Operation) :
    (w.run operations).2.events =
      w.events ++ (w.occurrences operations).flatMap Occurrence.events := by
  induction operations generalizing w with
  | nil => exact (List.append_nil _).symm
  | cons o rest ih =>
    rw [run, ih, events_of_deed (deed_of_step w o), ← events_of_occurrence, occurrences_cons,
      List.flatMap_cons, List.append_assoc]

theorem Keeps.boxOf? (keeps : w.Keeps w') (found : w.ledger.boxOf? owner = some box) :
    w'.ledger.boxOf? owner = some box := by
  have kept {α : Type} {f : α → EntityBox} {l l' : List α} {i : Nat}
      (more : l.map f <+: l'.map f) (found : l[i]?.map f = some box) : l'[i]?.map f = some box := by
    obtain ⟨rest, same⟩ := more
    rw [← List.getElem?_map] at found ⊢
    obtain ⟨bound, -⟩ := List.getElem?_eq_some_iff.mp found
    rw [← same, List.getElem?_append_left bound, found]
  cases owner with
  | builder id => exact kept keeps.builders found
  | query id => exact kept keeps.queries found

theorem answer_of_nobody (absent : w.ledger.boxOf? owner = none)
    (named : o.asks? = some owner ∨ o.releases? = some owner) : (w.step o).1 = .unknown := by
  cases owner with
  | builder id =>
    have missing : w.builders[id]? = none := Option.map_eq_none_iff.mp absent
    cases o with
    | condition i p m | build i | closeBuilder i | dropBuilder i =>
      obtain rfl : i = id := by simpa [Operation.asks?, Operation.releases?] using named
      simp [step, on, missing]
    | _ => simp [Operation.asks?, Operation.releases?] at named
  | query id =>
    have missing : w.queries[id]? = none := Option.map_eq_none_iff.mp absent
    cases o with
    | queryHandle i | closeQuery i | dropQuery i =>
      obtain rfl : i = id := by simpa [Operation.asks?, Operation.releases?] using named
      simp [step, on, missing]
    | _ => simp [Operation.asks?, Operation.releases?] at named

theorem builders_properties (box : EntityBox) : (w.properties box).2.builders = w.builders := by
  obtain ⟨metadata, cells, effects, leaves, -⟩ := properties_owners (w := w) box
  rw [leaves]

theorem builders_of_resolution {r : Except Failure EntityModel}
    (resolution : w.properties box = (r, w')) : w'.builders = w.builders := by
  have kept := builders_properties (w := w) box
  rwa [resolution] at kept

theorem builders_of_deed (deed : Deed w o a w') :
    w'.builders.length = w.builders.length ∨
      ∃ id b, o = .openBuilder id ∧ a = .builder w.builders.length ∧
        w'.builders = w.builders ++ [b] := by
  cases deed with
  | told asked reply => exact Or.inl (by rw [builders_properties])
  | @openRefused id box model w' error engine found resolution failed =>
    have same := builders_of_resolution resolution
    exact Or.inl (congrArg List.length same)
  | @opened id box model w' context engine found resolution done =>
    have same := builders_of_resolution resolution
    exact Or.inr ⟨id, _, rfl, by rw [same], by rw [same]⟩
  | buildRefused | built | builderReleased => exact Or.inl List.length_set
  | _ => exact Or.inl rfl

theorem opened_of_answer {id i : Nat} (answered : (w.step (.openBuilder id)).1 = .builder i) :
    i = w.builders.length ∧ ∃ box context, w.boxes[id]? = some box ∧
      (w.step (.openBuilder id)).2.builders = w.builders ++ [⟨box, some context⟩] := by
  have deed := deed_of_step w (.openBuilder id)
  rw [answered] at deed
  generalize (w.step (.openBuilder id)).2 = w' at deed ⊢
  cases deed with
  | @told _ _ box asked reply =>
    cases verdict : (w.properties box).1 with
    | ok model | error failure => simp [Operation.reply?, verdict] at reply
  | @opened _ box model w' context engine found resolution done =>
    have same := builders_of_resolution resolution
    exact ⟨by rw [same], box, context, found, by rw [same]⟩

theorem opened_in_run {i : Nat} (absent : w.builders.length ≤ i) {operations : List Operation}
    (present : i < (w.run operations).2.builders.length) :
    ∃ past id future, operations = past ++ .openBuilder id :: future ∧
      ((w.run past).2.step (.openBuilder id)).1 = .builder i := by
  induction operations generalizing w with
  | nil =>
    change i < w.builders.length at present
    omega
  | cons o rest ih =>
    have later (still : (w.step o).2.builders.length ≤ i) := ih still present
    rcases builders_of_deed (deed_of_step w o) with same | ⟨id, b, rfl, answer, grown⟩
    · obtain ⟨past, id, future, rfl, opened⟩ := later (by omega)
      exact ⟨o :: past, id, future, rfl, opened⟩
    · by_cases last : w.builders.length = i
      · exact ⟨[], id, rest, rfl, by rw [← last]; exact answer⟩
      · have still : (w.step (.openBuilder id)).2.builders.length ≤ i := by
          rw [grown, List.length_append, List.length_singleton]
          omega
        obtain ⟨past, id', future, rfl, opened⟩ := later still
        exact ⟨.openBuilder id :: past, id', future, rfl, opened⟩

theorem present_of_owned (owned : (w.occurrence o).owner? = some owner) :
    ((w.step o).2.ledger.boxOf? owner).isSome := by
  rcases Occurrence.owner_cases owned with ⟨id, i, rfl, answered, rfl⟩ | ⟨known, named⟩
  · obtain ⟨rfl, box, context, -, grown⟩ := opened_of_answer answered
    change ((w.step (.openBuilder id)).2.builders[w.builders.length]?.map Builder.box).isSome
    simp [grown]
  · cases found : w.ledger.boxOf? owner with
    | none => exact absurd (answer_of_nobody found named) known
    | some box =>
      rw [(keeps_deed (deed_of_step w o)).boxOf? found]
      rfl

theorem lifeOf_absent {operations : List Operation}
    (absent : (w.run operations).2.ledger.boxOf? owner = none) :
    lifeOf owner (w.occurrences operations) = [] := by
  induction operations generalizing w with
  | nil => rfl
  | cons o rest ih =>
    have other : (w.occurrence o).owner? ≠ some owner := by
      intro owned
      obtain ⟨box, present⟩ := Option.isSome_iff_exists.mp (present_of_owned owned)
      have still := (keeps_of_run (w.step o).2 rest).boxOf? present
      change ((w.step o).2.run rest).2.ledger.boxOf? owner = none at absent
      rw [still] at absent
      contradiction
    rw [occurrences_cons, lifeOf_cons_of_not_owned other]
    exact ih absent

end Workspace

end ObjectQuery
