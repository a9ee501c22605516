import ObjectQuery.EntityModel

/-!
Lists of properties in which nothing is listed twice. These are the lists that a checked model is
made from, and in them a name or an id stands for one property: whichever is looked up first is the
only one there is. In any other list the first place that repeats something is reported, and at one
place an id before a name.
-/
namespace ObjectQuery

section Distinct

variable {α β : Type} [DecidableEq β] {f : α → β} {l : List α} {a : α}

theorem find?_of_nodup (distinct : (l.map f).Nodup) (member : a ∈ l) :
    l.find? (fun b => f b == f a) = some a := by
  induction l with
  | nil => contradiction
  | cons b rest ih =>
    rw [List.map_cons, List.nodup_cons] at distinct
    obtain ⟨unlisted, distinct⟩ := distinct
    rcases List.mem_cons.mp member with rfl | later
    · simp
    · have apart : f b ≠ f a := by
        intro same
        exact unlisted (same ▸ List.mem_map_of_mem later)
      rw [List.find?_cons_of_neg (by simpa using apart)]
      exact ih distinct later

theorem filter_of_nodup (distinct : (l.map f).Nodup) (member : a ∈ l) :
    l.filter (fun b => f b = f a) = [a] := by
  induction l with
  | nil => contradiction
  | cons b rest ih =>
    rw [List.map_cons, List.nodup_cons] at distinct
    obtain ⟨unlisted, distinct⟩ := distinct
    rcases List.mem_cons.mp member with rfl | later
    · have others : rest.filter (fun b => f b = f a) = [] := by
        apply List.filter_eq_nil_iff.mpr
        intro c listed same
        have image : f c = f a := by simpa using same
        exact unlisted (image ▸ List.mem_map_of_mem listed)
      rw [List.filter_cons_of_pos (by simp), others]
    · have apart : f b ≠ f a := by
        intro same
        exact unlisted (same ▸ List.mem_map_of_mem later)
      rw [List.filter_cons_of_neg (by simpa using apart)]
      exact ih distinct later

end Distinct

/-- What stands at this place has the image of something that stands before it. -/
def Recurs {α β : Type} (f : α → β) (l : List α) (i : Nat) : Prop :=
  i < l.length ∧ ∃ j, j < i ∧ l[j]?.map f = l[i]?.map f

section Recurs

variable {α β : Type} {f : α → β} {before after : List α} {a : α}

instance [DecidableEq β] (l : List α) (i : Nat) : Decidable (Recurs f l i) :=
  inferInstanceAs (Decidable (_ ∧ _))

theorem recurs_at_iff : Recurs f (before ++ a :: after) before.length ↔ f a ∈ before.map f := by
  have here : (before ++ a :: after)[before.length]? = some a := by simp
  rw [List.mem_map]
  constructor
  · rintro ⟨-, j, earlier, same⟩
    rw [List.getElem?_append_left earlier, here, List.getElem?_eq_getElem earlier] at same
    exact ⟨before[j], List.getElem_mem earlier, Option.some.inj same⟩
  · rintro ⟨b, member, same⟩
    obtain ⟨j, there⟩ := List.mem_iff_getElem?.mp member
    obtain ⟨earlier, -⟩ := List.getElem?_eq_some_iff.mp there
    refine ⟨by simp, j, earlier, ?_⟩
    rw [List.getElem?_append_left earlier, here, there]
    exact congrArg some same

theorem not_recurs_of_nodup (distinct : (before.map f).Nodup) {i : Nat}
    (within : i < before.length) : ¬ Recurs f (before ++ after) i := by
  rintro ⟨-, j, earlier, same⟩
  rw [List.getElem?_append_left (by omega), List.getElem?_append_left within,
    ← List.getElem?_map, ← List.getElem?_map] at same
  have bound : j < (before.map f).length := by
    rw [List.length_map]
    omega
  have place : j = i := (List.getElem?_inj bound distinct).mp same
  omega

end Recurs

namespace Repeat

theorem firstAfter_eq_none_iff (ids : List PropertyId) (names : List String)
    (properties : List Property) :
    firstAfter ids names properties = none ↔
      ((properties.map Property.id).Nodup ∧ ∀ p ∈ properties, p.id ∉ ids) ∧
        (properties.map Property.name).Nodup ∧ ∀ p ∈ properties, p.name ∉ names := by
  induction properties generalizing ids names with
  | nil => simp [firstAfter]
  | cons p rest ih =>
    unfold firstAfter
    split
    · rename_i known
      simp [known]
    · rename_i new_id
      split
      · rename_i known
        simp [known]
      · rename_i new_name
        rw [ih]
        simp only [List.map_cons, List.nodup_cons, List.mem_cons, not_or,
          List.mem_map, not_exists, not_and]
        grind

theorem first_eq_none_iff (properties : List Property) :
    first properties = none ↔
      (properties.map Property.id).Nodup ∧ (properties.map Property.name).Nodup := by
  rw [first, firstAfter_eq_none_iff]
  simp

theorem firstAfter_eq_some {ids : List PropertyId} {names : List String}
    {properties : List Property} {twice : Repeat}
    (found : firstAfter ids names properties = some twice) :
    ∃ before p after, properties = before ++ p :: after ∧ firstAfter ids names before = none ∧
      (p.id ∈ before.map Property.id ++ ids ∧ twice = .ofId p.id ∨
        p.id ∉ before.map Property.id ++ ids ∧ p.name ∈ before.map Property.name ++ names ∧
          twice = .ofName p.name) := by
  induction properties generalizing ids names with
  | nil => contradiction
  | cons p rest ih =>
    unfold firstAfter at found
    split at found
    · rename_i known
      exact ⟨[], p, rest, rfl, rfl, Or.inl ⟨known, (Option.some.inj found).symm⟩⟩
    · rename_i new_id
      split at found
      · rename_i known
        exact ⟨[], p, rest, rfl, rfl, Or.inr ⟨new_id, known, (Option.some.inj found).symm⟩⟩
      · rename_i new_name
        obtain ⟨before, q, after, rfl, clean, verdict⟩ := ih found
        refine ⟨p :: before, q, after, rfl, ?_, ?_⟩
        · simp [firstAfter, new_id, new_name, clean]
        · simpa [or_assoc, or_left_comm] using verdict

theorem place_of_first {properties : List Property} {twice : Repeat}
    (found : first properties = some twice) :
    ∃ i p, properties[i]? = some p ∧
      (∀ j < i, ¬ Recurs Property.id properties j ∧ ¬ Recurs Property.name properties j) ∧
      (Recurs Property.id properties i ∧ twice = .ofId p.id ∨
        ¬ Recurs Property.id properties i ∧ Recurs Property.name properties i ∧
          twice = .ofName p.name) := by
  obtain ⟨before, p, after, rfl, clean, verdict⟩ := firstAfter_eq_some found
  obtain ⟨ids, names⟩ := (first_eq_none_iff before).mp clean
  refine ⟨before.length, p, ?_, ?_, ?_⟩
  · rw [List.getElem?_append_right (Nat.le_refl _), Nat.sub_self]
    rfl
  · intro j earlier
    exact ⟨not_recurs_of_nodup ids earlier, not_recurs_of_nodup names earlier⟩
  · rw [recurs_at_iff, recurs_at_iff]
    simpa using verdict

end Repeat

namespace EntityModel

variable {name : String} {properties : List Property} {model : EntityModel} {p : Property}

theorem ofProperties_eq_ok_iff :
    ofProperties name properties = .ok model ↔
      ((properties.map Property.id).Nodup ∧ (properties.map Property.name).Nodup) ∧
        model = ⟨name, properties⟩ := by
  rw [← Repeat.first_eq_none_iff]
  unfold ofProperties
  cases Repeat.first properties with
  | some twice => simp
  | none => simp [eq_comm]

theorem property?_eq_some_iff (distinct : (model.properties.map Property.name).Nodup) :
    model.property? name = some p ↔ model.properties.filter (fun q => q.name = name) = [p] := by
  constructor
  · intro found
    have member := List.mem_of_find?_eq_some found
    have named : p.name = name := by simpa using List.find?_some found
    subst named
    exact filter_of_nodup distinct member
  · intro only
    have listed : p ∈ model.properties.filter (fun q => q.name = name) := by simp [only]
    obtain ⟨member, named⟩ := List.mem_filter.mp listed
    have named : p.name = name := by simpa using named
    subst named
    exact find?_of_nodup distinct member

theorem propertyById?_of_mem (distinct : (model.properties.map Property.id).Nodup)
    (member : p ∈ model.properties) : model.propertyById? p.id = some p :=
  find?_of_nodup distinct member

/-- A list makes a model exactly if nothing is listed twice. The model is the list under its name,
and looks up what is listed and nothing else. Of any other list the first place that repeats an id
or a name is reported. -/
theorem ofProperties_reports_first_repeat (name : String) (properties : List Property) :
    ((∃ model, ofProperties name properties = .ok model) ↔
      (properties.map Property.id).Nodup ∧ (properties.map Property.name).Nodup) ∧
    (∀ model, ofProperties name properties = .ok model →
      model.name = name ∧ model.properties = properties ∧
      (∀ p ∈ properties, model.propertyById? p.id = some p ∧ model.property? p.name = some p) ∧
      (∀ id, (∀ p ∈ properties, p.id ≠ id) → model.propertyById? id = none) ∧
      ∀ other, (∀ p ∈ properties, p.name ≠ other) → model.property? other = none) ∧
    (¬ ((properties.map Property.id).Nodup ∧ (properties.map Property.name).Nodup) →
      ∃ i p, properties[i]? = some p ∧
        (Recurs Property.id properties i ∨ Recurs Property.name properties i) ∧
        (∀ j < i, ¬ Recurs Property.id properties j ∧ ¬ Recurs Property.name properties j) ∧
        (Recurs Property.id properties i → ofProperties name properties =
          .error (.modelInvariant
            s!"duplicate property id {p.id.text} on entity '{name}'")) ∧
        (¬ Recurs Property.id properties i → ofProperties name properties =
          .error (.modelInvariant
            s!"duplicate property name '{p.name}' on entity '{name}'"))) := by
  refine ⟨?accepts, ?shows, ?reports⟩
  case accepts =>
    constructor
    · rintro ⟨model, made⟩
      exact (ofProperties_eq_ok_iff.mp made).1
    · intro distinct
      exact ⟨_, ofProperties_eq_ok_iff.mpr ⟨distinct, rfl⟩⟩
  case shows =>
    intro model made
    obtain ⟨⟨ids, names⟩, rfl⟩ := ofProperties_eq_ok_iff.mp made
    refine ⟨rfl, rfl, ?_, ?_, ?_⟩
    · intro p listed
      exact ⟨find?_of_nodup ids listed, find?_of_nodup names listed⟩
    · intro id unlisted
      simpa [propertyById?] using unlisted
    · intro other unlisted
      simpa [property?] using unlisted
  case reports =>
    intro repeats
    cases found : Repeat.first properties with
    | none => exact absurd ((Repeat.first_eq_none_iff properties).mp found) repeats
    | some twice =>
      have answer : ofProperties name properties = .error (twice.failure name) := by
        rw [ofProperties, found]
      obtain ⟨i, p, place, earliest, verdict⟩ := Repeat.place_of_first found
      refine ⟨i, p, place, ?_, earliest, ?_, ?_⟩
      · rcases verdict with ⟨recurs, -⟩ | ⟨-, recurs, -⟩
        · exact Or.inl recurs
        · exact Or.inr recurs
      · intro recurs
        rcases verdict with ⟨-, rfl⟩ | ⟨new, -⟩
        · exact answer
        · exact absurd recurs new
      · intro new
        rcases verdict with ⟨recurs, -⟩ | ⟨-, -, rfl⟩
        · exact absurd recurs new
        · exact answer

/-- The third property has the name of the first and the id of the second, the fourth has the id
and the name of the first. -/
def entangledProperties : List Property :=
  [⟨⟨7⟩, "total", .int64⟩, ⟨⟨2⟩, "note", .text⟩, ⟨⟨2⟩, "total", .int64⟩, ⟨⟨7⟩, "total", .int64⟩]

theorem entangledProperties_report_the_second_id :
    ¬ ((entangledProperties.map Property.id).Nodup ∧
      (entangledProperties.map Property.name).Nodup) ∧
    ofProperties "Order" entangledProperties =
      .error ⟨.invariantViolation, .model, "duplicate property id 2 on entity 'Order'"⟩ := by
  have repeats : ¬ ((entangledProperties.map Property.id).Nodup ∧
      (entangledProperties.map Property.name).Nodup) := by decide
  obtain ⟨-, -, report⟩ := ofProperties_reports_first_repeat "Order" entangledProperties
  obtain ⟨i, p, place, recurs, earliest, twice, -⟩ := report repeats
  have third : i = 2 := by
    have within : i < 4 := by
      rcases recurs with ⟨bound, -⟩ | ⟨bound, -⟩
      · exact bound
      · exact bound
    have not_later : ¬ 2 < i := by
      intro later
      exact (earliest 2 later).1 (by decide)
    have not_earlier : i ≠ 0 ∧ i ≠ 1 := by
      constructor
      · rintro rfl
        revert recurs
        decide
      · rintro rfl
        revert recurs
        decide
    omega
  subst third
  obtain rfl : ⟨⟨2⟩, "total", .int64⟩ = p := Option.some.inj place
  exact ⟨repeats, twice (by decide)⟩

end EntityModel

end ObjectQuery
