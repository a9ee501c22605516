import ObjectQuery.Table.Basic

/-! What each operation on a table does to its look-ups. -/
namespace ObjectQuery.Table

variable {κ α : Type} [Ord κ]

@[simp, grind =] theorem get?_empty (k : κ) : (∅ : Table κ α).get? k = none := rfl

@[simp, grind =] theorem entries_empty : (∅ : Table κ α).entries = [] := rfl

@[simp, grind =] theorem size_empty : (∅ : Table κ α).size = 0 := rfl

@[simp, grind =] theorem contains_eq_isSome (t : Table κ α) (k : κ) :
    t.contains k = (t.get? k).isSome := rfl

theorem size_eq_length_keys (t : Table κ α) : t.size = t.keys.length := by simp [size, keys]

theorem size_modify (t : Table κ α) (k : κ) (f : α → α) : (t.modify k f).size = t.size := by
  simp [size, modify]

section Lawful

variable [Std.LawfulEqOrd κ]

theorem compare_eq_iff {a b : κ} : compare a b = .eq ↔ a = b :=
  Std.LawfulEqCmp.compare_eq_iff_eq

variable [DecidableEq κ]

theorem lookUp_cons (k key : κ) (a : α) (rest : List (κ × α)) :
    lookUp k ((key, a) :: rest) = if key = k then some a else lookUp k rest := by
  simp only [lookUp, compare_eq_iff]

theorem lookUp_place (k k' : κ) (a : α) (l : List (κ × α)) :
    lookUp k' (place k a l) = if k = k' then some a else lookUp k' l := by
  induction l with
  | nil => simp [place, lookUp_cons, lookUp]
  | cons head rest ih =>
    obtain ⟨key, b⟩ := head
    simp only [place]
    split
    · rw [lookUp_cons]
    · rename_i eq
      have same := compare_eq_iff.mp eq
      subst same
      simp only [lookUp_cons]
      split <;> rfl
    · rename_i gt
      simp only [lookUp_cons, ih]
      have differ : key ≠ k := by
        intro eq
        subst eq
        simp at gt
      by_cases hk : key = k'
      · subst hk; simp [Ne.symm differ]
      · simp [hk]

theorem lookUp_filter (k k' : κ) (l : List (κ × α)) :
    lookUp k' (l.filter fun e => compare e.1 k != .eq) =
      if k = k' then none else lookUp k' l := by
  induction l with
  | nil => simp [lookUp]
  | cons head rest ih =>
    obtain ⟨key, b⟩ := head
    by_cases hk : key = k
    · subst hk
      have drop : (compare key key != .eq) = false := by simp
      simp only [List.filter_cons, drop, lookUp_cons]
      split <;> simp_all
    · have keep : (compare key k != .eq) = true := by
        simpa [compare_eq_iff] using hk
      simp only [List.filter_cons, keep, if_true, lookUp_cons, ih]
      by_cases hk' : key = k'
      · subst hk'; simp [Ne.symm hk]
      · simp [hk']

theorem lookUp_modify (k k' : κ) (f : α → α) (l : List (κ × α)) :
    lookUp k' (l.map fun e => (e.1, if compare e.1 k = .eq then f e.2 else e.2)) =
      if k = k' then (lookUp k' l).map f else lookUp k' l := by
  induction l with
  | nil => simp [lookUp]
  | cons head rest ih =>
    obtain ⟨key, b⟩ := head
    rw [List.map_cons, lookUp_cons, lookUp_cons, ih]
    simp only [compare_eq_iff]
    by_cases hk' : key = k'
    · subst hk'
      by_cases hk : key = k
      · subst hk; simp
      · simp [hk, Ne.symm hk]
    · simp [hk']

theorem lookUp_eq_none_of_below {k : κ} {l : List (κ × α)}
    (below : ∀ e ∈ l, compare k e.1 = .lt) : lookUp k l = none := by
  induction l with
  | nil => rfl
  | cons head rest ih =>
    obtain ⟨key, b⟩ := head
    have differ : key ≠ k := by
      intro eq
      have lt := below (key, b) (by simp)
      subst eq
      simp at lt
    rw [lookUp_cons, if_neg differ]
    exact ih fun e mem => below e (by simp [mem])

@[grind =] theorem get?_erase (t : Table κ α) (k k' : κ) :
    (t.erase k).get? k' = if k = k' then none else t.get? k' := lookUp_filter k k' t.entries

@[grind =] theorem get?_modify (t : Table κ α) (k k' : κ) (f : α → α) :
    (t.modify k f).get? k' = if k = k' then (t.get? k').map f else t.get? k' :=
  lookUp_modify k k' f t.entries

theorem mem_keys_iff (t : Table κ α) (k : κ) : k ∈ t.keys ↔ (t.get? k).isSome := by
  obtain ⟨l, ascending⟩ := t
  simp only [keys, get?]
  clear ascending
  induction l with
  | nil => simp [lookUp]
  | cons head rest ih =>
    obtain ⟨key, b⟩ := head
    rw [List.map_cons, List.mem_cons, lookUp_cons]
    by_cases same : key = k
    · simp [same]
    · rw [if_neg same, ← ih]
      simp [Ne.symm same]

omit [DecidableEq κ] in
theorem nodup_keys (t : Table κ α) : t.keys.Nodup := by
  refine List.Pairwise.map _ ?_ t.ascending
  intro a b lt same
  rw [same] at lt
  simp at lt

theorem length_place {k : κ} (a : α) {l : List (κ × α)} (absent : lookUp k l = none) :
    (place k a l).length = l.length + 1 := by
  induction l with
  | nil => rfl
  | cons head rest ih =>
    obtain ⟨key, b⟩ := head
    rw [lookUp_cons] at absent
    split at absent
    · contradiction
    · rename_i differ
      simp only [place]
      split
      · rfl
      · rename_i eq
        exact absurd (compare_eq_iff.mp eq).symm differ
      · simp [ih absent]

theorem keys_erase (t : Table κ α) (k : κ) : (t.erase k).keys = t.keys.erase k := by
  have spared : (fun key => key != k) ∘ Prod.fst = fun e : κ × α => compare e.1 k != .eq := by
    funext e
    exact Bool.eq_iff_iff.mpr (by simp)
  rw [t.nodup_keys.erase_eq_filter k, keys, keys, List.filter_map, spared]
  rfl

theorem size_erase {t : Table κ α} {k : κ} (live : (t.get? k).isSome) :
    (t.erase k).size + 1 = t.size := by
  have member := (mem_keys_iff t k).mpr live
  have positive := List.length_pos_of_mem member
  rw [size_eq_length_keys, size_eq_length_keys, keys_erase, List.length_erase_of_mem member]
  omega

variable [Std.TransOrd κ]

theorem size_insert {t : Table κ α} {k : κ} (a : α) (absent : t.get? k = none) :
    (t.insert k a).size = t.size + 1 := length_place a absent

@[grind =] theorem get?_insert (t : Table κ α) (k k' : κ) (a : α) :
    (t.insert k a).get? k' = if k = k' then some a else t.get? k' := lookUp_place k k' a t.entries

@[grind =] theorem get?_alter (t : Table κ α) (k k' : κ) (f : Option α → α) :
    (t.alter k f).get? k' = if k = k' then some (f (t.get? k)) else t.get? k' :=
  get?_insert ..

theorem entries_ext {l r : List (κ × α)}
    (hl : l.Pairwise fun a b => compare a.1 b.1 = .lt)
    (hr : r.Pairwise fun a b => compare a.1 b.1 = .lt)
    (same : ∀ k, lookUp k l = lookUp k r) : l = r := by
  induction l generalizing r with
  | nil =>
    cases r with
    | nil => rfl
    | cons head rest =>
      have := same head.1
      simp [lookUp] at this
  | cons head rest ih =>
    obtain ⟨key, a⟩ := head
    obtain ⟨below, tail⟩ := List.pairwise_cons.mp hl
    cases r with
    | nil =>
      have := same key
      simp [lookUp] at this
    | cons head' rest' =>
      obtain ⟨key', b⟩ := head'
      obtain ⟨below', tail'⟩ := List.pairwise_cons.mp hr
      -- the smaller of two different first keys would be missing on the other side
      have equal : key = key' := by
        rcases h : compare key key' with _ | _ | _
        · have above : ∀ e ∈ rest', compare key e.1 = .lt := fun e mem =>
            Std.TransCmp.lt_trans h (below' e mem)
          have differ : key' ≠ key := by
            intro eq
            subst eq
            simp at h
          have := same key
          simp [lookUp_cons, differ, lookUp_eq_none_of_below above] at this
        · exact compare_eq_iff.mp h
        · have lt := Std.OrientedCmp.lt_of_gt h
          have above : ∀ e ∈ rest, compare key' e.1 = .lt := fun e mem =>
            Std.TransCmp.lt_trans lt (below e mem)
          have differ : key ≠ key' := by
            intro eq
            subst eq
            simp at h
          have := same key'
          simp [lookUp_cons, differ, lookUp_eq_none_of_below above] at this
      subst equal
      have value : a = b := by
        have := same key
        simpa [lookUp_cons] using this
      subst value
      congr 1
      refine ih tail tail' fun k => ?_
      by_cases hk : key = k
      · subst hk
        rw [lookUp_eq_none_of_below below, lookUp_eq_none_of_below below']
      · have := same k
        simpa [lookUp_cons, hk] using this

theorem ext_get? {t u : Table κ α} (same : ∀ k, t.get? k = u.get? k) : t = u := by
  obtain ⟨l, hl⟩ := t
  obtain ⟨r, hr⟩ := u
  have : l = r := entries_ext hl hr same
  subst this
  rfl

end Lawful

end ObjectQuery.Table
