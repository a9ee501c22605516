import ObjectQuery.Engine.Handle

/-!
A register of the handles of one kind: when each was opened, used and closed. If an opening always
brings a new number, and use and closing are entered for an owner that holds the handle, then the
register tells the life of every handle once, and whether its owner still holds it.
-/
namespace ObjectQuery

inductive Entry (kind : HandleKind) where
  | opened (entity : String) (handle : Handle kind)
  | used (handle : Handle kind)
  | closed (entity : String) (handle : Handle kind) (onDrop : Bool)
  deriving DecidableEq, Repr

variable {kind : HandleKind}

namespace Entry

def handle : Entry kind → Handle kind
  | opened _ h | used h | closed _ h _ => h

def opening? : Entry kind → Option (String × Handle kind)
  | opened entity h => some (entity, h)
  | _ => none

end Entry

def openings (entries : List (Entry kind)) : List (String × Handle kind) :=
  entries.filterMap Entry.opening?

abbrev Holding (kind : HandleKind) := String × Option (Handle kind)

/-- What may be entered, and what becomes of the owners. The numbers up to the first bound have
been given out before, those up to the second by now. -/
inductive Entered (n n' : Nat) (owners : List (Holding kind)) :
    List (Holding kind) → List (Entry kind) → Prop where
  | nothing : Entered n n' owners owners []
  | opened {entity : String} {h : Handle kind} (new : n < h.raw.toNat) (given : h.raw.toNat ≤ n') :
      Entered n n' owners (owners ++ [(entity, some h)]) [.opened entity h]
  | used {i : Nat} {entity : String} {h : Handle kind} (k : Nat)
      (holds : owners[i]? = some (entity, some h)) :
      Entered n n' owners owners (List.replicate k (.used h))
  | closed {i : Nat} {entity : String} {h : Handle kind} {onDrop : Bool}
      (holds : owners[i]? = some (entity, some h)) :
      Entered n n' owners (owners.set i (entity, none)) [.closed entity h onDrop]

/-- The entries of one handle, for what its owner holds now. -/
inductive Told (entity : String) (h : Handle kind) :
    Option (Handle kind) → List (Entry kind) → Prop where
  | held (k : Nat) : Told entity h (some h) (.opened entity h :: List.replicate k (.used h))
  | released (k : Nat) (onDrop : Bool) :
      Told entity h none
        (.opened entity h :: (List.replicate k (.used h) ++ [.closed entity h onDrop]))

structure Account (n : Nat) (owners : List (Holding kind)) (entries : List (Entry kind)) :
    Prop where
  listed : ∀ x ∈ entries, x.handle ∈ (openings entries).map Prod.snd
  distinct : ((openings entries).map Prod.snd).Nodup
  given : ∀ opening ∈ openings entries, opening.2.raw.toNat ≤ n
  length : (openings entries).length = owners.length
  told : ∀ (i : Nat) (entity : String) (h : Handle kind),
    (openings entries)[i]? = some (entity, h) → ∃ held, owners[i]? = some (entity, held) ∧
      Told entity h held (entries.filter (·.handle = h))

namespace Account

variable {n n' : Nat} {owners owners' : List (Holding kind)} {entries new : List (Entry kind)}
  {i : Nat} {entity : String} {h : Handle kind}

theorem openings_append (entries new : List (Entry kind)) :
    openings (entries ++ new) = openings entries ++ openings new := List.filterMap_append

theorem fresh : Account 0 ([] : List (Holding kind)) [] := by
  constructor <;> simp [openings]

theorem later (account : Account n owners entries) (grows : n ≤ n') :
    Account n' owners entries :=
  ⟨account.listed, account.distinct,
    fun opening member => Nat.le_trans (account.given opening member) grows,
    account.length, account.told⟩

theorem opened_of_held (account : Account n owners entries)
    (holds : owners[i]? = some (entity, some h)) : (openings entries)[i]? = some (entity, h) := by
  have bound : i < (openings entries).length := by
    rw [account.length]
    exact (List.getElem?_eq_some_iff.mp holds).1
  obtain ⟨⟨entity', h'⟩, place⟩ : ∃ opening, (openings entries)[i]? = some opening :=
    ⟨_, List.getElem?_eq_getElem bound⟩
  obtain ⟨held, owner, telling⟩ := account.told i entity' h' place
  rw [holds] at owner
  cases owner
  generalize entries.filter (·.handle = h') = before at telling
  cases telling with
  | held k => exact place

theorem opened_once (account : Account n owners entries) {j : Nat} {other : String}
    (hi : (openings entries)[i]? = some (entity, h))
    (hj : (openings entries)[j]? = some (other, h)) : i = j := by
  have bound : i < ((openings entries).map Prod.snd).length := by
    rw [List.length_map]
    exact (List.getElem?_eq_some_iff.mp hi).1
  apply (List.getElem?_inj bound account.distinct).mp
  simp [hi, hj]

theorem mem_openings (account : Account n owners entries)
    (holds : owners[i]? = some (entity, some h)) : h ∈ (openings entries).map Prod.snd :=
  List.mem_map_of_mem (List.mem_of_getElem? (account.opened_of_held holds))

theorem opening_of_entry (account : Account n owners entries) {x : Entry kind}
    (member : x ∈ entries) : ∃ opening ∈ openings entries, opening.2.text = x.handle.text := by
  obtain ⟨opening, listed, same⟩ := List.mem_map.mp (account.listed x member)
  exact ⟨opening, listed, by rw [same]⟩

theorem given_of_mem (account : Account n owners entries)
    (member : h ∈ (openings entries).map Prod.snd) : h.raw.toNat ≤ n := by
  obtain ⟨opening, listed, rfl⟩ := List.mem_map.mp member
  exact account.given opening listed

theorem filter_of_new (account : Account n owners entries) (new : n < h.raw.toNat) :
    entries.filter (·.handle = h) = [] := by
  apply List.filter_eq_nil_iff.mpr
  intro x member same
  have named : x.handle = h := by simpa using same
  have bound := account.given_of_mem (account.listed x member)
  rw [named] at bound
  omega

theorem filter_of_foreign (foreign : ∀ x ∈ new, x.handle ≠ h) :
    (entries ++ new).filter (·.handle = h) = entries.filter (·.handle = h) := by
  have none_own : new.filter (·.handle = h) = [] := by
    apply List.filter_eq_nil_iff.mpr
    simpa using foreign
  rw [List.filter_append, none_own, List.append_nil]

theorem filter_of_own (own : ∀ x ∈ new, x.handle = h) :
    (entries ++ new).filter (·.handle = h) = entries.filter (·.handle = h) ++ new := by
  have all_own : new.filter (·.handle = h) = new := by
    apply List.filter_eq_self.mpr
    simpa using own
  rw [List.filter_append, all_own]

theorem opened (account : Account n owners entries) (new : n < h.raw.toNat)
    (given : h.raw.toNat ≤ n') :
    Account n' (owners ++ [(entity, some h)]) (entries ++ [.opened entity h]) := by
  have grown : openings (entries ++ [.opened entity h]) = openings entries ++ [(entity, h)] :=
    openings_append ..
  have unlisted : h ∉ (openings entries).map Prod.snd := by
    intro member
    have bound := account.given_of_mem member
    omega
  constructor
  · intro x member
    rw [grown, List.map_append, List.mem_append]
    rcases List.mem_append.mp member with before | last
    · exact Or.inl (account.listed x before)
    · rw [List.mem_singleton.mp last]
      exact Or.inr (by simp [Entry.handle])
  · rw [grown, List.map_append, List.nodup_append]
    refine ⟨account.distinct, by simp, ?_⟩
    intro x member y last same
    obtain rfl : y = h := by simpa using last
    exact unlisted (same ▸ member)
  · intro opening member
    rw [grown] at member
    rcases List.mem_append.mp member with before | last
    · have bound := account.given opening before
      omega
    · rw [List.mem_singleton.mp last]
      exact given
  · rw [grown]
    simp [account.length]
  · intro j entity' h' place
    rw [grown] at place
    rcases Nat.lt_trichotomy j (openings entries).length with before | last | beyond
    · rw [List.getElem?_append_left before] at place
      obtain ⟨held, owner, telling⟩ := account.told j entity' h' place
      have apart : h ≠ h' := by
        intro same
        exact unlisted (same ▸ List.mem_map_of_mem (List.mem_of_getElem? place))
      refine ⟨held, ?_, ?_⟩
      · rw [List.getElem?_append_left (by rwa [account.length] at before)]
        exact owner
      · rw [filter_of_foreign (by simpa [Entry.handle] using apart)]
        exact telling
    · rw [last, List.getElem?_concat_length] at place
      cases place
      refine ⟨some h, ?_, ?_⟩
      · rw [last, account.length]
        exact List.getElem?_concat_length
      · rw [filter_of_own (by simp [Entry.handle]), account.filter_of_new new]
        exact .held 0
    · rw [List.getElem?_eq_none (by simp; omega)] at place
      contradiction

theorem used (account : Account n owners entries) (k : Nat)
    (holds : owners[i]? = some (entity, some h)) :
    Account n owners (entries ++ List.replicate k (.used h)) := by
  have same : openings (entries ++ List.replicate k (.used h)) = openings entries := by
    rw [openings_append]
    simp [openings, Entry.opening?]
  have opening := account.opened_of_held holds
  constructor
  · intro x member
    rw [same]
    rcases List.mem_append.mp member with before | last
    · exact account.listed x before
    · rw [List.eq_of_mem_replicate last]
      exact account.mem_openings holds
  · rw [same]
    exact account.distinct
  · rw [same]
    exact account.given
  · rw [same]
    exact account.length
  · intro j entity' h' place
    rw [same] at place
    obtain ⟨held, owner, telling⟩ := account.told j entity' h' place
    refine ⟨held, owner, ?_⟩
    by_cases own : h = h'
    · subst own
      obtain rfl := account.opened_once opening place
      rw [holds] at owner
      cases owner
      have own : ∀ x ∈ List.replicate k (Entry.used h), x.handle = h := by
        intro x member
        rw [List.eq_of_mem_replicate member]
        rfl
      rw [filter_of_own own]
      generalize entries.filter (·.handle = h) = before at telling
      cases telling with
      | held m =>
        rw [List.cons_append, List.replicate_append_replicate]
        exact .held (m + k)
    · have foreign : ∀ x ∈ List.replicate k (Entry.used h), x.handle ≠ h' := by
        intro x member
        rw [List.eq_of_mem_replicate member]
        exact own
      rw [filter_of_foreign foreign]
      exact telling

theorem closed (account : Account n owners entries) (onDrop : Bool)
    (holds : owners[i]? = some (entity, some h)) :
    Account n (owners.set i (entity, none)) (entries ++ [.closed entity h onDrop]) := by
  have same : openings (entries ++ [.closed entity h onDrop]) = openings entries := by
    rw [openings_append]
    simp [openings, Entry.opening?]
  have opening := account.opened_of_held holds
  constructor
  · intro x member
    rw [same]
    rcases List.mem_append.mp member with before | last
    · exact account.listed x before
    · rw [List.mem_singleton.mp last]
      exact account.mem_openings holds
  · rw [same]
    exact account.distinct
  · rw [same]
    exact account.given
  · rw [same, account.length, List.length_set]
  · intro j entity' h' place
    rw [same] at place
    obtain ⟨held, owner, telling⟩ := account.told j entity' h' place
    by_cases own : h = h'
    · subst own
      obtain rfl := account.opened_once opening place
      rw [holds] at owner
      cases owner
      refine ⟨none, ?_, ?_⟩
      · exact List.getElem?_set_self (List.getElem?_eq_some_iff.mp holds).1
      · rw [filter_of_own (by simp [Entry.handle])]
        generalize entries.filter (·.handle = h) = before at telling
        cases telling with
        | held m => exact .released m onDrop
    · have apart : i ≠ j := by
        intro here
        subst here
        rw [opening] at place
        cases place
        exact own rfl
      refine ⟨held, ?_, ?_⟩
      · rw [List.getElem?_set_ne apart]
        exact owner
      · rw [filter_of_foreign (by simpa [Entry.handle] using own)]
        exact telling

theorem enter (account : Account n owners entries) (grows : n ≤ n')
    (entered : Entered n n' owners owners' new) : Account n' owners' (entries ++ new) := by
  cases entered with
  | nothing =>
    rw [List.append_nil]
    exact account.later grows
  | opened fresh given => exact account.opened fresh given
  | used k holds => exact (account.used k holds).later grows
  | closed holds => exact (account.closed _ holds).later grows

end Account

end ObjectQuery
