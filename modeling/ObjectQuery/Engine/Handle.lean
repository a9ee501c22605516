import ObjectQuery.Text.Hex

/-!
Handles name resources of an engine. They are nonzero 64-bit numbers, one type for each kind of
resource, and all come from one counter that stops at the last of them.
-/
namespace ObjectQuery

inductive HandleKind where
  | session
  | context
  | query
  deriving DecidableEq, Repr

structure Handle (kind : HandleKind) where
  raw : UInt64
  raw_ne_zero : raw ≠ 0
  deriving DecidableEq, Repr

abbrev SessionHandle := Handle .session
abbrev ContextHandle := Handle .context
abbrev QueryHandle := Handle .query

namespace Handle

variable {kind : HandleKind}

def ofRaw? (kind : HandleKind) (raw : UInt64) : Option (Handle kind) :=
  if h : raw ≠ 0 then some ⟨raw, h⟩ else none

def text (h : Handle kind) : String := hexNumeral h.raw

instance : Ord (Handle kind) := ⟨fun a b => compare a.raw b.raw⟩

instance : Std.TransOrd (Handle kind) where
  eq_swap {a b} :=
    show compare a.raw b.raw = (compare b.raw a.raw).swap from Std.OrientedCmp.eq_swap
  isLE_trans {a b c} (hab : (compare a.raw b.raw).isLE) (hbc : (compare b.raw c.raw).isLE) :=
    show (compare a.raw c.raw).isLE from Std.TransCmp.isLE_trans hab hbc

instance : Std.LawfulEqOrd (Handle kind) where
  eq_of_compare {a b} (h : compare a.raw b.raw = .eq) := by
    obtain ⟨a, ha⟩ := a
    obtain ⟨b, hb⟩ := b
    have : a = b := Std.LawfulEqOrd.eq_of_compare h
    subst this
    rfl

end Handle

structure HandleCounter where
  next : UInt64
  next_ne_zero : next ≠ 0
  deriving DecidableEq, Repr

namespace HandleCounter

def start : HandleCounter := ⟨1, by decide⟩

instance : Inhabited HandleCounter := ⟨start⟩

def peek (c : HandleCounter) (kind : HandleKind) : Handle kind := ⟨c.next, c.next_ne_zero⟩

/-- Moves on by one; the greatest handle is given out again and again. -/
def advance (c : HandleCounter) : HandleCounter :=
  if h : c.next + 1 = 0 then c else ⟨c.next + 1, h⟩

end HandleCounter

end ObjectQuery
