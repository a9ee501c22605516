import ObjectQuery.Binary64

/-!
The shortest decimal that reads back as a given double. A finite positive double is `m · 2 ^ q`;
the reals that round to it form an interval, closed exactly if `m` is even. On the grid of decimals
with `n` digits the value has two neighbours. The first grid with a neighbour in the interval wins,
of two such neighbours the nearer, and of two as near the one that the caller prefers.
-/
namespace ObjectQuery.Decimal

/-- Which of two neighbours as near as each other is taken. -/
inductive Tie where
  | even
  | up
  deriving DecidableEq, Repr

/-- The number `digits · 10 ^ exponent`. -/
structure Scaled where
  digits : Nat
  exponent : Int
  deriving DecidableEq, Repr

/-- The number `m · 2 ^ q`. -/
structure Dyadic where
  m : Nat
  q : Int
  deriving DecidableEq, Repr

namespace Dyadic

def hiddenBit : Nat := 0x10000000000000

def ofMagnitude (magnitude : Nat) : Dyadic :=
  let exponent : Nat := magnitude / hiddenBit
  let fraction := magnitude % hiddenBit
  if exponent = 0 then ⟨fraction, -1074⟩ else ⟨fraction + hiddenBit, exponent - 1075⟩

/- Whether the neighbour below is half as far as the one above. -/
def isLeastOfBinade (d : Dyadic) : Bool := d.m == hiddenBit && d.q != -1074

/- Numerator and denominator of a quarter of the last place. -/
def quarter (d : Dyadic) : Nat × Nat :=
  if d.q ≥ 2 then (Nat.pow 2 (d.q - 2).toNat, 1) else (1, Nat.pow 2 (2 - d.q).toNat)

end Dyadic

/- An interval with rational ends over one denominator, around `value`. -/
structure Interval where
  low : Nat
  value : Nat
  high : Nat
  denominator : Nat
  closed : Bool
  deriving DecidableEq, Repr

def Interval.around (d : Dyadic) : Interval :=
  let (unit, denominator) := d.quarter
  { low := (4 * d.m - if d.isLeastOfBinade then 1 else 2) * unit
    value := 4 * d.m * unit
    high := (4 * d.m + 2) * unit
    denominator
    closed := d.m % 2 == 0 }

namespace Interval

def scale (i : Interval) (k : Int) : Interval :=
  if k ≥ 0 then
    let p := Nat.pow 10 k.toNat
    { i with low := i.low * p, value := i.value * p, high := i.high * p }
  else { i with denominator := i.denominator * Nat.pow 10 (-k).toNat }

def contains (i : Interval) (n : Nat) : Bool :=
  let x := n * i.denominator
  if i.closed then i.low ≤ x && x ≤ i.high else i.low < x && x < i.high

/-- The integer in the interval that is nearest to its value among the value's two neighbours. -/
def nearest? (tie : Tie) (i : Interval) : Option Nat :=
  let below := i.value / i.denominator
  let rest := i.value % i.denominator
  let above := if rest = 0 then below else below + 1
  match i.contains below, i.contains above with
  | false, false => none
  | true, false => some below
  | false, true => some above
  | true, true =>
    if 2 * rest < i.denominator then some below
    else if i.denominator < 2 * rest then some above
    else match tie with
      | .even => some (if below % 2 = 0 then below else above)
      | .up => some above

def leading (i : Interval) : Int :=
  let guess : Int := (toString i.value).length - (toString i.denominator).length
  let one := i.scale (-guess)
  if one.value ≥ one.denominator then guess else guess - 1

end Interval

def shortest (tie : Tie) (d : Dyadic) : Scaled :=
  let i := Interval.around d
  let top := i.leading
  let found := (List.range 17).findSome? fun (n : Nat) =>
    ((i.scale (n - top)).nearest? tie).map fun digits => ⟨digits, top - n⟩
  found.getD ⟨0, 0⟩

end ObjectQuery.Decimal
