import ObjectQuery.Decimal.Shortest

/-!
Two texts of a double, both of its shortest decimal. `Decimal.text` is positional if the leading
digit stands between the fifth place after the point and the sixteenth before it, and scientific
otherwise; whole numbers keep one zero after the point and exponents always bear a sign. Of two
shortest decimals as near it takes the even one. `Decimal.plain` is positional throughout, writes
whole numbers without a point, and takes the greater one.
-/
namespace ObjectQuery.Decimal

def leastPositional : Int := -5
def greatestPositional : Int := 15

def zeros (n : Nat) : String := String.ofList (List.replicate n '0')

def pointAfter (n : Nat) (digits : List Char) : String :=
  String.ofList (digits.take n) ++ "." ++ String.ofList (digits.drop n)

/-- Digits without zeros at the end, and the exponent of the leading one. -/
structure Significand where
  digits : List Char
  top : Int
  deriving DecidableEq, Repr

def Scaled.significand (s : Scaled) : Significand :=
  let digits := Nat.toDigits 10 s.digits
  ⟨(digits.reverse.dropWhile (· == '0')).reverse, s.exponent + (digits.length - 1)⟩

namespace Significand

/-- Positional notation, with a given ending for whole numbers. -/
def positional (ending : String) (s : Significand) : String :=
  if s.top < 0 then "0." ++ zeros (-s.top - 1).toNat ++ String.ofList s.digits
  else
    let whole := s.top.toNat + 1
    if s.digits.length ≤ whole then
      String.ofList s.digits ++ zeros (whole - s.digits.length) ++ ending
    else pointAfter whole s.digits

def scientific (s : Significand) : String :=
  let digits := if s.digits.length = 1 then String.ofList s.digits else pointAfter 1 s.digits
  let sign := if s.top < 0 then "-" else "+"
  digits ++ "e" ++ sign ++ toString s.top.natAbs

def text (s : Significand) : String :=
  if leastPositional ≤ s.top ∧ s.top ≤ greatestPositional then s.positional ".0"
  else s.scientific

end Significand

def sign (x : Binary64) : String := if x.bits ≥ 0x8000000000000000 then "-" else ""

def significand (tie : Tie) (x : Binary64) : Significand :=
  (shortest tie (.ofMagnitude x.magnitude.toNat)).significand

def text (x : Binary64) : String :=
  sign x ++ if x.isZero then "0.0" else (significand .even x).text

def plain (x : Binary64) : String :=
  if x.isNaN then "NaN"
  else sign x ++
    if x.magnitude = 0x7ff0000000000000 then "inf"
    else if x.isZero then "0"
    else (significand .up x).positional ""

end ObjectQuery.Decimal
