import ObjectQuery.Decimal.Text
import ObjectQuery.Logging.Threshold
import ObjectQuery.Pattern.Basic

/-! Tests of the fields of a span: the presence of a field, or a value that it must have. -/
namespace ObjectQuery.Logging

def double? (s : List Char) : Option Float :=
  let (isNegative, s) := match s with
    | '+' :: rest => (false, rest)
    | '-' :: rest => (true, rest)
    | _ => (false, s)
  let sign (x : Float) : Float := if isNegative then -x else x
  let name := s.map Char.toLower
  if name = "inf".toList ∨ name = "infinity".toList then some (sign (1 / 0))
  else if name = "nan".toList then some (0 / 0)
  else
    let whole := s.takeWhile Char.isDigit
    let rest := s.dropWhile Char.isDigit
    let (places, rest) := match rest with
      | '.' :: rest => (rest.takeWhile Char.isDigit, rest.dropWhile Char.isDigit)
      | _ => ([], rest)
    let exponent : Option Int := match rest with
      | [] => some 0
      | 'e' :: '-' :: k | 'E' :: '-' :: k =>
        if k.head? = some '+' then none else (natural? k).map fun n => -(n : Int)
      | 'e' :: k | 'E' :: k => (natural? k).map Int.ofNat
      | _ => none
    let digits := whole ++ places
    match digits, exponent with
    | [], _ => none
    | _, none => none
    | _, some k =>
      let m := digits.foldl (fun n c => n * 10 + (c.toNat - '0'.toNat)) 0
      let k := k - places.length
      let magnitude := k + digits.length
      if m = 0 ∨ magnitude < -400 then some (sign 0)
      else if magnitude > 400 + digits.length then some (sign (1 / 0))
      else some (sign (Float.ofScientific m (k < 0) k.natAbs))

inductive FieldValue where
  | flag (b : Bool)
  | double (x : Binary64)
  | notANumber
  | unsigned (n : Nat)
  | signed (n : Int)
  | pattern (text : String)
  deriving DecidableEq, Repr

namespace FieldValue

/-- A whole number, as a double if it is beyond 64 bits. -/
def ofInteger? : List Char → Option FieldValue
  | '-' :: digits =>
    if digits.head? = some '+' then none
    else (natural? digits).map fun (n : Nat) =>
      if n ≤ 0x8000000000000000 then signed (-(n : Int)) else double ⟨(-n.toFloat).toBits⟩
  | s => (natural? s).map fun (n : Nat) =>
    if n < UInt64.size then unsigned n else double ⟨n.toFloat.toBits⟩

def ofDouble? (s : List Char) : Option FieldValue :=
  (double? s).map fun x => if x.isNaN then notANumber else double ⟨x.toBits⟩

/-- A value in the first form that fits: a flag, a whole number, a double, or else a pattern. -/
def ofText? (s : String) : Option FieldValue :=
  if s = "true" then some (flag true)
  else if s = "false" then some (flag false)
  else (ofInteger? s.toList).orElse fun _ =>
    (ofDouble? s.toList).orElse fun _ =>
      if Pattern.isPattern s.toList then some (pattern s) else none

def text : FieldValue → String
  | flag b => if b then "true" else "false"
  | double x => Decimal.plain x
  | notANumber => "NaN"
  | unsigned n => toString n
  | signed n => toString n
  | pattern text => text

def rank : FieldValue → Nat
  | flag _ => 0
  | double _ => 1
  | notANumber => 2
  | unsigned _ => 3
  | signed _ => 4
  | pattern _ => 5

def order : FieldValue → FieldValue → Ordering
  | flag a, flag b => compare a b
  | double x, double y =>
    let x := Float.ofBits x.bits
    let y := Float.ofBits y.bits
    if x < y then .lt else if y < x then .gt else .eq
  | unsigned m, unsigned n => compare m n
  | signed m, signed n => compare m n
  | pattern s, pattern t => compare s t
  | a, b => compare a.rank b.rank

end FieldValue

structure FieldTest where
  name : String
  value : Option FieldValue
  deriving DecidableEq, Repr

namespace FieldTest

def ofText? (s : List Char) : Option FieldTest :=
  let name := String.ofList (s.takeWhile (· ≠ '='))
  match s.dropWhile (· ≠ '=') with
  | _ :: rest =>
    (FieldValue.ofText? (.ofList (rest.takeWhile (· ≠ '=')))).map fun value => ⟨name, some value⟩
  | [] => some ⟨name, none⟩

def text (f : FieldTest) : String :=
  f.name ++ ((f.value.map fun v => "=" ++ v.text).getD "")

def order (f g : FieldTest) : Ordering :=
  (compare f.value.isSome g.value.isSome).then <| (compare f.name g.name).then <|
    match f.value, g.value with
    | some a, some b => a.order b
    | _, _ => .eq

end FieldTest

end ObjectQuery.Logging
