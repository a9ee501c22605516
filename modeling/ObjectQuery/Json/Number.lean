import ObjectQuery.Json.Lexeme

/-!
Numbers of a JSON text. Whole numbers that fit 64 bits keep their value. All others become doubles:
the leading digits that fit 64 bits, scaled by a power of ten.
-/
namespace ObjectQuery.Json

inductive Number where
  | unsigned (n : Nat)
  | negative (n : Int)
  | float (x : Binary64)
  deriving DecidableEq, Repr

def Number.found : Number → Found
  | unsigned n => .integer n
  | negative n => .integer n
  | float x => .float x

def isDigit (c : Char) : Bool := '0' ≤ c && c ≤ '9'

def digitValue (c : Char) : Nat := c.toNat - '0'.toNat

def startsWithDigit : List Char → Bool
  | c :: _ => isDigit c
  | [] => false

/-- Appends digits to a number as long as it stays below the bound. Gives the number, how many
digits were taken and the rest. -/
def appendDigits (bound n taken : Nat) : List Char → Nat × Nat × List Char
  | [] => (n, taken, [])
  | c :: rest =>
    if isDigit c && n * 10 + digitValue c < bound then
      appendDigits bound (n * 10 + digitValue c) (taken + 1) rest
    else (n, taken, c :: rest)

def significandBound : Nat := UInt64.size
def exponentBound : Nat := 0x80000000

def power (k : Nat) : Float := Float.ofScientific 1 false k

/-- Divides by `10 ^ k`, in steps of `10 ^ 308`, until nothing is left. -/
def scaleDown (x : Float) (k : Nat) : Float :=
  if k ≤ 308 then x / power k
  else if x == 0 then x
  else scaleDown (x / power 308) (k - 308)
termination_by k

def scale? (significand : Nat) (exponent : Int) : Option Float :=
  let x := significand.toUInt64.toFloat
  if exponent < 0 then some (scaleDown x exponent.natAbs)
  else if exponent ≤ 308 then
    let y := x * power exponent.natAbs
    if y.isInf then none else some y
  else if x == 0 then some x else none

def signed (isNegative : Bool) (x : Float) : Binary64 :=
  ⟨if isNegative then (-x).toBits else x.toBits⟩

def scaled (isNegative : Bool) (significand : Nat) (exponent : Int) : Reader Number := fun rest =>
  match scale? significand exponent with
  | some x => .ok (.float (signed isNegative x), rest)
  | none => .error (.before .numberOutOfRange rest)

def exponent (isNegative : Bool) (significand : Nat) (start : Int) : Reader Number := fun s =>
  let (isBelow, s) := match s with
    | '+' :: rest => (false, rest)
    | '-' :: rest => (true, rest)
    | _ => (false, s)
  match s with
  | [] => .error (.before .endInValue [])
  | c :: rest =>
    if !isDigit c then .error (.upon .invalidNumber s)
    else match appendDigits exponentBound (digitValue c) 0 rest with
      | (k, _, rest) => match rest with
        | d :: beyond =>
          if isDigit d then
            if significand ≠ 0 && !isBelow then .error (.before .numberOutOfRange beyond)
            else .ok (.float (signed isNegative 0), beyond.dropWhile isDigit)
          else scaled isNegative significand (if isBelow then start - k else start + k) rest
        | [] => scaled isNegative significand (if isBelow then start - k else start + k) rest

def exponentOrEnd (isNegative : Bool) (significand : Nat) (start : Int) : Reader Number
  | 'e' :: rest | 'E' :: rest => exponent isNegative significand start rest
  | rest => scaled isNegative significand start rest

/-- Reads what follows a decimal point. Digits beyond 64 bits count for nothing. -/
def fraction (isNegative : Bool) (significand : Nat) (start : Int) : Reader Number := fun s =>
  match appendDigits significandBound significand 0 s with
  | (significand, taken, rest) =>
    if startsWithDigit rest then
      exponentOrEnd isNegative significand (start - taken) (rest.dropWhile isDigit)
    else if taken = 0 then
      match rest with
      | [] => .error (.before .endInValue [])
      | _ => .error (.upon .invalidNumber rest)
    else exponentOrEnd isNegative significand (start - taken) rest

def whole (isNegative : Bool) (n : Nat) : Number :=
  if !isNegative then .unsigned n
  else if 0 < n && n ≤ 0x8000000000000000 then .negative (-n)
  else .float (signed true n.toUInt64.toFloat)

def afterWhole (isNegative : Bool) (n : Nat) : Reader Number
  | '.' :: rest => fraction isNegative n 0 rest
  | 'e' :: rest | 'E' :: rest => exponent isNegative n 0 rest
  | rest => .ok (whole isNegative n, rest)

/-- Reads what follows digits of which the last `dropped` did not fit. -/
def afterLong (isNegative : Bool) (n : Nat) (dropped : Int) : Reader Number
  | '.' :: rest => fraction isNegative n dropped rest
  | rest => exponentOrEnd isNegative n dropped rest

def number (isNegative : Bool) : Reader Number
  | [] => .error (.before .endInValue [])
  | '0' :: rest =>
    if startsWithDigit rest then .error (.upon .invalidNumber rest)
    else afterWhole isNegative 0 rest
  | c :: rest =>
    if !isDigit c then .error (.upon .invalidNumber (c :: rest))
    else match appendDigits significandBound (digitValue c) 0 rest with
      | (n, _, rest) =>
        if startsWithDigit rest then
          afterLong isNegative n (rest.takeWhile isDigit).length (rest.dropWhile isDigit)
        else afterWhole isNegative n rest

end ObjectQuery.Json
