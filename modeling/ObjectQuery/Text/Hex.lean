/-! Numbers in base sixteen, with lower-case digits. -/
namespace ObjectQuery

def hexDigits (n : Nat) : String := String.ofList (Nat.toDigits 16 n)

def hexNumeral (n : UInt64) : String := "0x" ++ hexDigits n.toNat

def hexDigit? (c : Char) : Option Nat :=
  if '0' ≤ c ∧ c ≤ '9' then some (c.toNat - '0'.toNat)
  else if 'a' ≤ c ∧ c ≤ 'f' then some (c.toNat - 'a'.toNat + 10)
  else if 'A' ≤ c ∧ c ≤ 'F' then some (c.toNat - 'A'.toNat + 10)
  else none

end ObjectQuery
