import ObjectQuery.Pattern.Mode

/-!
Atoms of a pattern: one character, a class of characters under a short name, or a place in the
text. No classes beyond the basic characters are known, so what would need them is refused: letters
of either case, classes under short names and bounds of words, unless the mode leaves only basic
characters. Escapes with braces are none, as a closing brace would end the field.
-/
namespace ObjectQuery.Pattern

inductive Atom where
  | literal (c : Char)
  /-- A character by two hexadecimal digits, or one byte where the mode knows bytes only. -/
  | byte (n : Nat)
  | shorthand (negated : Bool)
  | anything
  | wordBound
  | edge
  deriving DecidableEq, Repr

namespace Atom

def basicBound : Nat := 0x80

def isAllowed (m : Mode) : Atom → Bool
  | literal _ => !(m.unicode && m.ignoreCase)
  | byte n => if m.unicode then !m.ignoreCase else n < basicBound
  | shorthand negated => !m.unicode && !negated
  | anything => m.unicode
  | wordBound => !m.unicode
  | edge => true

def code? : Atom → Option Nat
  | literal c => some c.toNat
  | byte n => some n
  | _ => none

end Atom

def hexValue? (c : Char) : Option Nat :=
  if c.isDigit then some (c.toNat - '0'.toNat)
  else if 'a' ≤ c ∧ c ≤ 'f' then some (c.toNat - 'a'.toNat + 10)
  else if 'A' ≤ c ∧ c ≤ 'F' then some (c.toNat - 'A'.toNat + 10)
  else none

def hexDigits? (m : Mode) (value : Nat) : Nat → List Char → Option (Nat × List Char)
  | 0, s => some (value, s)
  | n + 1, s => match m.skip s with
    | c :: rest => match hexValue? c with
      | some digit => hexDigits? m (value * 16 + digit) n rest
      | none => none
    | [] => none

def scalar? (m : Mode) (count : Nat) (s : List Char) : Option (Atom × List Char) :=
  match hexDigits? m 0 count s with
  | some (n, rest) =>
    if n.isValidChar then some (.literal (.ofNat n), rest) else none
  | none => none

/-- Reads an escape after its backslash. A sign stands for itself; a letter or digit only where it
has a meaning. -/
def escape? (m : Mode) : List Char → Option (Atom × List Char)
  | [] => none
  | c :: rest => match c with
    | 'x' => (hexDigits? m 0 2 rest).map fun (n, rest) => (.byte n, rest)
    | 'u' => scalar? m 4 rest
    | 'U' => scalar? m 8 rest
    | 'd' | 's' | 'w' => some (.shorthand false, rest)
    | 'D' | 'S' | 'W' => some (.shorthand true, rest)
    | 'a' => some (.literal '\x07', rest)
    | 'f' => some (.literal '\x0c', rest)
    | 't' => some (.literal '\t', rest)
    | 'n' => some (.literal '\n', rest)
    | 'r' => some (.literal '\r', rest)
    | 'v' => some (.literal '\x0b', rest)
    | 'A' | 'z' => some (.edge, rest)
    | 'b' | 'B' | '<' | '>' => some (.wordBound, rest)
    | c => if c.toNat < Atom.basicBound ∧ !c.isAlphanum then some (.literal c, rest) else none

def atom? (m : Mode) : List Char → Option (Atom × List Char)
  | [] => none
  | '\\' :: rest => escape? m rest
  | '.' :: rest => some (.anything, rest)
  | '^' :: rest | '$' :: rest => some (.edge, rest)
  | c :: rest => some (.literal c, rest)

end ObjectQuery.Pattern
