import ObjectQuery.Text.Alphanumeric

/-!
Modes of a pattern: how it is read from some place on. A group may set modes for itself, and a
switch sets them for what is left of the group around it.
-/
namespace ObjectQuery.Pattern

structure Mode where
  ignoreCase : Bool := false
  unicode : Bool := true
  skipBlanks : Bool := false
  deriving DecidableEq, Repr

/-- The rest after blanks and comments, which run from a number sign to the end of the line. -/
def dropBlanks (inComment : Bool) : List Char → List Char
  | [] => []
  | c :: rest =>
    if inComment then dropBlanks (c != '\n') rest
    else if c = '#' then dropBlanks true rest
    else if Text.isWhiteSpace c then dropBlanks false rest
    else c :: rest

namespace Mode

def skip (m : Mode) (s : List Char) : List Char := if m.skipBlanks then dropBlanks false s else s

/-- The character that comes next in a bracket. Where blanks are skipped, so is one number sign
among them, unless nothing is left behind it. -/
def peek? (m : Mode) (s : List Char) : Option Char :=
  if m.skipBlanks then
    match s.dropWhile Text.isWhiteSpace with
    | '#' :: rest => match rest.dropWhile Text.isWhiteSpace with
      | c :: _ => some c
      | [] => s.head?
    | c :: _ => some c
    | [] => s.head?
  else s.head?

/-- Switches the mode of a letter. Modes that have no bearing on what a pattern may hold are known
by their letters only. -/
def switch? (on : Bool) (m : Mode) : Char → Option Mode
  | 'i' => some { m with ignoreCase := on }
  | 'u' => some { m with unicode := on }
  | 'x' => some { m with skipBlanks := on }
  | 'm' | 's' | 'U' | 'R' => some m
  | _ => none

structure Letters where
  mode : Mode
  stop : Char
  isEmpty : Bool
  deriving DecidableEq, Repr

/-- Reads letters of modes up to a colon or the end of the group. Those after a minus sign are
switched off. No letter and no sign comes twice, and the sign does not come last. -/
def letters? (seen : List Char) (on : Bool) (m : Mode) : List Char → Option (Letters × List Char)
  | [] => none
  | c :: rest =>
    if c = ':' ∨ c = ')' then
      if seen.head? = some '-' then none else some (⟨m, c, seen.isEmpty⟩, rest)
    else if seen.contains c then none
    else if c = '-' then letters? (c :: seen) false m rest
    else match m.switch? on c with
      | some m => letters? (c :: seen) on m rest
      | none => none

end Mode

end ObjectQuery.Pattern
