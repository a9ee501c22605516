import ObjectQuery.Pattern.Atom
import ObjectQuery.Pattern.Nesting

/-!
Bracketed classes of a pattern. A class holds characters, ranges, named classes and further classes,
and two signs in a row make an operator on all that stands before and after them.
-/
namespace ObjectQuery.Pattern

def classNames : List String :=
  ["alnum", "alpha", "ascii", "blank", "cntrl", "digit", "graph", "lower", "print", "punct",
    "space", "upper", "word", "xdigit"]

structure NamedClass where
  name : String
  negated : Bool
  deriving DecidableEq, Repr

def namedClass? : List Char → Option (NamedClass × List Char)
  | ':' :: s =>
    let (negated, s) := match s with
      | '^' :: rest => (true, rest)
      | _ => (false, s)
    let name := String.ofList (s.takeWhile (· ≠ ':'))
    match s.dropWhile (· ≠ ':') with
    | ':' :: ']' :: rest => if classNames.contains name then some (⟨name, negated⟩, rest) else none
    | _ => none
  | _ => none

namespace Mode

def allowsNamed (m : Mode) (c : NamedClass) : Bool :=
  if m.unicode then !m.ignoreCase else !c.negated

def allowsCode (m : Mode) (n : Nat) : Bool :=
  if m.unicode then !m.ignoreCase else n < Atom.basicBound

def allowsMember (m : Mode) (a : Atom) : Bool :=
  match a with
  | .shorthand _ => a.isAllowed m
  | _ => match a.code? with
    | some n => m.allowsCode n
    | none => false

def allowsRange (m : Mode) (first last : Atom) : Bool :=
  match first.code?, last.code? with
  | some a, some b => a ≤ b && m.allowsCode a && m.allowsCode b
  | _, _ => false

end Mode

def memberAtom? (m : Mode) : List Char → Option (Atom × List Char)
  | [] => none
  | '\\' :: rest => escape? m rest
  | c :: rest => some (.literal c, rest)

/-- Reads past one character, short name or range. A minus sign before the end of the class or
before another one makes no range. -/
def member? (m : Mode) (s : List Char) : Option (List Char) :=
  match memberAtom? m s with
  | none => none
  | some (first, rest) =>
    let alone := fun rest => if m.allowsMember first then some rest else none
    match m.skip rest with
    | '-' :: rest =>
      if m.peek? rest = some ']' ∨ m.peek? rest = some '-' then alone ('-' :: rest)
      else match memberAtom? m (m.skip rest) with
        | some (last, rest) => if m.allowsRange first last then some rest else none
        | none => none
    | rest => alone rest

structure Layer where
  /-- How deep the left side of the operator lies, if there was one. -/
  left : Option Nat := none
  members : Row := {}
  /-- Whether minus signs still stand for themselves. -/
  isFresh : Bool := true
  deriving DecidableEq, Repr

namespace Layer

def add (l : Layer) (depth : Nat) : Layer :=
  { l with members := l.members.add depth, isFresh := false }

def addMinus (l : Layer) : Layer := { l with members := l.members.add 0 }

def depth (l : Layer) : Nat :=
  match l.left with
  | none => l.members.depth
  | some left => max left l.members.depth + 1

def operate (l : Layer) : Layer := { left := some l.depth, isFresh := false }

end Layer

def openBracket? (m : Mode) (s : List Char) : Option (List Char) :=
  match m.skip s with
  | '^' :: rest => if m.unicode then some rest else none
  | rest => some rest

/-- Reads at most so many members up to the end of the outermost bracket, and tells how deep it
lies. Each member takes at least one character, so the length of the text is enough. -/
def bracketWithin? (m : Mode) : Nat → Layer → List Layer → List Char → Option (Nat × List Char)
  | 0, _, _, _ => none
  | steps + 1, layer, outer, s =>
    match m.skip s with
    | [] => none
    | '-' :: rest =>
      if layer.isFresh then
        if m.allowsCode '-'.toNat then bracketWithin? m steps layer.addMinus outer rest else none
      else match rest with
        | '-' :: rest => bracketWithin? m steps layer.operate outer rest
        | _ => match member? m ('-' :: rest) with
          | some rest => bracketWithin? m steps (layer.add 0) outer rest
          | none => none
    | ']' :: rest =>
      if layer.isFresh ∧ layer.members.count = 0 then
        if m.allowsCode ']'.toNat then bracketWithin? m steps (layer.add 0) outer rest else none
      else match outer with
        | [] => some (layer.depth + 1, rest)
        | around :: outer => bracketWithin? m steps (around.add (layer.depth + 1)) outer rest
    | '[' :: rest => match namedClass? rest with
      | some (c, rest) =>
        if m.allowsNamed c then bracketWithin? m steps (layer.add 0) outer rest else none
      | none => match openBracket? m rest with
        | some rest => bracketWithin? m steps {} (layer :: outer) rest
        | none => none
    | '&' :: '&' :: rest | '~' :: '~' :: rest => bracketWithin? m steps layer.operate outer rest
    | s => match member? m s with
      | some rest => bracketWithin? m steps (layer.add 0) outer rest
      | none => none

def bracket? (m : Mode) (s : List Char) : Option (Nat × List Char) :=
  match openBracket? m s with
  | some rest => bracketWithin? m (rest.length + 1) {} [] rest
  | none => none

end ObjectQuery.Pattern
