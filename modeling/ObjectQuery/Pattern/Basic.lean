import ObjectQuery.Pattern.Token

/-!
Patterns for the values of fields. What a pattern matches is not part of this library; whether a
text is a pattern decides whether a directive can be read.
-/
namespace ObjectQuery.Pattern

structure Level where
  branches : Row := {}
  items : Row := {}
  /-- How deep the last item lies, if it can be repeated. -/
  last : Option Nat := none
  deriving DecidableEq, Repr

namespace Level

def push (l : Level) (depth : Nat) : Level :=
  { l with items := l.items.add depth, last := some depth }

def pushSwitch (l : Level) : Level := { l with items := l.items.add 0, last := none }

def repeatLast? (l : Level) : Option Level :=
  l.last.map fun depth =>
    { l with
      items := { l.items with deepest := max l.items.deepest (depth + 1) }
      last := some (depth + 1) }

def endBranch (l : Level) : Level := { branches := l.branches.add l.items.depth }

def depth (l : Level) : Nat := l.endBranch.branches.depth

end Level

structure Progress where
  mode : Mode := {}
  level : Level := {}
  outer : List (Mode × Level) := []
  names : List String := []
  deriving DecidableEq, Repr

namespace Progress

def enter (p : Progress) (mode : Mode) : Progress :=
  { p with mode, level := {}, outer := (p.mode, p.level) :: p.outer }

/-- Closes the innermost group. The modes from before it hold again. -/
def leave? (p : Progress) : Option Progress :=
  match p.outer with
  | [] => none
  | (mode, level) :: outer => some { p with mode, level := level.push (p.level.depth + 1), outer }

def advance? (p : Progress) : Token → Option Progress
  | .opening mode none => some (p.enter mode)
  | .opening mode (some name) =>
    if p.names.contains name then none
    else some { p.enter mode with names := name :: p.names }
  | .closing => p.leave?
  | .switch mode => some { p with mode, level := p.level.pushSwitch }
  | .bar => some { p with level := p.level.endBranch }
  | .repetition => p.level.repeatLast?.map fun level => { p with level }
  | .atom => some { p with level := p.level.push 0 }
  | .bracket depth => some { p with level := p.level.push depth }

end Progress

/-- Reads at most so many tokens. Each takes at least one character, so the length of the text is
enough. -/
def readWithin? : Nat → Progress → List Char → Option Progress
  | 0, _, _ => none
  | steps + 1, p, s => match p.mode.skip s with
    | [] => some p
    | s => match token? p.mode s with
      | none => none
      | some (token, rest) => match p.advance? token with
        | some p => readWithin? steps p rest
        | none => none

def greatestDepth : Nat := 250

def isPattern (s : List Char) : Bool :=
  match readWithin? (s.length + 1) {} s with
  | some p => p.outer.isEmpty && p.level.depth ≤ greatestDepth
  | none => false

end ObjectQuery.Pattern
