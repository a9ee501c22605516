import ObjectQuery.Pattern.Bracket

/-!
Tokens of a pattern: the ends of groups, switches of modes, and what stands between them. Counted
repetition is none: it needs a closing brace, which would end the field that the pattern is for.
-/
namespace ObjectQuery.Pattern

inductive Token where
  | opening (mode : Mode) (name : Option String)
  | closing
  | switch (mode : Mode)
  | bar
  | repetition
  | atom
  | bracket (depth : Nat)
  deriving DecidableEq, Repr

def mayStartName (c : Char) : Bool := c == '_' || Text.isAlphabetic c

def mayContinueName (c : Char) : Bool :=
  c == '_' || c == '.' || c == '[' || c == ']' || Text.isAlphanumeric c

def groupName? (s : List Char) : Option (String × List Char) :=
  let name := s.takeWhile (· ≠ '>')
  match name, s.dropWhile (· ≠ '>') with
  | c :: more, _ :: rest =>
    if mayStartName c && more.all mayContinueName then some (.ofList name, rest) else none
  | _, _ => none

def group? (m : Mode) (s : List Char) : Option (Token × List Char) :=
  match m.skip s with
  | '?' :: 'P' :: '<' :: rest | '?' :: '<' :: rest =>
    (groupName? rest).map fun (name, rest) => (.opening m (some name), rest)
  | '?' :: rest => match Mode.letters? [] true m rest with
    | some (letters, rest) =>
      if letters.stop = ':' then some (.opening letters.mode none, rest)
      else if letters.isEmpty then none
      else some (.switch letters.mode, rest)
    | none => none
  | rest => some (.opening m none, rest)

def token? (m : Mode) : List Char → Option (Token × List Char)
  | '(' :: rest => group? m rest
  | ')' :: rest => some (.closing, rest)
  | '|' :: rest => some (.bar, rest)
  | '[' :: rest => (bracket? m rest).map fun (depth, rest) => (.bracket depth, rest)
  | '*' :: '?' :: rest | '+' :: '?' :: rest | '?' :: '?' :: rest => some (.repetition, rest)
  | '*' :: rest | '+' :: rest | '?' :: rest => some (.repetition, rest)
  | '{' :: _ => none
  | s => match atom? m s with
    | some (a, rest) => if a.isAllowed m then some (.atom, rest) else none
    | none => none

end ObjectQuery.Pattern
