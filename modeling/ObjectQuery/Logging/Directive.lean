import ObjectQuery.Logging.FieldTest
import ObjectQuery.Text.Alphanumeric

/-!
Filter directives. A directive is a level, or a target with an optional span, a field of that span
and a level: `level`, `target`, `target=level`, `target[span]=level`, `target[span{field=value}]`.
Without a level it lets everything through.
-/
namespace ObjectQuery.Logging

structure Directive where
  target : Option String := none
  span : Option String := none
  field : Option FieldTest := none
  level : Threshold := .trace
  deriving DecidableEq, Repr

inductive Part where
  | start
  | name (start : Nat)
  | span (start : Nat)
  | field (start : Nat)
  | afterField
  | afterSpan
  | level (start : Nat)
  deriving DecidableEq, Repr

namespace Directive

/-- How many characters take up the first `n` bytes, if the last of them ends there. -/
def charCount? (n count : Nat) : List Char → Option Nat
  | [] => if n = 0 then some count else none
  | c :: rest =>
    if n = 0 then some count
    else if c.utf8Size ≤ n then charCount? (n - c.utf8Size) (count + 1) rest
    else none

def slice? (s : List Char) (start stop : Nat) : Option String :=
  match charCount? start 0 s, charCount? stop 0 s with
  | some start, some stop => some (.ofList ((s.take stop).drop start))
  | _, _ => none

def suffix? (s : List Char) (start : Nat) : Option String :=
  (charCount? start 0 s).map fun start => .ofList (s.drop start)

def mayStart (c : Char) : Bool := c == '-' || c == ':' || c == '_' || Text.isAlphanumeric c

def advance? (s : List Char) (d : Directive) (i : Nat) (c : Char) :
    Part → Option (Directive × Part)
  | .start =>
    if c = '[' then some (d, .span (i + 1))
    else if mayStart c then some (d, .name i)
    else none
  | .name start =>
    if c = '=' then
      (slice? s start i).map fun target => ({ d with target }, .level (i + 1))
    else if c = '[' then
      (slice? s start i).map fun target => ({ d with target }, .span (i + 1))
    else some (d, .name start)
  | .span start =>
    if c = ']' then (slice? s start i).map fun span => ({ d with span }, .afterSpan)
    else if c = '{' then
      (slice? s start i).map fun name =>
        ({ d with span := if name.isEmpty then none else some name }, .field (i + 1))
    else some (d, .span start)
  | .field start =>
    if c = '}' then
      match slice? s start i with
      | some text =>
        if text.isEmpty then none
        else (FieldTest.ofText? text.toList).map fun field => ({ d with field }, .afterField)
      | none => none
    else some (d, .field start)
  | .afterField => if c = ']' then some (d, .afterSpan) else none
  | .afterSpan => if c = '=' then some (d, .level (i + 1)) else none
  | .level start => some (d, .level start)

def walk? (s : List Char) (d : Directive) (part : Part) (i : Nat) :
    List Char → Option (Directive × Part)
  | [] => some (d, part)
  | c :: rest => match advance? s d i c part with
    | some (d, part) => walk? s d part (i + c.utf8Size) rest
    | none => none

def finish? (s : List Char) (d : Directive) : Part → Option Directive
  | .name start => (suffix? s start).map fun text =>
    match Threshold.ofText? text with
    | some level => { d with level, target := none }
    | none => { d with level := .trace, target := some text }
  | .level start => match suffix? s start with
    | some text =>
      if text.isEmpty then some { d with level := .trace }
      else (Threshold.ofText? text).map fun level => { d with level }
    | none => none
  | .afterSpan => some d
  | .start | .span _ | .field _ | .afterField => none

/-- Reads a directive. Places are counted in bytes without the white space around the text, and
looked up in the text with it; one that falls inside a character there has no text. -/
def ofText? (s : List Char) : Option Directive :=
  match walk? s {} .start 0 (Text.trim s) with
  | some (d, part) => finish? s d part
  | none => none

end Directive

end ObjectQuery.Logging
