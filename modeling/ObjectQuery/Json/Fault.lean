import ObjectQuery.Decimal.Text
import ObjectQuery.Text.Literal

/-!
Faults of a JSON text: what is wrong, and how much of the text lies after that. The position is
counted in bytes: lines from one, columns from the last line break before the fault.
-/
namespace ObjectQuery.Json

inductive Found where
  | null
  | boolean (b : Bool)
  | integer (n : Int)
  | float (x : Binary64)
  | string (s : String)
  | sequence
  | map
  deriving DecidableEq, Repr

def Found.text : Found → String
  | null => "null"
  | boolean b => s!"boolean `{b}`"
  | integer n => s!"integer `{n}`"
  | float x => "floating point `" ++ Decimal.text x ++ "`"
  | string s => "string " ++ Text.literal s
  | sequence => "sequence"
  | map => "map"

inductive Cause where
  | endInValue
  | endInList
  | endInObject
  | endInString
  | expectedColon
  | expectedListCommaOrEnd
  | expectedObjectCommaOrEnd
  | expectedIdent
  | expectedValue
  | invalidEscape
  | invalidNumber
  | numberOutOfRange
  | controlCharacter
  | keyNotString
  | loneSurrogate
  | endInEscape
  | trailingComma
  | trailingCharacters
  | invalidType (found : Found) (expected : String)
  | invalidValue (found : Found) (expected : String)
  | invalidLength (length : Nat) (expected : String)
  | unknownField (name : String) (expected : List String)
  | duplicateField (name : String)
  | missingField (name : String)
  | unknownVariant (name : String) (expected : List String)
  deriving DecidableEq, Repr

def ticked (s : String) : String := "`" ++ s ++ "`"

/-- One name, two joined by "or", or more after "one of". -/
def alternatives : List String → String
  | [] => ""
  | [a] => ticked a
  | [a, b] => ticked a ++ " or " ++ ticked b
  | names => "one of " ++ ", ".intercalate (names.map ticked)

namespace Cause

def message : Cause → String
  | endInValue => "EOF while parsing a value"
  | endInList => "EOF while parsing a list"
  | endInObject => "EOF while parsing an object"
  | endInString => "EOF while parsing a string"
  | expectedColon => "expected `:`"
  | expectedListCommaOrEnd => "expected `,` or `]`"
  | expectedObjectCommaOrEnd => "expected `,` or `\x7d`"
  | expectedIdent => "expected ident"
  | expectedValue => "expected value"
  | invalidEscape => "invalid escape"
  | invalidNumber => "invalid number"
  | numberOutOfRange => "number out of range"
  | controlCharacter =>
    "control character (\\u0000-\\u001F) found while parsing a string"
  | keyNotString => "key must be a string"
  | loneSurrogate => "lone leading surrogate in hex escape"
  | endInEscape => "unexpected end of hex escape"
  | trailingComma => "trailing comma"
  | trailingCharacters => "trailing characters"
  | invalidType found expected => s!"invalid type: {found.text}, expected {expected}"
  | invalidValue found expected => s!"invalid value: {found.text}, expected {expected}"
  | invalidLength length expected => s!"invalid length {length}, expected {expected}"
  | unknownField name expected =>
    "unknown field " ++ ticked name ++ ", expected " ++ alternatives expected
  | duplicateField name => "duplicate field " ++ ticked name
  | missingField name => "missing field " ++ ticked name
  | unknownVariant name expected =>
    "unknown variant " ++ ticked name ++ ", expected " ++ alternatives expected

end Cause

def byteLength : List Char → Nat
  | [] => 0
  | c :: rest => c.utf8Size + byteLength rest

structure Fault where
  cause : Cause
  /-- The bytes of the text after the fault. -/
  left : Nat
  deriving DecidableEq, Repr

def Fault.before (cause : Cause) (rest : List Char) : Fault := ⟨cause, byteLength rest⟩

/-- A fault that takes in `n` bytes of the rest, or all of it if it is shorter. -/
def Fault.within (n : Nat) (cause : Cause) (rest : List Char) : Fault :=
  ⟨cause, byteLength rest - n⟩

def Fault.upon (cause : Cause) (rest : List Char) : Fault := .within 1 cause rest

structure Position where
  line : Nat := 1
  column : Nat := 0
  deriving DecidableEq, Repr

def Position.after (p : Position) (offset : Nat) : List Char → Position
  | [] => p
  | c :: rest =>
    if offset < c.utf8Size then { p with column := p.column + offset }
    else if c = '\n' then after ⟨p.line + 1, 0⟩ (offset - 1) rest
    else after { p with column := p.column + c.utf8Size } (offset - c.utf8Size) rest

def Fault.position (f : Fault) (text : String) : Position :=
  Position.after {} (text.utf8ByteSize - f.left) text.toList

def Fault.describe (f : Fault) (text : String) : String :=
  let p := f.position text
  s!"{f.cause.message} at line {p.line} column {p.column}"

end ObjectQuery.Json
