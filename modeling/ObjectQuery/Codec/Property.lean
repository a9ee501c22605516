import ObjectQuery.Property
import ObjectQuery.Json.Value
import ObjectQuery.Json.Writer

/-! Property ids and value types as JSON: a number of 32 bits, and the name of the class. -/
namespace ObjectQuery

open Json (Fault Reader Found)

namespace PropertyId

def ofNumber (n : Json.Number) (rest : List Char) : Except Fault (PropertyId × List Char) :=
  match n with
  | .unsigned k =>
    if k < UInt32.size then .ok (⟨k.toUInt32⟩, rest)
    else .error (.before (.invalidValue (.integer k) "u32") rest)
  | .negative k => .error (.before (.invalidValue (.integer k) "u32") rest)
  | .float x => .error (.before (.invalidType (.float x) "u32") rest)

def readNumber (isNegative : Bool) (s : List Char) : Except Fault (PropertyId × List Char) :=
  match Json.number isNegative s with
  | .error f => .error f
  | .ok (n, rest) => ofNumber n rest

def read : Reader PropertyId := Json.value "u32" fun
  | '-' :: rest => some (readNumber true rest)
  | s => if Json.startsWithDigit s then some (readNumber false s) else none

def toJson (id : PropertyId) : String := id.text

end PropertyId

namespace ValueType

def name : ValueType → String
  | .int64 => "Int64"
  | .float64 => "Float64"
  | .text => "Text"

def names : List String := [name .int64, name .float64, name .text]

def ofName? (s : String) : Option ValueType :=
  if s = "Int64" then some .int64
  else if s = "Float64" then some .float64
  else if s = "Text" then some .text
  else none

def named (name : String) : Reader ValueType := fun rest =>
  match ofName? name with
  | some t => .ok (t, rest)
  | none => .error (.before (.unknownVariant name names) rest)

def readName : Reader ValueType := fun s =>
  match Json.text "variant identifier" s with
  | .error f => .error f
  | .ok (name, rest) => named name rest

def endMember (t : ValueType) : Reader ValueType := fun s =>
  match Json.colon s with
  | .error f => .error f
  | .ok rest => match Json.unit rest with
    | .error f => .error f
    | .ok (_, rest) => match Json.skipBlank rest with
      | [] => .error (.before .endInObject [])
      | '}' :: rest => .ok (t, rest)
      | rest => .error (.before .expectedValue rest)

/-- Reads the one member of an object, whose key is the name and whose value is null. -/
def readMember : Reader ValueType := fun s =>
  match Json.nextKey true s with
  | .error f => .error f
  | .ok (.done rest) => .error (.before .expectedValue rest)
  | .ok (.item name rest) => match named name rest with
    | .error f => .error f
    | .ok (t, rest) => endMember t rest

def read : Reader ValueType := fun s =>
  match Json.skipBlank s with
  | [] => .error (.before .endInValue [])
  | '{' :: rest => readMember rest
  | '"' :: rest => readName ('"' :: rest)
  | s => .error (.upon .expectedValue s)

def toJson (t : ValueType) : String := Json.writeString t.name

end ValueType

end ObjectQuery
