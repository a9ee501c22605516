import ObjectQuery.Logging.Config
import ObjectQuery.Json.Skip
import ObjectQuery.Json.Writer

/-!
Log configurations as JSON. A text is an object that gives the level once among any other members,
which are skipped, or a list with the level alone.
-/
namespace ObjectQuery.LogConfig

open Json (Fault Reader)

def field : String := "log_level"

def expectedLength : String := "struct LoggingConfig with 1 element"

def readLevel : Reader String := Json.text "a string"

def member (level : Option String) (key : String) (s : List Char) :
    Except Fault (Option String × List Char) :=
  if key = field then
    match level with
    | some _ => .error (.inMembers (.duplicateField field) s)
    | none => match Json.colon s with
      | .error f => .error f
      | .ok rest => (readLevel rest).map fun (level, rest) => (some level, rest)
  else match Json.colon s with
    | .error f => .error f
    | .ok rest => (Json.skipValue rest).map fun rest => (level, rest)

/-- Reads at most so many members up to the end of the object. Each takes at least one character,
so the length of the text is enough. -/
def members : Nat → Option String → Bool → Reader LogConfig
  | 0, _, _, _ => .error (.before .endInObject [])
  | steps + 1, level, first, s => match Json.nextKey first s with
    | .error f => .error f
    | .ok (.done rest) => match level with
      | some level => .ok (⟨level⟩, rest)
      | none => .error (.before (.missingField field) rest)
    | .ok (.item key rest) => match member level key rest with
      | .error f => .error f
      | .ok (level, rest) => members steps level false rest

def elements : Reader LogConfig := fun s =>
  match Json.nextElement true s with
  | .error f => .error f
  | .ok (.done rest) => .error (.before (.invalidLength 0 expectedLength) rest)
  | .ok (.item _ rest) => match readLevel rest with
    | .error f => .error f
    | .ok (level, rest) => (Json.endList rest).map fun rest => (⟨level⟩, rest)

def read : Reader LogConfig := Json.value "struct LoggingConfig" fun
  | '[' :: rest => some (elements rest)
  | '{' :: rest => some (members (rest.length + 1) none true rest)
  | _ => none

def toJson (c : LogConfig) : String := Json.writeObject [(field, Json.writeString c.level)]

end ObjectQuery.LogConfig
