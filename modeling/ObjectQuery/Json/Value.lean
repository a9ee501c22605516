import ObjectQuery.Json.Number

/-!
Values of a given kind, and the frame of lists and objects. What is read in the place of a value
of another kind is named in the fault, which lies after it; a list or an object is not entered for
that.
-/
namespace ObjectQuery.Json

def mismatch (found : Found) (expected : String) (rest : List Char) : Fault :=
  .before (.invalidType found expected) rest

def wrongKind (expected : String) (s : List Char) : Fault :=
  let name {α : Type} (found : α → Found) : Except Fault (α × List Char) → Fault
    | .ok (a, rest) => mismatch (found a) expected rest
    | .error f => f
  match s with
  | 'n' :: rest => name (fun _ => .null) (nullWord rest)
  | 't' :: rest => name .boolean (trueWord rest)
  | 'f' :: rest => name .boolean (falseWord rest)
  | '-' :: rest => name Number.found (number true rest)
  | '"' :: rest => name (fun text => .string (.ofList text)) (string rest)
  | '[' :: _ => mismatch .sequence expected s
  | '{' :: _ => mismatch .map expected s
  | c :: _ =>
    if isDigit c then name Number.found (number false s) else .upon .expectedValue s
  | [] => .upon .expectedValue s

def value {α : Type} (expected : String)
    (read : List Char → Option (Except Fault (α × List Char))) : Reader α := fun s =>
  match skipBlank s with
  | [] => .error (.before .endInValue [])
  | s => (read s).getD (.error (wrongKind expected s))

def boolean : Reader Bool := value "a boolean" fun
  | 't' :: rest => some (trueWord rest)
  | 'f' :: rest => some (falseWord rest)
  | _ => none

def unit : Reader Unit := value "unit" fun
  | 'n' :: rest => some (nullWord rest)
  | _ => none

def text (expected : String) : Reader String := value expected fun
  | '"' :: rest => some ((string rest).map fun (text, rest) => (.ofList text, rest))
  | _ => none

inductive Next (α : Type) where
  | item (item : α) (rest : List Char)
  | done (rest : List Char)

def nextElement (first : Bool) (s : List Char) : Except Fault (Next Unit) :=
  match skipBlank s with
  | [] => .error (.before .endInList [])
  | ']' :: rest => .ok (.done rest)
  | ',' :: rest =>
    if first then .ok (.item () (',' :: rest))
    else match skipBlank rest with
      | [] => .error (.before .endInValue [])
      | ']' :: rest => .error (.upon .trailingComma (']' :: rest))
      | s => .ok (.item () s)
  | s => if first then .ok (.item () s) else .error (.upon .expectedListCommaOrEnd s)

def endList (s : List Char) : Except Fault (List Char) :=
  match skipBlank s with
  | [] => .error (.before .endInList [])
  | ']' :: rest => .ok rest
  | ',' :: rest => match skipBlank rest with
    | ']' :: rest => .error (.upon .trailingComma (']' :: rest))
    | rest => .error (.upon .trailingCharacters rest)
  | s => .error (.upon .trailingCharacters s)

def key (s : List Char) : Except Fault (Next String) :=
  (string s).map fun (text, rest) => .item (.ofList text) rest

def nextKey (first : Bool) (s : List Char) : Except Fault (Next String) :=
  match skipBlank s with
  | [] => .error (.before .endInObject [])
  | '}' :: rest => .ok (.done rest)
  | ',' :: rest =>
    if first then .error (.upon .keyNotString (',' :: rest))
    else match skipBlank rest with
      | [] => .error (.before .endInValue [])
      | '"' :: rest => key rest
      | '}' :: rest => .error (.upon .trailingComma ('}' :: rest))
      | s => .error (.upon .keyNotString s)
  | '"' :: rest =>
    if first then key rest else .error (.upon .expectedObjectCommaOrEnd ('"' :: rest))
  | s => .error (.upon (if first then .keyNotString else .expectedObjectCommaOrEnd) s)

def colon (s : List Char) : Except Fault (List Char) :=
  match skipBlank s with
  | [] => .error (.before .endInObject [])
  | ':' :: rest => .ok rest
  | s => .error (.upon .expectedColon s)

/-- A fault in the members of an object lies behind blanks and the end of the object, if these
come next. -/
def Fault.inMembers (cause : Cause) (rest : List Char) : Fault :=
  match skipBlank rest with
  | '}' :: rest => .before cause rest
  | rest => .before cause rest

def decode {α : Type} (read : Reader α) (text : String) : Except Fault α :=
  match read text.toList with
  | .error f => .error f
  | .ok (a, rest) => match skipBlank rest with
    | [] => .ok a
    | rest => .error (.upon .trailingCharacters rest)

end ObjectQuery.Json
