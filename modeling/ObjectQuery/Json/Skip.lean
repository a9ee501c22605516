import ObjectQuery.Json.Value

/-!
Skips a value of any kind without reading it. Lists and objects may be nested to any depth: what
is still open stands on a stack. Escapes in skipped strings need not denote characters.
-/
namespace ObjectQuery.Json

def skipStringPart : List Char → Except Fault (Bool × List Char)
  | [] => .error (.before .endInString [])
  | '"' :: rest => .ok (true, rest)
  | '\\' :: [] => .error (.before .endInString [])
  | '\\' :: 'u' :: rest => (codeUnit rest).map fun (_, rest) => (false, rest)
  | '\\' :: c :: rest =>
    if (escaped? c).isSome then .ok (false, rest)
    else .error (.upon .invalidEscape (c :: rest))
  | c :: rest =>
    if c < ' ' then .error (.before .controlCharacter (c :: rest)) else .ok (false, rest)

theorem length_of_skipStringPart {s rest : List Char} {ended : Bool}
    (h : skipStringPart s = .ok (ended, rest)) : rest.length < s.length := by
  unfold skipStringPart at h
  split at h
  · contradiction
  · cases h
    simp
  · contradiction
  · rename_i tail
    cases hu : codeUnit tail with
    | error f => simp [hu, Except.map] at h
    | ok found =>
      obtain ⟨n, left⟩ := found
      have shorter := length_of_codeUnit hu
      simp only [hu, Except.map] at h
      cases h
      simp only [List.length_cons]
      omega
  · split at h
    · cases h
      simp only [List.length_cons]
      omega
    · contradiction
  · split at h
    · contradiction
    · cases h
      simp

def skipString (s : List Char) : Except Fault (List Char) :=
  match h : skipStringPart s with
  | .error f => .error f
  | .ok (true, rest) => .ok rest
  | .ok (false, rest) =>
    have := length_of_skipStringPart h
    skipString rest
termination_by s.length

def skipExponent (s : List Char) : Except Fault (List Char) :=
  let s := match s with
    | '+' :: rest | '-' :: rest => rest
    | _ => s
  if startsWithDigit s then .ok (s.dropWhile isDigit) else .error (.upon .invalidNumber s)

def skipExponentIfAny : List Char → Except Fault (List Char)
  | 'e' :: rest | 'E' :: rest => skipExponent rest
  | rest => .ok rest

def skipAfterWhole : List Char → Except Fault (List Char)
  | '.' :: rest =>
    if startsWithDigit rest then skipExponentIfAny (rest.dropWhile isDigit)
    else .error (.upon .invalidNumber rest)
  | rest => skipExponentIfAny rest

def skipNumber : List Char → Except Fault (List Char)
  | '0' :: rest =>
    if startsWithDigit rest then .error (.upon .invalidNumber rest) else skipAfterWhole rest
  | s =>
    if startsWithDigit s then skipAfterWhole (s.dropWhile isDigit)
    else .error (.upon .invalidNumber s)

inductive Open where
  | list
  | object
  deriving DecidableEq, Repr

def skipStart (s : List Char) : Except Fault (Option Open × List Char) :=
  let ended := Except.map fun rest : List Char => ((none : Option Open), rest)
  match s with
  | [] => .error (.before .endInValue [])
  | 'n' :: rest => ended ((nullWord rest).map Prod.snd)
  | 't' :: rest => ended ((trueWord rest).map Prod.snd)
  | 'f' :: rest => ended ((falseWord rest).map Prod.snd)
  | '-' :: rest => ended (skipNumber rest)
  | '"' :: rest => ended (skipString rest)
  | '[' :: rest => .ok (some .list, rest)
  | '{' :: rest => .ok (some .object, rest)
  | c :: _ => if isDigit c then ended (skipNumber s) else .error (.upon .expectedValue s)

/-- Goes on after a value inside open lists and objects: past the ends of those that end here, and
past the comma before the next value. Gives what is then still open; nothing if all has ended. -/
def skipEnds (afterValue : Bool) : List Open → List Char → Except Fault (List Open × List Char)
  | [], s => .ok ([], s)
  | .list :: outer, s => match skipBlank s with
    | [] => .error (.before .endInList [])
    | ']' :: rest => skipEnds true outer rest
    | ',' :: rest =>
      if afterValue then .ok (.list :: outer, rest) else .ok (.list :: outer, ',' :: rest)
    | s =>
      if afterValue then .error (.upon .expectedListCommaOrEnd s) else .ok (.list :: outer, s)
  | .object :: outer, s => match skipBlank s with
    | [] => .error (.before .endInObject [])
    | '}' :: rest => skipEnds true outer rest
    | ',' :: rest =>
      if afterValue then .ok (.object :: outer, rest) else .ok (.object :: outer, ',' :: rest)
    | s =>
      if afterValue then .error (.upon .expectedObjectCommaOrEnd s)
      else .ok (.object :: outer, s)

def skipKey (s : List Char) : Except Fault (List Char) :=
  match skipBlank s with
  | [] => .error (.before .endInObject [])
  | '"' :: rest => match skipString rest with
    | .error f => .error f
    | .ok rest => colon rest
  | s => .error (.upon .keyNotString s)

/-- Skips one value, then whatever ends after it, up to the start of the next value inside. Gives
what is still open there; nothing if the outermost value has ended. -/
def skipStep (openings : List Open) (s : List Char) : Except Fault (List Open × List Char) :=
  match skipStart (skipBlank s) with
  | .error f => .error f
  | .ok (started, rest) =>
    match skipEnds started.isNone (started.toList ++ openings) rest with
    | .error f => .error f
    | .ok (.object :: outer, rest) => (skipKey rest).map fun rest => (.object :: outer, rest)
    | .ok (openings, rest) => .ok (openings, rest)

/-- Skips a value inside these openings in at most so many steps. Each step takes at least one
character, so the length of the text is enough. -/
def skipWithin : Nat → List Open → List Char → Except Fault (List Char)
  | 0, _, _ => .error (.before .endInValue [])
  | steps + 1, openings, s => match skipStep openings s with
    | .error f => .error f
    | .ok ([], rest) => .ok rest
    | .ok (openings, rest) => skipWithin steps openings rest

def skipValue (s : List Char) : Except Fault (List Char) := skipWithin (s.length + 1) [] s

end ObjectQuery.Json
