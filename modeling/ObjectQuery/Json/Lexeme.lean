import ObjectQuery.Json.Fault
import ObjectQuery.Text.Hex

/-! Blanks, literal words and strings of a JSON text. -/
namespace ObjectQuery.Json

abbrev Reader (α : Type) := List Char → Except Fault (α × List Char)

def isBlank (c : Char) : Bool := c == ' ' || c == '\n' || c == '\t' || c == '\r'

def skipBlank (s : List Char) : List Char := s.dropWhile isBlank

def letters {α : Type} (a : α) : List Char → Reader α
  | [], s => .ok (a, s)
  | _ :: _, [] => .error (.before .endInValue [])
  | e :: es, c :: s => if c = e then letters a es s else .error (.upon .expectedIdent (c :: s))

def nullWord : Reader Unit := letters () ['u', 'l', 'l']
def trueWord : Reader Bool := letters true ['r', 'u', 'e']
def falseWord : Reader Bool := letters false ['a', 'l', 's', 'e']

def escaped? : Char → Option Char
  | '"' => some '"'
  | '\\' => some '\\'
  | '/' => some '/'
  | 'b' => some '\x08'
  | 'f' => some '\x0c'
  | 'n' => some '\n'
  | 'r' => some '\r'
  | 't' => some '\t'
  | _ => none

/-- A code unit from the four digits after its mark. Four bytes are taken whatever they are. -/
def codeUnit (s : List Char) : Except Fault (Nat × List Char) :=
  if byteLength s < 4 then .error (.before .endInString [])
  else match s with
    | a :: b :: c :: d :: rest =>
      match hexDigit? a, hexDigit? b, hexDigit? c, hexDigit? d with
      | some a, some b, some c, some d => .ok (((a * 16 + b) * 16 + c) * 16 + d, rest)
      | _, _, _, _ => .error (.within 4 .invalidEscape s)
    | _ => .error (.within 4 .invalidEscape s)

def isLeading (unit : Nat) : Bool := 0xD800 ≤ unit && unit ≤ 0xDBFF
def isTrailing (unit : Nat) : Bool := 0xDC00 ≤ unit && unit ≤ 0xDFFF

def unicodeEscape (s : List Char) : Except Fault (Char × List Char) :=
  match codeUnit s with
  | .error f => .error f
  | .ok (unit, rest) =>
    if isTrailing unit then .error (.before .loneSurrogate rest)
    else if isLeading unit then
      match rest with
      | [] => .error (.before .endInString [])
      | '\\' :: [] => .error (.before .endInString [])
      | '\\' :: 'u' :: rest => match codeUnit rest with
        | .error f => .error f
        | .ok (second, rest) =>
          if isTrailing second then
            .ok (.ofNat ((unit - 0xD800) * 0x400 + (second - 0xDC00) + 0x10000), rest)
          else .error (.before .loneSurrogate rest)
      | '\\' :: rest => .error (.upon .endInEscape rest)
      | rest => .error (.upon .endInEscape rest)
    else .ok (.ofNat unit, rest)

def stringPart : List Char → Except Fault (Option Char × List Char)
  | [] => .error (.before .endInString [])
  | '"' :: rest => .ok (none, rest)
  | '\\' :: [] => .error (.before .endInString [])
  | '\\' :: 'u' :: rest => (unicodeEscape rest).map fun (c, rest) => (some c, rest)
  | '\\' :: c :: rest => match escaped? c with
    | some c => .ok (some c, rest)
    | none => .error (.upon .invalidEscape (c :: rest))
  | c :: rest =>
    if c < ' ' then .error (.upon .controlCharacter (c :: rest)) else .ok (some c, rest)

theorem length_of_codeUnit {s rest : List Char} {n : Nat} (h : codeUnit s = .ok (n, rest)) :
    rest.length < s.length := by
  simp only [codeUnit] at h
  split at h
  · contradiction
  · split at h
    · split at h
      · cases h
        simp only [List.length_cons]
        omega
      · contradiction
    · contradiction

theorem length_of_unicodeEscape {s rest : List Char} {c : Char}
    (h : unicodeEscape s = .ok (c, rest)) : rest.length < s.length := by
  simp only [unicodeEscape] at h
  split at h
  · contradiction
  · rename_i unit first hf
    have shorter := length_of_codeUnit hf
    split at h
    · contradiction
    · split at h
      · split at h
        · contradiction
        · contradiction
        · split at h
          · contradiction
          · rename_i second hs
            have again := length_of_codeUnit hs
            split at h
            · simp only [Except.ok.injEq, Prod.mk.injEq] at h
              obtain ⟨-, rfl⟩ := h
              simp only [List.length_cons] at shorter
              omega
            · contradiction
        · contradiction
        · contradiction
      · simp only [Except.ok.injEq, Prod.mk.injEq] at h
        obtain ⟨-, rfl⟩ := h
        exact shorter

theorem length_of_stringPart {s rest : List Char} {c : Option Char}
    (h : stringPart s = .ok (c, rest)) : rest.length < s.length := by
  unfold stringPart at h
  split at h
  · contradiction
  · cases h
    simp
  · contradiction
  · rename_i tail
    cases hu : unicodeEscape tail with
    | error f => simp [hu, Except.map] at h
    | ok found =>
      obtain ⟨d, left⟩ := found
      have shorter := length_of_unicodeEscape hu
      simp only [hu, Except.map] at h
      cases h
      simp only [List.length_cons]
      omega
  · split at h
    · cases h
      simp only [List.length_cons]
      omega
    · contradiction
  · split at h
    · contradiction
    · cases h
      simp

/-- Reads the rest of a string whose opening mark has been read. -/
def string (s : List Char) : Except Fault (List Char × List Char) :=
  match h : stringPart s with
  | .error f => .error f
  | .ok (none, rest) => .ok ([], rest)
  | .ok (some c, rest) =>
    have := length_of_stringPart h
    (string rest).map fun (text, rest) => (c :: text, rest)
termination_by s.length

end ObjectQuery.Json
