import Mathlib.Data.List.DropRight
import ObjectQuery.Json.Value
import ObjectQuery.Proofs.Spelling

/-!
A text of JSON as its tokens: marks, literals and strings, with any blanks before each of them.
Objects and lists are told by their tokens, and each reader by the tokens it takes off the front
of a text, so that what a reader of a whole value accepts can be said without following it through
the characters.
-/
namespace ObjectQuery.Json

def Blank (s : List Char) : Prop := ∀ c ∈ s, c = ' ' ∨ c = '\n' ∨ c = '\t' ∨ c = '\r'

instance (s : List Char) : Decidable (Blank s) := List.decidableBAll _ s

inductive Token where
  | openObject
  | closeObject
  | openList
  | closeList
  | comma
  | colon
  | boolean (b : Bool)
  | string (text : String)
  deriving DecidableEq, Repr

def Token.Written : Token → List Char → Prop
  | openObject, word => word = ['{']
  | closeObject, word => word = ['}']
  | openList, word => word = ['[']
  | closeList, word => word = [']']
  | comma, word => word = [',']
  | colon, word => word = [':']
  | boolean true, word => word = ['t', 'r', 'u', 'e']
  | boolean false, word => word = ['f', 'a', 'l', 's', 'e']
  | string text, word => ∃ spelled, Spelled text.toList spelled ∧ word = '"' :: (spelled ++ ['"'])

/-- A text begins with these tokens, and this is what follows them. -/
def Begins : List Token → List Char → List Char → Prop
  | [], s, rest => s = rest
  | t :: ts, s, rest => ∃ blanks word more, Blank blanks ∧ t.Written word ∧
      s = blanks ++ (word ++ more) ∧ Begins ts more rest

def Consists (text : String) (tokens : List Token) : Prop :=
  ∃ rest, Begins tokens text.toList rest ∧ Blank rest

/-- The tokens of an object whose values are one token each. -/
def objectOf (members : List (String × Token)) : List Token :=
  .openObject :: ([.comma].intercalate (members.map fun m => [.string m.1, .colon, m.2]) ++
    [.closeObject])

def listOf (items : List Token) : List Token :=
  .openList :: ([.comma].intercalate (items.map fun t => [t]) ++ [.closeList])

section Blanks

variable {s rest blanks word : List Char} {t : Token} {ts us : List Token}

theorem blank_iff : Blank s ↔ ∀ c ∈ s, isBlank c = true := by
  simp [Blank, isBlank, or_assoc]

theorem skipBlank_append (blank : Blank blanks) (s : List Char) :
    skipBlank (blanks ++ s) = skipBlank s :=
  List.dropWhile_append_of_pos (blank_iff.mp blank)

theorem exists_blanks (s : List Char) : ∃ blanks, Blank blanks ∧ s = blanks ++ skipBlank s := by
  refine ⟨s.takeWhile isBlank, ?_, List.takeWhile_append_dropWhile.symm⟩
  rw [blank_iff]
  intro c member
  exact List.mem_takeWhile_imp member

theorem skipBlank_eq_nil_iff : skipBlank s = [] ↔ Blank s := by
  rw [blank_iff]
  exact List.dropWhile_eq_nil_iff

theorem skipBlank_word (written : t.Written word) (s : List Char) :
    skipBlank (word ++ s) = word ++ s := by
  cases t with
  | string text =>
    obtain ⟨spelled, -, rfl⟩ := written
    rfl
  | boolean b =>
    cases b <;> obtain rfl := written <;> rfl
  | _ =>
    obtain rfl := written
    rfl

theorem skipBlank_skipBlank (s : List Char) : skipBlank (skipBlank s) = skipBlank s :=
  List.dropWhile_idempotent ..

theorem begins_cons : Begins (t :: ts) s rest ↔
    ∃ word more, t.Written word ∧ skipBlank s = word ++ more ∧ Begins ts more rest := by
  constructor
  · rintro ⟨blanks, word, more, blank, written, rfl, begun⟩
    refine ⟨word, more, written, ?_, begun⟩
    rw [skipBlank_append blank, skipBlank_word written]
  · rintro ⟨word, more, written, start, begun⟩
    obtain ⟨blanks, blank, split⟩ := exists_blanks s
    rw [start] at split
    exact ⟨blanks, word, more, blank, written, split, begun⟩

theorem begins_append : Begins (ts ++ us) s rest ↔
    ∃ middle, Begins ts s middle ∧ Begins us middle rest := by
  induction ts generalizing s with
  | nil => simp [Begins]
  | cons t ts ih =>
    simp only [List.cons_append, begins_cons, ih]
    grind

theorem begins_first : Begins (t :: ts) s rest ↔
    ∃ middle, Begins [t] s middle ∧ Begins ts middle rest :=
  @begins_append s rest [t] ts

theorem begins_single :
    Begins [t] s rest ↔ ∃ word, t.Written word ∧ skipBlank s = word ++ rest := by
  rw [begins_cons]
  simp [Begins]

theorem begins_skipBlank : Begins (t :: ts) (skipBlank s) rest ↔ Begins (t :: ts) s rest := by
  rw [begins_cons, begins_cons, skipBlank_skipBlank]

end Blanks

section Readers

variable {s rest : List Char}

theorem string_eq_ok_iff {text : List Char} :
    string s = .ok (text, rest) ↔ ∃ words, Spelled text words ∧ s = words ++ '"' :: rest := by
  constructor
  · exact spelled_of_string
  · rintro ⟨words, spelled, rfl⟩
    exact string_of_spelled spelled rest

theorem begins_string {text : String} : Begins [.string text] s rest ↔
    ∃ more, skipBlank s = '"' :: more ∧ string more = .ok (text.toList, rest) := by
  simp only [begins_single, Token.Written, string_eq_ok_iff]
  constructor
  · rintro ⟨_, ⟨spelled, h, rfl⟩, start⟩
    exact ⟨_, start, spelled, h, by simp⟩
  · rintro ⟨_, start, spelled, h, rfl⟩
    exact ⟨_, ⟨spelled, h, rfl⟩, by simpa using start⟩

theorem begins_mark {t : Token} {c : Char} {ts : List Token}
    (mark : ∀ word, t.Written word ↔ word = [c]) : Begins (t :: ts) s rest ↔
      ∃ more, skipBlank s = c :: more ∧ Begins ts more rest := by
  simp [begins_cons, mark]

theorem begins_comma {ts : List Token} : Begins (.comma :: ts) s rest ↔
    ∃ more, skipBlank s = ',' :: more ∧ Begins ts more rest :=
  begins_mark fun _ => Iff.rfl

theorem begins_openObject {ts : List Token} : Begins (.openObject :: ts) s rest ↔
    ∃ more, skipBlank s = '{' :: more ∧ Begins ts more rest :=
  begins_mark fun _ => Iff.rfl

theorem begins_openList {ts : List Token} : Begins (.openList :: ts) s rest ↔
    ∃ more, skipBlank s = '[' :: more ∧ Begins ts more rest :=
  begins_mark fun _ => Iff.rfl

theorem colon_eq_ok_iff : colon s = .ok rest ↔ Begins [.colon] s rest := by
  simp only [begins_single, Token.Written, exists_eq_left, colon]
  split <;> simp_all

theorem letters_eq_ok_iff {α : Type} {a b : α} {word : List Char} :
    letters a word s = .ok (b, rest) ↔ b = a ∧ s = word ++ rest := by
  induction word generalizing s with
  | nil => simp [letters, eq_comm]
  | cons c word ih =>
    cases s with
    | nil => simp [letters]
    | cons d s =>
      unfold letters
      split <;> simp_all

theorem value_eq_ok_iff {α : Type} {expected : String} {a : α}
    {read : List Char → Option (Except Fault (α × List Char))} :
    value expected read s = .ok (a, rest) ↔
      skipBlank s ≠ [] ∧ read (skipBlank s) = some (.ok (a, rest)) := by
  unfold value
  split
  · simp_all
  · rename_i nonempty
    cases read (skipBlank s) with
    | none => simp
    | some found => simp_all

theorem boolean_eq_ok_iff {b : Bool} :
    boolean s = .ok (b, rest) ↔ Begins [.boolean b] s rest := by
  simp only [boolean, value_eq_ok_iff, begins_single]
  generalize skipBlank s = u
  split
  · cases b <;> simp [Token.Written, trueWord, letters_eq_ok_iff]
  · cases b <;> simp [Token.Written, falseWord, letters_eq_ok_iff]
  · rename_i not_true not_false
    cases b <;> simp [Token.Written]
    · exact not_false _
    · exact not_true _

theorem text_eq_ok_iff {expected text : String} :
    Json.text expected s = .ok (text, rest) ↔ Begins [.string text] s rest := by
  simp only [Json.text, value_eq_ok_iff, begins_string]
  constructor
  · rintro ⟨-, read⟩
    split at read
    · rename_i more start
      obtain ⟨_, found, same⟩ := map_eq_ok_iff.mp (Option.some.inj read)
      cases same
      exact ⟨more, start, by simpa using found⟩
    · contradiction
  · rintro ⟨more, start, found⟩
    rw [start]
    refine ⟨by simp, congrArg some (map_eq_ok_iff.mpr ⟨_, found, ?_⟩)⟩
    simp

theorem key_eq_ok_iff {k : String} :
    key s = .ok (.item k rest) ↔ string s = .ok (k.toList, rest) := by
  unfold key
  rw [map_eq_ok_iff]
  constructor
  · rintro ⟨_, found, same⟩
    cases same
    simpa using found
  · intro found
    exact ⟨_, found, by simp⟩

theorem key_ne_done : key s ≠ .ok (.done rest) := by
  simp [key, map_eq_ok_iff]

def separator (first : Bool) : List Token := if first then [] else [.comma]

theorem nextKey_first {k : String} :
    nextKey true s = .ok (.item k rest) ↔ Begins [.string k] s rest := by
  rw [begins_string]
  unfold nextKey
  split <;> simp_all [key_eq_ok_iff]

theorem nextKey_later {k : String} :
    nextKey false s = .ok (.item k rest) ↔ Begins [.comma, .string k] s rest := by
  simp only [begins_comma, begins_string]
  unfold nextKey
  split
  · simp_all
  · simp_all
  · rename_i more start
    simp only [start, Bool.false_eq_true, if_false]
    split <;> simp_all [key_eq_ok_iff]
  · simp_all
  · simp_all

theorem nextKey_item_iff {first : Bool} {k : String} :
    nextKey first s = .ok (.item k rest) ↔ Begins (separator first ++ [.string k]) s rest := by
  cases first
  · exact nextKey_later
  · exact nextKey_first

theorem nextKey_done_iff {first : Bool} :
    nextKey first s = .ok (.done rest) ↔ Begins [.closeObject] s rest := by
  simp only [begins_single, Token.Written, exists_eq_left]
  unfold nextKey
  split
  · simp_all
  · simp_all
  · split
    · simp_all
    · split <;> simp_all [key_ne_done]
  · split <;> simp_all [key_ne_done]
  · simp_all

theorem nextElement_done_iff {first : Bool} :
    nextElement first s = .ok (.done rest) ↔ Begins [.closeList] s rest := by
  simp only [begins_single, Token.Written, exists_eq_left]
  unfold nextElement
  split
  · simp_all
  · simp_all
  · split
    · simp_all
    · split <;> simp_all
  · split <;> simp_all

def Goes (s : List Char) : Prop := skipBlank s ≠ [] ∧ ∀ more, skipBlank s ≠ ']' :: more

theorem goes_of_begins {t : Token} {ts : List Token} (ordinary : t ≠ .closeList)
    (begun : Begins (t :: ts) s rest) : Goes s := by
  obtain ⟨word, more, written, start, -⟩ := begins_cons.mp begun
  unfold Goes
  rw [start]
  cases t with
  | closeList => contradiction
  | string text =>
    obtain ⟨spelled, -, rfl⟩ := written
    simp
  | boolean b => cases b <;> obtain rfl := written <;> simp
  | _ =>
    obtain rfl := written
    simp

theorem nextElement_first {next : List Char} :
    nextElement true s = .ok (.item () next) ↔ Goes s ∧ skipBlank s = next := by
  unfold nextElement Goes
  split <;> simp_all

theorem nextElement_later {next : List Char} : nextElement false s = .ok (.item () next) ↔
    ∃ more, skipBlank s = ',' :: more ∧ Goes more ∧ skipBlank more = next := by
  unfold nextElement Goes
  split
  · simp_all
  · simp_all
  · rename_i more start
    simp only [start, Bool.false_eq_true, if_false]
    split <;> simp_all
  · simp_all

theorem element_iff {first : Bool} {t : Token} {ts : List Token} (ordinary : t ≠ .closeList) :
    (∃ next, nextElement first s = .ok (.item () next) ∧ Begins (t :: ts) next rest) ↔
      Begins (separator first ++ t :: ts) s rest := by
  cases first with
  | true =>
    simp only [nextElement_first]
    constructor
    · rintro ⟨_, ⟨-, rfl⟩, begun⟩
      exact begins_skipBlank.mp begun
    · intro begun
      exact ⟨_, ⟨goes_of_begins ordinary begun, rfl⟩, begins_skipBlank.mpr begun⟩
  | false =>
    simp only [nextElement_later]
    constructor
    · rintro ⟨_, ⟨more, start, -, rfl⟩, begun⟩
      exact begins_comma.mpr ⟨more, start, begins_skipBlank.mp begun⟩
    · intro begun
      obtain ⟨more, start, begun⟩ := begins_comma.mp begun
      exact ⟨_, ⟨more, start, goes_of_begins ordinary begun, rfl⟩, begins_skipBlank.mpr begun⟩

theorem endList_eq_ok_iff : endList s = .ok rest ↔ Begins [.closeList] s rest := by
  simp only [begins_single, Token.Written, exists_eq_left]
  unfold endList
  split
  · simp_all
  · simp_all
  · split <;> simp_all
  · simp_all

theorem decode_eq_ok_iff {α : Type} {read : Reader α} {text : String} {a : α} :
    decode read text = .ok a ↔ ∃ rest, read text.toList = .ok (a, rest) ∧ Blank rest := by
  unfold decode
  split
  · simp_all
  · split <;> simp_all [skipBlank_eq_nil_iff]

end Readers

/-- Parts of which each but the first is behind a comma. -/
def separated (first : Bool) : List (List Token) → List Token
  | [] => []
  | part :: parts => separator first ++ part ++ separated false parts

theorem begins_separated_cons {first : Bool} {part tail : List Token} {parts : List (List Token)}
    {s rest : List Char} : Begins (separated first (part :: parts) ++ tail) s rest ↔
      ∃ middle, Begins (separator first ++ part) s middle ∧
        Begins (separated false parts ++ tail) middle rest := by
  rw [separated, List.append_assoc, begins_append]

theorem separated_true (parts : List (List Token)) :
    separated true parts = [Token.comma].intercalate parts := by
  have later (part : List Token) (parts : List (List Token)) :
      part ++ separated false parts = [Token.comma].intercalate (part :: parts) := by
    induction parts generalizing part with
    | nil => simp [separated]
    | cons next parts ih => simp [separated, separator, ih]
  cases parts with
  | nil => rfl
  | cons part parts => exact later part parts

end ObjectQuery.Json
