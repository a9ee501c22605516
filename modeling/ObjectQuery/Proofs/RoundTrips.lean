import ObjectQuery.Codec.LogConfig
import ObjectQuery.Codec.Property
import ObjectQuery.Proofs.StoreFormat

/-!
What is written as JSON is read back: log and store configurations, ids of properties and value
types. A written object is the text of its tokens with no blanks between them, and whatever has
those tokens reads the same; a written id is its numeral, all of whose digits are taken.
-/
namespace ObjectQuery

namespace Json

section Numerals

variable {digits : List Char} {n : Nat}

theorem le_ofDigitChars (n : Nat) (digits : List Char) : n ≤ Nat.ofDigitChars 10 digits n := by
  rw [Nat.ofDigitChars_eq_ofDigitChars_zero]
  have positive : 1 ≤ 10 ^ digits.length := Nat.one_le_two_pow.trans (Nat.pow_le_pow_left (by omega) _)
  have scaled := Nat.mul_le_mul_right n positive
  omega

theorem appendDigits_of_lt {bound taken : Nat} (numeral : ∀ c ∈ digits, isDigit c = true)
    (small : Nat.ofDigitChars 10 digits n < bound) :
    appendDigits bound n taken digits =
      (Nat.ofDigitChars 10 digits n, taken + digits.length, []) := by
  induction digits generalizing n taken with
  | nil => simp [appendDigits]
  | cons c rest ih =>
    obtain ⟨digit, numeral⟩ := List.forall_mem_cons.mp numeral
    have value : n * 10 + digitValue c = 10 * n + (c.toNat - '0'.toNat) := by
      rw [Nat.mul_comm, digitValue]
    rw [Nat.ofDigitChars_cons, ← value] at small ⊢
    have fits : n * 10 + digitValue c < bound := Nat.lt_of_le_of_lt (le_ofDigitChars _ _) small
    unfold appendDigits
    simp only [digit, fits, decide_true, Bool.and_self, if_true, ih numeral small, List.length_cons]
    grind

theorem toDigits_eq_cons (n : Nat) :
    ∃ c rest, Nat.toDigits 10 n = c :: rest ∧ (n ≠ 0 → c ≠ '0') := by
  induction n using Nat.strongRecOn with
  | ind n ih =>
    by_cases small : n < 10
    · refine ⟨n.digitChar, [], Nat.toDigits_of_lt_base small, ?_⟩
      simp
    · obtain ⟨c, rest, digits, leading⟩ := ih (n / 10) (by omega)
      refine ⟨c, rest ++ [(n % 10).digitChar], ?_, fun _ => leading (by omega)⟩
      rw [Nat.toDigits_of_base_le (by omega) (by omega), digits]
      rfl

theorem isDigit_of_mem_toDigits {c : Char} (listed : c ∈ Nat.toDigits 10 n) :
    isDigit c = true :=
  Nat.isDigit_of_mem_toDigits (by decide) (by decide) listed

theorem not_blank_of_digit {c : Char} (digit : isDigit c = true) : ¬ isBlank c = true := by
  intro blank
  simp only [isBlank, Bool.or_eq_true, beq_iff_eq] at blank
  rcases blank with ((rfl | rfl) | rfl) | rfl <;> exact absurd digit (by decide)

theorem number_toDigits (small : n < significandBound) :
    number false (Nat.toDigits 10 n) = .ok (.unsigned n, []) := by
  by_cases zero : n = 0
  · subst zero
    rfl
  · obtain ⟨c, rest, digits, leading⟩ := toDigits_eq_cons n
    have numeral : ∀ d ∈ c :: rest, isDigit d = true := by
      intro d listed
      rw [← digits] at listed
      exact isDigit_of_mem_toDigits listed
    obtain ⟨digit, numeral⟩ := List.forall_mem_cons.mp numeral
    have value : Nat.ofDigitChars 10 rest (digitValue c) = n := by
      have whole := Nat.ofDigitChars_ten_toDigits (n := n)
      rw [digits, Nat.ofDigitChars_cons] at whole
      simpa [digitValue] using whole
    have taken : appendDigits significandBound (digitValue c) 0 rest = (n, rest.length, []) := by
      rw [appendDigits_of_lt numeral (by rw [value]; exact small), value, Nat.zero_add]
    rw [digits]
    unfold number
    -- a zero in front would be taken alone, but only zero has one
    split
    · contradiction
    · rename_i start
      cases start
      exact absurd rfl (leading zero)
    · rename_i first later not_zero start
      cases start
      simp [digit, taken, startsWithDigit, afterWhole, whole]

end Numerals

def Token.text : Token → String
  | openObject => "\x7b"
  | closeObject => "\x7d"
  | openList => "["
  | closeList => "]"
  | comma => ","
  | colon => ":"
  | boolean b => writeBool b
  | string s => writeString s

def compact (tokens : List Token) : String :=
  String.ofList (tokens.flatMap fun t => t.text.toList)

section Compact

theorem Token.written_text (t : Token) : t.Written t.text.toList := by
  cases t with
  | boolean b => cases b <;> rfl
  | string s => exact ⟨_, spelled_escape s.toList, String.toList_ofList⟩
  | _ => rfl

theorem begins_compact (tokens : List Token) (rest : List Char) :
    Begins tokens ((tokens.flatMap fun t => t.text.toList) ++ rest) rest := by
  induction tokens with
  | nil => rfl
  | cons t tokens ih =>
    refine ⟨[], t.text.toList, _, by decide, t.written_text, ?_, ih⟩
    simp

theorem consists_compact (tokens : List Token) : Consists (compact tokens) tokens := by
  refine ⟨[], ?_, by decide⟩
  rw [compact, String.toList_ofList]
  simpa using begins_compact tokens []

theorem flatMap_intercalate {α β : Type} (f : α → List β) (separator : List α)
    (parts : List (List α)) : (separator.intercalate parts).flatMap f =
      (separator.flatMap f).intercalate (parts.map fun part => part.flatMap f) := by
  induction parts with
  | nil => rfl
  | cons part parts ih =>
    cases parts with
    | nil => simp
    | cons next parts => simp_all

theorem writeObject_eq_compact (members : List (String × Token)) :
    writeObject (members.map fun m => (m.1, m.2.text)) = compact (objectOf members) := by
  apply String.toList_injective
  simp [writeObject, compact, objectOf, flatMap_intercalate, Token.text, Function.comp_def]

end Compact

end Json

namespace PropertyId

theorem toList_toJson (id : PropertyId) : id.toJson.toList = Nat.toDigits 10 id.number.toNat := by
  rw [toJson, text, Nat.toString_eq_repr, Nat.toList_repr]

theorem read_toJson (id : PropertyId) : read id.toJson.toList = .ok (id, []) := by
  have bound := id.number.toNat_lt
  have small : id.number.toNat < Json.significandBound := Nat.lt_trans bound (by decide)
  have numbered := Json.number_toDigits small
  obtain ⟨c, rest, digits, -⟩ := Json.toDigits_eq_cons id.number.toNat
  have digit : Json.isDigit c = true := Json.isDigit_of_mem_toDigits (by rw [digits]; simp)
  have start : Json.skipBlank (c :: rest) = c :: rest :=
    List.dropWhile_cons_of_neg (Json.not_blank_of_digit digit)
  rw [toList_toJson]
  rw [digits] at numbered ⊢
  apply Json.value_eq_ok_iff.mpr
  rw [start]
  refine ⟨by simp, ?_⟩
  split
  · rename_i sign
    cases sign
    exact absurd digit (by decide)
  · simp [Json.startsWithDigit, digit, readNumber, numbered, ofNumber, bound]

end PropertyId

open Json

theorem StoreConfig.toJson_eq_compact (c : StoreConfig) : c.toJson =
    compact (objectOf [("debug", .boolean c.debug), ("metrics", .boolean c.metrics)]) :=
  writeObject_eq_compact [("debug", .boolean c.debug), ("metrics", .boolean c.metrics)]

theorem StoreConfig.ofJson_toJson (c : StoreConfig) : ofJson c.toJson = .ok c := by
  have known : Known [("debug", c.debug), ("metrics", c.metrics)] := by simp [Known]
  rw [toJson_eq_compact]
  exact ofJson_eq_ok_iff.mpr ⟨_, .object known, consists_compact _⟩

namespace LogConfig

theorem toJson_eq_compact (c : LogConfig) :
    c.toJson = compact (objectOf [("log_level", .string c.level)]) :=
  writeObject_eq_compact [("log_level", .string c.level)]

theorem member_field {level : String} {s rest : List Char}
    (begun : Begins [.colon, .string level] s rest) :
    member none field s = .ok (some level, rest) := by
  obtain ⟨afterColon, colon, text⟩ := begins_first.mp begun
  have level : readLevel afterColon = .ok (level, rest) := text_eq_ok_iff.mpr text
  rw [member, if_pos rfl, colon_eq_ok_iff.mpr colon]
  simp only [level]
  rfl

theorem read_of_object {level : String} {s rest : List Char}
    (begun : Begins (objectOf [("log_level", .string level)]) s rest) :
    read s = .ok (⟨level⟩, rest) := by
  obtain ⟨more, start, begun⟩ := begins_openObject.mp begun
  obtain ⟨afterKey, key, begun⟩ := begins_first.mp begun
  obtain ⟨afterMember, member, ended⟩ := @begins_append _ _ [.colon, .string level] _ |>.mp begun
  have keyed : nextKey true more = .ok (.item field afterKey) := nextKey_item_iff.mpr key
  -- the fuel is the length of a text that is not empty, so a step is left for the end
  obtain ⟨steps, length⟩ : ∃ steps, more.length = steps + 1 := by
    cases more with
    | nil => contradiction
    | cons c more => exact ⟨more.length, rfl⟩
  have found : members (more.length + 1) none true more = .ok (⟨level⟩, rest) := by
    rw [members, keyed]
    simp only [member_field member]
    rw [length, members, nextKey_done_iff.mpr ended]
  apply value_eq_ok_iff.mpr
  rw [start]
  exact ⟨by simp, congrArg some found⟩

end LogConfig

namespace ValueType

theorem toJson_eq_compact (t : ValueType) : t.toJson = compact [.string t.name] := by
  simp [compact, Token.text, toJson]

theorem ofName?_name (t : ValueType) : ofName? t.name = some t := by cases t <;> rfl

theorem read_of_string {t : ValueType} {s rest : List Char}
    (begun : Begins [.string t.name] s rest) : read s = .ok (t, rest) := by
  obtain ⟨more, start, found⟩ := begins_string.mp begun
  have name : Json.text "variant identifier" (skipBlank s) = .ok (t.name, rest) :=
    text_eq_ok_iff.mpr (begins_skipBlank.mpr begun)
  rw [start] at name
  simp only [read, start, readName, name, named, ofName?_name]

end ValueType

/-- What is written is read as it was. A text that can be read gives, written again, a text that
reads the same and is written as it is. -/
structure RoundTrips {ε α : Type} (read : String → Except ε α) (write : α → String) : Prop where
  reads_back (a : α) : read (write a) = .ok a
  settles (text again : String) : (read text).map write = .ok again →
    read again = read text ∧ (read again).map write = .ok again

theorem RoundTrips.of_reads_back {ε α : Type} {read : String → Except ε α} {write : α → String}
    (back : ∀ a, read (write a) = .ok a) : RoundTrips read write := by
  refine ⟨back, ?_⟩
  intro text again rewritten
  cases found : read text with
  | error fault => simp [found, Except.map] at rewritten
  | ok a =>
    obtain rfl : write a = again := by simpa [found, Except.map] using rewritten
    rw [back]
    exact ⟨rfl, rfl⟩

theorem decode_of_consists {α : Type} {read : Reader α} {tokens : List Token} {a : α}
    (reads : ∀ {s rest : List Char}, Begins tokens s rest → read s = .ok (a, rest)) :
    decode read (compact tokens) = .ok a := by
  obtain ⟨rest, begun, blank⟩ := consists_compact tokens
  exact decode_eq_ok_iff.mpr ⟨rest, reads begun, blank⟩

theorem LogConfig.decode_toJson (c : LogConfig) : decode read c.toJson = .ok c := by
  rw [toJson_eq_compact]
  exact decode_of_consists read_of_object

theorem PropertyId.decode_toJson (id : PropertyId) : decode read id.toJson = .ok id :=
  decode_eq_ok_iff.mpr ⟨[], read_toJson id, by decide⟩

theorem ValueType.decode_toJson (t : ValueType) : decode read t.toJson = .ok t := by
  rw [toJson_eq_compact]
  exact decode_of_consists read_of_string

/-- Configurations, ids of properties and value types are read back as they were written: the
configurations as objects with their fields and nothing else, an id as a decimal numeral, a type as
its name. -/
theorem written_values_read_back :
    (RoundTrips (decode LogConfig.read) LogConfig.toJson ∧
      ∀ c : LogConfig, c.toJson = compact (objectOf [("log_level", .string c.level)])) ∧
    (RoundTrips StoreConfig.ofJson StoreConfig.toJson ∧
      ∀ c : StoreConfig, c.toJson =
        compact (objectOf [("debug", .boolean c.debug), ("metrics", .boolean c.metrics)])) ∧
    (RoundTrips (decode PropertyId.read) PropertyId.toJson ∧
      ∀ id : PropertyId, id.toJson.toList = Nat.toDigits 10 id.number.toNat) ∧
    RoundTrips (decode ValueType.read) ValueType.toJson ∧
      ∀ t : ValueType, t.toJson = compact [.string t.name] := by
  refine ⟨⟨?log, LogConfig.toJson_eq_compact⟩, ⟨?store, StoreConfig.toJson_eq_compact⟩,
    ⟨?id, PropertyId.toList_toJson⟩, ?type, ValueType.toJson_eq_compact⟩
  case log => exact .of_reads_back LogConfig.decode_toJson
  case store => exact .of_reads_back StoreConfig.ofJson_toJson
  case id => exact .of_reads_back PropertyId.decode_toJson
  case type => exact .of_reads_back ValueType.decode_toJson

/-- Another member before the level, and a level with escapes that are not needed. -/
def wordyText : String :=
  "\x7b \"x\" : [1, \"\\ud800\"], \"log_level\" : \"\\u00e9\\ud83d\\ude00\\u0000\\/\\\"\" \x7d"

theorem wordyText_settles :
    let again := "\x7b\"log_level\":\"é😀\\u0000/\\\"\"\x7d"
    (decode LogConfig.read wordyText).map LogConfig.toJson = .ok again ∧
      decode LogConfig.read again = decode LogConfig.read wordyText ∧
      (decode LogConfig.read again).map LogConfig.toJson = .ok again := by
  intro again
  obtain ⟨⟨trips, -⟩, -⟩ := written_values_read_back
  have rewritten : (decode LogConfig.read wordyText).map LogConfig.toJson = .ok again := by
    decide +kernel
  exact ⟨rewritten, trips.settles wordyText again rewritten⟩

end ObjectQuery
