import ObjectQuery.Json.Lexeme
import ObjectQuery.Json.Writer

/-!
Strings as a text of JSON may spell them. A character stands for itself, or behind a backslash as
one of eight marks or by its code units in hexadecimal digits of either case. What is read as a
string are exactly its spellings, and what is written is one of them.
-/
namespace ObjectQuery.Json

def escapeMarks : List (Char × Char) :=
  [('"', '"'), ('\\', '\\'), ('/', '/'), ('b', '\x08'), ('f', '\x0c'), ('n', '\n'), ('r', '\r'),
    ('t', '\t')]

inductive UnitDigits : Nat → List Char → Prop where
  | four {a b c d : Char} {i j k l : Nat} : hexDigit? a = some i → hexDigit? b = some j →
      hexDigit? c = some k → hexDigit? d = some l →
      UnitDigits (((i * 16 + j) * 16 + k) * 16 + l) [a, b, c, d]

/-- A character by its code units: one, or two surrogates of which the second has a mark of its
own. -/
inductive Coded : Char → List Char → Prop where
  | unit {c : Char} {digits : List Char} : UnitDigits c.toNat digits → Coded c digits
  | pair {c : Char} {high low : Nat} {first second : List Char} :
      UnitDigits high first → 0xD800 ≤ high ∧ high ≤ 0xDBFF →
      UnitDigits low second → 0xDC00 ≤ low ∧ low ≤ 0xDFFF →
      c.toNat = 0x10000 + (high - 0xD800) * 0x400 + (low - 0xDC00) →
      Coded c (first ++ '\\' :: 'u' :: second)

inductive Spelling : Char → List Char → Prop where
  | plain {c : Char} : c ≠ '"' → c ≠ '\\' → ' ' ≤ c → Spelling c [c]
  | marked {c mark : Char} : (mark, c) ∈ escapeMarks → Spelling c ['\\', mark]
  | coded {c : Char} {units : List Char} : Coded c units → Spelling c ('\\' :: 'u' :: units)

inductive Spelled : List Char → List Char → Prop where
  | nil : Spelled [] []
  | cons {c : Char} {word text words : List Char} :
      Spelling c word → Spelled text words → Spelled (c :: text) (word ++ words)

def Plain (text : List Char) : Prop := ∀ c ∈ text, c ≠ '"' ∧ c ≠ '\\' ∧ ' ' ≤ c

instance (text : List Char) : Decidable (Plain text) := List.decidableBAll _ text

theorem spelled_plain {text : List Char} (plain : Plain text) : Spelled text text := by
  induction text with
  | nil => exact .nil
  | cons c rest ih =>
    obtain ⟨⟨not_quote, not_backslash, printable⟩, plain⟩ := List.forall_mem_cons.mp plain
    exact .cons (.plain not_quote not_backslash printable) (ih plain)

section Units

variable {s rest digits : List Char} {c : Char} {n : Nat}

/-- The digits of one range of characters, the first of which stands for the base value. -/
theorem digit_lt_of_range {digit first last : Char} {base : Nat}
    (range : first ≤ digit ∧ digit ≤ last) (few : last.toNat + base < first.toNat + 16) :
    digit.toNat - first.toNat + base < 16 := by
  have from_first : first.toNat ≤ digit.toNat := range.1
  have to_last : digit.toNat ≤ last.toNat := range.2
  omega

theorem lt_of_hexDigit? {digit : Char} (h : hexDigit? digit = some n) : n < 16 := by
  unfold hexDigit? at h
  split at h
  · rename_i range
    obtain rfl := Option.some.inj h
    exact @digit_lt_of_range _ _ _ 0 range (by decide)
  · split at h
    · rename_i range
      obtain rfl := Option.some.inj h
      exact digit_lt_of_range range (by decide)
    · split at h
      · rename_i range
        obtain rfl := Option.some.inj h
        exact digit_lt_of_range range (by decide)
      · contradiction

theorem UnitDigits.lt (h : UnitDigits n digits) : n < 0x10000 := by
  obtain ⟨ha, hb, hc, hd⟩ := h
  have := lt_of_hexDigit? ha
  have := lt_of_hexDigit? hb
  have := lt_of_hexDigit? hc
  have := lt_of_hexDigit? hd
  omega

theorem four_le_byteLength (a b c d : Char) (s : List Char) :
    4 ≤ byteLength (a :: b :: c :: d :: s) := by
  have := a.utf8Size_pos
  have := b.utf8Size_pos
  have := c.utf8Size_pos
  have := d.utf8Size_pos
  simp only [byteLength]
  omega

theorem codeUnit_of_digits (h : UnitDigits n digits) (rest : List Char) :
    codeUnit (digits ++ rest) = .ok (n, rest) := by
  obtain ⟨ha, hb, hc, hd⟩ := h
  simp only [List.cons_append, List.nil_append, codeUnit]
  rw [if_neg (Nat.not_lt.mpr (four_le_byteLength ..)), ha, hb, hc, hd]

theorem digits_of_codeUnit (read : codeUnit s = .ok (n, rest)) :
    ∃ digits, UnitDigits n digits ∧ s = digits ++ rest := by
  simp only [codeUnit] at read
  split at read
  · contradiction
  · split at read
    · split at read
      · rename_i i j k l ha hb hc hd
        cases read
        exact ⟨_, .four ha hb hc hd, rfl⟩
      · contradiction
    · contradiction

theorem isTrailing_iff : isTrailing n = true ↔ 0xDC00 ≤ n ∧ n ≤ 0xDFFF := by simp [isTrailing]

theorem isLeading_iff : isLeading n = true ↔ 0xD800 ≤ n ∧ n ≤ 0xDBFF := by simp [isLeading]

theorem toNat_not_surrogate (c : Char) : c.toNat < 0xD800 ∨ 0xDFFF < c.toNat := by
  rcases c.valid with below | ⟨above, -⟩
  · exact Or.inl below
  · exact Or.inr above

theorem toNat_ofNat (valid : n < 0xD800 ∨ 0xDFFF < n ∧ n < 0x110000) :
    (Char.ofNat n).toNat = n := by
  unfold Char.ofNat
  rw [dif_pos valid]
  rfl

theorem coded_of_unicodeEscape (read : unicodeEscape s = .ok (c, rest)) :
    ∃ units, Coded c units ∧ s = units ++ rest := by
  simp only [unicodeEscape] at read
  split at read
  · contradiction
  · rename_i high left first
    obtain ⟨digits, upper, rfl⟩ := digits_of_codeUnit first
    have small := upper.lt
    split at read
    · contradiction
    · rename_i not_trailing
      split at read
      · rename_i leading
        obtain ⟨above, below⟩ := isLeading_iff.mp leading
        split at read
        · contradiction
        · contradiction
        · split at read
          · contradiction
          · rename_i low left second
            obtain ⟨digits', lower, rfl⟩ := digits_of_codeUnit second
            split at read
            · rename_i trailing
              obtain ⟨above', below'⟩ := isTrailing_iff.mp trailing
              simp only [Except.ok.injEq, Prod.mk.injEq] at read
              obtain ⟨rfl, rfl⟩ := read
              refine ⟨_, .pair upper ⟨above, below⟩ lower ⟨above', below'⟩ ?_, by simp⟩
              rw [toNat_ofNat (by omega)]
              omega
            · contradiction
        · contradiction
        · contradiction
      · rename_i not_leading
        simp only [Except.ok.injEq, Prod.mk.injEq] at read
        obtain ⟨rfl, rfl⟩ := read
        rw [isTrailing_iff] at not_trailing
        rw [isLeading_iff] at not_leading
        refine ⟨digits, .unit ?_, rfl⟩
        rw [toNat_ofNat (by omega)]
        exact upper

theorem unicodeEscape_of_coded {units : List Char} (h : Coded c units) (rest : List Char) :
    unicodeEscape (units ++ rest) = .ok (c, rest) := by
  cases h with
  | unit only =>
    -- no character is a surrogate, so nothing else is looked for behind the unit
    have lone := toNat_not_surrogate c
    have not_trailing : ¬ isTrailing c.toNat = true := by
      rw [isTrailing_iff]
      omega
    have not_leading : ¬ isLeading c.toNat = true := by
      rw [isLeading_iff]
      omega
    simp only [unicodeEscape, codeUnit_of_digits only]
    rw [if_neg not_trailing, if_neg not_leading, Char.ofNat_toNat]
  | pair upper leading lower trailing number =>
    rename_i high low first second
    have not_trailing : ¬ isTrailing high = true := by
      rw [isTrailing_iff]
      omega
    have same : (high - 0xD800) * 0x400 + (low - 0xDC00) + 0x10000 = c.toNat := by omega
    simp only [unicodeEscape, List.append_assoc, List.cons_append, codeUnit_of_digits upper,
      codeUnit_of_digits lower]
    rw [if_neg not_trailing, if_pos (isLeading_iff.mpr leading),
      if_pos (isTrailing_iff.mpr trailing), same, Char.ofNat_toNat]

end Units

theorem map_eq_ok_iff {α β : Type} {x : Except Fault α} {f : α → β} {b : β} :
    x.map f = .ok b ↔ ∃ a, x = .ok a ∧ f a = b := by
  cases x <;> simp [Except.map]

section Reading

variable {s rest : List Char} {c : Char}

theorem escaped?_eq_some_iff {mark : Char} : escaped? mark = some c ↔ (mark, c) ∈ escapeMarks := by
  constructor
  · intro known
    unfold escaped? at known
    split at known <;> simp_all [escapeMarks, eq_comm]
  · intro listed
    simp only [escapeMarks, List.mem_cons, Prod.mk.injEq, List.not_mem_nil, or_false] at listed
    rcases listed with h | h | h | h | h | h | h | h <;> obtain ⟨rfl, rfl⟩ := h <;> rfl

theorem stringPart_end_iff : stringPart s = .ok (none, rest) ↔ s = '"' :: rest := by
  constructor
  · intro read
    unfold stringPart at read
    split at read
    · contradiction
    · cases read
      rfl
    · contradiction
    · simp [map_eq_ok_iff] at read
    · split at read <;> simp at read
    · split at read <;> simp at read
  · rintro rfl
    rfl

theorem spelling_of_stringPart (read : stringPart s = .ok (some c, rest)) :
    ∃ word, Spelling c word ∧ s = word ++ rest := by
  unfold stringPart at read
  split at read
  · contradiction
  · simp at read
  · contradiction
  · obtain ⟨_, found, same⟩ := map_eq_ok_iff.mp read
    cases same
    obtain ⟨units, coded, rfl⟩ := coded_of_unicodeEscape found
    exact ⟨_, .coded coded, rfl⟩
  · split at read
    · rename_i known
      cases read
      exact ⟨_, .marked (escaped?_eq_some_iff.mp known), rfl⟩
    · contradiction
  · rename_i d tail not_quote not_lone not_unit not_escape
    split at read
    · contradiction
    · rename_i printable
      cases read
      refine ⟨[c], .plain not_quote ?_ (Char.not_lt.mp printable), rfl⟩
      intro backslash
      cases rest with
      | nil => exact not_lone backslash rfl
      | cons mark more => exact not_escape mark more backslash rfl

theorem stringPart_plain (not_quote : c ≠ '"') (not_escape : c ≠ '\\') (printable : ' ' ≤ c)
    (rest : List Char) : stringPart (c :: rest) = .ok (some c, rest) := by
  unfold stringPart
  split <;> simp_all

theorem stringPart_marked {mark : Char} (listed : (mark, c) ∈ escapeMarks) (rest : List Char) :
    stringPart ('\\' :: mark :: rest) = .ok (some c, rest) := by
  have not_unit : mark ≠ 'u' := by
    rintro rfl
    simp [escapeMarks] at listed
  have known := escaped?_eq_some_iff.mpr listed
  unfold stringPart
  split <;> grind

theorem stringPart_of_spelling {word : List Char} (h : Spelling c word) (rest : List Char) :
    stringPart (word ++ rest) = .ok (some c, rest) := by
  cases h with
  | plain not_quote not_escape printable =>
    exact stringPart_plain not_quote not_escape printable rest
  | marked listed => exact stringPart_marked listed rest
  | coded units =>
    simp only [List.cons_append, stringPart, unicodeEscape_of_coded units]
    rfl

theorem string_of_part (part : stringPart s = .ok (some c, rest)) :
    string s = (string rest).map fun (text, rest) => (c :: text, rest) := by
  rw [string]
  split <;> simp_all

theorem string_of_end (rest : List Char) : string ('"' :: rest) = .ok ([], rest) := by
  have part : stringPart ('"' :: rest) = .ok (none, rest) := rfl
  rw [string]
  split <;> simp_all

theorem string_of_spelled {text words : List Char} (h : Spelled text words) (rest : List Char) :
    string (words ++ '"' :: rest) = .ok (text, rest) := by
  induction h with
  | nil => exact string_of_end rest
  | cons spelling more ih =>
    rw [List.append_assoc, string_of_part (stringPart_of_spelling spelling _), ih]
    rfl

theorem spelled_of_string {text : List Char} (read : string s = .ok (text, rest)) :
    ∃ words, Spelled text words ∧ s = words ++ '"' :: rest := by
  fun_induction string s generalizing text with
  | case1 s fault stuck => contradiction
  | case2 s left ended =>
    cases read
    exact ⟨[], .nil, stringPart_end_iff.mp ended⟩
  | case3 s d left part shorter ih =>
    obtain ⟨word, spelling, rfl⟩ := spelling_of_stringPart part
    obtain ⟨_, more, same⟩ := map_eq_ok_iff.mp read
    cases same
    obtain ⟨words, spelled, rfl⟩ := ih more
    exact ⟨word ++ words, .cons spelling spelled, by simp⟩

end Reading

theorem hexDigit?_digitChar : ∀ n < 16, hexDigit? (Nat.digitChar n) = some n := by decide

theorem spelling_escapedControl {c : Char} (control : c < ' ') : Spelling c (escapedControl c) := by
  have small : c.toNat < 32 := control
  have digits := UnitDigits.four (hexDigit?_digitChar 0 (by omega))
    (hexDigit?_digitChar 0 (by omega)) (hexDigit?_digitChar (c.toNat / 16) (by omega))
    (hexDigit?_digitChar (c.toNat % 16) (by omega))
  have number : ((0 * 16 + 0) * 16 + c.toNat / 16) * 16 + c.toNat % 16 = c.toNat := by omega
  rw [number] at digits
  exact .coded (.unit digits)

theorem spelling_escape (c : Char) : Spelling c (escape c) := by
  unfold escape
  -- first the seven characters that have a mark
  iterate 7
    split
    · subst c
      exact .marked (by decide)
  split
  · rename_i control
    exact spelling_escapedControl control
  · rename_i not_quote not_backslash _ _ _ _ _ not_control
    exact .plain not_quote not_backslash (Char.not_lt.mp not_control)

theorem spelled_escape (text : List Char) : Spelled text (text.flatMap escape) := by
  induction text with
  | nil => exact .nil
  | cons c rest ih => exact .cons (spelling_escape c) ih

end ObjectQuery.Json
