import Mathlib.Data.List.Nodup
import ObjectQuery.Codec.StoreConfig
import ObjectQuery.Proofs.Tokens

/-!
The format of store configurations. A text gives one exactly if its tokens are an object of flags,
with each key at most once and no key but the two, or a list of at most two flags. What it leaves
out keeps its default, so neither the order of the members nor blanks nor escapes make a
difference. No other text is accepted.
-/
namespace ObjectQuery.StoreConfig

open Json

def Known (members : List (String × Bool)) : Prop :=
  (members.map Prod.fst).Nodup ∧ ∀ m ∈ members, m.1 = "debug" ∨ m.1 = "metrics"

def flagsOf (members : List (String × Bool)) : List (String × Token) :=
  members.map fun m => (m.1, .boolean m.2)

def ofMembers (members : List (String × Bool)) : StoreConfig where
  debug := (members.lookup "debug").getD false
  metrics := (members.lookup "metrics").getD true

def ofFlags (flags : List Bool) : StoreConfig where
  debug := flags[0]?.getD false
  metrics := flags[1]?.getD true

/-- The tokens that make a configuration, which takes from them what they give. -/
inductive Form : List Token → StoreConfig → Prop where
  | object {members : List (String × Bool)} : Known members →
      Form (objectOf (flagsOf members)) (ofMembers members)
  | list {flags : List Bool} : flags.length ≤ 2 →
      Form (listOf (flags.map Token.boolean)) (ofFlags flags)

section Keys

variable {α β : Type} [DecidableEq α] {l l' : List (α × β)} {key : α}

theorem lookup_of_unlisted (unlisted : key ∉ l.map Prod.fst) : l.lookup key = none := by
  rw [List.lookup_eq_none_iff]
  intro m listed
  rw [bne_iff_ne]
  rintro rfl
  exact unlisted (List.mem_map_of_mem listed)

theorem lookup_eq_some_iff_mem (distinct : (l.map Prod.fst).Nodup) {b : β} :
    l.lookup key = some b ↔ (key, b) ∈ l := by
  induction l with
  | nil => simp
  | cons m l ih =>
    obtain ⟨other, c⟩ := m
    obtain ⟨unlisted, distinct⟩ := List.nodup_cons.mp distinct
    rw [List.lookup_cons, List.mem_cons, ← ih distinct]
    by_cases same : key = other
    · subst same
      simp [lookup_of_unlisted unlisted, eq_comm]
    · simp [same, beq_eq_false_iff_ne.mpr same]

theorem lookup_perm (distinct : (l.map Prod.fst).Nodup) (same : l'.Perm l) :
    l'.lookup key = l.lookup key := by
  apply Option.ext
  intro b
  rw [lookup_eq_some_iff_mem ((same.map _).nodup_iff.mpr distinct),
    lookup_eq_some_iff_mem distinct, same.mem_iff]

end Keys

theorem Known.perm {members others : List (String × Bool)} (known : Known members)
    (same : others.Perm members) : Known others :=
  ⟨(same.map _).nodup_iff.mpr known.1, fun m listed => known.2 m (same.mem_iff.mp listed)⟩

theorem ofMembers_perm {members others : List (String × Bool)} (known : Known members)
    (same : others.Perm members) : ofMembers others = ofMembers members := by
  simp only [ofMembers, lookup_perm known.1 same]

namespace Given

def fill (given : Given) (fields : List (Field × Bool)) : Given :=
  fields.foldl (fun g f => g.set f.1 f.2) given

end Given

def Free (given : Given) (fields : List (Field × Bool)) : Prop :=
  (fields.map Prod.fst).Nodup ∧ ∀ f ∈ fields, given.get? f.1 = none

def memberTokens (f : Field × Bool) : List Token := [.string f.1.name, .colon, .boolean f.2]

/-- What is left of the tokens of an object from one of its members on. -/
def restOfObject (first : Bool) (fields : List (Field × Bool)) : List Token :=
  separated first (fields.map memberTokens) ++ [.closeObject]

def restOfList (first : Bool) (flags : List Bool) : List Token :=
  separated first (flags.map fun b => [.boolean b]) ++ [.closeList]

section Fields

variable {given : Given} {first : Bool} {s rest : List Char} {config : StoreConfig}

theorem ofName?_eq_some_iff {key : String} {field : Field} :
    Field.ofName? key = some field ↔ key = field.name := by
  unfold Field.ofName?
  cases field <;> split <;> simp_all [Field.name]

theorem get?_set (given : Given) (field other : Field) (b : Bool) :
    (given.set field b).get? other = if other = field then some b else given.get? other := by
  cases field <;> cases other <;> rfl

theorem free_cons {field : Field} {b : Bool} {fields : List (Field × Bool)} :
    Free given ((field, b) :: fields) ↔
      given.get? field = none ∧ Free (given.set field b) fields := by
  simp only [Free, List.map_cons, List.nodup_cons, List.forall_mem_cons, get?_set,
    List.mem_map, not_exists, not_and]
  grind

theorem begins_member {f : Field × Bool} : Begins (separator first ++ memberTokens f) s rest ↔
    ∃ afterKey afterColon, nextKey first s = .ok (.item f.1.name afterKey) ∧
      colon afterKey = .ok afterColon ∧ boolean afterColon = .ok (f.2, rest) := by
  have value (middle : List Char) : Begins [.colon, .boolean f.2] middle rest ↔
      ∃ afterColon, colon middle = .ok afterColon ∧ boolean afterColon = .ok (f.2, rest) := by
    rw [begins_first]
    simp only [colon_eq_ok_iff, boolean_eq_ok_iff]
  have parts : separator first ++ memberTokens f =
      (separator first ++ [.string f.1.name]) ++ [.colon, .boolean f.2] := by
    simp [memberTokens]
  rw [parts, begins_append]
  simp only [value, nextKey_item_iff, exists_and_left]

theorem begins_object_cons {f : Field × Bool} {fields : List (Field × Bool)} :
    Begins (restOfObject first (f :: fields)) s rest ↔
      ∃ middle, Begins (separator first ++ memberTokens f) s middle ∧
        Begins (restOfObject false fields) middle rest :=
  begins_separated_cons

theorem fields_of_members (read : members given first s = .ok (config, rest)) :
    ∃ fields, Free given fields ∧ Begins (restOfObject first fields) s rest ∧
      config = (given.fill fields).config := by
  -- along the reader: what it has still to read is free next to what it has been given
  fun_induction members given first s with
  | case1 | case3 | case4 | case5 | case6 => contradiction
  | case2 given first s left ended =>
    cases read
    exact ⟨[], by simp [Free], nextKey_done_iff.mp ended, rfl⟩
  | case7 given first s key afterKey keyed field named missing afterColon colon b left flag _ ih =>
    obtain ⟨fields, free, begun, rfl⟩ := ih read
    obtain rfl := ofName?_eq_some_iff.mp named
    refine ⟨(field, b) :: fields, free_cons.mpr ⟨missing, free⟩, ?_, rfl⟩
    exact begins_object_cons.mpr
      ⟨left, begins_member.mpr ⟨afterKey, afterColon, keyed, colon, flag⟩, begun⟩

theorem members_end (ended : nextKey first s = .ok (.done rest)) :
    members given first s = .ok (given.config, rest) := by
  rw [members, ended]

theorem members_step {f : Field × Bool} (missing : given.get? f.1 = none)
    (member : Begins (separator first ++ memberTokens f) s rest) :
    members given first s = members (given.set f.1 f.2) false rest := by
  obtain ⟨afterKey, afterColon, keyed, colon, flag⟩ := begins_member.mp member
  have named := ofName?_eq_some_iff.mpr (rfl : f.1.name = f.1.name)
  rw [members]
  simp only [keyed, named]
  -- the recursion needs the proof that the field was missing, so the look-up cannot be rewritten
  split
  · simp_all
  · simp only [colon, flag]

theorem members_of_fields {fields : List (Field × Bool)} (free : Free given fields)
    (begun : Begins (restOfObject first fields) s rest) :
    members given first s = .ok ((given.fill fields).config, rest) := by
  induction fields generalizing given first s with
  | nil => exact members_end (nextKey_done_iff.mpr begun)
  | cons f fields ih =>
    obtain ⟨missing, free⟩ := free_cons.mp free
    obtain ⟨middle, member, begun⟩ := begins_object_cons.mp begun
    rw [members_step missing member]
    exact ih free begun

theorem begins_element {b : Bool} : Begins (separator first ++ [.boolean b]) s rest ↔
    ∃ next, nextElement first s = .ok (.item () next) ∧ boolean next = .ok (b, rest) := by
  simp only [boolean_eq_ok_iff]
  exact (element_iff (by simp)).symm

theorem begins_list_cons {b : Bool} {flags : List Bool} :
    Begins (restOfList first (b :: flags)) s rest ↔
      ∃ middle, Begins (separator first ++ [.boolean b]) s middle ∧
        Begins (restOfList false flags) middle rest :=
  begins_separated_cons

theorem flags_of_elements {fields : List Field}
    (read : elements given first fields s = .ok (config, rest)) :
    ∃ flags : List Bool, flags.length ≤ fields.length ∧ Begins (restOfList first flags) s rest ∧
      config = (given.fill (fields.zip flags)).config := by
  fun_induction elements given first fields s with
  | case1 given first s =>
    obtain ⟨left, ended, same⟩ := map_eq_ok_iff.mp read
    cases same
    exact ⟨[], by simp, endList_eq_ok_iff.mp ended, rfl⟩
  | case2 | case4 => contradiction
  | case3 given first s field fields left ended =>
    cases read
    exact ⟨[], by simp, nextElement_done_iff.mp ended, rfl⟩
  | case5 given first s field fields _ next found b left flag ih =>
    obtain ⟨flags, few, begun, rfl⟩ := ih read
    refine ⟨b :: flags, by simpa using few, ?_, rfl⟩
    exact begins_list_cons.mpr ⟨left, begins_element.mpr ⟨next, found, flag⟩, begun⟩

theorem elements_of_flags {fields : List Field} {flags : List Bool}
    (few : flags.length ≤ fields.length) (begun : Begins (restOfList first flags) s rest) :
    elements given first fields s = .ok ((given.fill (fields.zip flags)).config, rest) := by
  induction fields generalizing given first s flags with
  | nil =>
    obtain rfl : flags = [] := by simpa using few
    exact map_eq_ok_iff.mpr ⟨rest, endList_eq_ok_iff.mpr begun, rfl⟩
  | cons field fields ih =>
    unfold elements
    cases flags with
    | nil =>
      rw [nextElement_done_iff.mpr begun]
      rfl
    | cons b flags =>
      obtain ⟨middle, element, begun⟩ := begins_list_cons.mp begun
      obtain ⟨next, found, flag⟩ := begins_element.mp element
      simp only [found, flag]
      exact ih (by simpa using few) begun

end Fields

section Configurations

variable {fields : List (Field × Bool)} {members : List (String × Bool)}

theorem get?_fill {given : Given} (free : Free given fields) (field : Field) :
    (given.fill fields).get? field = (fields.lookup field).or (given.get? field) := by
  induction fields generalizing given with
  | nil => rfl
  | cons f fields ih =>
    obtain ⟨other, b⟩ := f
    obtain ⟨unlisted, -⟩ := List.nodup_cons.mp free.1
    change ((given.set other b).fill fields).get? field = _
    rw [ih (free_cons.mp free).2, get?_set, List.lookup_cons]
    by_cases same : field = other
    · simp [same, lookup_of_unlisted unlisted]
    · simp [same, beq_eq_false_iff_ne.mpr same]

def entry (f : Field × Bool) : String × Bool := (f.1.name, f.2)

theorem name_injective {f g : Field} (same : f.name = g.name) : f = g := by
  cases f <;> cases g <;> simp_all [Field.name]

theorem lookup_entries (fields : List (Field × Bool)) (field : Field) :
    (fields.map entry).lookup field.name = fields.lookup field := by
  induction fields with
  | nil => rfl
  | cons f fields ih =>
    obtain ⟨other, b⟩ := f
    have same : (field.name == other.name) = (field == other) := by
      rw [Bool.eq_iff_iff, beq_iff_eq, beq_iff_eq]
      exact ⟨fun h => name_injective h, congrArg Field.name⟩
    simp only [List.map_cons, entry, List.lookup_cons, same, ih]

theorem known_entries : Known (fields.map entry) ↔ (fields.map Prod.fst).Nodup := by
  have keys : (fields.map entry).map Prod.fst = (fields.map Prod.fst).map Field.name := by
    simp [entry]
  have listed : ∀ m ∈ fields.map entry, m.1 = "debug" ∨ m.1 = "metrics" := by
    intro m member
    obtain ⟨⟨field, b⟩, -, rfl⟩ := List.mem_map.mp member
    cases field <;> simp [entry, Field.name]
  rw [Known, keys, List.nodup_map_iff fun _ _ => name_injective]
  exact and_iff_left listed

theorem exists_fields (listed : ∀ m ∈ members, m.1 = "debug" ∨ m.1 = "metrics") :
    ∃ fields, List.map entry fields = members := by
  induction members with
  | nil => exact ⟨[], rfl⟩
  | cons m members ih =>
    obtain ⟨key, b⟩ := m
    obtain ⟨named, listed⟩ := List.forall_mem_cons.mp listed
    obtain ⟨fields, rfl⟩ := ih listed
    rcases named with rfl | rfl
    · exact ⟨(.debug, b) :: fields, rfl⟩
    · exact ⟨(.metrics, b) :: fields, rfl⟩

theorem free_of_distinct (distinct : (fields.map Prod.fst).Nodup) : Free {} fields := by
  refine ⟨distinct, ?_⟩
  rintro ⟨field, b⟩ -
  cases field <;> rfl

theorem config_of_entries (distinct : (fields.map Prod.fst).Nodup) :
    (Given.fill {} fields).config = ofMembers (fields.map entry) := by
  have free := free_of_distinct distinct
  have filled (field : Field) :
      (Given.fill {} fields).get? field = (fields.map entry).lookup field.name := by
    rw [get?_fill free, lookup_entries]
    cases field <;> exact Option.or_none
  have debug := filled .debug
  have metrics := filled .metrics
  simp only [Given.get?, Field.name] at debug metrics
  simp only [ofMembers, Given.config, debug, metrics]

theorem config_of_flags {flags : List Bool} (few : flags.length ≤ 2) :
    (Given.fill {} (List.zip [.debug, .metrics] flags)).config = ofFlags flags := by
  match flags with
  | [] => rfl
  | [debug] => rfl
  | [debug, metrics] => rfl

end Configurations

theorem read_eq_ok_iff {s rest : List Char} {config : StoreConfig} :
    read s = .ok (config, rest) ↔
      (∃ more, skipBlank s = '{' :: more ∧ members {} true more = .ok (config, rest)) ∨
      ∃ more, skipBlank s = '[' :: more ∧
        elements {} true [.debug, .metrics] more = .ok (config, rest) := by
  simp only [read, value_eq_ok_iff]
  generalize skipBlank s = u
  split <;> simp_all

theorem objectOf_entries (fields : List (Field × Bool)) : objectOf (flagsOf (fields.map entry)) =
    .openObject :: restOfObject true fields := by
  rw [restOfObject, separated_true, objectOf, flagsOf, List.map_map, List.map_map]
  rfl

theorem listOf_flags (flags : List Bool) :
    listOf (flags.map Token.boolean) = .openList :: restOfList true flags := by
  rw [restOfList, separated_true]
  simp [listOf, Function.comp_def]

theorem form_of_read {s rest : List Char} {config : StoreConfig}
    (accepted : read s = .ok (config, rest)) :
    ∃ tokens, Form tokens config ∧ Begins tokens s rest := by
  rcases read_eq_ok_iff.mp accepted with ⟨more, start, found⟩ | ⟨more, start, found⟩
  · obtain ⟨fields, free, begun, rfl⟩ := fields_of_members found
    refine ⟨_, ?_, begins_openObject.mpr ⟨more, start, begun⟩⟩
    rw [config_of_entries free.1, ← objectOf_entries]
    exact .object (known_entries.mpr free.1)
  · obtain ⟨flags, few, begun, rfl⟩ := flags_of_elements found
    refine ⟨_, ?_, begins_openList.mpr ⟨more, start, begun⟩⟩
    rw [config_of_flags few, ← listOf_flags]
    exact .list few

theorem read_of_form {s rest : List Char} {config : StoreConfig} {tokens : List Token}
    (form : Form tokens config) (begun : Begins tokens s rest) :
    read s = .ok (config, rest) := by
  apply read_eq_ok_iff.mpr
  cases form with
  | object known =>
    obtain ⟨fields, rfl⟩ := exists_fields known.2
    have distinct := known_entries.mp known
    rw [objectOf_entries] at begun
    obtain ⟨more, start, begun⟩ := begins_openObject.mp begun
    refine Or.inl ⟨more, start, ?_⟩
    rw [← config_of_entries distinct]
    exact members_of_fields (free_of_distinct distinct) begun
  | list few =>
    rw [listOf_flags] at begun
    obtain ⟨more, start, begun⟩ := begins_openList.mp begun
    refine Or.inr ⟨more, start, ?_⟩
    rw [← config_of_flags few]
    exact elements_of_flags few begun

theorem ofJson_eq_ok_iff {text : String} {config : StoreConfig} :
    ofJson text = .ok config ↔ ∃ tokens, Form tokens config ∧ Consists text tokens := by
  have decoded : ofJson text = .ok config ↔ decode read text = .ok config := by
    unfold ofJson
    split <;> simp_all
  rw [decoded, decode_eq_ok_iff]
  constructor
  · rintro ⟨rest, accepted, blank⟩
    obtain ⟨tokens, form, begun⟩ := form_of_read accepted
    exact ⟨tokens, form, rest, begun, blank⟩
  · rintro ⟨tokens, form, rest, begun, blank⟩
    exact ⟨rest, read_of_form form begun, blank⟩

theorem ofJson_refused {text : String} (refused : ∀ config, ofJson text ≠ .ok config) :
    ∃ message, ofJson text = .error ⟨.unsupported, .config, message⟩ := by
  unfold ofJson at refused ⊢
  split
  · rename_i config decoded
    exact absurd (by rw [decoded]) (refused config)
  · exact ⟨_, rfl⟩

/-- A text is accepted exactly if it has the form of an object of known flags or of a list of at
most two. What it gives is then taken over, whatever the order of the members, and the rest is as
it is by default. Any other text is refused as a configuration that is not supported. -/
theorem ofJson_accepts_its_format (text : String) :
    (∀ config, ofJson text = .ok config ↔
      ∃ tokens, Form tokens config ∧ Consists text tokens) ∧
    (∀ members others, Known members → others.Perm members →
      Consists text (objectOf (flagsOf others)) → ofJson text = .ok (ofMembers members)) ∧
    ((¬ ∃ config tokens, Form tokens config ∧ Consists text tokens) →
      ∃ message, ofJson text = .error ⟨.unsupported, .config, message⟩) := by
  refine ⟨fun _ => ofJson_eq_ok_iff, ?reordered, ?refused⟩
  case reordered =>
    intro members others known same consists
    rw [← ofMembers_perm known same]
    exact ofJson_eq_ok_iff.mpr ⟨_, .object (known.perm same), consists⟩
  case refused =>
    intro formless
    apply ofJson_refused
    intro config accepted
    exact formless ⟨config, ofJson_eq_ok_iff.mp accepted⟩

/-- The second field before the first, an escape in its key and blanks of every kind. -/
def reorderedText : String :=
  " \x7b\n\"\\u006detrics\"\t:false , \"debug\" :true\x7d\r\n"

theorem reorderedText_consists :
    Consists reorderedText (objectOf (flagsOf [("metrics", false), ("debug", true)])) := by
  have digits : UnitDigits 'm'.toNat ['0', '0', '6', 'd'] :=
    @UnitDigits.four '0' '0' '6' 'd' 0 0 6 13 rfl rfl rfl rfl
  have tail : Spelled "etrics".toList "etrics".toList := spelled_plain (by decide)
  have metrics : Spelled "metrics".toList "\\u006detrics".toList :=
    Spelled.cons (.coded (.unit digits)) tail
  have debug : Spelled "debug".toList "debug".toList := spelled_plain (by decide)
  refine ⟨['\r', '\n'], ?_, by decide⟩
  refine ⟨[' '], ['{'], _, by decide, rfl, rfl, ?_⟩
  refine ⟨['\n'], _, _, by decide, ⟨_, metrics, rfl⟩, rfl, ?_⟩
  refine ⟨['\t'], [':'], _, by decide, rfl, rfl, ?_⟩
  refine ⟨[], "false".toList, _, by decide, rfl, rfl, ?_⟩
  refine ⟨[' '], [','], _, by decide, rfl, rfl, ?_⟩
  refine ⟨[' '], _, _, by decide, ⟨_, debug, rfl⟩, rfl, ?_⟩
  refine ⟨[' '], [':'], _, by decide, rfl, rfl, ?_⟩
  refine ⟨[], "true".toList, _, by decide, rfl, rfl, ?_⟩
  exact ⟨[], ['}'], _, by decide, rfl, rfl, rfl⟩

theorem reorderedText_accepted :
    Known [("debug", true), ("metrics", false)] ∧
    [("metrics", false), ("debug", true)].Perm [("debug", true), ("metrics", false)] ∧
    Consists reorderedText (objectOf (flagsOf [("metrics", false), ("debug", true)])) ∧
    ofJson reorderedText = .ok ⟨true, false⟩ ∧
    (¬ ∃ config tokens, Form tokens config ∧ Consists "[true,]" tokens) ∧
    ∃ message, ofJson "[true,]" = .error ⟨.unsupported, .config, message⟩ := by
  have known : Known [("debug", true), ("metrics", false)] := by
    unfold Known
    decide
  have same : [("metrics", false), ("debug", true)].Perm [("debug", true), ("metrics", false)] :=
    .swap ..
  obtain ⟨-, reordered, -⟩ := ofJson_accepts_its_format reorderedText
  obtain ⟨accepts, -, refuses⟩ := ofJson_accepts_its_format "[true,]"
  have formless : ¬ ∃ config tokens, Form tokens config ∧ Consists "[true,]" tokens := by
    rintro ⟨config, formed⟩
    have accepted := (accepts config).mpr formed
    have failed : decode read "[true,]" = .error ⟨.trailingComma, 0⟩ := rfl
    unfold ofJson at accepted
    rw [failed] at accepted
    contradiction
  exact ⟨known, same, reorderedText_consists,
    reordered _ _ known same reorderedText_consists, formless, refuses formless⟩

end ObjectQuery.StoreConfig
