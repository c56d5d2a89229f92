import StorageLayout.Proofs.Json.Records

/-!
# Values that are read alike

Two texts may differ where a decoder does not look, or where it looks only to check. A decoder
carries a likeness of what it reads to a likeness of what it makes of it: where the first value can
be read, the second can be read too, and the results are related. Lists and dictionaries keep the
order of their elements; a record only depends on its fields.
-/
namespace StorageLayout.Json

variable {α β : Type}

/-- What a decoder makes of values that are alike: where it reads the first it reads the second,
with related results. All that it reads is like itself. -/
structure Decoder.Carries (decode : Decoder α) (Alike : Excerpt → Excerpt → Prop)
    (Related : α → α → Prop) : Prop where
  self : ∀ {e a}, e.IsWhole → decode e = .ok a → Alike e e
  carry : ∀ {e e' a}, e.IsWhole → e'.IsWhole → Alike e e' → decode e = .ok a →
    ∃ a', decode e' = .ok a' ∧ Related a a'

/-- Both values are `null`, or none is and they are alike. -/
inductive NullableAlike (Alike : Excerpt → Excerpt → Prop) : Excerpt → Excerpt → Prop
  | null : NullableAlike Alike .null .null
  | value {e e' : Excerpt} (some_value : e ≠ .null) (some_value' : e' ≠ .null)
      (alike : Alike e e') : NullableAlike Alike e e'

/-- Both values are lists, with items that are alike one by one. -/
inductive ListAlike (Alike : Excerpt → Excerpt → Prop) : Excerpt → Excerpt → Prop
  | list {items items' : List Excerpt} (alike : List.Forall₂ Alike items items') :
      ListAlike Alike (.list items none) (.list items' none)

/-- The same keys in the same order, with values that are related one by one. -/
def EntriesRelated {κ : Type} (Related : α → α → Prop) (entries entries' : List (κ × α)) : Prop :=
  List.Forall₂ (fun m m' => m.1 = m'.1 ∧ Related m.2 m'.2) entries entries'

/-- Both values are objects with the same names in the same order, and with values that are alike
one by one. -/
inductive DictionaryAlike (Alike : Excerpt → Excerpt → Prop) : Excerpt → Excerpt → Prop
  | object {members members' : List (Literal × Excerpt)}
      (alike : EntriesRelated Alike members members') :
      DictionaryAlike Alike (.object members none) (.object members' none)

/-- What the texts may give for one field of a record. -/
abbrev FieldLikeness := Option Excerpt → Option Excerpt → Prop

/-- The field is absent in both texts, or its values are alike. -/
abbrev Kept (Alike : Excerpt → Excerpt → Prop) : FieldLikeness := Option.Rel Alike

/-- In each text on its own, the field is absent, `null` or something that is allowed. -/
def Optionally (Allowed : Excerpt → Prop) : FieldLikeness := fun given given' =>
  (∀ e ∈ given, e = .null ∨ Allowed e) ∧ ∀ e ∈ given', e = .null ∨ Allowed e

/-- A natural number of 64 bits, spelled without sign, fraction and exponent. -/
def IsWord64 (e : Excerpt) : Prop :=
  ∃ digits, e = .number ⟨false, digits, none, none⟩ ∧ Numeral.ofDigits digits < UInt64.size

def IsText (e : Excerpt) : Prop := ∃ content : String, e = .text (some content)

/-- The fields of a record in their order, with what the texts may give for each. -/
abbrev Shape := List (String × FieldLikeness)

/-- Both values are records of a shape. In an object the members that are fields may stand anywhere
among others that are not; in a list the fields stand in their order. -/
inductive RecordAlike (shape : Shape) : Excerpt → Excerpt → Prop
  | objects {members members' : List (Literal × Excerpt)}
      (legible : Legible (shape.map Prod.fst) members)
      (legible' : Legible (shape.map Prod.fst) members')
      (alike : ∀ entry ∈ shape, entry.2 (valueOf members entry.1) (valueOf members' entry.1)) :
      RecordAlike shape (.object members none) (.object members' none)
  | lists {items items' : List Excerpt} (fits' : items'.length ≤ shape.length)
      (alike : ∀ (position : Nat) entry, shape[position]? = some entry →
        entry.2 items[position]? items'[position]?) :
      RecordAlike shape (.list items none) (.list items' none)

namespace RecordAlike

variable {shape : Shape} {e : Excerpt} {members members' : List (Literal × Excerpt)}

/-- The members of a record may be reordered. -/
theorem reordered (alike : RecordAlike shape e (.object members none))
    (reordered : members.Perm members') : RecordAlike shape e (.object members' none) := by
  cases alike with
  | objects legible legible' alike =>
    refine .objects legible (legible'.perm reordered) fun entry listed => ?_
    rw [← legible'.valueOf_perm reordered (List.mem_map_of_mem listed)]
    exact alike entry listed

/-- A member that is no field may be added to a record. -/
theorem extended (alike : RecordAlike shape e (.object members none)) {name : String}
    (other : name ∉ shape.map Prod.fst) (value : Excerpt) :
    RecordAlike shape e (.object ((some name, value) :: members) none) := by
  cases alike with
  | objects legible legible' alike =>
    refine .objects legible (legible'.cons_other other value) fun entry listed => ?_
    have unnamed : some name ≠ some entry.1 := by
      rintro ⟨⟩
      exact other (List.mem_map_of_mem listed)
    rw [valueOf_cons, if_neg unnamed]
    exact alike entry listed

end RecordAlike

/-- A natural number of 64 bits is spelled by digits alone. -/
theorem Numeral.number_eq_natural_iff {numeral : Numeral} {n : Nat} :
    numeral.number = .natural n ↔ ∃ digits, numeral = ⟨false, digits, none, none⟩ ∧
      ofDigits digits = n ∧ n < wordLimit := by
  obtain ⟨negative, digits, fraction, exponent⟩ := numeral
  constructor
  · intro value
    unfold number at value
    dsimp only at value
    split at value
    · next natural =>
      obtain rfl := Number.natural.inj value
      simp only [isWhole, Bool.and_eq_true, Option.isNone_iff_eq_none, Bool.not_eq_true',
        decide_eq_true_eq] at natural
      obtain ⟨⟨⟨rfl, rfl⟩, rfl⟩, small⟩ := natural
      exact ⟨digits, rfl, rfl, small⟩
    · split at value
      · cases value
      · split at value <;> cases value
  · rintro ⟨_, ⟨⟩, rfl, small⟩
    simp [number, isWhole, small]

section Entries

variable {κ : Type} [DecidableEq κ] {Related : α → α → Prop}

/-- Related entries stay related when related values are put under one key. -/
theorem EntriesRelated.insertEntry {entries entries' : List (κ × α)} {value value' : α}
    (related : EntriesRelated Related entries entries') (key : κ)
    (same : Related value value') :
    EntriesRelated Related (Dictionary.insertEntry key value entries)
      (Dictionary.insertEntry key value' entries') := by
  induction related with
  | nil => exact .cons ⟨rfl, same⟩ .nil
  | @cons m m' rest rest' first others ih =>
    obtain ⟨k, v⟩ := m
    obtain ⟨k', v'⟩ := m'
    obtain ⟨rfl : k = k', first⟩ := first
    simp only [Dictionary.insertEntry]
    split
    · exact .cons ⟨rfl, same⟩ others
    · exact .cons ⟨rfl, first⟩ ih

/-- Dictionaries of related entries have related entries. -/
theorem EntriesRelated.ofList {entries entries' : List (κ × α)}
    (related : EntriesRelated Related entries entries') :
    EntriesRelated Related (Dictionary.ofList entries).entries
      (Dictionary.ofList entries').entries := by
  have filled : ∀ {d d' : Dictionary α κ}, EntriesRelated Related d.entries d'.entries →
      EntriesRelated Related (entries.foldl (fun d entry => d.insert entry.1 entry.2) d).entries
        (entries'.foldl (fun d entry => d.insert entry.1 entry.2) d').entries := by
    induction related with
    | nil => exact fun start => start
    | @cons m m' rest rest' first _ ih =>
      intro d d' start
      obtain ⟨k, v⟩ := m
      obtain ⟨k', v'⟩ := m'
      obtain ⟨rfl : k = k', first⟩ := first
      exact ih (start.insertEntry k first)
  exact filled .nil

end Entries

namespace Decoder

theorem optional_of_ne_null (decode : Decoder α) {e : Excerpt} (some_value : e ≠ .null) :
    optional decode e = (decode e).map some := by
  cases e <;> first | rfl | exact absurd rfl some_value

theorem exists_optional_iff (decode : Decoder α) (e : Excerpt) :
    (∃ x, optional decode e = .ok x) ↔ e = .null ∨ ∃ x, decode e = .ok x := by
  by_cases null : e = .null
  · subst null
    exact iff_of_true ⟨none, rfl⟩ (Or.inl rfl)
  · rw [optional_of_ne_null decode null]
    cases decode e <;> simp [null, Except.map]

theorem list_whole (decode : Decoder α) (items : List Excerpt) :
    list decode (.list items none) = items.mapM decode := by
  simp only [list, close, bind, Except.bind]
  cases items.mapM decode <;> rfl

theorem exists_items_of_list {decode : Decoder α} {e : Excerpt} {as : List α} (whole : e.IsWhole)
    (read : list decode e = .ok as) : ∃ items, e = .list items none := by
  cases whole with
  | null | boolean | number | text | object => exact absurd read (Excerpt.unfit_ne_ok _ _ _)
  | list => exact ⟨_, rfl⟩

def member (decode : Decoder α) (m : Literal × Excerpt) : Except Problem (String × α) :=
  match m.1 with
  | none => .error .malformed
  | some name => (decode m.2).map fun value => (name, value)

theorem member_eq_ok_iff {decode : Decoder α} {m : Literal × Excerpt} {entry : String × α} :
    member decode m = .ok entry ↔ m.1 = some entry.1 ∧ decode m.2 = .ok entry.2 := by
  obtain ⟨_ | name, e⟩ := m
  · simp [member]
  · simp only [member, map_eq_ok_iff, Option.some.injEq, Prod.ext_iff]
    constructor
    · rintro ⟨a, read, rfl, rfl⟩
      exact ⟨rfl, read⟩
    · rintro ⟨rfl, read⟩
      exact ⟨_, read, rfl, rfl⟩

theorem members_whole (decode : Decoder α) (members : List (Literal × Excerpt)) :
    Decoder.members decode (.object members none) = members.mapM (member decode) := by
  change (members.mapM (member decode) >>= fun values => close none >>= fun _ => pure values) = _
  cases members.mapM (member decode) <;> rfl

theorem exists_members_of_members {decode : Decoder α} {e : Excerpt}
    {entries : List (String × α)} (whole : e.IsWhole)
    (read : Decoder.members decode e = .ok entries) : ∃ members, e = .object members none := by
  cases whole with
  | null | boolean | number | text | list => exact absurd read (Excerpt.unfit_ne_ok _ _ _)
  | object => exact ⟨_, rfl⟩

/-- The values that are read as numbers of 64 bits are those spelled so. -/
theorem isWord64_iff (e : Excerpt) : IsWord64 e ↔ ∃ n, word64 e = .ok n := by
  constructor
  · rintro ⟨digits, rfl, small⟩
    have value := Numeral.number_eq_natural_iff.2 ⟨digits, rfl, rfl, small⟩
    exact ⟨_, by simp only [word64, below, value, small, if_true]; rfl⟩
  · rintro ⟨n, read⟩
    obtain ⟨m, read_below, -⟩ := map_eq_ok_iff.1 read
    unfold below at read_below
    split at read_below
    · next numeral =>
      split at read_below
      · next k value =>
        obtain ⟨digits, rfl, rfl, small⟩ := Numeral.number_eq_natural_iff.1 value
        exact ⟨digits, rfl, small⟩
      · cases read_below
      · exact absurd read_below (Excerpt.unfit_ne_ok _ _ _)
    · exact absurd read_below (Excerpt.unfit_ne_ok _ _ _)

theorem isText_iff (e : Excerpt) : IsText e ↔ ∃ content, text e = .ok content := by
  constructor
  · rintro ⟨content, rfl⟩
    exact ⟨content, rfl⟩
  · rintro ⟨content, read⟩
    unfold text at read
    split at read
    · next content' => exact ⟨content', rfl⟩
    · exact absurd read (Excerpt.unfit_ne_ok _ _ _)

namespace Carries

variable {decode : Decoder α} {Alike : Excerpt → Excerpt → Prop} {Related : α → α → Prop}

theorem same (decode : Decoder α) : decode.Carries Eq Eq where
  self _ _ := rfl
  carry := by
    rintro e _ a - - rfl read
    exact ⟨a, read, rfl⟩

theorem imp (carries : decode.Carries Alike Related) {Related' : α → α → Prop}
    (weaker : ∀ {a a'}, Related a a' → Related' a a') : decode.Carries Alike Related' where
  self := carries.self
  carry whole whole' alike read := by
    obtain ⟨a', read', related⟩ := carries.carry whole whole' alike read
    exact ⟨a', read', weaker related⟩

/-- Where a value may be `null`, likeness of the values is likeness of what is read. -/
theorem optional (carries : decode.Carries Alike Related) :
    (Decoder.optional decode).Carries (NullableAlike Alike) (Option.Rel Related) where
  self := by
    intro e a whole read
    by_cases null : e = .null
    · subst null
      exact .null
    · rw [optional_of_ne_null decode null] at read
      obtain ⟨b, read, -⟩ := map_eq_ok_iff.1 read
      exact .value null null (carries.self whole read)
  carry := by
    rintro e e' a whole whole' (_ | ⟨some_value, some_value', alike⟩) read
    · obtain rfl := Except.ok.inj read
      exact ⟨none, rfl, .none⟩
    · rw [optional_of_ne_null decode some_value] at read
      obtain ⟨b, read_value, rfl⟩ := map_eq_ok_iff.1 read
      obtain ⟨b', read', related⟩ := carries.carry whole whole' alike read_value
      exact ⟨some b', by rw [optional_of_ne_null decode some_value', read']; rfl, .some related⟩

theorem list (carries : decode.Carries Alike Related) :
    (Decoder.list decode).Carries (ListAlike Alike) (List.Forall₂ Related) where
  self := by
    intro e as whole read
    obtain ⟨items, rfl⟩ := exists_items_of_list whole read
    rw [list_whole, mapM_eq_ok_iff] at read
    refine .list (List.forall₂_same.2 fun e listed => ?_)
    obtain ⟨a, -, read⟩ := exists_of_forall₂ read listed
    exact carries.self (whole.items e listed) read
  carry := by
    rintro _ _ as whole whole' ⟨alike⟩ read
    rw [list_whole] at read ⊢
    exact exists_mapM_of_forall₂ carries.carry whole.items whole'.items alike read

/-- The members of a dictionary are alike one by one, with the same names. -/
theorem members (carries : decode.Carries Alike Related) :
    (Decoder.members decode).Carries (DictionaryAlike Alike) (EntriesRelated Related) where
  self := by
    intro e entries whole read
    obtain ⟨members, rfl⟩ := exists_members_of_members whole read
    rw [members_whole, mapM_eq_ok_iff] at read
    refine .object (List.forall₂_same.2 fun m listed => ⟨rfl, ?_⟩)
    obtain ⟨entry, -, read⟩ := exists_of_forall₂ read listed
    exact carries.self (whole.members m listed) (member_eq_ok_iff.1 read).2
  carry := by
    rintro _ _ entries whole whole' ⟨alike⟩ read
    rw [members_whole] at read ⊢
    refine exists_mapM_of_forall₂ ?_ whole.members whole'.members alike read
    rintro m m' ⟨name, a⟩ fine fine' ⟨named, alike⟩ gives
    obtain ⟨key, read⟩ := member_eq_ok_iff.1 gives
    obtain ⟨a', read', related⟩ := carries.carry fine fine' alike read
    exact ⟨(name, a'), member_eq_ok_iff.2 ⟨named ▸ key, read'⟩, rfl, related⟩

theorem dictionary (carries : decode.Carries Alike Related) :
    (Decoder.dictionary decode).Carries (DictionaryAlike Alike) fun d d' =>
      EntriesRelated Related d.entries d'.entries where
  self := by
    intro e d whole read
    obtain ⟨entries, read_members, -⟩ := map_eq_ok_iff.1 read
    exact carries.members.self whole read_members
  carry := by
    intro e e' d whole whole' alike read
    obtain ⟨entries, read_members, rfl⟩ := map_eq_ok_iff.1 read
    obtain ⟨entries', read', related⟩ := carries.members.carry whole whole' alike read_members
    exact ⟨_, map_eq_ok_iff.2 ⟨entries', read', rfl⟩, related.ofList⟩

section Same

variable (carries : decode.Carries Alike Eq)
include carries

theorem optional_eq : (Decoder.optional decode).Carries (NullableAlike Alike) Eq :=
  carries.optional.imp fun
    | .some same => congrArg some same
    | .none => rfl

theorem list_eq : (Decoder.list decode).Carries (ListAlike Alike) Eq :=
  carries.list.imp (congrFun₂ List.forall₂_eq_eq_eq _ _).mp

theorem dictionary_eq : (Decoder.dictionary decode).Carries (DictionaryAlike Alike) Eq :=
  carries.dictionary.imp fun same => Dictionary.eq_of_entries_eq <|
    (congrFun₂ List.forall₂_eq_eq_eq _ _).mp (same.imp fun _ _ same => Prod.ext same.1 same.2)

end Same

end Carries

end Decoder

namespace Field

variable {field : Field α} {Related : α → α → Prop}

/-- What a field makes of values that are alike, entered into records that are related. -/
structure Carries (field : Field α) (likeness : FieldLikeness) (Related : α → α → Prop) :
    Prop where
  self : ∀ {given a b}, (∀ e ∈ given, e.IsWhole) → field.give given a = .ok b →
    likeness given given
  present : ∀ {given given'}, field.isOptional = false → likeness given given' → given ≠ none →
    given' ≠ none
  carry : ∀ {given given' a a' b}, (∀ e ∈ given, e.IsWhole) → (∀ e ∈ given', e.IsWhole) →
    likeness given given' → Related a a' → field.give given a = .ok b →
      ∃ b', field.give given' a' = .ok b' ∧ Related b b'

/-- A field whose value shows in the record has to be alike. -/
theorem Carries.kept {decode : Decoder β} {set : β → α → α} {Alike : Excerpt → Excerpt → Prop}
    {Same : β → β → Prop} (carries : decode.Carries Alike Same) (sets : field.Sets decode set)
    (enters : ∀ {x x' a a'}, Same x x' → Related a a' → Related (set x a) (set x' a')) :
    field.Carries (Kept Alike) Related where
  self := by
    intro given a b whole read
    cases given with
    | none => exact .none
    | some e =>
      rw [give, sets] at read
      obtain ⟨x, decoded, -⟩ := map_eq_ok_iff.1 read
      exact .some (carries.self (whole e rfl) decoded)
  present := by
    rintro _ _ - (- | -) given
    · rintro ⟨⟩
    · exact given
  carry := by
    rintro _ _ a a' b whole whole' (alike | -) related read
    · rw [give, sets] at read
      obtain ⟨x, decoded, rfl⟩ := map_eq_ok_iff.1 read
      obtain ⟨x', decoded', same⟩ := carries.carry (whole _ rfl) (whole' _ rfl) alike decoded
      exact ⟨set x' a', (sets _ a').trans (by rw [decoded']; rfl), enters same related⟩
    · obtain rfl := Except.ok.inj read
      exact ⟨a', rfl, related⟩

theorem Carries.kept_eq {decode : Decoder β} {set : β → α → α} {Alike : Excerpt → Excerpt → Prop}
    (carries : decode.Carries Alike Eq) (sets : field.Sets decode set) :
    field.Carries (Kept Alike) Eq :=
  .kept carries sets fun same same' => by rw [same, same']

/-- A field that may be left out and whose value does not show in the record may have any value that
can be read. -/
theorem Carries.optionally {decode : Decoder β} {set : Option β → α → α} {Allowed : Excerpt → Prop}
    (allowed : ∀ e, Allowed e ↔ ∃ x, decode e = .ok x)
    (sets : field.Sets (Decoder.optional decode) set) (optional : field.isOptional = true)
    (ignored : ∀ {x a a'}, Related a a' → Related (set x a) a')
    (ignored' : ∀ {x a a'}, Related a a' → Related a (set x a')) :
    field.Carries (Optionally Allowed) Related where
  self := by
    intro given a b _ read
    have fine : ∀ e ∈ given, e = .null ∨ Allowed e := by
      rintro e rfl
      rw [give, sets] at read
      obtain ⟨x, decoded, -⟩ := map_eq_ok_iff.1 read
      rw [allowed, ← Decoder.exists_optional_iff]
      exact ⟨x, decoded⟩
    exact ⟨fine, fine⟩
  present required := by simp [optional] at required
  carry := by
    rintro given given' a a' b - - ⟨-, fine'⟩ related read
    have unchanged : Related b a' := by
      cases given with
      | none =>
        obtain rfl := Except.ok.inj read
        exact related
      | some e =>
        rw [give, sets] at read
        obtain ⟨x, -, rfl⟩ := map_eq_ok_iff.1 read
        exact ignored related
    cases given' with
    | none => exact ⟨a', rfl, unchanged⟩
    | some e' =>
      have readable := fine' e' rfl
      rw [allowed, ← Decoder.exists_optional_iff] at readable
      obtain ⟨x', decoded'⟩ := readable
      exact ⟨set x' a', (sets e' a').trans (by rw [decoded']; rfl), ignored' unchanged⟩

end Field

section Records

variable {fields : List (Field α)} {shape : Shape} {Related : α → α → Prop} {a a' b : α}

/-- Each field carries the likeness that the shape gives for it. -/
def CarriesEach (fields : List (Field α)) (shape : Shape) (Related : α → α → Prop) : Prop :=
  List.Forall₂ (fun field entry => field.name = entry.1 ∧ field.Carries entry.2 Related) fields
    shape

theorem CarriesEach.map_name (each : CarriesEach fields shape Related) :
    fields.map Field.name = shape.map Prod.fst := by
  induction each with
  | nil => rfl
  | cons first _ ih => rw [List.map_cons, List.map_cons, first.1, ih]

theorem whole_valueOf {members : List (Literal × Excerpt)} (whole : ∀ m ∈ members, m.2.IsWhole)
    (name : String) : ∀ e ∈ valueOf members name, e.IsWhole :=
  fun _ found => whole _ (mem_of_valueOf found)

theorem CarriesEach.alike_of_readFields (each : CarriesEach fields shape Related)
    {members : List (Literal × Excerpt)} (whole : ∀ m ∈ members, m.2.IsWhole)
    (read : readFields fields members a = .ok b) :
    ∀ entry ∈ shape, entry.2 (valueOf members entry.1) (valueOf members entry.1) := by
  induction each generalizing a with
  | nil => simp
  | @cons field entry fields shape first _ ih =>
    rw [readFields_cons] at read
    obtain ⟨next, given, read_rest⟩ := bind_eq_ok_iff.1 read
    rw [List.forall_mem_cons, ← first.1]
    exact ⟨first.2.self (whole_valueOf whole field.name) given, ih read_rest⟩

/-- Objects whose fields are alike are read as related records. -/
theorem CarriesEach.readFields (each : CarriesEach fields shape Related)
    {members members' : List (Literal × Excerpt)} (whole : ∀ m ∈ members, m.2.IsWhole)
    (whole' : ∀ m ∈ members', m.2.IsWhole)
    (alike : ∀ entry ∈ shape, entry.2 (valueOf members entry.1) (valueOf members' entry.1))
    (related : Related a a') (read : Json.readFields fields members a = .ok b) :
    ∃ b', Json.readFields fields members' a' = .ok b' ∧ Related b b' := by
  induction each generalizing a a' with
  | nil =>
    obtain rfl := Except.ok.inj read
    exact ⟨a', rfl, related⟩
  | @cons field entry fields shape first _ ih =>
    rw [List.forall_mem_cons, ← first.1] at alike
    rw [readFields_cons] at read
    obtain ⟨next, given, read_rest⟩ := bind_eq_ok_iff.1 read
    obtain ⟨next', given', related_next⟩ := first.2.carry (whole_valueOf whole field.name)
      (whole_valueOf whole' field.name) alike.1 related given
    obtain ⟨b', read_rest', related_all⟩ := ih alike.2 related_next read_rest
    rw [readFields_cons]
    exact ⟨b', bind_eq_ok_iff.2 ⟨next', given', read_rest'⟩, related_all⟩

theorem whole_head? {items : List Excerpt} (whole : ∀ e ∈ items, e.IsWhole) :
    ∀ e ∈ items.head?, e.IsWhole :=
  fun e first => whole e (List.mem_of_mem_head? first)

theorem whole_tail {items : List Excerpt} (whole : ∀ e ∈ items, e.IsWhole) :
    ∀ e ∈ items.tail, e.IsWhole :=
  fun e listed => whole e (List.mem_of_mem_tail listed)

variable {r : Record α} {items items' : List Excerpt} {done done' : Nat}

/-- A list that is read as a record has items that its fields accept, and no more of them. -/
theorem CarriesEach.alike_of_readItems (each : CarriesEach fields shape Related)
    (whole : ∀ e ∈ items, e.IsWhole) (read : r.readItems done fields items none a = .ok b) :
    items.length ≤ shape.length ∧ ∀ (position : Nat) entry, shape[position]? = some entry →
      entry.2 items[position]? items[position]? := by
  induction each generalizing done items a with
  | nil =>
    obtain ⟨rfl, -⟩ := Record.readItems_nil_eq_ok_iff.1 read
    simp
  | @cons field entry fields shape first _ ih =>
    obtain ⟨-, read⟩ := Record.readItems_cons_eq_ok_iff.1 read
    obtain ⟨next, given, read_rest⟩ := bind_eq_ok_iff.1 read
    obtain ⟨fits, alike⟩ := ih (whole_tail whole) read_rest
    rw [List.length_tail] at fits
    refine ⟨by rw [List.length_cons]; omega, fun position entry' listed => ?_⟩
    cases position with
    | zero =>
      obtain rfl : entry = entry' := by simpa using listed
      rw [← List.head?_eq_getElem?]
      exact first.2.self (whole_head? whole) given
    | succ position => simpa using alike position entry' (by simpa using listed)

/-- Lists whose items are alike are read as related records. -/
theorem CarriesEach.readItems (each : CarriesEach fields shape Related)
    (whole : ∀ e ∈ items, e.IsWhole) (whole' : ∀ e ∈ items', e.IsWhole)
    (fits' : items'.length ≤ shape.length)
    (alike : ∀ (position : Nat) entry, shape[position]? = some entry →
      entry.2 items[position]? items'[position]?)
    (related : Related a a') (read : r.readItems done fields items none a = .ok b) :
    ∃ b', r.readItems done' fields items' none a' = .ok b' ∧ Related b b' := by
  induction each generalizing done done' items items' a a' with
  | nil =>
    obtain ⟨-, rfl⟩ := Record.readItems_nil_eq_ok_iff.1 read
    have none_left : items' = [] := List.length_eq_zero_iff.1 (Nat.le_zero.1 fits')
    exact ⟨a', Record.readItems_nil_eq_ok_iff.2 ⟨none_left, rfl⟩, related⟩
  | @cons field entry fields shape first _ ih =>
    obtain ⟨present, read⟩ := Record.readItems_cons_eq_ok_iff.1 read
    obtain ⟨next, given, read_rest⟩ := bind_eq_ok_iff.1 read
    have alike_first : entry.2 items.head? items'.head? := by
      rw [List.head?_eq_getElem?, List.head?_eq_getElem?]
      exact alike 0 entry rfl
    have alike_rest : ∀ (position : Nat) entry', shape[position]? = some entry' →
        entry'.2 items.tail[position]? items'.tail[position]? := by
      intro position entry' listed
      rw [List.getElem?_tail, List.getElem?_tail]
      exact alike (position + 1) entry' listed
    have fits_rest : items'.tail.length ≤ shape.length := by
      rw [List.length_tail]
      exact Nat.sub_le_of_le_add fits'
    obtain ⟨next', given', related_next⟩ := first.2.carry (whole_head? whole) (whole_head? whole')
      alike_first related given
    obtain ⟨b', read_rest', related_all⟩ := ih (whole_tail whole) (whole_tail whole') fits_rest
      alike_rest related_next read_rest
    refine ⟨b', Record.readItems_cons_eq_ok_iff.2 ⟨fun required => ?_, ?_⟩, related_all⟩
    · exact first.2.present required alike_first (present required)
    · exact bind_eq_ok_iff.2 ⟨next', given', read_rest'⟩

/-- A record carries the likeness of its shape if its fields do. -/
theorem CarriesEach.decode (each : CarriesEach r.fields shape Related) (orderless : r.Orderless)
    (blank : Related r.blank r.blank) : r.decode.Carries (RecordAlike shape) Related where
  self := by
    intro e a whole read
    rcases Record.object_or_list_of_decode whole read with ⟨members, rfl⟩ | ⟨items, rfl⟩
    · obtain ⟨legible, read_fields, -⟩ :=
        (Record.decode_object_eq_ok_iff orderless whole.members).1 read
      rw [Record.names, each.map_name] at legible
      exact .objects legible legible (each.alike_of_readFields whole.members read_fields)
    · obtain ⟨fits, alike⟩ := each.alike_of_readItems whole.items read
      exact .lists fits alike
  carry := by
    rintro _ _ a whole whole' (⟨legible, legible', alike⟩ | ⟨fits', alike⟩) read
    · obtain ⟨-, read_fields, present⟩ :=
        (Record.decode_object_eq_ok_iff orderless whole.members).1 read
      obtain ⟨a', read_fields', related⟩ :=
        each.readFields whole.members whole'.members alike blank read_fields
      refine ⟨a', (Record.decode_object_eq_ok_iff orderless whole'.members).2
        ⟨?_, read_fields', fun field listed required => ?_⟩, related⟩
      · rwa [Record.names, each.map_name]
      · obtain ⟨entry, member, named, carries⟩ := exists_of_forall₂ each listed
        rw [named]
        exact carries.present required (alike entry member) (named ▸ present field listed required)
    · exact each.readItems whole.items whole'.items fits' alike blank read

end Records

end StorageLayout.Json
