import StorageLayout.Json.Decode
import StorageLayout.Proofs.Json.RoundTrip

/-!
# Decoders undo the writer

A decoder recovers the values of a type if it gives back each value from what is read of its JSON
form. The decoders of single values do, and lists, dictionaries and catalogs do if the decoders of
their elements do. For a record it is enough to follow its fields in their order, and to say of each
one that it was written and is recovered, or that it was left out and may be.
-/
namespace StorageLayout

namespace Slot

theorem ofDigits_toDigits (n : Nat) : ofDigits (Nat.toDigits 10 n) = n :=
  Nat.ofDigitChars_ten_toDigits

theorem ofText?_text (s : Slot) : ofText? s.text = some s := by
  have numeral : s.text.toList = Nat.toDigits 10 s.index := by
    rw [text, Nat.toString_eq_repr, Nat.toList_repr]
  have nonempty : Nat.toDigits 10 s.index ≠ [] := Nat.toDigits_ne_nil
  have decimal : (Nat.toDigits 10 s.index).all Char.isDigit = true := by
    rw [List.all_eq_true]
    exact fun c member => Nat.isDigit_of_mem_toDigits (by omega) (by omega) member
  rw [ofText?, numeral]
  simp only [nonempty, decimal, ne_eq, not_false_eq_true, and_self, if_true, ofDigits_toDigits]

end Slot

namespace Dictionary

variable {α κ : Type}

theorem eq_of_entries_eq {d d' : Dictionary α κ} (same : d.entries = d'.entries) : d = d' := by
  cases d
  cases d'
  cases same
  rfl

variable [DecidableEq κ]

theorem insertEntry_of_not_mem {key : κ} {value : α} {entries : List (κ × α)}
    (fresh : key ∉ entries.map Prod.fst) :
    insertEntry key value entries = entries ++ [(key, value)] := by
  induction entries with
  | nil => rfl
  | cons entry rest ih =>
    obtain ⟨k, v⟩ := entry
    rw [List.map_cons, List.mem_cons, not_or] at fresh
    have other : k ≠ key := fun same => fresh.1 same.symm
    rw [insertEntry, if_neg other, ih fresh.2]
    rfl

theorem entries_foldl_insert (d : Dictionary α κ) (more : List (κ × α))
    (distinct : ((d.entries ++ more).map Prod.fst).Nodup) :
    (more.foldl (fun d (key, value) => d.insert key value) d).entries = d.entries ++ more := by
  induction more generalizing d with
  | nil => simp
  | cons entry rest ih =>
    obtain ⟨key, value⟩ := entry
    have fresh : key ∉ d.entries.map Prod.fst := by
      rw [List.map_append, List.map_cons, List.nodup_append] at distinct
      exact fun member => distinct.2.2 key member key (by simp) rfl
    have grown : (d.insert key value).entries = d.entries ++ [(key, value)] :=
      insertEntry_of_not_mem fresh
    rw [List.foldl_cons, ih _ (by rw [grown]; simpa using distinct), grown]
    simp

/-- A dictionary is built again from its entries, in their order. -/
theorem ofList_entries (d : Dictionary α κ) : ofList d.entries = d := by
  apply eq_of_entries_eq
  rw [ofList, entries_foldl_insert _ _ (by simpa [empty] using d.keys_distinct)]
  rfl

end Dictionary

namespace Catalog

variable {α : Type}

theorem eq_of_entries_eq {c c' : Catalog α} (same : c.entries = c'.entries) : c = c' := by
  cases c
  cases c'
  cases same
  rfl

theorem insertEntry_of_forall_lt {name : String} {value : α} {entries : List (String × α)}
    (last : ∀ entry ∈ entries, entry.1 < name) :
    insertEntry name value entries = entries ++ [(name, value)] := by
  induction entries with
  | nil => rfl
  | cons entry rest ih =>
    obtain ⟨n, v⟩ := entry
    have before : n < name := last (n, v) (by simp)
    have not_after : ¬ name < n := String.lt_asymm before
    have other : name ≠ n := fun same => String.lt_irrefl n (same ▸ before)
    rw [insertEntry, if_neg not_after, if_neg other,
      ih fun entry member => last entry (by simp [member])]
    rfl

theorem entries_foldl_insert (c : Catalog α) (more : List (String × α))
    (ascending : (c.entries ++ more).Pairwise (fun a b => a.1 < b.1)) :
    (more.foldl (fun c (name, value) => c.insert name value) c).entries = c.entries ++ more := by
  induction more generalizing c with
  | nil => simp
  | cons entry rest ih =>
    obtain ⟨name, value⟩ := entry
    have last : ∀ entry ∈ c.entries, entry.1 < name := fun entry member =>
      (List.pairwise_append.1 ascending).2.2 entry member (name, value) (by simp)
    have grown : (c.insert name value).entries = c.entries ++ [(name, value)] :=
      insertEntry_of_forall_lt last
    rw [List.foldl_cons, ih _ (by rw [grown]; simpa using ascending), grown]
    simp

/-- A catalog is built again from its entries. -/
theorem ofList_entries (c : Catalog α) : ofList c.entries = c := by
  apply eq_of_entries_eq
  rw [ofList, entries_foldl_insert _ _ (by simpa [empty] using c.names_ascending)]
  rfl

end Catalog

namespace Json

variable {α β : Type}

/-- The decoder gives back every value from its JSON form. -/
def Decoder.Recovers (decode : Decoder α) (json : α → Json) : Prop :=
  ∀ a, decode (json a).excerpt = .ok a

namespace Decoder

theorem recovers_text : Decoder.text.Recovers Json.text := fun _ => rfl

/-- Below the limit of a word, digits are read as the number that they were written for. -/
theorem below_natural {n limit : Nat} (small : n < limit) (word : limit ≤ Numeral.wordLimit)
    (wanted : Wanted) : below limit wanted (Json.natural n).excerpt = .ok n := by
  have value : Numeral.number ⟨false, digits n, none, none⟩ = .natural n := by
    have fits : n < Numeral.wordLimit := Nat.lt_of_lt_of_le small word
    simp [Numeral.number, Numeral.isWhole, ofDigits_digits, fits]
  simp only [excerpt, below, value, small, if_true]

theorem recovers_word64 : word64.Recovers fun n => .natural n.toNat := by
  intro n
  have small : n.toNat < UInt64.size := n.toNat_lt_size
  rw [word64, below_natural small (Nat.le_refl _)]
  simp [Except.map]

theorem recovers_word8 : word8.Recovers fun n => .natural n.toNat := by
  intro n
  have small : n.toNat < UInt8.size := n.toNat_lt_size
  rw [word8, below_natural small (by decide)]
  simp [Except.map]

theorem recovers_slot : slot.Recovers fun s => .text s.text := by
  intro s
  have raw : Decoder.text (Json.text s.text).excerpt = .ok s.text := rfl
  simp only [slot, raw, bind, Except.bind, Slot.ofText?_text]

/-- A choice recovers the names of distinct values. -/
theorem choice_text {allowed : List (String × α)} {name : String} {a : α}
    (listed : allowed.lookup name = some a) : choice allowed (Json.text name).excerpt = .ok a := by
  simp only [excerpt, choice, chosen, listed]

theorem optional_excerpt (decode : Decoder α) (v : Json) :
    Decoder.optional decode v.excerpt = (decode v.excerpt).map some := by
  cases v <;> rfl

theorem mapM_map_eq_ok {ε : Type} {read : α → Except ε β} {write : β → α}
    (recovers : ∀ b, read (write b) = .ok b) (bs : List β) : (bs.map write).mapM read = .ok bs := by
  induction bs with
  | nil => rfl
  | cons b rest ih =>
    rw [List.map_cons, List.mapM_cons, ih, recovers b]
    rfl

theorem itemExcerpts_eq_map (items : List Json) : itemExcerpts items = items.map excerpt := by
  induction items with
  | nil => rfl
  | cons item rest ih => rw [itemExcerpts, ih, List.map_cons]

theorem memberExcerpts_eq_map (members : List (String × Json)) :
    memberExcerpts members = members.map fun (name, v) => (some name, v.excerpt) := by
  induction members with
  | nil => rfl
  | cons member rest ih =>
    obtain ⟨name, v⟩ := member
    rw [memberExcerpts, ih, List.map_cons]

variable {decode : Decoder α} {json : α → Json}

theorem recovers_list (recovers : decode.Recovers json) :
    (Decoder.list decode).Recovers fun items => .list (items.map json) := by
  intro items
  have all : (itemExcerpts (items.map json)).mapM decode = .ok items := by
    rw [itemExcerpts_eq_map, List.map_map]
    exact mapM_map_eq_ok recovers items
  simp only [excerpt, list, all]
  rfl

theorem members_excerpt (recovers : decode.Recovers json) (entries : List (String × α)) :
    members decode (Json.object (entries.map fun (name, a) => (name, json a))).excerpt =
      .ok entries := by
  rw [excerpt, memberExcerpts_eq_map, List.map_map, members, mapM_map_eq_ok]
  · rfl
  · intro entry
    simp only [Function.comp_apply, recovers entry.2, Except.map]

theorem recovers_dictionary (recovers : decode.Recovers json) :
    (dictionary decode).Recovers fun d =>
      .object (d.entries.map fun (name, a) => (name, json a)) := by
  intro d
  rw [dictionary, members_excerpt recovers, Except.map, Dictionary.ofList_entries]

theorem recovers_catalog (recovers : decode.Recovers json) :
    (catalog decode).Recovers fun c => .object (c.entries.map fun (name, a) => (name, json a)) := by
  intro c
  rw [catalog, members_excerpt recovers, Except.map, Catalog.ofList_entries]

end Decoder

namespace Record

/-- These members are what the fields write, in order, for a record that grows from one value to
another: a field that is written is recovered, and one that is left out need not be there. -/
inductive Written : List (Field α) → List (String × Json) → α → α → Prop where
  | done (a : α) : Written [] [] a a
  | present {field : Field α} {fields : List (Field α)} {members : List (String × Json)}
      {name : String} {v : Json} {a b c : α} (named : field.name = name)
      (recovered : field.read v.excerpt a = .ok b) (rest : Written fields members b c) :
      Written (field :: fields) ((name, v) :: members) a c
  | absent {field : Field α} {fields : List (Field α)} {members : List (String × Json)} {a c : α}
      (optional : field.isOptional = true) (rest : Written fields members a c) :
      Written (field :: fields) members a c

variable {r : Record α}

/-- A field is found under its name. -/
theorem find?_of_mem {fields : List (Field α)} (distinct : (fields.map Field.name).Nodup)
    {field : Field α} (member : field ∈ fields) :
    fields.find? (·.name = field.name) = some field := by
  induction fields with
  | nil => simp at member
  | cons head rest ih =>
    rw [List.map_cons, List.nodup_cons] at distinct
    rcases List.mem_cons.1 member with rfl | member
    · simp
    · have other : head.name ≠ field.name := fun same =>
        distinct.1 (same ▸ List.mem_map_of_mem member)
      rw [List.find?_cons_of_neg (by simpa using other), ih distinct.2 member]

/-- The written members are read one by one. Afterwards the names seen are those seen before and
those of the members, and every field that was not seen may be left out. -/
theorem Written.readMembers {fields : List (Field α)} {members : List (String × Json)} {a c : α}
    (written : Written fields members a c) (distinct : (r.fields.map Field.name).Nodup)
    (own : ∀ field ∈ fields, field ∈ r.fields) (fields_distinct : (fields.map Field.name).Nodup)
    {seen : List String} (unseen : ∀ field ∈ fields, field.name ∉ seen) :
    ∃ seen', r.readMembers (memberExcerpts members) seen a = .ok (seen', c) ∧
      (∀ name ∈ seen, name ∈ seen') ∧
      ∀ field ∈ fields, field.isOptional = true ∨ field.name ∈ seen' := by
  induction written generalizing seen with
  | done a => exact ⟨seen, rfl, fun _ member => member, by simp⟩
  | @present field fields members name v a b c named recovered rest ih =>
    subst named
    have own_head : r.fields.find? (·.name = field.name) = some field :=
      find?_of_mem distinct (own field (by simp))
    rw [List.map_cons, List.nodup_cons] at fields_distinct
    have unseen_rest : ∀ other ∈ fields, other.name ∉ field.name :: seen := by
      intro other member
      rw [List.mem_cons, not_or]
      refine ⟨fun same => fields_distinct.1 (same ▸ List.mem_map_of_mem member), ?_⟩
      exact unseen other (by simp [member])
    obtain ⟨seen', read, kept, accounted⟩ :=
      ih (fun other member => own other (by simp [member])) fields_distinct.2 unseen_rest
    refine ⟨seen', ?_, fun other member => kept other (by simp [member]), ?_⟩
    · rw [memberExcerpts, Record.readMembers]
      simp only [own_head, unseen field (by simp), if_false, recovered, bind, Except.bind, read]
    · intro other member
      rcases List.mem_cons.1 member with rfl | member
      · exact Or.inr (kept _ (by simp))
      · exact accounted other member
  | @absent field fields members a c optional rest ih =>
    rw [List.map_cons, List.nodup_cons] at fields_distinct
    obtain ⟨seen', read, kept, accounted⟩ :=
      ih (fun other member => own other (by simp [member])) fields_distinct.2
        fun other member => unseen other (by simp [member])
    refine ⟨seen', read, kept, fun other member => ?_⟩
    rcases List.mem_cons.1 member with rfl | member
    · exact Or.inl optional
    · exact accounted other member

/-- A record is recovered from an object with the members that its fields write. -/
theorem Written.decode {members : List (String × Json)} {a : α}
    (written : Written r.fields members r.blank a)
    (distinct : (r.fields.map Field.name).Nodup) :
    r.decode (Json.object members).excerpt = .ok a := by
  have unseen : ∀ field ∈ r.fields, field.name ∉ [] := by simp
  obtain ⟨seen, read, -, accounted⟩ :=
    written.readMembers distinct (fun _ member => member) distinct unseen
  have complete : r.missing? seen = none := by
    rw [missing?, Option.map_eq_none_iff, List.find?_eq_none]
    intro field member
    rcases accounted field member with optional | named
    · simp [optional]
    · simp [named]
  simp only [excerpt, Record.decode, read, Decoder.close, bind, Except.bind, complete]
  rfl

end Record

section Fields

variable {name : String} {decode : Decoder β} {json : β → Json} {fields : List (Field α)}
  {members : List (String × Json)} {a c : α}

theorem Record.Written.required {set : β → α → α} (recovers : decode.Recovers json) (b : β)
    (rest : Record.Written fields members (set b a) c) :
    Record.Written (.required name decode set :: fields) ((name, json b) :: members) a c := by
  have recovered : (Field.required name decode set).read (json b).excerpt a = .ok (set b a) := by
    simp only [Field.required, recovers b, Except.map]
  exact .present rfl recovered rest

/-- A field that is absent is left out, which the record before it must show. -/
theorem Record.Written.optional {set : Option β → α → α} (recovers : decode.Recovers json)
    (b : Option β) (blank : set none a = a) (rest : Record.Written fields members (set b a) c) :
    Record.Written (.optional name (.optional decode) set :: fields)
      (Json.optionalMember name (b.map json) ++ members) a c := by
  cases b with
  | none =>
    rw [blank] at rest
    exact .absent rfl rest
  | some b =>
    have recovered : (Field.optional name (.optional decode) set).read (json b).excerpt a =
        .ok (set (some b) a) := by
      simp only [Field.optional, Decoder.optional_excerpt, recovers b, Except.map]
    exact .present rfl recovered rest

end Fields

/-- The layouts in which a value may be written to a text: compact, indented, and indented with a
line feed at the end. -/
def layouts (v : Json) : List String := [v.compact, v.indented, v.indented ++ "\n"]

/-- White space after a written value does not matter. -/
theorem ofText_write_append {style : Style} (blank : style.Blank) (v : Json) {spaces : String}
    (white : IsBlank spaces.toList) :
    Document.ofText (v.write style 0 "" ++ spaces) = ⟨v.excerpt, false⟩ := by
  obtain ⟨cs, written, spells⟩ := exists_spells_write blank v 0 ""
  exact ofText_of_spells (by simpa [written] using spells.blankAfter white)

theorem ofText_layouts (v : Json) {text : String} (listed : text ∈ v.layouts) :
    Document.ofText text = ⟨v.excerpt, false⟩ := by
  simp only [layouts, List.mem_cons, List.not_mem_nil, or_false] at listed
  rcases listed with rfl | rfl | rfl
  · exact ofText_compact v
  · exact ofText_indented v
  · exact ofText_write_append blank_indented v (by simp [IsBlank, ReaderState.isSpace])

/-- What a decoder recovers from the JSON form, it recovers from the text in each layout. -/
theorem Decoder.Recovers.run {decode : Decoder α} {json : α → Json}
    (recovers : decode.Recovers json) (a : α) {text : String} (listed : text ∈ (json a).layouts) :
    decode.run text = .ok a := by
  rw [Decoder.run, ofText_layouts _ listed]
  simp only [recovers a, bind, Except.bind]
  rfl

end Json
end StorageLayout
