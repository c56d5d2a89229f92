import StorageLayout.Proofs.Json.Acceptance
import StorageLayout.Proofs.Json.Lexemes

/-!
# Reading undoes writing

A written value follows the grammar, in the compact and in the indented layout. So it is read back
whole, and nothing is left over. Different values are therefore written as different texts: left out
members, escapes and the ends of numbers never make two of them coincide.
-/
namespace StorageLayout.Json

mutual

def excerpt : Json → Excerpt
  | text value => .text (some value)
  | natural value => .number ⟨false, digits value, none, none⟩
  | list items => .list (itemExcerpts items) none
  | object members => .object (memberExcerpts members) none

def itemExcerpts : List Json → List Excerpt
  | [] => []
  | item :: rest => item.excerpt :: itemExcerpts rest

def memberExcerpts : List (String × Json) → List (Literal × Excerpt)
  | [] => []
  | (name, value) :: rest => (some name, value.excerpt) :: memberExcerpts rest

end

mutual

/-- What is read of a value determines it. -/
theorem eq_of_excerpt_eq : ∀ {v w : Json}, v.excerpt = w.excerpt → v = w
  | .text _, w, same => by
    cases w <;> simp [excerpt] at same
    rw [same]
  | .natural n, w, same => by
    cases w <;> simp [excerpt] at same
    next m => rw [← ofDigits_digits n, same, ofDigits_digits m]
  | .list items, w, same => by
    cases w <;> simp [excerpt] at same
    rw [eq_of_itemExcerpts_eq same]
  | .object members, w, same => by
    cases w <;> simp [excerpt] at same
    rw [eq_of_memberExcerpts_eq same]

theorem eq_of_itemExcerpts_eq :
    ∀ {items others : List Json}, itemExcerpts items = itemExcerpts others → items = others
  | [], others, same => by
    cases others <;> simp [itemExcerpts] at same
    rfl
  | item :: rest, others, same => by
    cases others <;> simp [itemExcerpts] at same
    rw [eq_of_excerpt_eq same.1, eq_of_itemExcerpts_eq same.2]

theorem eq_of_memberExcerpts_eq :
    ∀ {members others : List (String × Json)},
      memberExcerpts members = memberExcerpts others → members = others
  | [], others, same => by
    cases others <;> simp [memberExcerpts] at same
    rfl
  | (name, value) :: rest, others, same => by
    rcases others with _ | ⟨⟨name', value'⟩, rest'⟩
    · simp [memberExcerpts] at same
    · simp only [memberExcerpts, List.cons.injEq, Prod.mk.injEq, Option.some.injEq] at same
      rw [same.1.1, eq_of_excerpt_eq same.1.2, eq_of_memberExcerpts_eq same.2]

end

/-- The layout adds nothing but white space. -/
structure Style.Blank (style : Style) : Prop where
  lineBreak : ∀ depth, IsBlank (style.lineBreak depth).toList
  colon : ∃ blank, style.colon.toList = ':' :: blank ∧ IsBlank blank

theorem blank_compact : Style.compact.Blank where
  lineBreak depth c member := by simp [Style.compact] at member
  colon := ⟨[], rfl, by simp [IsBlank]⟩

theorem blank_indented : Style.indented.Blank where
  lineBreak depth c member := by
    simp only [Style.indented, String.toList_append, String.toList_ofList, List.mem_append,
      List.mem_replicate] at member
    rcases member with newline | ⟨-, rfl⟩
    · obtain rfl : c = '\n' := by simpa using newline
      rfl
    · rfl
  colon := ⟨[' '], rfl, by simp [IsBlank, ReaderState.isSpace]⟩

section Values

variable {style : Style}

/-- A member is written as the grammar says if its value is. -/
theorem exists_spelledMember (blank : style.Blank) {written text name : String} {e : Excerpt}
    {front before cs : List Char} (start : written.toList = front ++ before)
    (is_blank : IsBlank before) (spells : e.Spells cs)
    (appended : text.toList = (pushQuoted written name ++ style.colon).toList ++ cs) :
    ∃ m : SpelledMember, m.member = (some name, e) ∧ SpellsName m.name m.nameText ∧
      m.value.Spells m.valueText ∧ text.toList = front ++ m.text := by
  obtain ⟨quoted, named, spells_name⟩ := exists_spells_pushQuoted written name
  obtain ⟨after, colon, blank_after⟩ := blank.colon
  refine ⟨⟨some name, before ++ quoted ++ [], e, after ++ cs⟩, rfl, ?_, ?_, ?_⟩
  · exact .padded is_blank spells_name isBlank_nil
  · exact spells.blankBefore blank_after
  · simp [appended, named, start, colon, SpelledMember.text]

mutual

-- The three statements follow the writer. Items and members are taken up with the one that stands
-- before them, because the white space in front of a closing bracket belongs to the last of them.

/-- A value is written as the grammar says. -/
theorem exists_spells_write (blank : style.Blank) : ∀ (v : Json) (depth : Nat) (written : String),
    ∃ cs, (v.write style depth written).toList = written.toList ++ cs ∧ v.excerpt.Spells cs
  | .text content, depth, written => by
    obtain ⟨cs, appended, spells⟩ := exists_spells_pushQuoted written content
    exact ⟨cs, appended, .text spells⟩
  | .natural n, depth, written => by
    refine ⟨Nat.toDigits 10 n, ?_, .number (spells_toDigits n)⟩
    rw [write, String.toList_append, Nat.toString_eq_repr, Nat.toList_repr]
  | .list [], depth, written => by
    exact ⟨['[', ']'], by simp [write], .emptyList isBlank_nil⟩
  | .list (item :: rest), depth, written => by
    obtain ⟨cs, appended, spells⟩ :=
      exists_spells_write blank item (depth + 1) (written ++ "[" ++ style.lineBreak (depth + 1))
    obtain ⟨first, others, listed, each, all⟩ := exists_spells_writeItems blank rest (depth + 1)
      (written.toList ++ ['[']) (by simpa using appended)
      (spells.blankBefore (blank.lineBreak _)) (blank.lineBreak depth)
    refine ⟨'[' :: first.2 ++ commaTexts (others.map Prod.snd) ++ [']'], ?_, ?_⟩
    · rw [write, String.toList_append, all]
      simp
    · rw [excerpt, itemExcerpts, ← listed]
      exact .list first others each
  | .object [], depth, written => by
    exact ⟨['\x7b', '\x7d'], by simp [write], .emptyObject isBlank_nil⟩
  | .object ((name, value) :: rest), depth, written => by
    obtain ⟨cs, appended, spells⟩ := exists_spells_write blank value (depth + 1)
      (pushQuoted (written ++ "\x7b" ++ style.lineBreak (depth + 1)) name ++ style.colon)
    obtain ⟨m, member, spells_name, spells_value, first_text⟩ := exists_spelledMember blank
      (String.toList_append) (blank.lineBreak (depth + 1)) spells appended
    obtain ⟨first, others, listed, names, each, all⟩ := exists_spells_writeMembers blank rest
      (depth + 1) (written ++ "\x7b").toList m first_text spells_name spells_value
      (blank.lineBreak depth)
    refine ⟨'\x7b' :: first.text ++ commaTexts (others.map SpelledMember.text) ++ ['\x7d'], ?_, ?_⟩
    · rw [write, String.toList_append, all]
      simp
    · rw [excerpt, memberExcerpts, ← member, ← listed]
      exact .object first others names each

/-- Items are written as the grammar says, with a comma before each. -/
theorem exists_spells_writeItems (blank : style.Blank) : ∀ (items : List Json) (depth : Nat)
    {written closing : String} {e : Excerpt} (front : List Char) {cs : List Char},
      written.toList = front ++ cs → e.Spells cs → IsBlank closing.toList →
      ∃ first rest, (first :: rest).map Prod.fst = e :: itemExcerpts items ∧
        (∀ item ∈ first :: rest, Excerpt.Spells item.1 item.2) ∧
        (writeItems style depth written items ++ closing).toList =
          front ++ first.2 ++ commaTexts (rest.map Prod.snd)
  | [], depth, written, closing, e, front, cs, before, spells, closes => by
    refine ⟨(e, cs ++ closing.toList), [], rfl, ?_, ?_⟩
    · simpa using spells.blankAfter closes
    · simp [writeItems, before, commaTexts]
  | item :: rest, depth, written, closing, e, front, cs, before, spells, closes => by
    obtain ⟨cs', appended, spells'⟩ :=
      exists_spells_write blank item depth (written ++ "," ++ style.lineBreak depth)
    obtain ⟨first, others, listed, each, all⟩ := exists_spells_writeItems blank rest depth
      (front ++ cs ++ [',']) (by simpa [before] using appended)
      (spells'.blankBefore (blank.lineBreak depth)) closes
    refine ⟨(e, cs), first :: others, ?_, ?_, ?_⟩
    · rw [List.map_cons, listed, itemExcerpts]
    · exact List.forall_mem_cons.2 ⟨spells, each⟩
    · rw [writeItems, all]
      simp [commaTexts]

/-- Members are written as the grammar says, with a comma before each. -/
theorem exists_spells_writeMembers (blank : style.Blank) : ∀ (members : List (String × Json))
    (depth : Nat) {written closing : String} (front : List Char) (m : SpelledMember),
      written.toList = front ++ m.text → SpellsName m.name m.nameText →
      m.value.Spells m.valueText → IsBlank closing.toList →
      ∃ first rest, (first :: rest).map SpelledMember.member = m.member :: memberExcerpts members ∧
        (∀ m ∈ first :: rest, SpellsName m.name m.nameText) ∧
        (∀ m ∈ first :: rest, m.value.Spells m.valueText) ∧
        (writeMembers style depth written members ++ closing).toList =
          front ++ first.text ++ commaTexts (rest.map SpelledMember.text)
  | [], depth, written, closing, front, m, before, spells_name, spells, closes => by
    refine ⟨⟨m.name, m.nameText, m.value, m.valueText ++ closing.toList⟩, [], rfl, ?_, ?_, ?_⟩
    · simpa using spells_name
    · simpa using spells.blankAfter closes
    · simp [writeMembers, before, SpelledMember.text, commaTexts]
  | (name, value) :: rest, depth, written, closing, front, m, before, spells_name, spells,
      closes => by
    obtain ⟨cs, appended, spells'⟩ := exists_spells_write blank value depth
      (pushQuoted (written ++ "," ++ style.lineBreak depth) name ++ style.colon)
    obtain ⟨m', member, spells_name', spells_value', next_text⟩ := exists_spelledMember blank
      (String.toList_append) (blank.lineBreak depth) spells' appended
    obtain ⟨first, others, listed, names, each, all⟩ := exists_spells_writeMembers blank rest depth
      (written ++ ",").toList m' next_text spells_name' spells_value' closes
    refine ⟨m, first :: others, ?_, ?_, ?_, ?_⟩
    · rw [List.map_cons, listed, member, memberExcerpts]
    · exact List.forall_mem_cons.2 ⟨spells_name, names⟩
    · exact List.forall_mem_cons.2 ⟨spells, each⟩
    · rw [writeMembers, all]
      simp [commaTexts, before]

end

theorem ofText_write (blank : style.Blank) (v : Json) :
    Document.ofText (v.write style 0 "") = ⟨v.excerpt, false⟩ := by
  obtain ⟨cs, written, spells⟩ := exists_spells_write blank v 0 ""
  exact ofText_of_spells (by simpa [written] using spells)

/-- Different values are written differently in one layout. -/
theorem write_injective (blank : style.Blank) {v w : Json}
    (same : v.write style 0 "" = w.write style 0 "") : v = w := by
  apply eq_of_excerpt_eq
  have read_back := ofText_write blank v
  rw [same, ofText_write blank w] at read_back
  exact (Document.mk.inj read_back).1.symm

end Values

/-- The compact layout is read back whole. -/
theorem ofText_compact (v : Json) : Document.ofText v.compact = ⟨v.excerpt, false⟩ :=
  ofText_write blank_compact v

/-- The indented layout is read back whole. -/
theorem ofText_indented (v : Json) : Document.ofText v.indented = ⟨v.excerpt, false⟩ :=
  ofText_write blank_indented v

theorem compact_injective : Function.Injective compact :=
  fun _ _ => write_injective blank_compact

theorem indented_injective : Function.Injective indented :=
  fun _ _ => write_injective blank_indented

end StorageLayout.Json
