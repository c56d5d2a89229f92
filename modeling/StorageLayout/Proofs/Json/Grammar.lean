import StorageLayout.Json.Reader

/-!
# Which texts are JSON

The grammar of JSON, as a relation between what is spelled and the characters that spell it. White
space may stand around every value and every name. A string is spelled piece by piece; half a
surrogate pair is a piece like any other, although a string that has one stands for no text.
-/
namespace StorageLayout.Json

/-- White space, or nothing. -/
def IsBlank (cs : List Char) : Prop := ∀ c ∈ cs, ReaderState.isSpace c

structure IsDigits (cs : List Char) : Prop where
  nonempty : cs ≠ []
  digits : ∀ c ∈ cs, c.isDigit

def digitValues (cs : List Char) : List Nat := cs.map fun c => c.toNat - 48

namespace Numeral

/-- How the digits before the point are spelled: a zero alone, or no zero in front. -/
inductive SpellsWhole : List Nat → List Char → Prop
  | zero : SpellsWhole [0] ['0']
  | digits {c : Char} {rest : List Char} (first : c.isDigit) (nonzero : c ≠ '0')
      (digits : ∀ d ∈ rest, d.isDigit) : SpellsWhole (digitValues (c :: rest)) (c :: rest)

/-- How the digits after the point are spelled, if there are any. -/
inductive SpellsFraction : Option (List Nat) → List Char → Prop
  | absent : SpellsFraction none []
  | digits {cs : List Char} (digits : IsDigits cs) :
      SpellsFraction (some (digitValues cs)) ('.' :: cs)

/-- What may stand between the mark of an exponent and its digits. -/
inductive SpellsSign : Bool → List Char → Prop
  | none : SpellsSign false []
  | plus : SpellsSign false ['+']
  | minus : SpellsSign true ['-']

/-- How an exponent is spelled, if there is one. -/
inductive SpellsExponent : Option (Bool × List Nat) → List Char → Prop
  | absent : SpellsExponent none []
  | digits {mark : Char} {isNegative : Bool} {sign cs : List Char}
      (isMark : mark = 'e' ∨ mark = 'E') (signed : SpellsSign isNegative sign)
      (digits : IsDigits cs) :
      SpellsExponent (some (isNegative, digitValues cs)) (mark :: sign ++ cs)

def signText (negative : Bool) : List Char := if negative then ['-'] else []

inductive Spells : Numeral → List Char → Prop
  | parts (negative : Bool) {whole : List Nat} {fraction : Option (List Nat)}
      {exponent : Option (Bool × List Nat)} {front middle back : List Char}
      (spells_whole : SpellsWhole whole front) (spells_fraction : SpellsFraction fraction middle)
      (spells_exponent : SpellsExponent exponent back) :
      Spells ⟨negative, whole, fraction, exponent⟩
        (signText negative ++ front ++ middle ++ back)

end Numeral

/-- A piece of a string: a character, or a code of four hexadecimal digits. -/
inductive Piece where
  | char (c : Char)
  | code (n : Nat)

/-- How a piece of a string is spelled. -/
inductive Piece.Spells : Piece → List Char → Prop
  | plain {c : Char} (not_quote : c ≠ '"') (not_backslash : c ≠ '\\') (printable : 0x20 ≤ c.toNat) :
      Spells (.char c) [c]
  | escape {c d : Char} (names : unescaped? c = some d) : Spells (.char d) ['\\', c]
  | code {c₁ c₂ c₃ c₄ : Char} {d₁ d₂ d₃ d₄ : Nat} (first : hexValue? c₁ = some d₁)
      (second : hexValue? c₂ = some d₂) (third : hexValue? c₃ = some d₃)
      (fourth : hexValue? c₄ = some d₄) :
      Spells (.code (16 * (16 * (16 * d₁ + d₂) + d₃) + d₄)) ['\\', 'u', c₁, c₂, c₃, c₄]

/-- A string with one more piece. -/
def StringState.add (s : StringState) : Piece → StringState
  | .char c => s.push c
  | .code n => s.pushCode n

/-- How the inside of a string is spelled that leads from one state to another. -/
inductive StringState.Spells (s : StringState) : StringState → List Char → Prop
  | empty : Spells s s []
  | piece {before : StringState} {cs pieceText : List Char} {piece : Piece}
      (front : Spells s before cs) (spells : piece.Spells pieceText) :
      Spells s (before.add piece) (cs ++ pieceText)

inductive Literal.Spells : Literal → List Char → Prop
  | quoted {s : StringState} {cs : List Char} (inside : StringState.Spells {} s cs) :
      Spells s.literal ('"' :: cs ++ ['"'])

/-- A member of an object, and how its name and its value are spelled. -/
structure SpelledMember where
  name : Literal
  nameText : List Char
  value : Excerpt
  valueText : List Char

namespace SpelledMember

def member (m : SpelledMember) : Literal × Excerpt := (m.name, m.value)

def text (m : SpelledMember) : List Char := m.nameText ++ ':' :: m.valueText

end SpelledMember

/-- How the name of a member is spelled, with the white space around it. -/
inductive SpellsName (name : Literal) : List Char → Prop
  | padded {before quoted after : List Char} (blank_before : IsBlank before)
      (spells : name.Spells quoted) (blank_after : IsBlank after) :
      SpellsName name (before ++ quoted ++ after)

/-- Texts with a comma before each. -/
def commaTexts (texts : List (List Char)) : List Char := texts.flatMap (',' :: ·)

/-- How a value is spelled, with the white space around it. -/
inductive Excerpt.Spells : Excerpt → List Char → Prop
  | spaceBefore {e : Excerpt} {c : Char} {cs : List Char} (space : ReaderState.isSpace c)
      (spells : Spells e cs) : Spells e (c :: cs)
  | spaceAfter {e : Excerpt} {c : Char} {cs : List Char} (space : ReaderState.isSpace c)
      (spells : Spells e cs) : Spells e (cs ++ [c])
  | nullWord : Spells .null ['n', 'u', 'l', 'l']
  | trueWord : Spells (.boolean true) ['t', 'r', 'u', 'e']
  | falseWord : Spells (.boolean false) ['f', 'a', 'l', 's', 'e']
  | number {n : Numeral} {cs : List Char} (spells : n.Spells cs) : Spells (.number n) cs
  | text {content : Literal} {cs : List Char} (spells : content.Spells cs) :
      Spells (.text content) cs
  | emptyList {blank : List Char} (blank_inside : IsBlank blank) :
      Spells (.list [] none) ('[' :: blank ++ [']'])
  | list (first : Excerpt × List Char) (rest : List (Excerpt × List Char))
      (each : ∀ item ∈ first :: rest, Spells item.1 item.2) :
      Spells (.list ((first :: rest).map Prod.fst) none)
        ('[' :: first.2 ++ commaTexts (rest.map Prod.snd) ++ [']'])
  | emptyObject {blank : List Char} (blank_inside : IsBlank blank) :
      Spells (.object [] none) ('\x7b' :: blank ++ ['\x7d'])
  | object (first : SpelledMember) (rest : List SpelledMember)
      (names : ∀ m ∈ first :: rest, SpellsName m.name m.nameText)
      (each : ∀ m ∈ first :: rest, Spells m.value m.valueText) :
      Spells (.object ((first :: rest).map SpelledMember.member) none)
        ('\x7b' :: first.text ++ commaTexts (rest.map SpelledMember.text) ++ ['\x7d'])

section Blanks

variable {cs blank : List Char} {c : Char} {name : Literal} {e : Excerpt}

theorem isBlank_nil : IsBlank [] := by simp [IsBlank]

theorem IsBlank.append {more : List Char} (is_blank : IsBlank blank) (more_blank : IsBlank more) :
    IsBlank (blank ++ more) :=
  List.forall_mem_append.2 ⟨is_blank, more_blank⟩

theorem isBlank_singleton (space : ReaderState.isSpace c) : IsBlank [c] := by
  simpa [IsBlank] using space

theorem SpellsName.blankBefore (spells : SpellsName name cs) (is_blank : IsBlank blank) :
    SpellsName name (blank ++ cs) := by
  cases spells with
  | padded blank_before spells blank_after =>
    simpa using SpellsName.padded (is_blank.append blank_before) spells blank_after

theorem SpellsName.blankAfter (spells : SpellsName name cs) (is_blank : IsBlank blank) :
    SpellsName name (cs ++ blank) := by
  cases spells with
  | padded blank_before spells blank_after =>
    rw [List.append_assoc]
    exact .padded blank_before spells (blank_after.append is_blank)

theorem Excerpt.Spells.blankBefore (spells : e.Spells cs) (is_blank : IsBlank blank) :
    e.Spells (blank ++ cs) := by
  induction blank with
  | nil => exact spells
  | cons c rest ih =>
    exact .spaceBefore (is_blank c (by simp)) (ih fun d listed => is_blank d (by simp [listed]))

theorem Excerpt.Spells.blankAfter (spells : e.Spells cs) (is_blank : IsBlank blank) :
    e.Spells (cs ++ blank) := by
  induction blank generalizing cs with
  | nil => simpa using spells
  | cons c rest ih =>
    rw [List.append_cons]
    exact ih (.spaceAfter (is_blank c (by simp)) spells) fun d listed =>
      is_blank d (by simp [listed])

end Blanks

/-- Nothing is missing of a value: reading has stopped nowhere inside. -/
inductive Excerpt.IsWhole : Excerpt → Prop
  | null : IsWhole .null
  | boolean (value : Bool) : IsWhole (.boolean value)
  | number (n : Numeral) : IsWhole (.number n)
  | text (content : Literal) : IsWhole (.text content)
  | list {items : List Excerpt} (each : ∀ e ∈ items, IsWhole e) : IsWhole (.list items none)
  | object {members : List (Literal × Excerpt)} (each : ∀ m ∈ members, IsWhole m.2) :
      IsWhole (.object members none)

theorem Excerpt.IsWhole.items {items : List Excerpt} (whole : (Excerpt.list items none).IsWhole) :
    ∀ e ∈ items, e.IsWhole := by
  cases whole with
  | list each => exact each

theorem Excerpt.IsWhole.members {members : List (Literal × Excerpt)}
    (whole : (Excerpt.object members none).IsWhole) : ∀ m ∈ members, m.2.IsWhole := by
  cases whole with
  | object each => exact each

/-- Reading has stopped before the end of the value. -/
inductive Excerpt.IsCut : Excerpt → Prop
  | cut (fault : Fault) : IsCut (.cut fault)
  | list (items : List Excerpt) (fault : Fault) : IsCut (.list items (some fault))
  | object (members : List (Literal × Excerpt)) (fault : Fault) :
      IsCut (.object members (some fault))

theorem Excerpt.IsCut.not_isWhole {e : Excerpt} (cut : e.IsCut) : ¬ e.IsWhole := by
  cases cut <;> exact nofun

/-- A value that is spelled is whole. -/
theorem Excerpt.Spells.isWhole {e : Excerpt} {cs : List Char} (spells : e.Spells cs) :
    e.IsWhole := by
  induction spells with
  | spaceBefore _ _ ih | spaceAfter _ _ ih => exact ih
  | nullWord => exact .null
  | trueWord => exact .boolean true
  | falseWord => exact .boolean false
  | @number n => exact .number n
  | @text content => exact .text content
  | emptyList => exact .list (by simp)
  | list first rest each ih =>
    refine .list fun e listed => ?_
    obtain ⟨item, member, rfl⟩ := List.mem_map.1 listed
    exact ih item member
  | emptyObject => exact .object (by simp)
  | object first rest names each ih =>
    refine .object fun m listed => ?_
    obtain ⟨spelled, member, rfl⟩ := List.mem_map.1 listed
    exact ih spelled member

end StorageLayout.Json
