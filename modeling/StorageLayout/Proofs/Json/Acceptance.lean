import Mathlib.Tactic.FinCases
import StorageLayout.Proofs.Json.Grammar

/-!
# Texts that are JSON are read as what they spell

What the reader makes of a piece of text depends only on the state in which the piece starts. A
value is handed over to the list or object around it at its last character, except for a number: it
stays open, because more digits may follow, until a character comes that ends it.
-/
namespace StorageLayout.Json

namespace ReaderState

variable {s : ReaderState} {frames : List Frame} {value : Excerpt}

/-- A value, the first item of a list included, starts at the next character. -/
def Awaits (s : ReaderState) (frames : List Frame) : Prop :=
  s = ⟨.value, frames⟩ ∨ s = ⟨.firstItem, frames⟩

theorem Awaits.step_eq (awaits : s.Awaits frames) {c : Char} (visible : ¬ isSpace c)
    (begins : c ≠ ']') : s.step c = startValue c frames := by
  rcases awaits with rfl | rfl
  · simp [ReaderState.step, visible]
  · simp [ReaderState.step, visible, begins]

/-- The name of a member, the first or a later one, starts at the next character. -/
def AwaitsName (s : ReaderState) (frames : List Frame) : Prop :=
  s = ⟨.firstName, frames⟩ ∨ s = ⟨.nextName, frames⟩

theorem step_deliver (c : Char) :
    (deliver value frames).step c = afterValue (deliver value frames) c := by
  rcases frames with _ | ⟨items | ⟨members, name⟩, rest⟩
  · rfl
  · rfl
  · cases name <;> rfl

theorem step_deliver_space {c : Char} (space : isSpace c) :
    (deliver value frames).step c = deliver value frames := by
  rw [step_deliver]
  rcases frames with _ | ⟨items | ⟨members, name⟩, rest⟩
  · simp [deliver, afterValue, space]
  · simp [deliver, afterValue, space]
  · cases name <;> simp [deliver, afterValue, space]

/-- The value has been read, but if it is a number its end has not been seen. -/
inductive Holds (value : Excerpt) (frames : List Frame) : ReaderState → Prop
  | delivered : Holds value frames (deliver value frames)
  | openNumber {phase : NumeralPhase} {n : Numeral} (may_end : phase.mayEnd)
      (complete : n.complete = value) : Holds value frames ⟨.numeral phase n, frames⟩

/-- A character that cannot belong to a number ends it. -/
theorem Holds.step_eq (holds : Holds value frames s) {c : Char}
    (ends : isSpace c ∨ c = ',' ∨ c = ']' ∨ c = '\x7d') :
    s.step c = (deliver value frames).step c := by
  cases holds with
  | delivered => rfl
  | @openNumber phase n may_end complete =>
    have listed : c ∈ [' ', '\t', '\n', '\r', ',', ']', '\x7d'] := by
      unfold isSpace at ends
      grind
    have no_digit : ¬ c.isDigit := by
      fin_cases listed <;> decide
    rw [step_deliver]
    simp only [step, continueNumeral, if_neg no_digit]
    fin_cases listed <;> simp [may_end, complete]

/-- White space keeps a property of the state. -/
def KeptBySpaces (P : ReaderState → Prop) : Prop := ∀ s c, isSpace c → P s → P (s.step c)

theorem KeptBySpaces.foldl {P : ReaderState → Prop} (kept : KeptBySpaces P) {blank : List Char}
    (spaces : IsBlank blank) (now : P s) : P (blank.foldl step s) := by
  induction blank generalizing s with
  | nil => exact now
  | cons c rest ih =>
    exact ih (fun d member => spaces d (by simp [member])) (kept s c (spaces c (by simp)) now)

theorem keptBySpaces_holds : KeptBySpaces (Holds value frames) := by
  intro s c space holds
  rw [holds.step_eq (Or.inl space), step_deliver_space space]
  exact .delivered

theorem keptBySpaces_awaits : KeptBySpaces (Awaits · frames) := by
  rintro s c space (rfl | rfl)
  · exact Or.inl (by simp [step, space])
  · exact Or.inr (by simp [step, space])

theorem keptBySpaces_awaitsName : KeptBySpaces (AwaitsName · frames) := by
  rintro s c space (rfl | rfl)
  · exact Or.inl (by simp [step, space])
  · exact Or.inr (by simp [step, space])

end ReaderState

open ReaderState

section Numbers

variable {s : ReaderState} {frames : List Frame} {n : Numeral}

theorem ne_of_isDigit {c d : Char} (digit : c.isDigit) (other : ¬ d.isDigit) : c ≠ d := by
  rintro rfl
  exact other digit

theorem not_isSpace_of_isDigit {c : Char} (digit : c.isDigit) : ¬ isSpace c := by
  intro space
  simp only [isSpace, Bool.or_eq_true, decide_eq_true_eq] at space
  rcases space with ((rfl | rfl) | rfl) | rfl <;> exact absurd digit (by decide)

theorem digit_eq_zero {c : Char} (digit : c.isDigit) (zero : c.toNat - 48 = 0) : c = '0' := by
  have bounds : 48 ≤ c.toNat ∧ c.toNat ≤ 57 := by
    simpa [Char.isDigit, UInt32.le_iff_toNat_le] using digit
  apply Char.toNat_inj.1
  change c.toNat = 48
  omega

theorem startValue_digit {c : Char} (digit : c.isDigit) (nonzero : c ≠ '0') :
    startValue c frames = ⟨.numeral .whole ⟨false, [c.toNat - 48], none, none⟩, frames⟩ := by
  have other {d : Char} (no_digit : ¬ d.isDigit) : c ≠ d := ne_of_isDigit digit no_digit
  simp [startValue, digit, nonzero, other (d := 'n') (by decide), other (d := 't') (by decide),
    other (d := 'f') (by decide), other (d := '"') (by decide), other (d := '-') (by decide)]

theorem step_digit {phase next : NumeralPhase} {c : Char} (digit : c.isDigit)
    (goes_on : phase.afterDigit (c.toNat - 48) = some next) :
    step ⟨.numeral phase n, frames⟩ c =
      ⟨.numeral next (n.pushDigit phase (c.toNat - 48)), frames⟩ := by
  simp only [step, continueNumeral, if_pos digit, goes_on]

/-- A part of a number takes all digits that follow. -/
theorem foldl_step_digits {phase : NumeralPhase}
    (stays : ∀ d, phase.afterDigit d = some phase) {cs : List Char} (digits : ∀ c ∈ cs, c.isDigit) :
    cs.foldl step ⟨.numeral phase n, frames⟩ =
      ⟨.numeral phase ((digitValues cs).foldl (·.pushDigit phase ·) n), frames⟩ := by
  induction cs generalizing n with
  | nil => rfl
  | cons c rest ih =>
    rw [List.forall_mem_cons] at digits
    rw [List.foldl_cons, step_digit digits.1 (stays _), ih digits.2]
    rfl

theorem foldl_pushDigit_whole (ds : List Nat) (n : Numeral) :
    ds.foldl (·.pushDigit .whole ·) n = { n with whole := ds.reverse ++ n.whole } := by
  induction ds generalizing n with
  | nil => rfl
  | cons d rest ih => rw [List.foldl_cons, ih]; simp [Numeral.pushDigit]

theorem foldl_pushDigit_fraction (ds done : List Nat) (n : Numeral) :
    ds.foldl (·.pushDigit .fraction ·) { n with fraction := some done } =
      { n with fraction := some (ds.reverse ++ done) } := by
  induction ds generalizing done with
  | nil => rfl
  | cons d rest ih =>
    rw [List.foldl_cons]
    change rest.foldl _ { n with fraction := some (d :: done) } = _
    rw [ih]
    simp

theorem foldl_pushDigit_exponent (ds done : List Nat) (isNegative : Bool) (n : Numeral) :
    ds.foldl (·.pushDigit .exponent ·) { n with exponent := some (isNegative, done) } =
      { n with exponent := some (isNegative, ds.reverse ++ done) } := by
  induction ds generalizing done with
  | nil => rfl
  | cons d rest ih =>
    rw [List.foldl_cons]
    change rest.foldl _ { n with exponent := some (isNegative, d :: done) } = _
    rw [ih]
    simp

/-- The sign and the digits before the point are read as a number that may end there. -/
theorem foldl_step_whole (awaits : s.Awaits frames) {whole : List Nat} {front : List Char}
    (spells : Numeral.SpellsWhole whole front) :
    ∃ phase, (phase = .zero ∨ phase = .whole) ∧ ∀ negative,
      (Numeral.signText negative ++ front).foldl step s =
        ⟨.numeral phase ⟨negative, whole.reverse, none, none⟩, frames⟩ := by
  have signed : (Numeral.signText true).foldl step s =
      ⟨.numeral .minus ⟨true, [], none, none⟩, frames⟩ :=
    awaits.step_eq (by decide) (by decide)
  cases spells with
  | zero =>
    refine ⟨.zero, Or.inl rfl, fun negative => ?_⟩
    cases negative with
    | false => exact awaits.step_eq (by decide) (by decide)
    | true =>
      rw [List.foldl_append, signed]
      rfl
  | @digits c rest first nonzero digits =>
    refine ⟨.whole, Or.inr rfl, fun negative => ?_⟩
    have stays (d : Nat) : NumeralPhase.whole.afterDigit d = some .whole := rfl
    have opened : (Numeral.signText negative ++ [c]).foldl step s =
        ⟨.numeral .whole ⟨negative, [c.toNat - 48], none, none⟩, frames⟩ := by
      cases negative with
      | false =>
        exact (awaits.step_eq (not_isSpace_of_isDigit first)
          (ne_of_isDigit first (by decide))).trans (startValue_digit first nonzero)
      | true =>
        have goes_on : NumeralPhase.minus.afterDigit (c.toNat - 48) = some .whole := by
          simp [NumeralPhase.afterDigit, mt (digit_eq_zero first) nonzero]
        rw [List.foldl_append, signed]
        exact step_digit first goes_on
    rw [List.append_cons, List.foldl_append, opened, foldl_step_digits stays digits,
      foldl_pushDigit_whole]
    simp [digitValues]

/-- A point and the digits after it, if there are any, are read on behind the digits before it. -/
theorem foldl_step_fraction {phase : NumeralPhase} (now : s = ⟨.numeral phase n, frames⟩)
    (whole : phase = .zero ∨ phase = .whole) (none_yet : n.fraction = none)
    {fraction : Option (List Nat)} {middle : List Char}
    (spells : Numeral.SpellsFraction fraction middle) :
    ∃ next, (next = .zero ∨ next = .whole ∨ next = .fraction) ∧ middle.foldl step s =
      ⟨.numeral next { n with fraction := fraction.map List.reverse }, frames⟩ := by
  subst now
  cases spells with
  | absent =>
    refine ⟨phase, whole.imp_right Or.inl, ?_⟩
    rw [Option.map_none, ← none_yet]
    rfl
  | @digits cs digits =>
    refine ⟨.fraction, Or.inr (Or.inr rfl), ?_⟩
    have pointed : step ⟨.numeral phase n, frames⟩ '.' = ⟨.numeral .point n, frames⟩ := by
      rcases whole with rfl | rfl <;> rfl
    obtain ⟨c, rest, rfl⟩ := List.exists_cons_of_ne_nil digits.nonempty
    have all_digits := List.forall_mem_cons.1 digits.digits
    have first : step ⟨.numeral .point n, frames⟩ c =
        ⟨.numeral .fraction { n with fraction := some [c.toNat - 48] }, frames⟩ := by
      rw [step_digit all_digits.1 rfl]
      simp [Numeral.pushDigit, none_yet]
    rw [List.foldl_cons, List.foldl_cons, pointed, first,
      foldl_step_digits (fun _ => rfl) all_digits.2, foldl_pushDigit_fraction]
    simp [digitValues]

/-- An exponent, if there is one, is read on behind the digits, and the number may end after it. -/
theorem foldl_step_exponent {phase : NumeralPhase} (now : s = ⟨.numeral phase n, frames⟩)
    (before : phase = .zero ∨ phase = .whole ∨ phase = .fraction) (none_yet : n.exponent = none)
    {exponent : Option (Bool × List Nat)} {back : List Char}
    (spells : Numeral.SpellsExponent exponent back) :
    ∃ next : NumeralPhase, next.mayEnd ∧ back.foldl step s =
      ⟨.numeral next { n with exponent := exponent.map fun (isNegative, digits) =>
        (isNegative, digits.reverse) }, frames⟩ := by
  subst now
  cases spells with
  | absent =>
    refine ⟨phase, by rcases before with rfl | rfl | rfl <;> rfl, ?_⟩
    rw [Option.map_none, ← none_yet]
    rfl
  | @digits mark isNegative sign cs isMark signed digits =>
    refine ⟨.exponent, rfl, ?_⟩
    have marked : step ⟨.numeral phase n, frames⟩ mark = ⟨.numeral .exponentMark n, frames⟩ := by
      rcases before with rfl | rfl | rfl <;> rcases isMark with rfl | rfl <;> rfl
    obtain ⟨c, rest, rfl⟩ := List.exists_cons_of_ne_nil digits.nonempty
    have all_digits := List.forall_mem_cons.1 digits.digits
    have first : (sign ++ [c]).foldl step ⟨.numeral .exponentMark n, frames⟩ =
        ⟨.numeral .exponent { n with exponent := some (isNegative, [c.toNat - 48]) }, frames⟩ := by
      rw [List.foldl_append]
      cases signed with
      | none =>
        refine (step_digit all_digits.1 rfl).trans ?_
        simp [Numeral.pushDigit, none_yet]
      | plus =>
        change step ⟨.numeral .exponentSign { n with exponent := some (false, []) }, frames⟩ c = _
        rw [step_digit all_digits.1 rfl]
        rfl
      | minus =>
        change step ⟨.numeral .exponentSign { n with exponent := some (true, []) }, frames⟩ c = _
        rw [step_digit all_digits.1 rfl]
        rfl
    rw [List.cons_append, List.foldl_cons, marked, List.append_cons, List.foldl_append, first,
      foldl_step_digits (fun _ => rfl) all_digits.2, foldl_pushDigit_exponent]
    simp [digitValues]

/-- A number that is spelled has been read, and may go on. -/
theorem holds_number (awaits : s.Awaits frames) {cs : List Char} (spells : n.Spells cs) :
    Holds (.number n) frames (cs.foldl step s) := by
  obtain @⟨negative, whole, fraction, exponent, front, middle, back, spells_whole,
    spells_fraction, spells_exponent⟩ := spells
  obtain ⟨phase, is_whole, read_whole⟩ := foldl_step_whole awaits spells_whole
  obtain ⟨next, before, read_fraction⟩ :=
    foldl_step_fraction (read_whole negative) is_whole rfl spells_fraction
  obtain ⟨last, may_end, read_exponent⟩ :=
    foldl_step_exponent read_fraction before rfl spells_exponent
  rw [List.foldl_append, List.foldl_append, read_exponent]
  refine .openNumber may_end ?_
  cases fraction <;> cases exponent <;> simp [Numeral.complete]

end Numbers

section Strings

variable {s : ReaderState} {frames : List Frame} {role : StringRole} {string string' : StringState}

theorem utf8Size_of_hexValue? {c : Char} {d : Nat} (hexadecimal : hexValue? c = some d) :
    c.utf8Size = 1 := by
  have small : c ≤ 'f' := by
    unfold hexValue? at hexadecimal
    split at hexadecimal
    · next digit =>
      simp only [Char.isDigit, Bool.and_eq_true, decide_eq_true_eq] at digit
      exact UInt32.le_trans digit.2 (by decide)
    · split at hexadecimal
      · next letter => exact letter.2
      · split at hexadecimal
        · next letter => exact Char.le_trans letter.2 (by decide)
        · cases hexadecimal
  rw [Char.utf8Size_eq_one_iff]
  exact UInt32.le_trans small (by decide)

theorem phase_add (string : StringState) (piece : Piece) : (string.add piece).phase = .plain := by
  cases piece with
  | char c => rfl
  | code n =>
    simp only [StringState.add, StringState.pushCode]
    split <;> split <;> first | rfl | split <;> rfl

/-- A piece of a string is read as what it spells. -/
theorem foldl_step_piece (plain : string.phase = .plain) {piece : Piece} {cs : List Char}
    (spells : piece.Spells cs) :
    cs.foldl step ⟨.string role string, frames⟩ = ⟨.string role (string.add piece), frames⟩ := by
  have escaped : step ⟨.string role string, frames⟩ '\\' =
      ⟨.string role { string with phase := .escape }, frames⟩ := by
    simp [step, continueString, plain]
  cases spells with
  | @plain c not_quote not_backslash printable =>
    simp [step, continueString, plain, not_quote, not_backslash, Nat.not_lt.2 printable,
      StringState.add]
  | @escape c d names =>
    have no_code : c ≠ 'u' := by
      rintro rfl
      cases names
    rw [List.foldl_cons, escaped]
    simp [step, continueString, no_code, names, StringState.add, StringState.push]
  | code first second third fourth =>
    rw [List.foldl_cons, escaped]
    simp [step, continueString, utf8Size_of_hexValue? first, utf8Size_of_hexValue? second,
      utf8Size_of_hexValue? third, utf8Size_of_hexValue? fourth, first, second, third, fourth,
      StringState.add, StringState.pushCode]

/-- The inside of a string is read as what it spells. -/
theorem foldl_step_inside {cs : List Char} (spells : string.Spells string' cs)
    (plain : string.phase = .plain) :
    cs.foldl step ⟨.string role string, frames⟩ = ⟨.string role string', frames⟩ ∧
      string'.phase = .plain := by
  induction spells with
  | empty => exact ⟨rfl, plain⟩
  | @piece before cs pieceText piece front spells ih =>
    rw [List.foldl_append, ih.1]
    exact ⟨foldl_step_piece ih.2 spells, phase_add before piece⟩

/-- A string is handed over at its closing quote. -/
theorem foldl_step_literal (opens : s.step '"' = ⟨.string role {}, frames⟩) {content : Literal}
    {cs : List Char} (spells : content.Spells cs) :
    cs.foldl step s = deliverString role content frames := by
  cases spells with
  | @quoted string cs inside =>
    obtain ⟨read, plain⟩ := foldl_step_inside inside rfl
    have whole : ('"' :: cs).foldl step s = ⟨.string role string, frames⟩ := by
      rw [List.foldl_cons, opens, read]
    rw [List.foldl_append, whole]
    simp [step, continueString, plain]

end Strings

section Values

variable {s : ReaderState} {frames : List Frame}

/-- Where a value may start, these characters are read as the value. -/
def ReadsAs (cs : List Char) (value : Excerpt) : Prop :=
  ∀ {s frames}, Awaits s frames → Holds value frames (cs.foldl step s)

/-- Further items of a list are read one after another. -/
theorem foldl_step_items {rest : List (Excerpt × List Char)}
    (each : ∀ item ∈ rest, ReadsAs item.2 item.1) {value : Excerpt} {done : List Excerpt}
    (holds : Holds value (.list done :: frames) s) :
    ∃ last before, Holds last (.list before :: frames)
        ((commaTexts (rest.map Prod.snd)).foldl step s) ∧
      last :: before = (rest.map Prod.fst).reverse ++ value :: done := by
  induction rest generalizing s value done with
  | nil => exact ⟨value, done, holds, rfl⟩
  | cons item rest ih =>
    rw [List.forall_mem_cons] at each
    have next : s.step ',' = ⟨.value, .list (value :: done) :: frames⟩ :=
      holds.step_eq (Or.inr (Or.inl rfl))
    obtain ⟨last, before, read, all⟩ := ih each.2 (each.1 (Or.inl next))
    refine ⟨last, before, ?_, by simp [all]⟩
    simpa [commaTexts] using read

/-- A name and its colon lead to the value of the member. -/
theorem foldl_step_name {done : List (Literal × Excerpt)}
    (awaits : s.AwaitsName (.object done none :: frames)) {name : Literal} {cs : List Char}
    (spells : SpellsName name cs) :
    (cs ++ [':']).foldl step s = ⟨.value, .object done (some name) :: frames⟩ := by
  obtain @⟨before, quoted, after, blank_before, spells, blank_after⟩ := spells
  have named : quoted.foldl step (before.foldl step s) =
      ⟨.colon, .object done (some name) :: frames⟩ := by
    rcases keptBySpaces_awaitsName.foldl blank_before awaits with first | next
    · have opens : step (before.foldl step s) '"' =
          ⟨.string (.name true) {}, .object done none :: frames⟩ := by
        rw [first]
        rfl
      exact foldl_step_literal opens spells
    · have opens : step (before.foldl step s) '"' =
          ⟨.string (.name false) {}, .object done none :: frames⟩ := by
        rw [next]
        rfl
      exact foldl_step_literal opens spells
  have kept : KeptBySpaces (· = ⟨.colon, .object done (some name) :: frames⟩) := by
    rintro s c space rfl
    simp [step, space]
  simp only [List.foldl_append, named, kept.foldl blank_after rfl]
  rfl

/-- Further members of an object are read one after another. -/
theorem foldl_step_members {rest : List SpelledMember}
    (names : ∀ m ∈ rest, SpellsName m.name m.nameText)
    (each : ∀ m ∈ rest, ReadsAs m.valueText m.value) {value : Excerpt} {name : Literal}
    {done : List (Literal × Excerpt)} (holds : Holds value (.object done (some name) :: frames) s) :
    ∃ last key before, Holds last (.object before (some key) :: frames)
        ((commaTexts (rest.map SpelledMember.text)).foldl step s) ∧
      (key, last) :: before =
        (rest.map SpelledMember.member).reverse ++ (name, value) :: done := by
  induction rest generalizing s value name done with
  | nil => exact ⟨value, name, done, holds, rfl⟩
  | cons m rest ih =>
    rw [List.forall_mem_cons] at names each
    have next : s.step ',' = ⟨.nextName, .object ((name, value) :: done) none :: frames⟩ :=
      holds.step_eq (Or.inr (Or.inl rfl))
    have named := foldl_step_name (Or.inr next) names.1
    obtain ⟨last, key, before, read, all⟩ := ih names.2 each.2 (each.1 (Or.inl named))
    refine ⟨last, key, before, ?_, by simp [all, SpelledMember.member]⟩
    simpa [commaTexts, SpelledMember.text] using read

theorem readsAs_emptyList {blank : List Char} (is_blank : IsBlank blank) :
    ReadsAs ('[' :: blank ++ [']']) (.list [] none) := by
  intro s frames awaits
  have opened : s.step '[' = ⟨.firstItem, .list [] :: frames⟩ :=
    awaits.step_eq (by decide) (by decide)
  have kept : KeptBySpaces (· = ⟨.firstItem, .list [] :: frames⟩) := by
    rintro s c space rfl
    simp [step, space]
  simp only [List.foldl_append, List.foldl_cons, List.foldl_nil, kept.foldl is_blank opened]
  exact .delivered

/-- A list is read as its items are. -/
theorem readsAs_list {first : Excerpt × List Char} {rest : List (Excerpt × List Char)}
    (each : ∀ item ∈ first :: rest, ReadsAs item.2 item.1) :
    ReadsAs ('[' :: first.2 ++ commaTexts (rest.map Prod.snd) ++ [']'])
      (.list ((first :: rest).map Prod.fst) none) := by
  intro s frames awaits
  rw [List.forall_mem_cons] at each
  have opened : s.step '[' = ⟨.firstItem, .list [] :: frames⟩ :=
    awaits.step_eq (by decide) (by decide)
  obtain ⟨last, before, read, all⟩ := foldl_step_items each.2 (each.1 (Or.inr opened))
  have closed : step (deliver last (.list before :: frames)) ']' =
      deliver (.list (last :: before).reverse none) frames := rfl
  simp only [List.foldl_append, List.foldl_cons, List.foldl_nil,
    read.step_eq (Or.inr (Or.inr (Or.inl rfl))), closed, all]
  simpa using Holds.delivered

theorem readsAs_emptyObject {blank : List Char} (is_blank : IsBlank blank) :
    ReadsAs ('\x7b' :: blank ++ ['\x7d']) (.object [] none) := by
  intro s frames awaits
  have opened : s.step '\x7b' = ⟨.firstName, .object [] none :: frames⟩ :=
    awaits.step_eq (by decide) (by decide)
  have kept : KeptBySpaces (· = ⟨.firstName, .object [] none :: frames⟩) := by
    rintro s c space rfl
    simp [step, space]
  simp only [List.foldl_append, List.foldl_cons, List.foldl_nil, kept.foldl is_blank opened]
  exact .delivered

/-- An object is read as its members are. -/
theorem readsAs_object {first : SpelledMember} {rest : List SpelledMember}
    (names : ∀ m ∈ first :: rest, SpellsName m.name m.nameText)
    (each : ∀ m ∈ first :: rest, ReadsAs m.valueText m.value) :
    ReadsAs ('\x7b' :: first.text ++ commaTexts (rest.map SpelledMember.text) ++ ['\x7d'])
      (.object ((first :: rest).map SpelledMember.member) none) := by
  intro s frames awaits
  rw [List.forall_mem_cons] at names each
  have opened : s.step '\x7b' = ⟨.firstName, .object [] none :: frames⟩ :=
    awaits.step_eq (by decide) (by decide)
  have named := foldl_step_name (Or.inl opened) names.1
  obtain ⟨last, key, before, read, all⟩ :=
    foldl_step_members names.2 each.2 (each.1 (Or.inl named))
  have closed : step (deliver last (.object before (some key) :: frames)) '\x7d' =
      deliver (.object ((key, last) :: before).reverse none) frames := rfl
  have first_text : ('\x7b' :: first.text).foldl step s =
      first.valueText.foldl step ((first.nameText ++ [':']).foldl step (s.step '\x7b')) := by
    simp [SpelledMember.text]
  rw [List.foldl_append, List.foldl_append, first_text, List.foldl_cons, List.foldl_nil,
    read.step_eq (Or.inr (Or.inr (Or.inr rfl))), closed, all]
  simpa [SpelledMember.member] using Holds.delivered

/-- Where a value may start, a text that spells it is read as it. -/
theorem readsAs_of_spells {e : Excerpt} {cs : List Char} (spells : e.Spells cs) :
    ReadsAs cs e := by
  induction spells with
  | spaceBefore space _ ih =>
    exact fun awaits => ih (keptBySpaces_awaits _ _ space awaits)
  | spaceAfter space _ ih =>
    intro s frames awaits
    rw [List.foldl_append]
    exact keptBySpaces_holds _ _ space (ih awaits)
  | nullWord | trueWord | falseWord =>
    intro s frames awaits
    rw [List.foldl_cons, awaits.step_eq (by decide) (by decide)]
    exact .delivered
  | number spells => exact fun awaits => holds_number awaits spells
  | text spells =>
    intro s frames awaits
    rw [foldl_step_literal (awaits.step_eq (by decide) (by decide)) spells]
    exact .delivered
  | emptyList blank_inside => exact readsAs_emptyList blank_inside
  | list _ _ _ ih => exact readsAs_list ih
  | emptyObject blank_inside => exact readsAs_emptyObject blank_inside
  | object _ _ names _ ih => exact readsAs_object names ih

/-- A text that spells a value is read as this value, and nothing is left over. -/
theorem ofText_of_spells {e : Excerpt} {text : String} (spells : e.Spells text.toList) :
    Document.ofText text = ⟨e, false⟩ := by
  have holds : Holds e [] (text.toList.foldl step start) := readsAs_of_spells spells (Or.inl rfl)
  unfold Document.ofText
  generalize text.toList.foldl step start = s at holds ⊢
  cases holds with
  | delivered => rfl
  | openNumber may_end complete => simp [finish, may_end, complete, deliver, finishBetween]

end Values

end StorageLayout.Json
