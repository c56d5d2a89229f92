import StorageLayout.Proofs.Json.Acceptance

/-!
# Texts that are read as a whole are JSON

After every character the state of the reader tells how the text so far is spelled: which lists and
objects are open, with their finished items, and what is under way inside the innermost one. Where
reading has stopped, or stops too early, something is missing of the value. So a whole value is
read only of a text that spells it.
-/
namespace StorageLayout.Json

open ReaderState

section Numbers

variable {phase : NumeralPhase} {n : Numeral} {cs : List Char} {c : Char}

/-- How a number that is under way is spelled so far, for each phase. -/
inductive NumeralPhase.SoFar : NumeralPhase → Numeral → List Char → Prop
  | minus : SoFar .minus ⟨true, [], none, none⟩ ['-']
  | zero (negative : Bool) :
      SoFar .zero ⟨negative, [0], none, none⟩ (Numeral.signText negative ++ ['0'])
  | whole (negative : Bool) {c : Char} {rest : List Char} (first : c.isDigit) (nonzero : c ≠ '0')
      (digits : ∀ d ∈ rest, d.isDigit) :
      SoFar .whole ⟨negative, (digitValues (c :: rest)).reverse, none, none⟩
        (Numeral.signText negative ++ c :: rest)
  | point (negative : Bool) {whole : List Nat} {front : List Char}
      (spells_whole : Numeral.SpellsWhole whole front) :
      SoFar .point ⟨negative, whole.reverse, none, none⟩
        (Numeral.signText negative ++ front ++ ['.'])
  | fraction (negative : Bool) {whole : List Nat} {front cs : List Char}
      (spells_whole : Numeral.SpellsWhole whole front) (digits : IsDigits cs) :
      SoFar .fraction ⟨negative, whole.reverse, some (digitValues cs).reverse, none⟩
        (Numeral.signText negative ++ front ++ '.' :: cs)
  | exponentMark (negative : Bool) {whole : List Nat} {fraction : Option (List Nat)}
      {front middle : List Char} {mark : Char} (spells_whole : Numeral.SpellsWhole whole front)
      (spells_fraction : Numeral.SpellsFraction fraction middle)
      (isMark : mark = 'e' ∨ mark = 'E') :
      SoFar .exponentMark ⟨negative, whole.reverse, fraction.map List.reverse, none⟩
        (Numeral.signText negative ++ front ++ middle ++ [mark])
  | exponentSign (negative : Bool) {isNegative : Bool} {whole : List Nat}
      {fraction : Option (List Nat)} {front middle sign : List Char} {mark : Char}
      (spells_whole : Numeral.SpellsWhole whole front)
      (spells_fraction : Numeral.SpellsFraction fraction middle)
      (isMark : mark = 'e' ∨ mark = 'E') (signed : Numeral.SpellsSign isNegative sign) :
      SoFar .exponentSign
        ⟨negative, whole.reverse, fraction.map List.reverse, some (isNegative, [])⟩
        (Numeral.signText negative ++ front ++ middle ++ mark :: sign)
  | exponent (negative : Bool) {isNegative : Bool} {whole : List Nat}
      {fraction : Option (List Nat)}
      {front middle sign cs : List Char} {mark : Char}
      (spells_whole : Numeral.SpellsWhole whole front)
      (spells_fraction : Numeral.SpellsFraction fraction middle)
      (isMark : mark = 'e' ∨ mark = 'E') (signed : Numeral.SpellsSign isNegative sign)
      (digits : IsDigits cs) :
      SoFar .exponent
        ⟨negative, whole.reverse, fraction.map List.reverse,
          some (isNegative, (digitValues cs).reverse)⟩
        (Numeral.signText negative ++ front ++ middle ++ mark :: sign ++ cs)

theorem IsDigits.concat (digits : IsDigits cs) (digit : c.isDigit) : IsDigits (cs ++ [c]) := by
  refine ⟨by simp, fun d listed => ?_⟩
  rcases List.mem_append.1 listed with listed | listed
  · exact digits.digits d listed
  · rwa [List.mem_singleton.1 listed]

theorem isDigits_singleton (digit : c.isDigit) : IsDigits [c] :=
  ⟨by simp, by simpa using digit⟩

/-- A number that may end is spelled. -/
theorem NumeralPhase.SoFar.exists_number (spells : phase.SoFar n cs) (may_end : phase.mayEnd) :
    ∃ number : Numeral, n.complete = .number number ∧ number.Spells cs := by
  cases spells with
  | minus | point | exponentMark | exponentSign => cases may_end
  | @zero negative =>
    refine ⟨⟨negative, [0], none, none⟩, rfl, ?_⟩
    simpa using Numeral.Spells.parts negative .zero .absent .absent
  | @whole negative c rest first nonzero digits =>
    refine ⟨⟨negative, digitValues (c :: rest), none, none⟩, by simp [Numeral.complete], ?_⟩
    simpa using Numeral.Spells.parts negative (.digits first nonzero digits) .absent .absent
  | @fraction negative whole front cs spells_whole digits =>
    refine ⟨⟨negative, whole, some (digitValues cs), none⟩, by simp [Numeral.complete], ?_⟩
    simpa using Numeral.Spells.parts negative spells_whole (.digits digits) .absent
  | @exponent negative isNegative whole fraction front middle sign cs mark spells_whole
      spells_fraction isMark signed digits =>
    refine ⟨⟨negative, whole, fraction, some (isNegative, digitValues cs)⟩, ?_, ?_⟩
    · cases fraction <;> simp [Numeral.complete]
    · simpa using
        Numeral.Spells.parts negative spells_whole spells_fraction (.digits isMark signed digits)

theorem digitValues_concat (cs : List Char) (c : Char) :
    (digitValues (cs ++ [c])).reverse = (c.toNat - 48) :: (digitValues cs).reverse := by
  simp [digitValues]

/-- One more digit, where one may follow, is spelled too. -/
theorem NumeralPhase.SoFar.digit (spells : phase.SoFar n cs) (digit : c.isDigit)
    {next : NumeralPhase} (goes_on : phase.afterDigit (c.toNat - 48) = some next) :
    next.SoFar (n.pushDigit phase (c.toNat - 48)) (cs ++ [c]) := by
  have last := isDigits_singleton digit
  cases spells with
  | minus =>
    by_cases zero : c = '0'
    · subst zero
      obtain rfl := Option.some.inj goes_on
      exact .zero true
    · have goes_on' : NumeralPhase.minus.afterDigit (c.toNat - 48) = some .whole := by
        simp [NumeralPhase.afterDigit, mt (digit_eq_zero digit) zero]
      obtain rfl := Option.some.inj (goes_on'.symm.trans goes_on)
      have no_more : ∀ d ∈ ([] : List Char), d.isDigit := by simp
      exact .whole true digit zero no_more
  | zero => cases goes_on
  | @whole negative d rest first nonzero digits =>
    obtain rfl := Option.some.inj goes_on
    have grown := (IsDigits.concat ⟨by simp, List.forall_mem_cons.2 ⟨first, digits⟩⟩ digit).digits
    rw [List.cons_append, List.forall_mem_cons] at grown
    have spells := NumeralPhase.SoFar.whole negative first nonzero grown.2
    rw [← List.cons_append, digitValues_concat] at spells
    simpa [Numeral.pushDigit] using spells
  | point negative spells_whole =>
    obtain rfl := Option.some.inj goes_on
    simpa [Numeral.pushDigit, digitValues] using
      NumeralPhase.SoFar.fraction negative spells_whole last
  | fraction negative spells_whole digits =>
    obtain rfl := Option.some.inj goes_on
    have spells := NumeralPhase.SoFar.fraction negative spells_whole (digits.concat digit)
    rw [digitValues_concat] at spells
    simpa [Numeral.pushDigit] using spells
  | exponentMark negative spells_whole spells_fraction isMark =>
    obtain rfl := Option.some.inj goes_on
    simpa [Numeral.pushDigit, digitValues] using
      NumeralPhase.SoFar.exponent negative spells_whole spells_fraction isMark .none last
  | exponentSign negative spells_whole spells_fraction isMark signed =>
    obtain rfl := Option.some.inj goes_on
    simpa [Numeral.pushDigit, digitValues] using
      NumeralPhase.SoFar.exponent negative spells_whole spells_fraction isMark signed last
  | exponent negative spells_whole spells_fraction isMark signed digits =>
    obtain rfl := Option.some.inj goes_on
    have spells := NumeralPhase.SoFar.exponent negative spells_whole spells_fraction isMark signed
      (digits.concat digit)
    rw [digitValues_concat] at spells
    simpa [Numeral.pushDigit] using spells

theorem NumeralPhase.SoFar.exists_whole (spells : phase.SoFar n cs)
    (whole : phase = .zero ∨ phase = .whole) :
    ∃ negative whole front, n = ⟨negative, List.reverse whole, none, none⟩ ∧
      cs = Numeral.signText negative ++ front ∧ Numeral.SpellsWhole whole front := by
  cases spells with
  | zero negative => exact ⟨negative, [0], ['0'], rfl, rfl, .zero⟩
  | whole negative first nonzero digits =>
    exact ⟨negative, _, _, rfl, rfl, .digits first nonzero digits⟩
  | minus | point | fraction | exponentMark | exponentSign | exponent => simp at whole

theorem NumeralPhase.SoFar.exists_fraction (spells : phase.SoFar n cs)
    (before : phase = .zero ∨ phase = .whole ∨ phase = .fraction) :
    ∃ negative whole fraction front middle,
      n = ⟨negative, List.reverse whole, Option.map List.reverse fraction, none⟩ ∧
      cs = Numeral.signText negative ++ front ++ middle ∧
      Numeral.SpellsWhole whole front ∧ Numeral.SpellsFraction fraction middle := by
  rw [← or_assoc] at before
  rcases before with whole | rfl
  · obtain ⟨negative, whole, front, rfl, rfl, spells_whole⟩ := spells.exists_whole whole
    exact ⟨negative, whole, none, front, [], rfl, by simp, spells_whole, .absent⟩
  · cases spells with
    | fraction negative spells_whole digits =>
      exact ⟨negative, _, some _, _, _, rfl, rfl, spells_whole, .digits digits⟩

theorem NumeralPhase.SoFar.point_of_whole (spells : phase.SoFar n cs)
    (whole : phase = .zero ∨ phase = .whole) : NumeralPhase.point.SoFar n (cs ++ ['.']) := by
  obtain ⟨negative, whole, front, rfl, rfl, spells_whole⟩ := spells.exists_whole whole
  exact .point negative spells_whole

theorem NumeralPhase.SoFar.exponentMark_of_fraction (spells : phase.SoFar n cs)
    (before : phase = .zero ∨ phase = .whole ∨ phase = .fraction) {mark : Char}
    (isMark : mark = 'e' ∨ mark = 'E') : NumeralPhase.exponentMark.SoFar n (cs ++ [mark]) := by
  obtain ⟨negative, whole, fraction, front, middle, rfl, rfl, spells_whole, spells_fraction⟩ :=
    spells.exists_fraction before
  exact .exponentMark negative spells_whole spells_fraction isMark

theorem NumeralPhase.SoFar.exponentSign_of_mark (spells : NumeralPhase.exponentMark.SoFar n cs)
    {isNegative : Bool} {sign : Char} (signed : Numeral.SpellsSign isNegative [sign]) :
    NumeralPhase.exponentSign.SoFar { n with exponent := some (isNegative, []) }
      (cs ++ [sign]) := by
  cases spells with
  | exponentMark negative spells_whole spells_fraction isMark =>
    simpa using NumeralPhase.SoFar.exponentSign negative spells_whole spells_fraction isMark signed

/-- What a character makes of a number: it goes on, it is over, or reading stops. -/
theorem NumeralPhase.SoFar.continueNumeral (spells : phase.SoFar n cs) (c : Char)
    (frames : List Frame) :
    (∃ next n', continueNumeral phase n c frames = ⟨.numeral next n', frames⟩ ∧
      next.SoFar n' (cs ++ [c])) ∨
    (phase.mayEnd ∧ continueNumeral phase n c frames = afterValue (deliver n.complete frames) c) ∨
    continueNumeral phase n c frames = stopInValue frames := by
  by_cases digit : c.isDigit
  · simp only [ReaderState.continueNumeral, if_pos digit]
    cases goes_on : phase.afterDigit (c.toNat - 48) with
    | none => exact Or.inr (Or.inr rfl)
    | some next => exact Or.inl ⟨next, _, rfl, spells.digit digit goes_on⟩
  · simp only [ReaderState.continueNumeral, if_neg digit]
    split
    iterate 2 exact Or.inl ⟨_, _, rfl, spells.point_of_whole (by simp)⟩
    iterate 6 exact Or.inl ⟨_, _, rfl, spells.exponentMark_of_fraction (by simp) (by simp)⟩
    · exact Or.inl ⟨_, _, rfl, spells.exponentSign_of_mark .plus⟩
    · exact Or.inl ⟨_, _, rfl, spells.exponentSign_of_mark .minus⟩
    · split
      · next may_end => exact Or.inr (Or.inl ⟨may_end, rfl⟩)
      · exact Or.inr (Or.inr rfl)

end Numbers

section Strings

variable {string : StringState} {cs : List Char}

/-- Hexadecimal digits, how many they are and the number that they spell. -/
inductive HexDigits : Nat → Nat → List Char → Prop
  | none : HexDigits 0 0 []
  | digit {count n d : Nat} {cs : List Char} {c : Char} (front : HexDigits count n cs)
      (hexadecimal : hexValue? c = some d) : HexDigits (count + 1) (16 * n + d) (cs ++ [c])

theorem HexDigits.spells_code {n : Nat} (digits : HexDigits 4 n cs) :
    (Piece.code n).Spells ('\\' :: 'u' :: cs) := by
  obtain _ | ⟨digits, fourth⟩ := digits
  obtain _ | ⟨digits, third⟩ := digits
  obtain _ | ⟨digits, second⟩ := digits
  obtain _ | ⟨digits, first⟩ := digits
  cases digits
  simpa using Piece.Spells.code first second third fourth

/-- How a string that is under way is spelled so far, without the quote in front. -/
inductive StringState.SoFar : StringState → List Char → Prop
  | plain {s : StringState} {cs : List Char} (inside : StringState.Spells {} s cs) : SoFar s cs
  | escape {s : StringState} {cs : List Char} (inside : StringState.Spells {} s cs) :
      SoFar { s with phase := .escape } (cs ++ ['\\'])
  | code {s : StringState} {cs hex : List Char} {count n : Nat}
      (inside : StringState.Spells {} s cs) (digits : HexDigits count n hex) (short : count < 4) :
      SoFar { s with phase := .code count (some n) } (cs ++ '\\' :: 'u' :: hex)
  /-- Something else than a hexadecimal digit has been found in a code. -/
  | lost {s : StringState} {cs : List Char} {bytes : Nat} :
      SoFar { s with phase := .code bytes none } cs

theorem phase_of_spells {s : StringState} (spells : StringState.Spells {} s cs) :
    s.phase = .plain := by
  cases spells with
  | empty => rfl
  | @piece before _ _ piece => exact phase_add before piece

/-- What a character makes of a string: it goes on, it is over, or reading stops. -/
theorem StringState.SoFar.continueString (soFar : string.SoFar cs) (role : StringRole) (c : Char)
    (frames : List Frame) :
    (∃ next : StringState, continueString role string c frames = ⟨.string role next, frames⟩ ∧
      next.SoFar (cs ++ [c])) ∨
    (Literal.Spells string.literal ('"' :: cs ++ [c]) ∧
      continueString role string c frames = deliverString role string.literal frames) ∨
    continueString role string c frames = stopInString role frames := by
  cases soFar with
  | plain inside =>
    simp only [ReaderState.continueString, phase_of_spells inside]
    split
    · next quote =>
      subst quote
      exact Or.inr (Or.inl ⟨.quoted inside, rfl⟩)
    · next not_quote =>
      split
      · next backslash =>
        subst backslash
        exact Or.inl ⟨_, rfl, .escape inside⟩
      · next not_backslash =>
        split
        · exact Or.inr (Or.inr rfl)
        · next printable =>
          have spells := Piece.Spells.plain not_quote not_backslash (Nat.not_lt.1 printable)
          exact Or.inl ⟨_, rfl, .plain (inside.piece spells)⟩
  | @escape s cs inside =>
    simp only [ReaderState.continueString]
    split
    · next code =>
      subst code
      refine Or.inl ⟨_, rfl, ?_⟩
      simpa using StringState.SoFar.code inside .none (by decide)
    · cases names : unescaped? c with
      | none => exact Or.inr (Or.inr rfl)
      | some d =>
        refine Or.inl ⟨_, rfl, ?_⟩
        rw [List.append_assoc]
        exact .plain (inside.piece (.escape names))
  | @code s cs hex count n inside digits short =>
    simp only [ReaderState.continueString]
    cases hexadecimal : hexValue? c with
    | none =>
      simp only [Option.map_none, Option.bind_some]
      split
      · exact Or.inl ⟨_, rfl, .lost⟩
      · exact Or.inr (Or.inr rfl)
    | some d =>
      have grown := digits.digit hexadecimal
      simp only [utf8Size_of_hexValue? hexadecimal, Option.map_some, Option.bind_some]
      split
      · next short =>
        refine Or.inl ⟨_, rfl, ?_⟩
        simpa using StringState.SoFar.code inside grown short
      · next full =>
        obtain rfl : count = 3 := by omega
        refine Or.inl ⟨_, rfl, ?_⟩
        rw [List.append_assoc]
        exact .plain (inside.piece grown.spells_code)
  | @lost s cs bytes =>
    simp only [ReaderState.continueString, Option.bind_none]
    split
    · exact Or.inl ⟨_, rfl, .lost⟩
    · exact Or.inr (Or.inr rfl)

end Strings

section Frames

variable {frames : List Frame} {e : Excerpt} {before cs : List Char} {c : Char}

/-- Texts with a comma after each. -/
def textsComma (texts : List (List Char)) : List Char := texts.flatMap (· ++ [','])

theorem comma_textsComma (texts : List (List Char)) (last : List Char) :
    ',' :: (textsComma texts ++ last) = commaTexts (texts ++ [last]) := by
  induction texts with
  | nil => simp [textsComma, commaTexts]
  | cons text rest ih =>
    simp only [commaTexts, textsComma, List.cons_append, List.flatMap_cons, List.append_assoc,
      List.nil_append] at ih ⊢
    rw [ih]

/-- A list is spelled by its items with a comma after each but the last. -/
theorem Excerpt.Spells.closedList {items : List (Excerpt × List Char)} {last : List Char}
    (each : ∀ item ∈ items, item.1.Spells item.2) (spells : e.Spells last) :
    (Excerpt.list (items.map Prod.fst ++ [e]) none).Spells
      ('[' :: textsComma (items.map Prod.snd) ++ last ++ [']']) := by
  cases items with
  | nil =>
    have only : ∀ item ∈ [(e, last)], item.1.Spells item.2 := by simpa using spells
    simpa [textsComma, commaTexts] using Excerpt.Spells.list (e, last) [] only
  | cons first rest =>
    have all : ∀ item ∈ first :: (rest ++ [(e, last)]), item.1.Spells item.2 := by
      rw [← List.cons_append, List.forall_mem_append]
      exact ⟨each, by simpa using spells⟩
    have shifted := comma_textsComma (rest.map Prod.snd) last
    have spelled := Excerpt.Spells.list first (rest ++ [(e, last)]) all
    rw [List.map_append, List.map_singleton, ← shifted] at spelled
    simpa [textsComma] using spelled

/-- An object is spelled by its members with a comma after each but the last. -/
theorem Excerpt.Spells.closedObject {members : List SpelledMember} {name : Literal}
    {nameText last : List Char} (names : ∀ m ∈ members, SpellsName m.name m.nameText)
    (each : ∀ m ∈ members, m.value.Spells m.valueText) (spells_name : SpellsName name nameText)
    (spells : e.Spells last) :
    (Excerpt.object (members.map SpelledMember.member ++ [(name, e)]) none).Spells
      ('\x7b' :: textsComma (members.map SpelledMember.text) ++ nameText ++ ':' :: last ++
        ['\x7d']) := by
  let m : SpelledMember := ⟨name, nameText, e, last⟩
  cases members with
  | nil =>
    have only_name : ∀ m' ∈ [m], SpellsName m'.name m'.nameText := by simpa using spells_name
    have only_value : ∀ m' ∈ [m], m'.value.Spells m'.valueText := by simpa using spells
    simpa [textsComma, commaTexts, m, SpelledMember.text, SpelledMember.member] using
      Excerpt.Spells.object m [] only_name only_value
  | cons first rest =>
    have all_names : ∀ m' ∈ first :: (rest ++ [m]), SpellsName m'.name m'.nameText := by
      rw [← List.cons_append, List.forall_mem_append]
      exact ⟨names, by simpa using spells_name⟩
    have all_values : ∀ m' ∈ first :: (rest ++ [m]), m'.value.Spells m'.valueText := by
      rw [← List.cons_append, List.forall_mem_append]
      exact ⟨each, by simpa using spells⟩
    have shifted := comma_textsComma (rest.map SpelledMember.text) m.text
    have spelled := Excerpt.Spells.object first (rest ++ [m]) all_names all_values
    rw [List.map_append, List.map_singleton, ← shifted] at spelled
    simpa [textsComma, m, SpelledMember.text, SpelledMember.member] using spelled

/-- These characters open the frames and lead to a place where a value may start. -/
inductive Opens : List Frame → List Char → Prop
  | top {blank : List Char} (is_blank : IsBlank blank) : Opens [] blank
  | list {frames : List Frame} {before blank : List Char} {items : List (Excerpt × List Char)}
      (outer : Opens frames before) (each : ∀ item ∈ items, item.1.Spells item.2)
      (is_blank : IsBlank blank) :
      Opens (.list (items.map Prod.fst).reverse :: frames)
        (before ++ '[' :: textsComma (items.map Prod.snd) ++ blank)
  | object {frames : List Frame} {before nameText blank : List Char} {members : List SpelledMember}
      {name : Literal} (outer : Opens frames before)
      (names : ∀ m ∈ members, SpellsName m.name m.nameText)
      (each : ∀ m ∈ members, m.value.Spells m.valueText) (spells_name : SpellsName name nameText)
      (is_blank : IsBlank blank) :
      Opens (.object (members.map SpelledMember.member).reverse (some name) :: frames)
        (before ++ '\x7b' :: textsComma (members.map SpelledMember.text) ++ nameText ++
          ':' :: blank)

/-- These characters open the frames and lead to a place in an object where a name may start. -/
inductive OpensName : List Frame → List Char → Prop
  | object {frames : List Frame} {before blank : List Char} {members : List SpelledMember}
      (outer : Opens frames before) (names : ∀ m ∈ members, SpellsName m.name m.nameText)
      (each : ∀ m ∈ members, m.value.Spells m.valueText) (is_blank : IsBlank blank) :
      OpensName (.object (members.map SpelledMember.member).reverse none :: frames)
        (before ++ '\x7b' :: textsComma (members.map SpelledMember.text) ++ blank)

theorem Opens.space (opens : Opens frames before) (space : isSpace c) :
    Opens frames (before ++ [c]) := by
  cases opens with
  | top is_blank => exact .top (is_blank.append (isBlank_singleton space))
  | list outer each is_blank =>
    rw [List.append_assoc]
    exact .list outer each (is_blank.append (isBlank_singleton space))
  | object outer names each spells_name is_blank =>
    rw [List.append_assoc, List.cons_append]
    exact .object outer names each spells_name (is_blank.append (isBlank_singleton space))

theorem OpensName.space (opens : OpensName frames before) (space : isSpace c) :
    OpensName frames (before ++ [c]) := by
  cases opens with
  | object outer names each is_blank =>
    rw [List.append_assoc]
    exact .object outer names each (is_blank.append (isBlank_singleton space))

theorem OpensName.frames_ne_nil (opens : OpensName frames before) : frames ≠ [] := by
  cases opens
  exact List.cons_ne_nil _ _

/-- A name and its colon lead to a place where a value may start. -/
theorem OpensName.value {members : List (Literal × Excerpt)} {name : Literal}
    (opens : OpensName (.object members none :: frames) before) (spells : SpellsName name cs) :
    Opens (.object members (some name) :: frames) (before ++ cs ++ [':']) := by
  cases opens with
  | object outer names each is_blank =>
    simpa using Opens.object outer names each (spells.blankBefore is_blank) isBlank_nil

/-- Where no item has come yet, there is nothing but white space after the bracket. -/
theorem Opens.exists_of_no_items {items : List Excerpt} (opens : Opens (.list items :: frames) cs)
    (no_items : items = []) : ∃ before blank, Opens frames before ∧ IsBlank blank ∧
      cs = before ++ '[' :: blank := by
  cases opens with
  | @list frames before blank items outer each is_blank =>
    obtain rfl : items = [] := by simpa using no_items
    exact ⟨before, blank, outer, is_blank, by simp [textsComma]⟩

theorem OpensName.exists_of_no_members {members : List (Literal × Excerpt)}
    (opens : OpensName (.object members none :: frames) cs) (no_members : members = []) :
    ∃ before blank, Opens frames before ∧ IsBlank blank ∧ cs = before ++ '\x7b' :: blank := by
  cases opens with
  | @object frames before blank members outer names each is_blank =>
    obtain rfl : members = [] := by simpa using no_members
    exact ⟨before, blank, outer, is_blank, by simp [textsComma]⟩

end Frames

section Stopping

variable {frames : List Frame} {fault : Fault} {e : Excerpt}

/-- The innermost frame is closed as a value that is cut off. -/
theorem exists_unwind_cons (fault : Fault) (inner : Option Excerpt) (frame : Frame)
    (rest : List Frame) :
    ∃ e : Excerpt, e.IsCut ∧ unwind fault inner (frame :: rest) = unwind fault (some e) rest := by
  cases frame with
  | list items => exact ⟨_, .list _ fault, rfl⟩
  | object members name => exact ⟨_, .object _ fault, rfl⟩

theorem isCut_unwind_some (cut : e.IsCut) (frames : List Frame) :
    (unwind fault (some e) frames).IsCut := by
  induction frames generalizing e with
  | nil => exact cut
  | cons frame rest ih =>
    obtain ⟨_, cut, closed⟩ := exists_unwind_cons fault (some e) frame rest
    rw [closed]
    exact ih cut

/-- What is still open is cut off, whatever was found inside. -/
theorem isCut_unwind (opened : frames ≠ []) {inner : Option Excerpt} :
    (unwind fault inner frames).IsCut := by
  obtain ⟨frame, rest, rfl⟩ := List.exists_cons_of_ne_nil opened
  obtain ⟨_, cut, closed⟩ := exists_unwind_cons fault inner frame rest
  rw [closed]
  exact isCut_unwind_some cut rest

end Stopping

section Modes

variable {s : ReaderState} {frames : List Frame} {e : Excerpt} {before cs : List Char} {c : Char}

/-- How the text that has led to a state is spelled. -/
inductive ReaderState.SoFar : ReaderState → List Char → Prop
  | value {frames : List Frame} {before : List Char} (opens : Opens frames before) :
      SoFar ⟨.value, frames⟩ before
  | firstItem {frames : List Frame} {before : List Char}
      (opens : Opens (.list [] :: frames) before) : SoFar ⟨.firstItem, .list [] :: frames⟩ before
  | firstName {frames : List Frame} {before : List Char}
      (opens : OpensName (.object [] none :: frames) before) :
      SoFar ⟨.firstName, .object [] none :: frames⟩ before
  | nextName {frames : List Frame} {before : List Char} (opens : OpensName frames before) :
      SoFar ⟨.nextName, frames⟩ before
  | colon {frames : List Frame} {members : List (Literal × Excerpt)} {name : Literal}
      {before nameText : List Char} (opens : OpensName (.object members none :: frames) before)
      (spells_name : SpellsName name nameText) :
      SoFar ⟨.colon, .object members (some name) :: frames⟩ (before ++ nameText)
  | word {frames : List Frame} {before done rest : List Char} {e : Excerpt}
      (opens : Opens frames before) (spells : e.Spells (done ++ rest)) :
      SoFar ⟨.word rest e, frames⟩ (before ++ done)
  | numeral {frames : List Frame} {before cs : List Char} {phase : NumeralPhase} {n : Numeral}
      (opens : Opens frames before) (spells : phase.SoFar n cs) :
      SoFar ⟨.numeral phase n, frames⟩ (before ++ cs)
  | text {frames : List Frame} {before cs : List Char} {string : StringState}
      (opens : Opens frames before) (soFar : string.SoFar cs) :
      SoFar ⟨.string .value string, frames⟩ (before ++ '"' :: cs)
  | name {frames : List Frame} {before cs : List Char} {string : StringState} {isFirst : Bool}
      (opens : OpensName frames before) (soFar : string.SoFar cs) :
      SoFar ⟨.string (.name isFirst) string, frames⟩ (before ++ '"' :: cs)
  | delivered {frames : List Frame} {before cs : List Char} {e : Excerpt}
      (opens : Opens frames before) (spells : e.Spells cs) :
      SoFar (deliver e frames) (before ++ cs)
  /-- More follows the value, or it is cut off. -/
  | stopped {document : Document} {frames : List Frame} {cs : List Char}
      (faulty : document.surplus = true ∨ document.root.IsCut) :
      SoFar ⟨.stopped document, frames⟩ cs

theorem soFar_stopInValue (frames : List Frame) (cs : List Char) :
    SoFar (stopInValue frames) cs :=
  .stopped (Or.inr (isCut_unwind_some (.cut _) frames))

theorem soFar_stop (opened : frames ≠ []) (cs : List Char) : SoFar (stop frames) cs :=
  .stopped (Or.inr (isCut_unwind opened))

/-- The first character of a value decides its kind; any other stops the reading. -/
theorem Opens.soFar_startValue (opens : Opens frames before) (c : Char) :
    SoFar (startValue c frames) (before ++ [c]) := by
  unfold startValue
  split
  · next letter =>
    subst letter
    exact .word opens .nullWord
  split
  · next letter =>
    subst letter
    exact .word opens .trueWord
  split
  · next letter =>
    subst letter
    exact .word opens .falseWord
  split
  · next quote =>
    subst quote
    exact .text opens (.plain .empty)
  split
  · next sign =>
    subst sign
    exact .numeral opens .minus
  split
  · next zero =>
    subst zero
    exact .numeral opens (.zero false)
  split
  · next nonzero digit =>
    have no_more : ∀ d ∈ ([] : List Char), d.isDigit := by simp
    exact .numeral opens (.whole false digit nonzero no_more)
  split
  · next bracket =>
    subst bracket
    have no_items : ∀ item ∈ ([] : List (Excerpt × List Char)), item.1.Spells item.2 := by simp
    exact .firstItem (by simpa [textsComma] using Opens.list opens no_items isBlank_nil)
  split
  · next brace =>
    subst brace
    have no_names : ∀ m ∈ ([] : List SpelledMember), SpellsName m.name m.nameText := by simp
    have no_values : ∀ m ∈ ([] : List SpelledMember), m.value.Spells m.valueText := by simp
    exact .firstName (by
      simpa [textsComma] using OpensName.object opens no_names no_values isBlank_nil)
  · exact soFar_stopInValue frames _

theorem afterValue_list (items : List Excerpt) (rest : List Frame) (visible : ¬ isSpace c) :
    afterValue (deliver e (.list items :: rest)) c =
      if c = ',' then ⟨.value, .list (e :: items) :: rest⟩
      else if c = ']' then deliver (.list (e :: items).reverse none) rest
      else stop (.list (e :: items) :: rest) :=
  if_neg visible

theorem afterValue_object (members : List (Literal × Excerpt)) (name : Literal)
    (rest : List Frame) (visible : ¬ isSpace c) :
    afterValue (deliver e (.object members (some name) :: rest)) c =
      if c = ',' then ⟨.nextName, .object ((name, e) :: members) none :: rest⟩
      else if c = '\x7d' then deliver (.object ((name, e) :: members).reverse none) rest
      else stop (.object ((name, e) :: members) none :: rest) :=
  if_neg visible

/-- After a value, a comma goes on in the innermost frame, its bracket closes it, and spaces
wait. -/
theorem soFar_afterValue (opens : Opens frames before) (spells : e.Spells cs) (c : Char) :
    SoFar (afterValue (deliver e frames) c) (before ++ cs ++ [c]) := by
  by_cases space : isSpace c
  · rw [← step_deliver, step_deliver_space space, List.append_assoc]
    exact .delivered opens (.spaceAfter space spells)
  cases opens with
  | top is_blank =>
    simp only [deliver, afterValue, if_neg space]
    exact .stopped (Or.inl rfl)
  | @list frames before blank items outer each is_blank =>
    have last := spells.blankBefore is_blank
    rw [afterValue_list _ _ space]
    split
    · next comma =>
      subst comma
      have grown : ∀ item ∈ items ++ [(e, blank ++ cs)], item.1.Spells item.2 := by
        rw [List.forall_mem_append]
        exact ⟨each, by simpa using last⟩
      refine .value ?_
      simpa [textsComma] using Opens.list outer grown isBlank_nil
    split
    · next bracket =>
      subst bracket
      simpa using SoFar.delivered outer (Excerpt.Spells.closedList each last)
    · exact soFar_stop (by simp) _
  | @object frames before nameText blank members name outer names each spells_name is_blank =>
    have last := spells.blankBefore is_blank
    rw [afterValue_object _ _ _ space]
    split
    · next comma =>
      subst comma
      have grown_names : ∀ m ∈ members ++ [⟨name, nameText, e, blank ++ cs⟩],
          SpellsName m.name m.nameText := by
        rw [List.forall_mem_append]
        exact ⟨names, by simpa using spells_name⟩
      have grown : ∀ m ∈ members ++ [⟨name, nameText, e, blank ++ cs⟩],
          m.value.Spells m.valueText := by
        rw [List.forall_mem_append]
        exact ⟨each, by simpa using last⟩
      refine .nextName ?_
      simpa [textsComma, SpelledMember.text, SpelledMember.member] using
        OpensName.object outer grown_names grown isBlank_nil
    split
    · next brace =>
      subst brace
      simpa using SoFar.delivered outer (Excerpt.Spells.closedObject names each spells_name last)
    · exact soFar_stop (by simp) _

/-- Inside a word, the next letter has to come. -/
theorem Opens.soFar_step_word (opens : Opens frames before) {done rest : List Char}
    (spells : e.Spells (done ++ rest)) (c : Char) :
    SoFar (ReaderState.step ⟨.word rest e, frames⟩ c) (before ++ done ++ [c]) := by
  match rest with
  | [] =>
    rw [List.append_nil] at spells
    exact soFar_afterValue opens spells c
  | [d] =>
    simp only [ReaderState.step]
    split
    · next same =>
      subst same
      rw [List.append_assoc]
      exact .delivered opens spells
    · exact soFar_stopInValue frames _
  | d :: d' :: rest =>
    simp only [ReaderState.step]
    split
    · next same =>
      subst same
      rw [List.append_assoc]
      exact .word opens (by simpa using spells)
    · exact soFar_stopInValue frames _

/-- Inside a number, a character goes on with it, comes after it or is wrong. -/
theorem Opens.soFar_step_numeral (opens : Opens frames before) {phase : NumeralPhase} {n : Numeral}
    (spells : phase.SoFar n cs) (c : Char) :
    SoFar (ReaderState.step ⟨.numeral phase n, frames⟩ c) (before ++ cs ++ [c]) := by
  simp only [ReaderState.step]
  rcases spells.continueNumeral c frames with
    ⟨next, n', goes_on, spells⟩ | ⟨may_end, ended⟩ | stopped
  · rw [goes_on, List.append_assoc]
    exact .numeral opens spells
  · obtain ⟨number, complete, spells⟩ := spells.exists_number may_end
    rw [ended, complete]
    exact soFar_afterValue opens (.number spells) c
  · rw [stopped]
    exact soFar_stopInValue frames _

/-- Inside a string that is a value, a character goes on with it, ends it or is wrong. -/
theorem Opens.soFar_step_text (opens : Opens frames before) {string : StringState}
    (soFar : string.SoFar cs) (c : Char) :
    SoFar (ReaderState.step ⟨.string .value string, frames⟩ c) (before ++ '"' :: cs ++ [c]) := by
  simp only [ReaderState.step]
  rcases soFar.continueString .value c frames with
    ⟨next, goes_on, soFar⟩ | ⟨spells, ended⟩ | stopped
  · rw [goes_on, List.append_assoc]
    exact .text opens soFar
  · rw [ended, List.append_assoc]
    exact .delivered opens (.text spells)
  · rw [stopped]
    exact soFar_stopInValue frames _

/-- A string that is a name leads to its colon. -/
theorem OpensName.soFar_step_name (opens : OpensName frames before) {string : StringState}
    (soFar : string.SoFar cs) {isFirst : Bool} (c : Char) :
    SoFar (ReaderState.step ⟨.string (.name isFirst) string, frames⟩ c)
      (before ++ '"' :: cs ++ [c]) := by
  simp only [ReaderState.step]
  rcases soFar.continueString (.name isFirst) c frames with
    ⟨next, goes_on, soFar⟩ | ⟨spells, ended⟩ | stopped
  · rw [goes_on, List.append_assoc]
    exact .name opens soFar
  · rw [ended, List.append_assoc]
    have name := SpellsName.padded isBlank_nil spells isBlank_nil
    rw [List.nil_append, List.append_nil] at name
    cases opens with
    | object outer names each is_blank => exact .colon (.object outer names each is_blank) name
  · rw [stopped]
    exact soFar_stop opens.frames_ne_nil _

/-- Every character keeps to what the state tells. -/
theorem ReaderState.SoFar.step (soFar : s.SoFar cs) (c : Char) : (s.step c).SoFar (cs ++ [c]) := by
  cases soFar with
  | value opens =>
    simp only [ReaderState.step]
    split
    · next space => exact .value (opens.space space)
    · exact opens.soFar_startValue c
  | firstItem opens =>
    simp only [ReaderState.step]
    split
    · next space => exact .firstItem (opens.space space)
    split
    · next bracket =>
      subst bracket
      obtain ⟨before, blank, outer, is_blank, rfl⟩ := opens.exists_of_no_items rfl
      rw [List.append_assoc]
      exact .delivered outer (.emptyList is_blank)
    · exact opens.soFar_startValue c
  | firstName opens =>
    simp only [ReaderState.step]
    split
    · next space => exact .firstName (opens.space space)
    split
    · next brace =>
      subst brace
      obtain ⟨before, blank, outer, is_blank, rfl⟩ := opens.exists_of_no_members rfl
      rw [List.append_assoc]
      exact .delivered outer (.emptyObject is_blank)
    split
    · next quote =>
      subst quote
      exact .name opens (.plain .empty)
    · exact soFar_stop (by simp) _
  | nextName opens =>
    simp only [ReaderState.step]
    split
    · next space => exact .nextName (opens.space space)
    split
    · next quote =>
      subst quote
      exact .name opens (.plain .empty)
    · exact soFar_stop opens.frames_ne_nil _
  | colon opens spells_name =>
    simp only [ReaderState.step]
    split
    · next space =>
      rw [List.append_assoc]
      exact .colon opens (spells_name.blankAfter (isBlank_singleton space))
    split
    · next colon =>
      subst colon
      exact .value (opens.value spells_name)
    · exact soFar_stop (by simp) _
  | word opens spells => exact opens.soFar_step_word spells c
  | numeral opens spells => exact opens.soFar_step_numeral spells c
  | text opens soFar => exact opens.soFar_step_text soFar c
  | name opens soFar => exact opens.soFar_step_name soFar c
  | delivered opens spells =>
    rw [step_deliver]
    exact soFar_afterValue opens spells c
  | stopped faulty => exact .stopped faulty

theorem soFar_foldl {more : List Char} (soFar : s.SoFar cs) :
    (more.foldl ReaderState.step s).SoFar (cs ++ more) := by
  induction more generalizing s cs with
  | nil => simpa using soFar
  | cons c rest ih =>
    have next := ih (soFar.step c)
    rwa [List.append_assoc, List.singleton_append] at next

/-- If the text ends after a value, it is the whole value or something around it is open. -/
theorem spells_of_finishBetween {e' : Excerpt} (opens : Opens frames before)
    (spells : e'.Spells cs) (finished : finishBetween (deliver e' frames) = ⟨e, false⟩) :
    e.Spells (before ++ cs) ∨ e.IsCut := by
  cases opens with
  | top is_blank =>
    obtain rfl := (Document.mk.inj finished).1
    exact Or.inl (spells.blankBefore is_blank)
  | list | object =>
    obtain rfl := (Document.mk.inj finished).1
    exact Or.inr (isCut_unwind (List.cons_ne_nil _ _))

/-- What has been found at the end is spelled by the text, or it is cut off. -/
theorem ReaderState.SoFar.spells_or_isCut (soFar : s.SoFar cs) (finished : s.finish = ⟨e, false⟩) :
    e.Spells cs ∨ e.IsCut := by
  cases soFar with
  | value | word | text =>
    obtain rfl := (Document.mk.inj finished).1
    exact Or.inr (isCut_unwind_some (.cut _) _)
  | firstItem | firstName | colon =>
    obtain rfl := (Document.mk.inj finished).1
    exact Or.inr (isCut_unwind (List.cons_ne_nil _ _))
  | nextName opens | name opens =>
    obtain rfl := (Document.mk.inj finished).1
    exact Or.inr (isCut_unwind opens.frames_ne_nil)
  | @numeral frames before cs phase n opens spells =>
    simp only [finish] at finished
    split at finished
    · next may_end =>
      obtain ⟨number, complete, spells⟩ := spells.exists_number may_end
      rw [complete] at finished
      exact spells_of_finishBetween opens (.number spells) finished
    · obtain rfl := (Document.mk.inj finished).1
      exact Or.inr (isCut_unwind_some (.cut _) _)
  | @delivered frames before cs e' opens spells =>
    have between : (deliver e' frames).finish = finishBetween (deliver e' frames) := by
      cases opens <;> rfl
    rw [between] at finished
    exact spells_of_finishBetween opens spells finished
  | @stopped document frames cs faulty =>
    obtain rfl : document = ⟨e, false⟩ := finished
    rcases faulty with surplus | cut
    · cases surplus
    · exact Or.inr cut

theorem ofText_ofList (cs : List Char) :
    Document.ofText (String.ofList cs) = (cs.foldl ReaderState.step .start).finish := by
  rw [Document.ofText, String.toList_ofList]

/-- A value with nothing left over is spelled by the text, or it is cut off. -/
theorem spells_or_isCut {text : String} (read : Document.ofText text = ⟨e, false⟩) :
    e.Spells text.toList ∨ e.IsCut := by
  have started : ReaderState.start.SoFar [] := .value (.top isBlank_nil)
  exact (soFar_foldl started).spells_or_isCut read

/-- A text spells a value exactly if the reader finds it whole and nothing is left over. -/
theorem spells_iff {text : String} :
    e.Spells text.toList ↔ Document.ofText text = ⟨e, false⟩ ∧ e.IsWhole := by
  constructor
  · exact fun spells => ⟨ofText_of_spells spells, spells.isWhole⟩
  · rintro ⟨read, whole⟩
    exact (spells_or_isCut read).resolve_right fun cut => cut.not_isWhole whole

end Modes

end StorageLayout.Json
