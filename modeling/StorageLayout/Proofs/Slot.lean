import Mathlib.Data.Nat.Digits.Defs
import StorageLayout.Proofs.Json.Decoding

/-!
# Slots are numbers

Slots are given as decimal texts of any length, and written again without leading zeros. What is
written is the numeral of the number that was denoted, so that texts of slots may be compared in
place of the numbers: digits behind the numeral of a positive number make the numeral of the number
that is read on from there.
-/
namespace StorageLayout.Slot

def IsDecimal (raw : String) : Prop := raw ≠ "" ∧ ∀ c ∈ raw.toList, c.isDigit

/-- The number that a text of decimal digits denotes: from the right, each digit counts ten times
as much as the one before it. -/
def denoted (raw : String) : Nat :=
  Nat.ofDigits 10 (raw.toList.reverse.map fun c => c.toNat - '0'.toNat)

/-- A text without the zeros at its start, or a single zero if there is nothing else. -/
def withoutLeadingZeros (raw : String) : String :=
  match raw.toList.dropWhile (· = '0') with
  | [] => "0"
  | digits => String.ofList digits

/-- A text is the decimal numeral of a number: digits that denote it, and none of them a zero in
front of others. -/
structure IsNumeral (text : String) (n : Nat) : Prop where
  decimal : IsDecimal text
  denotes : denoted text = n
  zero_alone : text.toList.head? = some '0' → text = "0"

theorem ofText?_of_isDecimal {raw : String} (decimal : IsDecimal raw) :
    ofText? raw = some ⟨Nat.ofDigitChars 10 raw.toList 0⟩ := by
  have digits : raw.toList ≠ [] ∧ raw.toList.all Char.isDigit :=
    ⟨mt String.toList_eq_nil_iff.1 decimal.1, List.all_eq_true.2 decimal.2⟩
  unfold ofText?
  dsimp only
  rw [if_pos digits]
  rfl

theorem ofText?_of_not_isDecimal {raw : String} (bad : ¬ IsDecimal raw) :
    ofText? raw = none := by
  unfold ofText?
  dsimp only
  rw [if_neg]
  rintro ⟨some_digit, digits⟩
  exact bad ⟨mt String.toList_eq_nil_iff.2 some_digit, List.all_eq_true.1 digits⟩

/-- Digits that are read from the left denote what their places say. -/
theorem ofDigitChars_eq_denoted (raw : String) :
    Nat.ofDigitChars 10 raw.toList 0 = denoted raw := by
  unfold denoted
  induction raw.toList with
  | nil => rfl
  | cons c rest ih =>
    rw [Nat.ofDigitChars_cons, Nat.ofDigitChars_eq_ofDigitChars_zero, ih, List.map_reverse,
      List.map_reverse, List.map_cons, Nat.ofDigits_reverse_cons, List.length_map, Nat.mul_zero,
      Nat.zero_add, Nat.add_comm]

/-- Reading gives the number that the text denotes, if it is a text of digits. -/
theorem ofText?_eq_some_iff {raw : String} {s : Slot} :
    ofText? raw = some s ↔ IsDecimal raw ∧ s.index = denoted raw := by
  by_cases decimal : IsDecimal raw
  · rw [ofText?_of_isDecimal decimal, ofDigitChars_eq_denoted, Option.some.injEq]
    constructor
    · rintro rfl
      exact ⟨decimal, rfl⟩
    · rintro ⟨-, index⟩
      exact congrArg Slot.mk index.symm
  · simp [ofText?_of_not_isDecimal decimal, decimal]

/-- Two texts give one slot exactly if they denote the same number. -/
theorem eq_iff_of_ofText? {raw raw' : String} {s s' : Slot} (read : ofText? raw = some s)
    (read' : ofText? raw' = some s') : s = s' ↔ denoted raw = denoted raw' := by
  have index := (ofText?_eq_some_iff.1 read).2
  have index' := (ofText?_eq_some_iff.1 read').2
  constructor
  · rintro rfl
    exact index.symm.trans index'
  · intro same
    exact congrArg Slot.mk (index.trans (same.trans index'.symm))

theorem isDecimal_text (s : Slot) : IsDecimal s.text :=
  (ofText?_eq_some_iff.1 s.ofText?_text).1

theorem denoted_text (s : Slot) : denoted s.text = s.index :=
  (ofText?_eq_some_iff.1 s.ofText?_text).2.symm

theorem text_inj {s t : Slot} : s.text = t.text ↔ s = t := by
  constructor
  · intro same
    exact Option.some.inj (s.ofText?_text.symm.trans (same ▸ t.ofText?_text))
  · exact congrArg text

theorem digitChar_of_isDigit {c : Char} (digit : c.isDigit) :
    c.toNat - '0'.toNat < 10 ∧ (c.toNat - '0'.toNat).digitChar = c := by
  have bounds : 48 ≤ c.toNat ∧ c.toNat ≤ 57 := Char.isDigit_iff_toNat.1 digit
  have zero : '0'.toNat = 48 := rfl
  have small : c.toNat - '0'.toNat < 10 := by omega
  refine ⟨small, Char.toNat_inj.1 ?_⟩
  rw [Nat.toNat_digitChar_of_lt_ten small]
  omega

/-- Digits behind the numeral of a positive number make the numeral of the number that is read on
from there. -/
theorem toDigits_ofDigitChars {digits : List Char} (decimal : ∀ c ∈ digits, c.isDigit) {n : Nat}
    (positive : 0 < n) :
    Nat.toDigits 10 (Nat.ofDigitChars 10 digits n) = Nat.toDigits 10 n ++ digits := by
  induction digits generalizing n with
  | nil => simp
  | cons c rest ih =>
    rw [List.forall_mem_cons] at decimal
    obtain ⟨small, same⟩ := digitChar_of_isDigit decimal.1
    have longer := Nat.toDigits_append_toDigits (b := 10) (by decide) positive small
    rw [Nat.toDigits_of_lt_base small, same] at longer
    rw [Nat.ofDigitChars_cons, ih decimal.2 (by omega), ← longer, List.append_assoc]
    rfl

/-- Digits that do not begin with a zero are a numeral. -/
theorem toDigits_ofDigitChars_cons {c : Char} {rest : List Char}
    (decimal : ∀ d ∈ c :: rest, d.isDigit) (nonzero : c ≠ '0') :
    Nat.toDigits 10 (Nat.ofDigitChars 10 (c :: rest) 0) = c :: rest := by
  rw [List.forall_mem_cons] at decimal
  obtain ⟨small, same⟩ := digitChar_of_isDigit decimal.1
  have positive : 0 < c.toNat - '0'.toNat := by
    rw [Nat.pos_iff_ne_zero]
    intro zero
    exact nonzero (by rw [← same, zero]; rfl)
  rw [Nat.ofDigitChars_cons, Nat.mul_zero, Nat.zero_add,
    toDigits_ofDigitChars decimal.2 positive, Nat.toDigits_of_lt_base small, same]
  rfl

/-- Leading zeros do not count. -/
theorem ofDigitChars_dropWhile_zero (digits : List Char) :
    Nat.ofDigitChars 10 (digits.dropWhile (· = '0')) 0 = Nat.ofDigitChars 10 digits 0 := by
  induction digits with
  | nil => rfl
  | cons c rest ih =>
    by_cases zero : c = '0'
    · rw [List.dropWhile_cons_of_pos (by simpa using zero), ih, zero]
      rfl
    · rw [List.dropWhile_cons_of_neg (by simpa using zero)]

/-- Without its leading zeros, a text of digits is the numeral of the number that it denotes. -/
theorem toString_denoted {raw : String} (decimal : IsDecimal raw) :
    toString (denoted raw) = withoutLeadingZeros raw := by
  rw [← ofDigitChars_eq_denoted, ← ofDigitChars_dropWhile_zero, Nat.toString_eq_ofList_toDigits]
  have digits : ∀ c ∈ raw.toList.dropWhile (· = '0'), c.isDigit :=
    fun c listed => decimal.2 c ((List.dropWhile_sublist _).mem listed)
  have first_nonzero := List.head?_dropWhile_not (· = '0') raw.toList
  unfold withoutLeadingZeros
  cases rest : raw.toList.dropWhile (· = '0') with
  | nil => rfl
  | cons c others =>
    rw [rest] at digits first_nonzero
    rw [toDigits_ofDigitChars_cons digits (by simpa using first_nonzero)]

/-- A slot that was read is written without leading zeros. -/
theorem text_of_ofText? {raw : String} {s : Slot} (read : ofText? raw = some s) :
    s.text = withoutLeadingZeros raw := by
  obtain ⟨decimal, index⟩ := ofText?_eq_some_iff.1 read
  rw [text, index, toString_denoted decimal]

/-- What is written for a slot is a numeral. -/
theorem isNumeral_text (s : Slot) : IsNumeral s.text s.index where
  decimal := s.isDecimal_text
  denotes := s.denoted_text
  zero_alone := by
    intro starts
    rw [text, Nat.toString_eq_ofList_toDigits, String.toList_ofList] at starts
    by_cases zero : s.index = 0
    · rw [text, zero]
      rfl
    · obtain ⟨c, rest, digits, nonzero⟩ := Json.exists_toDigits_eq_cons zero
      rw [digits] at starts
      exact absurd (Option.some.inj starts) nonzero

/-- A text is read as a slot exactly if it is a run of decimal digits. What is then written is the
text without leading zeros, the numeral of the number that the text denotes; two texts give the same
slot, and the same is written for them, exactly if they denote the same number. Every slot is read
back from its numeral, and from its JSON form. -/
theorem slots_are_numbers :
    (∀ raw, (∃ s, ofText? raw = some s) ↔ IsDecimal raw) ∧
    (∀ raw s, ofText? raw = some s →
      s.text = withoutLeadingZeros raw ∧ IsNumeral s.text (denoted raw)) ∧
    (∀ raw raw' s s', ofText? raw = some s → ofText? raw' = some s' →
      (s = s' ↔ denoted raw = denoted raw') ∧ (s.text = s'.text ↔ denoted raw = denoted raw')) ∧
    ∀ s, ofText? s.text = some s ∧
      ∀ json ∈ (Json.text s.text).layouts, Json.Decoder.slot.run json = .ok s := by
  refine ⟨fun raw => ?_, fun raw s read => ?_, fun raw raw' s s' read read' => ?_, fun s => ?_⟩
  · constructor
    · rintro ⟨s, read⟩
      exact (ofText?_eq_some_iff.1 read).1
    · exact fun decimal => ⟨_, ofText?_of_isDecimal decimal⟩
  · refine ⟨text_of_ofText? read, ?_⟩
    rw [← (ofText?_eq_some_iff.1 read).2]
    exact s.isNumeral_text
  · have same_number := eq_iff_of_ofText? read read'
    exact ⟨same_number, text_inj.trans same_number⟩
  · exact ⟨s.ofText?_text, fun json layout => Json.Decoder.recovers_slot.run s layout⟩

/-- Two texts of one slot, which lies beyond the range of machine words. -/
theorem leading_zeros_of_a_large_slot :
    ofText? "00340282366920938463463374607431768211456" = some ⟨2 ^ 128⟩ ∧
    ofText? "340282366920938463463374607431768211456" = some ⟨2 ^ 128⟩ ∧
    denoted "00340282366920938463463374607431768211456" =
      denoted "340282366920938463463374607431768211456" ∧
    (Slot.mk (2 ^ 128)).text = withoutLeadingZeros "00340282366920938463463374607431768211456" := by
  have padded : ofText? "00340282366920938463463374607431768211456" = some ⟨2 ^ 128⟩ := by
    decide +kernel
  have plain : ofText? "340282366920938463463374607431768211456" = some ⟨2 ^ 128⟩ := by
    decide +kernel
  refine ⟨padded, plain, ?_, ?_⟩
  · exact (slots_are_numbers.2.2.1 _ _ _ _ padded plain).1.1 rfl
  · exact (slots_are_numbers.2.1 _ _ padded).1

end StorageLayout.Slot
