import Mathlib.Tactic.IntervalCases
import StorageLayout.Json.Basic
import StorageLayout.Proofs.Json.Grammar

/-!
# Written strings and numbers

The writer appends to a text. What it appends for a string or a number follows the grammar, whatever
characters the string has.
-/
namespace StorageLayout.Json

theorem foldl_pushEscaped_of_plain {cs : List Char} (plain : ∀ c ∈ cs, isPlain c)
    (written : String) : cs.foldl pushEscaped written = written ++ String.ofList cs := by
  induction cs generalizing written with
  | nil => simp
  | cons c rest ih =>
    rw [List.forall_mem_cons] at plain
    rw [List.foldl_cons, ih plain.2, pushEscaped, if_pos plain.1, String.push_eq_append,
      String.append_assoc, String.ofList_cons]

/-- Characters that stand for themselves are written as they are. -/
theorem pushQuoted_of_plain {content : String} (plain : content.toList.all isPlain)
    (written : String) : pushQuoted written content = written ++ "\"" ++ content ++ "\"" := by
  rw [pushQuoted, String.foldl_eq_foldl_toList,
    foldl_pushEscaped_of_plain (List.all_eq_true.1 plain),
    String.ofList_toList, String.push_eq_append, String.push_eq_append]
  rfl

section Strings

theorem hexValue?_hexDigit {n : Nat} (small : n < 16) : hexValue? (hexDigit n) = some n := by
  interval_cases n <;> rfl

/-- A character that does not stand for itself is spelled by its short escape or by its code. -/
theorem spells_escaped {c : Char} (special : ¬ isPlain c) (content : List Char) :
    StringState.Spells { content := content } { content := c :: content } (escaped c).toList := by
  have short {d : Char} (names : unescaped? d = some c) :
      StringState.Spells { content := content } { content := c :: content } ['\\', d] :=
    .piece .empty (.escape names)
  unfold escaped
  split
  iterate 7 exact short rfl
  · next not_quote not_backslash _ _ _ _ _ =>
    have control : c.toNat < 0x20 := by
      unfold isPlain at special
      grind
    have high : c.toNat / 16 < 16 := by omega
    have low : c.toNat % 16 < 16 := Nat.mod_lt _ (by decide)
    have zero : hexValue? '0' = some 0 := rfl
    have code := Piece.Spells.code zero zero (hexValue?_hexDigit high) (hexValue?_hexDigit low)
    have number : 16 * (16 * (16 * 0 + 0) + c.toNat / 16) + c.toNat % 16 = c.toNat := by omega
    rw [number] at code
    have no_surrogate : c.toNat < 0xd800 := by omega
    have added : StringState.add { content := content } (.code c.toNat) =
        { content := c :: content } := by
      simp [StringState.add, StringState.pushCode, Nat.not_le.2 no_surrogate]
      omega
    rw [String.toList_ofList, ← added]
    exact .piece .empty code

theorem exists_spells_pushEscaped (written : String) (c : Char) (content : List Char) :
    ∃ cs, (pushEscaped written c).toList = written.toList ++ cs ∧
      StringState.Spells { content := content } { content := c :: content } cs := by
  unfold pushEscaped
  split
  · next plain =>
    unfold isPlain at plain
    exact ⟨[c], by simp, .piece .empty (.plain (by grind) (by grind) (by grind))⟩
  · next special => exact ⟨(escaped c).toList, by simp, spells_escaped special content⟩

theorem StringState.Spells.trans {s s' s'' : StringState} {cs more : List Char}
    (first : StringState.Spells s s' cs) (second : StringState.Spells s' s'' more) :
    StringState.Spells s s'' (cs ++ more) := by
  induction second with
  | empty => simpa using first
  | piece front spells ih =>
    rw [← List.append_assoc]
    exact .piece ih spells

/-- What is written for the characters of a string spells them. -/
theorem exists_spells_foldl (cs : List Char) (written : String) (content : List Char) :
    ∃ text, (cs.foldl pushEscaped written).toList = written.toList ++ text ∧
      StringState.Spells { content := content } { content := cs.reverse ++ content } text := by
  induction cs generalizing written content with
  | nil => exact ⟨[], by simp, .empty⟩
  | cons c rest ih =>
    obtain ⟨first, appended, spells⟩ := exists_spells_pushEscaped written c content
    obtain ⟨others, appended', spells'⟩ := ih (pushEscaped written c) (c :: content)
    refine ⟨first ++ others, ?_, ?_⟩
    · rw [List.foldl_cons, appended', appended, List.append_assoc]
    · rw [List.reverse_cons, List.append_assoc]
      exact spells.trans spells'

/-- A string is written as the grammar says, whatever characters it has. -/
theorem exists_spells_pushQuoted (written content : String) :
    ∃ cs, (pushQuoted written content).toList = written.toList ++ cs ∧
      Literal.Spells (some content) cs := by
  obtain ⟨inside, appended, spells⟩ := exists_spells_foldl content.toList (written.push '"') []
  refine ⟨'"' :: inside ++ ['"'], ?_, ?_⟩
  · simp [pushQuoted, String.foldl_eq_foldl_toList, appended]
  · have literal : StringState.literal { content := content.toList.reverse ++ [] } =
        some content := by
      simp [StringState.literal]
    rw [← literal]
    exact .quoted spells

end Strings

section Numbers

def digits (n : Nat) : List Nat := (Nat.toDigits 10 n).map fun c => c.toNat - 48

theorem ofDigits_digits (n : Nat) : Numeral.ofDigits (digits n) = n := by
  unfold Numeral.ofDigits digits
  rw [List.foldl_map]
  exact Nat.ofDigitChars_ten_toDigits

/-- The digits of a positive number do not begin with a zero. -/
theorem exists_toDigits_eq_cons {n : Nat} (positive : n ≠ 0) :
    ∃ c rest, Nat.toDigits 10 n = c :: rest ∧ c ≠ '0' := by
  induction n using Nat.strong_induction_on with
  | _ n ih =>
    by_cases small : n < 10
    · refine ⟨_, [], Nat.toDigits_of_lt_base small, ?_⟩
      interval_cases n
      · exact absurd rfl positive
      all_goals decide
    · obtain ⟨c, rest, front, nonzero⟩ := ih (n / 10) (by omega) (by omega)
      refine ⟨c, rest ++ [(n % 10).digitChar], ?_, nonzero⟩
      rw [Nat.toDigits_of_base_le (by omega) (by omega), front]
      rfl

/-- A number is written as the grammar says, without superfluous zeros. -/
theorem spells_toDigits (n : Nat) :
    Numeral.Spells ⟨false, digits n, none, none⟩ (Nat.toDigits 10 n) := by
  have whole : Numeral.SpellsWhole (digits n) (Nat.toDigits 10 n) := by
    by_cases zero : n = 0
    · subst zero
      exact .zero
    · obtain ⟨c, rest, all, nonzero⟩ := exists_toDigits_eq_cons zero
      have decimal : ∀ d ∈ c :: rest, d.isDigit := fun d listed =>
        Nat.isDigit_of_mem_toDigits (by omega) (by omega) (all ▸ listed)
      rw [List.forall_mem_cons] at decimal
      unfold digits
      rw [all]
      exact .digits decimal.1 nonzero decimal.2
  simpa [Numeral.signText] using Numeral.Spells.parts false whole .absent .absent

end Numbers
end StorageLayout.Json
