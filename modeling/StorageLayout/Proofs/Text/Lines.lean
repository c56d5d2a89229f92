import StorageLayout.Text.Blank
import StorageLayout.Text.Lines

/-!
# What the parts and the lines of a text hold

A separator divides the parts in front of it from those behind it. No line holds a line feed, and a
text without line feeds is its only line. What stands before the first line feed is kept at the
start of the first line, a carriage return at its end apart, and what stands after the last line
feed is kept at the end of the last line.
-/
namespace StorageLayout.Text

/-- What stands before a separator is split on its own, and so is what stands behind it. -/
theorem splitAt_append (separator : Char) (cs ds : List Char) :
    splitAt separator (cs ++ separator :: ds) = splitAt separator cs ++ splitAt separator ds := by
  induction cs with
  | nil =>
    rw [List.nil_append, splitAt]
    cases split : splitAt separator ds with
    | nil => exact absurd split (splitAt_ne_nil separator ds)
    | cons part parts => simp [splitAt, split]
  | cons c cs ih =>
    rw [List.cons_append, splitAt, ih, splitAt]
    cases split : splitAt separator cs with
    | nil => exact absurd split (splitAt_ne_nil separator cs)
    | cons part parts =>
      simp only [List.cons_append]
      split <;> rfl

theorem splitAt_of_not_mem {separator : Char} {cs : List Char} (absent : separator ∉ cs) :
    splitAt separator cs = [cs] := by
  induction cs with
  | nil => rfl
  | cons c cs ih =>
    simp only [List.mem_cons, not_or] at absent
    simp [splitAt, ih absent.2, Ne.symm absent.1]

/-- There are only digits in a numeral. -/
theorem not_mem_toString {c : Char} (other : ¬ c.isDigit) (n : Nat) : c ∉ (toString n).toList := by
  rw [Nat.toString_eq_ofList_toDigits, String.toList_ofList]
  exact fun member => other (Nat.isDigit_of_mem_toDigits (by decide) (by decide) member)

theorem mem_of_mem_dropCarriageReturn {c : Char} {line : List Char}
    (member : c ∈ dropCarriageReturn line) : c ∈ line := by
  unfold dropCarriageReturn at member
  split at member
  · exact List.mem_cons_of_mem _ (List.mem_reverse.1 member)
  · exact List.mem_reverse.1 member

/-- No line holds a line feed if the line under way holds none. -/
theorem lineFeed_not_mem_of_mem_splitLines {underWay cs line : List Char}
    (clean : '\n' ∉ underWay) (listed : line ∈ splitLines underWay cs) : '\n' ∉ line := by
  fun_induction splitLines underWay cs with
  | case1 => simp at listed
  | case2 c rest =>
    obtain rfl := List.mem_singleton.1 listed
    rwa [List.mem_reverse]
  | case3 underWay cs ih =>
    rcases List.mem_cons.1 listed with rfl | later
    · exact fun member => clean (mem_of_mem_dropCarriageReturn member)
    · exact ih (by simp) later
  | case4 underWay c cs other ih =>
    refine ih (fun member => ?_) listed
    rcases List.mem_cons.1 member with same | member
    · exact other same.symm
    · exact clean member

theorem lineFeed_not_mem_of_mem_lines {s line : String} (listed : line ∈ lines s) :
    '\n' ∉ line.toList := by
  obtain ⟨cs, split, rfl⟩ := List.mem_map.1 listed
  rw [String.toList_ofList]
  exact lineFeed_not_mem_of_mem_splitLines List.not_mem_nil split

theorem splitLines_of_ne_nil {underWay : List Char} (some_char : underWay ≠ []) :
    splitLines underWay [] = [underWay.reverse] := by
  cases underWay with
  | nil => contradiction
  | cons => rfl

theorem splitLines_lineFeed (underWay cs : List Char) :
    splitLines underWay ('\n' :: cs) = dropCarriageReturn underWay :: splitLines [] cs := by
  cases underWay <;> rfl

theorem splitLines_of_ne {c : Char} (other : c ≠ '\n') (underWay cs : List Char) :
    splitLines underWay (c :: cs) = splitLines (c :: underWay) cs := by
  rw [splitLines]
  exact other

/-- Up to the next line feed, characters are added to the line under way. -/
theorem splitLines_append {added : List Char} (clean : '\n' ∉ added) (underWay cs : List Char) :
    splitLines underWay (added ++ cs) = splitLines (added.reverse ++ underWay) cs := by
  induction added generalizing underWay with
  | nil => rfl
  | cons c added ih =>
    rw [List.mem_cons, not_or] at clean
    rw [List.cons_append, splitLines_of_ne (Ne.symm clean.1), ih clean.2, List.reverse_cons,
      List.append_assoc, List.singleton_append]

/-- A text without line feeds is its only line. -/
theorem lines_of_clean {s : String} (clean : '\n' ∉ s.toList) (nonempty : s ≠ "") :
    lines s = [s] := by
  have some_char : s.toList.reverse ≠ [] := by simpa using nonempty
  have split := splitLines_append clean [] []
  rw [List.append_nil, List.append_nil, splitLines_of_ne_nil some_char, List.reverse_reverse]
    at split
  rw [lines, split, List.map_singleton, String.ofList_toList]

/-- A carriage return in front of the line feed is dropped behind whatever the line begins with. -/
theorem dropCarriageReturn_append {kept : List Char} (clean : '\r' ∉ kept) (line : List Char) :
    dropCarriageReturn (line ++ kept.reverse) = kept ++ dropCarriageReturn line := by
  have unchanged {c : Char} (other : c ≠ '\r') (rest : List Char) :
      dropCarriageReturn (c :: rest) = (c :: rest).reverse := by
    rw [dropCarriageReturn]
    simpa using other
  cases line with
  | cons c line =>
    by_cases ends : c = '\r'
    · subst ends
      simp [dropCarriageReturn]
    · rw [List.cons_append, unchanged ends, unchanged ends]
      simp
  | nil =>
    cases reversed : kept.reverse with
    | nil =>
      rw [List.reverse_eq_nil_iff] at reversed
      rw [reversed]
      rfl
    | cons c rest =>
      have last : c ≠ '\r' := by
        rintro rfl
        exact clean (List.mem_reverse.1 (reversed ▸ List.mem_cons_self))
      rw [List.nil_append, unchanged last, ← reversed, List.reverse_reverse]
      exact (List.append_nil kept).symm

/-- What stands at the start of the line under way is at the start of the next line. -/
theorem exists_splitLines_cons {start : List Char} (nonempty : start ≠ []) (clean : '\r' ∉ start)
    (underWay cs : List Char) : ∃ more others,
      splitLines (underWay ++ start.reverse) cs = (start ++ more) :: others := by
  induction cs generalizing underWay with
  | nil =>
    refine ⟨underWay.reverse, [], ?_⟩
    rw [splitLines_of_ne_nil (by simp [nonempty]), List.reverse_append, List.reverse_reverse]
  | cons c cs ih =>
    by_cases ends : c = '\n'
    · subst ends
      exact ⟨_, _, by rw [splitLines_lineFeed, dropCarriageReturn_append clean]⟩
    · rw [splitLines_of_ne ends]
      exact ih (c :: underWay)

/-- What stands at the end of a text is at the end of its last line. -/
theorem exists_splitLines_concat {finish : List Char} (nonempty : finish ≠ [])
    (clean : '\n' ∉ finish) (underWay cs : List Char) : ∃ before more,
      splitLines underWay (cs ++ finish) = before ++ [more ++ finish] := by
  induction cs generalizing underWay with
  | nil =>
    have split := splitLines_append clean underWay []
    rw [List.append_nil, splitLines_of_ne_nil (by simp [nonempty]), List.reverse_append,
      List.reverse_reverse] at split
    exact ⟨[], underWay.reverse, split⟩
  | cons c cs ih =>
    rw [List.cons_append]
    by_cases ends : c = '\n'
    · subst ends
      obtain ⟨before, more, split⟩ := ih []
      exact ⟨dropCarriageReturn underWay :: before, more, by rw [splitLines_lineFeed, split]; rfl⟩
    · rw [splitLines_of_ne ends]
      exact ih (c :: underWay)

/-- Texts with the same lines start alike, up to the first line feed or carriage return. -/
theorem exists_append_eq_of_lines_eq {start start' rest rest' : List Char}
    (nonempty : start ≠ []) (nonempty' : start' ≠ [])
    (clean : '\n' ∉ start ∧ '\r' ∉ start) (clean' : '\n' ∉ start' ∧ '\r' ∉ start')
    (same : lines (String.ofList (start ++ rest)) = lines (String.ofList (start' ++ rest'))) :
    ∃ more more', start ++ more = start' ++ more' := by
  obtain ⟨more, others, first⟩ := exists_splitLines_cons nonempty clean.2 [] rest
  obtain ⟨more', others', first'⟩ := exists_splitLines_cons nonempty' clean'.2 [] rest'
  rw [lines, lines, String.toList_ofList, String.toList_ofList, splitLines_append clean.1,
    splitLines_append clean'.1, List.append_nil, List.append_nil] at same
  rw [List.nil_append] at first first'
  rw [first, first', List.map_cons, List.map_cons, List.cons.injEq, String.ofList_inj] at same
  exact ⟨more, more', same.1⟩

/-- Texts with the same lines end alike, from the last line feed on. -/
theorem eq_of_lines_eq {cs cs' finish finish' : List Char} (nonempty : finish ≠ [])
    (clean : '\n' ∉ finish) (clean' : '\n' ∉ finish') (length : finish.length = finish'.length)
    (same : lines (String.ofList (cs ++ finish)) = lines (String.ofList (cs' ++ finish'))) :
    finish = finish' := by
  have nonempty' : finish' ≠ [] := by
    rw [← List.length_pos_iff, ← length, List.length_pos_iff]
    exact nonempty
  obtain ⟨before, more, last⟩ := exists_splitLines_concat nonempty clean [] cs
  obtain ⟨before', more', last'⟩ := exists_splitLines_concat nonempty' clean' [] cs'
  rw [lines, lines, String.toList_ofList, String.toList_ofList, last, last', List.map_append,
    List.map_append] at same
  have same_last := (List.append_inj' same rfl).2
  simp only [List.map_cons, List.map_nil, List.cons.injEq, and_true, String.ofList_inj] at same_last
  exact (List.append_inj' same_last length).2

end StorageLayout.Text
