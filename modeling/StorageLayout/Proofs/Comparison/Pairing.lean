import StorageLayout.Comparison.Rules

/-!
# Variables of one name

A layout may declare a name more than once. Two positions are counterparts exactly when they hold
variables of one name with equally many variables of that name before them. This says it without
any list of indices, and it reads the same from the old layout to the new one and back. Where two
layouts agree on the names up to a position, the position is therefore its own counterpart.
-/
namespace StorageLayout.Position

/-- Nothing stands before the first variable. -/
@[simp] theorem occurrencesBefore_zero (listed : List StateVariable) (name : String) :
    occurrencesBefore listed 0 name = 0 := by
  simp [occurrencesBefore]

@[simp] theorem occurrencesBefore_cons_succ (v : StateVariable) (rest : List StateVariable)
    (index : Nat) (name : String) :
    occurrencesBefore (v :: rest) (index + 1) name =
      (if v.name = name then 1 else 0) + occurrencesBefore rest index name := by
  by_cases same : v.name = name
  · simp [occurrencesBefore, same]
    omega
  · simp [occurrencesBefore, same]

/-- A variable is counted from the next index on. -/
theorem occurrencesBefore_lt {listed : List StateVariable} {i j : Nat} {v : StateVariable}
    (at_i : listed[i]? = some v) (later : i < j) :
    occurrencesBefore listed i v.name < occurrencesBefore listed j v.name := by
  induction listed generalizing i j with
  | nil => simp at at_i
  | cons head rest ih =>
    obtain ⟨j, rfl⟩ : ∃ before, j = before + 1 := ⟨j - 1, by omega⟩
    cases i with
    | zero =>
      obtain rfl : head = v := by simpa using at_i
      simp only [occurrencesBefore_zero, occurrencesBefore_cons_succ, if_true]
      omega
    | succ i =>
      have further := ih at_i (Nat.lt_of_succ_lt_succ later)
      simp only [occurrencesBefore_cons_succ]
      omega

/-- Variables of one name stand in the order in which they are counted. -/
theorem occurrencesBefore_lt_iff {listed : List StateVariable} {i j : Nat} {v w : StateVariable}
    (at_i : listed[i]? = some v) (at_j : listed[j]? = some w) (named : v.name = w.name) :
    occurrencesBefore listed i v.name < occurrencesBefore listed j v.name ↔ i < j := by
  constructor
  · intro fewer
    rcases Nat.lt_trichotomy i j with earlier | rfl | later
    · exact earlier
    · omega
    · have more := occurrencesBefore_lt at_j later
      rw [← named] at more
      omega
  · exact occurrencesBefore_lt at_i

/-- The indices in a longer layout are those in the rest, moved by one, after the first if the first
variable has the name. -/
theorem indicesOf_cons (v : StateVariable) (rest : List StateVariable) (name : String) :
    indicesOf (v :: rest) name =
      if v.name = name then 0 :: (indicesOf rest name).map (· + 1)
      else (indicesOf rest name).map (· + 1) := by
  have moved : ((rest.zipIdx 1).filter (·.1.name = name)).map Prod.snd =
      (indicesOf rest name).map (· + 1) := by
    rw [indicesOf, List.zipIdx_succ, List.filter_map, List.map_map, List.map_map]
    rfl
  by_cases same : v.name = name
  · rw [if_pos same, ← moved]
    simp [indicesOf, List.zipIdx_cons, same]
  · rw [if_neg same, ← moved]
    simp [indicesOf, List.zipIdx_cons, same]

/-- The n-th index of a name is the one whose variable has the name, with n of that name before. -/
theorem getElem?_indicesOf_eq_some_iff (listed : List StateVariable) (name : String) (n j : Nat) :
    (indicesOf listed name)[n]? = some j ↔
      ∃ v, listed[j]? = some v ∧ v.name = name ∧ occurrencesBefore listed j name = n := by
  induction listed generalizing n j with
  | nil => simp [indicesOf]
  | cons v rest ih =>
    rw [indicesOf_cons]
    by_cases same : v.name = name
    · rw [if_pos same]
      cases n with
      | zero => cases j <;> simp [same]
      | succ n =>
        cases j with
        | zero => simp
        | succ j =>
          have step := ih n j
          simp only [List.getElem?_cons_succ, List.getElem?_map, Option.map_eq_some_iff,
            Nat.add_right_cancel_iff, exists_eq_right, occurrencesBefore_cons_succ, if_pos same,
            Nat.add_comm 1]
          exact step
    · rw [if_neg same]
      cases j with
      | zero => simp [same]
      | succ j =>
        have step := ih n j
        simp only [List.getElem?_cons_succ, List.getElem?_map, Option.map_eq_some_iff,
          Nat.add_right_cancel_iff, exists_eq_right, occurrencesBefore_cons_succ, if_neg same,
          Nat.zero_add]
        exact step

/-- The counterpart has the old variable's name, and as many of that name before it. -/
theorem counterpartIndex?_eq_some_iff (p : Position) (j : Nat) :
    p.counterpartIndex? = some j ↔
      ∃ old new, p.oldVariable? = some old ∧ p.new.variableAt? j = some new ∧
        new.name = old.name ∧
        occurrencesBefore p.new.stateVariables j old.name =
          occurrencesBefore p.old.stateVariables p.index old.name := by
  cases found : p.oldVariable? with
  | none => simp [counterpartIndex?, found]
  | some old =>
    simp only [counterpartIndex?, found, bind, Option.bind_some,
      getElem?_indicesOf_eq_some_iff, ContractSnapshot.variableAt?]
    constructor
    · rintro ⟨new, at_j, named, count⟩
      exact ⟨old, new, rfl, at_j, named, count⟩
    · rintro ⟨other, new, same, at_j, named, count⟩
      obtain rfl := Option.some.inj same
      exact ⟨new, at_j, named, count⟩

/-- The counterpart variable, wherever it lies in the new layout. -/
theorem counterpart?_eq_some_iff (p : Position) (new : StateVariable) :
    p.counterpart? = some new ↔
      ∃ j old, p.oldVariable? = some old ∧ p.new.variableAt? j = some new ∧
        new.name = old.name ∧
        occurrencesBefore p.new.stateVariables j old.name =
          occurrencesBefore p.old.stateVariables p.index old.name := by
  rw [counterpart?, Option.bind_eq_some_iff]
  constructor
  · rintro ⟨j, paired, at_j⟩
    obtain ⟨old, other, found, listed, named, count⟩ := (counterpartIndex?_eq_some_iff p j).1 paired
    obtain rfl : other = new := Option.some.inj (listed.symm.trans at_j)
    exact ⟨j, old, found, listed, named, count⟩
  · rintro ⟨j, old, found, listed, named, count⟩
    exact ⟨j, (counterpartIndex?_eq_some_iff p j).2 ⟨old, new, found, listed, named, count⟩, listed⟩

/-- A position that holds the same name in both layouts, equally often used before, is its own
counterpart. -/
theorem counterpart?_eq_newVariable? (p : Position) {old new : StateVariable}
    (found : p.oldVariable? = some old) (listed : p.newVariable? = some new)
    (named : new.name = old.name)
    (count : occurrencesBefore p.new.stateVariables p.index old.name =
      occurrencesBefore p.old.stateVariables p.index old.name) :
    p.counterpart? = some new :=
  (counterpart?_eq_some_iff p new).2 ⟨p.index, old, found, listed, named, count⟩

/-- The count of a name before an index depends on the names before it alone. -/
theorem occurrencesBefore_congr {a b : List StateVariable} {index : Nat}
    (names : ∀ j < index, a[j]?.map (·.name) = b[j]?.map (·.name)) (name : String) :
    occurrencesBefore a index name = occurrencesBefore b index name := by
  have count (listed : List StateVariable) :
      occurrencesBefore listed index name =
        (((listed.take index).map (·.name)).filter (· = name)).length := by
    rw [occurrencesBefore, List.filter_map, List.length_map]
    rfl
  have same : (a.take index).map (·.name) = (b.take index).map (·.name) := by
    apply List.ext_getElem?
    intro j
    rw [List.getElem?_map, List.getElem?_map, List.getElem?_take, List.getElem?_take]
    split
    · next inside => exact names j inside
    · rfl
  rw [count a, count b, same]

end StorageLayout.Position
