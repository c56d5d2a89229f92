import Mathlib.Data.List.Forall2

/-!
# Lists that are run through

A run through a list ends with the first element that fails. If it succeeds, each element has given
its part, and what each element preserves is preserved by the run. Names that are sorted first are
run through in an order that only depends on which names there are.
-/
namespace StorageLayout

theorem exists_of_forall₂ {α β : Type} {R : α → β → Prop} {list : List α} {list' : List β}
    (paired : List.Forall₂ R list list') {a : α} (member : a ∈ list) : ∃ b ∈ list', R a b := by
  induction paired with
  | nil => simp at member
  | @cons head head' rest rest' first _ ih =>
    rcases List.mem_cons.1 member with rfl | member
    · exact ⟨head', by simp, first⟩
    · obtain ⟨b, listed, related⟩ := ih member
      exact ⟨b, by simp [listed], related⟩

theorem exists_getElem?_of_forall₂ {α β : Type} {R : α → β → Prop} {list : List α} {list' : List β}
    (paired : List.Forall₂ R list list') {position : Nat} {a : α}
    (listed : list[position]? = some a) : ∃ b, list'[position]? = some b ∧ R a b := by
  induction paired generalizing position with
  | nil => simp at listed
  | @cons head head' rest rest' first _ ih =>
    cases position with
    | zero =>
      obtain rfl : head = a := by simpa using listed
      exact ⟨head', rfl, first⟩
    | succ position => exact ih listed

theorem exists_append_of_forall₂ {α β : Type} {R : α → β → Prop} {before after : List α} {a : α}
    {list' : List β} (paired : List.Forall₂ R (before ++ a :: after) list') :
    ∃ before' b after', list' = before' ++ b :: after' ∧ List.Forall₂ R before before' ∧ R a b ∧
      List.Forall₂ R after after' := by
  induction before generalizing list' with
  | nil =>
    obtain ⟨b, after', related, rest, rfl⟩ := List.forall₂_cons_left_iff.1 paired
    exact ⟨[], b, after', rfl, .nil, related, rest⟩
  | cons first before ih =>
    obtain ⟨first', list', related, rest, rfl⟩ := List.forall₂_cons_left_iff.1 paired
    obtain ⟨before', b, after', rfl, front, here, back⟩ := ih rest
    exact ⟨first' :: before', b, after', rfl, .cons related front, here, back⟩

theorem bind_eq_ok_iff {ε α β : Type} {x : Except ε α} {f : α → Except ε β} {b : β} :
    x >>= f = .ok b ↔ ∃ a, x = .ok a ∧ f a = .ok b := by
  cases x <;> simp [bind, Except.bind]

theorem map_eq_ok_iff {ε α β : Type} {x : Except ε α} {f : α → β} {b : β} :
    x.map f = .ok b ↔ ∃ a, x = .ok a ∧ f a = b := by
  cases x <;> simp [Except.map]

theorem bind_eq_error_iff {ε α β : Type} {x : Except ε α} {f : α → Except ε β} {e : ε} :
    x >>= f = .error e ↔ x = .error e ∨ ∃ a, x = .ok a ∧ f a = .error e := by
  cases x <;> simp [bind, Except.bind]

theorem mapError_eq_error_iff {ε ε' α : Type} {x : Except ε α} {f : ε → ε'} {e : ε'} :
    x.mapError f = .error e ↔ ∃ cause, x = .error cause ∧ f cause = e := by
  cases x <;> simp [Except.mapError]

/-- What no element destroys is still there at the end of a run. -/
theorem foldlM_preserves {ε α β : Type} {f : β → α → Except ε β} {holds : β → Prop}
    (step : ∀ b a b', holds b → f b a = .ok b' → holds b') {list : List α} {b b' : β}
    (start : holds b) (ran : list.foldlM f b = .ok b') : holds b' := by
  induction list generalizing b with
  | nil =>
    obtain rfl := Except.ok.inj ran
    exact start
  | cons a rest ih =>
    rw [List.foldlM_cons] at ran
    obtain ⟨next, stepped, ran⟩ := bind_eq_ok_iff.1 ran
    exact ih (step b a next start stepped) ran

/-- A list is checked through exactly when each element passes. -/
theorem forM_eq_ok_iff {ε α : Type} {f : α → Except ε Unit} {list : List α} :
    list.forM f = .ok () ↔ ∀ a ∈ list, f a = .ok () := by
  induction list with
  | nil => simp [List.forM, pure, Except.pure]
  | cons a rest ih =>
    rw [List.forall_mem_cons, ← ih]
    change (f a >>= fun _ => rest.forM f) = _ ↔ _
    cases checked : f a with
    | error e => simp [bind, Except.bind]
    | ok _ => simp [bind, Except.bind]

/-- A list is run through exactly when each element gives its value. -/
theorem mapM_eq_ok_iff {ε α β : Type} {f : α → Except ε β} {list : List α} {values : List β} :
    list.mapM f = .ok values ↔ List.Forall₂ (fun a b => f a = .ok b) list values := by
  induction list generalizing values with
  | nil => cases values <;> simp [pure, Except.pure]
  | cons a rest ih =>
    rw [List.mapM_cons, List.forall₂_cons_left_iff]
    cases first : f a with
    | error e => simp [bind, Except.bind]
    | ok b =>
      cases others : rest.mapM f with
      | error e => simp [bind, Except.bind, ← ih, others]
      | ok bs => simp [bind, Except.bind, pure, Except.pure, ← ih, others, eq_comm]

/-- What each element of a run carries over to its counterpart is carried over by the run. -/
theorem exists_mapM_of_forall₂ {ε α β : Type} {f : α → Except ε β} {fine : α → Prop}
    {R : α → α → Prop} {S : β → β → Prop}
    (carry : ∀ {a a' b}, fine a → fine a' → R a a' → f a = .ok b → ∃ b', f a' = .ok b' ∧ S b b')
    {list list' : List α} (each_fine : ∀ a ∈ list, fine a) (each_fine' : ∀ a ∈ list', fine a)
    (related : List.Forall₂ R list list') {values : List β} (ran : list.mapM f = .ok values) :
    ∃ values', list'.mapM f = .ok values' ∧ List.Forall₂ S values values' := by
  rw [mapM_eq_ok_iff] at ran
  simp only [mapM_eq_ok_iff]
  induction related generalizing values with
  | nil =>
    cases ran
    exact ⟨[], .nil, .nil⟩
  | cons first _ ih =>
    rw [List.forall_mem_cons] at each_fine each_fine'
    obtain ⟨b, rest, gives, others, rfl⟩ := List.forall₂_cons_left_iff.1 ran
    obtain ⟨b', gives', same⟩ := carry each_fine.1 each_fine'.1 first gives
    obtain ⟨rest', others', same_rest⟩ := ih each_fine.2 each_fine'.2 others
    exact ⟨b' :: rest', .cons gives' others', .cons same same_rest⟩

theorem mapM_eq_of_forall₂ {m : Type → Type} [Monad m] [LawfulMonad m] {α β : Type} {f : α → m β}
    {list list' : List α} (same : List.Forall₂ (fun a a' => f a = f a') list list') :
    list.mapM f = list'.mapM f := by
  induction same with
  | nil => rfl
  | cons first _ ih => rw [List.mapM_cons, List.mapM_cons, first, ih]

/-- The first element of a kind is the head, or is found behind a head that is passed over. -/
theorem exists_first_cons_iff {α : Type} {passed found : α → Prop} {head : α} {rest : List α} :
    (∃ before a after, head :: rest = before ++ a :: after ∧ (∀ b ∈ before, passed b) ∧ found a) ↔
      found head ∨ passed head ∧ ∃ before a after, rest = before ++ a :: after ∧
        (∀ b ∈ before, passed b) ∧ found a := by
  constructor
  · rintro ⟨before, a, after, split, all_passed, here⟩
    cases before with
    | nil =>
      obtain ⟨rfl, rfl⟩ := List.cons.inj split
      exact .inl here
    | cons head' before =>
      obtain ⟨rfl, rfl⟩ := List.cons.inj split
      obtain ⟨passed_head, passed_others⟩ := List.forall_mem_cons.1 all_passed
      exact .inr ⟨passed_head, before, a, after, rfl, passed_others, here⟩
  · rintro (here | ⟨passed_head, before, a, after, rfl, passed_others, here⟩)
    · exact ⟨[], head, rest, rfl, List.forall_mem_nil _, here⟩
    · exact ⟨head :: before, a, after, rfl, List.forall_mem_cons.2 ⟨passed_head, passed_others⟩,
        here⟩

/-- A run through a list ends with the first element that fails. -/
theorem mapM_eq_error_iff {ε α β : Type} {f : α → Except ε β} {list : List α} {e : ε} :
    list.mapM f = .error e ↔
      ∃ before a after, list = before ++ a :: after ∧ (∀ b ∈ before, (f b).isOk) ∧
        f a = .error e := by
  induction list with
  | nil => simp [pure, Except.pure]
  | cons head rest ih =>
    rw [List.mapM_cons, exists_first_cons_iff, ← ih]
    cases f head with
    | error e' => simp [bind, Except.bind, Except.isOk, Except.toBool]
    | ok value =>
      cases rest.mapM f <;>
        simp [bind, Except.bind, pure, Except.pure, Except.isOk, Except.toBool]

/-- A list is run through exactly if each element passes. -/
theorem exists_mapM_eq_ok_iff {ε α β : Type} {f : α → Except ε β} {list : List α} :
    (∃ values, list.mapM f = .ok values) ↔ ∀ a ∈ list, (f a).isOk := by
  constructor
  · rintro ⟨values, ran⟩ a listed
    obtain ⟨b, -, passed⟩ := exists_of_forall₂ (mapM_eq_ok_iff.1 ran) listed
    rw [passed]
    rfl
  · intro passed
    cases ran : list.mapM f with
    | ok values => exact ⟨values, rfl⟩
    | error e =>
      obtain ⟨before, a, after, rfl, -, failed⟩ := mapM_eq_error_iff.1 ran
      have passed_a := passed a (by simp)
      rw [failed] at passed_a
      cases passed_a

section Sorting

variable {names names' : List String}

theorem pairwise_le_mergeSort (names : List String) :
    (names.mergeSort (· ≤ ·)).Pairwise (· ≤ ·) := by
  refine (List.pairwise_mergeSort ?_ ?_ names).imp of_decide_eq_true
  · intro a b c
    simpa using String.le_trans
  · intro a b
    simpa using String.le_total a b

/-- Distinct names come out in strictly ascending order. -/
theorem pairwise_lt_mergeSort (distinct : names.Nodup) :
    (names.mergeSort (· ≤ ·)).Pairwise (· < ·) := by
  have still_distinct : (names.mergeSort (· ≤ ·)).Nodup :=
    (List.mergeSort_perm names (· ≤ ·)).nodup_iff.2 distinct
  refine (pairwise_le_mergeSort names).imp₂ ?_ still_distinct
  intro a b ordered different
  exact String.not_le.1 fun reversed => different (String.le_antisymm ordered reversed)

/-- The order in which names are given does not matter once they are sorted. -/
theorem mergeSort_eq_of_perm (same : names.Perm names') :
    names.mergeSort (· ≤ ·) = names'.mergeSort (· ≤ ·) := by
  have rearranged : (names.mergeSort (· ≤ ·)).Perm (names'.mergeSort (· ≤ ·)) :=
    (List.mergeSort_perm names _).trans (same.trans (List.mergeSort_perm names' _).symm)
  exact rearranged.eq_of_pairwise (fun _ _ _ _ => String.le_antisymm)
    (pairwise_le_mergeSort names) (pairwise_le_mergeSort names')

end Sorting

end StorageLayout
