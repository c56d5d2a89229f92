import Mathlib.Algebra.GroupWithZero.Nat
import Mathlib.Algebra.BigOperators.Group.List.Basic
import StorageLayout.Comparison.Documents
import StorageLayout.Proofs.Catalog
import StorageLayout.Proofs.Comparison.Verdict

/-!
# What a report says about a contract

The report on two documents is gathered contract by contract. What it says about a name does not
depend on the other contracts: it is the comparison of the first contracts of that name, if both
documents have one and the name is to be compared.
-/
namespace StorageLayout

theorem ContractFilter.allows_ofText_iff (list name : String) :
    (ContractFilter.ofText list).allows name ↔
      name ≠ "" ∧ ∃ part ∈ Text.parts ',' list, Text.trimmed part = name := by
  simp only [allows, ofText, List.mem_filter, List.mem_map, decide_eq_true_eq]
  exact and_comm

theorem Report.hasErrors_iff (r : Report) :
    r.hasErrors ↔ ∃ name findings, r.find? name = some findings ∧ findings.hasErrors := by
  simp [Report.hasErrors, Catalog.find?_eq_some_iff]

theorem Report.foldl_add_eq_sum {α : Type} (count : α → Nat) (list : List α) (start : Nat) :
    list.foldl (fun n a => n + count a) start = start + (list.map count).sum := by
  induction list generalizing start with
  | nil => rfl
  | cons a rest ih => rw [List.foldl_cons, ih, List.map_cons, List.sum_cons, Nat.add_assoc]

/-- What is counted in total is the sum over the entries. -/
theorem Report.totals_eq_sum (r : Report) :
    r.totals = ((r.entries.map (·.2.errors.length)).sum,
      (r.entries.map (·.2.warnings.length)).sum) := by
  refine Prod.ext ?_ ?_
  · exact (foldl_add_eq_sum (fun entry : String × Findings => entry.2.errors.length) _ 0).trans
      (Nat.zero_add _)
  · exact (foldl_add_eq_sum (fun entry : String × Findings => entry.2.warnings.length) _ 0).trans
      (Nat.zero_add _)

theorem Report.totals_pos_iff (r : Report) : 0 < r.totals.1 ↔ r.hasErrors := by
  rw [totals_eq_sum, List.sum_pos_iff_exists_pos_nat]
  simp [Report.hasErrors, Findings.hasErrors, List.length_pos_iff]

/-- Nothing is counted where nothing has been found. -/
theorem Report.totals_of_isClean {r : Report}
    (clean : ∀ name findings, r.find? name = some findings → findings.isClean) :
    r.totals = (0, 0) := by
  have nothing : ∀ entry ∈ r.entries, entry.2.errors = [] ∧ entry.2.warnings = [] := by
    rintro ⟨name, findings⟩ filed
    simpa [Findings.isClean] using clean name findings ((r.find?_eq_some_iff name findings).2 filed)
  rw [totals_eq_sum]
  refine Prod.ext (List.sum_eq_zero ?_) (List.sum_eq_zero ?_)
  · rw [List.forall_mem_map]
    exact fun entry filed => by rw [(nothing entry filed).1, List.length_nil]
  · rw [List.forall_mem_map]
    exact fun entry filed => by rw [(nothing entry filed).2, List.length_nil]

theorem Report.hasErrors_of_isClean {r : Report}
    (clean : ∀ name findings, r.find? name = some findings → findings.isClean) :
    r.hasErrors = false := by
  rw [← Bool.not_eq_true, Report.hasErrors_iff]
  rintro ⟨name, findings, found, errors⟩
  have none_found := clean name findings found
  simp_all [Findings.isClean, Findings.hasErrors]

/-- A comparison has errors exactly if one of its diagnostics is severe. -/
theorem ContractSnapshot.hasErrors_compare_iff_exists (old new : ContractSnapshot) :
    (old.compare new).hasErrors ↔
      ∃ d ∈ (old.compare new).diagnostics, d.severity = .error := by
  simp only [compare, Findings.hasErrors_addAll_iff, Findings.mem_diagnostics_addAll_iff]

namespace SnapshotDocument

variable {name : String} {filter : Option ContractFilter}

theorem isAllowed_map_ofText_iff {list? : Option String} :
    isAllowed (list?.map ContractFilter.ofText) name ↔
      ∀ list, list? = some list → (ContractFilter.ofText list).allows name := by
  cases list? <;> simp [isAllowed]

theorem contract?_cons (c : ContractSnapshot) (rest : List ContractSnapshot) (name : String) :
    (⟨c :: rest⟩ : SnapshotDocument).contract? name =
      if c.name = name then some c else (⟨rest⟩ : SnapshotDocument).contract? name := by
  by_cases same : c.name = name <;> simp [contract?, same]

/-- The comparison of the first contracts of a name. -/
def compareNamed (old new : SnapshotDocument) (name : String) : Option Findings := do
  let a ← old.contract? name
  let b ← new.contract? name
  return a.compare b

theorem compareNamed_eq_some_iff {old new : SnapshotDocument} {findings : Findings} :
    old.compareNamed new name = some findings ↔
      ∃ a b, old.contract? name = some a ∧ new.contract? name = some b ∧
        a.compare b = findings := by
  unfold compareNamed
  cases old.contract? name <;> cases new.contract? name <;> simp

/-- What is said about a name already stays; otherwise a contract of that name is compared if it may
be and there is one to compare it with. -/
theorem find?_compareContract (new : SnapshotDocument) (report : Report) (c : ContractSnapshot) :
    (new.compareContract filter report c).find? name =
      (report.find? name).or (if c.name = name ∧ isAllowed filter name then
        (new.contract? name).map c.compare else none) := by
  by_cases same : c.name = name
  · subst same
    unfold compareContract Catalog.contains
    cases said : report.find? c.name with
    | some findings => simp [said]
    | none =>
      cases allowed : isAllowed filter c.name with
      | false => simp [said]
      | true => cases new.contract? c.name <;> simp [said]
  · unfold compareContract
    simp only [same, false_and, if_false, Option.or_none]
    split
    · rfl
    · cases new.contract? c.name with
      | none => rfl
      | some candidate => simp [Ne.symm same]

/-- What is already in the report is kept; other names get the comparison of their first
contracts. -/
theorem find?_foldl_compareContract (new : SnapshotDocument) (contracts : List ContractSnapshot)
    (report : Report) :
    (contracts.foldl (new.compareContract filter) report).find? name =
      (report.find? name).or (if isAllowed filter name then
        compareNamed ⟨contracts⟩ new name else none) := by
  induction contracts generalizing report with
  | nil => simp [compareNamed, contract?]
  | cons c rest ih =>
    rw [List.foldl_cons, ih, find?_compareContract, Option.or_assoc]
    congr 1
    by_cases allowed : isAllowed filter name
    · by_cases same : c.name = name
      · cases candidate : new.contract? name <;>
          simp [allowed, same, compareNamed, contract?_cons, candidate]
      · simp [allowed, same, compareNamed, contract?_cons]
    · simp [allowed]

/-- A report says about a name what the comparison of the first contracts of that name finds, and
nothing if the name is not to be compared. -/
theorem find?_compare (old new : SnapshotDocument) (filter : Option ContractFilter)
    (name : String) :
    (old.compare new filter).find? name =
      if isAllowed filter name then old.compareNamed new name else none := by
  rw [compare, find?_foldl_compareContract]
  simp

/-- Nothing is found between a document and itself. -/
theorem isClean_of_find?_compare_self (d : SnapshotDocument) (filter : Option ContractFilter)
    (name : String) (findings : Findings)
    (found : (d.compare d filter).find? name = some findings) : findings.isClean := by
  rw [find?_compare] at found
  split at found
  · obtain ⟨a, b, first, again, rfl⟩ := compareNamed_eq_some_iff.1 found
    obtain rfl := Option.some.inj (first.symm.trans again)
    exact ContractSnapshot.isClean_compare_self a
  · cases found

end SnapshotDocument
end StorageLayout
