import Mathlib.Data.List.TakeWhile
import StorageLayout.Proofs.Comparison.Documents

/-!
# Contracts are matched by name

Which names a report has, and what it says about each, depends on the first contracts of the names
alone. Contracts of different names may therefore change places without a change of the report, and
what is said in total is the sum of what is said about each name.
-/
namespace StorageLayout

/-- Something is left of a text without its outer blanks unless all of it is blank. -/
theorem Text.trimmed_ne_empty_iff (s : String) :
    trimmed s ≠ "" ↔ ∃ c ∈ s.toList, ¬ isBlank c := by
  have all_blank : trimmed s = "" ↔ ∀ c ∈ s.toList, isBlank c := by
    rw [trimmed, String.ofList_eq_empty_iff, dropBlankEnd, List.reverse_eq_nil_iff,
      List.dropWhile_eq_nil_iff]
    simp only [List.mem_reverse]
    refine ⟨fun rest c listed => ?_,
      fun all c kept => all c ((List.dropWhile_sublist _).subset kept)⟩
    rw [← List.takeWhile_append_dropWhile (p := isBlank) (l := s.toList), List.mem_append] at listed
    exact listed.elim List.mem_takeWhile_imp (rest c)
  rw [ne_eq, all_blank]
  simp

/-- The name is a part of a list written in one line, without the blanks around it, and the part is
not blank. -/
def ContractFilter.Lists (list name : String) : Prop :=
  ∃ part ∈ Text.parts ',' list, (∃ c ∈ part.toList, ¬ Text.isBlank c) ∧ Text.trimmed part = name

theorem ContractFilter.allows_ofText_iff_lists (list name : String) :
    (ContractFilter.ofText list).allows name ↔ Lists list name := by
  rw [allows_ofText_iff]
  constructor
  · rintro ⟨some_name, part, listed, rfl⟩
    exact ⟨part, listed, (Text.trimmed_ne_empty_iff part).1 some_name, rfl⟩
  · rintro ⟨part, listed, visible, rfl⟩
    exact ⟨(Text.trimmed_ne_empty_iff part).2 visible, part, listed, rfl⟩

namespace SnapshotDocument

/-- The contract is the first of its name in a document. -/
def IsFirst (d : SnapshotDocument) (name : String) (c : ContractSnapshot) : Prop :=
  ∃ before after, d.contracts = before ++ c :: after ∧ c.name = name ∧ ∀ b ∈ before, b.name ≠ name

theorem contract?_eq_some_iff {d : SnapshotDocument} {name : String} {c : ContractSnapshot} :
    d.contract? name = some c ↔ d.IsFirst name c := by
  rw [contract?, List.find?_eq_some_iff_append]
  constructor
  · rintro ⟨named, before, after, split, others⟩
    exact ⟨before, after, split, by simpa using named,
      fun b listed => by simpa using others b listed⟩
  · rintro ⟨before, after, split, named, others⟩
    exact ⟨by simpa using named, before, after, split,
      fun b listed => by simpa using others b listed⟩

theorem exists_contract?_iff {d : SnapshotDocument} {name : String} :
    (∃ c, d.contract? name = some c) ↔ name ∈ d.names := by
  rw [← Option.isSome_iff_exists, contract?, List.find?_isSome]
  simp [names]

/-- The contracts of each name are the same in both documents, in the same order: one document is
the other one in an order that exchanges no contracts of one name. -/
def Reorders (d d' : SnapshotDocument) : Prop :=
  ∀ name, d.contracts.filter (·.name = name) = d'.contracts.filter (·.name = name)

theorem Reorders.contract?_eq {d d' : SnapshotDocument} (reorders : d.Reorders d')
    (name : String) : d.contract? name = d'.contract? name := by
  rw [contract?, contract?, ← List.head?_filter, ← List.head?_filter, reorders name]

variable {old new : SnapshotDocument} {filter : Option String}

/-- A report is about the names that both documents have and that the list, if there is one, has
too. -/
theorem mem_names_compare_iff {name : String} :
    name ∈ (old.compare new (filter.map ContractFilter.ofText)).names ↔
      name ∈ old.names ∧ name ∈ new.names ∧
        ∀ list, filter = some list → ContractFilter.Lists list name := by
  have allowed_iff : isAllowed (filter.map ContractFilter.ofText) name ↔
      ∀ list, filter = some list → ContractFilter.Lists list name := by
    simp only [isAllowed_map_ofText_iff, ContractFilter.allows_ofText_iff_lists]
  rw [Catalog.mem_names_iff, ← allowed_iff, ← exists_contract?_iff, ← exists_contract?_iff]
  simp only [find?_compare]
  constructor
  · rintro ⟨findings, found⟩
    split at found
    · next allowed =>
      obtain ⟨a, b, in_old, in_new, -⟩ := compareNamed_eq_some_iff.1 found
      exact ⟨⟨a, in_old⟩, ⟨b, in_new⟩, allowed⟩
    · cases found
  · rintro ⟨⟨a, in_old⟩, ⟨b, in_new⟩, allowed⟩
    refine ⟨a.compare b, ?_⟩
    rw [if_pos allowed]
    exact compareNamed_eq_some_iff.2 ⟨a, b, in_old, in_new, rfl⟩

/-- A report depends on the documents only through the first contract of each name. -/
theorem compare_eq_of_reorders {old' new' : SnapshotDocument} (left : old.Reorders old')
    (right : new.Reorders new') (filter : Option ContractFilter) :
    old'.compare new' filter = old.compare new filter := by
  refine Catalog.eq_of_find?_eq fun name => ?_
  rw [find?_compare, find?_compare, compareNamed, compareNamed, left.contract?_eq name,
    right.contract?_eq name]

/-- A report has an entry for each name that occurs in both documents and is in the list, if there
is one, and says there what the comparison of the first contracts of that name finds. -/
theorem contracts_are_matched_by_name (old new : SnapshotDocument) (filter : Option String) :
    (∀ name, name ∈ (old.compare new (filter.map ContractFilter.ofText)).names ↔
      name ∈ old.names ∧ name ∈ new.names ∧
        ∀ list, filter = some list → ContractFilter.Lists list name) ∧
    (∀ name findings,
      (old.compare new (filter.map ContractFilter.ofText)).find? name = some findings →
        ∃ a b, old.IsFirst name a ∧ new.IsFirst name b ∧ findings = a.compare b) ∧
    (∀ old' new', old.Reorders old' → new.Reorders new' →
      old'.compare new' (filter.map ContractFilter.ofText) =
        old.compare new (filter.map ContractFilter.ofText)) ∧
    ∀ report : Report,
      report.totals = ((report.entries.map (·.2.errors.length)).sum,
        (report.entries.map (·.2.warnings.length)).sum) ∧
      (0 < report.totals.1 ↔ report.hasErrors) := by
  refine ⟨fun name => mem_names_compare_iff, fun name findings found => ?_,
    fun old' new' left right => compare_eq_of_reorders left right _,
    fun report => ⟨report.totals_eq_sum, report.totals_pos_iff⟩⟩
  rw [find?_compare] at found
  split at found
  · obtain ⟨a, b, in_old, in_new, same⟩ := compareNamed_eq_some_iff.1 found
    exact ⟨a, b, contract?_eq_some_iff.1 in_old, contract?_eq_some_iff.1 in_new, same.symm⟩
  · cases found

end SnapshotDocument
end StorageLayout
