import Mathlib.Control.Basic
import Mathlib.Data.List.Basic
import Mathlib.Data.Option.Basic
import StorageLayout.Comparison.Rules

/-!
# When a rule finds something

For each rule the condition on a position under which it has a finding, without the texts of the
finding. A comparison has a finding exactly where the condition of some rule holds, and an error
exactly where that rule is an error rule: filing the findings loses none and adds none, and keeps
those of one rule in the order of their positions.
-/
namespace StorageLayout

namespace Rule

/-- The condition on a position under which a rule has a finding. -/
def Applies : Rule → Position → Prop
  | missingVariable, p => ∃ old, p.oldVariable? = some old ∧ p.newVariable? = none
  | slotChanged, p => ∃ old new, p.oldVariable? = some old ∧ p.counterpart? = some new ∧
      (old.slot ≠ new.slot ∨ old.offset ≠ new.offset)
  | orderChanged, p => ∃ old new, p.oldVariable? = some old ∧ p.newVariable? = some new ∧
      old.name ≠ new.name ∧ old.typeHash ≠ new.typeHash
  | typeChanged, p => ∃ old new, p.oldVariable? = some old ∧ p.newVariable? = some new ∧
      old.name = new.name ∧ old.slot = new.slot ∧ old.typeHash ≠ new.typeHash
  | nameChanged, p => ∃ old new, p.oldVariable? = some old ∧ p.newVariable? = some new ∧
      old.name ≠ new.name ∧ old.typeHash = new.typeHash

theorem mem_all (rule : Rule) : rule ∈ all := by
  cases rule <;> simp [all]

/-- A rule has a finding exactly under its condition. -/
theorem isSome_check_iff (rule : Rule) (p : Position) :
    (rule.check p).isSome ↔ rule.Applies p := by
  cases found : p.oldVariable? with
  | none =>
    cases rule <;> simp [check, checkMissingVariable, checkSlotChanged, checkOrderChanged,
      checkTypeChanged, checkNameChanged, Applies, found]
  | some old =>
    cases rule with
    | missingVariable =>
      cases listed : p.newVariable? <;>
        simp [check, checkMissingVariable, Applies, found, listed]
    | slotChanged =>
      cases paired : p.counterpart? with
      | none => simp [check, checkSlotChanged, Applies, found, paired]
      | some new =>
        by_cases slot : old.slot = new.slot <;> by_cases offset : old.offset = new.offset <;>
          simp [check, checkSlotChanged, Applies, found, paired, Field.differs, slot, offset]
    | orderChanged =>
      cases listed : p.newVariable? with
      | none => simp [check, checkOrderChanged, Applies, found, listed]
      | some new =>
        by_cases name : old.name = new.name <;> by_cases type : old.typeHash = new.typeHash <;>
          simp [check, checkOrderChanged, Applies, found, listed, Field.differs, name, type]
    | typeChanged =>
      cases listed : p.newVariable? with
      | none => simp [check, checkTypeChanged, Applies, found, listed]
      | some new =>
        by_cases name : old.name = new.name <;> by_cases slot : old.slot = new.slot <;>
          by_cases type : old.typeHash = new.typeHash <;>
          simp [check, checkTypeChanged, Applies, found, listed, Field.differs, name, slot,
            type]
    | nameChanged =>
      cases listed : p.newVariable? with
      | none => simp [check, checkNameChanged, Applies, found, listed]
      | some new =>
        by_cases name : old.name = new.name <;> by_cases type : old.typeHash = new.typeHash <;>
          simp [check, checkNameChanged, Applies, found, listed, Field.differs, name, type]

/-- A finding is made out for its rule. -/
theorem exists_ofRule_of_check {rule : Rule} {p : Position} {d : Diagnostic}
    (finding : rule.check p = some d) : ∃ variableName expected got typeDefinitions,
      d = .ofRule rule variableName expected got typeDefinitions := by
  cases rule with
  | missingVariable =>
    simp only [check, checkMissingVariable, bind, Option.bind_eq_some_iff, pure] at finding
    obtain ⟨old, -, -, -, made⟩ := finding
    exact ⟨_, _, _, _, (Option.some.inj made).symm⟩
  | slotChanged =>
    simp only [check, checkSlotChanged, bind, Option.bind_eq_some_iff, pure] at finding
    obtain ⟨old, -, new, -, -, -, made⟩ := finding
    split at made <;> exact ⟨_, _, _, _, (Option.some.inj made).symm⟩
  | orderChanged =>
    simp only [check, checkOrderChanged, bind, Option.bind_eq_some_iff, pure] at finding
    obtain ⟨old, -, new, -, -, -, made⟩ := finding
    exact ⟨_, _, _, _, (Option.some.inj made).symm⟩
  | typeChanged =>
    simp only [check, checkTypeChanged, bind, Option.bind_eq_some_iff, pure] at finding
    obtain ⟨old, -, new, -, -, -, made⟩ := finding
    exact ⟨_, _, _, _, (Option.some.inj made).symm⟩
  | nameChanged =>
    simp only [check, checkNameChanged, bind, Option.bind_eq_some_iff, pure] at finding
    obtain ⟨old, -, new, -, -, -, made⟩ := finding
    exact ⟨_, _, _, _, (Option.some.inj made).symm⟩

theorem rule_of_check {rule : Rule} {p : Position} {d : Diagnostic}
    (finding : rule.check p = some d) : d.rule = rule := by
  obtain ⟨_, _, _, _, rfl⟩ := exists_ofRule_of_check finding
  rfl

/-- How severe a finding is depends on the rule alone. -/
theorem severity_of_check {rule : Rule} {p : Position} {d : Diagnostic}
    (finding : rule.check p = some d) : d.severity = rule.severity := by
  obtain ⟨_, _, _, _, rfl⟩ := exists_ofRule_of_check finding
  rfl

end Rule

/-- Of the findings at a position, those of a rule are what the rule finds there. -/
theorem Position.filter_diagnostics (p : Position) (rule : Rule) :
    p.diagnostics.filter (·.rule = rule) = (rule.check p).toList := by
  have own (other : Rule) : (other.check p).filter (·.rule = rule) =
      if other = rule then other.check p else none := by
    cases finding : other.check p with
    | none => simp
    | some d =>
      have named := Rule.rule_of_check finding
      by_cases same : other = rule <;> simp [Option.filter, named, same]
  have alone : Rule.all.filter (· = rule) = [rule] := by cases rule <;> rfl
  calc p.diagnostics.filter (·.rule = rule)
      = Rule.all.filterMap fun other => if other = rule then other.check p else none := by
        rw [diagnostics, List.filter_filterMap]
        simp only [own]
    _ = (Rule.all.filter (· = rule)).filterMap (·.check p) := by
        rw [List.filterMap_filter]
        simp only [decide_eq_true_eq]
    _ = (rule.check p).toList := by
        rw [alone, List.filterMap_eq_flatMap_toList, List.flatMap_singleton]

namespace Findings

theorem isClean_iff (f : Findings) : f.isClean ↔ f.diagnostics = [] := by
  simp [isClean, diagnostics]

/-- Filing keeps the errors in order and adds those among the new findings. -/
theorem errors_addAll (f : Findings) (ds : List Diagnostic) :
    (f.addAll ds).errors = f.errors ++ ds.filter (·.severity = .error) := by
  induction ds generalizing f with
  | nil => simp [addAll]
  | cons d rest ih =>
    have step : (f.addAll (d :: rest)).errors = ((f.add d).addAll rest).errors := rfl
    rw [step, ih]
    cases severity : d.severity <;> simp [add, severity]

/-- Filing keeps the warnings in order and adds those among the new findings. -/
theorem warnings_addAll (f : Findings) (ds : List Diagnostic) :
    (f.addAll ds).warnings = f.warnings ++ ds.filter (·.severity = .warning) := by
  induction ds generalizing f with
  | nil => simp [addAll]
  | cons d rest ih =>
    have step : (f.addAll (d :: rest)).warnings = ((f.add d).addAll rest).warnings := rfl
    rw [step, ih]
    cases severity : d.severity <;> simp [add, severity]

theorem hasErrors_addAll_iff (ds : List Diagnostic) :
    (addAll {} ds).hasErrors ↔ ∃ d ∈ ds, d.severity = .error := by
  simp [hasErrors, errors_addAll]

theorem isClean_addAll_iff (ds : List Diagnostic) :
    (addAll {} ds).isClean ↔ ∀ severity : Severity, ¬ ∃ d ∈ ds, d.severity = severity := by
  simp only [isClean, errors_addAll, warnings_addAll]
  constructor
  · intro clean severity
    cases severity <;> simp_all
  · intro none_found
    have no_error := none_found .error
    have no_warning := none_found .warning
    simp_all

theorem mem_diagnostics_addAll_iff (ds : List Diagnostic) (d : Diagnostic) :
    d ∈ (addAll {} ds).diagnostics ↔ d ∈ ds := by
  rw [diagnostics, errors_addAll, warnings_addAll]
  cases severity : d.severity <;> simp [severity]

/-- Filing keeps the findings of a rule in order, because they are all of one severity. -/
theorem byRule_addAll {ds : List Diagnostic} (rule : Rule)
    (severe : ∀ d ∈ ds, d.severity = d.rule.severity) :
    (addAll {} ds).byRule rule = ds.filter (·.rule = rule) := by
  have listed (severity : Severity) :
      (ds.filter (·.severity = severity)).filter (·.rule = rule) =
        if rule.severity = severity then ds.filter (·.rule = rule) else [] := by
    rw [List.filter_filter]
    split
    · next same =>
      refine List.filter_congr fun d member => ?_
      have own := severe d member
      by_cases named : d.rule = rule <;> simp_all
    · next apart =>
      rw [List.filter_eq_nil_iff]
      intro d member both
      simp only [Bool.and_eq_true, decide_eq_true_eq] at both
      exact apart (both.1 ▸ both.2 ▸ (severe d member).symm)
  rw [byRule, diagnostics, errors_addAll, warnings_addAll]
  cases severity : rule.severity <;> simp [listed, severity]

end Findings

namespace ContractSnapshot

/-- The findings of a rule are what it finds at the positions of the old layout, in order. -/
theorem byRule_compare (old new : ContractSnapshot) (rule : Rule) :
    (old.compare new).byRule rule = (Position.all old new).filterMap rule.check := by
  rw [compare, Findings.byRule_addAll, List.filter_flatMap, List.filterMap_eq_flatMap_toList]
  · simp only [Position.filter_diagnostics]
  · intro d member
    obtain ⟨p, -, found⟩ := List.mem_flatMap.1 member
    obtain ⟨own, -, finding⟩ := List.mem_filterMap.1 found
    rw [Rule.severity_of_check finding, Rule.rule_of_check finding]

theorem mem_byRule_compare_iff (old new : ContractSnapshot) (rule : Rule) (d : Diagnostic) :
    d ∈ (old.compare new).byRule rule ↔
      ∃ index < old.stateVariables.length, rule.check ⟨index, old, new⟩ = some d := by
  simp [byRule_compare, Position.all]

/-- What a comparison files comes from a rule that applies to a position of the old layout. -/
theorem exists_finding_iff (old new : ContractSnapshot) (severity : Severity) :
    (∃ d ∈ (Position.all old new).flatMap Position.diagnostics, d.severity = severity) ↔
      ∃ index < old.stateVariables.length, ∃ rule : Rule, rule.severity = severity ∧
        rule.Applies ⟨index, old, new⟩ := by
  constructor
  · rintro ⟨d, member, severe⟩
    simp only [Position.all, List.mem_flatMap, List.mem_map, List.mem_range] at member
    obtain ⟨_, ⟨index, bound, rfl⟩, member⟩ := member
    obtain ⟨rule, -, finding⟩ := List.mem_filterMap.1 member
    refine ⟨index, bound, rule, (Rule.severity_of_check finding).symm.trans severe, ?_⟩
    exact (Rule.isSome_check_iff rule _).1 (by rw [finding]; rfl)
  · rintro ⟨index, bound, rule, severe, applies⟩
    obtain ⟨d, finding⟩ := Option.isSome_iff_exists.1 ((Rule.isSome_check_iff rule _).2 applies)
    refine ⟨d, ?_, (Rule.severity_of_check finding).trans severe⟩
    simp only [Position.all, List.mem_flatMap, List.mem_map, List.mem_range]
    exact ⟨_, ⟨index, bound, rfl⟩, List.mem_filterMap.2 ⟨rule, Rule.mem_all rule, finding⟩⟩

/-- A comparison has an error exactly where an error rule applies. -/
theorem hasErrors_compare_iff (old new : ContractSnapshot) :
    (old.compare new).hasErrors ↔
      ∃ index < old.stateVariables.length, ∃ rule : Rule, rule.severity = .error ∧
        rule.Applies ⟨index, old, new⟩ := by
  rw [← exists_finding_iff, compare, Findings.hasErrors_addAll_iff]

/-- A comparison is clean exactly if no rule applies anywhere. -/
theorem isClean_compare_iff (old new : ContractSnapshot) :
    (old.compare new).isClean ↔
      ∀ index < old.stateVariables.length, ∀ rule : Rule, ¬ rule.Applies ⟨index, old, new⟩ := by
  rw [compare, Findings.isClean_addAll_iff]
  simp only [exists_finding_iff]
  constructor
  · intro none_applies index bound rule applies
    exact none_applies rule.severity ⟨index, bound, rule, rfl, applies⟩
  · rintro none_applies severity ⟨index, bound, rule, -, applies⟩
    exact none_applies index bound rule applies

end ContractSnapshot
end StorageLayout
