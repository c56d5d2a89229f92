import StorageLayout.Proofs.Comparison.Triggers
import StorageLayout.Proofs.Extraction.Entries
import StorageLayout.Proofs.Fingerprint.Structure
import StorageLayout.Proofs.TypeDefinition.Numbering
import StorageLayout.Proofs.TypeDefinition.Recompilation

/-!
# What a changed type shows

A finding about a changed type carries the displays of the old and the new type. If they read the
same, then some key that stands for an earlier type stands for types that were not expanded at the
same place: expansions do not show their keys, so that the compiler may have exchanged two of them.
In all other cases the two texts differ.
-/
namespace StorageLayout

namespace TypeScope

/-- The text that is shown for a key, with the display and the order in which it expands types. -/
structure ShownAs (s : TypeScope) (key text : String) (shown : DisplayType) (order : List String) :
    Prop where
  resolved : s.resolve key = .ok shown
  displays : s.Displays key shown order
  written : shown.json.indented = text

/-- The texts that are shown for two keys differ, or some key in them stands for a type that the two
displays did not expand at the same place in order. -/
def ToldApart (s t : TypeScope) (key key' text text' : String) : Prop :=
  ∃ shown order shown' order', s.ShownAs key text shown order ∧ t.ShownAs key' text' shown' order' ∧
    (text ≠ text' ∨ ∃ other, shown.Shows other ∧ order.idxOf? other ≠ order'.idxOf? other)

theorem exists_shownAs {s : TypeScope} {hash : String → String} {key fingerprint : String}
    (given : s.unlimitedFingerprint hash key = .ok fingerprint) :
    ∃ text shown order, s.ShownAs key text shown order := by
  obtain ⟨definition, root, entered, digest, low, -⟩ := digest_of_unlimitedFingerprint given
  have shallow : (s.plainDigest hash key []).height ≤ maxTypeDepth := by
    rw [digest]
    exact low
  obtain ⟨shown, order, resolved, displays⟩ := exists_displays hash entered shallow
  exact ⟨_, shown, order, resolved, displays, rfl⟩

theorem ShownAs.renderType {c : ContractSnapshot} {key text : String} {shown : DisplayType}
    {order : List String} (first : ShownAs ⟨c.name, c.types⟩ key text shown order) :
    c.renderType key = (shown.displayLabel, text) := by
  rw [ContractSnapshot.renderType, first.resolved, ← first.written]

/-- Types with different fingerprints are told apart. -/
theorem exists_toldApart {s t : TypeScope} {hash : String → String}
    {key key' fingerprint fingerprint' : String}
    (given : s.unlimitedFingerprint hash key = .ok fingerprint)
    (given' : t.unlimitedFingerprint hash key' = .ok fingerprint')
    (changed : fingerprint ≠ fingerprint') : ∃ text text', ToldApart s t key key' text text' := by
  obtain ⟨text, shown, order, first⟩ := exists_shownAs given
  obtain ⟨text', shown', order', second⟩ := exists_shownAs given'
  refine ⟨text, text', shown, order, shown', order', first, second, ?_⟩
  by_contra same
  simp only [ne_eq, not_or, not_not, not_exists, not_and] at same
  obtain ⟨rfl, kept⟩ := same
  obtain rfl := DisplayType.eq_of_indented_eq (first.written.trans second.written.symm)
  have alike := first.displays.alike second.displays kept
  have digests : s.plainDigest hash key [] = t.plainDigest hash key' [] :=
    inline_eq_of_alike (ChildRef.inlining hash) alike
  obtain ⟨-, root, -, digest, -, rfl⟩ := digest_of_unlimitedFingerprint given
  obtain ⟨-, root', -, digest', -, rfl⟩ := digest_of_unlimitedFingerprint given'
  rw [digest, digest', ChildRef.digest.injEq] at digests
  exact changed (congrArg NodeDigest.fingerprint digests)

end TypeScope

namespace ContractSnapshot

def scope (c : ContractSnapshot) : TypeScope := ⟨c.name, c.types⟩

/-- The fingerprint of an extracted variable is that of its type. -/
theorem unlimitedFingerprint_of_extract {name : String} {layout : Option RawLayout}
    {c : ContractSnapshot} (extracted : RawLayout.extract name layout = .ok (some c))
    {v : StateVariable} (listed : v ∈ c.stateVariables) :
    c.scope.unlimitedFingerprint Digest.blake3 v.typeKey = .ok v.typeHash := by
  match layout with
  | none | some ⟨storage, none⟩ => exact nomatch extracted
  | some ⟨storage, some types⟩ =>
    obtain ⟨each, rfl, rfl⟩ :=
      Canonicalizer.unlimitedVariables_of_extract (s := ⟨name, types⟩) extracted
    obtain ⟨e, -, given⟩ := exists_of_forall₂ (mapM_eq_ok_iff.1 each).flip listed
    obtain ⟨slot, typeHash, -, fingerprint, rfl⟩ := RawEntry.unlimitedVariable_eq_ok_iff.1 given
    exact fingerprint

theorem exists_of_checkTypeChanged {p : Position} {d : Diagnostic}
    (finding : Rule.check .typeChanged p = some d) :
    ∃ v w label, p.oldVariable? = some v ∧ p.newVariable? = some w ∧ v.typeHash ≠ w.typeHash ∧
      d.variableName = v.name ∧ d.typeDefinitions =
        some ⟨label, (p.old.renderType v.typeKey).2, (p.new.renderType w.typeKey).2⟩ := by
  obtain ⟨v, w, old, new, -, -, changed⟩ :=
    (Rule.isSome_check_iff .typeChanged p).1 (by rw [finding]; rfl)
  simp only [Rule.check, Rule.checkTypeChanged, old, new, bind, Option.bind_some] at finding
  obtain ⟨_, -, made⟩ := Option.bind_eq_some_iff.1 finding
  rw [← Option.some.inj made]
  exact ⟨v, w, _, old, new, changed, rfl, rfl⟩

end ContractSnapshot

open Canonicalizer TypeScope

/-- Types with different fingerprints are both displayed and told apart. So are the definitions that
a finding about a changed type carries, if both snapshots were extracted. -/
theorem changed_types_are_told_apart :
    (∀ (hash : String → String) (s t : TypeScope) (key key' fingerprint fingerprint' : String),
      (ofScope hash s).freshFingerprint key = .ok fingerprint →
      (ofScope hash t).freshFingerprint key' = .ok fingerprint' → fingerprint ≠ fingerprint' →
        ∃ text text', s.ToldApart t key key' text text') ∧
    ∀ (name name' : String) (layout layout' : Option RawLayout) (old new : ContractSnapshot),
      RawLayout.extract name layout = .ok (some old) →
      RawLayout.extract name' layout' = .ok (some new) →
        ∀ d ∈ (old.compare new).byRule .typeChanged,
          ∃ v ∈ old.stateVariables, ∃ w ∈ new.stateVariables, ∃ label expected got,
            d.variableName = v.name ∧ d.typeDefinitions = some ⟨label, expected, got⟩ ∧
            old.scope.ToldApart new.scope v.typeKey w.typeKey expected got := by
  constructor
  · intro hash s t key key' fingerprint fingerprint' given given' changed
    have unlimited {u : TypeScope} {k f : String}
        (fresh : (ofScope hash u).freshFingerprint k = .ok f) :
        u.unlimitedFingerprint hash k = .ok f := by
      rcases freshFingerprint_ends (faithful_ofScope hash u) k with complex | same
      · exact nomatch complex.symm.trans fresh
      · exact same.symm.trans fresh
    exact exists_toldApart (unlimited given) (unlimited given') changed
  · intro name name' layout layout' old new extracted extracted' d listed
    obtain ⟨index, -, finding⟩ := (ContractSnapshot.mem_byRule_compare_iff _ _ _ _).1 listed
    obtain ⟨v, w, label, before, after, changed, named, shown⟩ :=
      ContractSnapshot.exists_of_checkTypeChanged finding
    have member : v ∈ old.stateVariables := List.mem_of_getElem? before
    have member' : w ∈ new.stateVariables := List.mem_of_getElem? after
    obtain ⟨text, text', apart⟩ := exists_toldApart
      (ContractSnapshot.unlimitedFingerprint_of_extract extracted member)
      (ContractSnapshot.unlimitedFingerprint_of_extract extracted' member') changed
    have ⟨_, _, _, _, first, second, _⟩ := apart
    rw [first.renderType (c := old), second.renderType (c := new)] at shown
    exact ⟨v, member, w, member', label, text, text', named, shown, apart⟩

section ListTypes

variable (swapped : Bool)

theorem plainDigest_table : (listTypes swapped).plainDigest Digest.blake3 "t_table" [] =
    .digest (tableDigest swapped) := by
  rw [plainDigest_of_find? List.not_mem_nil (find?_table swapped), map_mapping,
    plainDigest_outer swapped (by cases swapped <;> decide), tableDigest]
  cases swapped with
  | false =>
    rw [plainDigest_outer false (by decide)]
    rfl
  | true =>
    have value : (listTypes true).plainDigest Digest.blake3 (numbered false) ["t_table"] =
      .digest innerDigest := plainDigest_inner true (by decide)
    rw [value]
    rfl

/-- What is shown in both numberings. -/
def shownTable : DisplayType where
  label := "table"
  node := mappingNode
    (.expanded "bool[][]" (arrayNode (.expanded "bool[]" (arrayNode (.expanded "bool" boolNode)))))
    (.repeated (numbered false))

/-- The value of the mapping is a key that stands for an earlier type, and not the same one in
both. -/
theorem displays_table : (listTypes swapped).Displays "t_table" shownTable
    ["t_table", numbered swapped, numbered !swapped] := by
  have inner : (listTypes swapped).Expands [numbered swapped, "t_table"]
      ["t_table", numbered swapped] [numbered !swapped]
      [.expanded "bool[]" (arrayNode (.expanded "bool" boolNode))]
      ["t_table", numbered swapped, numbered !swapped] :=
    .first (by cases swapped <;> decide) (find?_inner swapped) rfl (by cases swapped <;> decide) rfl
      rfl (.simple (by cases swapped <;> decide) (find?_bool swapped) rfl rfl rfl .nil) .nil
  refine ⟨_, find?_table swapped, rfl, rfl, ?_⟩
  refine .first (by cases swapped <;> decide) (find?_outer swapped) rfl
    (by cases swapped <;> decide) rfl rfl inner ?_
  cases swapped with
  | false => exact .repeated (by decide) (find?_outer false) rfl (by decide) .nil
  | true => exact .repeated (by decide) (find?_inner true) rfl (by decide) .nil

theorem resolve_table : (listTypes swapped).resolve "t_table" = .ok shownTable := by
  have low :
      ((listTypes swapped).plainDigest Digest.blake3 "t_table" []).height ≤ maxTypeDepth := by
    rw [plainDigest_table]
    cases swapped <;> decide
  obtain ⟨shown, order, resolved, displays⟩ :=
    exists_displays Digest.blake3 (find?_table swapped) low
  rw [resolved, (displays.unique (displays_table swapped)).1]

theorem freshFingerprint_table :
    (ofScope Digest.blake3 (listTypes swapped)).freshFingerprint "t_table" =
      .ok (tableDigest swapped).fingerprint :=
  freshFingerprint_of_few (faithful_ofScope Digest.blake3 (listTypes swapped))
    (by cases swapped <;> decide) (plainDigest_table swapped)

/-- A contract with a variable of this type, as the compiler gives it. -/
def tableLayout : RawLayout :=
  ⟨[⟨"table", "0", 0, "t_table", none, none⟩], some (listTypes swapped).types⟩

def tableSnapshot : ContractSnapshot :=
  ⟨"Vault", [⟨"table", ⟨0⟩, 0, "t_table", (tableDigest swapped).fingerprint⟩],
    (listTypes swapped).types⟩

theorem extract_tableLayout :
    RawLayout.extract "Vault" (some (tableLayout swapped)) =
      .ok (some (tableSnapshot swapped)) := by
  exact extract_of_few (s := listTypes swapped) (by cases swapped <;> decide)
    (.cons ⟨⟨0⟩, tableDigest swapped, rfl, plainDigest_table swapped, rfl⟩ .nil)

theorem shownAs_table : (listTypes swapped).ShownAs "t_table" shownTable.json.indented shownTable
    ["t_table", numbered swapped, numbered !swapped] :=
  ⟨resolve_table swapped, displays_table swapped, rfl⟩

end ListTypes

/-- The fingerprints differ, because the mapping leads to other values. -/
theorem fingerprint_table_differs :
    (tableDigest false).fingerprint ≠ (tableDigest true).fingerprint := by
  obtain ⟨-, -, -, before, after⟩ := digests_of_nodes
  rw [before, after]
  decide

/-- The comparison finds the change, and both definitions in the finding read the same. -/
theorem exists_typeChanged_table :
    ∃ d ∈ ((tableSnapshot false).compare (tableSnapshot true)).byRule .typeChanged, ∃ label,
      d.typeDefinitions = some ⟨label, shownTable.json.indented, shownTable.json.indented⟩ := by
  obtain ⟨d, finding⟩ := Option.isSome_iff_exists.1 ((Rule.isSome_check_iff .typeChanged
    ⟨0, tableSnapshot false, tableSnapshot true⟩).2
      ⟨_, _, rfl, rfl, rfl, rfl, fingerprint_table_differs⟩)
  refine ⟨d, (ContractSnapshot.mem_byRule_compare_iff _ _ _ _).2 ⟨0, Nat.one_pos, finding⟩, ?_⟩
  obtain ⟨v, w, label, before, after, -, -, shown⟩ :=
    ContractSnapshot.exists_of_checkTypeChanged finding
  obtain rfl := Option.some.inj before
  obtain rfl := Option.some.inj after
  have old := (shownAs_table false).renderType (c := tableSnapshot false)
  have new := (shownAs_table true).renderType (c := tableSnapshot true)
  dsimp only at shown
  rw [old, new] at shown
  exact ⟨label, shown⟩

/-- Both numberings have fingerprints, and are told apart. -/
theorem tables_are_told_apart :
    (ofScope Digest.blake3 (listTypes false)).freshFingerprint "t_table" =
      .ok (tableDigest false).fingerprint ∧
    (ofScope Digest.blake3 (listTypes true)).freshFingerprint "t_table" =
      .ok (tableDigest true).fingerprint ∧
    (tableDigest false).fingerprint ≠ (tableDigest true).fingerprint ∧
    (∃ text text', ToldApart (listTypes false) (listTypes true) "t_table" "t_table" text text') ∧
    RawLayout.extract "Vault" (some (tableLayout false)) = .ok (some (tableSnapshot false)) ∧
    RawLayout.extract "Vault" (some (tableLayout true)) = .ok (some (tableSnapshot true)) ∧
    ∃ d ∈ ((tableSnapshot false).compare (tableSnapshot true)).byRule .typeChanged,
      ∃ v ∈ (tableSnapshot false).stateVariables, ∃ w ∈ (tableSnapshot true).stateVariables,
        ∃ label expected got, d.variableName = v.name ∧
          d.typeDefinitions = some ⟨label, expected, got⟩ ∧
          (tableSnapshot false).scope.ToldApart (tableSnapshot true).scope v.typeKey w.typeKey
            expected got := by
  have given := freshFingerprint_table false
  have given' := freshFingerprint_table true
  have extracted := extract_tableLayout false
  have extracted' := extract_tableLayout true
  obtain ⟨d, listed, -⟩ := exists_typeChanged_table
  exact ⟨given, given', fingerprint_table_differs,
    changed_types_are_told_apart.1 _ _ _ _ _ _ _ given given' fingerprint_table_differs, extracted,
    extracted', d, listed,
    changed_types_are_told_apart.2 _ _ _ _ _ _ extracted extracted' d listed⟩

/-- Types with different fingerprints may be shown alike: in both numberings the value of the
mapping is shown by the same key, which stands for the outer list in one and for the inner list in
the other. A comparison of the extracted snapshots then finds a changed type with equal
definitions. -/
theorem exchanged_keys_hide_a_change :
    (¬ ∀ (s t : TypeScope) (key key' fingerprint fingerprint' : String)
        (shown shown' : DisplayType),
      (ofScope Digest.blake3 s).freshFingerprint key = .ok fingerprint →
      (ofScope Digest.blake3 t).freshFingerprint key' = .ok fingerprint' →
      fingerprint ≠ fingerprint' → s.resolve key = .ok shown → t.resolve key' = .ok shown' →
        shown.json.indented ≠ shown'.json.indented) ∧
    RawLayout.extract "Vault" (some (tableLayout false)) = .ok (some (tableSnapshot false)) ∧
    RawLayout.extract "Vault" (some (tableLayout true)) = .ok (some (tableSnapshot true)) ∧
    ∃ d ∈ ((tableSnapshot false).compare (tableSnapshot true)).byRule .typeChanged,
      ∃ label text, d.typeDefinitions = some ⟨label, text, text⟩ := by
  obtain ⟨d, listed, label, shown⟩ := exists_typeChanged_table
  refine ⟨fun visible => ?_, extract_tableLayout false, extract_tableLayout true, d, listed, label,
    _, shown⟩
  exact visible (listTypes false) (listTypes true) "t_table" "t_table" _ _ shownTable shownTable
    (freshFingerprint_table false) (freshFingerprint_table true) fingerprint_table_differs
    (resolve_table false) (resolve_table true) rfl

end StorageLayout
