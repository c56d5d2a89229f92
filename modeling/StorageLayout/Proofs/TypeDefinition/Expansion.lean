import StorageLayout.Proofs.Fingerprint.Places
import StorageLayout.Proofs.TypeDefinition.Display
import StorageLayout.Proofs.TypeDefinition.Shape
import StorageLayout.Proofs.TypeDefinition.Traversal

/-!
# Every type is expanded once

A display is built by one walk that goes below a type only where it first meets it. The types that
it has gone below are therefore numbered, in the order of their first expansion. The walk succeeds
whenever the type nests no deeper than the limit, because it goes below no type that inlining does
not go below.
-/
namespace StorageLayout

theorem forall₂_of_append {α β : Type} {R : α → β → Prop} {as cs : List α} {bs ds : List β}
    (lengths : as.length = bs.length) (paired : List.Forall₂ R (as ++ cs) (bs ++ ds)) :
    List.Forall₂ R as bs ∧ List.Forall₂ R cs ds := by
  induction as generalizing bs with
  | nil =>
    obtain rfl := List.eq_nil_of_length_eq_zero lengths.symm
    exact ⟨.nil, paired⟩
  | cons a rest ih =>
    cases bs with
    | nil => simp at lengths
    | cons b rest' =>
      obtain ⟨first, others⟩ := List.forall₂_cons.1 paired
      obtain ⟨tail, right⟩ := ih (Nat.succ.inj lengths) others
      exact ⟨.cons first tail, right⟩

/-- What is related in the order of display is related in the order of hashing. -/
theorem TypeNode.forall₂_references {ρ σ : Type} {R : ρ → σ → Prop} {n : TypeNode ρ}
    {m : TypeNode σ}
    (skeletons : n.skeleton = m.skeleton)
    (paired : List.Forall₂ R n.displayReferences m.displayReferences) :
    List.Forall₂ R n.references m.references := by
  obtain ⟨encoding, bytes, key, members, value, base⟩ := n
  obtain ⟨encoding', bytes', key', members', value', base'⟩ := m
  simp only [skeleton_mk, mk.injEq] at skeletons
  obtain ⟨-, -, keys, listed, values, -⟩ := skeletons
  have option_lengths {o : Option ρ} {o' : Option σ} (same : presence o = presence o') :
      o.toList.length = o'.toList.length := by
    cases o <;> cases o' <;> simp_all [presence]
  have member_lengths : (NodeMember.types (members.getD [])).length =
      (NodeMember.types (members'.getD [])).length := by
    cases members <;> cases members' <;> simp at listed
    · rfl
    · simpa [NodeMember.types, NodeMember.skeletons] using congrArg List.length listed
  rw [displayReferences_mk, displayReferences_mk, List.append_assoc, List.append_assoc,
    List.append_assoc, List.append_assoc] at paired
  obtain ⟨in_members, paired⟩ := forall₂_of_append member_lengths paired
  obtain ⟨in_key, paired⟩ := forall₂_of_append (option_lengths keys) paired
  simp only [references_mk, List.append_assoc]
  exact List.rel_append in_key (List.rel_append in_members paired)

theorem TypeNode.eq_of_displayReferences_eq {ρ : Type} {n m : TypeNode ρ}
    (skeletons : n.skeleton = m.skeleton) (references : n.displayReferences = m.displayReferences) :
    n = m := by
  refine eq_of_skeleton_eq skeletons ?_
  rw [← List.forall₂_eq_eq_eq] at references ⊢
  exact forall₂_references skeletons references

theorem TypeNode.mem_displayReferences_iff {ρ : Type} (n : TypeNode ρ) (reference : ρ) :
    reference ∈ n.displayReferences ↔ reference ∈ n.references := by
  simp only [displayReferences, references, List.mem_append]
  tauto

namespace TypeScope

theorem isComposite_iff (definition : TypeDefinition) :
    definition.isComposite = true ↔ ∃ reference, reference ∈ definition.node.references := by
  simp only [TypeDictionary.mem_references_node_iff, TypeDefinition.isComposite,
    Bool.not_eq_true', List.isEmpty_eq_false_iff_exists_mem]

theorem displayReferences_of_simple {ρ : Type} {definition : TypeDefinition} {node : TypeNode ρ}
    (simple : definition.isComposite = false)
    (skeleton : node.skeleton = definition.node.skeleton) :
    node.displayReferences = [] := by
  rw [List.eq_nil_iff_forall_not_mem]
  intro reference listed
  rw [TypeNode.mem_displayReferences_iff] at listed
  have positive := List.length_pos_of_mem listed
  rw [TypeNode.length_references_of_skeleton_eq skeleton, List.length_pos_iff_exists_mem,
    ← isComposite_iff, simple] at positive
  exact Bool.false_ne_true positive

/-- How the references of a list are shown below a path. The types expanded before and those
expanded afterwards are listed in the order of their first expansion. -/
inductive Expands (s : TypeScope) : (path before references : List String) → List TypeRef →
    (after : List String) → Prop where
  | nil {path before : List String} : Expands s path before [] [] before
  | recursive {path before rest after : List String} {types : List TypeRef} {key : String}
      {above : Nat} (found : path.idxOf? key = some above)
      (others : Expands s path before rest types after) :
      Expands s path before (key :: rest) (.recursive (above + 1) :: types) after
  | unresolved {path before rest after : List String} {types : List TypeRef} {key : String}
      (fresh : key ∉ path) (absent : s.find? key = none)
      (others : Expands s path before rest types after) :
      Expands s path before (key :: rest) (.unresolved key :: types) after
  | simple {path before rest after : List String} {types : List TypeRef} {key label : String}
      {definition : TypeDefinition} {node : TypeNode TypeRef} (fresh : key ∉ path)
      (entered : s.find? key = some definition) (simple : definition.isComposite = false)
      (labelled : label = definition.label) (skeleton : node.skeleton = definition.node.skeleton)
      (others : Expands s path before rest types after) :
      Expands s path before (key :: rest) (.expanded label node :: types) after
  | repeated {path before rest after : List String} {types : List TypeRef} {key : String}
      {definition : TypeDefinition} (fresh : key ∉ path)
      (entered : s.find? key = some definition) (composite : definition.isComposite = true)
      (expanded : key ∈ before) (others : Expands s path before rest types after) :
      Expands s path before (key :: rest) (.repeated key :: types) after
  | first {path before between rest after : List String} {types : List TypeRef} {key label : String}
      {definition : TypeDefinition} {node : TypeNode TypeRef} (fresh : key ∉ path)
      (entered : s.find? key = some definition) (composite : definition.isComposite = true)
      (new : key ∉ before) (labelled : label = definition.label)
      (skeleton : node.skeleton = definition.node.skeleton)
      (below : Expands s (key :: path) (before ++ [key]) definition.node.displayReferences
        node.displayReferences between)
      (others : Expands s path between rest types after) :
      Expands s path before (key :: rest) (.expanded label node :: types) after

/-- What is shown for a key, with the types in the order of their first expansion. -/
def Displays (s : TypeScope) (key : String) (shown : DisplayType) (order : List String) : Prop :=
  ∃ definition, s.find? key = some definition ∧ shown.label = definition.label ∧
    shown.node.skeleton = definition.node.skeleton ∧
    s.Expands [key] [key] definition.node.displayReferences shown.node.displayReferences order

variable {s : TypeScope}

/-- Expanding types adds to the end of those expanded before. -/
theorem Expands.isPrefix {path before references after : List String} {types : List TypeRef}
    (expands : s.Expands path before references types after) : before <+: after := by
  induction expands with
  | nil => exact List.prefix_rfl
  | recursive _ _ ih | unresolved _ _ _ ih => exact ih
  | simple _ _ _ _ _ _ ih | repeated _ _ _ _ _ ih => exact ih
  | first _ _ _ _ _ _ _ _ below others => exact ((List.prefix_append _ _).trans below).trans others

/-- The display and the order are determined. -/
theorem Expands.unique {path before references after after' : List String}
    {types types' : List TypeRef} (first : s.Expands path before references types after)
    (second : s.Expands path before references types' after') :
    types = types' ∧ after = after' := by
  induction first generalizing types' after' with
  | nil =>
    cases second
    exact ⟨rfl, rfl⟩
  | recursive found others ih =>
    cases second with
    | recursive found' others' =>
      obtain rfl := Option.some.inj (found.symm.trans found')
      obtain ⟨rfl, rfl⟩ := ih others'
      exact ⟨rfl, rfl⟩
    | unresolved fresh | simple fresh | repeated fresh | first fresh =>
      simp [List.idxOf?_eq_none_iff.2 fresh] at found
  | unresolved fresh absent others ih =>
    cases second with
    | recursive found => simp [List.idxOf?_eq_none_iff.2 fresh] at found
    | unresolved fresh' absent' others' =>
      obtain ⟨rfl, rfl⟩ := ih others'
      exact ⟨rfl, rfl⟩
    | simple _ entered | repeated _ entered | first _ entered =>
      exact nomatch absent.symm.trans entered
  | simple fresh entered simple labelled skeleton others ih =>
    cases second with
    | recursive found => simp [List.idxOf?_eq_none_iff.2 fresh] at found
    | unresolved _ absent => exact nomatch absent.symm.trans entered
    | simple _ entered' _ labelled' skeleton' others' =>
      obtain rfl := Option.some.inj (entered.symm.trans entered')
      obtain ⟨rfl, rfl⟩ := ih others'
      have nodes := TypeNode.eq_of_displayReferences_eq (skeleton.trans skeleton'.symm)
        ((displayReferences_of_simple simple skeleton).trans
          (displayReferences_of_simple simple skeleton').symm)
      rw [labelled, labelled', nodes]
      exact ⟨rfl, rfl⟩
    | repeated _ entered' composite | first _ entered' composite =>
      obtain rfl := Option.some.inj (entered.symm.trans entered')
      exact nomatch simple.symm.trans composite
  | repeated fresh entered composite expanded others ih =>
    cases second with
    | recursive found => simp [List.idxOf?_eq_none_iff.2 fresh] at found
    | unresolved _ absent => exact nomatch absent.symm.trans entered
    | simple _ entered' simple =>
      obtain rfl := Option.some.inj (entered.symm.trans entered')
      exact nomatch simple.symm.trans composite
    | repeated _ _ _ _ others' =>
      obtain ⟨rfl, rfl⟩ := ih others'
      exact ⟨rfl, rfl⟩
    | first _ _ _ new => exact absurd expanded new
  | first fresh entered composite new labelled skeleton below others ih_below ih =>
    cases second with
    | recursive found => simp [List.idxOf?_eq_none_iff.2 fresh] at found
    | unresolved _ absent => exact nomatch absent.symm.trans entered
    | simple _ entered' simple =>
      obtain rfl := Option.some.inj (entered.symm.trans entered')
      exact nomatch simple.symm.trans composite
    | repeated _ _ _ expanded => exact absurd expanded new
    | first _ entered' _ _ labelled' skeleton' below' others' =>
      obtain rfl := Option.some.inj (entered.symm.trans entered')
      obtain ⟨references, rfl⟩ := ih_below below'
      obtain ⟨rfl, rfl⟩ := ih others'
      rw [labelled, labelled',
        TypeNode.eq_of_displayReferences_eq (skeleton.trans skeleton'.symm) references]
      exact ⟨rfl, rfl⟩

theorem Displays.unique {key : String} {shown shown' : DisplayType} {order order' : List String}
    (first : s.Displays key shown order) (second : s.Displays key shown' order') :
    shown = shown' ∧ order = order' := by
  obtain ⟨label, node⟩ := shown
  obtain ⟨label', node'⟩ := shown'
  obtain ⟨definition, entered, rfl, skeleton, expands⟩ := first
  obtain ⟨definition', entered', rfl, skeleton', expands'⟩ := second
  obtain rfl := Option.some.inj (entered.symm.trans entered')
  obtain ⟨references, orders⟩ := expands.unique expands'
  obtain rfl := TypeNode.eq_of_displayReferences_eq (skeleton.trans skeleton'.symm) references
  exact ⟨rfl, orders⟩

end TypeScope

namespace TypeNode

variable {ρ σ : Type}

/-- A node is replaced in a run through its references in the order of display. -/
theorem run_replaceMembersFirst {f : ρ → TypeScope.Expansion σ} {n : TypeNode ρ} {types : List σ}
    {expanded expanded' : Std.HashSet String}
    (listed : (n.displayReferences.mapM f).run expanded = .ok (types, expanded')) :
    ∃ node, (n.replaceMembersFirst f).run expanded = .ok (node, expanded') ∧
      node.skeleton = n.skeleton ∧ node.displayReferences = types := by
  have runs := congrArg (·.run expanded) (replaceMembersFirst_eq_mapM f n)
  simp only [StateT.run_map, listed] at runs
  generalize (n.replaceMembersFirst f).run expanded = outcome at runs ⊢
  rcases outcome with e | ⟨node, set⟩
  · cases runs
  · simp only [Functor.map, Except.map, Except.ok.injEq, Prod.mk.injEq] at runs
    obtain ⟨⟨skeleton, references⟩, rfl⟩ := runs
    exact ⟨node, rfl, skeleton, references⟩

end TypeNode

namespace TypeScope

variable {s : TypeScope}

/-- How one reference is shown below a path, with `room` levels left. -/
def displayRef (s : TypeScope) (room : Nat) (path : List String) (reference : String) :
    Expansion TypeRef := do
  match path.idxOf? reference with
  | some above => return .recursive (above + 1)
  | none =>
    match s.find? reference with
    | none => return .unresolved reference
    | some child =>
      if child.isComposite && (← get).contains reference then return .repeated reference
      else
        if child.isComposite then modify fun expanded => expanded.insert reference
        let type ← s.expand room child (reference :: path)
        return .expanded type.label type.node

theorem expand_succ (s : TypeScope) (room : Nat) (definition : TypeDefinition)
    (path : List String) : s.expand (room + 1) definition path =
      (DisplayType.mk definition.label) <$>
        definition.node.replaceMembersFirst (s.displayRef room path) :=
  (map_eq_pure_bind _ _).symm

/-- A set of expanded types holds the keys of a list. -/
def Lists (before : List String) (expanded : Std.HashSet String) : Prop :=
  ∀ key, key ∈ expanded ↔ key ∈ before

theorem lists_singleton (key : String) : Lists [key] (Std.HashSet.ofList [key]) := by
  intro other
  simpa using eq_comm

theorem Lists.insert {before : List String} {expanded : Std.HashSet String}
    (lists : Lists before expanded) (key : String) :
    Lists (before ++ [key]) (expanded.insert key) := by
  intro other
  rw [Std.HashSet.mem_insert, List.mem_append, List.mem_singleton, lists other, beq_iff_eq]
  tauto

/-- Whatever has been expanded before, expanding an entry at the head of a path succeeds. -/
def ExpandsEntry (s : TypeScope) (room : Nat) (definition : TypeDefinition) (path : List String) :
    Prop :=
  ∀ before expanded, Lists before expanded → ∃ node after expanded',
    (s.expand room definition path).run expanded = .ok (⟨definition.label, node⟩, expanded') ∧
    Lists after expanded' ∧ node.skeleton = definition.node.skeleton ∧
    s.Expands path before definition.node.displayReferences node.displayReferences after

section Reference

variable {room : Nat} {path before : List String} {key : String} {expanded : Std.HashSet String}

/-- An entry that refers to others is expanded once, and later its key stands for it. -/
theorem run_displayRef_of_find? {definition : TypeDefinition} (fresh : key ∉ path)
    (entered : s.find? key = some definition) :
    (s.displayRef room path key).run expanded =
      if definition.isComposite && expanded.contains key then .ok (.repeated key, expanded)
      else (fun shown => (.expanded shown.1.label shown.1.node, shown.2)) <$>
        (s.expand room definition (key :: path)).run
          (if definition.isComposite then expanded.insert key else expanded) := by
  have unvisited : path.idxOf? key = none := by simpa using fresh
  rw [displayRef, unvisited, entered]
  cases composite : definition.isComposite <;> by_cases known : key ∈ expanded <;>
    simp [composite, known]
  rfl

/-- One reference is shown, and the references after it are shown as from there on. -/
theorem run_displayRef
    (below : ∀ definition, key ∉ path → s.find? key = some definition →
      s.ExpandsEntry room definition (key :: path))
    (lists : Lists before expanded) :
    ∃ type between expanded',
      (s.displayRef room path key).run expanded = .ok (type, expanded') ∧
      Lists between expanded' ∧ ∀ rest types after, s.Expands path between rest types after →
        s.Expands path before (key :: rest) (type :: types) after := by
  rcases kind_of_reference s key path with
    ⟨above, found⟩ | ⟨fresh, absent⟩ | ⟨fresh, definition, entered⟩
  · refine ⟨.recursive (above + 1), before, expanded, ?_, lists, fun _ _ _ => .recursive found⟩
    rw [displayRef, found]
    rfl
  · have unvisited : path.idxOf? key = none := by simpa using fresh
    refine ⟨.unresolved key, before, expanded, ?_, lists, fun _ _ _ => .unresolved fresh absent⟩
    rw [displayRef, unvisited, absent]
    rfl
  · have inside := below definition fresh entered
    rw [run_displayRef_of_find? fresh entered]
    cases composite : definition.isComposite with
    | false =>
      obtain ⟨node, after, expanded', ran, lists', skeleton, listed⟩ := inside before expanded lists
      rw [displayReferences_of_simple composite rfl] at listed
      generalize node.displayReferences = types at listed
      cases listed
      refine ⟨.expanded definition.label node, before, expanded', ?_, lists',
        fun _ _ _ => .simple fresh entered composite rfl skeleton⟩
      simp [ran]
    | true =>
      by_cases known : key ∈ before
      · refine ⟨.repeated key, before, expanded, ?_, lists,
          fun _ _ _ => .repeated fresh entered composite known⟩
        simp [(lists key).2 known]
      · obtain ⟨node, after, expanded', ran, lists', skeleton, listed⟩ :=
          inside (before ++ [key]) (expanded.insert key) (lists.insert key)
        refine ⟨.expanded definition.label node, after, expanded', ?_, lists',
          fun _ _ _ => .first fresh entered composite known rfl skeleton listed⟩
        simp [ran, mt (lists key).1 known]

/-- So is a list of references. -/
theorem run_displayRefs {references : List String}
    (below : ∀ key ∈ references, ∀ definition, key ∉ path → s.find? key = some definition →
      s.ExpandsEntry room definition (key :: path))
    (lists : Lists before expanded) :
    ∃ types after expanded',
      (references.mapM (s.displayRef room path)).run expanded = .ok (types, expanded') ∧
      Lists after expanded' ∧ s.Expands path before references types after := by
  induction references generalizing before expanded with
  | nil => exact ⟨[], before, expanded, rfl, lists, .nil⟩
  | cons key rest ih =>
    obtain ⟨type, between, expanded₁, ran, lists₁, extend⟩ :=
      run_displayRef (below key List.mem_cons_self) lists
    obtain ⟨types, after, expanded₂, others, lists₂, expands⟩ :=
      ih (fun key member => below key (List.mem_cons_of_mem _ member)) lists₁
    refine ⟨type :: types, after, expanded₂, ?_, lists₂, extend _ _ _ expands⟩
    rw [List.mapM_cons, StateT.run_bind, ran]
    change ((rest.mapM (s.displayRef room path)).run expanded₁ >>= fun p => _) = _
    rw [others]
    rfl

end Reference

/-- An entry that nests no deeper than there is room is expanded. -/
theorem expandsEntry (hash : String → String) (room : Nat) {key : String} {path : List String}
    {definition : TypeDefinition} (fresh : key ∉ path) (entered : s.find? key = some definition)
    (low : (s.plainDigest hash key path).height ≤ room) :
    s.ExpandsEntry room definition (key :: path) := by
  induction room generalizing key path definition with
  | zero =>
    rw [plainDigest_of_find? fresh entered] at low
    exact absurd low (Nat.not_succ_le_zero _)
  | succ room ih =>
    intro before expanded lists
    rw [plainDigest_of_find? fresh entered] at low
    have each := (NodeDigest.height_ofNode_le hash _ room).1 low
    rw [TypeNode.references_map] at each
    have below : ∀ reference ∈ definition.node.displayReferences, ∀ child,
        reference ∉ key :: path → s.find? reference = some child →
        s.ExpandsEntry room child (reference :: key :: path) :=
      fun reference member child unvisited entered' => ih unvisited entered' (each _
        (List.mem_map_of_mem ((TypeNode.mem_displayReferences_iff _ _).1 member)))
    obtain ⟨types, after, expanded', ran, lists', expands⟩ := run_displayRefs below lists
    obtain ⟨node, replaced, skeleton, rfl⟩ := TypeNode.run_replaceMembersFirst ran
    refine ⟨node, after, expanded', ?_, lists', skeleton, expands⟩
    rw [expand_succ, StateT.run_map, replaced]
    rfl

/-- A type that nests no deeper than the limit is displayed. -/
theorem exists_displays (hash : String → String) {key : String} {definition : TypeDefinition}
    (entered : s.find? key = some definition)
    (low : (s.plainDigest hash key []).height ≤ maxTypeDepth) :
    ∃ shown order, s.resolve key = .ok shown ∧ s.Displays key shown order := by
  obtain ⟨node, order, expanded, ran, -, skeleton, expands⟩ :=
    expandsEntry hash maxTypeDepth List.not_mem_nil entered low [key] _ (lists_singleton key)
  refine ⟨⟨definition.label, node⟩, order, ?_, definition, entered, rfl, skeleton, expands⟩
  rw [resolve, entered]
  dsimp only
  rw [ran]
  rfl

end TypeScope
end StorageLayout
