import StorageLayout.Proofs.Lists
import StorageLayout.Proofs.TypeDefinition.Expansion

/-!
# Room decides only whether a display succeeds

The levels that are left when a type is expanded are looked at only to fail when there are none.
With more of them whatever succeeded gives the same answer, and with enough of them every type is
expanded. A display that is given is therefore the one that is related to its key, even where the
type nests deeper than there was room: types that were expanded before need none.
-/
namespace StorageLayout.TypeScope

variable {α β ρ σ : Type}

/-- Whenever the first computation succeeds, the second one ends in the same way. -/
def Extends (x y : Expansion α) : Prop :=
  ∀ expanded outcome, x.run expanded = .ok outcome → y.run expanded = .ok outcome

namespace Extends

theorem refl (x : Expansion α) : Extends x x := fun _ _ ran => ran

theorem trans {x y z : Expansion α} (first : Extends x y) (second : Extends y z) : Extends x z :=
  fun expanded outcome ran => second expanded outcome (first expanded outcome ran)

theorem of_throw (e : LayoutError) (x : Expansion α) : Extends (throw e) x :=
  fun _ _ ran => nomatch ran

theorem bind {x y : Expansion α} {f g : α → Expansion β} (first : Extends x y)
    (next : ∀ a, Extends (f a) (g a)) : Extends (x >>= f) (y >>= g) := by
  intro expanded outcome ran
  rw [StateT.run_bind] at ran ⊢
  obtain ⟨⟨a, between⟩, head, tail⟩ := bind_eq_ok_iff.1 ran
  exact bind_eq_ok_iff.2 ⟨(a, between), first _ _ head, next a _ _ tail⟩

theorem map {x y : Expansion α} (f : α → β) (extended : Extends x y) :
    Extends (f <$> x) (f <$> y) := by
  rw [map_eq_pure_bind, map_eq_pure_bind]
  exact extended.bind fun a => refl _

section Nodes

variable {f g : ρ → Expansion σ}

theorem replaceOption (each : ∀ r, Extends (f r) (g r)) (reference : Option ρ) :
    Extends (TypeNode.replaceOption f reference) (TypeNode.replaceOption g reference) := by
  cases reference with
  | none => exact refl _
  | some r => exact (each r).map some

theorem replaceMembers (each : ∀ r, Extends (f r) (g r)) (members : List (NodeMember ρ)) :
    Extends (TypeNode.replaceMembers f members) (TypeNode.replaceMembers g members) := by
  induction members with
  | nil => exact refl _
  | cons member rest ih => exact (each member.type).bind fun type => ih.bind fun types => refl _

theorem replaceMembersFirst (each : ∀ r, Extends (f r) (g r)) (n : TypeNode ρ) :
    Extends (n.replaceMembersFirst f) (n.replaceMembersFirst g) := by
  have members : Extends (TypeNode.replaceOptionalMembers f n.members)
      (TypeNode.replaceOptionalMembers g n.members) := by
    cases n.members with
    | none => exact refl _
    | some listed => exact (replaceMembers each listed).map some
  refine members.bind fun _ => (replaceOption each n.key).bind fun _ => ?_
  exact (replaceOption each n.value).bind fun _ => (replaceOption each n.base).bind fun _ => refl _

end Nodes

end Extends

variable {s : TypeScope}

/-- One more level of room changes no success. -/
theorem extends_expand_succ (s : TypeScope) (room : Nat) (definition : TypeDefinition)
    (path : List String) :
    Extends (s.expand room definition path) (s.expand (room + 1) definition path) := by
  induction room generalizing definition path with
  | zero => exact .of_throw _ _
  | succ room ih =>
    rw [expand_succ, expand_succ]
    refine (Extends.replaceMembersFirst (fun reference => ?_) _).map _
    unfold displayRef
    split
    · exact .refl _
    · split
      · exact .refl _
      · next child _ =>
        refine (Extends.refl _).bind fun expanded => ?_
        split
        · exact .refl _
        · have shows : Extends (do
                let type ← s.expand room child (reference :: path)
                return TypeRef.expanded type.label type.node)
              (do
                let type ← s.expand (room + 1) child (reference :: path)
                return TypeRef.expanded type.label type.node) :=
            (ih child (reference :: path)).bind fun _ => .refl _
          dsimp only
          split
          · exact (Extends.refl _).bind fun _ => shows
          · exact shows

theorem extends_expand (s : TypeScope) {room more : Nat} (enough : room ≤ more)
    (definition : TypeDefinition) (path : List String) :
    Extends (s.expand room definition path) (s.expand more definition path) := by
  induction enough with
  | refl => exact .refl _
  | step _ ih => exact ih.trans (extends_expand_succ s _ definition path)

/-- A display that is given is the one that is related to its key. -/
theorem displays_of_resolve {key : String} {shown : DisplayType}
    (resolved : s.resolve key = .ok shown) : ∃ order, s.Displays key shown order := by
  cases entered : s.find? key with
  | none =>
    rw [resolve, entered] at resolved
    cases resolved
  | some definition =>
    have height := Nat.le_max_right maxTypeDepth (s.plainDigest id key []).height
    obtain ⟨node, order, expanded, ran, -, skeleton, expands⟩ :=
      expandsEntry id _ List.not_mem_nil entered height [key] _ (lists_singleton key)
    rw [resolve, entered] at resolved
    dsimp only at resolved
    rw [map_eq_pure_bind] at resolved
    obtain ⟨outcome, succeeded, same⟩ := bind_eq_ok_iff.1 resolved
    obtain rfl := Except.ok.inj same
    have more := extends_expand s (Nat.le_max_left maxTypeDepth (s.plainDigest id key []).height)
      definition [key] _ outcome succeeded
    obtain rfl := Except.ok.inj (more.symm.trans ran)
    exact ⟨order, definition, entered, rfl, skeleton, expands⟩

end StorageLayout.TypeScope
