import StorageLayout.Proofs.TypeDefinition.Skeleton

/-!
# Replacing references one after another

Replacing the references of a node runs through the list of its references, in the order that the
replacement prescribes, and leaves the skeleton alone. What a step of the traversal does to its
surroundings can therefore be studied on lists.
-/
namespace StorageLayout

namespace NodeMember

variable {ρ : Type}

def skeletons (members : List (NodeMember ρ)) : List (NodeMember Unit) :=
  members.map (map fun _ => ())

def types (members : List (NodeMember ρ)) : List ρ := members.map type

end NodeMember

namespace TypeNode

variable {ρ σ τ : Type} {m : Type → Type} [Monad m] [LawfulMonad m] {f : ρ → m σ}

/-- The references of a node in the order of display: of its members, key, value and base. -/
def displayReferences (n : TypeNode ρ) : List ρ :=
  (n.members.getD []).map NodeMember.type ++ n.key.toList ++ n.value.toList ++ n.base.toList

def presence (reference : Option ρ) : Option Unit := reference.map fun _ => ()

-- Whatever is done with a replaced part, as long as it is only looked at through its skeleton and
-- its references, may be done with the skeleton of the part and the replaced references.

theorem replaceOption_bind (reference : Option ρ) (next : Option Unit → List σ → m τ) :
    (replaceOption f reference >>= fun o => next (presence o) o.toList) =
      reference.toList.mapM f >>= next (presence reference) := by
  cases reference <;> simp [replaceOption, presence]

theorem replaceMembers_bind (members : List (NodeMember ρ))
    (next : List (NodeMember Unit) → List σ → m τ) :
    (replaceMembers f members >>= fun ms => next (NodeMember.skeletons ms) (NodeMember.types ms)) =
      (NodeMember.types members).mapM f >>= next (NodeMember.skeletons members) := by
  induction members generalizing next with
  | nil => simp [replaceMembers, NodeMember.skeletons, NodeMember.types]
  | cons member rest ih =>
    have tail (type : σ) := ih fun skeletons types =>
      next (⟨member.label, member.offset, member.slot, ()⟩ :: skeletons) (type :: types)
    simp only [replaceMembers, NodeMember.types, NodeMember.skeletons, List.map_cons,
      List.mapM_cons, bind_assoc, pure_bind, NodeMember.map] at tail ⊢
    simp only [tail]

theorem replaceOptionalMembers_bind (members : Option (List (NodeMember ρ)))
    (next : Option (List (NodeMember Unit)) → List σ → m τ) :
    (replaceOptionalMembers f members >>= fun o =>
        next (o.map NodeMember.skeletons) (NodeMember.types (o.getD []))) =
      (NodeMember.types (members.getD [])).mapM f >>= next (members.map NodeMember.skeletons) := by
  cases members with
  | none => simp [replaceOptionalMembers, NodeMember.types]
  | some listed =>
    have listed_bind := replaceMembers_bind (f := f) listed fun skeletons types =>
      next (some skeletons) types
    simpa [replaceOptionalMembers] using listed_bind

section Parts

variable (encoding : Encoding) (bytes : String) (key value base : Option ρ)
  (members : Option (List (NodeMember ρ)))

theorem skeleton_mk : skeleton ⟨encoding, bytes, key, members, value, base⟩ =
    ⟨encoding, bytes, presence key, members.map NodeMember.skeletons, presence value,
      presence base⟩ := rfl

theorem references_mk : references ⟨encoding, bytes, key, members, value, base⟩ =
    key.toList ++ NodeMember.types (members.getD []) ++ value.toList ++ base.toList := rfl

theorem displayReferences_mk :
    displayReferences ⟨encoding, bytes, key, members, value, base⟩ =
      NodeMember.types (members.getD []) ++ key.toList ++ value.toList ++ base.toList := rfl

end Parts

/-- Replacing references is a run through their list that keeps the skeleton. -/
theorem replace_eq_mapM (f : ρ → m σ) (n : TypeNode ρ) :
    (fun k => (k.skeleton, k.references)) <$> n.replace f =
      (fun references => (n.skeleton, references)) <$> n.references.mapM f := by
  obtain ⟨encoding, bytes, key, members, value, base⟩ := n
  -- The parts are done from the last to the first, each with what comes after it.
  have on_base (k ms v) (before : List σ) := replaceOption_bind (f := f) base fun b bases =>
    (pure (TypeNode.mk encoding bytes k ms v b, before ++ bases) : m (TypeNode Unit × List σ))
  have on_value (k ms) (before : List σ) := replaceOption_bind (f := f) value fun v values =>
    base.toList.mapM f >>= fun bases => (pure (TypeNode.mk encoding bytes k ms v (presence base),
      before ++ values ++ bases) : m (TypeNode Unit × List σ))
  have on_members (k) (before : List σ) := replaceOptionalMembers_bind (f := f) members
    fun ms types => value.toList.mapM f >>= fun values => base.toList.mapM f >>= fun bases =>
      (pure (TypeNode.mk encoding bytes k ms (presence value) (presence base),
        before ++ types ++ values ++ bases) :
        m (TypeNode Unit × List σ))
  have on_key := replaceOption_bind (f := f) key fun k keys =>
    (NodeMember.types (members.getD [])).mapM f >>= fun types => value.toList.mapM f >>=
      fun values => base.toList.mapM f >>= fun bases =>
        (pure (TypeNode.mk encoding bytes k (members.map NodeMember.skeletons) (presence value)
          (presence base), keys ++ types ++ values ++ bases) :
          m (TypeNode Unit × List σ))
  simp only [replace, map_bind, map_pure, skeleton_mk, references_mk, on_base, on_value, on_members,
    on_key, List.mapM_append, bind_assoc, pure_bind]

/-- So is replacing references in the order of display. -/
theorem replaceMembersFirst_eq_mapM (f : ρ → m σ) (n : TypeNode ρ) :
    (fun k => (k.skeleton, k.displayReferences)) <$> n.replaceMembersFirst f =
      (fun references => (n.skeleton, references)) <$> n.displayReferences.mapM f := by
  obtain ⟨encoding, bytes, key, members, value, base⟩ := n
  have on_base (k ms v) (before : List σ) := replaceOption_bind (f := f) base fun b bases =>
    (pure (TypeNode.mk encoding bytes k ms v b, before ++ bases) : m (TypeNode Unit × List σ))
  have on_value (k ms) (before : List σ) := replaceOption_bind (f := f) value fun v values =>
    base.toList.mapM f >>= fun bases => (pure (TypeNode.mk encoding bytes k ms v (presence base),
      before ++ values ++ bases) : m (TypeNode Unit × List σ))
  have on_key (ms) (before : List σ) := replaceOption_bind (f := f) key fun k keys =>
    value.toList.mapM f >>= fun values => base.toList.mapM f >>= fun bases =>
      (pure (TypeNode.mk encoding bytes k ms (presence value) (presence base),
        before ++ keys ++ values ++ bases) :
        m (TypeNode Unit × List σ))
  have on_members := replaceOptionalMembers_bind (f := f) members fun ms types =>
    key.toList.mapM f >>= fun keys => value.toList.mapM f >>= fun values =>
      base.toList.mapM f >>= fun bases =>
        (pure (TypeNode.mk encoding bytes (presence key) ms (presence value) (presence base),
          types ++ keys ++ values ++ bases) :
          m (TypeNode Unit × List σ))
  simp only [replaceMembersFirst, map_bind, map_pure, skeleton_mk, displayReferences_mk, on_base,
    on_value, on_members, on_key, List.mapM_append, bind_assoc, pure_bind]

end TypeNode
end StorageLayout
