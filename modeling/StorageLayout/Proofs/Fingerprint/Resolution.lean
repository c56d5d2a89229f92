import StorageLayout.Fingerprint.Basic
import StorageLayout.Proofs.Stateful
import StorageLayout.Proofs.TypeDefinition.Inlining

/-!
# Computations that may only give one value

Fingerprints are computed by steps that may fail and that leave something in the memo even then.
What matters about a step is that it keeps an invariant of the memo in every case, and that it gives
one known value whenever it does not fail. This composes along sequences of steps, and so along the
references of a node.
-/
namespace StorageLayout.Resolution

open Stateful

variable {α β : Type} {I : Memo → Prop}

/-- The computation keeps an invariant of the memo, and a success gives this value. -/
def Yields (I : Memo → Prop) (x : Resolution α) (value : α) : Prop :=
  ∀ memo, I memo → I (x.run memo).2 ∧ ∀ result, (x.run memo).1 = .ok result → result = value

theorem yields_pure (value : α) : Yields I (pure value) value := by
  intro memo holds
  exact ⟨holds, fun result success => (Except.ok.inj success).symm⟩

theorem yields_throw (e : LayoutError) (value : α) : Yields I (throw e) value := by
  intro memo holds
  exact ⟨holds, fun result success => nomatch success⟩

/-- A sequence yields what the second step yields from the value of the first. -/
theorem Yields.bind {x : Resolution α} {a : α} {next : α → Resolution β} {b : β}
    (first : Yields I x a) (second : Yields I (next a) b) : Yields I (x >>= next) b := by
  intro memo holds
  obtain ⟨kept, given⟩ := first memo holds
  rw [run_bind]
  rcases ran : x.run memo with ⟨outcome, after⟩
  rw [ran] at kept given
  cases outcome with
  | error e => exact ⟨kept, fun result success => nomatch success⟩
  | ok value =>
    obtain rfl := given value rfl
    exact second after kept

theorem Yields.map {x : Resolution α} {a : α} (f : α → β) (given : Yields I x a) :
    Yields I (f <$> x) (f a) := by
  rw [map_eq_pure_bind]
  exact given.bind (yields_pure (f a))

/-- What is read from the memo satisfies the invariant. -/
theorem yields_get_bind {next : Memo → Resolution β} {b : β}
    (read : ∀ memo, I memo → Yields I (next memo) b) : Yields I (get >>= next) b := by
  intro memo holds
  exact read memo holds memo holds

theorem yields_modify {change : Memo → Memo} (keeps : ∀ memo, I memo → I (change memo)) :
    Yields I (modify change) () := by
  intro memo holds
  exact ⟨keeps memo holds, fun _ _ => rfl⟩

section Nodes

variable {ρ σ : Type} {f : ρ → Resolution σ} {g : ρ → σ}

theorem yields_replaceOption {reference : Option ρ}
    (each : ∀ r ∈ reference.toList, Yields I (f r) (g r)) :
    Yields I (TypeNode.replaceOption f reference) (reference.map g) := by
  cases reference with
  | none => exact yields_pure none
  | some r => exact (each r (by simp)).map some

theorem yields_replaceMembers {members : List (NodeMember ρ)}
    (each : ∀ m ∈ members, Yields I (f m.type) (g m.type)) :
    Yields I (TypeNode.replaceMembers f members) (members.map (NodeMember.map g)) := by
  induction members with
  | nil => exact yields_pure []
  | cons m rest ih =>
    refine (each m (by simp)).bind ?_
    refine (ih fun m' member => each m' (by simp [member])).bind ?_
    exact yields_pure _

theorem yields_replaceOptionalMembers {members : Option (List (NodeMember ρ))}
    (each : ∀ m ∈ members.getD [], Yields I (f m.type) (g m.type)) :
    Yields I (TypeNode.replaceOptionalMembers f members)
      (members.map (·.map (NodeMember.map g))) := by
  cases members with
  | none => exact yields_pure none
  | some listed => exact (yields_replaceMembers each).map some

/-- If each reference yields a value, the node yields its replacement by these values. -/
theorem yields_replace {n : TypeNode ρ} (each : ∀ r ∈ n.references, Yields I (f r) (g r)) :
    Yields I (n.replace f) (n.map g) := by
  have on_key : ∀ r ∈ n.key.toList, Yields I (f r) (g r) :=
    fun r member => each r (by simp [TypeNode.references, member])
  have on_value : ∀ r ∈ n.value.toList, Yields I (f r) (g r) :=
    fun r member => each r (by simp [TypeNode.references, member])
  have on_base : ∀ r ∈ n.base.toList, Yields I (f r) (g r) :=
    fun r member => each r (by simp [TypeNode.references, member])
  have on_members : ∀ m ∈ n.members.getD [], Yields I (f m.type) (g m.type) :=
    fun m member => each m.type (by simp [TypeNode.references, List.mem_map_of_mem member])
  refine (yields_replaceOption on_key).bind ?_
  refine (yields_replaceOptionalMembers on_members).bind ?_
  refine (yields_replaceOption on_value).bind ?_
  exact (yields_replaceOption on_base).bind (yields_pure _)

end Nodes

end StorageLayout.Resolution
