import Mathlib.Data.List.Forall2
import StorageLayout.Proofs.Fingerprint.Runs

/-!
# Rules for runs

What a computation does to the memo is stated by an invariant, a relation between the memo before
and after, and what holds of the value or of the error. Two computations are compared by running
them side by side on related memos: they succeed together with related values, or fail together,
unless the failure of the first is excused. Both kinds of statement carry over from an element to a
list, and from the references of a node to the node.
-/
namespace StorageLayout.Resolution

open Stateful

variable {α β γ δ ρ σ : Type}

section Single

variable {I : Memo → Prop} {T : Memo → Memo → Prop} {F : Memo → LayoutError → Memo → Prop}

/-- A value comes with `V`, keeps `I` and is a step along `T`; a failure is one that `F` allows. -/
def Ends (I : Memo → Prop) (T : Memo → Memo → Prop) (V : α → Memo → Prop)
    (F : Memo → LayoutError → Memo → Prop) (before : Memo) : Except LayoutError α × Memo → Prop
  | (.ok a, after) => I after ∧ T before after ∧ V a after
  | (.error e, after) => F before e after

/-- The computation ends so from every memo with `I`. -/
def Ensures (I : Memo → Prop) (T : Memo → Memo → Prop) (V : α → Memo → Prop)
    (F : Memo → LayoutError → Memo → Prop) (x : Resolution α) : Prop :=
  ∀ before, I before → Ends I T V F before (x.run before)

/-- What holds of each element of a list holds along the list, if later steps do not undo it. -/
theorem Ensures.mapM {f : α → Resolution β} {V : α → β → Memo → Prop} {list : List α}
    (refl : ∀ memo, T memo memo)
    (trans : ∀ before middle after, T before middle → T middle after → T before after)
    (absorb : ∀ before middle e after, T before middle → F middle e after → F before e after)
    (lasts : ∀ a b before after, T before after → V a b before → V a b after)
    (each : ∀ a ∈ list, Ensures I T (V a) F (f a)) :
    Ensures I T (fun values memo => List.Forall₂ (V · · memo) list values) F (list.mapM f) := by
  induction list with
  | nil => exact fun before start => ⟨start, refl before, .nil⟩
  | cons a rest ih =>
    intro before start
    have first := each a (by simp) before start
    rw [run_mapM_cons]
    generalize (f a).run before = head at first ⊢
    rcases head with ⟨e | b, middle⟩
    · exact first
    · obtain ⟨kept, step, value⟩ := first
      have others := ih (fun a' member => each a' (by simp [member])) middle kept
      dsimp only
      generalize (rest.mapM f).run middle = tail at others ⊢
      rcases tail with ⟨e | bs, after⟩
      · exact absorb before middle e after step others
      · obtain ⟨kept', step', values⟩ := others
        exact ⟨kept', trans before middle after step step',
          .cons (lasts a b _ _ step' value) values⟩

theorem forall₂_known {g : α → β} {Q : α → Prop} {list : List α} {values : List β} :
    List.Forall₂ (fun a b => b = g a ∧ Q a) list values ↔
      values = list.map g ∧ ∀ a ∈ list, Q a := by
  induction list generalizing values with
  | nil => simp
  | cons a rest ih =>
    rw [List.forall₂_cons_left_iff, List.map_cons, List.forall_mem_cons]
    constructor
    · rintro ⟨b, tail, ⟨rfl, known⟩, others, rfl⟩
      obtain ⟨rfl, all⟩ := ih.1 others
      exact ⟨rfl, known, all⟩
    · rintro ⟨rfl, known, all⟩
      exact ⟨g a, rest.map g, ⟨rfl, known⟩, ih.2 ⟨rfl, all⟩, rfl⟩

/-- What holds along the references of a node holds of the node. -/
theorem Ensures.replace {f : ρ → Resolution σ} {V : List σ → Memo → Prop} {n : TypeNode ρ}
    (listed : Ensures I T V F (n.references.mapM f)) :
    Ensures I T (fun node memo => node.skeleton = n.skeleton ∧ V node.references memo) F
      (n.replace f) := by
  intro before start
  have along := listed before start
  have replaced := run_replace f n before
  generalize (n.references.mapM f).run before = outcome at along replaced
  rcases outcome with ⟨e | references, after⟩
  · rw [replaced]
    exact along
  · obtain ⟨node, ran, skeleton, rfl⟩ := replaced
    rw [ran]
    exact ⟨along.1, along.2.1, skeleton, along.2.2⟩

end Single

section Pairs

variable {R : Memo → Memo → Prop} {E : LayoutError → LayoutError → Prop}
  {excused : LayoutError → Prop}

/-- Both give a value, the values are related and so are the memos; or both fail with related
errors; or the failure of the first is excused. -/
def Agree (R : Memo → Memo → Prop) (E : LayoutError → LayoutError → Prop)
    (excused : LayoutError → Prop) (V : α → β → Prop) :
    Except LayoutError α × Memo → Except LayoutError β × Memo → Prop
  | (.ok a, after), (.ok b, after') => V a b ∧ R after after'
  | (.ok _, _), (.error _, _) => False
  | (.error e, _), (.ok _, _) => excused e
  | (.error e, _), (.error e', _) => excused e ∨ E e e'

/-- The computations agree whenever they run on related memos. -/
def Tracks (R : Memo → Memo → Prop) (E : LayoutError → LayoutError → Prop)
    (excused : LayoutError → Prop) (V : α → β → Prop) (x : Resolution α) (y : Resolution β) :
    Prop :=
  ∀ memo memo', R memo memo' → Agree R E excused V (x.run memo) (y.run memo')

theorem agree_of_excused {V : α → β → Prop} {e : LayoutError} (excuse : excused e) (memo : Memo)
    (outcome : Except LayoutError β × Memo) : Agree R E excused V (.error e, memo) outcome := by
  rcases outcome with ⟨_ | _, _⟩
  · exact Or.inl excuse
  · exact excuse

theorem tracks_pure {V : α → β → Prop} {a : α} {b : β} (values : V a b) :
    Tracks R E excused V (pure a) (pure b) :=
  fun _ _ related => ⟨values, related⟩

theorem Tracks.map {V : α → β → Prop} {W : γ → δ → Prop} {f : α → γ} {g : β → δ}
    {x : Resolution α} {y : Resolution β} (tracks : Tracks R E excused V x y)
    (carry : ∀ a b, V a b → W (f a) (g b)) : Tracks R E excused W (f <$> x) (g <$> y) := by
  intro memo memo' related
  have ran := tracks memo memo' related
  rw [run_map, run_map]
  generalize x.run memo = outcome at ran ⊢
  generalize y.run memo' = outcome' at ran ⊢
  rcases outcome with ⟨e | a, after⟩ <;> rcases outcome' with ⟨e' | b, after'⟩
  · exact ran
  · exact ran
  · exact ran
  · exact ⟨carry a b ran.1, ran.2⟩

/-- Lists track each other if their elements do, one by one. -/
theorem Tracks.mapM {f : α → Resolution γ} {g : β → Resolution δ} {V : γ → δ → Prop}
    {list : List α} {list' : List β}
    (each : List.Forall₂ (fun a b => Tracks R E excused V (f a) (g b)) list list') :
    Tracks R E excused (List.Forall₂ V) (list.mapM f) (list'.mapM g) := by
  induction each with
  | nil => exact fun memo memo' related => ⟨.nil, related⟩
  | @cons a b rest rest' first _ ih =>
    intro memo memo' related
    have heads := first memo memo' related
    rw [run_mapM_cons, run_mapM_cons]
    generalize (f a).run memo = head at heads ⊢
    generalize (g b).run memo' = head' at heads ⊢
    rcases head with ⟨e | v, middle⟩ <;> rcases head' with ⟨e' | v', middle'⟩
    · exact heads
    · exact agree_of_excused heads middle _
    · exact heads.elim
    · have tails := ih middle middle' heads.2
      dsimp only
      generalize (rest.mapM f).run middle = tail at tails ⊢
      generalize (rest'.mapM g).run middle' = tail' at tails ⊢
      rcases tail with ⟨e | vs, after⟩ <;> rcases tail' with ⟨e' | vs', after'⟩
      · exact tails
      · exact tails
      · exact tails
      · exact ⟨.cons heads.1 tails.1, tails.2⟩

/-- Nodes of one skeleton are replaced by equal nodes if the runs through their references track
each other. -/
theorem Tracks.replace {f : α → Resolution γ} {g : β → Resolution γ} {n : TypeNode α}
    {n' : TypeNode β} (skeletons : n.skeleton = n'.skeleton)
    (listed : Tracks R E excused (List.Forall₂ Eq) (n.references.mapM f) (n'.references.mapM g)) :
    Tracks R E excused Eq (n.replace f) (n'.replace g) := by
  intro memo memo' related
  have along := listed memo memo' related
  have replaced := run_replace f n memo
  have replaced' := run_replace g n' memo'
  generalize (n.references.mapM f).run memo = outcome at along replaced
  generalize (n'.references.mapM g).run memo' = outcome' at along replaced'
  rcases outcome with ⟨e | references, after⟩ <;> rcases outcome' with ⟨e' | references', after'⟩
  · rw [replaced, replaced']
    exact along
  · obtain ⟨node', ran', -⟩ := replaced'
    rw [replaced, ran']
    exact along
  · exact along.elim
  · obtain ⟨node, ran, skeleton, rfl⟩ := replaced
    obtain ⟨node', ran', skeleton', rfl⟩ := replaced'
    rw [ran, ran']
    have references := List.forall₂_eq_eq_eq ▸ along.1
    exact ⟨TypeNode.eq_of_skeleton_eq (skeleton.trans (skeletons.trans skeleton'.symm)) references,
      along.2⟩

end Pairs

end StorageLayout.Resolution
