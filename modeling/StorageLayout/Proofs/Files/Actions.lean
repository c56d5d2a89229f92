import StorageLayout.Files.Tree
import StorageLayout.Proofs.Stateful
import StorageLayout.Store.Document

/-!
# Actions on a tree of files

What the program does with files, it does step by step, and on a tree each step is a function of the
tree. A sequence that only reads leaves the tree alone, so that its answer is a plain computation
with the answers of the tree.
-/
namespace StorageLayout.FileTree

/-- An action on a tree, which may fail. -/
abbrev Action (α : Type) := ExceptT StoreError (StateM FileTree) α

variable {α β : Type}

namespace Action

theorem run_attempt (explain : FileError → StoreError)
    (operation : StateM FileTree (Except FileError α)) (t : FileTree) :
    (FileSystem.attempt explain operation : Action α).run t =
      ((operation t).1.mapError explain, (operation t).2) := rfl

end Action

/-- An action changes nothing, and this is its answer. -/
def Reads (x : Action α) (answer : FileTree → Except StoreError α) : Prop :=
  ∀ t, x.run t = (answer t, t)

theorem reads_pure (a : α) : Reads (pure a) fun _ => .ok a := fun _ => rfl

theorem reads_ofExcept (answer : Except StoreError α) :
    Reads (MonadExcept.ofExcept answer) fun _ => answer := Stateful.run_ofExcept answer

theorem Reads.bind {x : Action α} {answer : FileTree → Except StoreError α} {next : α → Action β}
    {answers : α → FileTree → Except StoreError β} (first : Reads x answer)
    (second : ∀ a, Reads (next a) (answers a)) :
    Reads (x >>= next) fun t => answer t >>= fun a => answers a t := by
  intro t
  rw [Stateful.run_bind, first t]
  dsimp only
  cases answer t with
  | error e => rfl
  | ok a => exact second a t

theorem Reads.mapM {f : α → Action β} {answer : α → FileTree → Except StoreError β}
    (each : ∀ a, Reads (f a) (answer a)) (list : List α) :
    Reads (list.mapM f) fun t => list.mapM fun a => answer a t := by
  induction list with
  | nil => exact reads_pure []
  | cons a rest ih =>
    simp only [List.mapM_cons]
    exact (each a).bind fun b => ih.bind fun bs => reads_pure (b :: bs)

theorem run_lift_question {question : String → StateM FileTree Bool}
    {answer : FileTree → String → Bool} (asked : ∀ name t, question name t = (answer t name, t))
    (name : String) (t : FileTree) :
    (ExceptT.lift (question name) : Action Bool).run t = (.ok (answer t name), t) := by
  change ((Except.ok (question name t).1, (question name t).2) : Except StoreError Bool × _) = _
  rw [asked]

/-- Questions to the tree that cannot fail select the names for which the answer is yes. -/
theorem reads_filterM {question : String → StateM FileTree Bool}
    {answer : FileTree → String → Bool} (asked : ∀ name t, question name t = (answer t name, t))
    (list : List String) :
    Reads (list.filterM fun name => ExceptT.lift (question name)) fun t =>
      .ok (list.filter (answer t)) := by
  -- The names that are selected are gathered in reverse, in front of those gathered before.
  have gathered : ∀ acc, Reads (list.filterAuxM (fun name => ExceptT.lift (question name)) acc)
      fun t => .ok ((list.filter (answer t)).reverse ++ acc) := by
    induction list with
    | nil => exact fun acc => reads_pure acc
    | cons name rest ih =>
      intro acc t
      rw [List.filterAuxM, Stateful.run_bind, run_lift_question asked]
      dsimp only
      rw [ih]
      cases yes : answer t name <;> simp [yes]
  intro t
  rw [List.filterM, Stateful.run_bind, gathered [] t]
  change (Except.ok ((list.filter (answer t)).reverse ++ []).reverse, t) = _
  rw [List.append_nil, List.reverse_reverse]

theorem reads_readText (explain : FileError → StoreError) (path : String) :
    Reads (FileSystem.attempt explain (FileSystem.readText path)) fun t =>
      (t.readText path).mapError explain := fun _ => rfl

end StorageLayout.FileTree
