import Mathlib.Data.List.TakeWhile
import StorageLayout.Files.Tree
import StorageLayout.Proofs.Text.Lines

/-!
# Paths that end in a plain name

A plain name can stand at the end of a path for something in a directory: it has no slash and no
null character, and it is neither empty nor one of the names that lead elsewhere. Put behind a
directory, it becomes the last name on the path, and the names in front of it are those of the
directory.
-/
namespace StorageLayout

namespace Path

/-- A file name is cut at its last dot, which is not its first character. -/
theorem stemAndExtension?_eq_some_iff {name stem extension : String} :
    stemAndExtension? name = some (stem, extension) ↔
      name = stem ++ "." ++ extension ∧ stem ≠ "" ∧ '.' ∉ extension.toList := by
  have spelled : name = stem ++ "." ++ extension ↔
      name.toList.reverse = extension.toList.reverse ++ '.' :: stem.toList.reverse := by
    rw [← String.toList_inj, ← List.reverse_inj]
    simp
  rw [spelled]
  unfold stemAndExtension?
  dsimp only
  constructor
  · intro cut
    have whole := List.takeWhile_append_dropWhile (p := (· ≠ '.')) (l := name.toList.reverse)
    split at cut
    · cases cut
    · cases cut
    · next dot front some_stem dropped =>
      obtain ⟨rfl, rfl⟩ := Prod.mk.inj (Option.some.inj cut)
      have dot_eq : dot = '.' := by
        have first := List.head?_dropWhile_not (· ≠ '.') name.toList.reverse
        rw [dropped] at first
        simpa using first
      rw [dropped, dot_eq] at whole
      refine ⟨?_, ?_, ?_⟩
      · simpa using whole.symm
      · intro empty
        exact some_stem (by simpa using congrArg String.toList empty)
      · simp only [String.toList_ofList, List.mem_reverse]
        intro listed
        simpa using List.mem_takeWhile_imp listed
  · rintro ⟨reversed, some_stem, no_dot⟩
    have passed : ∀ c ∈ extension.toList.reverse, (decide (c ≠ '.')) = true := by
      intro c listed
      have other : c ≠ '.' := by
        rintro rfl
        exact no_dot (List.mem_reverse.1 listed)
      simpa using other
    rw [reversed, List.takeWhile_append_of_pos passed, List.dropWhile_append_of_pos passed]
    cases chars : stem.toList.reverse with
    | nil => exact absurd (by simpa using chars) some_stem
    | cons last front =>
      have front_eq : (last :: front).reverse = stem.toList := by rw [← chars, List.reverse_reverse]
      simp [front_eq]

/-- A name that stands at the end of a path for something in a directory. -/
structure IsPlain (name : String) : Prop where
  no_slash : '/' ∉ name.toList
  no_null : '\x00' ∉ name.toList
  not_empty : name ≠ ""
  not_relative : FileTree.isRelativeName name = false

variable {dir name : String}

theorem join_eq (plain : IsPlain name) (dir : String) :
    join dir name =
      if dir = "" then name
      else if dir.toList.getLast? = some '/' then dir ++ name
      else dir ++ "/" ++ name := by
  have relative : name.toList.head? ≠ some '/' := fun first =>
    plain.no_slash (List.mem_of_mem_head? first)
  simp [join, relative]

/-- The names on a path of which a slash divides two parts. -/
theorem names_of_toList_eq {path front back : String}
    (divided : path.toList = front.toList ++ '/' :: back.toList) :
    names path = names front ++ names back := by
  simp [names, Text.parts, divided, Text.splitAt_append]

theorem names_of_plain (plain : IsPlain name) : names name = [name] := by
  simp [names, Text.parts, Text.splitAt_of_not_mem plain.no_slash, plain.not_empty]

/-- A plain name is the last one on a path that ends with it. -/
theorem names_join (plain : IsPlain name) (dir : String) :
    names (join dir name) = names dir ++ [name] := by
  rw [join_eq plain, ← names_of_plain plain]
  split
  · next empty => simp [empty, names, Text.parts, Text.splitAt]
  · split
    · next slash =>
      obtain ⟨front, ended⟩ := List.getLast?_eq_some_iff.1 slash
      have whole : names dir = names (String.ofList front) ++ names "" :=
        names_of_toList_eq (by simpa using ended)
      have divided : names (dir ++ name) = names (String.ofList front) ++ names name :=
        names_of_toList_eq (by simp [ended])
      have none_behind : names "" = [] := by simp [names, Text.parts, Text.splitAt]
      rw [divided, whole, none_behind, List.append_nil]
    · exact names_of_toList_eq (by simp)

/-- A path that ends with a plain name can name a file. -/
theorem endsInSlash_join (plain : IsPlain name) (dir : String) :
    endsInSlash (join dir name) = false := by
  have last : name.toList.getLast? ≠ some '/' := fun slash =>
    plain.no_slash (List.mem_of_mem_getLast? slash)
  have some_last : name.toList.getLast?.isSome := by
    simpa using plain.not_empty
  obtain ⟨c, last_eq⟩ := Option.isSome_iff_exists.1 some_last
  have other : c ≠ '/' := fun same => last (same ▸ last_eq)
  have ends : ∀ front : String, endsInSlash (front ++ name) = false := by
    intro front
    simp [endsInSlash, List.getLast?_append, last_eq, other]
  rw [join_eq plain]
  split
  · simpa using ends ""
  · split
    · exact ends dir
    · exact ends (dir ++ "/")

theorem check_eq_ok_iff (path : String) :
    check path = .ok () ↔
      '\x00' ∉ path.toList ∧ path ≠ "" ∧ path.utf8ByteSize ≤ maxSize := by
  unfold check
  split
  · next null => simp [null]
  · next no_null =>
    split
    · next empty => simp [empty]
    · next some_path =>
      split
      · next long => simp [Nat.not_le.2 long]
      · next short => simp [no_null, some_path, Nat.not_lt.1 short]

theorem le_size_join (plain : IsPlain name) (dir : String) :
    dir.utf8ByteSize + name.utf8ByteSize ≤ (join dir name).utf8ByteSize := by
  rw [join_eq plain]
  split
  · next empty => simp [empty]
  · split <;> simp only [String.utf8ByteSize_append] <;> omega

/-- A directory can be looked at if something in it can. -/
theorem check_of_check_join (plain : IsPlain name) (some_dir : dir ≠ "")
    (checked : check (join dir name) = .ok ()) : check dir = .ok () := by
  have longer := le_size_join plain dir
  rw [check_eq_ok_iff] at checked ⊢
  obtain ⟨no_null, -, short⟩ := checked
  refine ⟨fun null => no_null ?_, some_dir, by omega⟩
  rw [join_eq plain, if_neg some_dir]
  split <;> simp [null]

/-- Behind a plain name, only the directory and the length of the path can be at fault. -/
theorem check_join_iff (plain : IsPlain name) (dir : String) :
    check (join dir name) = .ok () ↔
      '\x00' ∉ dir.toList ∧ (join dir name).utf8ByteSize ≤ maxSize := by
  rw [check_eq_ok_iff]
  have null_iff : '\x00' ∈ (join dir name).toList ↔ '\x00' ∈ dir.toList := by
    rw [join_eq plain]
    split
    · next empty => simp [empty, plain.no_null]
    · split <;> simp [plain.no_null]
  have some_path : join dir name ≠ "" := by
    intro empty
    have named := names_join plain dir
    rw [empty] at named
    simp [names, Text.parts, Text.splitAt] at named
  simp [null_iff, some_path]

end Path
end StorageLayout
