import StorageLayout.Proofs.Extraction.Directory
import StorageLayout.Proofs.Files.Reordering

/-!
# How the extraction of a directory ends

The system lists a directory in any order it likes. The artifacts are sorted by their names before
the first is read, so that the order of the system leaves no trace. All artifacts are read before
the first is extracted: one that cannot be read decides the outcome even if an earlier one could
not have been extracted.
-/
namespace StorageLayout.BuildArtifact

open FileTree (Action)

variable {dir name : String} {t t' : FileTree} {names names' : List String}

/-- These are the names of the artifacts in a directory, in strictly ascending order: of the files
that are called something followed by .json. -/
structure NamedIn (dir : String) (t : FileTree) (names : List String) : Prop where
  ascending : names.Pairwise (· < ·)
  mem_iff : ∃ listed, t.entries dir = .ok listed ∧ ∀ name,
    name ∈ names ↔ name ∈ listed ∧ (∃ stem, stem ≠ "" ∧ name = stem ++ ".json") ∧
      t.isFile (Path.join dir name)

/-- How the extraction of a directory ends. -/
inductive Ends (dir : String) (t : FileTree) : Except StoreError SnapshotDocument → Prop
  /-- The directory cannot be listed. -/
  | unlisted {failure : FileError} (failed : t.entries dir = .error failure) :
      Ends dir t (.error (.file dir failure))
  /-- The first artifact that cannot be read tells why, whatever the earlier ones contain. -/
  | unread {before after : List String} {name : String} {failure : StoreError}
      (named : NamedIn dir t (before ++ name :: after))
      (readable : ∀ earlier ∈ before, (readIn (Path.join dir earlier) t).isOk)
      (failed : readIn (Path.join dir name) t = .error failure) :
      Ends dir t (.error failure)
  /-- All artifacts can be read, and this is the first that cannot be extracted. -/
  | refused {before after : List String} {name : String} {artifact : BuildArtifact}
      {reason : LayoutError} (named : NamedIn dir t (before ++ name :: after))
      (readable : ∀ other ∈ before ++ name :: after, (readIn (Path.join dir other) t).isOk)
      (extracted : ∀ earlier ∈ before, ∀ a, readIn (Path.join dir earlier) t = .ok a →
        a.extract.isOk)
      (read : readIn (Path.join dir name) t = .ok artifact)
      (failed : artifact.extract = .error reason) :
      Ends dir t (.error (.extraction (Path.join dir name) reason))
  /-- All artifacts can be read, and together they give a document. -/
  | built {names : List String} {artifacts : List BuildArtifact} {document : SnapshotDocument}
      (named : NamedIn dir t names)
      (read : List.Forall₂ (fun name a => readIn (Path.join dir name) t = .ok a) names artifacts)
      (built : SnapshotDocument.ofArtifacts artifacts = .ok document) :
      Ends dir t (.ok document)

section Listing

/-- The files taken for artifacts are the `.json` files with something in front of the extension. -/
theorem isArtifactName_iff (fileName : String) :
    isArtifactName fileName ↔ ∃ stem, stem ≠ "" ∧ fileName = stem ++ ".json" := by
  have spelled (stem : String) : stem ++ "." ++ "json" = stem ++ ".json" := by
    rw [String.append_assoc]
    rfl
  unfold isArtifactName
  constructor
  · intro taken
    split at taken
    · next stem extension cut =>
      obtain rfl := of_decide_eq_true taken
      obtain ⟨whole, some_stem, -⟩ := Path.stemAndExtension?_eq_some_iff.1 cut
      exact ⟨stem, some_stem, whole.trans (spelled stem)⟩
    · cases taken
  · rintro ⟨stem, some_stem, rfl⟩
    have cut : Path.stemAndExtension? (stem ++ ".json") = some (stem, "json") :=
      Path.stemAndExtension?_eq_some_iff.2 ⟨(spelled stem).symm, some_stem, by decide⟩
    rw [cut]
    rfl

theorem NamedIn.eq (named : NamedIn dir t names) (named' : NamedIn dir t names') :
    names = names' := by
  obtain ⟨listed, entries, mem_iff⟩ := named.mem_iff
  obtain ⟨listed', entries', mem_iff'⟩ := named'.mem_iff
  obtain rfl := Except.ok.inj (entries.symm.trans entries')
  have distinct := named.ascending.imp fun ordered => String.ne_of_lt ordered
  have distinct' := named'.ascending.imp fun ordered => String.ne_of_lt ordered
  have same : names.Perm names' := (List.perm_ext_iff_of_nodup distinct distinct').2 fun name =>
    (mem_iff name).trans (mem_iff' name).symm
  exact same.eq_of_pairwise (fun _ _ _ _ less greater => absurd greater (String.lt_asymm less))
    named.ascending named'.ascending

/-- The names are listed in the order of the system first, and sorted then. -/
theorem pathsIn_ends (dir : String) (t : FileTree) :
    (∃ failure, t.entries dir = .error failure ∧ pathsIn dir t = .error (.file dir failure)) ∨
      ∃ names, NamedIn dir t names ∧ pathsIn dir t = .ok (names.map (Path.join dir)) := by
  unfold pathsIn
  cases entries : t.entries dir with
  | error failure => exact Or.inl ⟨failure, rfl, rfl⟩
  | ok listed =>
    refine Or.inr ⟨_, ⟨?_, listed, entries, fun name => ?_⟩, rfl⟩
    · obtain ⟨-, number, -, rfl⟩ := FileTree.entries_eq_ok_iff.1 entries
      have distinct := (t.directory number).nodes.keys_distinct
      exact pairwise_lt_mergeSort ((distinct.filter _).filter _)
    · simp [isArtifactName_iff, and_comm]

/-- The order of the system leaves no trace in the paths. -/
theorem pathsIn_reordered (reordered : t.Reordered t') (dir : String) :
    pathsIn dir t' = pathsIn dir t := by
  unfold pathsIn
  rcases reordered.entries dir with
    ⟨failure, listed, listed'⟩ | ⟨names, names', listed, listed', same⟩
  · rw [listed, listed']
    rfl
  · rw [listed, listed']
    have kept := (same.filter isArtifactName).filter fun fileName =>
      t.isFile (Path.join dir fileName)
    change Except.ok _ = Except.ok _
    simp only [reordered.isFile]
    rw [mergeSort_eq_of_perm kept]

end Listing

theorem extractIn_reordered (reordered : t.Reordered t') (dir : String) :
    extractIn dir t' = extractIn dir t := by
  simp only [extractIn, readAllIn, readIn, pathsIn_reordered reordered, reordered.readText]

section Building

theorem isOk_extractEntry (entry : String × BuildArtifact) :
    (extractEntry entry).isOk = entry.2.extract.isOk := by
  unfold extractEntry
  cases entry.2.extract <;> rfl

/-- What is built is the document of the artifacts without their paths. -/
theorem documentOf_eq_ok_iff {artifacts : List (String × BuildArtifact)}
    {document : SnapshotDocument} :
    documentOf artifacts = .ok document ↔
      SnapshotDocument.ofArtifacts (artifacts.map Prod.snd) = .ok document := by
  have same (found : List (List ContractSnapshot)) : artifacts.mapM extractEntry = .ok found ↔
      (artifacts.map Prod.snd).mapM extract = .ok found := by
    rw [mapM_eq_ok_iff, mapM_eq_ok_iff, List.forall₂_map_left_iff]
    simp only [extractEntry_eq_ok_iff]
  rw [SnapshotBuilder.ofArtifacts_eq, documentOf_eq, map_eq_ok_iff, map_eq_ok_iff]
  simp only [same]

/-- The first artifact that cannot be extracted is named by its path. -/
theorem documentOf_eq_error_iff {artifacts : List (String × BuildArtifact)} {e : StoreError} :
    documentOf artifacts = .error e ↔ ∃ before path a after reason,
      artifacts = before ++ (path, a) :: after ∧ (∀ entry ∈ before, entry.2.extract.isOk) ∧
        a.extract = .error reason ∧ e = .extraction path reason := by
  have failed_iff : documentOf artifacts = .error e ↔ artifacts.mapM extractEntry = .error e := by
    rw [documentOf_eq]
    cases artifacts.mapM extractEntry <;> simp [Except.map]
  rw [failed_iff, mapM_eq_error_iff]
  simp only [isOk_extractEntry]
  constructor
  · rintro ⟨before, ⟨path, a⟩, after, rfl, passed, failed⟩
    obtain ⟨reason, refused, rfl⟩ := mapError_eq_error_iff.1 failed
    exact ⟨before, path, a, after, reason, rfl, passed, refused, rfl⟩
  · rintro ⟨before, path, a, after, reason, rfl, passed, failed, rfl⟩
    exact ⟨before, (path, a), after, rfl, passed, mapError_eq_error_iff.2 ⟨reason, failed, rfl⟩⟩

end Building

section Reading

/-- The artifact of a name in a directory, with its path. -/
def entryIn (dir : String) (t : FileTree) (name : String) :
    Except StoreError (String × BuildArtifact) :=
  return (Path.join dir name, ← readIn (Path.join dir name) t)

theorem entryIn_eq_ok_iff {path : String} {a : BuildArtifact} :
    entryIn dir t name = .ok (path, a) ↔
      path = Path.join dir name ∧ readIn (Path.join dir name) t = .ok a := by
  unfold entryIn
  cases readIn (Path.join dir name) t <;>
    simp [bind, Except.bind, pure, Except.pure, eq_comm]

theorem entryIn_eq_error_iff {e : StoreError} :
    entryIn dir t name = .error e ↔ readIn (Path.join dir name) t = .error e := by
  unfold entryIn
  cases readIn (Path.join dir name) t <;> simp [bind, Except.bind, pure, Except.pure]

theorem isOk_entryIn (dir : String) (t : FileTree) (name : String) :
    (entryIn dir t name).isOk = (readIn (Path.join dir name) t).isOk := by
  unfold entryIn
  cases readIn (Path.join dir name) t <;> rfl

theorem forall₂_readIn {entries : List (String × BuildArtifact)}
    (ran : names.mapM (entryIn dir t) = .ok entries) :
    List.Forall₂ (fun name a => readIn (Path.join dir name) t = .ok a) names
      (entries.map Prod.snd) := by
  rw [List.forall₂_map_right_iff]
  exact (mapM_eq_ok_iff.1 ran).imp fun name entry read => (entryIn_eq_ok_iff.1 read).2

/-- Where the artifacts of a directory have these names, they are read and then extracted. -/
theorem extractIn_of_namedIn (named : NamedIn dir t names) :
    extractIn dir t = names.mapM (entryIn dir t) >>= documentOf := by
  have listed : pathsIn dir t = .ok (names.map (Path.join dir)) := by
    rcases pathsIn_ends dir t with ⟨failure, failed, -⟩ | ⟨names', named', listed⟩
    · obtain ⟨listed, entries, -⟩ := named.mem_iff
      rw [failed] at entries
      cases entries
    · rwa [named.eq named']
  rw [extractIn, readAllIn, listed]
  change (List.mapM _ (names.map (Path.join dir)) >>= _) = _
  rw [List.mapM_map]
  rfl

end Reading

section Outcome

/-- The extraction of a directory ends in one of the ways described. -/
theorem ends_extractIn (dir : String) (t : FileTree) : Ends dir t (extractIn dir t) := by
  rcases pathsIn_ends dir t with ⟨failure, unlisted, failed⟩ | ⟨names, named, -⟩
  · rw [extractIn, readAllIn, failed]
    exact .unlisted unlisted
  rw [extractIn_of_namedIn named]
  cases ran : names.mapM (entryIn dir t) with
  | error e =>
    obtain ⟨before, name, after, rfl, readable, failed⟩ := mapM_eq_error_iff.1 ran
    simp only [isOk_entryIn] at readable
    exact .unread named readable (entryIn_eq_error_iff.1 failed)
  | ok artifacts =>
    change Ends dir t (documentOf artifacts)
    cases built : documentOf artifacts with
    | ok document =>
      exact .built named (forall₂_readIn ran) (documentOf_eq_ok_iff.1 built)
    | error e =>
      obtain ⟨before', path, a, after', reason, rfl, passed, failed, rfl⟩ :=
        documentOf_eq_error_iff.1 built
      obtain ⟨before, name, after, rfl, front, entry, -⟩ :=
        exists_append_of_forall₂ (mapM_eq_ok_iff.1 ran).flip
      obtain ⟨rfl, read⟩ := entryIn_eq_ok_iff.1 entry
      have readable := exists_mapM_eq_ok_iff.1 ⟨_, ran⟩
      simp only [isOk_entryIn] at readable
      refine .refused named readable (fun earlier listed a' read' => ?_) read failed
      obtain ⟨⟨path', a''⟩, listed', read''⟩ := exists_of_forall₂ front.flip listed
      obtain rfl := Except.ok.inj (read'.symm.trans (entryIn_eq_ok_iff.1 read'').2)
      exact passed _ listed'

/-- It ends in no other of these ways. -/
theorem extractIn_of_ends {outcome : Except StoreError SnapshotDocument}
    (ends : Ends dir t outcome) : extractIn dir t = outcome := by
  cases ends with
  | unlisted failed =>
    rw [extractIn, readAllIn, pathsIn, failed]
    rfl
  | @unread before after name failure named readable failed =>
    have ran : (before ++ name :: after).mapM (entryIn dir t) = .error failure := by
      refine mapM_eq_error_iff.2 ⟨before, name, after, rfl, ?_, entryIn_eq_error_iff.2 failed⟩
      simpa only [isOk_entryIn] using readable
    rw [extractIn_of_namedIn named, ran]
    rfl
  | @refused before after name artifact reason named readable extracted read failed =>
    simp only [← isOk_entryIn] at readable
    obtain ⟨artifacts, ran⟩ := exists_mapM_eq_ok_iff.2 readable
    obtain ⟨before', ⟨path, a⟩, after', rfl, front, entry, -⟩ :=
      exists_append_of_forall₂ (mapM_eq_ok_iff.1 ran)
    obtain ⟨rfl, read'⟩ := entryIn_eq_ok_iff.1 entry
    obtain rfl := Except.ok.inj (read.symm.trans read')
    rw [extractIn_of_namedIn named, ran]
    refine documentOf_eq_error_iff.2
      ⟨before', _, artifact, after', reason, rfl, ?_, failed, rfl⟩
    intro ⟨path, a⟩ listed
    obtain ⟨earlier, listed', read'⟩ := exists_of_forall₂ front.flip listed
    exact extracted earlier listed' a (entryIn_eq_ok_iff.1 read').2
  | @built names artifacts document named read built =>
    have readable : ∀ name ∈ names, (entryIn dir t name).isOk := by
      intro name listed
      obtain ⟨a, -, read⟩ := exists_of_forall₂ read listed
      rw [isOk_entryIn, read]
      rfl
    obtain ⟨entries, ran⟩ := exists_mapM_eq_ok_iff.2 readable
    obtain rfl : entries.map Prod.snd = artifacts := List.right_unique_forall₂'
      (fun _ _ _ first second => Except.ok.inj (first.symm.trans second)) (forall₂_readIn ran) read
    rw [extractIn_of_namedIn named, ran]
    exact documentOf_eq_ok_iff.2 built

/-- However the system lists the directories, the extraction of a directory has the same outcome and
changes nothing. It is the only one that the sorted artifacts allow: the directory cannot be listed,
or the first artifact that cannot be read tells why, or else the first that cannot be extracted, or
else there is the document of all artifacts in this order. -/
theorem outcome_is_independent_of_enumeration (dir : String) (t : FileTree) :
    ∃ outcome, (∀ ending, Ends dir t ending ↔ ending = outcome) ∧
      ∀ t', t.Reordered t' →
        (extractDirectory dir : Action SnapshotDocument).run t' = (outcome, t') := by
  refine ⟨extractIn dir t, fun ending => ⟨fun ends => (extractIn_of_ends ends).symm, ?_⟩, ?_⟩
  · rintro rfl
    exact ends_extractIn dir t
  · intro t' reordered
    rw [reads_extractDirectory dir t', extractIn_reordered reordered]

end Outcome

end StorageLayout.BuildArtifact
