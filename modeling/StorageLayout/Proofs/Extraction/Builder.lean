import StorageLayout.Proofs.Extraction.Validity
import StorageLayout.Proofs.Stateful

/-!
# The first snapshot of each name

Artifacts are handed to a builder one after another, and some of them may be impossible to extract.
What the builder holds is determined by the snapshots of the others, taken as one list: of each name
the first one, in order. The names that are taken are those of the document and no others.
-/
namespace StorageLayout

namespace ContractSnapshot

/-- Of each name the first snapshot, in order. -/
def firstOfEachName (snapshots : List ContractSnapshot) : List ContractSnapshot :=
  snapshots.eraseDupsBy fun c d => c.name = d.name

theorem firstOfEachName_cons (c : ContractSnapshot) (rest : List ContractSnapshot) :
    firstOfEachName (c :: rest) = c :: firstOfEachName (rest.filter (·.name ≠ c.name)) := by
  simp [firstOfEachName, List.eraseDupsBy_cons]

end ContractSnapshot

namespace BuildArtifact

/-- The snapshots of the artifacts that can be extracted, as one list. -/
def extracted (artifacts : List BuildArtifact) : List ContractSnapshot :=
  (artifacts.filterMap fun a => a.extract.toOption).flatten

theorem extracted_cons_of_ok {a : BuildArtifact} {rest : List BuildArtifact}
    {snapshots : List ContractSnapshot} (found : a.extract = .ok snapshots) :
    extracted (a :: rest) = snapshots ++ extracted rest := by
  simp [extracted, found, Except.toOption]

theorem extracted_cons_of_error {a : BuildArtifact} {rest : List BuildArtifact}
    {reason : LayoutError} (failed : a.extract = .error reason) :
    extracted (a :: rest) = extracted rest := by
  simp [extracted, failed, Except.toOption]

/-- If all artifacts can be extracted, their snapshots are all there are. -/
theorem flatten_of_mapM_extract {artifacts : List BuildArtifact}
    {found : List (List ContractSnapshot)} (ran : artifacts.mapM extract = .ok found) :
    found.flatten = extracted artifacts := by
  have paired := mapM_eq_ok_iff.1 ran
  clear ran
  induction paired with
  | nil => rfl
  | cons first _ ih => rw [List.flatten_cons, extracted_cons_of_ok first, ih]

/-- The snapshots are those of the artifacts that can be extracted. -/
theorem mem_extracted_iff {artifacts : List BuildArtifact} {c : ContractSnapshot} :
    c ∈ extracted artifacts ↔ ∃ a ∈ artifacts, ∃ snapshots, a.extract = .ok snapshots ∧
      c ∈ snapshots := by
  simp only [extracted, List.mem_flatten, List.mem_filterMap]
  constructor
  · rintro ⟨snapshots, ⟨a, listed, found⟩, member⟩
    refine ⟨a, listed, snapshots, ?_, member⟩
    cases extraction : a.extract with
    | error reason =>
      rw [extraction] at found
      cases found
    | ok snapshots' =>
      rw [extraction] at found
      rw [Option.some.inj found]
  · rintro ⟨a, listed, snapshots, found, member⟩
    exact ⟨snapshots, ⟨a, listed, by rw [found]; rfl⟩, member⟩

/-- A layout is extracted under the name it is filed under, if it has types, and skipped if not. -/
theorem exists_of_extract_layout {name : String} {layout : Option RawLayout}
    {found : Option ContractSnapshot} (extraction : RawLayout.extract name layout = .ok found) :
    (∀ c, found = some c → c.name = name ∧ ∃ storage types, layout = some ⟨storage, some types⟩) ∧
      ((∃ storage types, layout = some ⟨storage, some types⟩) → ∃ c, found = some c) := by
  match layout with
  | none =>
    obtain rfl := Except.ok.inj extraction
    simp
  | some ⟨_, none⟩ =>
    obtain rfl := Except.ok.inj extraction
    simp
  | some ⟨storage, some types⟩ =>
    rw [RawLayout.extract_some] at extraction
    cases ran : (((Canonicalizer.ofScope Digest.blake3 ⟨name, types⟩).extractAll storage).run
        {}).1 with
    | error reason =>
      rw [ran] at extraction
      cases extraction
    | ok found' =>
      rw [ran] at extraction
      obtain rfl := Except.ok.inj extraction
      simp

/-- An artifact is extracted layout by layout, and the layouts without a snapshot are left out. -/
theorem exists_results_of_extract {a : BuildArtifact} {snapshots : List ContractSnapshot}
    (found : a.extract = .ok snapshots) :
    ∃ results, List.Forall₂ (fun (filed : String × Option RawLayout) result =>
        RawLayout.extract filed.1 filed.2 = .ok result) a.layouts results ∧
      results.filterMap (fun c => c) = snapshots := by
  unfold extract at found
  obtain ⟨results, each, found⟩ := bind_eq_ok_iff.1 found
  exact ⟨results, mapM_eq_ok_iff.1 each, Except.ok.inj found⟩

/-- The names of an artifact's snapshots are those of its contracts that have a layout with
types. -/
theorem exists_named_iff {a : BuildArtifact} {snapshots : List ContractSnapshot}
    (found : a.extract = .ok snapshots) (name : String) :
    (∃ c ∈ snapshots, c.name = name) ↔
      ∃ storage types, (name, some ⟨storage, some types⟩) ∈ a.layouts := by
  obtain ⟨results, paired, rfl⟩ := exists_results_of_extract found
  simp only [List.mem_filterMap]
  constructor
  · rintro ⟨c, ⟨_, listed, rfl⟩, rfl⟩
    obtain ⟨⟨name, layout⟩, filed, extraction⟩ := exists_of_forall₂ paired.flip listed
    obtain ⟨rfl, storage, types, rfl⟩ := (exists_of_extract_layout extraction).1 c rfl
    exact ⟨storage, types, filed⟩
  · rintro ⟨storage, types, filed⟩
    obtain ⟨result, listed, extraction⟩ := exists_of_forall₂ paired filed
    have described := exists_of_extract_layout extraction
    obtain ⟨c, rfl⟩ := described.2 ⟨storage, types, rfl⟩
    exact ⟨c, ⟨_, listed, rfl⟩, (described.1 c rfl).1⟩

theorem validate_of_mem_extract {a : BuildArtifact} {snapshots : List ContractSnapshot}
    (found : a.extract = .ok snapshots) {c : ContractSnapshot} (listed : c ∈ snapshots) :
    c.validate = .ok () := by
  obtain ⟨results, paired, rfl⟩ := exists_results_of_extract found
  obtain ⟨_, listed', rfl⟩ := List.mem_filterMap.1 listed
  obtain ⟨_, -, extraction⟩ := exists_of_forall₂ paired.flip listed'
  exact RawLayout.validate_of_extract extraction

end BuildArtifact

namespace SnapshotBuilder

variable {b : SnapshotBuilder}

/-- What a builder keeps at every step: it knows which names are in the document, each of them is
there once, and all snapshots are valid. -/
structure Sound (b : SnapshotBuilder) : Prop where
  mem_taken_iff : ∀ name, name ∈ b.taken ↔ name ∈ b.document.names
  names_distinct : b.document.names.Nodup
  valid : ∀ c ∈ b.document.contracts, c.validate = .ok ()

theorem sound_empty : Sound {} where
  mem_taken_iff := by simp [SnapshotDocument.names]
  names_distinct := List.nodup_nil
  valid := by simp

theorem names_add (b : SnapshotBuilder) (c : ContractSnapshot) :
    (b.add c).document.names = b.document.names ++ [c.name] := by
  simp [add, SnapshotDocument.names]

theorem mem_taken_add_iff {c : ContractSnapshot} {name : String} :
    name ∈ (b.add c).taken ↔ name = c.name ∨ name ∈ b.taken := by
  rw [add, Std.HashSet.mem_insert, beq_iff_eq, eq_comm]

/-- A snapshot with a free name can be added. -/
theorem Sound.add (sound : b.Sound) {c : ContractSnapshot} (free : c.name ∉ b.taken)
    (valid : c.validate = .ok ()) : (b.add c).Sound where
  mem_taken_iff name := by
    rw [mem_taken_add_iff, names_add, sound.mem_taken_iff]
    simp [or_comm]
  names_distinct := by
    rw [names_add]
    refine List.nodup_append.2 ⟨sound.names_distinct, by simp, ?_⟩
    rintro name listed _ added rfl
    obtain rfl := List.mem_singleton.1 added
    exact free ((sound.mem_taken_iff _).2 listed)
  valid c' listed := by
    rcases List.mem_append.1 listed with listed | added
    · exact sound.valid c' listed
    · obtain rfl := List.mem_singleton.1 added
      exact valid

/-- The builder with the snapshots of a list whose names are not taken when their turn comes. -/
def withSnapshots (b : SnapshotBuilder) (snapshots : List ContractSnapshot) : SnapshotBuilder :=
  snapshots.foldl (fun b c => if c.name ∈ b.taken then b else b.add c) b

theorem withSnapshots_cons (b : SnapshotBuilder) (c : ContractSnapshot)
    (rest : List ContractSnapshot) :
    b.withSnapshots (c :: rest) =
      if c.name ∈ b.taken then b.withSnapshots rest else (b.add c).withSnapshots rest := by
  unfold withSnapshots
  rw [List.foldl_cons]
  split <;> rfl

theorem withSnapshots_append (b : SnapshotBuilder) (snapshots others : List ContractSnapshot) :
    b.withSnapshots (snapshots ++ others) = (b.withSnapshots snapshots).withSnapshots others :=
  List.foldl_append

theorem withSnapshots_flatten (b : SnapshotBuilder) (found : List (List ContractSnapshot)) :
    b.withSnapshots found.flatten = found.foldl withSnapshots b :=
  List.foldl_flatten

theorem Sound.withSnapshots (sound : b.Sound) {snapshots : List ContractSnapshot}
    (valid : ∀ c ∈ snapshots, c.validate = .ok ()) : (b.withSnapshots snapshots).Sound := by
  induction snapshots generalizing b with
  | nil => exact sound
  | cons c rest ih =>
    rw [List.forall_mem_cons] at valid
    rw [withSnapshots_cons]
    split
    · exact ih sound valid.2
    · next free => exact ih (sound.add free valid.1) valid.2

/-- Of the snapshots whose names are free, the first of each name is added. -/
theorem contracts_withSnapshots (b : SnapshotBuilder) (snapshots : List ContractSnapshot) :
    (b.withSnapshots snapshots).document.contracts =
      b.document.contracts ++
        ContractSnapshot.firstOfEachName (snapshots.filter (·.name ∉ b.taken)) := by
  induction snapshots generalizing b with
  | nil => simp [withSnapshots, ContractSnapshot.firstOfEachName]
  | cons c rest ih =>
    rw [withSnapshots_cons]
    split
    · next taken => rw [ih, List.filter_cons_of_neg (by simpa using taken)]
    · next free =>
      -- The names that are free afterwards are those free before, without the one just taken.
      have left : rest.filter (·.name ∉ (b.add c).taken) =
          (rest.filter (·.name ∉ b.taken)).filter (·.name ≠ c.name) := by
        rw [List.filter_filter]
        refine List.filter_congr fun d _ => ?_
        simp [mem_taken_add_iff]
      rw [List.filter_cons_of_pos (by simpa using free), ContractSnapshot.firstOfEachName_cons, ih,
        left]
      simp [add]

/-- The names of all snapshots are taken, also of those that were not added. -/
theorem mem_taken_withSnapshots_iff {snapshots : List ContractSnapshot} {name : String} :
    name ∈ (b.withSnapshots snapshots).taken ↔
      name ∈ b.taken ∨ ∃ c ∈ snapshots, c.name = name := by
  induction snapshots generalizing b with
  | nil => simp [withSnapshots]
  | cons c rest ih =>
    rw [withSnapshots_cons]
    split
    · next taken =>
      rw [ih]
      constructor
      · exact Or.imp_right fun ⟨d, listed, named⟩ => ⟨d, by simp [listed], named⟩
      · rintro (held | ⟨d, listed, rfl⟩)
        · exact Or.inl held
        · rcases List.mem_cons.1 listed with rfl | listed
          · exact Or.inl taken
          · exact Or.inr ⟨d, listed, rfl⟩
    · rw [ih, mem_taken_add_iff]
      simp only [List.mem_cons, exists_eq_or_imp]
      tauto

section Feeding

open Stateful

theorem run_offer (count : Nat) (c : ContractSnapshot) (b : SnapshotBuilder) :
    (offer count c).run b =
      if c.name ∈ b.taken then (.ok count, b) else (.ok (count + 1), b.add c) := by
  rw [offer, run_bind, run_get]
  dsimp only
  split <;> rfl

/-- To offer snapshots never fails. The count grows as the document does. -/
theorem exists_run_foldlM_offer (snapshots : List ContractSnapshot) (count : Nat)
    (b : SnapshotBuilder) :
    ∃ added, (snapshots.foldlM offer count).run b =
        (.ok (count + added), b.withSnapshots snapshots) ∧
      (b.withSnapshots snapshots).document.contracts.length =
        b.document.contracts.length + added := by
  induction snapshots generalizing count b with
  | nil => exact ⟨0, rfl, rfl⟩
  | cons c rest ih =>
    rw [List.foldlM_cons, run_bind, run_offer, withSnapshots_cons]
    by_cases taken : c.name ∈ b.taken
    · rw [if_pos taken, if_pos taken]
      exact ih count b
    · obtain ⟨added, ran, grown⟩ := ih (count + 1) (b.add c)
      rw [if_neg taken, if_neg taken]
      refine ⟨added + 1, ?_, ?_⟩
      · rw [Nat.add_comm added, ← Nat.add_assoc]
        exact ran
      · rw [grown]
        simp only [add, List.length_append, List.length_singleton]
        omega

/-- An artifact that can be extracted is added snapshot by snapshot. -/
theorem exists_run_feed_of_ok {a : BuildArtifact} {snapshots : List ContractSnapshot}
    (found : a.extract = .ok snapshots) (b : SnapshotBuilder) :
    ∃ added, (feed a).run b = (.ok added, b.withSnapshots snapshots) ∧
      (b.withSnapshots snapshots).document.contracts.length =
        b.document.contracts.length + added := by
  obtain ⟨added, ran, grown⟩ := exists_run_foldlM_offer snapshots 0 b
  refine ⟨added, ?_, grown⟩
  rw [feed, run_ofExcept_bind, found]
  rw [Nat.zero_add] at ran
  exact ran

/-- An artifact that cannot be extracted fails before anything is added. -/
theorem run_feed_of_error {a : BuildArtifact} {reason : LayoutError}
    (failed : a.extract = .error reason) (b : SnapshotBuilder) :
    (feed a).run b = (.error reason, b) := by
  rw [feed, run_ofExcept_bind, failed]

/-- An artifact is answered with an error exactly if it cannot be extracted. -/
theorem fst_run_feed_eq_error_iff (b : SnapshotBuilder) (a : BuildArtifact)
    (reason : LayoutError) : ((feed a).run b).1 = .error reason ↔ a.extract = .error reason := by
  cases extraction : a.extract with
  | error reason' =>
    rw [run_feed_of_error extraction]
    simp
  | ok snapshots =>
    obtain ⟨added, ran, -⟩ := exists_run_feed_of_ok extraction b
    rw [ran]
    exact iff_of_false nofun nofun

/-- A failure leaves the builder as it was. -/
theorem eq_of_run_feed_eq_error {a : BuildArtifact} {reason : LayoutError}
    {b after : SnapshotBuilder} (failed : (feed a).run b = (.error reason, after)) :
    after = b := by
  have refused := (fst_run_feed_eq_error_iff b a reason).1 (congrArg Prod.fst failed)
  rw [run_feed_of_error refused] at failed
  exact (Prod.mk.inj failed).2.symm

/-- Hands artifacts to the builder one after another, whatever becomes of each. -/
def feedAll (artifacts : List BuildArtifact) :
    StateM SnapshotBuilder (List (Except LayoutError Nat)) :=
  artifacts.mapM fun a => (feed a).run

theorem run_feedAll_cons (a : BuildArtifact) (rest : List BuildArtifact) (b : SnapshotBuilder) :
    (feedAll (a :: rest)).run b =
      (((feed a).run b).1 :: ((feedAll rest).run ((feed a).run b).2).1,
        ((feedAll rest).run ((feed a).run b).2).2) := by
  unfold feedAll
  rw [List.mapM_cons]
  rfl

/-- Feeding artifacts is adding the snapshots of those that can be extracted, and the counts tell by
how many snapshots the document has grown. -/
theorem run_feedAll_eq (artifacts : List BuildArtifact) (b : SnapshotBuilder) :
    ((feedAll artifacts).run b).2 = b.withSnapshots (BuildArtifact.extracted artifacts) ∧
      ((feedAll artifacts).run b).2.document.contracts.length = b.document.contracts.length +
        (((feedAll artifacts).run b).1.filterMap Except.toOption).sum := by
  induction artifacts generalizing b with
  | nil => exact ⟨rfl, rfl⟩
  | cons a rest ih =>
    rw [run_feedAll_cons]
    cases extraction : a.extract with
    | error reason =>
      rw [run_feed_of_error extraction, BuildArtifact.extracted_cons_of_error extraction]
      exact ih b
    | ok snapshots =>
      obtain ⟨added, ran, grown⟩ := exists_run_feed_of_ok extraction b
      obtain ⟨same, counted⟩ := ih (b.withSnapshots snapshots)
      rw [ran, BuildArtifact.extracted_cons_of_ok extraction, withSnapshots_append]
      refine ⟨same, counted.trans ?_⟩
      rw [grown, Nat.add_assoc]
      rfl

theorem sound_feedAll (artifacts : List BuildArtifact) :
    ((feedAll artifacts).run {}).2.Sound := by
  rw [(run_feedAll_eq artifacts {}).1]
  refine sound_empty.withSnapshots fun c listed => ?_
  obtain ⟨a, -, snapshots, found, member⟩ := BuildArtifact.mem_extracted_iff.1 listed
  exact BuildArtifact.validate_of_mem_extract found member

/-- The artifacts fed later meet the builder that the earlier ones have left. -/
theorem run_feedAll_append (artifacts later : List BuildArtifact) (b : SnapshotBuilder) :
    (feedAll (artifacts ++ later)).run b =
      let (answers, built) := (feedAll artifacts).run b
      (answers ++ ((feedAll later).run built).1, ((feedAll later).run built).2) := by
  induction artifacts generalizing b with
  | nil => rfl
  | cons a rest ih =>
    rw [List.cons_append, run_feedAll_cons, run_feedAll_cons, ih]
    rfl

/-- The answer to an artifact is an error exactly if the artifact cannot be extracted. -/
theorem forall₂_answers (artifacts : List BuildArtifact) (b : SnapshotBuilder) :
    List.Forall₂ (fun a answer => ∀ reason, answer = .error reason ↔ a.extract = .error reason)
      artifacts ((feedAll artifacts).run b).1 := by
  induction artifacts generalizing b with
  | nil => exact .nil
  | cons a rest ih =>
    rw [run_feedAll_cons]
    exact .cons (fst_run_feed_eq_error_iff b a) (ih _)

/-- A name is taken exactly if an artifact that can be extracted has a contract of that name with a
layout and types; a contract without them reserves nothing. -/
theorem mem_taken_feedAll_iff (artifacts : List BuildArtifact) (name : String) :
    name ∈ ((feedAll artifacts).run {}).2.taken ↔ ∃ a ∈ artifacts, a.extract.isOk ∧
      ∃ storage types, (name, some ⟨storage, some types⟩) ∈ a.layouts := by
  rw [(run_feedAll_eq artifacts {}).1, mem_taken_withSnapshots_iff]
  simp only [Std.HashSet.not_mem_empty, false_or]
  constructor
  · rintro ⟨c, listed, named⟩
    obtain ⟨a, member, snapshots, found, listed'⟩ := BuildArtifact.mem_extracted_iff.1 listed
    exact ⟨a, member, by rw [found]; rfl,
      (BuildArtifact.exists_named_iff found name).1 ⟨c, listed', named⟩⟩
  · rintro ⟨a, member, passed, filed⟩
    cases found : a.extract with
    | error reason =>
      rw [found] at passed
      cases passed
    | ok snapshots =>
      obtain ⟨c, listed, named⟩ := (BuildArtifact.exists_named_iff found name).2 filed
      exact ⟨c, BuildArtifact.mem_extracted_iff.2 ⟨a, member, snapshots, found, listed⟩, named⟩

theorem run_discard_feed_of_ok (a : BuildArtifact) (snapshots : List ContractSnapshot)
    (found : a.extract = .ok snapshots) (b : SnapshotBuilder) :
    (discard (feed a)).run b = (.ok (), b.withSnapshots snapshots) := by
  obtain ⟨added, ran, -⟩ := exists_run_feed_of_ok found b
  rw [run_discard, ran]

theorem run_discard_feed_of_error (a : BuildArtifact) (reason : LayoutError)
    (failed : a.extract = .error reason) (b : SnapshotBuilder) :
    (discard (feed a)).run b = (.error reason, b) := by
  rw [run_discard, run_feed_of_error failed]

/-- The document of a list is built from the snapshots of all artifacts. -/
theorem ofArtifacts_eq (artifacts : List BuildArtifact) :
    SnapshotDocument.ofArtifacts artifacts = (artifacts.mapM BuildArtifact.extract).map
      fun found => (withSnapshots {} found.flatten).document := by
  obtain ⟨answer, state⟩ :=
    run_forM run_discard_feed_of_ok run_discard_feed_of_error artifacts {}
  change ((feedEach artifacts).run {}).1.map (fun _ => ((feedEach artifacts).run {}).2.document) = _
  rw [feedEach, answer]
  cases ran : artifacts.mapM BuildArtifact.extract with
  | error reason => rfl
  | ok found =>
    rw [state found ran, ← withSnapshots_flatten]
    rfl

/-- All artifacts together give the document of the builder if each can be extracted. -/
theorem ofArtifacts_eq_ok_iff (artifacts : List BuildArtifact) (document : SnapshotDocument) :
    SnapshotDocument.ofArtifacts artifacts = .ok document ↔
      (∀ a ∈ artifacts, a.extract.isOk) ∧ document = ((feedAll artifacts).run {}).2.document := by
  rw [ofArtifacts_eq, ← exists_mapM_eq_ok_iff]
  cases ran : artifacts.mapM BuildArtifact.extract with
  | error reason => simp [Except.map]
  | ok found =>
    simp [Except.map, (run_feedAll_eq artifacts {}).1, BuildArtifact.flatten_of_mapM_extract ran,
      eq_comm]

/-- They are refused for the first that cannot be extracted. -/
theorem ofArtifacts_eq_error_iff (artifacts : List BuildArtifact) (reason : LayoutError) :
    SnapshotDocument.ofArtifacts artifacts = .error reason ↔
      ∃ before a after, artifacts = before ++ a :: after ∧
        (∀ b ∈ before, b.extract.isOk) ∧ a.extract = .error reason := by
  rw [ofArtifacts_eq, ← mapM_eq_error_iff]
  cases artifacts.mapM BuildArtifact.extract <;> simp [Except.map]

end Feeding

/-- Feeding artifacts leaves of each name the first snapshot, in the order of the artifacts that can
be extracted; this holds after every one of them, as later ones only add to it. An artifact that
fails leaves no trace, and a name is taken only by a contract that has a layout with types. The
document of a whole list is the same if no artifact fails, and otherwise there is the error of the
first that does. -/
theorem first_snapshots_are_kept (artifacts : List BuildArtifact) :
    let answers := ((feedAll artifacts).run {}).1
    let built := ((feedAll artifacts).run {}).2
    built.document.contracts =
        ContractSnapshot.firstOfEachName (BuildArtifact.extracted artifacts) ∧
      built.document.names.Nodup ∧
      (∀ c ∈ built.document.contracts, c.validate = .ok ()) ∧
      List.Forall₂ (fun a answer => ∀ reason, answer = .error reason ↔ a.extract = .error reason)
        artifacts answers ∧
      (answers.filterMap Except.toOption).sum = built.document.contracts.length ∧
      (∀ later, (feedAll (artifacts ++ later)).run {} =
        (answers ++ ((feedAll later).run built).1, ((feedAll later).run built).2)) ∧
      (∀ (b : SnapshotBuilder) a reason after,
        (feed a).run b = (.error reason, after) → after = b) ∧
      (∀ name, name ∈ built.taken ↔ name ∈ built.document.names) ∧
      (∀ name, name ∈ built.taken ↔ ∃ a ∈ artifacts, a.extract.isOk ∧
        ∃ storage types, (name, some ⟨storage, some types⟩) ∈ a.layouts) ∧
      (∀ document, SnapshotDocument.ofArtifacts artifacts = .ok document ↔
        (∀ a ∈ artifacts, a.extract.isOk) ∧ document = built.document) ∧
      ∀ reason, SnapshotDocument.ofArtifacts artifacts = .error reason ↔
        ∃ before a after, artifacts = before ++ a :: after ∧
          (∀ b ∈ before, b.extract.isOk) ∧ a.extract = .error reason := by
  intro answers built
  obtain ⟨same, counted⟩ := run_feedAll_eq artifacts {}
  have sound : built.Sound := sound_feedAll artifacts
  refine ⟨?_, sound.names_distinct, sound.valid, forall₂_answers artifacts {}, ?_,
    fun later => run_feedAll_append artifacts later {},
    fun _ _ _ _ failed => eq_of_run_feed_eq_error failed, sound.mem_taken_iff,
    mem_taken_feedAll_iff artifacts, ofArtifacts_eq_ok_iff artifacts,
    ofArtifacts_eq_error_iff artifacts⟩
  · simp [built, same, contracts_withSnapshots]
  · exact (counted.trans (Nat.zero_add _)).symm

def flagTypes : TypeDictionary where
  entries := [("t_bool", ⟨.inplace, "bool", "1", none, none, none, none⟩)]
  keys_distinct := by decide

/-- The record of a run that compiled one file. -/
def fileArtifact (contracts : Dictionary ContractOutput) : BuildArtifact :=
  ⟨none, ⟨⟨[("Vault.sol", contracts)], by simp⟩⟩⟩

/-- A contract with an empty layout, and one without a layout. -/
def firstArtifact : BuildArtifact :=
  fileArtifact ⟨[("Vault", ⟨some ⟨[], some .empty⟩⟩), ("Reader", ⟨none⟩)], by decide⟩

/-- A contract, and a variable whose slot is not a number in the next one. -/
def brokenArtifact : BuildArtifact :=
  fileArtifact ⟨[("Owner", ⟨some ⟨[], some .empty⟩⟩),
    ("Token", ⟨some ⟨[⟨"total", "x", 0, "t_bool", none, none⟩], some flagTypes⟩⟩)], by decide⟩

/-- The contracts of the first artifact, now with types. -/
def laterArtifact : BuildArtifact :=
  fileArtifact ⟨[("Vault", ⟨some ⟨[], some flagTypes⟩⟩), ("Reader", ⟨some ⟨[], some flagTypes⟩⟩)],
    by decide⟩

/-- The first layout of the repeated name is kept, the name without a layout is still free for the
later artifact, and of the artifact in between nothing is kept. -/
theorem first_snapshots_of_three_artifacts :
    let artifacts := [firstArtifact, brokenArtifact, laterArtifact]
    let built := ((feedAll artifacts).run {}).2
    built.document.contracts = [⟨"Vault", [], .empty⟩, ⟨"Reader", [], flagTypes⟩] ∧
    (∃ m n, ((feedAll artifacts).run {}).1 =
      [.ok m, .error (.invalidSlot "Token" "total" "x"), .ok n] ∧ m + n = 2) ∧
    "Owner" ∉ built.taken ∧
    built.addArtifact brokenArtifact = .error (.invalidSlot "Token" "total" "x") ∧
    SnapshotDocument.ofArtifacts artifacts = .error (.invalidSlot "Token" "total" "x") := by
  intro artifacts built
  have first : firstArtifact.extract = .ok [⟨"Vault", [], .empty⟩] := rfl
  have broken : brokenArtifact.extract = .error (.invalidSlot "Token" "total" "x") := rfl
  have later : laterArtifact.extract = .ok [⟨"Vault", [], flagTypes⟩, ⟨"Reader", [], flagTypes⟩] :=
    rfl
  obtain ⟨kept, -, -, answers, counted, -, -, taken, -, -, refused⟩ :=
    first_snapshots_are_kept artifacts
  have contracts : built.document.contracts =
      [⟨"Vault", [], .empty⟩, ⟨"Reader", [], flagTypes⟩] := kept.trans rfl
  refine ⟨contracts, ?_, ?_, ?_, ?_⟩
  · have passes {a : BuildArtifact} {snapshots : List ContractSnapshot}
        {answer : Except LayoutError Nat} (found : a.extract = .ok snapshots)
        (fails : ∀ reason, answer = .error reason ↔ a.extract = .error reason) :
        ∃ n, answer = .ok n := by
      cases answer with
      | error reason => exact nomatch found.symm.trans ((fails reason).1 rfl)
      | ok n => exact ⟨n, rfl⟩
    obtain ⟨_, _, fails, two, three⟩ := List.forall₂_cons_left_iff.1 answers
    obtain ⟨_, _, fails', one, rfl⟩ := List.forall₂_cons_left_iff.1 two
    obtain ⟨_, _, fails'', none_left, rfl⟩ := List.forall₂_cons_left_iff.1 one
    obtain rfl := List.forall₂_nil_left_iff.1 none_left
    obtain ⟨m, rfl⟩ := passes first fails
    obtain rfl := (fails' _).2 broken
    obtain ⟨n, rfl⟩ := passes later fails''
    have grown : ([m, n] : List Nat).sum = 2 := by
      rw [contracts, three] at counted
      exact counted
    exact ⟨m, n, three, by simpa using grown⟩
  · rw [taken, SnapshotDocument.names, contracts]
    decide
  · rw [addArtifact, run_feed_of_error broken]
    rfl
  · exact (refused _).2 ⟨[firstArtifact], brokenArtifact, [laterArtifact], rfl,
      by simp [first, Except.isOk, Except.toBool], broken⟩

end SnapshotBuilder
end StorageLayout
