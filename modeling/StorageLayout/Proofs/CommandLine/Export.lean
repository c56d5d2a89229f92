import StorageLayout.Proofs.CommandLine.Arguments
import StorageLayout.Proofs.CommandLine.Runs
import StorageLayout.Proofs.Comparison.Documents
import StorageLayout.Proofs.Extraction.Directory
import StorageLayout.Proofs.Extraction.Recompilation
import StorageLayout.Proofs.Report.Findings

/-!
# What can be done with an export

An export that succeeds leaves a document that the other commands can work with: it is read back as
it was extracted, it is listed and shown, and compared with itself it is clean. An export that fails
does not fail because its document is not valid.
-/
namespace StorageLayout.CommandLine

open FileTree (Action)

/-- A document that has been exported serves the other commands: it is read as it was, its name is
a line of the list of all names, its table is shown, and a comparison with itself finds nothing. -/
structure ServesAsBaseline (target : ExportTarget) (document : SnapshotDocument) (t : FileTree) :
    Prop where
  read : (SnapshotDocument.read target.path : Action SnapshotDocument).run t = (.ok document, t)
  listed : ∃ names out, (target.store.names : Action (List String)).run t = (.ok names, t) ∧
    (Command.list target.store).runIn t = (⟨.success, out, ""⟩, t) ∧
    out.toList = names.flatMap (fun name => name.toList ++ ['\n']) ∧
    target.name ∈ names ∧ target.name ∈ Report.linesOf out
  shown : (Command.tabulate target.store target.name).runIn t =
    (⟨.success, document.table.text ++ "\n", ""⟩, t)
  compared : ∀ contracts format,
    let report := document.compare document (contracts.map ContractFilter.ofText)
    (Command.compare target.path target.path contracts none format).runIn t =
      (⟨.success, report.shown format, ""⟩, t) ∧ report.totals = (0, 0)

/-- Why an export fails: the artifacts cannot be extracted, or their document cannot be saved. -/
inductive ExportFails (artifacts : String) (target : ExportTarget) (t : FileTree) :
    StoreError → Prop
  | extraction {e : StoreError} {after : FileTree}
      (failed : (BuildArtifact.extractDirectory artifacts : Action SnapshotDocument).run t =
        (.error e, after)) : ExportFails artifacts target t e
  | saving {document : SnapshotDocument} {e : StoreError} {extracted after : FileTree}
      (ran : (BuildArtifact.extractDirectory artifacts : Action SnapshotDocument).run t =
        (.ok document, extracted))
      (failed : (target.store.save target.name document : Action Unit).run extracted =
        (.error e, after)) : ExportFails artifacts target t e

variable {artifacts : String} {target : ExportTarget} {t after : FileTree}
variable {document : SnapshotDocument}

theorem status_ofStoreError_ne (context : String) (e : StoreError) :
    (Outcome.ofStoreError context e).status ≠ .success := by
  change (if e.isMalformedData then ExitStatus.malformed else .unreachable) ≠ .success
  split <;> exact nofun

/-- Everything works with a document that the store keeps. -/
theorem servesAsBaseline_of_keeps {number : Nat} (some_directory : target.directory ≠ "")
    (keeps : target.store.Keeps t number target.name document) :
    ServesAsBaseline target document t where
  read := keeps.read
  listed := by
    obtain ⟨names, ran, member⟩ := keeps.exists_names some_directory
    refine ⟨names, Report.ofLines names, ran, ?_, Report.toList_ofLines names, member, ?_⟩
    · rw [Command.runIn, Command.run, list, run_orElseFail_of_ok ran]
      rfl
    · -- Other names may hold line feeds, but the name of a snapshot does not.
      have on_line : Report.IsLine target.name :=
        SnapshotName.not_mem_of_isValid keeps.valid_name (Or.inr (by decide))
      rw [Report.linesOf_ofLines_eq_flatMap, List.mem_append, List.mem_flatMap]
      exact Or.inl ⟨_, member, by simp [Report.linesOf_of_isLine on_line]⟩
  shown := by
    rw [Command.runIn, Command.run, tabulate, run_orElseFail_of_ok keeps.load]
    rfl
  compared contracts format := by
    have read : (SnapshotDocument.read target.path : Action SnapshotDocument).run t =
        (.ok document, t) := keeps.read
    have clean := document.isClean_of_find?_compare_self (contracts.map ContractFilter.ofText)
    refine ⟨?_, Report.totals_of_isClean clean⟩
    rw [Command.runIn, Command.run, compare, run_orElseFail_of_ok read, run_orElseFail_of_ok read,
      run_reportTo]
    simp only [reported, Report.hasErrors_of_isClean clean, Bool.false_eq_true, if_false]

/-- An export ends in one of two ways: what was extracted is kept, or there is a reason for the
failure, which is not that the document is not valid. -/
theorem exports_serve_as_baselines {environment : Environment} {arguments : List String}
    (understood : Command.ofArguments environment arguments = .ok (.exportFrom artifacts target))
    (t : FileTree) :
    (((Command.exportFrom artifacts target).runIn t).1.status = .success →
      ∃ document, (BuildArtifact.extractDirectory artifacts : Action SnapshotDocument).run t =
          (.ok document, t) ∧
        ((Command.exportFrom artifacts target).runIn t).1.out = document.table.text ++ "\n" ∧
        ServesAsBaseline target document ((Command.exportFrom artifacts target).runIn t).2) ∧
    (((Command.exportFrom artifacts target).runIn t).1.status ≠ .success →
      ∃ context e, ((Command.exportFrom artifacts target).runIn t).1 = .ofStoreError context e ∧
        ExportFails artifacts target t e ∧ ∀ name cause, e ≠ .integrity name cause) := by
  have some_directory : target.directory ≠ "" := directory_ne_empty understood rfl
  have extraction := BuildArtifact.reads_extractDirectory artifacts t
  rw [Command.runIn, Command.run, exportFrom]
  cases extracted : BuildArtifact.extractIn artifacts t with
  | error e =>
    rw [extracted] at extraction
    rw [run_orElseFail_of_error extraction]
    refine ⟨fun succeeded => absurd succeeded (status_ofStoreError_ne _ e), fun _ => ?_⟩
    exact ⟨_, e, rfl, .extraction extraction, BuildArtifact.ne_integrity_of_extractIn extracted⟩
  | ok document =>
    rw [extracted] at extraction
    rw [run_orElseFail_of_ok extraction]
    cases saving : (target.store.save target.name document : Action Unit).run t with
    | mk answer after =>
      cases answer with
      | error e =>
        rw [run_orElseFail_of_error saving]
        refine ⟨fun succeeded => absurd succeeded (status_ofStoreError_ne _ e), fun _ => ?_⟩
        exact ⟨_, e, rfl, .saving extraction saving, DirectoryStore.ne_integrity_of_save
          (BuildArtifact.validate_of_extractIn extracted) saving⟩
      | ok _ =>
        rw [run_orElseFail_of_ok saving]
        refine ⟨fun _ => ?_, fun failed => absurd rfl failed⟩
        obtain ⟨number, keeps⟩ := DirectoryStore.exists_keeps_of_save saving
        exact ⟨document, extraction, rfl, servesAsBaseline_of_keeps some_directory keeps⟩

/-- Two variables of one name and one linked type, and a flag. -/
def queueLayout : RawLayout where
  storage := [⟨"head", "0", 0, "node", none, none⟩, ⟨"head", "1", 0, "node", none, none⟩,
    ⟨"open", "2", 0, "flag", none, none⟩]
  types := some nodeDictionary

/-- The record of a compiler run: a contract with this layout, one with an empty layout, and one
without a layout. -/
def queueRecord : Json :=
  .object [("output", .object [("contracts", .object [("Queue.sol", .object [
    ("Queue", .object [("storageLayout", .object [
      ("storage", .list [
        .object [("label", .text "head"), ("slot", .text "0"), ("offset", .natural 0),
          ("type", .text "node")],
        .object [("label", .text "head"), ("slot", .text "1"), ("offset", .natural 0),
          ("type", .text "node")],
        .object [("label", .text "open"), ("slot", .text "2"), ("offset", .natural 0),
          ("type", .text "flag")]]),
      ("types", .object [
        ("node", .object [("encoding", .text "inplace"), ("label", .text "struct Node"),
          ("members", .list [.object [("label", .text "next"), ("offset", .natural 0),
            ("slot", .text "0"), ("type", .text "node")]]),
          ("numberOfBytes", .text "32")]),
        ("flag", .object [("encoding", .text "inplace"), ("label", .text "bool"),
          ("numberOfBytes", .text "1")])])])]),
    ("Base", .object [("storageLayout", .object [("storage", .list []), ("types", .object [])])]),
    ("Reader", .object [])])])])]

def queueOutput : BuildArtifact :=
  ⟨none, ⟨⟨[("Queue.sol", ⟨[("Queue", ⟨some queueLayout⟩), ("Base", ⟨some ⟨[], some .empty⟩⟩),
    ("Reader", ⟨none⟩)], by decide⟩)], by decide⟩⟩⟩

/-- The document that is extracted from the record. -/
def queueDocument : SnapshotDocument where
  contracts := [
    { name := "Queue"
      stateVariables := [
        ⟨"head", ⟨0⟩, 0, "node", Canonicalizer.queueNode.fingerprint⟩,
        ⟨"head", ⟨1⟩, 0, "node", Canonicalizer.queueNode.fingerprint⟩,
        ⟨"open", ⟨2⟩, 0, "flag", Canonicalizer.boolDigest.fingerprint⟩]
      types := nodeDictionary },
    ⟨"Base", [], .empty⟩]

/-- A tree with that record in one directory and a snapshot in another. -/
def queueTree : FileTree where
  directories := #[
    { nodes := ⟨[("out", .directory 1), ("kept", .directory 2)], by decide⟩ },
    { nodes := ⟨[("Queue.json", .file queueRecord.compact.toUTF8)], by decide⟩ },
    { nodes := ⟨[("v1.json", .file .empty)], by decide⟩ }]

set_option maxRecDepth 20000 in
theorem decode_queueRecord : BuildArtifact.decode.run queueRecord.compact = .ok queueOutput := by
  have decoded : BuildArtifact.decode queueRecord.excerpt = .ok queueOutput := rfl
  rw [Json.Decoder.run, Json.ofText_compact]
  simp only [decoded, bind, Except.bind]
  rfl

set_option maxRecDepth 20000 in
theorem readAllIn_queueTree :
    BuildArtifact.readAllIn "out" queueTree = .ok [("out/Queue.json", queueOutput)] := by
  have taken : (["Queue.json"].filter BuildArtifact.isArtifactName).filter (fun fileName =>
      queueTree.isFile (Path.join "out" fileName)) = ["Queue.json"] := by decide +kernel
  have joined : Path.join "out" "Queue.json" = "out/Queue.json" := by decide +kernel
  have paths : BuildArtifact.pathsIn "out" queueTree = .ok ["out/Queue.json"] := by
    rw [BuildArtifact.pathsIn, show queueTree.entries "out" = .ok ["Queue.json"] from rfl]
    simp only [Except.mapError, bind, Except.bind, taken, List.mergeSort_singleton, List.map_cons,
      List.map_nil, joined]
    rfl
  have bytes : queueTree.readBytes "out/Queue.json" = .ok queueRecord.compact.toUTF8 := rfl
  have read : BuildArtifact.readIn "out/Queue.json" queueTree = .ok queueOutput := by
    rw [BuildArtifact.readIn, FileTree.readText, bytes]
    simp only [Except.mapError, bind, Except.bind, DirectoryStore.fromUTF8?_toUTF8,
      decode_queueRecord]
  rw [BuildArtifact.readAllIn, paths]
  simp only [bind, Except.bind, List.mapM_cons, List.mapM_nil, read]
  rfl

section Extraction

open Canonicalizer TypeScope

/-- Both variables of the linked type get the fingerprint of its one cycle. -/
theorem extract_queueOutput : queueOutput.extract = .ok queueDocument.contracts := by
  have node : TypeScope.find? ⟨"Queue", nodeDictionary⟩ "node" =
      some (linkedStruct "node" "struct Node" none) := rfl
  have flag : TypeScope.find? ⟨"Queue", nodeDictionary⟩ "flag" = some flagType := rfl
  have digest : TypeScope.plainDigest ⟨"Queue", nodeDictionary⟩ Digest.blake3 "flag" [] =
      .digest boolDigest := by
    rw [plainDigest_of_find? List.not_mem_nil flag, ← digests_of_nodes.1]
    rfl
  have queue : RawLayout.extract "Queue" (some queueLayout) = .ok queueDocument.contracts[0]? := by
    refine extract_of_few (s := ⟨"Queue", nodeDictionary⟩) (by decide)
      (.cons ?_ (.cons ?_ (.cons ?_ .nil)))
    · exact ⟨⟨0⟩, queueNode, rfl, plainDigest_linkedStruct node, rfl⟩
    · exact ⟨⟨1⟩, queueNode, rfl, plainDigest_linkedStruct node, rfl⟩
    · exact ⟨⟨2⟩, boolDigest, rfl, digest, rfl⟩
  have layouts : queueOutput.layouts =
      [("Queue", some queueLayout), ("Base", some ⟨[], some .empty⟩), ("Reader", none)] := rfl
  have base : RawLayout.extract "Base" (some ⟨[], some .empty⟩) =
      .ok queueDocument.contracts[1]? := rfl
  rw [BuildArtifact.extract, layouts]
  simp only [List.mapM_cons, List.mapM_nil, queue, base, bind, Except.bind]
  rfl

theorem extractIn_queueTree : BuildArtifact.extractIn "out" queueTree = .ok queueDocument := by
  have entry : BuildArtifact.extractEntry ("out/Queue.json", queueOutput) =
      .ok queueDocument.contracts :=
    BuildArtifact.extractEntry_eq_ok_iff.2 extract_queueOutput
  have built : (SnapshotBuilder.withSnapshots {}
      [queueDocument.contracts].flatten).document.contracts = queueDocument.contracts := by
    rw [SnapshotBuilder.contracts_withSnapshots]
    simp only [List.nil_append, Std.HashSet.not_mem_empty, not_false_eq_true, decide_true,
      List.filter_true]
    rfl
  rw [BuildArtifact.extractIn, readAllIn_queueTree]
  simp only [bind, Except.bind, BuildArtifact.documentOf_eq, List.mapM_cons, List.mapM_nil, entry]
  exact congrArg (Except.ok ∘ SnapshotDocument.mk) built

end Extraction

/-- The export succeeds: nothing is in the way of the new file. -/
theorem status_export_queueTree :
    ((Command.exportFrom "out" ⟨"kept", "v2"⟩).runIn queueTree).1.status = .success := by
  have extraction := BuildArtifact.reads_extractDirectory "out" queueTree
  rw [extractIn_queueTree] at extraction
  have valid : queueDocument.checkFor "v2" = .ok () :=
    (DirectoryStore.checkFor_eq_ok_iff "v2" queueDocument).2
      (BuildArtifact.validate_of_extractIn extractIn_queueTree)
  have path : DirectoryStore.path ⟨"kept"⟩ "v2" = .ok "kept/v2.json" := rfl
  have made : (FileSystem.makeDirectories "kept" : StateM FileTree _) queueTree =
      (.ok (), queueTree) := rfl
  have writable (text : String) : ∃ after, queueTree.writeText "kept/v2.json" text = .ok after :=
    ⟨_, rfl⟩
  obtain ⟨after, wrote⟩ := writable queueDocument.fileText
  have saving : ((ExportTarget.mk "kept" "v2").store.save "v2" queueDocument : Action Unit).run
      queueTree = (.ok (), after) := by
    rw [DirectoryStore.run_save, ExportTarget.store, path, valid]
    dsimp only
    rw [made]
    dsimp only
    rw [wrote]
  rw [Command.runIn, Command.run, exportFrom, run_orElseFail_of_ok extraction,
    run_orElseFail_of_ok saving]
  rfl

/-- The document serves once the record has been exported under a new name. -/
theorem queueTree_export_serves :
    (BuildArtifact.extractDirectory "out" : Action SnapshotDocument).run queueTree =
        (.ok queueDocument, queueTree) ∧
      ((Command.exportFrom "out" ⟨"kept", "v2"⟩).runIn queueTree).1.status = .success ∧
      ((Command.exportFrom "out" ⟨"kept", "v2"⟩).runIn queueTree).1.out =
        queueDocument.table.text ++ "\n" ∧
      ServesAsBaseline ⟨"kept", "v2"⟩ queueDocument
        ((Command.exportFrom "out" ⟨"kept", "v2"⟩).runIn queueTree).2 := by
  have understood : Command.ofArguments {} ["export", "-a", "out", "-o", "kept", "-n", "v2"] =
      .ok (.exportFrom "out" ⟨"kept", "v2"⟩) := rfl
  have extraction := BuildArtifact.reads_extractDirectory "out" queueTree
  rw [extractIn_queueTree] at extraction
  obtain ⟨document, extraction', shown, serves⟩ :=
    (exports_serve_as_baselines understood queueTree).1 status_export_queueTree
  obtain rfl : queueDocument = document :=
    Except.ok.inj (Prod.mk.inj (extraction.symm.trans extraction')).1
  exact ⟨extraction, status_export_queueTree, shown, serves⟩

end StorageLayout.CommandLine
