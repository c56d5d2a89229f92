import StorageLayout.Proofs.CommandLine.Runs
import StorageLayout.Proofs.Comparison.Documents

/-!
# How a comparison ends

Which number a comparison ends with is said here by what the files contain and by what the contracts
differ in, without the order in which the program finds it out. A program that runs the comparison
relies on this number, and on the file with the report.
-/
namespace StorageLayout.CommandLine

open FileTree (Action)

/-- The file at a path holds a valid document. -/
def Readable (t : FileTree) (path : String) (document : SnapshotDocument) : Prop :=
  ∃ text, t.readText path = .ok text ∧ SnapshotDocument.decode.run text = .ok document ∧
    document.validate = .ok ()

/-- There is no valid document at a path, and this number stands for the reason. -/
inductive Unreadable (t : FileTree) (path : String) : Nat → Prop
  /-- There is no file that can be read. -/
  | file {failure : FileError} (failed : t.readText path = .error failure) : Unreadable t path 3
  /-- The file has another text than that of a document. -/
  | json {text : String} {problem : Json.Problem} (read : t.readText path = .ok text)
      (malformed : SnapshotDocument.decode.run text = .error problem) : Unreadable t path 2
  /-- The document in the file is not valid. -/
  | integrity {text : String} {document : SnapshotDocument} {problem : LayoutError}
      (read : t.readText path = .ok text)
      (decoded : SnapshotDocument.decode.run text = .ok document)
      (invalid : document.validate = .error problem) : Unreadable t path 2

/-- A list of contracts, if it is given, has a name. -/
def Selects (contracts : Option String) (name : String) : Prop :=
  ∀ list, contracts = some list →
    name ≠ "" ∧ ∃ part ∈ Text.parts ',' list, Text.trimmed part = name

/-- Some name that is selected occurs in both documents, and the comparison of the first contracts
of that name has a diagnostic of severity error. -/
def Breaks (old new : SnapshotDocument) (contracts : Option String) : Prop :=
  ∃ name a b, Selects contracts name ∧ old.contract? name = some a ∧ new.contract? name = some b ∧
    ∃ d ∈ (a.compare b).diagnostics, d.severity = .error

def reportOn (old new : SnapshotDocument) (contracts : Option String) : Report :=
  old.compare new (contracts.map ContractFilter.ofText)

/-- The tree after a text has been written to a path, if there is one. -/
def Written (t : FileTree) (text : String) : Option String → FileTree → Prop
  | none, after => after = t
  | some path, after => t.writeText path text = .ok after

/-- How a comparison ends: with a number and with a tree of files. -/
inductive ComparisonEnds (t : FileTree) (old new : String) (contracts output : Option String) :
    Nat → FileTree → Prop
  | oldUnreadable {code : Nat} (unreadable : Unreadable t old code) :
      ComparisonEnds t old new contracts output code t
  | newUnreadable {code : Nat} {a : SnapshotDocument} (readable : Readable t old a)
      (unreadable : Unreadable t new code) : ComparisonEnds t old new contracts output code t
  /-- The report is wanted in a file and cannot be written, whatever it says. -/
  | notWritten {a b : SnapshotDocument} {path : String} {failure : FileError}
      (old_readable : Readable t old a) (new_readable : Readable t new b)
      (wanted : output = some path)
      (failed : t.writeText path (reportOn a b contracts).markdown = .error failure) :
      ComparisonEnds t old new contracts output 3 t
  | findings {a b : SnapshotDocument} {after : FileTree}
      (old_readable : Readable t old a) (new_readable : Readable t new b)
      (written : Written t (reportOn a b contracts).markdown output after)
      (breaks : Breaks a b contracts) : ComparisonEnds t old new contracts output 1 after
  | success {a b : SnapshotDocument} {after : FileTree}
      (old_readable : Readable t old a) (new_readable : Readable t new b)
      (written : Written t (reportOn a b contracts).markdown output after)
      (compatible : ¬ Breaks a b contracts) : ComparisonEnds t old new contracts output 0 after

theorem ExitStatus.code_injective : Function.Injective ExitStatus.code := by
  intro status other same
  cases status <;> cases other <;> first | rfl | cases same

theorem isAllowed_ofText_iff (contracts : Option String) (name : String) :
    SnapshotDocument.isAllowed (contracts.map ContractFilter.ofText) name ↔
      Selects contracts name := by
  simp only [SnapshotDocument.isAllowed_map_ofText_iff, Selects, ContractFilter.allows_ofText_iff]

/-- A report has an error exactly if the second document breaks the first one. -/
theorem hasErrors_reportOn_iff (old new : SnapshotDocument) (contracts : Option String) :
    (reportOn old new contracts).hasErrors ↔ Breaks old new contracts := by
  simp only [Report.hasErrors_iff, reportOn, SnapshotDocument.find?_compare]
  constructor
  · rintro ⟨name, findings, found, errors⟩
    split at found
    · next allowed =>
      obtain ⟨a, b, old_found, new_found, rfl⟩ :=
        SnapshotDocument.compareNamed_eq_some_iff.1 found
      refine ⟨name, a, b, (isAllowed_ofText_iff contracts name).1 allowed, old_found, new_found, ?_⟩
      exact (ContractSnapshot.hasErrors_compare_iff_exists a b).1 errors
    · cases found
  · rintro ⟨name, a, b, selected, old_found, new_found, diagnostic⟩
    refine ⟨name, a.compare b, ?_, ?_⟩
    · rw [if_pos ((isAllowed_ofText_iff contracts name).2 selected)]
      exact SnapshotDocument.compareNamed_eq_some_iff.2 ⟨a, b, old_found, new_found, rfl⟩
    · exact (ContractSnapshot.hasErrors_compare_iff_exists a b).2 diagnostic

variable {t : FileTree} {path : String}

theorem Readable.run_read {document : SnapshotDocument} (readable : Readable t path document) :
    (SnapshotDocument.read path : Action SnapshotDocument).run t = (.ok document, t) := by
  obtain ⟨text, read, decoded, valid⟩ := readable
  rw [DirectoryStore.reads_document path t]
  simp [read, SnapshotDocument.ofFileText, decoded, valid, Except.mapError, bind, Except.bind, pure,
    Except.pure]

/-- A read that fails says which of the numbers the program ends with. -/
theorem Unreadable.exists_run_read {code : Nat} (unreadable : Unreadable t path code) :
    ∃ e, (SnapshotDocument.read path : Action SnapshotDocument).run t = (.error e, t) ∧
      ∀ context, (Outcome.ofStoreError context e).status.code = code := by
  rw [DirectoryStore.reads_document path t]
  cases unreadable with
  | @file failure failed =>
    refine ⟨.file path failure, ?_, fun context => rfl⟩
    simp [failed, Except.mapError, bind, Except.bind]
  | @json text problem read malformed =>
    refine ⟨.unreadable path problem, ?_, fun context => rfl⟩
    simp [read, SnapshotDocument.ofFileText, malformed, Except.mapError, bind, Except.bind]
  | @integrity text document problem read decoded invalid =>
    refine ⟨.integrity path problem, ?_, fun context => rfl⟩
    simp [read, SnapshotDocument.ofFileText, decoded, invalid, Except.mapError, bind, Except.bind]

theorem readable_or_unreadable (t : FileTree) (path : String) :
    (∃ document, Readable t path document) ∨ ∃ code, Unreadable t path code := by
  cases read : t.readText path with
  | error failure => exact .inr ⟨3, .file read⟩
  | ok text =>
    cases decoded : SnapshotDocument.decode.run text with
    | error problem => exact .inr ⟨2, .json read decoded⟩
    | ok document =>
      cases valid : document.validate with
      | error problem => exact .inr ⟨2, .integrity read decoded valid⟩
      | ok _ => exact .inl ⟨document, text, read, decoded, valid⟩

theorem code_reported (a b : SnapshotDocument) (contracts : Option String) (format : ReportFormat) :
    (reported (reportOn a b contracts) format).status.code =
      if (reportOn a b contracts).hasErrors then 1 else 0 := by
  unfold reported
  cases (reportOn a b contracts).hasErrors <;> rfl

variable {old new : String} {contracts output : Option String} {code : Nat}
variable {after : FileTree} {a b : SnapshotDocument}

/-- Two documents that can be read are compared. -/
theorem runIn_compare (old_readable : Readable t old a) (new_readable : Readable t new b)
    (contracts output : Option String) (format : ReportFormat) :
    (Command.compare old new contracts output format).runIn t =
      (reportTo output (reportOn a b contracts) format : StateM FileTree Outcome) t := by
  rw [Command.runIn, Command.run, compare, run_orElseFail_of_ok old_readable.run_read,
    run_orElseFail_of_ok new_readable.run_read, reportOn]

theorem runIn_compare_of_written (old_readable : Readable t old a) (new_readable : Readable t new b)
    (written : Written t (reportOn a b contracts).markdown output after) (format : ReportFormat) :
    (Command.compare old new contracts output format).runIn t =
      (reported (reportOn a b contracts) format, after) := by
  rw [runIn_compare old_readable new_readable, run_reportTo]
  cases output with
  | none => rw [show after = t from written]
  | some path => simp only [show t.writeText path _ = .ok after from written]

/-- What is said about how a comparison ends is what comes of it, whatever the format. -/
theorem ComparisonEnds.runIn (ends : ComparisonEnds t old new contracts output code after)
    (format : ReportFormat) :
    ((Command.compare old new contracts output format).runIn t).1.status.code = code ∧
      ((Command.compare old new contracts output format).runIn t).2 = after := by
  cases ends with
  | oldUnreadable unreadable =>
    obtain ⟨e, ran, status⟩ := unreadable.exists_run_read
    rw [Command.runIn, Command.run, compare, run_orElseFail_of_error ran]
    exact ⟨status _, rfl⟩
  | newUnreadable readable unreadable =>
    obtain ⟨e, ran, status⟩ := unreadable.exists_run_read
    rw [Command.runIn, Command.run, compare, run_orElseFail_of_ok readable.run_read,
      run_orElseFail_of_error ran]
    exact ⟨status _, rfl⟩
  | notWritten old_readable new_readable wanted failed =>
    rw [runIn_compare old_readable new_readable, run_reportTo, wanted]
    simp only [failed, and_true]
    rfl
  | findings old_readable new_readable written breaks =>
    rw [runIn_compare_of_written old_readable new_readable written, code_reported,
      if_pos ((hasErrors_reportOn_iff _ _ _).2 breaks)]
    exact ⟨rfl, rfl⟩
  | success old_readable new_readable written compatible =>
    rw [runIn_compare_of_written old_readable new_readable written, code_reported,
      if_neg (compatible ∘ (hasErrors_reportOn_iff _ _ _).1)]
    exact ⟨rfl, rfl⟩

theorem written_or_failed (t : FileTree) (text : String) (output : Option String) :
    (∃ after, Written t text output after) ∨
      ∃ path failure, output = some path ∧ t.writeText path text = .error failure := by
  cases output with
  | none => exact .inl ⟨t, rfl⟩
  | some path =>
    cases wrote : t.writeText path text with
    | ok after => exact .inl ⟨after, wrote⟩
    | error failure => exact .inr ⟨path, failure, rfl, wrote⟩

/-- Every comparison ends in one of these ways. -/
theorem exists_comparisonEnds (t : FileTree) (old new : String) (contracts output : Option String) :
    ∃ code after, ComparisonEnds t old new contracts output code after := by
  rcases readable_or_unreadable t old with ⟨a, old_readable⟩ | ⟨code, unreadable⟩
  · rcases readable_or_unreadable t new with ⟨b, new_readable⟩ | ⟨code, unreadable⟩
    · rcases written_or_failed t (reportOn a b contracts).markdown output with
        ⟨after, written⟩ | ⟨path, failure, wanted, failed⟩
      · by_cases breaks : Breaks a b contracts
        · exact ⟨1, after, .findings old_readable new_readable written breaks⟩
        · exact ⟨0, after, .success old_readable new_readable written breaks⟩
      · exact ⟨3, t, .notWritten old_readable new_readable wanted failed⟩
    · exact ⟨code, t, .newUnreadable old_readable unreadable⟩
  · exact ⟨code, t, .oldUnreadable unreadable⟩

/-- How a comparison ends depends on the documents alone, in every format: its number and the files
afterwards are those that the documents, the selected contracts and the output determine. -/
theorem comparison_ends_as_documents_demand (t : FileTree) (old new : String)
    (contracts output : Option String) :
    (∀ format code after,
      ((Command.compare old new contracts output format).runIn t).1.status.code = code ∧
          ((Command.compare old new contracts output format).runIn t).2 = after ↔
        ComparisonEnds t old new contracts output code after) ∧
    ∀ format format',
      ((Command.compare old new contracts output format).runIn t).1.status =
          ((Command.compare old new contracts output format').runIn t).1.status ∧
        ((Command.compare old new contracts output format).runIn t).2 =
          ((Command.compare old new contracts output format').runIn t).2 := by
  obtain ⟨code, after, ends⟩ := exists_comparisonEnds t old new contracts output
  constructor
  · intro format code' after'
    constructor
    · rintro ⟨rfl, rfl⟩
      rwa [(ends.runIn format).1, (ends.runIn format).2]
    · exact fun ends' => ends'.runIn format
  · intro format format'
    have same_code := (ends.runIn format).1.trans (ends.runIn format').1.symm
    exact ⟨ExitStatus.code_injective same_code,
      (ends.runIn format).2.trans (ends.runIn format').2.symm⟩

end StorageLayout.CommandLine
