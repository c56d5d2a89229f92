import StorageLayout.Proofs.Comparison.Documents
import StorageLayout.Proofs.Text.Lines
import StorageLayout.Report.Markdown

/-!
# Findings in rendered reports

A report is rendered as plain text and as Markdown, and the differences are put into both as they
are. They are not mistaken for findings, because a finding is told by how its line begins and the
lines of a difference stand behind more spaces. So both renderings show every finding of the report
and nothing else as a finding, in one order.
-/
namespace StorageLayout.Report

/-- A text without line feeds, as it stands on one line. -/
def IsLine (line : String) : Prop := '\n' ∉ line.toList

instance : DecidablePred IsLine := fun line => inferInstanceAs (Decidable ('\n' ∉ line.toList))

def indentation (line : String) : Nat := (line.toList.takeWhile (· = ' ')).length

/-- The line begins as Markdown begins to show a finding. -/
def IsMarked (line : String) : Prop := "- **Variable:** `".toList <+: line.toList

instance : DecidablePred IsMarked := fun line =>
  inferInstanceAs (Decidable ("- **Variable:** `".toList <+: line.toList))

/-- What stands between the line feeds of a text. -/
def linesOf (text : String) : List String := StorageLayout.Text.parts '\n' text

/-- The findings of a report: the contracts in the order of their names, the errors about each
before the warnings. -/
def findings (r : Report) : List Diagnostic :=
  r.entries.flatMap fun (_, about) => about.errors ++ about.warnings

/-- How plain text shows a finding. -/
def findingLine (d : Diagnostic) : String :=
  "  " ++ d.severity.name ++ " [" ++ d.rule.name ++ "] " ++ d.variableName

/-- How Markdown begins to show a finding. -/
def markedLine (d : Diagnostic) : String := "- **Variable:** `" ++ d.variableName ++ "`"

/-- The names that a finding shows stand on one line. -/
structure NamesOnLine (d : Diagnostic) : Prop where
  variableName : IsLine d.variableName
  label : ∀ t ∈ d.typeDefinitions, IsLine t.label

/-- Names stand on one line, and no name of a contract is indented. -/
structure IsPlain (r : Report) : Prop where
  contract : ∀ name ∈ r.names, IsLine name ∧ name.toList.head? ≠ some ' '
  finding : ∀ d ∈ r.findings, NamesOnLine d

theorem IsLine.append {s t : String} (first : IsLine s) (second : IsLine t) : IsLine (s ++ t) := by
  rw [IsLine, String.toList_append, List.mem_append, not_or]
  exact ⟨first, second⟩

theorem ofLines_cons (line : String) (rest : List String) :
    ofLines (line :: rest) = line ++ "\n" ++ ofLines rest := by
  simp [ofLines]

theorem toList_ofLines (lines : List String) :
    (ofLines lines).toList = lines.flatMap fun line => line.toList ++ ['\n'] := by
  induction lines with
  | nil => rfl
  | cons line rest ih => simp [ofLines_cons, ih]

/-- A line feed divides the lines in front of it from those behind it. -/
theorem linesOf_append (text rest : String) :
    linesOf (text ++ "\n" ++ rest) = linesOf text ++ linesOf rest := by
  have divided : (text ++ "\n" ++ rest).toList = text.toList ++ '\n' :: rest.toList := by simp
  rw [linesOf, StorageLayout.Text.parts, divided, StorageLayout.Text.splitAt_append,
    List.map_append]
  rfl

theorem linesOf_of_isLine {line : String} (clean : IsLine line) : linesOf line = [line] := by
  rw [linesOf, StorageLayout.Text.parts, StorageLayout.Text.splitAt_of_not_mem clean,
    List.map_singleton, String.ofList_toList]

/-- Texts that are each ended by a line feed keep their lines. -/
theorem linesOf_ofLines_eq_flatMap (texts : List String) :
    linesOf (ofLines texts) = texts.flatMap linesOf ++ [""] := by
  induction texts with
  | nil => rfl
  | cons text rest ih =>
    rw [ofLines_cons, linesOf_append, ih, List.flatMap_cons, List.append_assoc]

/-- The line feeds of a text of lines stand between the lines, and after the last. -/
theorem linesOf_ofLines {lines : List String} (clean : ∀ line ∈ lines, IsLine line) :
    linesOf (ofLines lines) = lines ++ [""] := by
  rw [linesOf_ofLines_eq_flatMap, List.flatMap_congr fun line listed =>
    linesOf_of_isLine (clean line listed), List.flatMap_singleton']

theorem isLine_indentedLine (indent : Nat) (line : String) :
    IsLine (indentedLine indent line) ↔ IsLine line := by
  simp [indentedLine, IsLine]

theorem isLine_of_mem_indentedLines {indent : Nat} {text line : String}
    (listed : line ∈ indentedLines indent text) : IsLine line := by
  obtain ⟨inner, inside, rfl⟩ := List.mem_map.1 listed
  exact (isLine_indentedLine _ _).2 (StorageLayout.Text.lineFeed_not_mem_of_mem_lines inside)

theorem indentation_indentedLine (indent : Nat) (line : String) :
    indentation (indentedLine indent line) = indent + indentation line := by
  simp [indentation, indentedLine, List.takeWhile_append_of_pos]

theorem le_indentation_of_mem_indentedLines {indent : Nat} {text line : String}
    (listed : line ∈ indentedLines indent text) : indent ≤ indentation line := by
  obtain ⟨inner, -, rfl⟩ := List.mem_map.1 listed
  rw [indentation_indentedLine]
  exact Nat.le_add_right _ _

theorem indentation_of_head? {line : String} (other : line.toList.head? ≠ some ' ') :
    indentation line = 0 := by
  unfold indentation
  cases cs : line.toList with
  | nil => rfl
  | cons c rest =>
    rw [cs, List.head?_cons, ne_eq, Option.some.injEq] at other
    simp [other]

theorem not_isMarked_of_head? {line : String} (other : line.toList.head? ≠ some '-') :
    ¬ IsMarked line := by
  rintro ⟨rest, begins⟩
  rw [← begins] at other
  exact other (by simp)

theorem not_isMarked_of_mem_indentedLines {indent : Nat} {text line : String}
    (indented : indent ≠ 0) (listed : line ∈ indentedLines indent text) : ¬ IsMarked line := by
  obtain ⟨inner, -, rfl⟩ := List.mem_map.1 listed
  obtain ⟨more, rfl⟩ := Nat.exists_eq_succ_of_ne_zero indented
  exact not_isMarked_of_head? (by simp [indentedLine, List.replicate_succ])

/-- What keeps one element of each list keeps a list of these elements. -/
theorem filter_flatMap_eq_map {α β : Type} {keeps : β → Bool} {lists : α → List β} {kept : α → β}
    {list : List α} (each : ∀ a ∈ list, (lists a).filter keeps = [kept a]) :
    (list.flatMap lists).filter keeps = list.map kept := by
  rw [List.filter_flatMap, List.flatMap_congr each, ← List.map_eq_flatMap]

/-- Among the lines that show a finding in plain text, one is indented by two spaces. -/
theorem filter_textOfDiagnostic (d : Diagnostic) :
    (textOfDiagnostic d).filter (indentation · = 2) = [findingLine d] := by
  have deeper (text : String) : (indentedLines 6 text).filter (indentation · = 2) = [] := by
    rw [List.filter_eq_nil_iff]
    intro line listed
    have deep := le_indentation_of_mem_indentedLines listed
    rw [decide_eq_true_eq]
    omega
  have title : indentation (findingLine d) = 2 := by
    cases severity : d.severity <;> simp [indentation, findingLine, severity, Severity.name]
  have title_eq : indentedLine 2 (d.severity.name ++ " [" ++ d.rule.name ++ "] " ++
      d.variableName) = findingLine d := by
    rw [← String.toList_inj]
    simp [indentedLine, findingLine, List.replicate]
  have label (l : String) :
      indentation (indentedLine 4 ("type definition changes for " ++ l ++ ":")) ≠ 2 := by
    rw [indentation_indentedLine]
    omega
  rw [textOfDiagnostic, title_eq]
  cases d.typeDefinitions <;> simp [deeper, title, label]

theorem isMarked_markedLine (d : Diagnostic) : IsMarked (markedLine d) := by
  unfold IsMarked markedLine
  rw [String.append_assoc, String.toList_append]
  exact List.prefix_append _ _

/-- No line of a code block begins like a finding. -/
theorem filter_markdownOfDiff (diff : String) : (markdownOfDiff diff).filter (IsMarked ·) = [] := by
  rw [List.filter_eq_nil_iff]
  intro line listed
  simp only [markdownOfDiff, List.mem_cons, List.mem_append, List.not_mem_nil, or_false] at listed
  rw [decide_eq_true_eq]
  rcases listed with (rfl | inside) | rfl | rfl
  · decide
  · exact not_isMarked_of_mem_indentedLines (by decide) inside
  · decide
  · decide

/-- Among the lines that show a finding in Markdown, one is marked. -/
theorem filter_markdownOfDiagnostic (d : Diagnostic) :
    (markdownOfDiagnostic d).filter (IsMarked ·) = [markedLine d] := by
  have first : "- **Variable:** `" ++ d.variableName ++ "`" = markedLine d := rfl
  have blank : ¬ IsMarked "" := by decide
  have rule : ¬ IsMarked ("  **Rule:** `" ++ d.rule.name ++ "`") :=
    not_isMarked_of_head? (by simp)
  have label (l : String) : ¬ IsMarked ("  **Type definition changes for `" ++ l ++ "`:**") :=
    not_isMarked_of_head? (by simp)
  unfold markdownOfDiagnostic
  rw [first]
  cases d.typeDefinitions <;>
    simp only [List.filter_append, List.filter_cons, List.filter_nil, filter_markdownOfDiff,
      isMarked_markedLine, rule, label, blank, decide_true, decide_false, if_true, if_false,
      List.append_nil, Bool.false_eq_true]

/-- In the section of a contract in plain text, the lines indented by two spaces show its
findings. -/
theorem filter_textOfFindings {name : String} (plain : name.toList.head? ≠ some ' ')
    (about : Findings) : (textOfFindings name about).filter (indentation · = 2) =
      about.diagnostics.map findingLine := by
  unfold textOfFindings
  split
  · next clean =>
    rw [about.isClean_iff.1 clean]
    rfl
  · have own : indentation name = 0 := indentation_of_head? plain
    have blank : indentation "" = 0 := indentation_of_head? (by decide)
    simp [List.filter_append, own, blank,
      filter_flatMap_eq_map fun d _ => filter_textOfDiagnostic d]

/-- In the section of a contract in Markdown, the marked lines show its findings. -/
theorem filter_markdownOfFindings (name : String) (about : Findings) :
    (markdownOfFindings name about).filter (IsMarked ·) = about.diagnostics.map markedLine := by
  have one_severity (ds : List Diagnostic) :
      (markdownOfDiagnostics ds).filter (IsMarked ·) = ds.map markedLine := by
    unfold markdownOfDiagnostics
    split
    · next none_found =>
      rw [List.isEmpty_iff.1 none_found]
      decide
    · exact filter_flatMap_eq_map fun d _ => filter_markdownOfDiagnostic d
  unfold markdownOfFindings
  split
  · next clean =>
    rw [about.isClean_iff.1 clean]
    rfl
  · have title : ¬ IsMarked ("## " ++ name) := not_isMarked_of_head? (by simp)
    have heading : ["## " ++ name, "", "### ❌ Errors", ""].filter (IsMarked ·) = [] := by
      rw [List.filter_cons_of_neg (by simpa using title)]
      decide
    have warnings : ["### ⚠️ Warnings", ""].filter (IsMarked ·) = [] := by decide
    have rule : ["-----", ""].filter (IsMarked ·) = [] := by decide
    simp only [List.filter_append, heading, warnings, rule, one_severity, List.nil_append,
      List.append_nil, Findings.diagnostics, List.map_append]

theorem isLine_severity (severity : Severity) : IsLine severity.name := by
  cases severity <;> decide

theorem isLine_rule (rule : Rule) : IsLine rule.name := by
  cases rule <;> decide

theorem isLine_toString (n : Nat) : IsLine (toString n) :=
  StorageLayout.Text.not_mem_toString (by decide) n

/-- Every line that shows a finding is one line: names are by assumption, differences by their
making. -/
theorem isLine_of_mem_textOfDiagnostic {d : Diagnostic} {line : String} (plain : NamesOnLine d)
    (listed : line ∈ textOfDiagnostic d) : IsLine line := by
  unfold textOfDiagnostic at listed
  rcases List.mem_append.1 listed with change | definition
  · rcases List.mem_cons.1 change with rfl | inside
    · rw [isLine_indentedLine]
      exact ((((isLine_severity _).append (by decide)).append (isLine_rule _)).append
        (by decide)).append plain.variableName
    · exact isLine_of_mem_indentedLines inside
  · cases types : d.typeDefinitions with
    | none => simp [types] at definition
    | some t =>
      rw [types] at definition
      rcases List.mem_cons.1 definition with rfl | inside
      · rw [isLine_indentedLine]
        exact (IsLine.append (by decide) (plain.label t types)).append (by decide)
      · exact isLine_of_mem_indentedLines inside

theorem isLine_of_mem_markdownOfDiff {diff line : String} (listed : line ∈ markdownOfDiff diff) :
    IsLine line := by
  simp only [markdownOfDiff, List.mem_cons, List.mem_append, List.not_mem_nil, or_false] at listed
  rcases listed with (rfl | inside) | rfl | rfl
  · decide
  · exact isLine_of_mem_indentedLines inside
  · decide
  · decide

theorem isLine_of_mem_markdownOfDiagnostic {d : Diagnostic} {line : String} (plain : NamesOnLine d)
    (listed : line ∈ markdownOfDiagnostic d) : IsLine line := by
  unfold markdownOfDiagnostic at listed
  rcases List.mem_append.1 listed with change | definition
  · simp only [List.mem_append, List.mem_cons, List.not_mem_nil, or_false] at change
    rcases change with (rfl | rfl | rfl) | inside
    · exact (IsLine.append (by decide) plain.variableName).append (by decide)
    · exact (IsLine.append (by decide) (isLine_rule _)).append (by decide)
    · decide
    · exact isLine_of_mem_markdownOfDiff inside
  · cases types : d.typeDefinitions with
    | none => simp [types] at definition
    | some t =>
      simp only [types, List.mem_append, List.mem_cons, List.not_mem_nil, or_false] at definition
      rcases definition with (rfl | rfl) | inside
      · exact (IsLine.append (by decide) (plain.label t types)).append (by decide)
      · decide
      · exact isLine_of_mem_markdownOfDiff inside

theorem isLine_totalsLine (r : Report) : IsLine r.totalsLine :=
  ((IsLine.append (IsLine.append (by decide) (isLine_toString _)) (by decide)).append
    (isLine_toString _)).append (by decide)

/-- What is written as one line about a contract is one, if the names in it are. -/
theorem isLine_of_mem_textOfFindings {name line : String} {about : Findings} (plain : IsLine name)
    (each : ∀ d ∈ about.diagnostics, NamesOnLine d) (listed : line ∈ textOfFindings name about) :
    IsLine line := by
  unfold textOfFindings at listed
  split at listed
  · simp at listed
  · rcases List.mem_append.1 listed with shown | last
    · rcases List.mem_cons.1 shown with rfl | inside
      · exact plain
      · obtain ⟨d, member, inside⟩ := List.mem_flatMap.1 inside
        exact isLine_of_mem_textOfDiagnostic (each d member) inside
    · rw [List.mem_singleton.1 last]
      decide

theorem isLine_of_mem_markdownOfDiagnostics {ds : List Diagnostic} {line : String}
    (each : ∀ d ∈ ds, NamesOnLine d) (listed : line ∈ markdownOfDiagnostics ds) : IsLine line := by
  unfold markdownOfDiagnostics at listed
  split at listed
  · simp only [List.mem_cons, List.not_mem_nil, or_false] at listed
    rcases listed with rfl | rfl <;> decide
  · obtain ⟨d, member, inside⟩ := List.mem_flatMap.1 listed
    exact isLine_of_mem_markdownOfDiagnostic (each d member) inside

theorem isLine_of_mem_markdownOfFindings {name line : String} {about : Findings}
    (plain : IsLine name) (each : ∀ d ∈ about.diagnostics, NamesOnLine d)
    (listed : line ∈ markdownOfFindings name about) : IsLine line := by
  have each_error (d : Diagnostic) (member : d ∈ about.errors) : NamesOnLine d :=
    each d (List.mem_append_left _ member)
  have each_warning (d : Diagnostic) (member : d ∈ about.warnings) : NamesOnLine d :=
    each d (List.mem_append_right _ member)
  unfold markdownOfFindings at listed
  split at listed
  · simp at listed
  · simp only [List.mem_append, or_assoc] at listed
    rcases listed with heading | errors | heading | warnings | rule
    · simp only [List.mem_cons, List.not_mem_nil, or_false] at heading
      rcases heading with rfl | rfl | rfl | rfl
      · exact IsLine.append (by decide) plain
      all_goals decide
    · exact isLine_of_mem_markdownOfDiagnostics each_error errors
    · revert heading line
      decide
    · exact isLine_of_mem_markdownOfDiagnostics each_warning warnings
    · revert rule line
      decide

/-- What holds of the lines about each contract holds of all lines about contracts. -/
theorem IsPlain.isLine_of_mem_flatMap {r : Report} (plain : r.IsPlain)
    {sections : String → Findings → List String}
    (each : ∀ {name about line}, IsLine name → (∀ d ∈ about.diagnostics, NamesOnLine d) →
      line ∈ sections name about → IsLine line) {line : String}
    (listed : line ∈ r.entries.flatMap fun (name, about) => sections name about) :
    IsLine line := by
  obtain ⟨⟨name, about⟩, entry, inside⟩ := List.mem_flatMap.1 listed
  have filed : name ∈ r.names := List.mem_map_of_mem entry
  exact each (plain.contract name filed).1
    (fun d member => plain.finding d (List.mem_flatMap.2 ⟨_, entry, member⟩)) inside

/-- What the sections of the contracts show as findings are the findings of the report. -/
theorem filter_flatMap_entries {r : Report} {keeps : String → Bool}
    {sections : String → Findings → List String} {shown : Diagnostic → String}
    (each : ∀ name ∈ r.names, ∀ about,
      (sections name about).filter keeps = about.diagnostics.map shown) :
    (r.entries.flatMap fun (name, about) => sections name about).filter keeps =
      r.findings.map shown := by
  rw [List.filter_flatMap, findings, List.map_flatMap]
  exact List.flatMap_congr fun entry filed => each entry.1 (List.mem_map_of_mem filed) entry.2

/-- The lines of a report as plain text. -/
theorem linesOf_text {r : Report} (plain : r.IsPlain) : linesOf r.text =
    (r.entries.flatMap fun (name, about) => textOfFindings name about) ++ [r.totalsLine, ""] := by
  unfold text
  rw [linesOf_ofLines, List.append_assoc]
  · rfl
  · intro line listed
    rcases List.mem_append.1 listed with inside | last
    · exact plain.isLine_of_mem_flatMap isLine_of_mem_textOfFindings inside
    · rw [List.mem_singleton.1 last]
      exact isLine_totalsLine r

/-- In plain text, the lines indented by two spaces show the findings. -/
theorem filter_linesOf_text {r : Report} (plain : r.IsPlain) :
    (linesOf r.text).filter (indentation · = 2) = r.findings.map findingLine := by
  have sections := filter_flatMap_entries (r := r) fun name filed =>
    filter_textOfFindings (plain.contract name filed).2
  have totals : indentation r.totalsLine = 0 :=
    indentation_of_head? (by simp [totalsLine])
  have last : indentation "" = 0 := by decide
  rw [linesOf_text plain, List.filter_append, sections]
  simp [totals, last]

theorem markdown_eq_ite (r : Report) : r.markdown =
    if (r.entries.flatMap fun (name, about) => markdownOfFindings name about) = [] then
      ofLines [noFindings]
    else ofLines (r.entries.flatMap fun (name, about) => markdownOfFindings name about) := by
  simp only [markdown, List.isEmpty_iff, apply_ite ofLines]

theorem filter_linesOf_noFindings :
    (linesOf (ofLines [noFindings])).filter (IsMarked ·) = [] := by
  decide

/-- In Markdown, the marked lines show the findings. -/
theorem filter_linesOf_markdown {r : Report} (plain : r.IsPlain) :
    (linesOf r.markdown).filter (IsMarked ·) = r.findings.map markedLine := by
  have sections := filter_flatMap_entries (r := r) fun name _ => filter_markdownOfFindings name
  rw [markdown_eq_ite]
  split
  · next none_shown =>
    rw [← sections, none_shown, filter_linesOf_noFindings]
    rfl
  · have last : ¬ IsMarked "" := by decide
    rw [linesOf_ofLines, List.filter_append, sections]
    · simp [last]
    · exact fun line listed => plain.isLine_of_mem_flatMap isLine_of_mem_markdownOfFindings listed

theorem findings_eq_nil_iff (r : Report) :
    r.findings = [] ↔ ∀ name about, r.find? name = some about → about.isClean := by
  simp [findings, Catalog.find?_eq_some_iff, Findings.isClean_iff, Findings.diagnostics]

theorem length_findings (r : Report) : r.findings.length = r.totals.1 + r.totals.2 := by
  rw [totals_eq_sum, findings, List.length_flatMap, ← List.sum_map_add]
  simp only [List.length_append]

/-- A report is a single sentence in Markdown exactly if nothing has been found. -/
theorem markdown_eq_noFindings_iff {r : Report} (plain : r.IsPlain) :
    r.markdown = ofLines [noFindings] ↔ r.findings = [] := by
  constructor
  · intro single
    have marked := filter_linesOf_markdown plain
    rw [single, filter_linesOf_noFindings] at marked
    exact List.map_eq_nil_iff.1 marked.symm
  · intro none_found
    have clean := (findings_eq_nil_iff r).1 none_found
    rw [markdown_eq_ite, if_pos]
    rw [List.flatMap_eq_nil_iff]
    rintro ⟨name, about⟩ entry
    exact if_pos (clean name about ((r.find?_eq_some_iff name about).2 entry))

/-- Both renderings show every finding, contract by contract, and take nothing else for one. The
totals in the last line of plain text count what is shown, and Markdown says that there are no
findings exactly if there are none. -/
theorem renderings_show_the_findings (r : Report) (plain : r.IsPlain) :
    r.names.Pairwise (· < ·) ∧
    (linesOf r.text).filter (indentation · = 2) = r.findings.map findingLine ∧
    (∃ before errors warnings, linesOf r.text = before ++
        ["Found " ++ toString errors ++ " errors and " ++ toString warnings ++ " warnings", ""] ∧
      r.totals = (errors, warnings) ∧
      ((linesOf r.text).filter (indentation · = 2)).length = errors + warnings) ∧
    (linesOf r.markdown).filter (IsMarked ·) = r.findings.map markedLine ∧
    (r.markdown = "No storage layout incompatibilities found.\n" ↔
      ∀ name about, r.find? name = some about → about.isClean) := by
  have shown := filter_linesOf_text plain
  refine ⟨r.names_strictly_ascending, shown, ?_, filter_linesOf_markdown plain, ?_⟩
  · refine ⟨_, r.totals.1, r.totals.2, linesOf_text plain, rfl, ?_⟩
    rw [shown, List.length_map, length_findings]
  · rw [← findings_eq_nil_iff, ← markdown_eq_noFindings_iff plain]
    rfl

/-- A report in which the lines of differences look like findings. -/
def lookalikes : Report where
  entries := [("Token", {}), ("Vault", {
    errors := [⟨"owner", .slotChanged, .error, "0", "1",
      "  error [SlotChanged] fee\n- **Variable:** `fee`", none⟩]
    warnings := [⟨"fee", .typeChanged, .warning, "2", "3", "\nFound 0 errors and 0 warnings\n",
      some ⟨"struct Fee", "- **Variable:** `cap`", "  warning [NameChanged] cap"⟩⟩] })]
  names_ascending := by decide

/-- Lines of a difference that look like findings are not taken for findings. -/
theorem lookalikes_are_not_shown_as_findings :
    lookalikes.IsPlain ∧
      (linesOf lookalikes.text).filter (indentation · = 2) =
        ["  error [SlotChanged] owner", "  warning [TypeChanged] fee"] ∧
      (linesOf lookalikes.markdown).filter (IsMarked ·) =
        ["- **Variable:** `owner`", "- **Variable:** `fee`"] := by
  have plain : lookalikes.IsPlain := by
    constructor
    · decide
    · rintro d (_ | ⟨_, _ | ⟨_, ⟨⟩⟩⟩)
      · exact ⟨by decide, by rintro t ⟨⟩⟩
      · exact ⟨by decide, by rintro t ⟨⟩; decide⟩
  obtain ⟨-, shown, -, marked, -⟩ := renderings_show_the_findings lookalikes plain
  exact ⟨plain, shown, marked⟩

end StorageLayout.Report
