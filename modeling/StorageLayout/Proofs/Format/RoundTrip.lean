import StorageLayout.Comparison.Format
import StorageLayout.Proofs.Json.Decoding
import StorageLayout.Snapshot.Format

/-!
# Documents and reports are read back as they were written

Every part of a snapshot document and of a report is recovered from its JSON form: fields that are
absent, lists that are empty, offsets outside a slot, names in any script. So the texts in which
documents and reports are kept give back the same value, with its dictionaries in the same order.
-/
namespace StorageLayout

open Json (Decoder Record)

theorem Encoding.recovers : Encoding.decode.Recovers fun e => .text e.name := by
  intro e
  exact Decoder.choice_text (by cases e <;> rfl)

theorem Rule.recovers : Rule.decode.Recovers fun r => .text r.name := by
  intro r
  exact Decoder.choice_text (by cases r <;> rfl)

theorem Severity.recovers : Severity.decode.Recovers fun s => .text s.name := by
  intro s
  exact Decoder.choice_text (by cases s <;> rfl)

-- A record is gone through field by field. What is read for a field only sets this field, so that
-- after the last one the blank record has become the one that was written.

theorem Member.recovers : Member.record.decode.Recovers Member.json := by
  intro m
  refine Record.Written.decode ?_ (by decide)
  refine .required Decoder.recovers_text m.label ?_
  refine .required Decoder.recovers_word64 m.offset ?_
  refine .required Decoder.recovers_text m.slot ?_
  refine .required Decoder.recovers_text m.typeKey ?_
  rw [← List.append_nil (Json.optionalMember _ _)]
  exact .optional Decoder.recovers_text m.contract rfl (.done _)

/-- Absent references are left out of the text and read as absent. -/
theorem TypeDefinition.recovers : TypeDefinition.decode.Recovers TypeDefinition.json := by
  intro d
  have fields_in_order : d.json = .object (("encoding", .text d.encoding.name) ::
      ("label", .text d.label) :: ("numberOfBytes", .text d.numberOfBytes) ::
        (Json.optionalMember "key" (d.key.map .text) ++
          (Json.optionalMember "members" (d.members.map fun ms => .list (ms.map Member.json)) ++
            (Json.optionalMember "value" (d.value.map .text) ++
              (Json.optionalMember "base" (d.base.map .text) ++ []))))) := by
    simp [TypeDefinition.json]
  rw [fields_in_order]
  refine Record.Written.decode ?_ (by decide)
  refine .required Encoding.recovers d.encoding ?_
  refine .required Decoder.recovers_text d.label ?_
  refine .required Decoder.recovers_text d.numberOfBytes ?_
  refine .optional Decoder.recovers_text d.key rfl ?_
  refine .optional (Decoder.recovers_list Member.recovers) d.members rfl ?_
  refine .optional Decoder.recovers_text d.value rfl ?_
  exact .optional Decoder.recovers_text d.base rfl (.done _)

theorem TypeDictionary.recovers : TypeDictionary.decode.Recovers TypeDictionary.json :=
  Decoder.recovers_dictionary TypeDefinition.recovers

theorem StateVariable.recovers : StateVariable.decode.Recovers StateVariable.json := by
  intro v
  refine Record.Written.decode ?_ (by decide)
  refine .required Decoder.recovers_text v.name ?_
  refine .required Decoder.recovers_slot v.slot ?_
  refine .required Decoder.recovers_word8 v.offset ?_
  refine .required Decoder.recovers_text v.typeKey ?_
  exact .required Decoder.recovers_text v.typeHash (.done _)

theorem ContractSnapshot.recovers : ContractSnapshot.decode.Recovers ContractSnapshot.json := by
  intro c
  refine Record.Written.decode ?_ (by decide)
  refine .required Decoder.recovers_text c.name ?_
  refine .required (Decoder.recovers_list StateVariable.recovers) c.stateVariables ?_
  exact .required TypeDictionary.recovers c.types (.done _)

theorem SnapshotDocument.recovers : SnapshotDocument.decode.Recovers SnapshotDocument.json := by
  intro d
  refine Record.Written.decode ?_ (by decide)
  exact .required (Decoder.recovers_list ContractSnapshot.recovers) d.contracts (.done _)

theorem TypeDefinitions.recovers : TypeDefinitions.record.decode.Recovers TypeDefinitions.json := by
  intro t
  refine Record.Written.decode ?_ (by decide)
  refine .required Decoder.recovers_text t.label ?_
  refine .required Decoder.recovers_text t.expected ?_
  exact .required Decoder.recovers_text t.got (.done _)

theorem Diagnostic.recovers : Diagnostic.record.decode.Recovers Diagnostic.json := by
  intro d
  refine Record.Written.decode ?_ (by decide)
  refine .required Decoder.recovers_text d.variableName ?_
  refine .required Rule.recovers d.rule ?_
  refine .required Severity.recovers d.severity ?_
  refine .required Decoder.recovers_text d.expected ?_
  refine .required Decoder.recovers_text d.got ?_
  refine .required Decoder.recovers_text d.diff ?_
  rw [← List.append_nil (Json.optionalMember _ _)]
  exact .optional TypeDefinitions.recovers d.typeDefinitions rfl (.done _)

theorem Findings.recovers : Findings.record.decode.Recovers Findings.json := by
  intro f
  refine Record.Written.decode ?_ (by decide)
  refine .required (Decoder.recovers_list Diagnostic.recovers) f.errors ?_
  exact .required (Decoder.recovers_list Diagnostic.recovers) f.warnings (.done _)

theorem Report.recovers : Report.decode.Recovers Report.json :=
  Decoder.recovers_catalog Findings.recovers

/-- Every document and every report is read back from its compact text, its indented text, and its
indented text with a line feed at the end. -/
theorem documents_and_reports_are_read_back :
    (∀ d : SnapshotDocument, SnapshotDocument.decode.run d.json.compact = .ok d ∧
      SnapshotDocument.decode.run d.json.indented = .ok d ∧
      SnapshotDocument.decode.run (d.json.indented ++ "\n") = .ok d) ∧
    ∀ r : Report, Report.decode.run r.json.compact = .ok r ∧
      Report.decode.run r.json.indented = .ok r ∧
      Report.decode.run (r.json.indented ++ "\n") = .ok r := by
  constructor
  · intro d
    have read {text : String} : text ∈ d.json.layouts → SnapshotDocument.decode.run text = .ok d :=
      SnapshotDocument.recovers.run d
    exact ⟨read (by simp [Json.layouts]), read (by simp [Json.layouts]),
      read (by simp [Json.layouts])⟩
  · intro r
    have read {text : String} : text ∈ r.json.layouts → Report.decode.run text = .ok r :=
      Report.recovers.run r
    exact ⟨read (by simp [Json.layouts]), read (by simp [Json.layouts]),
      read (by simp [Json.layouts])⟩

end StorageLayout
