import StorageLayout.Extraction.Basic
import StorageLayout.Proofs.Json.Likeness

/-!
# The compiler's bookkeeping leaves no trace

An artifact says more than a snapshot needs: fields that are not modelled, the number of a variable
in the syntax tree, the contract that declares it. Two texts that differ only in this, in white
space and in the order of fields have the same snapshots, or they cannot be extracted for the same
reason. The order of contracts and of types does matter, and so does everything that is kept of a
type, the contract of a struct member among it.
-/
namespace StorageLayout

open Json

section Shapes

/-- What makes two struct members the same. -/
def Member.shape : Shape := [("label", Kept Eq), ("offset", Kept Eq), ("slot", Kept Eq),
  ("type", Kept Eq), ("contract", Kept Eq)]

/-- What makes two type definitions the same. -/
def TypeDefinition.shape : Shape := [("encoding", Kept Eq), ("label", Kept Eq),
  ("numberOfBytes", Kept Eq), ("key", Kept Eq),
  ("members", Kept (NullableAlike (ListAlike (RecordAlike Member.shape)))), ("value", Kept Eq),
  ("base", Kept Eq)]

/-- What makes two entries of a layout the same: the number in the syntax tree and the contract do
not matter. -/
def RawEntry.shape : Shape := [("label", Kept Eq), ("slot", Kept Eq), ("offset", Kept Eq),
  ("type", Kept Eq), ("astId", Optionally IsWord64), ("contract", Optionally IsText)]

def RawLayout.shape : Shape := [("storage", Kept (ListAlike (RecordAlike RawEntry.shape))),
  ("types", Kept (NullableAlike (DictionaryAlike (RecordAlike TypeDefinition.shape))))]

def ContractOutput.shape : Shape :=
  [("storageLayout", Kept (NullableAlike (RecordAlike RawLayout.shape)))]

def CompilerOutput.shape : Shape :=
  [("contracts", Kept (DictionaryAlike (DictionaryAlike (RecordAlike ContractOutput.shape))))]

def BuildArtifact.shape : Shape :=
  [("id", Kept Eq), ("output", Kept (RecordAlike CompilerOutput.shape))]

/-- Two texts of artifacts that differ only in white space, in the order of fields, in fields that
are not modelled, and in the number and the contract of layout entries. -/
def BuildArtifact.SameButBookkeeping (text text' : String) : Prop :=
  ∃ e e' : Excerpt, e.Spells text.toList ∧ e'.Spells text'.toList ∧ RecordAlike shape e e'

end Shapes

section Values

/-- The entries differ only in the number in the syntax tree and in the contract. -/
structure RawEntry.Agrees (e e' : RawEntry) : Prop where
  label : e.label = e'.label
  slot : e.slot = e'.slot
  offset : e.offset = e'.offset
  typeKey : e.typeKey = e'.typeKey

/-- The types are the same, and the entries agree one by one. -/
structure RawLayout.Agrees (l l' : RawLayout) : Prop where
  storage : List.Forall₂ RawEntry.Agrees l.storage l'.storage
  types : l.types = l'.types

structure ContractOutput.Agrees (o o' : ContractOutput) : Prop where
  layout : Option.Rel RawLayout.Agrees o.layout o'.layout

structure CompilerOutput.Agrees (o o' : CompilerOutput) : Prop where
  contracts : EntriesRelated (fun d d' => EntriesRelated ContractOutput.Agrees d.entries d'.entries)
    o.contracts.entries o'.contracts.entries

structure BuildArtifact.Agrees (a a' : BuildArtifact) : Prop where
  id : a.id = a'.id
  output : a.output.Agrees a'.output

theorem RawEntry.Agrees.extract {e e' : RawEntry} (agree : e.Agrees e') (c : Canonicalizer) :
    e.extract c = e'.extract c := by
  rw [RawEntry.extract, RawEntry.extract, agree.label, agree.slot, agree.offset, agree.typeKey]

/-- Layouts that agree have the same snapshot, or the same entry stands in the way. -/
theorem RawLayout.extract_eq_of_agrees {layout layout' : Option RawLayout}
    (agree : Option.Rel RawLayout.Agrees layout layout') (name : String) :
    RawLayout.extract name layout = RawLayout.extract name layout' := by
  rcases agree with agree | -
  · next l l' =>
    obtain ⟨entries, types⟩ := l
    obtain ⟨entries', _⟩ := l'
    obtain ⟨same_entries, rfl⟩ := agree
    cases types with
    | none => rfl
    | some types =>
      have same_variables (c : Canonicalizer) :
          entries.mapM (m := Resolution) (·.extract c) = entries'.mapM (·.extract c) :=
        mapM_eq_of_forall₂ (same_entries.imp fun _ _ same => same.extract c)
      simp only [RawLayout.extract, same_variables]
  · rfl

namespace BuildArtifact.Agrees

variable {a a' : BuildArtifact}

/-- The contracts come in the same order under the same names. -/
theorem layouts (agree : a.Agrees a') :
    List.Forall₂ (fun named named' => named.1 = named'.1 ∧
      Option.Rel RawLayout.Agrees named.2 named'.2) a.layouts a'.layouts := by
  have files : List.Forall₂
      (fun d d' : Dictionary ContractOutput =>
        EntriesRelated ContractOutput.Agrees d.entries d'.entries)
      a.output.contracts.values a'.output.contracts.values := by
    rw [Dictionary.values, Dictionary.values, List.forall₂_map_left_iff,
      List.forall₂_map_right_iff]
    exact agree.output.contracts.imp fun _ _ same => same.2
  refine List.rel_flatMap files fun d d' contracts => ?_
  rw [List.forall₂_map_left_iff, List.forall₂_map_right_iff]
  exact contracts.imp fun _ _ same => ⟨same.1, same.2.layout⟩

/-- Artifacts that agree give the same snapshots or the same error. -/
theorem extract (agree : a.Agrees a') : a.extract = a'.extract := by
  rw [BuildArtifact.extract, BuildArtifact.extract]
  refine congrArg (· >>= _) (mapM_eq_of_forall₂ (agree.layouts.imp ?_))
  rintro ⟨name, layout⟩ ⟨_, layout'⟩ ⟨rfl, agree_layouts⟩
  exact RawLayout.extract_eq_of_agrees agree_layouts name

end BuildArtifact.Agrees

end Values

section Reading

theorem Member.orderless : Member.record.Orderless where
  distinct := by decide
  commute := by
    simp only [record, List.pairwise_cons, List.forall_mem_cons, List.not_mem_nil, false_imp_iff,
      implies_true, List.Pairwise.nil, and_true]
    and_intros
    all_goals exact Field.Sets.commutes (fun _ _ => rfl) (fun _ _ => rfl) fun _ _ _ => rfl

theorem TypeDefinition.orderless : TypeDefinition.record.Orderless where
  distinct := by decide
  commute := by
    simp only [record, List.pairwise_cons, List.forall_mem_cons, List.not_mem_nil, false_imp_iff,
      implies_true, List.Pairwise.nil, and_true]
    and_intros
    all_goals exact Field.Sets.commutes (fun _ _ => rfl) (fun _ _ => rfl) fun _ _ _ => rfl

theorem RawEntry.orderless : RawEntry.record.Orderless where
  distinct := by decide
  commute := by
    simp only [record, List.pairwise_cons, List.forall_mem_cons, List.not_mem_nil, false_imp_iff,
      implies_true, List.Pairwise.nil, and_true]
    and_intros
    all_goals exact Field.Sets.commutes (fun _ _ => rfl) (fun _ _ => rfl) fun _ _ _ => rfl

theorem RawLayout.orderless : RawLayout.record.Orderless where
  distinct := by decide
  commute := List.pairwise_pair.2 <|
    Field.Sets.commutes (fun _ _ => rfl) (fun _ _ => rfl) fun _ _ _ => rfl

theorem ContractOutput.orderless : ContractOutput.record.Orderless where
  distinct := by decide
  commute := List.pairwise_singleton _ _

theorem CompilerOutput.orderless : CompilerOutput.record.Orderless where
  distinct := by decide
  commute := List.pairwise_singleton _ _

theorem BuildArtifact.orderless : BuildArtifact.record.Orderless where
  distinct := by decide
  commute := List.pairwise_pair.2 <|
    Field.Sets.commutes (fun _ _ => rfl) (fun _ _ => rfl) fun _ _ _ => rfl

theorem Member.carries : Member.record.decode.Carries (RecordAlike shape) Eq := by
  have each : CarriesEach record.fields shape Eq :=
    .cons ⟨rfl, .kept_eq (.same _) fun _ _ => rfl⟩ <|
    .cons ⟨rfl, .kept_eq (.same _) fun _ _ => rfl⟩ <|
    .cons ⟨rfl, .kept_eq (.same _) fun _ _ => rfl⟩ <|
    .cons ⟨rfl, .kept_eq (.same _) fun _ _ => rfl⟩ <|
    .cons ⟨rfl, .kept_eq (.same _) fun _ _ => rfl⟩ .nil
  exact each.decode orderless rfl

theorem TypeDefinition.carries : TypeDefinition.decode.Carries (RecordAlike shape) Eq := by
  have each : CarriesEach record.fields shape Eq :=
    .cons ⟨rfl, .kept_eq (.same _) fun _ _ => rfl⟩ <|
    .cons ⟨rfl, .kept_eq (.same _) fun _ _ => rfl⟩ <|
    .cons ⟨rfl, .kept_eq (.same _) fun _ _ => rfl⟩ <|
    .cons ⟨rfl, .kept_eq (.same _) fun _ _ => rfl⟩ <|
    .cons ⟨rfl, .kept_eq Member.carries.list_eq.optional_eq fun _ _ => rfl⟩ <|
    .cons ⟨rfl, .kept_eq (.same _) fun _ _ => rfl⟩ <|
    .cons ⟨rfl, .kept_eq (.same _) fun _ _ => rfl⟩ .nil
  exact each.decode orderless rfl

theorem RawEntry.carries : RawEntry.record.decode.Carries (RecordAlike shape) Agrees := by
  have each : CarriesEach record.fields shape Agrees :=
    .cons ⟨rfl, .kept (.same _) (fun _ _ => rfl) fun x agree => { agree with label := x }⟩ <|
    .cons ⟨rfl, .kept (.same _) (fun _ _ => rfl) fun x agree => { agree with slot := x }⟩ <|
    .cons ⟨rfl, .kept (.same _) (fun _ _ => rfl) fun x agree => { agree with offset := x }⟩ <|
    .cons ⟨rfl, .kept (.same _) (fun _ _ => rfl) fun x agree => { agree with typeKey := x }⟩ <|
    .cons ⟨rfl, .optionally Decoder.isWord64_iff (fun _ _ => rfl) rfl
      (fun agree => { agree with }) fun agree => { agree with }⟩ <|
    .cons ⟨rfl, .optionally Decoder.isText_iff (fun _ _ => rfl) rfl
      (fun agree => { agree with }) fun agree => { agree with }⟩ .nil
  exact each.decode orderless ⟨rfl, rfl, rfl, rfl⟩

theorem RawLayout.carries : RawLayout.decode.Carries (RecordAlike shape) Agrees := by
  have each : CarriesEach record.fields shape Agrees :=
    .cons ⟨rfl, .kept RawEntry.carries.list (fun _ _ => rfl)
      fun x agree => { agree with storage := x }⟩ <|
    .cons ⟨rfl, .kept TypeDefinition.carries.dictionary_eq.optional_eq (fun _ _ => rfl)
      fun x agree => { agree with types := x }⟩ .nil
  exact each.decode orderless ⟨.nil, rfl⟩

theorem ContractOutput.carries :
    ContractOutput.record.decode.Carries (RecordAlike shape) Agrees := by
  have each : CarriesEach record.fields shape Agrees :=
    .cons ⟨rfl, .kept RawLayout.carries.optional (fun _ _ => rfl) fun x _ => ⟨x⟩⟩ .nil
  exact each.decode orderless ⟨.none⟩

theorem CompilerOutput.carries :
    CompilerOutput.record.decode.Carries (RecordAlike shape) Agrees := by
  have each : CarriesEach record.fields shape Agrees :=
    .cons ⟨rfl, .kept ContractOutput.carries.dictionary.dictionary (fun _ _ => rfl)
      fun x _ => ⟨x⟩⟩ .nil
  exact each.decode orderless ⟨.nil⟩

theorem BuildArtifact.carries : BuildArtifact.decode.Carries (RecordAlike shape) Agrees := by
  have each : CarriesEach record.fields shape Agrees :=
    .cons ⟨rfl, .kept (.same _) (fun _ _ => rfl) fun x agree => { agree with id := x }⟩ <|
    .cons ⟨rfl, .kept CompilerOutput.carries (fun _ _ => rfl)
      fun x agree => { agree with output := x }⟩ .nil
  exact each.decode orderless ⟨rfl, ⟨.nil⟩⟩

end Reading

namespace BuildArtifact

/-- A text that is read as an artifact is the same as itself, and every text that is the same but
for the compiler's bookkeeping is read as well, with the same snapshots or the same error. -/
theorem bookkeeping_leaves_no_trace {text : String} {a : BuildArtifact}
    (read : decode.run text = .ok a) :
    SameButBookkeeping text text ∧ ∀ text', SameButBookkeeping text text' →
      ∃ a', decode.run text' = .ok a' ∧ a'.extract = a.extract := by
  obtain ⟨e, spells, decoded⟩ := Record.run_eq_ok_iff.1 read
  refine ⟨⟨e, e, spells, spells, carries.self spells.isWhole decoded⟩, fun text' same => ?_⟩
  obtain ⟨e₁, e', spells₁, spells', alike⟩ := same
  obtain rfl : e = e₁ := by
    have held := (ofText_of_spells spells).symm.trans (ofText_of_spells spells₁)
    exact (Document.mk.inj held).1
  obtain ⟨a', decoded', agree⟩ := carries.carry spells.isWhole spells'.isWhole alike decoded
  exact ⟨a', Record.run_eq_ok_iff.2 ⟨e', spells', decoded'⟩, agree.extract.symm⟩

def flagDefinition : Excerpt :=
  .object [(some "encoding", .text (some "inplace")), (some "label", .text (some "bool")),
    (some "numberOfBytes", .text (some "1"))] none

/-- An artifact with one contract that has one variable, a flag. -/
def flagExcerpt (entry : List (Literal × Excerpt)) : Excerpt :=
  let layout := .object [(some "storage", .list [.object entry none] none),
    (some "types", .object [(some "t", flagDefinition)] none)] none
  let contract := .object [(some "storageLayout", layout)] none
  let contracts := .object [(some "a", .object [(some "A", contract)] none)] none
  .object [(some "output", .object [(some "contracts", contracts)] none)] none

/-- An entry as a snapshot needs it. -/
def plainEntry : List (Literal × Excerpt) :=
  [(some "label", .text (some "on")), (some "slot", .text (some "0")),
    (some "offset", .number ⟨false, [0], none, none⟩), (some "type", .text (some "t"))]

/-- The same entry in another order, with the number of the variable and a member that is no
field. -/
def noisyEntry : List (Literal × Excerpt) :=
  [(some "type", .text (some "t")), (some "src", .list [.text none] none),
    (some "slot", .text (some "0")), (some "astId", .number ⟨false, [7], none, none⟩),
    (some "offset", .number ⟨false, [0], none, none⟩), (some "label", .text (some "on"))]

def plainText : String :=
  "\x7b\"output\":\x7b\"contracts\":\x7b\"a\":\x7b\"A\":\x7b\"storageLayout\":\x7b\"storage\":[
  \x7b\"label\":\"on\",\"slot\":\"0\",\"offset\":0,\"type\":\"t\"\x7d],\"types\":\x7b\"t\":
  \x7b\"encoding\":\"inplace\",\"label\":\"bool\",\"numberOfBytes\":\"1\"
  \x7d\x7d\x7d\x7d\x7d\x7d\x7d\x7d"

def noisyText : String :=
  "\x7b\"output\":\x7b\"contracts\":\x7b\"a\":\x7b\"A\":\x7b\"storageLayout\":\x7b\"storage\":[
  \x7b\"type\":\"t\",\"src\":[\"\\ud800\"],\"slot\":\"0\",\"astId\":7,\"offset\":0,
  \"label\":\"on\"\x7d],
  \"types\":\x7b\"t\":\x7b\"encoding\":\"inplace\",\"label\":\"bool\",\"numberOfBytes\":\"1\"
  \x7d\x7d\x7d\x7d\x7d\x7d\x7d\x7d"

/-- The artifact of both texts, but for the number of the variable. -/
def flagArtifact : BuildArtifact where
  id := none
  output := ⟨.ofList [("a", .ofList [("A", ⟨some ⟨[⟨"on", "0", 0, "t", none, none⟩],
    some (.ofList [("t", ⟨.inplace, "bool", "1", none, none, none, none⟩)])⟩⟩)])]⟩

set_option maxRecDepth 2000 in
theorem spells_plainText : (flagExcerpt plainEntry).Spells plainText.toList :=
  (spells_or_isCut ((ofText_ofList _).trans (by rfl))).resolve_right (by rintro ⟨⟩)

set_option maxRecDepth 2000 in
theorem spells_noisyText : (flagExcerpt noisyEntry).Spells noisyText.toList :=
  (spells_or_isCut ((ofText_ofList _).trans (by rfl))).resolve_right (by rintro ⟨⟩)

theorem alike_entries :
    RecordAlike RawEntry.shape (.object plainEntry none) (.object noisyEntry none) := by
  have number : IsWord64 (.number ⟨false, [7], none, none⟩) := ⟨[7], rfl, by decide⟩
  refine .objects (by decide) (by decide) ?_
  simp [RawEntry.shape, plainEntry, noisyEntry, valueOf, Optionally, number]

theorem alike_flagExcerpt :
    RecordAlike shape (flagExcerpt plainEntry) (flagExcerpt noisyEntry) := by
  have flag : RecordAlike TypeDefinition.shape flagDefinition flagDefinition := by
    refine .objects (by decide) (by decide) ?_
    simp [TypeDefinition.shape, valueOf]
  refine .objects (by decide) (by decide) (List.forall_mem_cons.2 ⟨.none, ?_⟩)
  refine List.forall_mem_singleton.2 (.some (.objects (by decide) (by decide) ?_))
  refine List.forall_mem_singleton.2 (.some (.object (.cons ⟨rfl, ?_⟩ .nil)))
  refine .object (.cons ⟨rfl, .objects (by decide) (by decide) ?_⟩ .nil)
  refine List.forall_mem_singleton.2 (.some (.value (by simp) (by simp) ?_))
  refine .objects (by decide) (by decide) (List.forall_mem_cons.2 ⟨?_, ?_⟩)
  · exact .some (.list (.cons alike_entries .nil))
  · refine List.forall_mem_singleton.2 (.some (.value (by simp) (by simp) ?_))
    exact .object (.cons ⟨rfl, flag⟩ .nil)

/-- Noise in an entry does not keep the second text from being read. -/
theorem noisyText_leaves_no_trace :
    decode.run plainText = .ok flagArtifact ∧ SameButBookkeeping plainText noisyText ∧
      ∃ a', decode.run noisyText = .ok a' ∧ a'.extract = flagArtifact.extract := by
  have read : decode.run plainText = .ok flagArtifact :=
    Record.run_eq_ok_iff.2 ⟨_, spells_plainText, rfl⟩
  have same : SameButBookkeeping plainText noisyText :=
    ⟨_, _, spells_plainText, spells_noisyText, alike_flagExcerpt⟩
  exact ⟨read, same, (bookkeeping_leaves_no_trace read).2 noisyText same⟩

def bareText : String := "\x7b\"output\":\x7b\x7d\x7d"

def oddlyNamedText : String := "\x7b\"\\ud800\":null,\"output\":\x7b\x7d\x7d"

/-- Although a field that is not modelled may have any value, its name has to stand for a text. -/
theorem oddlyNamedText_is_refused :
    (∃ members : List (Literal × Excerpt), (Excerpt.object members none).Spells bareText.toList ∧
      (Excerpt.object ((none, .null) :: members) none).Spells oddlyNamedText.toList) ∧
    (∃ a, decode.run bareText = .ok a) ∧ decode.run oddlyNamedText = .error .malformed := by
  have bare : (Excerpt.object [(some "output", .object [] none)] none).Spells bareText.toList :=
    (spells_or_isCut ((ofText_ofList _).trans (by rfl))).resolve_right (by rintro ⟨⟩)
  have oddlyNamed :
      (Excerpt.object [(none, .null), (some "output", .object [] none)] none).Spells
        oddlyNamedText.toList :=
    (spells_or_isCut ((ofText_ofList _).trans (by rfl))).resolve_right (by rintro ⟨⟩)
  refine ⟨⟨_, bare, oddlyNamed⟩, ⟨_, Record.run_eq_ok_iff.2 ⟨_, bare, rfl⟩⟩, ?_⟩
  rw [Decoder.run, ofText_of_spells oddlyNamed]
  rfl

end BuildArtifact

end StorageLayout
