import StorageLayout.Proofs.Extraction.Validity
import StorageLayout.Proofs.Slot

/-!
# The first entry that is wrong

The entries of a layout are extracted one after another, and the fingerprints of the earlier ones
are remembered. An entry is accepted if its slot is a decimal number, its offset lies inside a slot
and its type has a fingerprint after those of the earlier entries. If all entries are accepted, each
gives its variable. Otherwise the first one that is not decides how the extraction fails, and what
is wrong with it first in this order.
-/
namespace StorageLayout

namespace RawEntry

variable {contract : String} {e : RawEntry}

theorem place_of_isDecimal (decimal : Slot.IsDecimal e.slot) (inside : e.offset.toNat < 32) :
    e.place contract = .ok ⟨Nat.ofDigitChars 10 e.slot.toList 0⟩ := by
  have holds : Slot.holdsOffset e.offset.toNat = true := decide_eq_true inside
  simp [place, Slot.ofText?_of_isDecimal decimal, holds]

theorem place_of_outside (decimal : Slot.IsDecimal e.slot) (outside : 32 ≤ e.offset.toNat) :
    e.place contract = .error (.invalidOffset contract e.label e.offset.toNat) := by
  have holds : Slot.holdsOffset e.offset.toNat = false := decide_eq_false (Nat.not_lt.2 outside)
  simp [place, Slot.ofText?_of_isDecimal decimal, holds]

theorem place_of_not_isDecimal (bad : ¬ Slot.IsDecimal e.slot) :
    e.place contract = .error (.invalidSlot contract e.label e.slot) := by
  rw [place, Slot.ofText?_of_not_isDecimal bad]

end RawEntry

namespace Canonicalizer

/-- The entry can be extracted once these keys have been asked for. -/
structure Accepts (c : Canonicalizer) (asked : List String) (e : RawEntry) : Prop where
  slot : Slot.IsDecimal e.slot
  offset : e.offset.toNat < 32
  type : ∃ typeHash, c.fingerprintAfter asked e.typeKey = .ok typeHash

/-- What is wrong with an entry once these keys have been asked for: a bad slot, or else a bad
offset, or else a bad type. -/
inductive Rejects (c : Canonicalizer) (asked : List String) (e : RawEntry) : LayoutError → Prop
  | slot (bad : ¬ Slot.IsDecimal e.slot) :
      Rejects c asked e (.invalidSlot c.contract e.label e.slot)
  | offset (slot : Slot.IsDecimal e.slot) (bad : 32 ≤ e.offset.toNat) :
      Rejects c asked e (.invalidOffset c.contract e.label e.offset.toNat)
  | type {reason : LayoutError} (slot : Slot.IsDecimal e.slot) (offset : e.offset.toNat < 32)
      (bad : c.fingerprintAfter asked e.typeKey = .error reason) : Rejects c asked e reason

/-- Each entry can be extracted once the types of those before it have been asked for. -/
def AcceptsAll (c : Canonicalizer) (asked : List String) (entries : List RawEntry) : Prop :=
  ∀ before e after, entries = before ++ e :: after →
    c.Accepts (asked ++ before.map RawEntry.typeKey) e

/-- A variable shows an entry: name, place and type are the same, and the fingerprint is the start
of the hash that the plain recursion computes for the type. -/
structure Shows (c : Canonicalizer) (e : RawEntry) (v : StateVariable) : Prop where
  name : v.name = e.label
  slot : v.slot.index = Nat.ofDigitChars 10 e.slot.toList 0
  offset : v.offset.toNat = e.offset.toNat
  typeKey : v.typeKey = e.typeKey
  typeHash : ∃ root, c.plainDigest c.hash e.typeKey [] = .digest root ∧
    v.typeHash = root.fingerprint

section Runs

open Resolution Stateful

variable {hash : String → String} {s : TypeScope} {asked : List String} {e : RawEntry}

theorem accepts_or_rejects (c : Canonicalizer) (asked : List String) (e : RawEntry) :
    c.Accepts asked e ∨ ∃ reason, c.Rejects asked e reason := by
  by_cases decimal : Slot.IsDecimal e.slot
  · by_cases inside : e.offset.toNat < 32
    · cases given : c.fingerprintAfter asked e.typeKey with
      | ok typeHash => exact Or.inl ⟨decimal, inside, typeHash, given⟩
      | error reason => exact Or.inr ⟨reason, .type decimal inside given⟩
    · exact Or.inr ⟨_, .offset decimal (Nat.not_lt.1 inside)⟩
  · exact Or.inr ⟨_, .slot decimal⟩

/-- Where the place is right, the type is asked for, whatever comes of it. -/
theorem run_extract_of_place {c : Canonicalizer} {slot : Slot}
    (placed : e.place c.contract = .ok slot) (asked : List String) :
    (e.extract c).run (c.memoAfter asked) =
      (e.stateVariable slot <$> c.fingerprintAfter asked e.typeKey,
        c.memoAfter (asked ++ [e.typeKey])) := by
  rw [RawEntry.extract_eq, placed]
  dsimp only
  rw [run_map, memoAfter_concat, fingerprintAfter]
  rcases (c.fingerprint e.typeKey).run (c.memoAfter asked) with ⟨_ | _, _⟩ <;> rfl

/-- An accepted entry gives the variable that shows it. -/
theorem run_extract_of_accepts (accepts : (ofScope hash s).Accepts asked e) :
    ∃ v, (e.extract (ofScope hash s)).run ((ofScope hash s).memoAfter asked) =
        (.ok v, (ofScope hash s).memoAfter (asked ++ [e.typeKey])) ∧
      (ofScope hash s).Shows e v := by
  obtain ⟨typeHash, given⟩ := accepts.type
  have unlimited := unlimitedFingerprint_of_fingerprintAfter given
  obtain ⟨-, root, -, digest, -, rfl⟩ := TypeScope.digest_of_unlimitedFingerprint unlimited
  refine ⟨e.stateVariable ⟨Nat.ofDigitChars 10 e.slot.toList 0⟩ root.fingerprint, ?_, ?_⟩
  · rw [run_extract_of_place (RawEntry.place_of_isDecimal accepts.slot accepts.offset), given]
    rfl
  · exact {
      name := rfl
      slot := rfl
      offset := RawEntry.toNat_toUInt8_offset (decide_eq_true accepts.offset)
      typeKey := rfl
      typeHash := ⟨root, digest, rfl⟩ }

/-- An entry that is rejected gives the error that it is rejected with. -/
theorem run_extract_of_rejects {c : Canonicalizer} {reason : LayoutError}
    (rejects : c.Rejects asked e reason) :
    ((e.extract c).run (c.memoAfter asked)).1 = .error reason := by
  cases rejects with
  | slot bad =>
    rw [RawEntry.extract_eq, RawEntry.place_of_not_isDecimal bad]
    rfl
  | offset slot bad =>
    rw [RawEntry.extract_eq, RawEntry.place_of_outside slot bad]
    rfl
  | type slot offset bad =>
    rw [run_extract_of_place (RawEntry.place_of_isDecimal slot offset), bad]
    rfl

end Runs

section Lists

variable {c : Canonicalizer} {asked : List String}

theorem acceptsAll_nil (c : Canonicalizer) (asked : List String) : c.AcceptsAll asked [] := by
  intro before e after split
  simp at split

/-- The first entry is asked for before the others. -/
theorem acceptsAll_cons_iff {e : RawEntry} {rest : List RawEntry} :
    c.AcceptsAll asked (e :: rest) ↔
      c.Accepts asked e ∧ c.AcceptsAll (asked ++ [e.typeKey]) rest := by
  constructor
  · refine fun accepts => ⟨by simpa using accepts [] e rest rfl, fun before e' after split => ?_⟩
    simpa using accepts (e :: before) e' after (congrArg (e :: ·) split)
  · rintro ⟨first, others⟩ before e' after split
    cases before with
    | nil =>
      obtain ⟨rfl, -⟩ := List.cons.inj split
      simpa using first
    | cons e'' before =>
      obtain ⟨rfl, split'⟩ := List.cons.inj split
      simpa using others before e' after split'

/-- If not all entries are accepted, there is a first one that is rejected. -/
theorem exists_first_rejected {entries : List RawEntry} (refused : ¬ c.AcceptsAll asked entries) :
    ∃ before e after reason, entries = before ++ e :: after ∧ c.AcceptsAll asked before ∧
      c.Rejects (asked ++ before.map RawEntry.typeKey) e reason := by
  induction entries generalizing asked with
  | nil => exact absurd (acceptsAll_nil c asked) refused
  | cons e rest ih =>
    rcases c.accepts_or_rejects asked e with accepts | ⟨reason, rejects⟩
    · have refused' : ¬ c.AcceptsAll (asked ++ [e.typeKey]) rest :=
        fun others => refused (acceptsAll_cons_iff.2 ⟨accepts, others⟩)
      obtain ⟨before, e', after, reason, rfl, accepted, rejects⟩ := ih refused'
      refine ⟨e :: before, e', after, reason, rfl, acceptsAll_cons_iff.2 ⟨accepts, accepted⟩, ?_⟩
      simpa using rejects
    · exact ⟨[], e, rest, reason, rfl, acceptsAll_nil c asked, by simpa using rejects⟩

end Lists

section Layouts

open Resolution Stateful

variable {hash : String → String} {s : TypeScope} {asked : List String}

/-- An entry that fails ends the extraction. -/
theorem run_extractAll_of_error {c : Canonicalizer} {e : RawEntry} {memo : Memo}
    {reason : LayoutError} (failed : ((e.extract c).run memo).1 = .error reason)
    (rest : List RawEntry) : ((c.extractAll (e :: rest)).run memo).1 = .error reason := by
  rw [run_extractAll_cons]
  generalize (e.extract c).run memo = outcome at failed ⊢
  obtain ⟨first, memo'⟩ := outcome
  obtain rfl : first = .error reason := failed
  rfl

/-- After an entry that gives a variable, the extraction fails as that of the others does. -/
theorem run_extractAll_of_later_error {c : Canonicalizer} {e : RawEntry} {memo memo' : Memo}
    {rest : List RawEntry} {v : StateVariable} {reason : LayoutError}
    (given : (e.extract c).run memo = (.ok v, memo'))
    (failed : ((c.extractAll rest).run memo').1 = .error reason) :
    ((c.extractAll (e :: rest)).run memo).1 = .error reason := by
  rw [run_extractAll_cons, given]
  dsimp only
  generalize (c.extractAll rest).run memo' = outcome at failed ⊢
  obtain ⟨others, last⟩ := outcome
  obtain rfl : others = .error reason := failed
  rfl

/-- Accepted entries give the variables that show them, in the same order. -/
theorem run_extractAll_of_acceptsAll {entries : List RawEntry}
    (accepts : (ofScope hash s).AcceptsAll asked entries) :
    ∃ found, ((ofScope hash s).extractAll entries).run ((ofScope hash s).memoAfter asked) =
        (.ok found, (ofScope hash s).memoAfter (asked ++ entries.map RawEntry.typeKey)) ∧
      List.Forall₂ (ofScope hash s).Shows entries found := by
  induction entries generalizing asked with
  | nil => exact ⟨[], by rw [List.map_nil, List.append_nil]; rfl, .nil⟩
  | cons e rest ih =>
    rw [acceptsAll_cons_iff] at accepts
    obtain ⟨v, ran, shows⟩ := run_extract_of_accepts accepts.1
    obtain ⟨found, ran', shown⟩ := ih accepts.2
    refine ⟨v :: found, ?_, .cons shows shown⟩
    rw [run_extractAll_cons, ran]
    dsimp only
    rw [ran', List.map_cons, List.append_assoc, List.singleton_append]

/-- The first entry that is rejected decides how the extraction fails. -/
theorem run_extractAll_of_rejects {before after : List RawEntry} {e : RawEntry}
    {reason : LayoutError} (accepts : (ofScope hash s).AcceptsAll asked before)
    (rejects : (ofScope hash s).Rejects (asked ++ before.map RawEntry.typeKey) e reason) :
    (((ofScope hash s).extractAll (before ++ e :: after)).run
      ((ofScope hash s).memoAfter asked)).1 = .error reason := by
  -- The memo that the earlier entries leave is the one of their types, whatever they are.
  induction before generalizing asked with
  | nil => exact run_extractAll_of_error (run_extract_of_rejects (by simpa using rejects)) after
  | cons e' before ih =>
    rw [acceptsAll_cons_iff] at accepts
    obtain ⟨v, given, -⟩ := run_extract_of_accepts accepts.1
    exact run_extractAll_of_later_error given (ih accepts.2 (by simpa using rejects))

end Layouts

end Canonicalizer

namespace RawLayout

/-- What the entries of a layout with types are extracted with. -/
abbrev canonicalizer (name : String) (types : TypeDictionary) : Canonicalizer :=
  .ofScope Digest.blake3 ⟨name, types⟩

variable {name : String} {storage : List RawEntry} {types : TypeDictionary}

theorem extract_of_acceptsAll (accepts : (canonicalizer name types).AcceptsAll [] storage) :
    ∃ found, RawLayout.extract name (some ⟨storage, some types⟩) =
        .ok (some ⟨name, found, types⟩) ∧
      List.Forall₂ (canonicalizer name types).Shows storage found := by
  obtain ⟨found, ran, shown⟩ := Canonicalizer.run_extractAll_of_acceptsAll accepts
  refine ⟨found, ?_, shown⟩
  have ran' : (((canonicalizer name types).extractAll storage).run {}).1 = .ok found :=
    congrArg Prod.fst ran
  rw [extract_some, ran']
  rfl

/-- A layout is refused for the first entry that is rejected. -/
theorem extract_of_refused (refused : ¬ (canonicalizer name types).AcceptsAll [] storage) :
    ∃ before e after reason, storage = before ++ e :: after ∧
      (canonicalizer name types).AcceptsAll [] before ∧
      (canonicalizer name types).Rejects (before.map RawEntry.typeKey) e reason ∧
      RawLayout.extract name (some ⟨storage, some types⟩) = .error reason := by
  obtain ⟨before, e, after, reason, rfl, accepts, rejects⟩ :=
    Canonicalizer.exists_first_rejected refused
  refine ⟨before, e, after, reason, rfl, accepts, rejects, ?_⟩
  have ended : (((canonicalizer name types).extractAll (before ++ e :: after)).run {}).1 =
      .error reason := Canonicalizer.run_extractAll_of_rejects accepts rejects
  rw [extract_some, ended]
  rfl

/-- Nothing is extracted exactly where there is no layout or it has no types. Otherwise a snapshot
is extracted exactly if all entries are accepted; it is valid, has the types of the layout, and
shows the entries in order, one variable for each. If an entry is not accepted, the extraction fails
with what is wrong with the first one that is rejected. -/
theorem extraction_ends_as_entries_demand (name : String) :
    (∀ layout, RawLayout.extract name layout = .ok none ↔ layout.bind RawLayout.types = none) ∧
    ∀ storage types,
      ((∃ snapshot, RawLayout.extract name (some ⟨storage, some types⟩) = .ok (some snapshot)) ↔
        (canonicalizer name types).AcceptsAll [] storage) ∧
      (∀ snapshot, RawLayout.extract name (some ⟨storage, some types⟩) = .ok (some snapshot) →
        snapshot.name = name ∧ snapshot.types = types ∧
        List.Forall₂ (canonicalizer name types).Shows storage snapshot.stateVariables ∧
        snapshot.validate = .ok ()) ∧
      (¬ (canonicalizer name types).AcceptsAll [] storage →
        ∃ before e after reason, storage = before ++ e :: after ∧
          (canonicalizer name types).AcceptsAll [] before ∧
          (canonicalizer name types).Rejects (before.map RawEntry.typeKey) e reason ∧
          RawLayout.extract name (some ⟨storage, some types⟩) = .error reason) := by
  have accepted_iff (storage : List RawEntry) (types : TypeDictionary) :
      (∃ snapshot, RawLayout.extract name (some ⟨storage, some types⟩) = .ok (some snapshot)) ↔
        (canonicalizer name types).AcceptsAll [] storage := by
    constructor
    · rintro ⟨snapshot, extracted⟩
      by_contra refused
      obtain ⟨-, -, -, reason, -, -, -, failed⟩ := extract_of_refused refused
      exact nomatch failed.symm.trans extracted
    · intro accepts
      obtain ⟨found, extracted, -⟩ := extract_of_acceptsAll accepts
      exact ⟨_, extracted⟩
  refine ⟨fun layout => ?_, fun storage types => ⟨accepted_iff storage types, ?_,
    extract_of_refused⟩⟩
  · match layout with
    | none => exact iff_of_true rfl rfl
    | some ⟨storage, none⟩ => exact iff_of_true rfl rfl
    | some ⟨storage, some types⟩ =>
      refine iff_of_false (fun extracted => ?_) (by simp)
      by_cases accepts : (canonicalizer name types).AcceptsAll [] storage
      · obtain ⟨found, extracted', -⟩ := extract_of_acceptsAll accepts
        exact nomatch extracted'.symm.trans extracted
      · obtain ⟨-, -, -, reason, -, -, -, failed⟩ := extract_of_refused accepts
        exact nomatch failed.symm.trans extracted
  · intro snapshot extracted
    obtain ⟨found, extracted', shown⟩ :=
      extract_of_acceptsAll ((accepted_iff storage types).1 ⟨snapshot, extracted⟩)
    obtain rfl := Option.some.inj (Except.ok.inj (extracted'.symm.trans extracted))
    exact ⟨rfl, rfl, shown, validate_of_extract extracted⟩

end RawLayout
end StorageLayout
