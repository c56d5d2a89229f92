import StorageLayout.Digest.Blake3
import StorageLayout.Extraction.Artifact
import StorageLayout.Fingerprint.Basic
import StorageLayout.Snapshot.Basic
import Std.Data.HashSet

/-!
# Extracting snapshots from build artifacts

A contract's snapshot has one variable for each entry of its storage layout, in the same order. The
first entry that is wrong makes the extraction fail; in one entry a bad slot is reported before a
bad offset, and that before a type without a fingerprint.

The snapshots of several artifacts form one document in which every contract name occurs once: the
first artifact that defines a name wins.
-/
namespace StorageLayout

/-- The variable of a layout entry, whose type is fingerprinted. -/
def RawEntry.extract (canonicalizer : Canonicalizer) (e : RawEntry) : Resolution StateVariable := do
  match Slot.ofText? e.slot with
  | none => throw (.invalidSlot canonicalizer.contract e.label e.slot)
  | some slot =>
    if !Slot.holdsOffset e.offset.toNat then
      throw (.invalidOffset canonicalizer.contract e.label e.offset.toNat)
    else
      let typeHash ← canonicalizer.fingerprint e.typeKey
      return ⟨e.label, slot, e.offset.toUInt8, e.typeKey, typeHash⟩

/-- The snapshot of a contract, if it has a layout with types. -/
def RawLayout.extract (name : String) (layout : Option RawLayout) :
    Except LayoutError (Option ContractSnapshot) :=
  match layout with
  | some ⟨storage, some types⟩ =>
    let canonicalizer := Canonicalizer.ofScope Digest.blake3 ⟨name, types⟩
    let extracting : Resolution (List StateVariable) := storage.mapM (·.extract canonicalizer)
    (extracting.run {}).1.map fun found => some ⟨name, found, types⟩
  | _ => .ok none

namespace BuildArtifact

/-- The contracts of an artifact with their layouts, in the order of the artifact. -/
def layouts (a : BuildArtifact) : List (String × Option RawLayout) :=
  a.output.contracts.values.flatMap fun contracts =>
    contracts.entries.map fun (name, output) => (name, output.layout)

def extract (a : BuildArtifact) : Except LayoutError (List ContractSnapshot) := do
  let snapshots ← a.layouts.mapM fun (name, layout) => RawLayout.extract name layout
  return snapshots.filterMap fun c => c

end BuildArtifact

/-- A document under construction, with the names that are taken in it. -/
structure SnapshotBuilder where
  taken : Std.HashSet String := ∅
  document : SnapshotDocument := ⟨[]⟩

/-- A computation on a document under construction. What has been changed before a failure stays
changed. -/
abbrev Building := ExceptT LayoutError (StateM SnapshotBuilder)

namespace SnapshotBuilder

def add (b : SnapshotBuilder) (c : ContractSnapshot) : SnapshotBuilder where
  taken := b.taken.insert c.name
  document := ⟨b.document.contracts ++ [c]⟩

/-- Adds a snapshot unless its name is taken, and goes on with a count. -/
def offer (count : Nat) (c : ContractSnapshot) : Building Nat := do
  if c.name ∈ (← get).taken then return count
  else
    modify (·.add c)
    return count + 1

/-- Hands an artifact to the builder. The answer is how many snapshots have been added. -/
def feed (a : BuildArtifact) : Building Nat := do
  let snapshots ← MonadExcept.ofExcept a.extract
  snapshots.foldlM offer 0

/-- Hands the artifacts of a list to the builder, up to the first that cannot be extracted. -/
def feedEach (artifacts : List BuildArtifact) : Building Unit :=
  artifacts.forM fun a => discard (feed a)

/-- The builder after one more artifact, and how many snapshots have been added. -/
def addArtifact (b : SnapshotBuilder) (a : BuildArtifact) :
    Except LayoutError (SnapshotBuilder × Nat) :=
  let (answer, after) := (feed a).run b
  answer.map fun added => (after, added)

end SnapshotBuilder

/-- The document of several artifacts. -/
def SnapshotDocument.ofArtifacts (artifacts : List BuildArtifact) :
    Except LayoutError SnapshotDocument :=
  let (answer, built) := (SnapshotBuilder.feedEach artifacts).run {}
  answer.map fun _ => built.document

end StorageLayout
