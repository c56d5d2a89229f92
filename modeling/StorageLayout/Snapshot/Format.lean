import StorageLayout.Snapshot.Basic
import StorageLayout.TypeDefinition.Format

/-!
# The JSON form of snapshots

Documents are kept as indented JSON with a line feed at the end. Reading checks the form only.
-/
namespace StorageLayout

open Json (Decoder Field Record)

namespace StateVariable

def record : Record StateVariable where
  name := "StateVariable"
  blank := ⟨"", ⟨0⟩, 0, "", ""⟩
  fields := [
    .required "name" .text fun x v => { v with name := x },
    .required "slot" .slot fun x v => { v with slot := x },
    .required "offset" .word8 fun x v => { v with offset := x },
    .required "type" .text fun x v => { v with typeKey := x },
    .required "typeHash" .text fun x v => { v with typeHash := x }]

def decode : Decoder StateVariable := record.decode

def json (v : StateVariable) : Json :=
  .object [("name", .text v.name), ("slot", .text v.slot.text), ("offset", .natural v.offset.toNat),
    ("type", .text v.typeKey), ("typeHash", .text v.typeHash)]

end StateVariable

namespace ContractSnapshot

def record : Record ContractSnapshot where
  name := "ContractSnapshot"
  blank := ⟨"", [], .empty⟩
  fields := [
    .required "name" .text fun x c => { c with name := x },
    .required "stateVariables" (.list StateVariable.decode)
      fun x c => { c with stateVariables := x },
    .required "types" TypeDictionary.decode fun x c => { c with types := x }]

def decode : Decoder ContractSnapshot := record.decode

def json (c : ContractSnapshot) : Json :=
  .object [("name", .text c.name),
    ("stateVariables", .list (c.stateVariables.map StateVariable.json)),
    ("types", TypeDictionary.json c.types)]

end ContractSnapshot

namespace SnapshotDocument

def record : Record SnapshotDocument where
  name := "SnapshotDocument"
  blank := ⟨[]⟩
  fields := [
    .required "contracts" (.list ContractSnapshot.decode) fun x d => { d with contracts := x }]

def decode : Decoder SnapshotDocument := record.decode

def json (d : SnapshotDocument) : Json :=
  .object [("contracts", .list (d.contracts.map ContractSnapshot.json))]

/-- The text in which a document is kept. -/
def fileText (d : SnapshotDocument) : String := d.json.indented ++ "\n"

end SnapshotDocument
end StorageLayout
