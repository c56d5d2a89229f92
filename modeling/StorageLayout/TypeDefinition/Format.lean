import StorageLayout.Json.Basic
import StorageLayout.Json.Decode
import StorageLayout.TypeDefinition.Basic

/-!
# The JSON form of type definitions

Fields that are absent are left out on output and may be absent or `null` on input.
-/
namespace StorageLayout

open Json (Decoder Field Record)

def Encoding.decode : Decoder Encoding :=
  Decoder.choice (Encoding.all.map fun e => (e.name, e))

namespace Member

def record : Record Member where
  name := "MemberDefinition"
  blank := ⟨"", 0, "", "", none⟩
  fields := [
    .required "label" .text fun x m => { m with label := x },
    .required "offset" .word64 fun x m => { m with offset := x },
    .required "slot" .text fun x m => { m with slot := x },
    .required "type" .text fun x m => { m with typeKey := x },
    .optional "contract" (.optional .text) fun x m => { m with contract := x }]

def json (m : Member) : Json :=
  .object ([("label", .text m.label), ("offset", .natural m.offset.toNat), ("slot", .text m.slot),
    ("type", .text m.typeKey)] ++ Json.optionalMember "contract" (m.contract.map .text))

end Member

namespace TypeDefinition

def record : Record TypeDefinition where
  name := "TypeDefinition"
  blank := ⟨.inplace, "", "", none, none, none, none⟩
  fields := [
    .required "encoding" Encoding.decode fun x d => { d with encoding := x },
    .required "label" .text fun x d => { d with label := x },
    .required "numberOfBytes" .text fun x d => { d with numberOfBytes := x },
    .optional "key" (.optional .text) fun x d => { d with key := x },
    .optional "members" (.optional (.list Member.record.decode)) fun x d => { d with members := x },
    .optional "value" (.optional .text) fun x d => { d with value := x },
    .optional "base" (.optional .text) fun x d => { d with base := x }]

def decode : Decoder TypeDefinition := record.decode

def json (d : TypeDefinition) : Json :=
  .object ([("encoding", .text d.encoding.name), ("label", .text d.label),
    ("numberOfBytes", .text d.numberOfBytes)] ++
    Json.optionalMember "key" (d.key.map .text) ++
    Json.optionalMember "members" (d.members.map fun members => .list (members.map Member.json)) ++
    Json.optionalMember "value" (d.value.map .text) ++
    Json.optionalMember "base" (d.base.map .text))

end TypeDefinition

namespace TypeDictionary

def decode : Decoder TypeDictionary := Decoder.dictionary TypeDefinition.decode

def json (types : TypeDictionary) : Json :=
  .object (types.entries.map fun (key, definition) => (key, definition.json))

end TypeDictionary
end StorageLayout
