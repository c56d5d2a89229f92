import StorageLayout.TypeDefinition.Format

/-!
# Build artifacts

A build artifact records one run of the compiler: for every source file and every contract in it,
what the compiler put out. Only the storage layouts are read. A contract without storage has no
layout, or a layout whose types are `null`.
-/
namespace StorageLayout

open Json (Decoder Field Record)

/-- A variable in a storage layout as the compiler gives it. -/
structure RawEntry where
  label : String
  slot : String
  offset : UInt64
  typeKey : String
  /-- The variable's number in the compiler's syntax tree. -/
  astId : Option UInt64
  contract : Option String
  deriving DecidableEq, Repr

structure RawLayout where
  storage : List RawEntry
  types : Option TypeDictionary

structure ContractOutput where
  layout : Option RawLayout

/-- What the compiler put out: for each source file, for each contract. -/
structure CompilerOutput where
  contracts : Dictionary (Dictionary ContractOutput)

/-- The record of one run of the compiler. -/
structure BuildArtifact where
  id : Option String
  output : CompilerOutput

namespace RawEntry

def record : Record RawEntry where
  name := "RawStorageEntry"
  blank := ⟨"", "", 0, "", none, none⟩
  fields := [
    .required "label" .text fun x e => { e with label := x },
    .required "slot" .text fun x e => { e with slot := x },
    .required "offset" .word64 fun x e => { e with offset := x },
    .required "type" .text fun x e => { e with typeKey := x },
    .optional "astId" (.optional .word64) fun x e => { e with astId := x },
    .optional "contract" (.optional .text) fun x e => { e with contract := x }]

end RawEntry

namespace RawLayout

def record : Record RawLayout where
  name := "RawStorageLayout"
  blank := ⟨[], none⟩
  fields := [
    .optional "storage" (.list RawEntry.record.decode) fun x l => { l with storage := x },
    .optional "types" (.optional TypeDictionary.decode) fun x l => { l with types := x }]

def decode : Decoder RawLayout := record.decode

end RawLayout

namespace ContractOutput

def record : Record ContractOutput where
  name := "ContractOutput"
  blank := ⟨none⟩
  fields := [
    .optional "storageLayout" (.optional RawLayout.decode) fun x o => { o with layout := x }]

end ContractOutput

namespace CompilerOutput

def record : Record CompilerOutput where
  name := "CompilerOutput"
  blank := ⟨.empty⟩
  fields := [
    .optional "contracts" (.dictionary (.dictionary ContractOutput.record.decode))
      fun x o => { o with contracts := x }]

end CompilerOutput

namespace BuildArtifact

def record : Record BuildArtifact where
  name := "BuildInfo"
  blank := ⟨none, ⟨.empty⟩⟩
  fields := [
    .optional "id" (.optional .text) fun x a => { a with id := x },
    .required "output" CompilerOutput.record.decode fun x a => { a with output := x }]

def decode : Decoder BuildArtifact := record.decode

end BuildArtifact
end StorageLayout
