import StorageLayout.Catalog
import StorageLayout.Dictionary
import StorageLayout.Json.Problem
import StorageLayout.Json.Reader

/-!
# Reading values out of JSON texts

A decoder walks an excerpt in the order of the text, so the first problem met is the one reported:
a mismatch early in the text wins over a fault that comes later, and the reverse. Lists and objects
that stand in the wrong place are rejected without a look inside.

A record is an object whose members are its fields in any order, or a list of its fields in their
own order. Members that are not fields are skipped; they only have to be well formed.
-/
namespace StorageLayout.Json

/-- Reads a value out of an excerpt. -/
abbrev Decoder (α : Type) := Excerpt → Except Problem α

def Problem.malformed : Problem := .stopped .malformed

namespace Excerpt

/-- What stands here, unless it is itself faulty. -/
def kind : Excerpt → Except Problem Kind
  | null => .ok .null
  | boolean value => .ok (.boolean value)
  | number numeral =>
    match numeral.number with
    | .natural n => .ok (.natural n)
    | .negative n => .ok (.negative n)
    | .float x => .ok (.float x)
    | .outOfRange => .error .malformed
  | text (some content) => .ok (.text content)
  | text none => .error .malformed
  | list _ _ => .ok .list
  | object _ _ => .ok .object
  | cut fault => .error (.stopped fault.reading)

/-- The problem with an excerpt that is not of the wanted kind. -/
def unfit {α : Type} (e : Excerpt) (wanted : Wanted) : Except Problem α :=
  e.kind.bind fun found => .error (.mismatch (.wrongKind found wanted))

/-- Passes over a value, which only has to be well formed. -/
def skip : Excerpt → Except Problem Unit
  | cut fault => .error (.stopped fault.skipping)
  | list _ (some fault) => .error (.stopped fault.skipping)
  | object _ (some fault) => .error (.stopped fault.skipping)
  | _ => .ok ()

end Excerpt

namespace Decoder

/-- Ends a list or an object: it must be complete. -/
def close : Option Fault → Except Problem Unit
  | none => .ok ()
  | some fault => .error (.stopped fault.reading)

def text : Decoder String
  | .text (some content) => .ok content
  | e => e.unfit .text

/-- An unsigned integer below a limit. -/
def below (limit : Nat) (wanted : Wanted) : Decoder Nat
  | .number numeral =>
    match numeral.number with
    | .natural n =>
      if n < limit then .ok n else .error (.mismatch (.outOfRange (.natural n) wanted))
    | .negative n => .error (.mismatch (.outOfRange (.negative n) wanted))
    | _ => (Excerpt.number numeral).unfit wanted
  | e => e.unfit wanted

def word64 : Decoder UInt64 := fun e => (below UInt64.size .word64 e).map UInt64.ofNat

def word8 : Decoder UInt8 := fun e => (below UInt8.size .word8 e).map UInt8.ofNat

def slot : Decoder Slot := fun e => do
  let raw ← text e
  match Slot.ofText? raw with
  | some slot => .ok slot
  | none => .error (.mismatch (.notDecimal raw))

/-- A value that may be `null`. -/
def optional {α : Type} (decode : Decoder α) : Decoder (Option α)
  | .null => .ok none
  | e => (decode e).map some

def list {α : Type} (decode : Decoder α) : Decoder (List α)
  | .list items fault => do
    let values ← items.mapM decode
    close fault
    return values
  | e => e.unfit .list

/-- The members of an object with all their values, in the order of the text. -/
def members {α : Type} (decode : Decoder α) : Decoder (List (String × α))
  | .object members fault => do
    let values ← members.mapM fun (name, e) =>
      match name with
      | none => .error .malformed
      | some name => (decode e).map fun value => (name, value)
    close fault
    return values
  | e => e.unfit .dictionary

/-- An object with arbitrary names, in the order in which they first come. -/
def dictionary {α : Type} (decode : Decoder α) : Decoder (Dictionary α) :=
  fun e => (members decode e).map Dictionary.ofList

/-- An object with arbitrary names, in name order. -/
def catalog {α : Type} (decode : Decoder α) : Decoder (Catalog α) :=
  fun e => (members decode e).map Catalog.ofList

/-- The value of an allowed name. -/
def chosen {α : Type} (allowed : List (String × α)) (name : String) : Except Problem α :=
  match allowed.lookup name with
  | some value => .ok value
  | none => .error (.mismatch (.unknownName name (allowed.map Prod.fst)))

/-- One of a few names, written as a text or as the only member of an object with value `null`. -/
def choice {α : Type} (allowed : List (String × α)) : Decoder α
  | .text (some name) => chosen allowed name
  | .object [] (some fault) => .error (.stopped fault.choosing)
  | .object ((some name, e) :: rest) fault => do
    let value ← chosen allowed name
    match e with
    | .null => pure ()
    | e => e.unfit .nothing
    match rest, fault with
    | [], none => return value
    | [], some fault => .error (.stopped fault.choosing)
    | _ :: _, _ => .error .malformed
  | .cut fault => .error (.stopped fault.choosing)
  | _ => .error .malformed

end Decoder

/-- A field of a record: its name, whether it may be left out, and how its value enters. -/
structure Field (α : Type) where
  name : String
  isOptional : Bool
  read : Excerpt → α → Except Problem α

def Field.required {α β : Type} (name : String) (decode : Decoder β) (set : β → α → α) : Field α :=
  ⟨name, false, fun e a => (decode e).map (set · a)⟩

/-- A field that may be left out, which leaves the blank record's value in place. -/
def Field.optional {α β : Type} (name : String) (decode : Decoder β) (set : β → α → α) : Field α :=
  ⟨name, true, fun e a => (decode e).map (set · a)⟩

/-- How a record is read: its name in messages, the record before any field is known, and its
fields in order. -/
structure Record (α : Type) where
  name : String
  blank : α
  fields : List (Field α)

namespace Record

variable {α : Type}

/-- Reads the members of an object. The names of the fields read so far are passed along. -/
def readMembers (r : Record α) :
    List (Literal × Excerpt) → List String → α → Except Problem (List String × α)
  | [], seen, a => .ok (seen, a)
  | (none, _) :: _, _, _ => .error .malformed
  | (some name, e) :: rest, seen, a =>
    match r.fields.find? (·.name = name) with
    | none => do
      e.skip
      r.readMembers rest seen a
    | some field =>
      if name ∈ seen then .error (.mismatch (.repeatedField name))
      else do
        let a ← field.read e a
        r.readMembers rest (name :: seen) a

/-- Reads the items of a list as the remaining fields, of which `done` have been read. -/
def readItems (r : Record α) (done : Nat) :
    List (Field α) → List Excerpt → Option Fault → α → Except Problem α
  | [], [], fault, a => (Decoder.close fault).map fun _ => a
  | [], _ :: _, _, _ => .error .malformed
  | field :: fields, e :: rest, fault, a => do
    let a ← field.read e a
    r.readItems (done + 1) fields rest fault a
  | _ :: _, [], some fault, _ => .error (.stopped fault.reading)
  | field :: fields, [], none, a =>
    if field.isOptional then r.readItems (done + 1) fields [] none a
    else .error (.mismatch (.tooShort done r.name r.fields.length))

/-- The first required field that has not been read. -/
def missing? (r : Record α) (seen : List String) : Option String :=
  (r.fields.find? fun field => !field.isOptional && field.name ∉ seen).map (·.name)

/-- Reads a record. -/
def decode (r : Record α) : Decoder α
  | .object members fault => do
    let (seen, a) ← r.readMembers members [] r.blank
    Decoder.close fault
    match r.missing? seen with
    | some name => .error (.mismatch (.missingField name))
    | none => return a
  | .list items fault => r.readItems 0 r.fields items fault r.blank
  | e => e.unfit (.record r.name)

end Record

/-- Reads a text as one value, after which only white space may follow. -/
def Decoder.run {α : Type} (decode : Decoder α) (s : String) : Except Problem α := do
  let document := Document.ofText s
  let value ← decode document.root
  if document.surplus then .error .malformed else return value

end StorageLayout.Json
