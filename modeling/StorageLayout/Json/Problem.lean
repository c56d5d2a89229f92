import StorageLayout.Json.Excerpt
import StorageLayout.Slot
import StorageLayout.Text.Quoted

/-!
# Why a JSON text cannot be read as wanted

A text may not be JSON at all, or it may be JSON of another shape than the reader wants. Each
mismatch is a cause of its own; the wording is in one place.
-/
namespace StorageLayout.Json

/-- What stands in a text where something else is wanted. -/
inductive Kind where
  | null
  | boolean (value : Bool)
  | natural (value : Nat)
  | negative (magnitude : Nat)
  | float (value : Float)
  | text (content : String)
  | list
  | object

/-- What a reader may want. -/
inductive Wanted where
  | text
  | list
  | dictionary
  | word64
  | word8
  | nothing
  | record (name : String)

/-- How the shape of a JSON value may differ from the wanted one. -/
inductive Mismatch where
  /-- Another kind of value stands in the place of the wanted one. -/
  | wrongKind (found : Kind) (wanted : Wanted)
  /-- An integer does not fit. -/
  | outOfRange (found : Kind) (wanted : Wanted)
  /-- A record written as a list ends before a required field. -/
  | tooShort (length : Nat) (record : String) (fieldCount : Nat)
  | missingField (name : String)
  | repeatedField (name : String)
  /-- A name is not among the few allowed ones. -/
  | unknownName (found : String) (allowed : List String)
  /-- A slot is not written in decimal digits. -/
  | notDecimal (raw : String)

/-- Why a text cannot be read as wanted. -/
inductive Problem where
  /-- The text is not JSON. -/
  | stopped (stop : Stop)
  /-- The text is JSON of another shape. -/
  | mismatch (cause : Mismatch)

def Kind.message : Kind → String
  | null => "null"
  | boolean true => "boolean `true`"
  | boolean false => "boolean `false`"
  | natural n => "integer `" ++ toString n ++ "`"
  | negative n => "integer `-" ++ toString n ++ "`"
  | float x => "floating point `" ++ Decimal.text x ++ "`"
  | text s => "string " ++ Text.quoted s
  | list => "sequence"
  | object => "map"

def Wanted.message : Wanted → String
  | text => "a string"
  | list => "a sequence"
  | dictionary => "a map"
  | word64 => "u64"
  | word8 => "u8"
  | nothing => "unit"
  | record name => "struct " ++ name

/-- A name between the marks that messages put around names. -/
def marked (name : String) : String := "`" ++ name ++ "`"

/-- The names that are allowed, as a message lists them. -/
def allowedMessage : List String → String
  | [a, b] => marked a ++ " or " ++ marked b
  | names => "one of " ++ ", ".intercalate (names.map marked)

def Mismatch.message : Mismatch → String
  | wrongKind found wanted => "invalid type: " ++ found.message ++ ", expected " ++ wanted.message
  | outOfRange found wanted => "invalid value: " ++ found.message ++ ", expected " ++ wanted.message
  | tooShort length record fieldCount =>
    "invalid length " ++ toString length ++ ", expected struct " ++ record ++ " with " ++
      toString fieldCount ++ (if fieldCount = 1 then " element" else " elements")
  | missingField name => "missing field " ++ marked name
  | repeatedField name => "duplicate field " ++ marked name
  | unknownName found allowed =>
    "unknown variant " ++ marked found ++ ", expected " ++ allowedMessage allowed
  | notDecimal raw => Slot.notDecimalMessage raw

end StorageLayout.Json
