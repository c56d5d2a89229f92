import StorageLayout.Json.Numeral

/-!
# What a text holds of a JSON value

A text that should be JSON may end too early or go wrong at some point. An excerpt is the value as
far as the text spells it: the fault is recorded at the place where reading stopped, in every list
and object that was still open there. All that comes before the fault is kept, because whoever
reads the value in order may object to something earlier.

What a fault is called depends on who meets it. A number that is cut off by the end of the text is
an early end for a reader who wants its value, and malformed for one who skips it.
-/
namespace StorageLayout.Json

/-- Why a text is not JSON: it ends too early, or it is malformed. -/
inductive Stop where
  | endOfText
  | malformed
  deriving DecidableEq, Repr

/-- The place where reading stopped, as it appears to the three ways of using a value. -/
structure Fault where
  /-- For a reader who wants the value. -/
  reading : Stop
  /-- For a reader who skips the value. -/
  skipping : Stop
  /-- For a reader who wants one of a few names. -/
  choosing : Stop
  deriving DecidableEq, Repr

/-- A malformed place looks malformed to everyone. -/
def Fault.malformed : Fault := ⟨.malformed, .malformed, .malformed⟩

/-- An end of the text between values looks like an early end to everyone. -/
def Fault.endOfText : Fault := ⟨.endOfText, .endOfText, .endOfText⟩

/-- The content of a JSON string, unless its escapes contain half a surrogate pair. -/
abbrev Literal := Option String

/-- A JSON value as far as a text spells it. -/
inductive Excerpt where
  | null
  | boolean (value : Bool)
  | number (numeral : Numeral)
  | text (content : Literal)
  /-- A list, and the fault if the text stops before its end. -/
  | list (items : List Excerpt) (fault : Option Fault)
  /-- An object, and the fault if the text stops before its end. -/
  | object (members : List (Literal × Excerpt)) (fault : Option Fault)
  /-- No value: the text stops before one is complete. -/
  | cut (fault : Fault)
  deriving Inhabited

/-- What a text holds: a value, and whether more than white space follows it. -/
structure Document where
  root : Excerpt
  surplus : Bool

end StorageLayout.Json
