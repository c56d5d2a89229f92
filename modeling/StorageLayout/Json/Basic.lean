/-!
# JSON values to be written

The values that this library writes are texts, natural numbers, lists, and objects whose members
keep their order. One writer serves both layouts: the compact one on a single line and the
indented one with two spaces for each level. The two differ only in white space.
-/
namespace StorageLayout

inductive Json where
  | text (value : String)
  | natural (value : Nat)
  | list (items : List Json)
  | object (members : List (String × Json))
  deriving Inhabited

namespace Json

def hexDigit (n : Nat) : Char := Nat.digitChar n

/-- Whether a character stands for itself inside a JSON text. -/
def isPlain (c : Char) : Bool := 0x20 ≤ c.toNat && c ≠ '"' && c ≠ '\\'

/-- How a character that does not stand for itself is written inside a JSON text. -/
def escaped (c : Char) : String :=
  match c with
  | '"' => "\\\""
  | '\\' => "\\\\"
  | '\x08' => "\\b"
  | '\x0c' => "\\f"
  | '\n' => "\\n"
  | '\r' => "\\r"
  | '\t' => "\\t"
  | c => String.ofList ['\\', 'u', '0', '0', hexDigit (c.toNat / 16), hexDigit (c.toNat % 16)]

/-- A written text with one more character, escaped where necessary. -/
def pushEscaped (written : String) (c : Char) : String :=
  if isPlain c then written.push c else written ++ escaped c

/-- A written text with a JSON string after it. -/
def pushQuoted (written : String) (content : String) : String :=
  (content.foldl pushEscaped (written.push '"')).push '"'

/-- Where white space is put: before each item at a given depth and after each colon. -/
structure Style where
  /-- What stands before an item, or before a closing bracket, at this depth. -/
  lineBreak : Nat → String
  /-- What stands between a member's name and its value. -/
  colon : String

def Style.compact : Style := ⟨fun _ => "", ":"⟩

def Style.indented : Style :=
  ⟨fun depth => "\n" ++ String.ofList (List.replicate (2 * depth) ' '), ": "⟩

mutual

/-- A written text with a value after it, whose own items stand one level below `depth`. -/
def write (style : Style) (depth : Nat) (written : String) : Json → String
  | text value => pushQuoted written value
  | natural value => written ++ toString value
  | list [] => written ++ "[]"
  | list (item :: rest) =>
    let opened := written ++ "[" ++ style.lineBreak (depth + 1)
    writeItems style (depth + 1) (write style (depth + 1) opened item) rest ++
      style.lineBreak depth ++ "]"
  | object [] => written ++ "\x7b\x7d"
  | object ((name, value) :: rest) =>
    let opened := written ++ "\x7b" ++ style.lineBreak (depth + 1)
    let named := pushQuoted opened name ++ style.colon
    writeMembers style (depth + 1) (write style (depth + 1) named value) rest ++
      style.lineBreak depth ++ "\x7d"

/-- A written text with further items after it, each after a comma. -/
def writeItems (style : Style) (depth : Nat) (written : String) : List Json → String
  | [] => written
  | item :: rest =>
    let separated := written ++ "," ++ style.lineBreak depth
    writeItems style depth (write style depth separated item) rest

/-- A written text with further members after it, each after a comma. -/
def writeMembers (style : Style) (depth : Nat) (written : String) :
    List (String × Json) → String
  | [] => written
  | (name, value) :: rest =>
    let separated := written ++ "," ++ style.lineBreak depth
    let named := pushQuoted separated name ++ style.colon
    writeMembers style depth (write style depth named value) rest

end

def compact (value : Json) : String := value.write .compact 0 ""

def indented (value : Json) : String := value.write .indented 0 ""

/-- A member that is left out when its value is absent. -/
def optionalMember (name : String) (value : Option Json) : List (String × Json) :=
  match value with
  | none => []
  | some value => [(name, value)]

end Json
end StorageLayout
