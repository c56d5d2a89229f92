import StorageLayout.Json.Excerpt

/-!
# Strings and numbers in a JSON text

What has been read of a string or a number, and how one more character changes it. A string keeps
its characters in reverse order, and remembers half a surrogate pair until its partner comes: with
no partner the string is well formed but stands for no text.
-/
namespace StorageLayout.Json

/-- Where in a string the next character stands. -/
inductive StringPhase where
  | plain
  /-- After a backslash. -/
  | escape
  /-- After `\u`: the bytes seen since, and their value while they are hexadecimal digits. -/
  | code (bytes : Nat) (value : Option Nat)

/-- A string under way. -/
structure StringState where
  /-- The characters so far, in reverse order. -/
  content : List Char := []
  /-- Whether half a surrogate pair has been found. -/
  broken : Bool := false
  /-- A leading surrogate that waits for its partner. -/
  leading : Option Nat := none
  phase : StringPhase := .plain

/-- What a string is for. -/
inductive StringRole where
  | value
  /-- The name of a member, and whether it is the first. -/
  | name (isFirst : Bool)

/-- Where in a number the next character stands. -/
inductive NumeralPhase where
  | minus
  | zero
  | whole
  | point
  | fraction
  | exponentMark
  | exponentSign
  | exponent

/-- A number with its digits in reading order. -/
def Numeral.complete (n : Numeral) : Excerpt :=
  .number ⟨n.negative, n.whole.reverse, n.fraction.map List.reverse,
    n.exponent.map fun (isNegative, digits) => (isNegative, digits.reverse)⟩

/-- One more digit in the part of a number that is under way. -/
def Numeral.pushDigit (n : Numeral) (phase : NumeralPhase) (d : Nat) : Numeral :=
  match phase with
  | .point | .fraction => { n with fraction := some (d :: n.fraction.getD []) }
  | .exponentMark | .exponentSign | .exponent =>
    let (isNegative, digits) := n.exponent.getD (false, [])
    { n with exponent := some (isNegative, d :: digits) }
  | .minus | .zero | .whole => { n with whole := d :: n.whole }

/-- The phase after a digit; a digit after a leading zero has none. -/
def NumeralPhase.afterDigit (phase : NumeralPhase) (d : Nat) : Option NumeralPhase :=
  match phase with
  | .minus => some (if d = 0 then .zero else .whole)
  | .zero => none
  | .whole => some .whole
  | .point | .fraction => some .fraction
  | .exponentMark | .exponentSign | .exponent => some .exponent

/-- Whether a number may end here. -/
def NumeralPhase.mayEnd : NumeralPhase → Bool
  | .zero | .whole | .fraction | .exponent => true
  | .minus | .point | .exponentMark | .exponentSign => false

/-- The character that a one-letter escape stands for. -/
def unescaped? (c : Char) : Option Char :=
  match c with
  | '"' => some '"'
  | '\\' => some '\\'
  | '/' => some '/'
  | 'b' => some '\x08'
  | 'f' => some '\x0c'
  | 'n' => some '\n'
  | 'r' => some '\r'
  | 't' => some '\t'
  | _ => none

def hexValue? (c : Char) : Option Nat :=
  if c.isDigit then some (c.toNat - 48)
  else if 'a' ≤ c ∧ c ≤ 'f' then some (c.toNat - 87)
  else if 'A' ≤ c ∧ c ≤ 'F' then some (c.toNat - 55)
  else none

/-- A string with one more character; a leading surrogate before it has no partner. -/
def StringState.push (s : StringState) (c : Char) : StringState :=
  { content := c :: s.content, broken := s.broken || s.leading.isSome }

/-- A string with one more code written as four hexadecimal digits. -/
def StringState.pushCode (s : StringState) (n : Nat) : StringState :=
  let isLeading := 0xd800 ≤ n && n < 0xdc00
  let isTrailing := 0xdc00 ≤ n && n < 0xe000
  match s.leading with
  | some m =>
    if isTrailing then
      { content := Char.ofNat (0x10000 + (m - 0xd800) * 0x400 + (n - 0xdc00)) :: s.content,
        broken := s.broken }
    else { content := s.content, broken := true }
  | none =>
    if isLeading then { content := s.content, broken := s.broken, leading := some n }
    else if isTrailing then { content := s.content, broken := true }
    else { content := Char.ofNat n :: s.content, broken := s.broken }

/-- The content of a string that ends here. -/
def StringState.literal (s : StringState) : Literal :=
  if s.broken || s.leading.isSome then none else some (String.ofList s.content.reverse)

/-- How an early end inside a string looks: half a surrogate pair before it is met first by those
who want the text, and a name after a comma is not looked at by those who want one of a few
names. -/
def StringState.fault (s : StringState) (role : StringRole) : Fault :=
  let reading := if s.broken then Stop.malformed else .endOfText
  match role with
  | .name false => ⟨reading, .endOfText, .malformed⟩
  | _ => ⟨reading, .endOfText, reading⟩

end StorageLayout.Json
