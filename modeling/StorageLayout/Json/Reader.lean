import StorageLayout.Json.Lexeme

/-!
# Reading JSON texts

Reading is a left fold over the characters. The state holds the lists and objects that are still
open, innermost first, and what the next character may continue. Nothing is looked at twice and
nothing after the first fault is looked at at all.
-/
namespace StorageLayout.Json

/-- A list or an object that is still open, its finished items in reverse order. -/
inductive Frame where
  | list (items : List Excerpt)
  /-- An object with the name of the member that is under way, if any. -/
  | object (members : List (Literal × Excerpt)) (name : Option Literal)

/-- What the next character may continue. -/
inductive Mode where
  /-- A value starts here. -/
  | value
  /-- The first item of a list starts here, or the list ends. -/
  | firstItem
  /-- The first name of an object starts here, or the object ends. -/
  | firstName
  /-- The next name of an object starts here. -/
  | nextName
  | colon
  /-- Inside `null`, `true` or `false`: the letters to come, and the value they complete. -/
  | word (rest : List Char) (value : Excerpt)
  /-- Inside a number, its digits in reverse order. -/
  | numeral (phase : NumeralPhase) (n : Numeral)
  | string (role : StringRole) (s : StringState)
  /-- After an item or a member. -/
  | after
  /-- After the whole value. -/
  | finished (root : Excerpt)
  /-- Reading has stopped. -/
  | stopped (document : Document)

/-- The state of reading: what the next character continues and what is still open. -/
structure ReaderState where
  mode : Mode
  frames : List Frame

namespace ReaderState

def start : ReaderState := ⟨.value, []⟩

def isSpace (c : Char) : Bool :=
  c = ' ' || c = '\t' || c = '\n' || c = '\r'

/-- Closes all open frames around what was found of the innermost value. -/
def unwind (fault : Fault) : Option Excerpt → List Frame → Excerpt
  | inner, [] => inner.getD (.cut fault)
  | inner, .list items :: rest =>
    unwind fault (some (.list (inner.toList ++ items).reverse (some fault))) rest
  | inner, .object members name :: rest =>
    let last := name.toList.map fun name => (name, inner.getD (.cut fault))
    unwind fault (some (.object (last ++ members).reverse (some fault))) rest

/-- Stops at a fault, with what was found of the innermost value. -/
def stopWith (inner : Option Excerpt) (fault : Fault) (frames : List Frame) : ReaderState :=
  ⟨.stopped ⟨unwind fault inner frames, false⟩, []⟩

/-- Stops at a malformed place between values. -/
def stop (frames : List Frame) : ReaderState := stopWith none .malformed frames

/-- Stops at a malformed place where a value is under way or must start. -/
def stopInValue (frames : List Frame) : ReaderState :=
  stopWith (some (.cut .malformed)) .malformed frames

/-- Hands a complete value to the innermost frame. -/
def deliver (value : Excerpt) : List Frame → ReaderState
  | [] => ⟨.finished value, []⟩
  | .list items :: rest => ⟨.after, .list (value :: items) :: rest⟩
  | .object members (some name) :: rest => ⟨.after, .object ((name, value) :: members) none :: rest⟩
  | .object members none :: rest => ⟨.after, .object members none :: rest⟩

/-- A character where a value must start. -/
def startValue (c : Char) (frames : List Frame) : ReaderState :=
  if c = 'n' then ⟨.word ['u', 'l', 'l'] .null, frames⟩
  else if c = 't' then ⟨.word ['r', 'u', 'e'] (.boolean true), frames⟩
  else if c = 'f' then ⟨.word ['a', 'l', 's', 'e'] (.boolean false), frames⟩
  else if c = '"' then ⟨.string .value {}, frames⟩
  else if c = '-' then ⟨.numeral .minus ⟨true, [], none, none⟩, frames⟩
  else if c = '0' then ⟨.numeral .zero ⟨false, [0], none, none⟩, frames⟩
  else if c.isDigit then ⟨.numeral .whole ⟨false, [c.toNat - 48], none, none⟩, frames⟩
  else if c = '[' then ⟨.firstItem, .list [] :: frames⟩
  else if c = '\x7b' then ⟨.firstName, .object [] none :: frames⟩
  else stopInValue frames

/-- A character after a complete value. -/
def afterValue (s : ReaderState) (c : Char) : ReaderState :=
  match s.mode with
  | .after =>
    match s.frames with
    | .list items :: rest =>
      if isSpace c then s
      else if c = ',' then ⟨.value, s.frames⟩
      else if c = ']' then deliver (.list items.reverse none) rest
      else stop s.frames
    | .object members _ :: rest =>
      if isSpace c then s
      else if c = ',' then ⟨.nextName, s.frames⟩
      else if c = '\x7d' then deliver (.object members.reverse none) rest
      else stop s.frames
    | _ => s
  | .finished root => if isSpace c then s else ⟨.stopped ⟨root, true⟩, []⟩
  | _ => s

/-- A character inside or after a number. -/
def continueNumeral (phase : NumeralPhase) (n : Numeral) (c : Char) (frames : List Frame) :
    ReaderState :=
  if c.isDigit then
    match phase.afterDigit (c.toNat - 48) with
    | some next => ⟨.numeral next (n.pushDigit phase (c.toNat - 48)), frames⟩
    | none => stopInValue frames
  else
    match phase, c with
    | .zero, '.' | .whole, '.' => ⟨.numeral .point n, frames⟩
    | .zero, 'e' | .zero, 'E' | .whole, 'e' | .whole, 'E' | .fraction, 'e' | .fraction, 'E' =>
      ⟨.numeral .exponentMark n, frames⟩
    | .exponentMark, '+' => ⟨.numeral .exponentSign { n with exponent := some (false, []) }, frames⟩
    | .exponentMark, '-' => ⟨.numeral .exponentSign { n with exponent := some (true, []) }, frames⟩
    | phase, c =>
      if phase.mayEnd then afterValue (deliver n.complete frames) c
      else stopInValue frames

/-- A complete string in its role. -/
def deliverString (role : StringRole) (content : Literal) (frames : List Frame) : ReaderState :=
  match role, frames with
  | .value, frames => deliver (.text content) frames
  | .name _, .object members _ :: rest => ⟨.colon, .object members (some content) :: rest⟩
  | .name _, frames => ⟨.colon, frames⟩

/-- Stops at a malformed place inside a string. -/
def stopInString (role : StringRole) (frames : List Frame) : ReaderState :=
  match role with
  | .value => stopInValue frames
  | .name _ => stop frames

/-- A character inside a string. -/
def continueString (role : StringRole) (s : StringState) (c : Char) (frames : List Frame) :
    ReaderState :=
  match s.phase with
  | .plain =>
    if c = '"' then deliverString role s.literal frames
    else if c = '\\' then ⟨.string role { s with phase := .escape }, frames⟩
    else if c.toNat < 0x20 then stopInString role frames
    else ⟨.string role (s.push c), frames⟩
  | .escape =>
    if c = 'u' then ⟨.string role { s with phase := .code 0 (some 0) }, frames⟩
    else
      match unescaped? c with
      | some d => ⟨.string role (s.push d), frames⟩
      | none => stopInString role frames
  | .code bytes value =>
    let bytes := bytes + c.utf8Size
    let value := value.bind fun n => (hexValue? c).map fun d => 16 * n + d
    if bytes < 4 then ⟨.string role { s with phase := .code bytes value }, frames⟩
    else
      match value with
      | some n => ⟨.string role (s.pushCode n), frames⟩
      | none => stopInString role frames

def step (s : ReaderState) (c : Char) : ReaderState :=
  match s.mode with
  | .value => if isSpace c then s else startValue c s.frames
  | .firstItem =>
    if isSpace c then s
    else if c = ']' then deliver (.list [] none) (s.frames.drop 1)
    else startValue c s.frames
  | .firstName =>
    if isSpace c then s
    else if c = '\x7d' then deliver (.object [] none) (s.frames.drop 1)
    else if c = '"' then ⟨.string (.name true) {}, s.frames⟩
    else stop s.frames
  | .nextName =>
    if isSpace c then s
    else if c = '"' then ⟨.string (.name false) {}, s.frames⟩
    else stop s.frames
  | .colon =>
    if isSpace c then s
    else if c = ':' then ⟨.value, s.frames⟩
    else stop s.frames
  | .word [] value => afterValue (deliver value s.frames) c
  | .word [d] value => if c = d then deliver value s.frames else stopInValue s.frames
  | .word (d :: rest) value => if c = d then ⟨.word rest value, s.frames⟩ else stopInValue s.frames
  | .numeral phase n => continueNumeral phase n c s.frames
  | .string role string => continueString role string c s.frames
  | .after | .finished _ => afterValue s c
  | .stopped _ => s

/-- What the text holds if it ends between values. -/
def finishBetween (s : ReaderState) : Document :=
  match s.mode with
  | .stopped document => document
  | .finished root => ⟨root, false⟩
  | _ => ⟨unwind .endOfText none s.frames, false⟩

/-- What the text holds if it ends where a value is under way or must start. -/
def finishInValue (fault : Fault) (frames : List Frame) : Document :=
  ⟨unwind fault (some (.cut fault)) frames, false⟩

/-- What the text holds if it ends here. -/
def finish (s : ReaderState) : Document :=
  match s.mode with
  | .value => finishInValue .endOfText s.frames
  | .word _ _ => finishInValue ⟨.endOfText, .endOfText, .malformed⟩ s.frames
  | .numeral phase n =>
    if phase.mayEnd then finishBetween (deliver n.complete s.frames)
    else finishInValue ⟨.endOfText, .malformed, .malformed⟩ s.frames
  | .string .value string => finishInValue (string.fault .value) s.frames
  | .string role string => ⟨unwind (string.fault role) none s.frames, false⟩
  | .nextName => ⟨unwind ⟨.endOfText, .endOfText, .malformed⟩ none s.frames, false⟩
  | .firstItem | .firstName | .colon | .after | .finished _ | .stopped _ => finishBetween s

end ReaderState

def Document.ofText (s : String) : Document :=
  (s.toList.foldl ReaderState.step .start).finish

end StorageLayout.Json
