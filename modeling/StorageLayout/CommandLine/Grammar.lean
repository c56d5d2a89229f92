import StorageLayout.CommandLine.Word

/-!
# Options and operands of a command

A command takes options in any order and operands in their own order. An option is given at most
once; its value follows its name, behind an equals sign or as the next argument, or follows its
letter directly. The next argument is a value only if it does not look like an option. Arguments are
read from left to right, and the first that does not fit ends the reading.
-/
namespace StorageLayout.CommandLine

/-- Why the reading of a command line ends without a command. -/
inductive Stop where
  /-- The command line is not understood. -/
  | misuse
  /-- Help is asked for. -/
  | help
  /-- The version is asked for. -/
  | version
  deriving DecidableEq, Repr

structure OptionForm where
  name : String
  letter : Char
  /-- Which values are accepted; a flag has no value. -/
  accepts : Option (String → Bool)

/-- The options and operands that a command takes. -/
structure Grammar where
  options : List OptionForm
  /-- Which texts are accepted in each place. -/
  operands : List (String → Bool)

/-- How far the reading of a command's arguments has come. -/
structure Reading where
  /-- The names of the options given so far with their values; flags have none. -/
  options : List (String × Option String) := []
  /-- The operands so far, in order. -/
  operands : List String := []
  /-- The option whose value must come next. -/
  awaiting : Option OptionForm := none
  /-- Whether the divider has been passed. -/
  verbatim : Bool := false

namespace Reading

def has (r : Reading) (name : String) : Bool := r.options.any (·.1 = name)

def value? (r : Reading) (name : String) : Option String := (r.options.lookup name).join

/-- Takes an option with a value that it accepts, or a flag. -/
def give (r : Reading) (o : OptionForm) (value : Option String) : Except Stop Reading :=
  let accepted :=
    match o.accepts, value with
    | none, none => true
    | some accepts, some v => accepts v
    | _, _ => false
  if r.has o.name || !accepted then .error .misuse
  else .ok { r with options := r.options ++ [(o.name, value)], awaiting := none }

end Reading

namespace Grammar

/-- Takes an operand. -/
def operand (g : Grammar) (r : Reading) (text : String) : Except Stop Reading :=
  match g.operands[r.operands.length]? with
  | none => .error .misuse
  | some accepts =>
    if accepts text then .ok { r with operands := r.operands ++ [text] } else .error .misuse

/-- Takes the letters of short options. What follows the letter of an option with a value is the
value; if nothing follows, the value must come next. -/
def letters (g : Grammar) : List Char → Reading → Except Stop Reading
  | [], r => .ok r
  | c :: rest, r =>
    if c = 'h' then .error .help
    else
      match g.options.find? (·.letter = c) with
      | none => .error .misuse
      | some o =>
        if o.accepts.isNone then do
          let r ← r.give o none
          g.letters rest r
        else
          match rest with
          | [] => .ok { r with awaiting := some o }
          | '=' :: value => r.give o (some (String.ofList value))
          | value => r.give o (some (String.ofList value))

def long (g : Grammar) (r : Reading) (name : String) (value : Option String) :
    Except Stop Reading :=
  match g.options.find? (·.name = name), value with
  | some o, some v => r.give o (some v)
  | some o, none => if o.accepts.isNone then r.give o none else .ok { r with awaiting := some o }
  | none, none => .error (if name = "help" then .help else .misuse)
  | none, some _ => .error .misuse

def step (g : Grammar) (r : Reading) (argument : String) : Except Stop Reading :=
  match r.awaiting, r.verbatim, Word.ofText argument with
  | some o, _, .plain value => r.give o (some value)
  | some _, _, _ => .error .misuse
  | none, true, _ => g.operand r argument
  | none, false, .divider => .ok { r with verbatim := true }
  | none, false, .long name value => g.long r name value
  | none, false, .short cs => g.letters cs r
  | none, false, .plain text => g.operand r text

def read (g : Grammar) (arguments : List String) : Except Stop Reading := do
  let r ← arguments.foldlM g.step {}
  if r.awaiting.isSome then .error .misuse else .ok r

end Grammar
end StorageLayout.CommandLine
