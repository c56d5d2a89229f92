/-!
# The words of a command line

An argument that begins with two dashes is a long option, whose value may follow an equals sign. One
that begins with a single dash holds the letters of short options. Two dashes alone are a divider,
and a single dash alone is an ordinary word.
-/
namespace StorageLayout.CommandLine

/-- What an argument looks like. -/
inductive Word where
  /-- Two dashes: what follows is not looked at for options. -/
  | divider
  /-- A long option, with the value behind its equals sign. -/
  | long (name : String) (value : Option String)
  /-- The letters behind a single dash. -/
  | short (letters : List Char)
  /-- Anything else. -/
  | plain (text : String)
  deriving DecidableEq, Repr

namespace Word

/-- A long option, from what follows its dashes. -/
def ofLong (cs : List Char) : Word :=
  let name := String.ofList (cs.takeWhile (· ≠ '='))
  match cs.dropWhile (· ≠ '=') with
  | [] => long name none
  | _ :: value => long name (some (String.ofList value))

def ofText (s : String) : Word :=
  match s.toList with
  | ['-', '-'] => divider
  | '-' :: '-' :: cs => ofLong cs
  | '-' :: c :: cs => short (c :: cs)
  | _ => plain s

example : ofText "--out-dir=a=b" = long "out-dir" (some "a=b") := by decide +kernel
example : ofText "-ov" = short ['o', 'v'] := by decide +kernel
example : ofText "-" = plain "-" := by decide +kernel

end Word
end StorageLayout.CommandLine
