/-!
# The lines of a text

A line ends at a line feed, and a carriage return directly before the line feed belongs to the
line's end. What follows the last line feed is a line of its own unless it is empty. A carriage
return anywhere else is an ordinary character.
-/
namespace StorageLayout.Text

/-- A line without the carriage return that precedes its line feed. -/
def dropCarriageReturn (reversedLine : List Char) : List Char :=
  match reversedLine with
  | '\r' :: rest => rest.reverse
  | line => line.reverse

/-- The lines of a character list; the line under way is held in reverse. -/
def splitLines : List Char → List Char → List (List Char)
  | [], [] => []
  | line@(_ :: _), [] => [line.reverse]
  | line, '\n' :: cs => dropCarriageReturn line :: splitLines [] cs
  | line, c :: cs => splitLines (c :: line) cs

def lines (s : String) : List String :=
  (splitLines [] s.toList).map String.ofList

example : lines "a\nb\r\nc\rd\n" = ["a", "b", "c\rd"] := by decide +kernel
example : lines "" = [] := by decide +kernel
example : lines "\n\r\n" = ["", ""] := by decide +kernel
example : lines "a\r" = ["a\r"] := by decide +kernel

end StorageLayout.Text
