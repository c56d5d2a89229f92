import StorageLayout.Text.Unprintable

/-!
# Quoted texts in messages

A message shows a text that came from outside between double quotes. The quote, the backslash, the
tab, the line ends and the null character have short forms; a character that would not be visible
on its own is written by its number in hexadecimal, without leading zeros.
-/
namespace StorageLayout.Text

/-- The hexadecimal digits of a number, without leading zeros. -/
def hexadecimal (n : Nat) : List Char := Nat.toDigits 16 n

/-- How a quoted text shows one character. -/
def shown (c : Char) : List Char :=
  match c with
  | '"' => ['\\', '"']
  | '\\' => ['\\', '\\']
  | '\t' => ['\\', 't']
  | '\r' => ['\\', 'r']
  | '\n' => ['\\', 'n']
  | '\x00' => ['\\', '0']
  | c =>
    if c.toNat < 0x20 ∨ (0x7f ≤ c.toNat ∧ unprintable.contains c) then
      ['\\', 'u', '\x7b'] ++ hexadecimal c.toNat ++ ['\x7d']
    else [c]

/-- A text between double quotes, with invisible characters written by number. -/
def quoted (s : String) : String :=
  "\"" ++ String.ofList (s.toList.flatMap shown) ++ "\""

end StorageLayout.Text
