import SpaceBooking.Text.Visible

/-!
# Quoted text

`quoted s` shows a text between double quotes so that every character can be told from every other:
quotes and backslashes take a backslash, the common controls have short names, and any other
character that does not show as itself is written by its code point in hexadecimal.
-/

namespace SpaceBooking.Text

/-- A character as it stands between quotes. -/
def quotedChar (c : Char) : List Char :=
  match c with
  | '"' => ['\\', '"']
  | '\\' => ['\\', '\\']
  | '\n' => ['\\', 'n']
  | '\r' => ['\\', 'r']
  | '\t' => ['\\', 't']
  | '\x00' => ['\\', '0']
  | c =>
    if isVisible c then [c]
    else ['\\', 'u', '\x7b'] ++ Nat.toDigits 16 c.toNat ++ ['\x7d']

/-- A text between double quotes. -/
def quoted (s : String) : String :=
  String.ofList ('"' :: s.toList.flatMap quotedChar ++ ['"'])

end SpaceBooking.Text
