/-!
# Blank characters

`isBlank` is the white space of the Unicode standard. `trim` removes it from both ends of a text and
leaves what is between alone.
-/

namespace SpaceBooking.Text

/-- White space: tab to carriage return, the space, and the spaces and separators of other
scripts. -/
def isBlank (c : Char) : Bool :=
  let n := c.toNat
  (9 ≤ n && n ≤ 13) || n == 0x20 || n == 0x85 || n == 0xa0 || n == 0x1680 ||
    (0x2000 ≤ n && n ≤ 0x200a) || n == 0x2028 || n == 0x2029 || n == 0x202f || n == 0x205f ||
    n == 0x3000

/-- Removes blank characters from both ends of a list of characters. -/
def trimChars (cs : List Char) : List Char :=
  ((cs.dropWhile isBlank).reverse.dropWhile isBlank).reverse

/-- Removes blank characters from both ends of a text. -/
def trim (s : String) : String := String.ofList (trimChars s.toList)

/-- Whether a text holds blank characters only, or none at all. -/
def blank (s : String) : Bool := s.toList.all isBlank

end SpaceBooking.Text
