/-!
Blank characters.

Two sets are in use.  `isBlank` is what may stand in front of the number in a cell; `isSpace` is
what a text that is converted as a whole may be padded with, the characters that Unicode calls white
space.  They differ by the four information separators U+001C to U+001F alone.
-/

namespace Spreadsheet.Text

/-- White space: the tabulators and line ends, the ordinary space, the next-line and no-break
characters, and the spaces and separators of general punctuation and the scripts. -/
def isSpace (c : Char) : Bool :=
  let n := c.toNat
  (0x09 ≤ n && n ≤ 0x0D) || n == 0x20 || n == 0x85 || n == 0xA0 || n == 0x1680
    || (0x2000 ≤ n && n ≤ 0x200A) || n == 0x2028 || n == 0x2029 || n == 0x202F || n == 0x205F
    || n == 0x3000

/-- One of the four information separators. -/
def isSeparator (c : Char) : Bool :=
  0x1C ≤ c.toNat && c.toNat ≤ 0x1F

/-- White space or an information separator. -/
def isBlank (c : Char) : Bool :=
  isSpace c || isSeparator c

/-- The text without the characters of the class at its two ends. -/
def trim (p : Char → Bool) (cs : List Char) : List Char :=
  ((cs.dropWhile p).reverse.dropWhile p).reverse

end Spreadsheet.Text
