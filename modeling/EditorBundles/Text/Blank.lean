/-!
# Blank characters

Blanks are the characters that separate words: the ASCII blanks, the next-line control and the
spaces and separators of the other scripts. Marks without width, such as U+200B, are none.
-/

namespace EditorBundles.Text
set_option autoImplicit false

/-- Is the character a blank of any script? -/
def isBlank (c : Char) : Bool :=
  let n := c.toNat
  (9 ≤ n && n ≤ 13) || n == 0x20 || n == 0x85 || n == 0xA0 || n == 0x1680 || (0x2000 ≤ n && n ≤ 0x200A)
    || n == 0x2028 || n == 0x2029 || n == 0x202F || n == 0x205F || n == 0x3000

/-- Is the character one of the five blanks of ASCII text: space, tab, line feed, form feed and
carriage return? -/
def isAsciiBlank (c : Char) : Bool :=
  c = ' ' || c = '\t' || c = '\n' || c = '\x0c' || c = '\r'

/-- The text between its leading and its trailing blanks. -/
def trim (cs : List Char) : List Char := ((cs.dropWhile isBlank).reverse.dropWhile isBlank).reverse

end EditorBundles.Text
