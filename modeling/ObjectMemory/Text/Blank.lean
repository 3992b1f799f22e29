/-!
# Blanks

The characters with the Unicode property White_Space, and cutting them off the ends of a text.
Index arguments and settings are read without the blanks around them, and the output of the
external program loses those at its end.

* `isBlank` — the property, all 25 characters of it;
* `trim`, `trimEnd` — a text without the blanks at both ends, or at its end.
-/

namespace ObjectMemory.Text

/-- Whether a character has the property White_Space.  `Char.isWhitespace` knows four of these
characters. -/
def isBlank (c : Char) : Bool :=
  let n := c.toNat
  (0x9 ≤ n && n ≤ 0xD) || n = 0x20 || n = 0x85 || n = 0xA0 || n = 0x1680 ||
    (0x2000 ≤ n && n ≤ 0x200A) || n = 0x2028 || n = 0x2029 || n = 0x202F || n = 0x205F ||
    n = 0x3000

/-- Characters without the blanks they end in. -/
def dropBlankEnd (cs : List Char) : List Char := (cs.reverse.dropWhile isBlank).reverse

/-- A text without the blanks it ends in. -/
def trimEnd (text : String) : String := .ofList (dropBlankEnd text.toList)

/-- A text without the blanks it starts and ends in. -/
def trim (text : String) : String := .ofList (dropBlankEnd (text.toList.dropWhile isBlank))

end ObjectMemory.Text
