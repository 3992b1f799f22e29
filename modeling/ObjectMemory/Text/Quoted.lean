import ObjectMemory.Text.LowerCase
import ObjectMemory.Text.PrintableTable

/-!
# Quoted text

The spelling of a text inside an error message: between double quotes, with what a reader could not
see or could mistake written as an escape.  A quote, a backslash, a tab, a line end and the null
character have short escapes; an invisible character, or one that is drawn on its neighbour, is
written as its code point in braces.

* `isVisible` — whether a character is shown as it is;
* `quoteChar`, `quoted` — the spelling of a character and of a text.
-/

namespace ObjectMemory.Text

/-- Whether a character is shown as it is: neither invisible nor an extension of its neighbour. -/
def isVisible (c : Char) : Bool :=
  !(inRanges invisibleRanges c.toNat || inRanges fillerRanges c.toNat ||
    inRanges extendingMarkRanges c.toNat)

/-- The digits of a number in base 16, lower case, without leading zeros. -/
def hexDigits (n : Nat) : List Char := Nat.toDigits 16 n

/-- The spelling of a character between quotes. -/
def quoteChar (c : Char) : List Char :=
  match c with
  | '"' => ['\\', '"']
  | '\\' => ['\\', '\\']
  | '\n' => ['\\', 'n']
  | '\t' => ['\\', 't']
  | '\r' => ['\\', 'r']
  | '\x00' => ['\\', '0']
  | c => if isVisible c then [c] else ['\\', 'u', '\x7b'] ++ hexDigits c.toNat ++ ['\x7d']

/-- The spelling of a text between quotes, quotes included. -/
def quoted (text : String) : String :=
  .ofList ('"' :: text.toList.flatMap quoteChar ++ ['"'])

end ObjectMemory.Text
