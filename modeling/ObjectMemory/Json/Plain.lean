import ObjectMemory.Text.Blank
import ObjectMemory.Json.Reader

/-!
# Values as plain text and as indices

What a message answers is text, and what it takes as an index may be a number or a text.

* `Value.render`, `render?` — the plain text of a value, and of a value that may be missing;
* `Value.index?` — the index that a value is.
-/

namespace ObjectMemory.Json

/-- The plain text of a value: a string is its own text, null is empty, and anything else is its
JSON text. -/
def Value.render : Value → String
  | .null => ""
  | .str text => text
  | value => value.encode

/-- The plain text of a value that may be missing: empty when it is. -/
def render? : Option Value → String
  | some value => value.render
  | none => ""

/-- The signed 64-bit number nearest to a whole number. -/
def clamp (n : Int) : Int64 :=
  Int64.ofInt (max (-0x8000000000000000) (min n 0x7fffffffffffffff))

/-- The index that a value is: a whole number, also one written as a double, or a text that is one
between blanks.  A number past the signed 64-bit range counts as the end of the range; a text past
it is no index. -/
def Value.index? : Value → Option Int64
  | .num (.integer n _) => some (clamp n)
  | .num (.float x) => if x.isIntegral then some (clamp x.truncate) else none
  | .str text => Text.readSigned (Text.trim text).toList
  | _ => none

end ObjectMemory.Json
