import ObjectMemory.Text.Quoted
import ObjectMemory.Text.Utf8
import ObjectMemory.Json.Printer

/-!
# What is wrong with a text

A text that is no JSON document is refused with one fault: the first in reading order, and where
it was met.  While reading, the place is told by how many bytes are still unread, which needs no
count kept along the way; at the end it becomes a line and a column (`Fault.locate`).

There are two ways to meet a fault.  Most are seen ahead, at a byte that is not taken, and they
point just past that byte (`Fault.ahead`).  The others are known only from what was taken, and they
point at what follows it (`Fault.taken`).  Columns count bytes from 1 in the first case, so that
both ways give the number of bytes of the line up to the fault.

* `Cause`, `Cause.message` — what can be wrong;
* `Fault` — a cause and a place;
* `SyntaxError`, `SyntaxError.message` — the same in the coordinates of the text.
-/

namespace ObjectMemory.Json

/-- A value that stands where an object is due. -/
inductive Intruder where
  | array
  | null
  | bool (b : Bool)
  | num (n : Number)
  | str (text : String)
  deriving DecidableEq, Repr

def Intruder.describe : Intruder → String
  | .array => "sequence"
  | .null => "null"
  | .bool b => "boolean `" ++ (if b then "true" else "false") ++ "`"
  | .num (.integer n inRange) => "integer `" ++ (Number.integer n inRange).encode ++ "`"
  | .num (.float x) => "floating point `" ++ (Number.float x).encode ++ "`"
  | .str text => "string " ++ Text.quoted text

/-- What is wrong with a text. -/
inductive Cause where
  /-- The text ends where a value is due, or inside one. -/
  | endInValue
  | endInArray
  | endInObject
  | endInString
  /-- No value starts like this. -/
  | noValue
  /-- A word starts like `null`, `true` or `false` and goes on otherwise. -/
  | noWord
  /-- An item is followed by neither a comma nor the end of the array. -/
  | noItemEnd
  /-- A member is followed by neither a comma nor the end of the object. -/
  | noMemberEnd
  | noColon
  /-- A member does not start with a string. -/
  | noKey
  /-- A comma is followed by the end of the array or object. -/
  | trailingComma
  | trailingText
  /-- A bracket opens one level too many. -/
  | tooDeep
  | badNumber
  | numberTooLarge
  /-- A backslash is followed by no escape. -/
  | badEscape
  | controlCharacter
  /-- One half of a surrogate pair stands without the other. -/
  | loneSurrogate
  /-- The first half of a surrogate pair is not followed by an escape. -/
  | brokenPair
  /-- The text holds another kind of value where an object is due. -/
  | notAnObject (found : Intruder)
  deriving DecidableEq, Repr

def Cause.message : Cause → String
  | .endInValue => "EOF while parsing a value"
  | .endInArray => "EOF while parsing a list"
  | .endInObject => "EOF while parsing an object"
  | .endInString => "EOF while parsing a string"
  | .noValue => "expected value"
  | .noWord => "expected ident"
  | .noItemEnd => "expected `,` or `]`"
  | .noMemberEnd => "expected `,` or `\x7d`"
  | .noColon => "expected `:`"
  | .noKey => "key must be a string"
  | .trailingComma => "trailing comma"
  | .trailingText => "trailing characters"
  | .tooDeep => "recursion limit exceeded"
  | .badNumber => "invalid number"
  | .numberTooLarge => "number out of range"
  | .badEscape => "invalid escape"
  | .controlCharacter => "control character (\\u0000-\\u001F) found while parsing a string"
  | .loneSurrogate => "lone leading surrogate in hex escape"
  | .brokenPair => "unexpected end of hex escape"
  | .notAnObject found => "invalid type: " ++ found.describe ++ ", expected a map"

/-! ## Places -/

/-- A cause and its place, as the number of bytes from there to the end of the text. -/
structure Fault where
  cause : Cause
  unread : Nat
  deriving DecidableEq, Repr

namespace Fault

/-- A fault known from what was taken; `rest` is what was not. -/
def taken (cause : Cause) (rest : List Char) : Fault := ⟨cause, Text.byteLength rest⟩

/-- A fault seen at the next byte of `rest`, or at the end of the text.  A fault known from one
more byte that was taken is at the same place. -/
def ahead (cause : Cause) (rest : List Char) : Fault := ⟨cause, Text.byteLength rest - 1⟩

end Fault

/-- A fault in the coordinates of a text: lines count from 1, columns count the bytes of the line
before the fault. -/
structure SyntaxError where
  cause : Cause
  line : Nat
  column : Nat
  deriving DecidableEq, Repr

def SyntaxError.message (error : SyntaxError) : String :=
  error.cause.message ++ " at line " ++ toString error.line ++ " column " ++ toString error.column

/-- The line and column of the byte at `offset` in characters, the first of which is on line `line`
after `column` bytes. -/
def locateByte (offset line column : Nat) : List Char → Nat × Nat
  | [] => (line, column)
  | c :: rest =>
    if offset ≤ c.utf8Size then
      if c = '\n' ∧ offset = 1 then (line + 1, 0) else (line, column + offset)
    else if c = '\n' then locateByte (offset - 1) (line + 1) 0 rest
    else locateByte (offset - c.utf8Size) line (column + c.utf8Size) rest

/-- The fault in the coordinates of the text in which it was met. -/
def Fault.locate (fault : Fault) (text : List Char) : SyntaxError :=
  let (line, column) := locateByte (Text.byteLength text - fault.unread) 1 0 text
  ⟨fault.cause, line, column⟩

end ObjectMemory.Json
