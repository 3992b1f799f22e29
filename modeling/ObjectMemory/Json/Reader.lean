import ObjectMemory.Json.Grammar
import ObjectMemory.Json.Numeral

/-!
# Reading JSON

The value of a text, or the first fault in it.  At most 127 arrays and objects stand inside each
other.  The escapes of a string are undone, and have to make sense: a code unit that is half of a
surrogate pair needs the other half.  Of members with one key the last counts.

* `readChars`, `readString` — a string behind its opening quote;
* `readValue` — a value;
* **`decode`** — a text that is one value and blanks;
* **`decodeObject`** — the same for a text that has to be an object.
-/

namespace ObjectMemory.Json

/-! ## Strings -/

/-- The value of a digit of base 16, in either case. -/
def hexValue? (c : Char) : Option Nat :=
  if c.isDigit then some (c.toNat - '0'.toNat)
  else if 'a' ≤ c ∧ c ≤ 'f' then some (c.toNat - 'a'.toNat + 10)
  else if 'A' ≤ c ∧ c ≤ 'F' then some (c.toNat - 'A'.toNat + 10)
  else none

/-- The number that four digits of base 16 spell. -/
def hexUnit? (a b c d : Char) : Option Nat := do
  return (((← hexValue? a) * 16 + (← hexValue? b)) * 16 + (← hexValue? c)) * 16 + (← hexValue? d)

/-- Takes four digits of base 16.  Fewer than four bytes are the end of the text. -/
def readHex (text : List Char) : Except Fault (Front Nat) :=
  let bad : Except Fault (Front Nat) :=
    if Text.byteLength text < 4 then .error (.taken .endInString [])
    else .error ⟨.badEscape, Text.byteLength text - 4⟩
  match text with
  | a :: b :: c :: d :: rest =>
    match hexUnit? a b c d with
    | some n => .ok (n, rest)
    | none => bad
  | _ => bad

/-- Takes `expected`, which has to follow the first half of a surrogate pair. -/
def readPairLink (expected : Char) : Reader Unit
  | [] => .error (.taken .endInString [])
  | c :: rest => if c = expected then .ok ((), rest) else .error (.ahead .brokenPair (c :: rest))

/-- Takes the rest of an escape by code unit, behind its `u`: one unit that is a character, or the
two units of a surrogate pair with the second escape's backslash and `u` between them. -/
def readUnitEscape (text : List Char) : Except Fault (Front Char) := do
  let (high, text) ← readHex text
  if 0xDC00 ≤ high ∧ high < 0xE000 then throw (.taken .loneSurrogate text)
  if 0xD800 ≤ high ∧ high < 0xDC00 then
    let ((), text) ← readPairLink '\\' text
    let ((), text) ← readPairLink 'u' text
    let (low, text) ← readHex text
    if 0xDC00 ≤ low ∧ low < 0xE000 then
      return (.ofNat (0x10000 + (high - 0xD800) * 0x400 + (low - 0xDC00)), text)
    else throw (.taken .loneSurrogate text)
  else return (.ofNat high, text)

/-- Takes the rest of an escape, behind its backslash. -/
def readEscape : Reader Char
  | [] => .error (.taken .endInString [])
  | c :: rest =>
    match c with
    | '"' => .ok ('"', rest)
    | '\\' => .ok ('\\', rest)
    | '/' => .ok ('/', rest)
    | 'b' => .ok ('\x08', rest)
    | 'f' => .ok ('\x0c', rest)
    | 'n' => .ok ('\n', rest)
    | 'r' => .ok ('\r', rest)
    | 't' => .ok ('\t', rest)
    | 'u' => readUnitEscape rest
    | _ => .error (.ahead .badEscape (c :: rest))

/-- Takes the characters of a string up to its closing quote.  The first `passed` characters of the
text belong to an escape that was read ahead. -/
def readChars (passed : Nat) : Reader (List Char)
  | [] => .error (.taken .endInString [])
  | c :: rest =>
    match passed with
    | passed + 1 => readChars passed rest
    | 0 =>
      if c = '"' then .ok ([], rest)
      else if c = '\\' then do
        let (escaped, after) ← readEscape rest
        let (chars, final) ← readChars (rest.length - after.length) rest
        return (escaped :: chars, final)
      else if c.toNat < 0x20 then .error (.taken .controlCharacter rest)
      else do
        let (chars, final) ← readChars 0 rest
        return (c :: chars, final)

/-- Takes a string, behind its opening quote. -/
def readString (text : List Char) : Except Fault (Front String) := do
  let (chars, rest) ← readChars 0 text
  return (.ofList chars, rest)

/-! ## Values -/

def readNumberValue (negative : Bool) (text : List Char) : Except Fault (Front Value) := do
  let (n, rest) ← readNumber negative text
  return (.num n, rest)

/-- Values are made of their parts; of members with one key the last counts. -/
def valueBuilder : Builder String Value where
  string := readString
  number := readNumberValue
  null := .null
  bool := .bool
  text := .str
  array := .arr
  object members := .ofObject (.ofList members)

/-- How many arrays and objects of a document may stand inside each other. -/
def depthLimit : Nat := 127

def readValue : Reader Value := readNested valueBuilder depthLimit

/-- The value of a text that is one value and blanks. -/
def decode (text : String) : Except SyntaxError Value :=
  (readValue text.toList >>= complete).mapError (·.locate text.toList)

/-! ## Documents that have to be objects -/

/-- The fault of another value where an object is due.  What is wrong inside that value comes first;
an array is seen at its bracket, and what follows any of them is not looked at. -/
def intruder (text : List Char) : Fault :=
  match text with
  | '[' :: _ => .taken (.notAnObject .array) text
  | _ =>
    match readWith valueBuilder none text with
    | .error fault => fault
    | .ok (value, rest) =>
      let found := match value with
        | .bool b => .bool b
        | .num n => .num n
        | .str text => .str text
        | _ => .null
      .taken (.notAnObject found) rest

/-- Takes the object that starts the text. -/
def readDocument (text : List Char) : Except Fault (Front Object) :=
  match skipBlanks text with
  | '\x7b' :: rest => do
    let (members, rest) ← readObject readString (readNested valueBuilder (depthLimit - 1)) rest
    return (.ofList members, rest)
  | other => .error (intruder other)

/-- The object of a text that is one object and blanks. -/
def decodeObject (text : String) : Except SyntaxError Object :=
  (readDocument text.toList >>= complete).mapError (·.locate text.toList)

end ObjectMemory.Json
