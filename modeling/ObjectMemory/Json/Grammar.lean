import ObjectMemory.Json.Fault

/-!
# The grammar of JSON

How the parts of a document stand together, whatever is made of them.  Blanks are the space, the tab
and the two line ends, and they may stand around every part; arrays and objects open, separate and
close as their brackets, commas and colons say; no comma is left over.  What strings and numbers are
and what becomes of each part is the business of a `Builder`, so that a document can be read as a
value or with its spelling by the same rules.

Reading goes over the characters once, from left to right, and each reader takes what it knows off
the front.  The depth that is left is what the recursion runs on: the opening bracket of one level
too many is where it ends.

* `Reader`, `Builder` — what takes something off a text, and what is made of the parts;
* `readItems`, `readMembers` — the inside of an array or object;
* `readWith`, `readNested` — a document with so many levels of brackets;
* `complete` — nothing but blanks behind it.
-/

namespace ObjectMemory.Json

/-- Something taken off the front of a text, with the rest of the text. -/
abbrev Front (α : Type) := α × List Char

/-- What takes something off the front of a text, or says why it cannot. -/
abbrev Reader (α : Type) := List Char → Except Fault (Front α)

/-- What is made of the parts of a document: of its strings a `κ`, of its values an `α`. -/
structure Builder (κ α : Type) where
  /-- Takes a string, behind its opening quote. -/
  string : Reader κ
  /-- Takes a number, behind its sign. -/
  number : (negative : Bool) → Reader α
  null : α
  bool : Bool → α
  text : κ → α
  array : List α → α
  object : List (κ × α) → α

/-! ## Blanks and words -/

/-- Whether a character may stand between the parts of a document. -/
def isBlank (c : Char) : Bool := c = ' ' || c = '\n' || c = '\t' || c = '\r'

/-- A text from its first character that is no blank. -/
def skipBlanks (text : List Char) : List Char := text.dropWhile isBlank

/-- Takes the characters of `word`, of which the first was taken already. -/
def readWord {α : Type} (meaning : α) : (word : List Char) → Reader α
  | [], rest => .ok (meaning, rest)
  | _ :: _, [] => .error (.taken .endInValue [])
  | w :: word, c :: rest =>
    if c = w then readWord meaning word rest else .error (.ahead .noWord (c :: rest))

/-! ## Arrays and objects -/

/-- Takes the items of an array from one of them to the closing bracket.  An item is never empty, so
as many steps as there are characters suffice. -/
def readItems {α : Type} (item : Reader α) : (steps : Nat) → Reader (List α)
  | 0, text => .error (.taken .endInValue text)
  | steps + 1, text => do
    let (value, text) ← item text
    match skipBlanks text with
    | [] => throw (.ahead .endInArray [])
    | ']' :: rest => return ([value], rest)
    | ',' :: rest =>
      match skipBlanks rest with
      | [] => throw (.ahead .endInValue [])
      | ']' :: rest => throw (.ahead .trailingComma (']' :: rest))
      | next => do
        let (values, rest) ← readItems item steps next
        return (value :: values, rest)
    | other => throw (.ahead .noItemEnd other)

/-- Takes the items of an array, behind its opening bracket. -/
def readArray {α : Type} (item : Reader α) (text : List Char) :
    Except Fault (Front (List α)) :=
  match skipBlanks text with
  | [] => .error (.ahead .endInArray [])
  | ']' :: rest => .ok ([], rest)
  | start => readItems item start.length start

/-- Takes the colon of a member and the value behind it. -/
def readMemberValue {α : Type} (item : Reader α) (text : List Char) : Except Fault (Front α) :=
  match skipBlanks text with
  | [] => .error (.ahead .endInObject [])
  | ':' :: rest => item rest
  | other => .error (.ahead .noColon other)

/-- Takes the members of an object from behind the quote of a key to the closing bracket. -/
def readMembers {κ α : Type} (key : Reader κ) (item : Reader α) :
    (steps : Nat) → Reader (List (κ × α))
  | 0, text => .error (.taken .endInValue text)
  | steps + 1, text => do
    let (name, text) ← key text
    let (value, text) ← readMemberValue item text
    match skipBlanks text with
    | [] => throw (.ahead .endInObject [])
    | '\x7d' :: rest => return ([(name, value)], rest)
    | ',' :: rest =>
      match skipBlanks rest with
      | [] => throw (.ahead .endInValue [])
      | '"' :: next => do
        let (members, rest) ← readMembers key item steps next
        return ((name, value) :: members, rest)
      | '\x7d' :: rest => throw (.ahead .trailingComma ('\x7d' :: rest))
      | other => throw (.ahead .noKey other)
    | other => throw (.ahead .noMemberEnd other)

/-- Takes the members of an object, behind its opening bracket. -/
def readObject {κ α : Type} (key : Reader κ) (item : Reader α) (text : List Char) :
    Except Fault (Front (List (κ × α))) :=
  match skipBlanks text with
  | [] => .error (.ahead .endInObject [])
  | '\x7d' :: rest => .ok ([], rest)
  | '"' :: start => readMembers key item (start.length + 1) start
  | other => .error (.ahead .noKey other)

/-! ## Documents -/

/-- Takes a value.  `item` takes the values inside it; without one, no bracket may open. -/
def readWith {κ α : Type} (builder : Builder κ α) (item : Option (Reader α))
    (text : List Char) : Except Fault (Front α) :=
  match skipBlanks text with
  | [] => .error (.ahead .endInValue [])
  | 'n' :: rest => readWord builder.null ['u', 'l', 'l'] rest
  | 't' :: rest => readWord (builder.bool true) ['r', 'u', 'e'] rest
  | 'f' :: rest => readWord (builder.bool false) ['a', 'l', 's', 'e'] rest
  | '"' :: rest => do
    let (text, rest) ← builder.string rest
    return (builder.text text, rest)
  | '[' :: rest =>
    match item with
    | none => .error (.ahead .tooDeep ('[' :: rest))
    | some item => do
      let (items, rest) ← readArray item rest
      return (builder.array items, rest)
  | '\x7b' :: rest =>
    match item with
    | none => .error (.ahead .tooDeep ('\x7b' :: rest))
    | some item => do
      let (members, rest) ← readObject builder.string item rest
      return (builder.object members, rest)
  | '-' :: rest => builder.number true rest
  | c :: rest =>
    if c.isDigit then builder.number false (c :: rest)
    else .error (.ahead .noValue (c :: rest))

/-- Takes a value with at most `depth` arrays and objects inside each other. -/
def readNested {κ α : Type} (builder : Builder κ α) : (depth : Nat) → Reader α
  | 0 => readWith builder none
  | depth + 1 => readWith builder (some (readNested builder depth))

/-- What was read, if only blanks follow it. -/
def complete {α : Type} : Front α → Except Fault α
  | (result, text) =>
    match skipBlanks text with
    | [] => .ok result
    | other => .error (.ahead .trailingText other)

end ObjectMemory.Json
