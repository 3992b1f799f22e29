import ObjectMemory.Json.Reader

/-!
# Documents with their spelling

A JSON document of which only the blanks are forgotten: members keep their order and their repeats,
numbers and strings keep the characters they are written with.  A database that stores documents in
this form gives back what it was given, only without blanks, and looks into it without making values
of it.

Strings are looked at no closer than their escapes.  So half a surrogate pair is accepted here, but
such a string is no text.  A null character ends what is read of a document, and what is looked at
of the name of a member.

* `Spelled` — the documents; `Spelled.encode` — the text without blanks;
* `Spelled.decode?` — the document of a text, with brackets at most so deep;
* `unescape?` — the text that the inside of a string stands for;
* `Spelled.member?` — the first member of a name.
-/

namespace ObjectMemory.Json

/-- A document without its blanks. -/
inductive Spelled where
  | null
  | bool (b : Bool)
  /-- A number, as it is written. -/
  | num (spelling : List Char)
  /-- A string, as it is written between its quotes. -/
  | str (inside : List Char)
  | arr (items : List Spelled)
  | obj (members : List (List Char × Spelled))
  deriving Inhabited

/-! ## Writing -/

/-- The inside of a string between quotes. -/
def quoteInside (inside : List Char) : List Char := '"' :: inside ++ ['"']

mutual

def Spelled.chars : Spelled → List Char
  | .null => ['n', 'u', 'l', 'l']
  | .bool true => ['t', 'r', 'u', 'e']
  | .bool false => ['f', 'a', 'l', 's', 'e']
  | .num spelling => spelling
  | .str inside => quoteInside inside
  | .arr [] => ['[', ']']
  | .arr (x :: xs) => '[' :: x.chars ++ spelledItemsEnd xs
  | .obj [] => ['\x7b', '\x7d']
  | .obj ((k, x) :: xs) => '\x7b' :: quoteInside k ++ ':' :: x.chars ++ spelledMembersEnd xs

/-- The characters of the items that follow the first, to the end of the array. -/
def spelledItemsEnd : List Spelled → List Char
  | [] => [']']
  | x :: xs => ',' :: x.chars ++ spelledItemsEnd xs

/-- The characters of the members that follow the first, to the end of the object. -/
def spelledMembersEnd : List (List Char × Spelled) → List Char
  | [] => ['\x7d']
  | (k, x) :: xs => ',' :: quoteInside k ++ ':' :: x.chars ++ spelledMembersEnd xs

end

def Spelled.encode (document : Spelled) : String := .ofList document.chars

/-! ## Reading -/

/-- How many characters an escape has behind its backslash, if it is one. -/
def escapeLength? : List Char → Option Nat
  | 'u' :: a :: b :: c :: d :: _ => (hexUnit? a b c d).map fun _ => 5
  | c :: _ => if c ∈ ['"', '\\', '/', 'b', 'f', 'n', 'r', 't'] then some 1 else none
  | [] => none

/-- Takes the inside of a string up to its closing quote.  The first `passed` characters of the text
belong to an escape that was looked at already. -/
def readInside (passed : Nat) : Reader (List Char)
  | [] => .error (.taken .endInString [])
  | c :: rest =>
    let keep (passed : Nat) : Except Fault (Front (List Char)) := do
      let (inside, after) ← readInside passed rest
      return (c :: inside, after)
    match passed with
    | passed + 1 => keep passed
    | 0 =>
      if c = '"' then .ok ([], rest)
      else if c = '\\' then
        match escapeLength? rest with
        | some length => keep length
        | none => .error (.ahead .badEscape rest)
      else if c.toNat < 0x20 then .error (.taken .controlCharacter rest)
      else keep 0

/-- Takes a number as it is written, behind its sign. -/
def readSpelling (negative : Bool) (text : List Char) : Except Fault (Front Spelled) := do
  let (_, rest) ← readNumeral negative text
  let digits := text.take (text.length - rest.length)
  return (.num (if negative then '-' :: digits else digits), rest)

/-- Documents keep the spelling of their parts. -/
def spelledBuilder : Builder (List Char) Spelled where
  string := readInside 0
  number := readSpelling
  null := .null
  bool := .bool
  text := .str
  array := .arr
  object := .obj

/-- The document of a text that is one document and blanks, up to its first null character if it has
one, with at most `depth` arrays and objects inside each other. -/
def Spelled.decode? (depth : Nat) (text : String) : Option Spelled :=
  (readNested spelledBuilder depth (text.toList.takeWhile (· != '\x00')) >>= complete).toOption

/-! ## Looking into a document -/

/-- The text that the inside of a string stands for.  Half a surrogate pair stands for none. -/
def unescape? (inside : List Char) : Option String :=
  match readString (inside ++ ['"']) with
  | .ok (text, []) => some text
  | _ => none

/-- The inside of a string up to its first escaped null character. -/
def untilNull : List Char → List Char
  | '\\' :: 'u' :: '0' :: '0' :: '0' :: '0' :: _ => []
  | '\\' :: c :: rest => '\\' :: c :: untilNull rest
  | c :: rest => c :: untilNull rest
  | [] => []

/-- The first member of a name among members.  What a key says behind a null character does not
count. -/
def spelledMember? (name : String) : List (List Char × Spelled) → Option Spelled
  | [] => none
  | (key, value) :: rest =>
    if unescape? (untilNull key) = some name then some value else spelledMember? name rest

/-- The first member of a name of a document that is an object. -/
def Spelled.member? (document : Spelled) (name : String) : Option Spelled :=
  match document with
  | .obj members => spelledMember? name members
  | _ => none

end ObjectMemory.Json
