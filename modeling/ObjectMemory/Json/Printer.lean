import ObjectMemory.Decimal.Shortest
import ObjectMemory.Json.Value

/-!
# Printing JSON

The compact text of a value: no blanks, members in the order in which the value lists them, every
character as itself but for the quote, the backslash and the controls below U+0020.  An integer is
its decimal digits.  A double is its shortest digits, in place where its first digit stands for a
power of ten from -5 to 15, always with a fraction or an exponent, so that it reads back as a
double.

* `numberLayout` — where positional notation ends;
* `Number.chars`, `escapeChar`, `stringChars`, `Value.chars` — the text as characters;
* `Value.encode`, `Object.encode`, `Number.encode` — the same as a text.
-/

namespace ObjectMemory.Json

open Decimal

/-! ## Numbers and strings -/

/-- A double is written in place from one hundred-thousandth up to sixteen whole digits. -/
def numberLayout : Layout := ⟨-5, 15⟩

def integerChars (n : Int) : List Char :=
  if n < 0 then '-' :: Nat.toDigits 10 n.natAbs else Nat.toDigits 10 n.natAbs

def floatChars (x : Binary64) : List Char :=
  let digits := (numberLayout.write x.shortest).toList
  if x.negative then '-' :: digits else digits

def Number.chars : Number → List Char
  | .integer n _ => integerChars n
  | .float x => floatChars x

def Number.encode (n : Number) : String := .ofList n.chars

/-- A lower-case digit of base 16. -/
def hexDigit (n : Nat) : Char := Nat.digitChar (n % 16)

def escapeChar (c : Char) : List Char :=
  match c with
  | '"' => ['\\', '"']
  | '\\' => ['\\', '\\']
  | '\x08' => ['\\', 'b']
  | '\x0c' => ['\\', 'f']
  | '\n' => ['\\', 'n']
  | '\r' => ['\\', 'r']
  | '\t' => ['\\', 't']
  | c =>
    if c.toNat < 0x20 then ['\\', 'u', '0', '0', hexDigit (c.toNat / 16), hexDigit c.toNat]
    else [c]

def stringChars (text : String) : List Char :=
  '"' :: text.toList.flatMap escapeChar ++ ['"']

/-! ## Values -/

mutual

def Value.chars : Value → List Char
  | .null => ['n', 'u', 'l', 'l']
  | .bool true => ['t', 'r', 'u', 'e']
  | .bool false => ['f', 'a', 'l', 's', 'e']
  | .num n => n.chars
  | .str text => stringChars text
  | .arr [] => ['[', ']']
  | .arr (x :: xs) => '[' :: x.chars ++ itemsEnd xs
  | .obj [] => ['\x7b', '\x7d']
  | .obj ((k, x) :: xs) => '\x7b' :: stringChars k ++ ':' :: x.chars ++ membersEnd xs

/-- The characters of the items that follow the first, to the end of the array. -/
def itemsEnd : List Value → List Char
  | [] => [']']
  | x :: xs => ',' :: x.chars ++ itemsEnd xs

/-- The characters of the members that follow the first, to the end of the object. -/
def membersEnd : List (String × Value) → List Char
  | [] => ['\x7d']
  | (k, x) :: xs => ',' :: stringChars k ++ ':' :: x.chars ++ membersEnd xs

end

def Value.encode (value : Value) : String := .ofList value.chars

def Object.encode (object : Object) : String := (Value.ofObject object).encode

end ObjectMemory.Json
