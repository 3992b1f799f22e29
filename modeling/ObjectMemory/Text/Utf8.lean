/-!
# Text from bytes

What an external program prints is a sequence of bytes, and it need not be UTF-8.  `ofBytes` reads
it all the same: each longest piece that starts a character and breaks off stands for one
replacement character, and so does each byte that can start none.

The decoder is a machine over the bytes.  Between characters a byte is a character, or opens one, or
is out of place; inside a character the next byte has to lie in a range that the bytes before it
fix, so that no overlong form, no surrogate and nothing above U+10FFFF is read.

* `Unfinished` — a character of which some bytes are still to come;
* `Opening` — what a byte between characters is;
* `decodeBytes` — the characters of the bytes;
* `ofBytes` — the same as a text;
* `byteLength` — how many bytes characters take.
-/

namespace ObjectMemory.Text

/-- Stands for bytes that are no character: U+FFFD. -/
def replacement : Char := '\ufffd'

/-- A character of which some bytes are still to come. -/
structure Unfinished where
  /-- The number that the bytes so far spell. -/
  value : Nat
  /-- How many bytes are to come, less one. -/
  owed : Nat
  /-- The least value that the next byte may have. -/
  low : Nat := 0x80
  /-- The greatest value that the next byte may have. -/
  high : Nat := 0xBF

/-- What a byte between characters is: a character of its own, the opening of a longer one, or
out of place. -/
inductive Opening where
  | complete (c : Char)
  | opens (unfinished : Unfinished)
  | misplaced

/-- The role of a byte between characters. -/
def Opening.ofByte (byte : UInt8) : Opening :=
  let b := byte.toNat
  if b < 0x80 then .complete (.ofNat b)
  else if b < 0xC2 then .misplaced
  else if b < 0xE0 then .opens { value := b - 0xC0, owed := 0 }
  else if b = 0xE0 then .opens { value := 0, owed := 1, low := 0xA0 }
  else if b = 0xED then .opens { value := 0xD, owed := 1, high := 0x9F }
  else if b < 0xF0 then .opens { value := b - 0xE0, owed := 1 }
  else if b = 0xF0 then .opens { value := 0, owed := 2, low := 0x90 }
  else if b < 0xF4 then .opens { value := b - 0xF0, owed := 2 }
  else if b = 0xF4 then .opens { value := 4, owed := 2, high := 0x8F }
  else .misplaced

/-- The characters of the bytes that follow.  With `pending` a character has been opened; if the
next byte cannot continue it, the opened piece is replaced and the byte is looked at afresh. -/
def decodeFrom : Option Unfinished → List UInt8 → List Char
  | none, [] => []
  | some _, [] => [replacement]
  | pending, byte :: rest =>
    let fresh (before : List Char) : List Char :=
      match Opening.ofByte byte with
      | .complete c => before ++ c :: decodeFrom none rest
      | .opens p => before ++ decodeFrom (some p) rest
      | .misplaced => before ++ replacement :: decodeFrom none rest
    match pending with
    | none => fresh []
    | some p =>
      if p.low ≤ byte.toNat ∧ byte.toNat ≤ p.high then
        let value := p.value * 64 + (byte.toNat - 0x80)
        match p.owed with
        | 0 => .ofNat value :: decodeFrom none rest
        | owed + 1 => decodeFrom (some { value, owed }) rest
      else fresh [replacement]

/-- The characters of a sequence of bytes. -/
def decodeBytes (bytes : List UInt8) : List Char := decodeFrom none bytes

def ofBytes (bytes : List UInt8) : String := .ofList (decodeBytes bytes)

/-- How many bytes characters take in UTF-8. -/
def byteLength : List Char → Nat
  | [] => 0
  | c :: rest => c.utf8Size + byteLength rest

end ObjectMemory.Text
