import ObjectMemory.Text.CaseTable

/-!
# Lower case

The full lower-case mapping of the Unicode standard, without a locale.  The name of a class becomes
part of the ids of its instances in lower case, whatever script it is written in.

Two characters do not map one to one.  A capital I with a dot becomes an i and a combining dot.  A
capital sigma becomes a final sigma at the end of a word, and a plain one elsewhere; the end of a
word is where a cased letter stands before and none after, skipping the case-ignorable characters.

* `inRanges` — membership in a table of ranges;
* `lowerChar` — the mapping of one character, as a list;
* `lowercase` — the mapping of a text.
-/

namespace ObjectMemory.Text

/-- Whether a code point lies in one of the ranges. -/
def inRanges (ranges : List (Nat × Nat)) (n : Nat) : Bool :=
  ranges.any fun range => range.1 ≤ n && n ≤ range.2

/-- Whether a character is upper case, lower case or title case. -/
def isCased (c : Char) : Bool := inRanges casedRanges c.toNat

/-- Whether a search for a cased neighbour skips a character. -/
def isCaseIgnorable (c : Char) : Bool := inRanges caseIgnorableRanges c.toNat

/-- The lower-case form of a character on its own. -/
def lowerChar (c : Char) : List Char :=
  let n := c.toNat
  if n = 0x130 then ['i', '\u0307']
  else
    match lowerRuns.find? fun run => run.1 ≤ n && n ≤ run.2.1 && (n - run.1) % run.2.2.1 == 0 with
    | some run => [.ofNat (n + run.2.2.2).toNat]
    | none => [c]

/-- Whether the first character that is not skipped is cased. -/
def cased? (cs : List Char) : Bool :=
  match cs.dropWhile isCaseIgnorable with
  | [] => false
  | c :: _ => isCased c

/-- The lower-case form of characters that follow others.  `before` holds those, last one first. -/
def lowerFrom (before : List Char) : List Char → List Char
  | [] => []
  | c :: rest =>
    let here :=
      if c = 'Σ' then if cased? before && !cased? rest then ['ς'] else ['σ']
      else lowerChar c
    here ++ lowerFrom (c :: before) rest

def lowercase (text : String) : String := .ofList (lowerFrom [] text.toList)

end ObjectMemory.Text
