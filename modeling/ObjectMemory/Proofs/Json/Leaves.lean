import Mathlib
import ObjectMemory.Json.Printer
import ObjectMemory.Json.Spelling

/-!
# Strings read back

A printed string is a run of characters and escapes up to the closing quote, and each reader of
strings undoes exactly one of them at a time, with any text behind the quote: the reader of values
gets the characters back, and the reader of spellings keeps the escapes as they stand.

* `escapeChar_cases` — a character is printed as itself or as an escape that is undone;
* `readString_escaped`, `readInside_escaped` — strings, as text and as spelled.
-/

namespace ObjectMemory.Json

/-- The two digits of a control character are read as its code again. -/
lemma hexUnit?_control :
    ∀ n < 0x20, hexUnit? '0' '0' (hexDigit (n / 16)) (hexDigit n) = some n := by
  decide

/-- A control character is undone from its four digits. -/
lemma readEscape_control {c : Char} (h : c.toNat < 0x20) (rest : List Char) :
    readEscape ('u' :: '0' :: '0' :: hexDigit (c.toNat / 16) :: hexDigit c.toNat :: rest)
      = .ok (c, rest) := by
  have hhex := hexUnit?_control c.toNat h
  have hlow : ¬(0xDC00 ≤ c.toNat ∧ c.toNat < 0xE000) := by omega
  have hhigh : ¬(0xD800 ≤ c.toNat ∧ c.toNat < 0xDC00) := by omega
  simp only [readEscape, readUnitEscape, readHex, hhex, bind, Except.bind, hlow, hhigh, if_false,
    pure, Except.pure, Char.ofNat_toNat]

/-- A character is printed as itself, and then it is none that a reader of strings stops at, or as
a backslash and a code that is undone whatever follows. -/
lemma escapeChar_cases (c : Char) :
    (escapeChar c = [c] ∧ c ≠ '"' ∧ c ≠ '\\' ∧ ¬c.toNat < 0x20) ∨
    ∃ code, escapeChar c = '\\' :: code ∧
      (∀ rest, readEscape (code ++ rest) = .ok (c, rest)) ∧
      ∀ rest, escapeLength? (code ++ rest) = some code.length := by
  unfold escapeChar
  split
  · exact .inr ⟨['"'], rfl, fun _ => rfl, fun _ => rfl⟩
  · exact .inr ⟨['\\'], rfl, fun _ => rfl, fun _ => rfl⟩
  · exact .inr ⟨['b'], rfl, fun _ => rfl, fun _ => rfl⟩
  · exact .inr ⟨['f'], rfl, fun _ => rfl, fun _ => rfl⟩
  · exact .inr ⟨['n'], rfl, fun _ => rfl, fun _ => rfl⟩
  · exact .inr ⟨['r'], rfl, fun _ => rfl, fun _ => rfl⟩
  · exact .inr ⟨['t'], rfl, fun _ => rfl, fun _ => rfl⟩
  · next hquote hslash _ _ _ _ _ =>
      split_ifs with hctrl
      · refine .inr ⟨_, rfl, fun rest => readEscape_control hctrl rest, fun rest => ?_⟩
        simp only [List.cons_append, List.nil_append, escapeLength?,
          hexUnit?_control c.toNat hctrl]
        rfl
      · exact .inl ⟨rfl, hquote, hslash, hctrl⟩

/-- The characters of an escape that was read ahead are passed over. -/
lemma readChars_passed (code rest : List Char) :
    readChars code.length (code ++ rest) = readChars 0 rest := by
  induction code with
  | nil => rfl
  | cons c code ih => rw [List.cons_append, List.length_cons, readChars, ih]

/-- An escape is undone, and the string goes on behind it. -/
lemma readChars_escape (code : List Char) {rest : List Char} {c : Char}
    (h : readEscape (code ++ rest) = .ok (c, rest)) :
    readChars 0 ('\\' :: (code ++ rest)) = do
      let (chars, after) ← readChars 0 rest
      return (c :: chars, after) := by
  have hlen : (code ++ rest).length - rest.length = code.length := by
    rw [List.length_append, Nat.add_sub_cancel]
  rw [readChars]
  simp only [h, hlen, readChars_passed, bind, Except.bind]
  rfl

/-- A printed string is read back up to its quote. -/
lemma readChars_escaped (cs rest : List Char) :
    readChars 0 (cs.flatMap escapeChar ++ '"' :: rest) = .ok (cs, rest) := by
  induction cs with
  | nil => rfl
  | cons c cs ih =>
      rw [List.flatMap_cons, List.append_assoc]
      rcases escapeChar_cases c with ⟨heq, hquote, hslash, hctrl⟩ | ⟨code, heq, hread, -⟩
      · rw [heq, List.cons_append, List.nil_append, readChars]
        simp only [hquote, hslash, hctrl, if_false, ih, bind, Except.bind]
        rfl
      · rw [heq, List.cons_append, readChars_escape code (hread _), ih]
        rfl

lemma readString_escaped (text : String) (rest : List Char) :
    readString (text.toList.flatMap escapeChar ++ '"' :: rest) = .ok (text, rest) := by
  simp only [readString, readChars_escaped, bind, Except.bind, String.ofList_toList]
  rfl

/-- The characters of an escape that was looked at are kept as they stand. -/
lemma readInside_passed (code rest : List Char) :
    readInside code.length (code ++ rest)
      = (readInside 0 rest).map fun front => (code ++ front.1, front.2) := by
  induction code with
  | nil =>
      cases h : readInside 0 rest <;> simp only [List.nil_append, List.length_nil, h] <;> rfl
  | cons c code ih =>
      rw [List.cons_append, List.length_cons, readInside]
      simp only [ih]
      cases readInside 0 rest <;> rfl

/-- The inside of a printed string is kept as it stands. -/
lemma readInside_escaped (cs rest : List Char) :
    readInside 0 (cs.flatMap escapeChar ++ '"' :: rest) = .ok (cs.flatMap escapeChar, rest) := by
  induction cs with
  | nil => rfl
  | cons c cs ih =>
      rw [List.flatMap_cons, List.append_assoc]
      rcases escapeChar_cases c with ⟨heq, hquote, hslash, hctrl⟩ | ⟨code, heq, -, hlen⟩
      · rw [heq, List.cons_append, List.nil_append, readInside]
        simp only [hquote, hslash, hctrl, if_false, ih, bind, Except.bind]
        rfl
      · rw [heq, List.cons_append, readInside]
        simp only [hlen, readInside_passed, ih, bind, Except.bind]
        rfl

end ObjectMemory.Json
