import Mathlib
import ObjectMemory.Text.Blank
import ObjectMemory.Text.Utf8

/-!
# The bytes of a text

What an external program prints is bytes, and keys are compared by their bytes.  So long as they are
the bytes of a text, both come to the characters of the text.

**Order.**  A later character has the greater bytes, whatever follows either of them: in the first
byte where they differ (`encode_lt`).  So texts are ordered as their bytes are (`bytes_lt_iff`).

**Decoding.**  Each character is read from its own bytes, one byte at a time, and the bytes behind
it are left (`decodeFrom_encode`).  That the machine looks for overlong forms and surrogates in the
second byte does not matter here, because no character has them.  So a text is read from its bytes
(`ofBytes_bytes`), and nothing of it is replaced.

**Ends.**  `TrimsTo` says what is cut off the end of a text: blanks, and all of them.  A text that
has none at its ends is what is left when blanks around it are cut off (`trim_surrounded`).
-/

namespace ObjectMemory.Text

/-! ## Bytes -/

/-- The bytes of a text in UTF-8. -/
def bytes (text : String) : List UInt8 := text.toUTF8.data.toList

lemma bytes_eq (text : String) : bytes text = text.toList.flatMap String.utf8EncodeChar := by
  rw [bytes, String.toUTF8, ← String.utf8Encode_toList, List.utf8Encode, List.data_toByteArray]

lemma toNat_ofNat {n : ℕ} (h : n < 256) : (UInt8.ofNat n).toNat = n := by
  rw [UInt8.toNat_ofNat', Nat.mod_eq_of_lt h]

lemma toNat_lt (c : Char) : c.val.toNat < 0x110000 := by
  rcases c.valid with h | h <;> omega

/-! ## Order -/

lemma encode_lt {c d : Char} (h : c < d) (rest other : List UInt8) :
    String.utf8EncodeChar c ++ rest < String.utf8EncodeChar d ++ other := by
  have hlt : c.val.toNat < d.val.toNat := h
  have hd := toNat_lt d
  simp only [String.utf8EncodeChar]
  split_ifs <;>
    simp only [List.cons_append, List.nil_append, List.cons_lt_cons_iff, UInt8.lt_iff_toNat_lt,
      ← UInt8.toNat_inj, UInt8.toNat_ofNat'] <;>
    simp (disch := omega) only [Nat.mod_eq_of_lt] <;> omega

lemma flatMap_encode_lt : ∀ {cs ds : List Char}, cs < ds →
    cs.flatMap String.utf8EncodeChar < ds.flatMap String.utf8EncodeChar
  | _, [], h => absurd h (List.not_lt_nil _)
  | [], d :: ds, _ => by
      rw [List.flatMap_nil, List.flatMap_cons]
      rcases hbytes : String.utf8EncodeChar d with _ | ⟨b, rest⟩
      · exact absurd hbytes String.utf8EncodeChar_ne_nil
      · exact List.nil_lt_cons _ _
  | c :: cs, d :: ds, h => by
      rw [List.flatMap_cons, List.flatMap_cons]
      rcases List.cons_lt_cons_iff.mp h with hlt | ⟨rfl, hrest⟩
      · exact encode_lt hlt _ _
      · exact List.append_left_lt (flatMap_encode_lt hrest)

/-- **Texts are ordered as their bytes are.** -/
theorem bytes_lt_iff {a b : String} : bytes a < bytes b ↔ a < b := by
  have hmono : ∀ {s t : String}, s < t → bytes s < bytes t := fun {s t} h => by
    rw [bytes_eq, bytes_eq]
    exact flatMap_encode_lt (String.lt_iff_toList_lt.mp h)
  refine ⟨fun h => ?_, hmono⟩
  rcases lt_trichotomy a b with hlt | rfl | hgt
  · exact hlt
  · exact absurd h (List.lt_irrefl _)
  · exact absurd (hmono hgt) (List.lt_asymm h)

/-! ## Decoding -/

lemma decodeFrom_complete {byte : UInt8} {c : Char} (h : Opening.ofByte byte = .complete c)
    (rest : List UInt8) : decodeFrom none (byte :: rest) = c :: decodeFrom none rest := by
  rw [decodeFrom, h]
  rfl

lemma decodeFrom_opens {byte : UInt8} {p : Unfinished} (h : Opening.ofByte byte = .opens p)
    (rest : List UInt8) : decodeFrom none (byte :: rest) = decodeFrom (some p) rest := by
  rw [decodeFrom, h]
  rfl

/-- A byte in the range that is due is taken into the character. -/
lemma decodeFrom_goesOn {value owed low high n : ℕ} (hlow : low ≤ n + 128) (hhigh : n + 128 ≤ high)
    (hn : n < 64) (rest : List UInt8) :
    decodeFrom (some ⟨value, owed + 1, low, high⟩) (UInt8.ofNat (n + 128) :: rest)
      = decodeFrom (some { value := value * 64 + n, owed }) rest := by
  have hbyte : (UInt8.ofNat (n + 128)).toNat = n + 128 := toNat_ofNat (by omega)
  rw [decodeFrom]
  simp only [hbyte, if_pos (And.intro hlow hhigh), Nat.add_sub_cancel]

/-- The last byte completes the character. -/
lemma decodeFrom_ends {value low high n : ℕ} (hlow : low ≤ n + 128) (hhigh : n + 128 ≤ high)
    (hn : n < 64) (rest : List UInt8) :
    decodeFrom (some ⟨value, 0, low, high⟩) (UInt8.ofNat (n + 128) :: rest)
      = .ofNat (value * 64 + n) :: decodeFrom none rest := by
  have hbyte : (UInt8.ofNat (n + 128)).toNat = n + 128 := toNat_ofNat (by omega)
  rw [decodeFrom]
  simp only [hbyte, if_pos (And.intro hlow hhigh), Nat.add_sub_cancel]

lemma ofByte_lead_two {n : ℕ} (hlow : 2 ≤ n) (hhigh : n < 32) :
    Opening.ofByte (UInt8.ofNat (n + 192)) = .opens { value := n, owed := 0 } := by
  interval_cases n <;> rfl

lemma ofByte_lead_three {n : ℕ} (hn : n < 16) :
    Opening.ofByte (UInt8.ofNat (n + 224)) = .opens
      { value := n, owed := 1, low := if n = 0 then 0xA0 else 0x80,
        high := if n = 0xD then 0x9F else 0xBF } := by
  interval_cases n <;> rfl

lemma ofByte_lead_four {n : ℕ} (hn : n < 5) :
    Opening.ofByte (UInt8.ofNat (n + 240)) = .opens
      { value := n, owed := 2, low := if n = 0 then 0x90 else 0x80,
        high := if n = 4 then 0x8F else 0xBF } := by
  interval_cases n <;> rfl

lemma decodeFrom_encode (c : Char) (rest : List UInt8) :
    decodeFrom none (String.utf8EncodeChar c ++ rest) = c :: decodeFrom none rest := by
  have hvalid := c.valid
  have hchar : ∀ {n : ℕ}, n = c.val.toNat → Char.ofNat n = c := fun h => h ▸ Char.ofNat_toNat c
  rw [UInt32.isValidChar, Nat.isValidChar] at hvalid
  simp only [String.utf8EncodeChar]
  generalize c.val.toNat = v at *
  -- as many cases as there are lengths; the second byte tells overlong forms and surrogates
  split_ifs with hone htwo hthree <;> simp only [List.cons_append, List.nil_append]
  · have hbyte : (UInt8.ofNat v).toNat = v := toNat_ofNat (by omega)
    refine decodeFrom_complete ?_ rest
    rw [Opening.ofByte, hbyte, if_pos (by omega), hchar rfl]
  · rw [decodeFrom_opens (ofByte_lead_two (by omega) (by omega)),
      decodeFrom_ends (by omega) (by omega) (by omega), hchar (by omega)]
  · rw [decodeFrom_opens (ofByte_lead_three (by omega)),
      decodeFrom_goesOn (by split_ifs <;> omega) (by split_ifs <;> omega) (by omega),
      decodeFrom_ends (by omega) (by omega) (by omega), hchar (by omega)]
  · rw [decodeFrom_opens (ofByte_lead_four (by omega)),
      decodeFrom_goesOn (by split_ifs <;> omega) (by split_ifs <;> omega) (by omega),
      decodeFrom_goesOn (by omega) (by omega) (by omega),
      decodeFrom_ends (by omega) (by omega) (by omega), hchar (by omega)]

/-- **A text is read from its bytes.** -/
theorem ofBytes_bytes (text : String) : ofBytes (bytes text) = text := by
  have hchars : ∀ cs : List Char, decodeFrom none (cs.flatMap String.utf8EncodeChar) = cs := by
    intro cs
    induction cs with
    | nil => rfl
    | cons c rest ih => rw [List.flatMap_cons, decodeFrom_encode, ih]
  rw [ofBytes, decodeBytes, bytes_eq, hchars, String.ofList_toList]

/-! ## Ends -/

/-- A text without the blanks it ends in, and without anything else that it has. -/
structure TrimsTo (text trimmed : String) : Prop where
  blanks : ∃ blanks, text.toList = trimmed.toList ++ blanks ∧ ∀ c ∈ blanks, isBlank c = true
  maximal : ∀ c ∈ trimmed.toList.getLast?, isBlank c = false

lemma trimsTo_trimEnd (text : String) : TrimsTo text (trimEnd text) := by
  have hchars : (trimEnd text).toList = text.toList.rdropWhile isBlank := String.toList_ofList
  refine ⟨⟨text.toList.rtakeWhile isBlank, ?_, fun c hc => List.mem_rtakeWhile_imp hc⟩, ?_⟩
  · rw [hchars, List.rdropWhile_append_rtakeWhile]
  · intro c hc
    rw [hchars] at hc
    obtain ⟨hne, rfl⟩ := List.mem_getLast?_eq_getLast hc
    exact eq_false_of_ne_true (List.rdropWhile_last_not _ _ hne)

/-- There is one way to trim a text. -/
theorem trimsTo_iff {text trimmed : String} : TrimsTo text trimmed ↔ trimEnd text = trimmed := by
  refine ⟨fun ⟨⟨blanks, htext, hblanks⟩, hlast⟩ => ?_, fun h => h ▸ trimsTo_trimEnd text⟩
  have hkept : trimmed.toList.rdropWhile isBlank = trimmed.toList :=
    List.rdropWhile_eq_self_iff.mpr fun hne =>
      ne_true_of_eq_false (hlast _ (List.getLast?_eq_some_getLast hne))
  have hdropped : (trimmed.toList ++ blanks).rdropWhile isBlank
      = trimmed.toList.rdropWhile isBlank := by
    rw [List.rdropWhile, List.reverse_append, List.dropWhile_append_of_pos (by simpa using hblanks)]
    rfl
  show String.ofList (text.toList.rdropWhile isBlank) = trimmed
  rw [htext, hdropped, hkept, String.ofList_toList]

/-- Nothing but blanks is cut off a text. -/
lemma exists_blanks_around_trim (text : String) :
    ∃ before after, text.toList = before ++ ((trim text).toList ++ after) ∧
      (∀ c ∈ before, isBlank c = true) ∧ ∀ c ∈ after, isBlank c = true := by
  have hchars : (trim text).toList = (text.toList.dropWhile isBlank).rdropWhile isBlank :=
    String.toList_ofList
  refine ⟨text.toList.takeWhile isBlank, (text.toList.dropWhile isBlank).rtakeWhile isBlank, ?_,
    fun c hc => List.mem_takeWhile_imp hc, fun c hc => List.mem_rtakeWhile_imp hc⟩
  rw [hchars, List.rdropWhile_append_rtakeWhile, List.takeWhile_append_dropWhile]

/-- Blanks around a text are cut off, and nothing of the text if its ends are none. -/
lemma trim_surrounded {before inner after : List Char} (hbefore : ∀ c ∈ before, isBlank c = true)
    (hafter : ∀ c ∈ after, isBlank c = true) (hfirst : ∀ c ∈ inner.head?, isBlank c = false)
    (hlast : ∀ c ∈ inner.getLast?, isBlank c = false) :
    trim (.ofList (before ++ (inner ++ after))) = .ofList inner := by
  have hend : trimEnd (.ofList (inner ++ after)) = .ofList inner :=
    trimsTo_iff.mp ⟨⟨after, by simp, hafter⟩, by simpa using hlast⟩
  rw [trimEnd, String.toList_ofList] at hend
  rw [trim, String.toList_ofList, List.dropWhile_append_of_pos hbefore, ← hend]
  cases inner with
  | nil =>
      have hblank : after.dropWhile isBlank = [] := List.dropWhile_eq_nil_iff.mpr hafter
      rw [List.nil_append] at hend
      rw [List.nil_append, hblank, hend]
      rfl
  | cons c rest =>
      rw [List.cons_append, List.dropWhile_cons_of_neg (by simp [hfirst c rfl])]

end ObjectMemory.Text
