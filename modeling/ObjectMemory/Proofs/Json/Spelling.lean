import ObjectMemory.Json.Spelling
import ObjectMemory.Proofs.Json.Levels

/-!
# What is printed keeps its spelling

A reader that keeps the spelling of a document drops nothing of a compact text, because there are no
blanks in it: it makes of a printed value the spelled document with the same text
(`decode?_encode`, `spelled_encode`), or nothing at all (`decode?_encode_eq`).  A text is cut at its
first null character, and a printed value has none, since controls are escaped in strings and do not
come anywhere else.
-/

namespace ObjectMemory.Json

/-! ## The spelling of a value -/

mutual

/-- A value with the spelling it is printed in. -/
def Value.spelled : Value → Spelled
  | .null => .null
  | .bool b => .bool b
  | .num n => .num n.chars
  | .str text => .str (text.toList.flatMap escapeChar)
  | .arr items => .arr (spelledItems items)
  | .obj members => .obj (spelledMembers members)

def spelledItems : List Value → List Spelled
  | [] => []
  | x :: xs => x.spelled :: spelledItems xs

def spelledMembers : List (String × Value) → List (List Char × Spelled)
  | [] => []
  | (k, x) :: xs => (k.toList.flatMap escapeChar, x.spelled) :: spelledMembers xs

end

lemma spelledItems_eq_map (items : List Value) : spelledItems items = items.map Value.spelled := by
  induction items with
  | nil => rfl
  | cons x xs ih => rw [spelledItems, ih, List.map_cons]

lemma spelledMembers_eq_map (members : List (String × Value)) :
    spelledMembers members
      = members.map fun m => (m.1.toList.flatMap escapeChar, m.2.spelled) := by
  induction members with
  | nil => rfl
  | cons m ms ih => rw [spelledMembers, ih, List.map_cons]

mutual

lemma Value.spelled_chars : (v : Value) → v.spelled.chars = v.chars
  | .null => rfl
  | .bool true => rfl
  | .bool false => rfl
  | .num _ => rfl
  | .str _ => rfl
  | .arr [] => rfl
  | .arr (x :: xs) => by
      rw [Value.spelled, spelledItems, Spelled.chars, x.spelled_chars, spelledItemsEnd_eq xs,
        Value.chars]
  | .obj [] => rfl
  | .obj ((k, x) :: xs) => by
      rw [Value.spelled, spelledMembers, Spelled.chars, x.spelled_chars, spelledMembersEnd_eq xs,
        Value.chars]
      rfl

lemma spelledItemsEnd_eq : (xs : List Value) → spelledItemsEnd (spelledItems xs) = itemsEnd xs
  | [] => rfl
  | x :: xs => by
      rw [spelledItems, spelledItemsEnd, x.spelled_chars, spelledItemsEnd_eq xs, itemsEnd]

lemma spelledMembersEnd_eq :
    (xs : List (String × Value)) → spelledMembersEnd (spelledMembers xs) = membersEnd xs
  | [] => rfl
  | (k, x) :: xs => by
      rw [spelledMembers, spelledMembersEnd, x.spelled_chars, spelledMembersEnd_eq xs, membersEnd]
      rfl

end

lemma Value.spelled_encode (v : Value) : v.spelled.encode = v.encode := by
  rw [Spelled.encode, Value.encode, v.spelled_chars]

/-! ## No null character -/

lemma nul_notMem_escapeChar (c : Char) : '\x00' ∉ escapeChar c := by
  unfold escapeChar
  split <;> try decide
  split_ifs with hctrl
  · have hhex : ∀ n < 0x20, '\x00' ∉ ['\\', 'u', '0', '0', hexDigit (n / 16), hexDigit n] := by
      decide
    exact hhex c.toNat hctrl
  · rw [List.mem_singleton]
    rintro rfl
    exact hctrl (by decide)

lemma nul_notMem_stringChars (text : String) : '\x00' ∉ stringChars text := by
  intro h
  simp only [stringChars, List.mem_append, List.mem_cons, List.mem_flatMap, List.not_mem_nil,
    or_false] at h
  rcases h with (h | ⟨c, -, h⟩) | h
  · exact absurd h (by decide)
  · exact nul_notMem_escapeChar c h
  · exact absurd h (by decide)

lemma nul_notMem_numberChars (n : Number) : '\x00' ∉ n.chars := by
  have hdigits : ∀ digits : List Char, (∀ c ∈ digits, c.isDigit = true) → '\x00' ∉ digits :=
    fun digits h hmem => absurd (h _ hmem) (by decide)
  have h := n.numeral_wellFormed
  have hfraction : '\x00' ∉ fractionChars n.numeral.fraction := by
    cases hnone : n.numeral.fraction with
    | none => exact List.not_mem_nil
    | some digits =>
        rw [fractionChars, List.mem_cons, not_or]
        exact ⟨by decide, hdigits digits (h.fraction digits hnone).2⟩
  have hexponent : '\x00' ∉ exponentChars n.numeral.exponent := by
    cases hnone : n.numeral.exponent with
    | none => exact List.not_mem_nil
    | some written =>
        rw [exponentChars, WrittenExponent.chars, List.mem_cons, List.mem_cons, not_or, not_or]
        refine ⟨by decide, ?_, hdigits _ (h.exponent written hnone).2⟩
        split_ifs <;> decide
  have hall : '\x00' ∉ n.numeral.digits := by
    rw [Numeral.digits, List.mem_append, List.mem_append, not_or, not_or]
    exact ⟨hdigits _ h.whole.1, hfraction, hexponent⟩
  rw [n.chars_eq, Numeral.chars]
  split_ifs
  · rw [List.mem_cons, not_or]
    exact ⟨by decide, hall⟩
  · exact hall

mutual

lemma nul_notMem_chars : (v : Value) → '\x00' ∉ v.chars
  | .null => by decide
  | .bool true => by decide
  | .bool false => by decide
  | .num n => nul_notMem_numberChars n
  | .str text => nul_notMem_stringChars text
  | .arr [] => by decide
  | .arr (x :: xs) => by
      simp only [Value.chars, List.cons_append, List.mem_cons, List.mem_append, not_or]
      exact ⟨by decide, nul_notMem_chars x, nul_notMem_itemsEnd xs⟩
  | .obj [] => by decide
  | .obj ((k, x) :: xs) => by
      simp only [Value.chars, List.cons_append, List.mem_cons, List.mem_append, not_or]
      exact ⟨by decide, ⟨nul_notMem_stringChars k, by decide, nul_notMem_chars x⟩,
        nul_notMem_membersEnd xs⟩

lemma nul_notMem_itemsEnd : (xs : List Value) → '\x00' ∉ itemsEnd xs
  | [] => by decide
  | x :: xs => by
      simp only [itemsEnd, List.cons_append, List.mem_cons, List.mem_append, not_or]
      exact ⟨by decide, nul_notMem_chars x, nul_notMem_itemsEnd xs⟩

lemma nul_notMem_membersEnd : (xs : List (String × Value)) → '\x00' ∉ membersEnd xs
  | [] => by decide
  | (k, x) :: xs => by
      simp only [membersEnd, List.cons_append, List.mem_cons, List.mem_append, not_or]
      exact ⟨by decide, ⟨nul_notMem_stringChars k, by decide, nul_notMem_chars x⟩,
        nul_notMem_membersEnd xs⟩

end

/-! ## Reading -/

lemma spelledBuilder_reads :
    spelledBuilder.Reads (fun text => text.toList.flatMap escapeChar) Value.spelled where
  string text rest := readInside_escaped text.toList rest
  number n rest h := by
    have htake : (n.numeral.digits ++ rest).take
        ((n.numeral.digits ++ rest).length - rest.length) = n.numeral.digits := by
      rw [List.length_append, Nat.add_sub_cancel, List.take_left]
    show readSpelling _ _ = _
    simp only [readSpelling, readNumeral_digits n.numeral_wellFormed h, bind, Except.bind, htake]
    rw [Value.spelled, n.chars_eq]
    rfl
  null := rfl
  bool _ := rfl
  text _ := rfl
  array items := by rw [Value.spelled, spelledItems_eq_map]; rfl
  object members _ := by rw [Value.spelled, spelledMembers_eq_map]; rfl

/-- A text without a null character is not cut. -/
lemma takeWhile_of_nul_notMem {cs : List Char} (h : '\x00' ∉ cs) :
    cs.takeWhile (· != '\x00') = cs := by
  rw [List.takeWhile_eq_self_iff]
  rintro c hc
  rw [bne_iff_ne]
  rintro rfl
  exact h hc

/-- A printed value has no null character to be cut at. -/
lemma takeWhile_encode (v : Value) : v.encode.toList.takeWhile (· != '\x00') = v.chars := by
  rw [Value.encode, String.toList_ofList, takeWhile_of_nul_notMem (nul_notMem_chars v)]

/-- **The spelling of a printed value is the value as it is printed.** -/
theorem decode?_encode {v : Value} {depth : ℕ} (hc : v.Canonical) (hd : v.depth ≤ depth) :
    Spelled.decode? depth v.encode = some v.spelled := by
  have hread := readNested_chars spelledBuilder_reads hc hd [] endsNumber_nil
  rw [List.append_nil] at hread
  simp only [Spelled.decode?, takeWhile_encode, hread, bind, Except.bind, complete]
  rfl

/-- However deep a printed value may be, it has no other spelling. -/
theorem decode?_encode_eq {v : Value} {spelled : Spelled} {depth : ℕ} (hc : v.Canonical)
    (h : Spelled.decode? depth v.encode = some spelled) : spelled = v.spelled := by
  rw [Spelled.decode?, takeWhile_encode] at h
  obtain ⟨⟨result, behind⟩, hread, hcomplete⟩ := of_bind_ok (of_toOption_some h)
  obtain rfl : result = spelled := of_complete hcomplete
  have hdeep := readNested_extends (Nat.le_max_left depth v.depth) _ _ hread
  have hback := readNested_chars spelledBuilder_reads hc (Nat.le_max_right depth v.depth) []
    endsNumber_nil
  rw [List.append_nil, hdeep] at hback
  exact congrArg Prod.fst (Except.ok.inj hback)

end ObjectMemory.Json
