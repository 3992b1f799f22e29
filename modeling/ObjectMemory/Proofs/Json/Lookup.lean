import ObjectMemory.Proofs.Json.Spelling

/-!
# Looking into printed objects

A member of a printed object is found by its name in the spelled document as it is in the object.
The two ways of looking differ in what they take for a key.  In a spelled document a key counts only
up to its first null character (`untilNull_escaped`), so that several keys may go for one name, and
the first of them is taken.  Keys are printed in ascending order, and a key that goes on behind the
name comes after it, so the first one is the name itself.

* `unescape?_escaped`, `untilNull_escaped` — a printed text undone, and up to its first null
  character;
* `unescape?_of_lt`, `unescape?_self` — which keys go for a name;
* **`member?_spelled`** — a member is found under its name.
-/

namespace ObjectMemory.Json

/-! ## Keys -/

/-- A printed text is undone. -/
lemma unescape?_escaped (cs : List Char) :
    unescape? (cs.flatMap escapeChar) = some (.ofList cs) := by
  rw [unescape?, readString, readChars_escaped cs []]
  rfl

lemma untilNull_cons {c : Char} (h : c ≠ '\\') (rest : List Char) :
    untilNull (c :: rest) = c :: untilNull rest := by
  rw [untilNull]
  · rintro rest' rfl
    exact fun _ => h rfl
  · rintro d rest' rfl
    exact fun _ => h rfl

lemma untilNull_backslash {c : Char} {rest : List Char}
    (h : c = 'u' → ∀ tail, rest ≠ '0' :: '0' :: '0' :: '0' :: tail) :
    untilNull ('\\' :: c :: rest) = '\\' :: c :: untilNull rest := by
  rw [untilNull]
  exact fun tail hc hrest => h hc tail hrest

/-- The digits of another control character are not those of the null character. -/
lemma hexDigit_control : ∀ n < 0x20, n ≠ 0 →
    (hexDigit (n / 16) = '0' → hexDigit n ≠ '0') ∧ hexDigit (n / 16) ≠ '\\' ∧ hexDigit n ≠ '\\' := by
  decide

/-- Only one escape stands for the null character. -/
lemma untilNull_escapeChar {c : Char} (h : c ≠ '\x00') (rest : List Char) :
    untilNull (escapeChar c ++ rest) = escapeChar c ++ untilNull rest := by
  unfold escapeChar
  split
  · exact untilNull_backslash fun hu => absurd hu (by decide)
  · exact untilNull_backslash fun hu => absurd hu (by decide)
  · exact untilNull_backslash fun hu => absurd hu (by decide)
  · exact untilNull_backslash fun hu => absurd hu (by decide)
  · exact untilNull_backslash fun hu => absurd hu (by decide)
  · exact untilNull_backslash fun hu => absurd hu (by decide)
  · exact untilNull_backslash fun hu => absurd hu (by decide)
  · next _ hslash _ _ _ _ _ =>
      split_ifs with hctrl
      · have hzero : c.toNat ≠ 0 := fun hzero => h (Char.toNat_inj.mp hzero)
        obtain ⟨hdigits, hhigh, hlow⟩ := hexDigit_control c.toNat hctrl hzero
        simp only [List.cons_append, List.nil_append]
        rw [untilNull_backslash, untilNull_cons (by decide), untilNull_cons (by decide),
          untilNull_cons hhigh, untilNull_cons hlow]
        rintro - tail heq
        simp only [List.cons.injEq, true_and] at heq
        exact hdigits heq.1 heq.2.1
      · exact untilNull_cons hslash rest

/-- A printed text goes up to its first null character as the text itself does. -/
lemma untilNull_escaped (cs : List Char) :
    untilNull (cs.flatMap escapeChar) = (cs.takeWhile (· != '\x00')).flatMap escapeChar := by
  induction cs with
  | nil => rfl
  | cons c cs ih =>
      rcases eq_or_ne c '\x00' with rfl | hc
      · rfl
      · rw [List.flatMap_cons, untilNull_escapeChar hc, ih,
          List.takeWhile_cons_of_pos (by simpa using hc), List.flatMap_cons]

/-- A key before a name does not go for that name: it would start with it. -/
lemma unescape?_of_lt {name key : String} (h : key < name) :
    unescape? (untilNull (key.toList.flatMap escapeChar)) ≠ some name := by
  rw [untilNull_escaped, unescape?_escaped]
  intro heq
  have hname : key.toList.takeWhile (· != '\x00') = name.toList := by
    rw [← Option.some.inj heq, String.toList_ofList]
  have hprefix : name.toList <+: key.toList := hname ▸ List.takeWhile_prefix _
  exact hprefix.le (String.lt_iff_toList_lt.mp h)

/-- A name without a null character goes for itself. -/
lemma unescape?_self {name : String} (free : '\x00' ∉ name.toList) :
    unescape? (untilNull (name.toList.flatMap escapeChar)) = some name := by
  rw [untilNull_escaped, takeWhile_of_nul_notMem free, unescape?_escaped, String.ofList_toList]

/-- The first member that goes for a name is the member of that name. -/
lemma spelledMember?_of_mem {name : String} (free : '\x00' ∉ name.toList) {value : Value}
    {members : List (String × Value)}
    (ascending : members.Pairwise fun a b => compare a.1 b.1 = .lt) (h : (name, value) ∈ members) :
    spelledMember? name (spelledMembers members) = some value.spelled := by
  induction members with
  | nil => cases h
  | cons head rest ih =>
      obtain ⟨key, first⟩ := head
      obtain ⟨below, tail⟩ := List.pairwise_cons.mp ascending
      rw [spelledMembers, spelledMember?]
      rcases List.mem_cons.mp h with heq | hrest
      · obtain ⟨rfl, rfl⟩ := Prod.mk.inj heq
        rw [unescape?_self free, if_pos rfl]
      · have hlt : key < name := compare_lt_iff_lt.mp (below _ hrest)
        rw [if_neg (unescape?_of_lt hlt), ih tail hrest]

/-- **A member of a printed object is found under its name.** -/
theorem member?_spelled {object : Object} {name : String} (free : '\x00' ∉ name.toList)
    {value : Value} (h : object.get? name = some value) :
    (Value.ofObject object).spelled.member? name = some value.spelled :=
  spelledMember?_of_mem free object.ascending (SortedMap.mem_entries_iff.mpr h)

end ObjectMemory.Json
