import ObjectMemory.Proofs.Json.Leaves
import ObjectMemory.Proofs.Json.Limits
import ObjectMemory.Proofs.Json.Numerals

/-!
# Printed values read back

What is printed compactly is read back, by any builder that makes sense of the leaves.  A builder
`Reads` the texts as `key` and the values as `value` when it does so for strings and numbers and
puts arrays and objects together accordingly; then a reader with levels enough takes a printed value
off any text that does not go on with more of a number, and nothing else.

Reading goes down one level of brackets at a time, and so does the proof (`readNested_chars`): a
scalar is read at every level (`readWith_scalar`), and an array or object one level above its parts
(`readWith_arr`, `readWith_obj`).

The values concerned list the members of their objects by key, because that is how they are read.
As which number a printed number is read is up to the builder.
-/

namespace ObjectMemory.Json

variable {κ α : Type}

/-- What a builder makes of printed texts and values. -/
structure Builder.Reads (builder : Builder κ α) (key : String → κ) (value : Value → α) : Prop where
  string : ∀ text rest,
    builder.string (text.toList.flatMap escapeChar ++ '"' :: rest) = .ok (key text, rest)
  number : ∀ (n : Number) rest, EndsNumber rest →
    builder.number n.numeral.negative (n.numeral.digits ++ rest) = .ok (value (.num n), rest)
  null : builder.null = value .null
  bool : ∀ b, builder.bool b = value (.bool b)
  text : ∀ text, builder.text (key text) = value (.str text)
  array : ∀ items, builder.array (items.map value) = value (.arr items)
  object : ∀ members, (members.Pairwise fun a b => compare a.1 b.1 = .lt) →
    builder.object (members.map fun m => (key m.1, value m.2)) = value (.obj members)

/-- A reader takes a printed value off the front of a text. -/
def ReadsBack (item : Reader α) (value : Value → α) (v : Value) : Prop :=
  ∀ rest, EndsNumber rest → item (v.chars ++ rest) = .ok (value v, rest)

/-! ## What printed values start and go on with -/

lemma skipBlanks_cons {c : Char} (rest : List Char) (h : isBlank c = false) :
    skipBlanks (c :: rest) = c :: rest := by
  rw [skipBlanks, List.dropWhile_cons, h]
  rfl

lemma isDigit_ne {c : Char} (h : c.isDigit = true) :
    isBlank c = false ∧ c ≠ ']' ∧ c ≠ '-' ∧ c ≠ 'n' ∧ c ≠ 't' ∧ c ≠ 'f' ∧ c ≠ '"' ∧ c ≠ '[' ∧
      c ≠ '\x7b' := by
  refine ⟨?_, ?_, ?_, ?_, ?_, ?_, ?_, ?_, ?_⟩
  · by_contra hb
    simp only [isBlank, Bool.not_eq_false, Bool.or_eq_true, decide_eq_true_eq] at hb
    rcases hb with ((rfl | rfl) | rfl) | rfl <;> exact absurd h (by decide)
  all_goals
    rintro rfl
    exact absurd h (by decide)

lemma arr_chars (items : List Value) : ∃ inside, (Value.arr items).chars = '[' :: inside := by
  cases items with
  | nil => exact ⟨_, Value.chars.eq_def _⟩
  | cons x xs => exact ⟨_, Value.chars.eq_def _⟩

lemma obj_chars (members : List (String × Value)) :
    ∃ inside, (Value.obj members).chars = '\x7b' :: inside := by
  cases members with
  | nil => exact ⟨_, Value.chars.eq_def _⟩
  | cons m ms => exact ⟨_, Value.chars.eq_def _⟩

/-- A printed value starts with neither a blank nor a closing bracket. -/
lemma chars_eq_cons (v : Value) :
    ∃ c rest, v.chars = c :: rest ∧ isBlank c = false ∧ c ≠ ']' := by
  cases v with
  | null => exact ⟨_, _, rfl, rfl, by decide⟩
  | bool b => cases b <;> exact ⟨_, _, rfl, rfl, by decide⟩
  | num n =>
      rw [Value.chars, n.chars_eq, Numeral.chars]
      split_ifs
      · exact ⟨_, _, rfl, rfl, by decide⟩
      · obtain ⟨c, rest, heq, hc⟩ := n.numeral_wellFormed.digits_eq_cons
        exact ⟨c, rest, heq, (isDigit_ne hc).1, (isDigit_ne hc).2.1⟩
  | str text => exact ⟨_, _, rfl, rfl, by decide⟩
  | arr items =>
      obtain ⟨inside, heq⟩ := arr_chars items
      exact ⟨_, inside, heq, rfl, by decide⟩
  | obj members =>
      obtain ⟨inside, heq⟩ := obj_chars members
      exact ⟨_, inside, heq, rfl, by decide⟩

lemma stringChars_append (text : String) (rest : List Char) :
    stringChars text ++ rest = '"' :: (text.toList.flatMap escapeChar ++ '"' :: rest) := by
  simp [stringChars]

lemma itemsEnd_endsNumber (xs : List Value) (rest : List Char) :
    EndsNumber (itemsEnd xs ++ rest) := by
  cases xs <;> exact endsNumber_cons _ (by decide)

lemma membersEnd_endsNumber (xs : List (String × Value)) (rest : List Char) :
    EndsNumber (membersEnd xs ++ rest) := by
  cases xs <;> exact endsNumber_cons _ (by decide)

/-- There are as many characters as steps are needed. -/
lemma length_lt_itemsEnd (xs : List Value) : xs.length < (itemsEnd xs).length := by
  induction xs with
  | nil => simp [itemsEnd]
  | cons x xs ih => simp only [itemsEnd, List.length_cons, List.length_append]; omega

lemma length_lt_membersEnd (xs : List (String × Value)) :
    xs.length < (membersEnd xs).length := by
  induction xs with
  | nil => simp [membersEnd]
  | cons x xs ih => simp only [membersEnd, List.length_cons, List.length_append]; omega

/-! ## Scalars -/

/-- What starts with a digit is read as a number. -/
lemma readWith_digit (builder : Builder κ α) (item : Option (Reader α)) {c : Char}
    (hc : c.isDigit = true) (rest : List Char) :
    readWith builder item (c :: rest) = builder.number false (c :: rest) := by
  obtain ⟨hblank, -, h₁, h₂, h₃, h₄, h₅, h₆, h₇⟩ := isDigit_ne hc
  simp only [readWith, skipBlanks_cons _ hblank]
  split <;> simp_all

/-- A value without brackets is read at every level. -/
lemma readWith_scalar {builder : Builder κ α} {key : String → κ} {value : Value → α}
    (reads : builder.Reads key value) (item : Option (Reader α)) {v : Value} (hd : v.depth = 0) :
    ReadsBack (readWith builder item) value v := by
  intro rest hrest
  cases v with
  | null => rw [← reads.null]; rfl
  | bool b => cases b <;> rw [← reads.bool] <;> rfl
  | num n =>
      have hread := reads.number n rest hrest
      rw [Value.chars, n.chars_eq, Numeral.chars]
      split_ifs with hneg
      · rw [hneg] at hread
        exact hread
      · rw [Bool.not_eq_true] at hneg
        rw [hneg] at hread
        obtain ⟨c, digits, heq, hc⟩ := n.numeral_wellFormed.digits_eq_cons
        rw [heq, List.cons_append] at hread ⊢
        rwa [readWith_digit builder item hc]
  | str text =>
      rw [Value.chars, stringChars_append]
      simp only [readWith, skipBlanks_cons _ (show isBlank '"' = false from rfl),
        reads.string text rest, bind, Except.bind, reads.text]
      rfl
  | arr items => simp [Value.depth] at hd
  | obj members => simp [Value.depth] at hd

/-! ## Arrays -/

/-- The items of an array from one of them on. -/
lemma readItems_chars {item : Reader α} {value : Value → α} {xs : List Value} :
    ∀ {x : Value} (steps : ℕ) (rest : List Char), xs.length < steps →
      (∀ y ∈ x :: xs, ReadsBack item value y) →
      readItems item steps (x.chars ++ itemsEnd xs ++ rest)
        = .ok ((x :: xs).map value, rest) := by
  induction xs with
  | nil =>
      intro x steps rest hsteps h
      obtain ⟨steps, rfl⟩ := Nat.exists_eq_add_one_of_ne_zero (Nat.ne_of_gt hsteps)
      have hx := h x List.mem_cons_self _ (itemsEnd_endsNumber [] rest)
      rw [List.append_assoc, readItems, hx]
      rfl
  | cons y ys ih =>
      intro x steps rest hsteps h
      rw [List.length_cons] at hsteps
      obtain ⟨steps, rfl⟩ := Nat.exists_eq_add_one_of_ne_zero (Nat.ne_zero_of_lt hsteps)
      have hx := h x List.mem_cons_self _ (itemsEnd_endsNumber (y :: ys) rest)
      have hys := ih (x := y) steps rest (by omega)
        (fun z hz => h z (List.mem_cons_of_mem _ hz))
      -- behind the comma, a closing bracket would be an error of its own
      obtain ⟨c, cs, heq, hblank, hbracket⟩ := chars_eq_cons y
      rw [List.append_assoc, readItems, hx]
      simp only [itemsEnd, List.cons_append, bind, Except.bind,
        skipBlanks_cons _ (show isBlank ',' = false from rfl)]
      rw [heq, List.cons_append, List.cons_append] at hys ⊢
      rw [skipBlanks_cons _ hblank]
      split
      · next hnil => simp at hnil
      · next hclose => simp only [List.cons.injEq] at hclose; exact absurd hclose.1 hbracket
      · rw [hys]
        rfl

/-- The inside of an array, behind its opening bracket. -/
lemma readArray_chars {item : Reader α} {value : Value → α} {items : List Value}
    {inside : List Char} (rest : List Char) (heq : (Value.arr items).chars = '[' :: inside)
    (h : ∀ x ∈ items, ReadsBack item value x) :
    readArray item (inside ++ rest) = .ok (items.map value, rest) := by
  cases items with
  | nil =>
      simp only [Value.chars, List.cons.injEq, true_and] at heq
      rw [← heq]
      rfl
  | cons x xs =>
      simp only [Value.chars, List.cons_append, List.cons.injEq, true_and] at heq
      have hlen : xs.length < (x.chars ++ itemsEnd xs ++ rest).length := by
        have := length_lt_itemsEnd xs
        simp only [List.length_append]
        omega
      have hitems := readItems_chars _ rest hlen h
      obtain ⟨c, cs, hchars, hblank, hbracket⟩ := chars_eq_cons x
      rw [← heq, readArray]
      rw [hchars, List.cons_append, List.cons_append] at hitems ⊢
      rw [skipBlanks_cons _ hblank]
      split
      · next hnil => simp at hnil
      · next hclose => simp only [List.cons.injEq] at hclose; exact absurd hclose.1 hbracket
      · exact hitems

lemma readWith_arr {builder : Builder κ α} {key : String → κ} {value : Value → α}
    (reads : builder.Reads key value) {item : Reader α} {items : List Value}
    (h : ∀ x ∈ items, ReadsBack item value x) :
    ReadsBack (readWith builder (some item)) value (.arr items) := by
  intro rest hrest
  obtain ⟨inside, heq⟩ := arr_chars items
  have harray := readArray_chars rest heq h
  rw [heq, List.cons_append]
  simp only [readWith, skipBlanks_cons _ (show isBlank '[' = false from rfl), harray, bind,
    Except.bind, ← reads.array]
  rfl

/-! ## Objects -/

/-- A member of an object, behind the quote of its key, with its value taken by `item`. -/
lemma readMemberValue_chars {item : Reader α} {value : Value → α} {x : Value} {rest : List Char}
    (hx : ReadsBack item value x) (hrest : EndsNumber rest) :
    readMemberValue item (':' :: (x.chars ++ rest)) = .ok (value x, rest) := by
  simp only [readMemberValue, skipBlanks_cons _ (show isBlank ':' = false from rfl)]
  exact hx rest hrest

/-- The members of an object from behind the quote of a key on. -/
lemma readMembers_chars {builder : Builder κ α} {key : String → κ} {value : Value → α}
    (reads : builder.Reads key value) {item : Reader α} {xs : List (String × Value)} :
    ∀ {m : String × Value} (steps : ℕ) (rest : List Char), xs.length < steps →
      (∀ n ∈ m :: xs, ReadsBack item value n.2) →
      readMembers builder.string item steps
          (m.1.toList.flatMap escapeChar ++ '"' :: ':' :: (m.2.chars ++ (membersEnd xs ++ rest)))
        = .ok ((m :: xs).map fun n => (key n.1, value n.2), rest) := by
  induction xs with
  | nil =>
      intro m steps rest hsteps h
      obtain ⟨steps, rfl⟩ := Nat.exists_eq_add_one_of_ne_zero (Nat.ne_of_gt hsteps)
      have hm := readMemberValue_chars (h m List.mem_cons_self) (membersEnd_endsNumber [] rest)
      rw [readMembers, reads.string]
      simp only [bind, Except.bind, hm]
      rfl
  | cons n ns ih =>
      intro m steps rest hsteps h
      rw [List.length_cons] at hsteps
      obtain ⟨steps, rfl⟩ := Nat.exists_eq_add_one_of_ne_zero (Nat.ne_zero_of_lt hsteps)
      have hm := readMemberValue_chars (h m List.mem_cons_self)
        (membersEnd_endsNumber (n :: ns) rest)
      have hns := ih (m := n) steps rest (by omega)
        (fun z hz => h z (List.mem_cons_of_mem _ hz))
      rw [readMembers, reads.string]
      simp only [bind, Except.bind, hm]
      simp only [membersEnd, List.cons_append, List.append_assoc, stringChars_append,
        skipBlanks_cons _ (show isBlank ',' = false from rfl),
        skipBlanks_cons _ (show isBlank '"' = false from rfl), hns]
      rfl

/-- The inside of an object, behind its opening bracket. -/
lemma readObject_chars {builder : Builder κ α} {key : String → κ} {value : Value → α}
    (reads : builder.Reads key value) {item : Reader α} {members : List (String × Value)}
    {inside : List Char} (rest : List Char) (heq : (Value.obj members).chars = '\x7b' :: inside)
    (h : ∀ m ∈ members, ReadsBack item value m.2) :
    readObject builder.string item (inside ++ rest)
      = .ok (members.map fun m => (key m.1, value m.2), rest) := by
  cases members with
  | nil =>
      simp only [Value.chars, List.cons.injEq, true_and] at heq
      rw [← heq]
      rfl
  | cons m ms =>
      obtain ⟨k, x⟩ := m
      simp only [Value.chars, List.cons_append, List.cons.injEq, true_and] at heq
      have hlen : ms.length <
          (k.toList.flatMap escapeChar ++ '"' :: ':' :: (x.chars ++ (membersEnd ms ++ rest))).length
            + 1 := by
        have := length_lt_membersEnd ms
        simp only [List.length_append, List.length_cons]
        omega
      have hmembers := readMembers_chars reads _ rest hlen h
      rw [← heq]
      simp only [List.append_assoc, List.cons_append, stringChars_append, readObject,
        skipBlanks_cons _ (show isBlank '"' = false from rfl)]
      exact hmembers

lemma readWith_obj {builder : Builder κ α} {key : String → κ} {value : Value → α}
    (reads : builder.Reads key value) {item : Reader α} {members : List (String × Value)}
    (hsorted : members.Pairwise fun a b => compare a.1 b.1 = .lt)
    (h : ∀ m ∈ members, ReadsBack item value m.2) :
    ReadsBack (readWith builder (some item)) value (.obj members) := by
  intro rest hrest
  obtain ⟨inside, heq⟩ := obj_chars members
  have hobject := readObject_chars reads rest heq h
  rw [heq, List.cons_append]
  simp only [readWith, skipBlanks_cons _ (show isBlank '\x7b' = false from rfl), hobject, bind,
    Except.bind, reads.object members hsorted]
  rfl

/-! ## Values -/

/-- **Printed values read back**, by a reader with as many levels as they have, whatever the
builder makes of them. -/
theorem readNested_chars {builder : Builder κ α} {key : String → κ} {value : Value → α}
    (reads : builder.Reads key value) {depth : ℕ} :
    ∀ {v : Value}, v.Canonical → v.depth ≤ depth →
      ReadsBack (readNested builder depth) value v := by
  induction depth with
  | zero =>
      intro v _ hd
      exact readWith_scalar reads none (Nat.le_zero.mp hd)
  | succ depth ih =>
      intro v hc hd
      cases v with
      | arr items =>
          simp only [Value.Canonical, Value.depth, Nat.add_le_add_iff_right] at hc hd
          rw [itemsCanonical] at hc
          rw [depthItems_le] at hd
          exact readWith_arr reads fun x hx => ih (hc x hx) (hd x hx)
      | obj members =>
          simp only [Value.Canonical, Value.depth, Nat.add_le_add_iff_right] at hc hd
          rw [membersCanonical] at hc
          rw [depthMembers_le] at hd
          exact readWith_obj reads hc.1 fun m hm => ih (hc.2 m hm) (hd m hm)
      | _ => exact readWith_scalar reads _ rfl

end ObjectMemory.Json
