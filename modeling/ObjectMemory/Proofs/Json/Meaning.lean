import ObjectMemory.Proofs.Json.Extent
import ObjectMemory.Proofs.Json.Levels

/-!
# What a spelled document stands for

A document that keeps its spelling stands for a value: numbers and strings for what they spell, if
they spell anything, and arrays and objects for those of their parts.  A document may stand for
none, because one of its numbers is too large, or half of a surrogate pair is in one of its strings,
or its brackets are too deep.

Decoding the text of a spelled document gives the value that it stands for, if there is one, and
fails otherwise.  For this the document has to be one that was read from some text, so that its
numbers and strings are such: `Spelled.Sound`.

* `Spelled.Sound`, `decode?_sound` — what is read is sound;
* `Spelled.value?` — the value that a document stands for, within so many levels;
* `takes_items`, `takes_members`, `takes_chars` — readers take documents for what they stand for;
* **`decode_spelled_iff`** — decoding the text of a document.
-/

namespace ObjectMemory.Json

/-! ## Sound documents -/

/-- A number as it may be written. -/
def SoundNumber (spelling : List Char) : Prop :=
  ∃ negative digits numeral, spelling = (if negative then '-' :: digits else digits) ∧
    (∃ c tail, digits = c :: tail ∧ c.isDigit = true) ∧
    Takes (readNumeral negative) digits (some numeral)

mutual

/-- All numbers and strings in a document, its keys included, are such. -/
def Spelled.Sound : Spelled → Prop
  | .null | .bool _ => True
  | .num spelling => SoundNumber spelling
  | .str inside => Inside inside
  | .arr items => ItemsSound items
  | .obj members => MembersSound members

def ItemsSound : List Spelled → Prop
  | [] => True
  | x :: xs => x.Sound ∧ ItemsSound xs

def MembersSound : List (List Char × Spelled) → Prop
  | [] => True
  | (k, x) :: xs => (Inside k ∧ x.Sound) ∧ MembersSound xs

end

lemma itemsSound {items : List Spelled} : ItemsSound items ↔ ∀ x ∈ items, x.Sound := by
  induction items with
  | nil => simp [ItemsSound]
  | cons x xs ih => simp [ItemsSound, ih]

lemma membersSound {members : List (List Char × Spelled)} :
    MembersSound members ↔ ∀ m ∈ members, Inside m.1 ∧ m.2.Sound := by
  induction members with
  | nil => simp [MembersSound]
  | cons m ms ih => simp [MembersSound, ih]

lemma readInside_yields : Reader.Yields (readInside 0) Inside :=
  fun _ _ _ h => (inside_of_readInside h).2.2

lemma readSpelling_yields (negative : Bool) :
    Reader.Yields (readSpelling negative) Spelled.Sound := by
  intro text spelled rest h
  obtain ⟨⟨numeral, behind⟩, hread, heq⟩ := of_bind_ok h
  obtain ⟨digits, rfl, hstart, htakes⟩ := numeral_of_read hread
  have htake : (digits ++ behind).take ((digits ++ behind).length - behind.length) = digits := by
    rw [List.length_append, Nat.add_sub_cancel, List.take_left]
  refine Reader.yields_pure (P := Spelled.Sound) ?_ heq
  rw [htake]
  exact ⟨negative, digits, numeral, rfl, hstart, htakes⟩

lemma spelledBuilder_keeps_sound : spelledBuilder.Keeps Inside Spelled.Sound where
  string := readInside_yields
  null := trivial
  bool _ := trivial
  text _ h := h
  number := readSpelling_yields
  array _ h := itemsSound.mpr h
  object _ h := membersSound.mpr h

/-- **What is read with its spelling is sound.** -/
theorem decode?_sound {depth : ℕ} {text : String} {document : Spelled}
    (h : Spelled.decode? depth text = some document) : document.Sound := by
  obtain ⟨⟨result, behind⟩, hread, hcomplete⟩ := of_bind_ok (of_toOption_some h)
  obtain rfl : result = document := of_complete hcomplete
  exact readNested_yields spelledBuilder_keeps_sound depth _ _ _ hread

/-! ## Values of documents -/

/-- The value of a number as it is written. -/
def numberOf? : List Char → Option Value
  | '-' :: digits => whole? (readNumberValue true) digits
  | digits => whole? (readNumberValue false) digits

lemma exists_num_of_whole? {negative : Bool} {text : List Char} {v : Value}
    (h : whole? (readNumberValue negative) text = some v) : ∃ n, v = .num n := by
  rw [whole?] at h
  split at h
  · next w hread =>
      obtain rfl := Option.some.inj h
      obtain ⟨⟨n, behind⟩, -, heq⟩ := of_bind_ok hread
      exact Reader.yields_pure (P := fun v => ∃ n, v = Value.num n) ⟨n, rfl⟩ heq
  · cases h

/-- What a number is written as has the value of a number, if it has any. -/
lemma exists_num_of_numberOf? {spelling : List Char} {v : Value} (h : numberOf? spelling = some v) :
    ∃ n, v = .num n := by
  rw [numberOf?.eq_def] at h
  split at h
  · exact exists_num_of_whole? h
  · exact exists_num_of_whole? h

mutual

/-- The value that a document stands for, with at most so many arrays and objects inside each
other. -/
def Spelled.value? : Spelled → (depth : ℕ) → Option Value
  | .null, _ => some .null
  | .bool b, _ => some (.bool b)
  | .num spelling, _ => numberOf? spelling
  | .str inside, _ => (unescape? inside).map .str
  | .arr _, 0 | .obj _, 0 => none
  | .arr items, depth + 1 => (itemsValue? items depth).map .arr
  | .obj members, depth + 1 =>
    (membersValue? members depth).map fun bindings => .ofObject (.ofList bindings)

def itemsValue? : List Spelled → (depth : ℕ) → Option (List Value)
  | [], _ => some []
  | x :: xs, depth =>
    (x.value? depth).bind fun value => (itemsValue? xs depth).map (value :: ·)

def membersValue? : List (List Char × Spelled) → (depth : ℕ) → Option (List (String × Value))
  | [], _ => some []
  | (k, x) :: xs, depth =>
    (unescape? k).bind fun key => (x.value? depth).bind fun value =>
      (membersValue? xs depth).map ((key, value) :: ·)

end

/-! ## How documents start and go on -/

lemma spelledItemsEnd_endsNumber (xs : List Spelled) (rest : List Char) :
    EndsNumber (spelledItemsEnd xs ++ rest) := by
  cases xs <;> exact endsNumber_cons _ (by decide)

lemma spelledMembersEnd_endsNumber (xs : List (List Char × Spelled)) (rest : List Char) :
    EndsNumber (spelledMembersEnd xs ++ rest) := by
  cases xs <;> exact endsNumber_cons _ (by decide)

lemma length_lt_spelledItemsEnd (xs : List Spelled) :
    xs.length < (spelledItemsEnd xs).length := by
  induction xs with
  | nil => simp [spelledItemsEnd]
  | cons x xs ih => simp only [spelledItemsEnd, List.length_cons, List.length_append]; omega

lemma length_lt_spelledMembersEnd (xs : List (List Char × Spelled)) :
    xs.length < (spelledMembersEnd xs).length := by
  induction xs with
  | nil => simp [spelledMembersEnd]
  | cons x xs ih => simp only [spelledMembersEnd, List.length_cons, List.length_append]; omega

/-- A document starts with neither a blank nor a closing bracket. -/
lemma Spelled.Sound.chars_eq_cons {document : Spelled} (h : document.Sound) :
    ∃ c rest, document.chars = c :: rest ∧ isBlank c = false ∧ c ≠ ']' := by
  cases document with
  | null => exact ⟨_, _, rfl, rfl, by decide⟩
  | bool b => cases b <;> exact ⟨_, _, rfl, rfl, by decide⟩
  | num spelling =>
      obtain ⟨negative, digits, numeral, rfl, ⟨c, tail, rfl, hc⟩, -⟩ := h
      rw [Spelled.chars]
      split_ifs
      · exact ⟨_, _, rfl, rfl, by decide⟩
      · exact ⟨_, _, rfl, (isDigit_ne hc).1, (isDigit_ne hc).2.1⟩
  | str inside => exact ⟨_, _, rfl, rfl, by decide⟩
  | arr items => cases items <;> exact ⟨_, _, Spelled.chars.eq_def _, rfl, by decide⟩
  | obj members => rcases members with _ | ⟨⟨k, x⟩, xs⟩ <;>
      exact ⟨_, _, Spelled.chars.eq_def _, rfl, by decide⟩

/-! ## Scalars -/

/-- A document without brackets. -/
def Spelled.IsScalar : Spelled → Prop
  | .arr _ | .obj _ => False
  | _ => True

lemma takes_num (item : Option (Reader Value)) {spelling : List Char} (h : SoundNumber spelling) :
    Takes (readWith valueBuilder item) spelling (numberOf? spelling) := by
  obtain ⟨negative, digits, numeral, rfl, ⟨c, tail, rfl, hc⟩, htakes⟩ := h
  have hnumber := takes_number htakes
  cases negative with
  | true => exact hnumber
  | false =>
      have hminus : c ≠ '-' := (isDigit_ne hc).2.2.1
      have hvalue : numberOf? (c :: tail) = whole? (readNumberValue false) (c :: tail) := by
        rw [numberOf?]
        rintro digits ⟨⟩
        exact hminus rfl
      intro rest hrest taken
      simp only [Bool.false_eq_true, if_false]
      rw [hvalue, List.cons_append, readWith_digit valueBuilder item hc]
      exact hnumber rest hrest taken

/-- A scalar is taken at every level. -/
lemma takes_scalar (item : Option (Reader Value)) {document : Spelled} (sound : document.Sound)
    (scalar : document.IsScalar) (depth : ℕ) :
    Takes (readWith valueBuilder item) document.chars (document.value? depth) := by
  cases document with
  | null => exact takes_of_ok fun rest _ => rfl
  | bool b => cases b <;> exact takes_of_ok fun rest _ => rfl
  | num spelling => exact takes_num item sound
  | str inside => exact (takes_inside sound).map Value.str fun rest => rfl
  | arr items | obj members => exact scalar.elim

/-! ## Arrays -/

/-- The items of an array from one of them on. -/
lemma takes_items {item : Reader Value} {depth : ℕ} {xs : List Spelled} :
    ∀ {x : Spelled} (steps : ℕ), xs.length < steps → (∀ y ∈ x :: xs, y.Sound) →
      (∀ y ∈ x :: xs, Takes item y.chars (y.value? depth)) →
      Takes (readItems item steps) (x.chars ++ spelledItemsEnd xs)
        (itemsValue? (x :: xs) depth) := by
  induction xs with
  | nil =>
      intro x steps hsteps sound h
      obtain ⟨steps, rfl⟩ := Nat.exists_eq_add_one_of_ne_zero (Nat.ne_of_gt hsteps)
      refine Takes.bind (fun text => rfl) (h x List.mem_cons_self)
        (fun rest _ => spelledItemsEnd_endsNumber [] rest) fun value => ?_
      exact takes_of_ok fun rest _ => rfl
  | cons y ys ih =>
      intro x steps hsteps sound h
      rw [List.length_cons] at hsteps
      obtain ⟨steps, rfl⟩ := Nat.exists_eq_add_one_of_ne_zero (Nat.ne_zero_of_lt hsteps)
      have hys := ih (x := y) steps (by omega) (fun z hz => sound z (List.mem_cons_of_mem _ hz))
        fun z hz => h z (List.mem_cons_of_mem _ hz)
      refine Takes.bind (fun text => rfl) (h x List.mem_cons_self)
        (fun rest _ => spelledItemsEnd_endsNumber (y :: ys) rest) fun value => ?_
      refine hys.map (value :: ·) fun rest => ?_
      -- behind the comma, a closing bracket would be an error of its own
      obtain ⟨c, cs, heq, hblank, hbracket⟩ :=
        (sound y (List.mem_cons_of_mem _ List.mem_cons_self)).chars_eq_cons
      simp only [spelledItemsEnd, List.cons_append,
        skipBlanks_cons _ (show isBlank ',' = false from rfl)]
      rw [heq, List.cons_append, List.cons_append, skipBlanks_cons _ hblank]
      split
      · next hnil => simp at hnil
      · next hclose => simp only [List.cons.injEq] at hclose; exact absurd hclose.1 hbracket
      · rfl

lemma takes_arr {item : Reader Value} {depth : ℕ} {items : List Spelled}
    (sound : ∀ x ∈ items, x.Sound) (h : ∀ x ∈ items, Takes item x.chars (x.value? depth)) :
    Takes (readWith valueBuilder (some item)) (Spelled.arr items).chars
      ((Spelled.arr items).value? (depth + 1)) := by
  cases items with
  | nil => exact takes_of_ok fun rest _ => rfl
  | cons x xs =>
      have hitems : Takes (readArray item) (x.chars ++ spelledItemsEnd xs)
          (itemsValue? (x :: xs) depth) := by
        intro rest hrest taken
        have hlen : xs.length < (x.chars ++ spelledItemsEnd xs ++ rest).length := by
          have := length_lt_spelledItemsEnd xs
          simp only [List.length_append]
          omega
        obtain ⟨c, cs, heq, hblank, hbracket⟩ := (sound x List.mem_cons_self).chars_eq_cons
        rw [← takes_items _ hlen sound h rest hrest taken, readArray]
        rw [heq, List.cons_append, List.cons_append, skipBlanks_cons _ hblank]
        split
        · next hnil => simp at hnil
        · next hclose => simp only [List.cons.injEq] at hclose; exact absurd hclose.1 hbracket
        · rfl
      refine hitems.map Value.arr fun rest => ?_
      simp only [Spelled.chars, List.cons_append, readWith,
        skipBlanks_cons _ (show isBlank '[' = false from rfl)]
      rfl

/-! ## Objects -/

lemma takes_memberValue {item : Reader Value} {x : Spelled} {made : Option Value}
    (h : Takes item x.chars made) : Takes (readMemberValue item) (':' :: x.chars) made :=
  fun rest hrest => h rest hrest

/-- The members of an object from behind the quote of a key on. -/
lemma takes_members {item : Reader Value} {depth : ℕ} {ms : List (List Char × Spelled)} :
    ∀ {m : List Char × Spelled} (steps : ℕ), ms.length < steps → (∀ n ∈ m :: ms, Inside n.1) →
      (∀ n ∈ m :: ms, Takes item n.2.chars (n.2.value? depth)) →
      Takes (readMembers readString item steps)
        (m.1 ++ ['"'] ++ (':' :: m.2.chars ++ spelledMembersEnd ms))
        (membersValue? (m :: ms) depth) := by
  induction ms with
  | nil =>
      rintro ⟨k, x⟩ steps hsteps inside h
      obtain ⟨steps, rfl⟩ := Nat.exists_eq_add_one_of_ne_zero (Nat.ne_of_gt hsteps)
      refine Takes.bind (fun text => rfl) (takes_inside (inside (k, x) List.mem_cons_self))
        (fun rest _ => endsNumber_cons _ (by decide)) fun key => ?_
      refine Takes.bind (fun text => rfl) (takes_memberValue (h (k, x) List.mem_cons_self))
        (fun rest _ => spelledMembersEnd_endsNumber [] rest) fun value => ?_
      exact takes_of_ok fun rest _ => rfl
  | cons n ns ih =>
      rintro ⟨k, x⟩ steps hsteps inside h
      rw [List.length_cons] at hsteps
      obtain ⟨steps, rfl⟩ := Nat.exists_eq_add_one_of_ne_zero (Nat.ne_zero_of_lt hsteps)
      have hns := ih (m := n) steps (by omega) (fun z hz => inside z (List.mem_cons_of_mem _ hz))
        fun z hz => h z (List.mem_cons_of_mem _ hz)
      refine Takes.bind (fun text => rfl) (takes_inside (inside (k, x) List.mem_cons_self))
        (fun rest _ => endsNumber_cons _ (by decide)) fun key => ?_
      refine Takes.bind (fun text => rfl) (takes_memberValue (h (k, x) List.mem_cons_self))
        (fun rest _ => spelledMembersEnd_endsNumber (n :: ns) rest) fun value => ?_
      refine hns.map ((key, value) :: ·) fun rest => ?_
      simp only [spelledMembersEnd, quoteInside, List.cons_append, List.append_assoc,
        skipBlanks_cons _ (show isBlank ',' = false from rfl),
        skipBlanks_cons _ (show isBlank '"' = false from rfl)]

lemma takes_obj {item : Reader Value} {depth : ℕ} {members : List (List Char × Spelled)}
    (inside : ∀ m ∈ members, Inside m.1)
    (h : ∀ m ∈ members, Takes item m.2.chars (m.2.value? depth)) :
    Takes (readWith valueBuilder (some item)) (Spelled.obj members).chars
      ((Spelled.obj members).value? (depth + 1)) := by
  cases members with
  | nil => exact takes_of_ok fun rest _ => rfl
  | cons m ms =>
      obtain ⟨k, x⟩ := m
      have hmembers : Takes (readObject readString item)
          ('"' :: (k ++ ['"'] ++ (':' :: x.chars ++ spelledMembersEnd ms)))
          (membersValue? ((k, x) :: ms) depth) := by
        intro rest hrest taken
        have hlen : ms.length
            < (k ++ ['"'] ++ (':' :: x.chars ++ spelledMembersEnd ms) ++ rest).length + 1 := by
          have := length_lt_spelledMembersEnd ms
          simp only [List.length_append, List.length_cons]
          omega
        rw [← takes_members _ hlen inside h rest hrest taken, readObject, List.cons_append,
          skipBlanks_cons _ (show isBlank '"' = false from rfl)]
        exact Iff.rfl
      refine hmembers.map (fun bindings => Value.ofObject (.ofList bindings)) fun rest => ?_
      simp only [Spelled.chars, quoteInside, List.cons_append, List.append_assoc, readWith,
        skipBlanks_cons _ (show isBlank '\x7b' = false from rfl)]
      rfl

/-! ## Documents -/

/-- **A reader takes a sound document for what it stands for**, or does not take it. -/
theorem takes_chars {depth : ℕ} :
    ∀ {document : Spelled}, document.Sound →
      Takes (readNested valueBuilder depth) document.chars (document.value? depth) := by
  induction depth with
  | zero =>
      intro document sound
      cases document with
      | arr items =>
          refine takes_of_error fun rest _ => ?_
          cases items <;> exact ⟨_, rfl⟩
      | obj members =>
          refine takes_of_error fun rest _ => ?_
          rcases members with _ | ⟨⟨k, x⟩, ms⟩ <;> exact ⟨_, rfl⟩
      | _ => exact takes_scalar none sound trivial 0
  | succ depth ih =>
      intro document sound
      cases document with
      | arr items =>
          have hitems := itemsSound.mp sound
          exact takes_arr hitems fun x hx => ih (hitems x hx)
      | obj members =>
          have hmembers := membersSound.mp sound
          exact takes_obj (fun m hm => (hmembers m hm).1) fun m hm => ih (hmembers m hm).2
      | _ => exact takes_scalar _ sound trivial _

/-- **The text of a sound document is decoded to the value that it stands for**, and cannot be
decoded if it stands for none. -/
theorem decode_spelled_iff {document : Spelled} (sound : document.Sound) {v : Value} :
    decode document.encode = .ok v ↔ document.value? depthLimit = some v := by
  have htakes : Takes readValue document.chars (document.value? depthLimit) := takes_chars sound
  have hread := htakes [] endsNumber_nil
  rw [List.append_nil] at hread
  rw [decode, Spelled.encode, String.toList_ofList]
  constructor
  · intro h
    obtain ⟨taken, htaken, hcomplete⟩ := of_bind_ok (of_mapError_ok h)
    obtain ⟨w, hw, rfl⟩ := (hread taken).mp htaken
    obtain rfl : w = v := of_complete hcomplete
    exact hw
  · intro h
    have hvalue : readValue document.chars = .ok (v, []) := (hread _).mpr ⟨v, h, rfl⟩
    simp only [hvalue, bind, Except.bind, complete]
    rfl

end ObjectMemory.Json
