import ObjectMemory.Collection.Dictionary
import ObjectMemory.Collection.Sequence
import ObjectMemory.Proofs.Json.Codec
import ObjectMemory.Proofs.Json.Levels

/-!
# The text of a collection

A collection is read from a text however this is spelled, and written in one spelling.  What is
written is read as it was, if its numbers are integers and it is no deeper than a reader goes, which
is so for all that was read itself.  So what is written of a text that was read is written again the
same way, and two collections are not written the same.

Sequences and dictionaries differ only in what they make of a value, and in the value that they are
written as (`Form`).

* `Value.Lossless` — values that come back from their texts;
* `Form`, `sequences`, `dictionaries` — the two forms of collections;
* `Form.ofText_encode`, `Form.ofText_encode_deep`, `Form.encode_inj` — what is written;
* `Form.lossless_ofText`, `Form.ofText_encode_ofText` — what was read, and is written;
* `Opens`, `decode_of_opens` — what the first bracket of a text settles;
* **`text_lossless`** — all of it, for both forms.
-/

namespace ObjectMemory

namespace Json

/-- A value that comes back from its text: of integers for numbers, with the members of objects in
order, and no deeper than a reader goes. -/
structure Value.Lossless (v : Value) : Prop where
  integers : v.IntegersOnly
  canonical : v.Canonical
  shallow : v.depth ≤ depthLimit

lemma Value.Lossless.decode_encode {v : Value} (h : v.Lossless) : decode v.encode = .ok v :=
  Json.decode_encode h.integers h.canonical h.shallow

/-- What is read is lossless if its numbers are integers. -/
lemma lossless_of_decode {text : String} {v : Value} (h : decode text = .ok v)
    (integers : v.IntegersOnly) : v.Lossless := ⟨integers, decode_canonical h, decode_depth h⟩

/-- The first character of a text that is no blank. -/
def Opens (text : String) (bracket : Char) : Prop :=
  ∃ inside, skipBlanks text.toList = bracket :: inside

/-- **What opens like an array or object** is read as one, if it is read at all. -/
lemma decode_of_opens {text : String} {v : Value} (h : decode text = .ok v) :
    (Opens text '[' → ∃ items, v = .arr items) ∧
      (Opens text '\x7b' → ∃ members, v = .obj members) := by
  obtain ⟨⟨result, behind⟩, hread, hcomplete⟩ := of_bind_ok (of_mapError_ok h)
  obtain rfl : result = v := of_complete hcomplete
  replace hread : readWith valueBuilder (some (readNested valueBuilder (depthLimit - 1)))
      text.toList = .ok (result, behind) := hread
  constructor
  · rintro ⟨inside, hopens⟩
    simp only [readWith, hopens] at hread
    obtain ⟨⟨items, rest⟩, -, heq⟩ := of_bind_ok hread
    cases heq
    exact ⟨items, rfl⟩
  · rintro ⟨inside, hopens⟩
    simp only [readWith, hopens] at hread
    obtain ⟨⟨members, rest⟩, -, heq⟩ := of_bind_ok hread
    cases heq
    exact ⟨_, rfl⟩

end Json

namespace Collection

open Json

/-! ## Forms -/

/-- A form of collections: how they are read and written, as a text and as a value.  A value of
another form is an empty collection. -/
structure Form (α : Type) where
  ofText : String → α
  ofValue : Value → α
  empty : α
  value : α → Value
  encode : α → String
  encode_eq : ∀ collection, encode collection = (value collection).encode
  ofText_eq : ∀ text, ofText text = ((decode text).toOption.map ofValue).getD empty
  ofValue_value : ∀ collection, ofValue (value collection) = collection
  value_ofValue : ∀ v, v.Canonical → value (ofValue v) = v ∨ ofValue v = empty
  empty_lossless : (value empty).Lossless

def sequences : Form Sequence where
  ofText := .ofText
  ofValue := .ofValue
  empty := .empty
  value sequence := .arr sequence.items
  encode := Sequence.encode
  encode_eq _ := rfl
  ofText_eq text := by
    rw [Sequence.ofText]
    cases decode text <;> rfl
  ofValue_value _ := rfl
  value_ofValue v _ := by
    cases v with
    | arr items => exact .inl rfl
    | _ => exact .inr rfl
  empty_lossless := ⟨by decide, by decide, by decide⟩

def dictionaries : Form Dictionary where
  ofText := .ofText
  ofValue := .ofValue
  empty := .empty
  value dictionary := .ofObject dictionary.entries
  encode := Dictionary.encode
  encode_eq _ := rfl
  ofText_eq text := by
    rw [Dictionary.ofText]
    cases decode text <;> rfl
  ofValue_value dictionary := by
    show Dictionary.mk (.ofList dictionary.entries.entries) = dictionary
    rw [SortedMap.ofList_entries]
  value_ofValue v hcanonical := by
    cases v with
    | obj members =>
        refine .inl ?_
        show Value.obj (SortedMap.ofList members).entries = _
        rw [SortedMap.entries_ofList hcanonical.1]
    | _ => exact .inr rfl
  empty_lossless := ⟨by decide, by decide, by decide⟩

namespace Form

variable {α : Type} (form : Form α) {text : String}

lemma ofText_of_ok {v : Value} (h : decode text = .ok v) : form.ofText text = form.ofValue v := by
  rw [form.ofText_eq, h]
  rfl

lemma ofText_of_error {error : SyntaxError} (h : decode text = .error error) :
    form.ofText text = form.empty := by
  rw [form.ofText_eq, h]
  rfl

/-- **What is written is read** as it was. -/
lemma ofText_encode (collection : α) (h : (form.value collection).Lossless) :
    form.ofText (form.encode collection) = collection := by
  rw [form.encode_eq, form.ofText_of_ok h.decode_encode, form.ofValue_value]

/-- Beyond the depth of a reader, nothing is read. -/
lemma ofText_encode_deep (collection : α) (canonical : (form.value collection).Canonical)
    (deep : depthLimit < (form.value collection).depth) :
    form.ofText (form.encode collection) = form.empty := by
  obtain ⟨error, hdecode⟩ := decode_encode_deep canonical deep
  rw [form.encode_eq, form.ofText_of_error hdecode]

lemma encode_inj (collection other : α) (h : (form.value collection).Lossless)
    (hother : (form.value other).Lossless) (heq : form.encode collection = form.encode other) :
    collection = other :=
  calc collection = form.ofText (form.encode collection) := (form.ofText_encode collection h).symm
    _ = form.ofText (form.encode other) := by rw [heq]
    _ = other := form.ofText_encode other hother

/-- What was read is lossless. -/
lemma lossless_ofText (integers : ∀ v, decode text = .ok v → v.IntegersOnly) :
    (form.value (form.ofText text)).Lossless := by
  cases hdecode : decode text with
  | error error =>
      rw [form.ofText_of_error hdecode]
      exact form.empty_lossless
  | ok v =>
      rw [form.ofText_of_ok hdecode]
      rcases form.value_ofValue v (decode_canonical hdecode) with hvalue | hempty
      · rw [hvalue]
        exact lossless_of_decode hdecode (integers v hdecode)
      · rw [hempty]
        exact form.empty_lossless

/-- **What was read and written** is read as it was before. -/
lemma ofText_encode_ofText (integers : ∀ v, decode text = .ok v → v.IntegersOnly) :
    form.ofText (form.encode (form.ofText text)) = form.ofText text :=
  form.ofText_encode _ (form.lossless_ofText integers)

end Form

/-! ## Texts of the other form -/

lemma dictionary_ofText_of_arr {text : String}
    (h : Opens text '[' ∨ ∃ items, decode text = .ok (.arr items)) :
    Dictionary.ofText text = .empty := by
  rw [Dictionary.ofText]
  cases hdecode : decode text with
  | error error => rfl
  | ok v =>
      obtain ⟨items, rfl⟩ : ∃ items, v = .arr items := by
        rcases h with hopens | ⟨items, hitems⟩
        · exact (decode_of_opens hdecode).1 hopens
        · exact ⟨items, Except.ok.inj (hdecode.symm.trans hitems)⟩
      rfl

lemma sequence_ofText_of_obj {text : String}
    (h : Opens text '\x7b' ∨ ∃ members, decode text = .ok (.obj members)) :
    Sequence.ofText text = .empty := by
  rw [Sequence.ofText]
  cases hdecode : decode text with
  | error error => rfl
  | ok v =>
      obtain ⟨members, rfl⟩ : ∃ members, v = .obj members := by
        rcases h with hopens | ⟨members, hmembers⟩
        · exact (decode_of_opens hdecode).2 hopens
        · exact ⟨members, Except.ok.inj (hdecode.symm.trans hmembers)⟩
      rfl

/-! ## Both forms -/

/-- **The text of a collection loses nothing and has one spelling.**  A sequence or dictionary of
integers for numbers, and no deeper than a reader goes, is read from its text as it was, also where
the text is the value of a variable; a deeper one is read as empty.  No two of one form have the
same text.  As the other form, a text that opens like a collection is read as empty.  And however a
text is spelled, if it has no floating-point number for its reader, what is written of it is written
again the same way. -/
theorem text_lossless :
    (∀ sequence : Sequence, (Value.arr sequence.items).Lossless →
      .ofText sequence.encode = sequence ∧
        .ofVariable (some (.str sequence.encode)) = sequence) ∧
    (∀ dictionary : Dictionary, (Value.ofObject dictionary.entries).Lossless →
      .ofText dictionary.encode = dictionary ∧
        .ofVariable (some (.str dictionary.encode)) = dictionary) ∧
    (∀ sequence : Sequence, (Value.arr sequence.items).Canonical →
      depthLimit < (Value.arr sequence.items).depth → Sequence.ofText sequence.encode = .empty) ∧
    (∀ dictionary : Dictionary, (Value.ofObject dictionary.entries).Canonical →
      depthLimit < (Value.ofObject dictionary.entries).depth →
        Dictionary.ofText dictionary.encode = .empty) ∧
    (∀ a b : Sequence, (Value.arr a.items).Lossless → (Value.arr b.items).Lossless →
      a.encode = b.encode → a = b) ∧
    (∀ a b : Dictionary, (Value.ofObject a.entries).Lossless →
      (Value.ofObject b.entries).Lossless → a.encode = b.encode → a = b) ∧
    ∀ text,
      (Opens text '[' ∨ (∃ items, decode text = .ok (.arr items)) →
        Dictionary.ofText text = .empty) ∧
      (Opens text '\x7b' ∨ (∃ members, decode text = .ok (.obj members)) →
        Sequence.ofText text = .empty) ∧
      ((∀ v, decode text = .ok v → v.IntegersOnly) →
        (Sequence.ofText (Sequence.ofText text).encode).encode = (Sequence.ofText text).encode ∧
        (Dictionary.ofText (Dictionary.ofText text).encode).encode
          = (Dictionary.ofText text).encode) := by
  refine ⟨fun sequence h =>
      ⟨sequences.ofText_encode sequence h, sequences.ofText_encode sequence h⟩,
    fun dictionary h =>
      ⟨dictionaries.ofText_encode dictionary h, dictionaries.ofText_encode dictionary h⟩,
    sequences.ofText_encode_deep, dictionaries.ofText_encode_deep, sequences.encode_inj,
    dictionaries.encode_inj, fun text =>
    ⟨dictionary_ofText_of_arr, sequence_ofText_of_obj, fun integers => ⟨?_, ?_⟩⟩⟩
  · have hread := sequences.ofText_encode_ofText integers
    simp only [sequences] at hread
    rw [hread]
  · have hread := dictionaries.ofText_encode_ofText integers
    simp only [dictionaries] at hread
    rw [hread]

lemma least_inRange : (-0x8000000000000000 : ℤ) ≤ -0x8000000000000000 ∧
    (-0x8000000000000000 : ℤ) < 0x10000000000000000 := by decide

lemma greatest_inRange : (-0x8000000000000000 : ℤ) ≤ 0xffffffffffffffff ∧
    (0xffffffffffffffff : ℤ) < 0x10000000000000000 := by decide

/-- The least and the greatest integer, and a text that needs every kind of escape. -/
def limits : Sequence :=
  ⟨[.num (.integer (-0x8000000000000000) least_inRange),
    .obj [("", .num (.integer 0xffffffffffffffff greatest_inRange)),
      ("é", .str "\"\\\n\x00😀")]]⟩

/-- A text with blanks, an escaped key, and a key that is repeated. -/
def shuffledText : String := " \x7b\"b\" :1, \"\\u0061\":[ -7 ],\t\"b\": null\x7d "

theorem text_lossless_limits :
    (Value.arr limits.items).Lossless ∧ Sequence.ofText limits.encode = limits ∧
      (∀ v, decode shuffledText = .ok v → v.IntegersOnly) ∧
      (Dictionary.ofText (Dictionary.ofText shuffledText).encode).encode
        = (Dictionary.ofText shuffledText).encode ∧
      Opens shuffledText '\x7b' ∧ Sequence.ofText shuffledText = .empty := by
  have hlimits : (Value.arr limits.items).Lossless := ⟨by decide, by decide, by decide⟩
  have hintegers : ∀ v, decode shuffledText = .ok v → v.IntegersOnly := by decide +kernel
  have hopens : Opens shuffledText '\x7b' := ⟨_, rfl⟩
  obtain ⟨hsequence, -, -, -, -, -, htexts⟩ := text_lossless
  obtain ⟨-, hempty, hfixed⟩ := htexts shuffledText
  exact ⟨hlimits, (hsequence limits hlimits).1, hintegers, (hfixed hintegers).2, hopens,
    hempty (.inl hopens)⟩

end Collection

end ObjectMemory
