import ObjectMemory.Proofs.Json.Codec
import ObjectMemory.Proofs.Json.Canonical

/-!
# Levels of a document

A reader that goes deeper reads no less: what is read within some levels of brackets is read alike
within more, because the levels that are left are only looked at where a bracket opens
(`readNested_extends`).  And what is read within some levels has no more (`readNested_depth`).

So a compact text is decoded to the value that it was printed from, or not at all: with levels
enough it would be read as that value, and the reader of a document cannot read it as another one.
It is read exactly if the value is no deeper than a document may be.

* `Reader.Extends` — a reader reads what another one reads;
* `readWith_extends`, `readNested_extends` — more levels;
* `readNested_depth`, `decode_depth` — the levels of what is read;
* `Value.Decodable` — some text is decoded to the value; `nested` — one of any depth;
* `decode_encode_eq`, `decode_encode_deep` — a printed value is read as what is reread of it or not
  at all, and not at all if it is too deep;
* **`decode_encode_unique`** — of integers, it is read as itself or not at all;
* `decodeObject_eq_ok_iff`, `decodeObject_encode_deep` — the same of objects.
-/

namespace ObjectMemory.Json

variable {κ α : Type}

/-! ## More levels -/

/-- What a reader takes off a text, another one takes off too. -/
def Reader.Extends (more item : Reader α) : Prop :=
  ∀ text front, item text = .ok front → more text = .ok front

/-- Two steps in a row that succeed when two others do. -/
lemma bind_extends {ε β : Type} {first more : Except ε α} {next further : α → Except ε β}
    (hfirst : ∀ a, first = .ok a → more = .ok a)
    (hnext : ∀ a b, next a = .ok b → further a = .ok b) {b : β} (h : first >>= next = .ok b) :
    more >>= further = .ok b := by
  obtain ⟨a, ha, hb⟩ := of_bind_ok h
  rw [hfirst a ha]
  exact hnext a b hb

variable {more item : Reader α}

lemma readItems_extends (h : more.Extends item) (steps : ℕ) :
    Reader.Extends (readItems more steps) (readItems item steps) := by
  induction steps with
  | zero => exact fun text front heq => heq
  | succ steps ih =>
      intro text front heq
      rw [readItems] at heq ⊢
      refine bind_extends (h text) ?_ heq
      rintro ⟨value, next⟩ front
      dsimp only
      split
      · exact id
      · exact id
      · split
        · exact id
        · exact id
        · exact bind_extends (ih _) fun _ _ => id
      · exact id

lemma readMemberValue_extends (h : more.Extends item) :
    Reader.Extends (readMemberValue more) (readMemberValue item) := by
  intro text front
  rw [readMemberValue, readMemberValue]
  split
  · exact id
  · exact h _ front
  · exact id

lemma readMembers_extends {key : Reader κ} (h : more.Extends item) (steps : ℕ) :
    Reader.Extends (readMembers key more steps) (readMembers key item steps) := by
  induction steps with
  | zero => exact fun text front heq => heq
  | succ steps ih =>
      intro text front heq
      rw [readMembers] at heq ⊢
      refine bind_extends (fun _ => id) ?_ heq
      rintro ⟨name, behind⟩ front
      refine bind_extends (readMemberValue_extends h behind) ?_
      rintro ⟨value, next⟩ front
      dsimp only
      split
      · exact id
      · exact id
      · split
        · exact id
        · exact bind_extends (ih _) fun _ _ => id
        · exact id
        · exact id
      · exact id

lemma readArray_extends (h : more.Extends item) :
    Reader.Extends (readArray more) (readArray item) := by
  intro text front
  rw [readArray, readArray]
  split
  · exact id
  · exact id
  · exact readItems_extends h _ _ front

lemma readObject_extends {key : Reader κ} (h : more.Extends item) :
    Reader.Extends (readObject key more) (readObject key item) := by
  intro text front
  rw [readObject, readObject]
  split
  · exact id
  · exact id
  · exact readMembers_extends h _ _ front
  · exact id

/-- Only brackets ask for a reader of what is inside. -/
lemma readWith_extends {builder : Builder κ α} {inside deeper : Option (Reader α)}
    (h : ∀ item ∈ inside, ∃ more ∈ deeper, more.Extends item) :
    Reader.Extends (readWith builder deeper) (readWith builder inside) := by
  intro text front
  rw [readWith, readWith]
  split
  · exact id
  · exact id
  · exact id
  · exact id
  · exact id
  · cases inside with
    | none => rintro ⟨⟩
    | some item =>
        obtain ⟨more, rfl, hmore⟩ := h item rfl
        exact bind_extends (readArray_extends hmore _) fun _ _ => id
  · cases inside with
    | none => rintro ⟨⟩
    | some item =>
        obtain ⟨more, rfl, hmore⟩ := h item rfl
        exact bind_extends (readObject_extends hmore _) fun _ _ => id
  · exact id
  · exact id

/-- **What is read within some levels is read alike within more.** -/
lemma readNested_extends {builder : Builder κ α} {levels further : ℕ} (h : levels ≤ further) :
    Reader.Extends (readNested builder further) (readNested builder levels) := by
  induction levels generalizing further with
  | zero =>
      cases further with
      | zero => exact fun text front => id
      | succ further => exact readWith_extends fun item hitem => by cases hitem
  | succ levels ih =>
      cases further with
      | zero => omega
      | succ further =>
          refine readWith_extends fun item hitem => ⟨readNested builder further, rfl, ?_⟩
          obtain rfl := Option.mem_some_iff.mp hitem
          exact ih (by omega)

/-! ## The levels of a value -/

lemma valueBuilder_scalars_depth (levels : ℕ) :
    valueBuilder.Scalars fun v => v.depth ≤ levels where
  null := Nat.zero_le _
  bool _ := Nat.zero_le _
  text _ _ _ _ := Nat.zero_le _
  number negative text v rest heq := by
    obtain ⟨⟨n, behind⟩, -, heq⟩ := of_bind_ok heq
    exact Reader.yields_pure (P := fun v => v.depth ≤ levels) (Nat.zero_le _) heq

/-- What is read within some levels has no more. -/
lemma readNested_depth (levels : ℕ) :
    Reader.Yields (readNested valueBuilder levels) fun v => v.depth ≤ levels := by
  induction levels with
  | zero =>
      refine readWith_cases (valueBuilder_scalars_depth 0) ?_ ?_
      · exact fun reader hreader => by cases hreader
      · exact fun reader hreader => by cases hreader
  | succ levels ih =>
      refine readWith_cases (valueBuilder_scalars_depth _) ?_ ?_
      · intro reader hreader text items rest heq
        obtain rfl := Option.mem_some_iff.mp hreader
        have hitems := readArray_yields ih _ _ _ heq
        show depthItems items + 1 ≤ levels + 1
        exact Nat.succ_le_succ (depthItems_le.mpr hitems)
      · intro reader hreader text members rest heq
        obtain rfl := Option.mem_some_iff.mp hreader
        have hmembers := readObject_yields Reader.yields_true ih _ _ _ heq
        exact depth_ofObject_le.mpr fun m hm => (hmembers m (SortedMap.mem_of_mem_ofList hm)).2

lemma decode_depth {text : String} {v : Value} (h : decode text = .ok v) :
    v.depth ≤ depthLimit := by
  obtain ⟨⟨result, behind⟩, hread, hcomplete⟩ := of_bind_ok (of_mapError_ok h)
  obtain rfl : result = v := of_complete hcomplete
  exact readNested_depth depthLimit _ _ _ hread

/-- Of a given text, it can be checked that only integers are read for numbers. -/
instance (text : String) : Decidable (∀ v, decode text = .ok v → v.IntegersOnly) :=
  decidable_of_iff ((decode text).toOption.all fun v => decide v.IntegersOnly) (by
    cases decode text <;> simp [Except.toOption])

/-- There is a text that the value is decoded from. -/
def Value.Decodable (v : Value) : Prop := ∃ text, decode text = .ok v

lemma Value.Decodable.canonical {v : Value} (h : v.Decodable) : v.Canonical :=
  decode_canonical h.choose_spec

lemma Value.Decodable.depth_le {v : Value} (h : v.Decodable) : v.depth ≤ depthLimit :=
  decode_depth h.choose_spec

lemma decodable_of_integersOnly {v : Value} (hi : v.IntegersOnly) (hc : v.Canonical)
    (hd : v.depth ≤ depthLimit) : v.Decodable :=
  ⟨v.encode, decode_encode hi hc hd⟩

/-- Nothing, within brackets. -/
def nested : ℕ → Value
  | 0 => .null
  | levels + 1 => .arr [nested levels]

lemma depth_nested (levels : ℕ) : (nested levels).depth = levels := by
  induction levels with
  | zero => rfl
  | succ levels ih => rw [nested, Value.depth, depthItems, depthItems, ih, Nat.max_zero]

lemma decodable_nested (levels : ℕ) (h : levels ≤ depthLimit) : (nested levels).Decodable := by
  have hplain : (nested levels).IntegersOnly ∧ (nested levels).Canonical := by
    clear h
    induction levels with
    | zero => exact ⟨trivial, trivial⟩
    | succ levels ih => exact ⟨⟨ih.1, trivial⟩, ih.2, trivial⟩
  exact decodable_of_integersOnly hplain.1 hplain.2 (by rwa [depth_nested])

/-- A printed value is read as what is reread of it or not at all, whatever its depth. -/
theorem decode_encode_eq {v w : Value} (hc : v.Canonical) (h : decode v.encode = .ok w) :
    w = v.reread := by
  obtain ⟨⟨result, behind⟩, hread, hcomplete⟩ := of_bind_ok (of_mapError_ok h)
  obtain rfl : result = w := of_complete hcomplete
  -- a reader with levels for the value reads what the reader of documents does
  have hdeep := readNested_extends (Nat.le_max_left depthLimit v.depth) _ _ hread
  have hback := readNested_chars valueBuilder_reads hc (Nat.le_max_right depthLimit v.depth) []
    endsNumber_nil
  rw [Value.encode, String.toList_ofList] at hdeep
  rw [List.append_nil, hdeep] at hback
  exact congrArg Prod.fst (Except.ok.inj hback)

/-- A value that is deeper than a document may be is printed, but not read. -/
theorem decode_encode_deep {v : Value} (hc : v.Canonical) (hd : depthLimit < v.depth) :
    ∃ error, decode v.encode = .error error := by
  cases hdecode : decode v.encode with
  | error error => exact ⟨error, rfl⟩
  | ok w =>
      have hshallow := decode_depth hdecode
      rw [decode_encode_eq hc hdecode, depth_reread] at hshallow
      omega

/-- **A printed value is read as itself or not at all**, whatever its depth. -/
theorem decode_encode_unique {v w : Value} (hi : v.IntegersOnly) (hc : v.Canonical)
    (h : decode v.encode = .ok w) : w = v :=
  (decode_encode_eq hc h).trans (reread_of_integersOnly v hi)

/-! ## Objects -/

/-- What is decoded as an object is decoded as a value. -/
lemma decode_of_decodeObject {text : String} {object : Object}
    (h : decodeObject text = .ok object) : decode text = .ok (.ofObject object) := by
  obtain ⟨⟨result, behind⟩, hread, hcomplete⟩ := of_bind_ok (of_mapError_ok h)
  obtain rfl : result = object := of_complete hcomplete
  have hvalue : readValue text.toList = .ok (.ofObject result, behind) := by
    rw [readDocument] at hread
    split at hread
    · next rest hopen =>
        obtain ⟨⟨members, next⟩, hmembers, heq⟩ := of_bind_ok hread
        show readWith valueBuilder (some (readNested valueBuilder (depthLimit - 1))) _ = _
        simp only [readWith, hopen]
        rw [show valueBuilder.string = readString from rfl, hmembers]
        cases heq
        rfl
    · cases hread
  have hend : complete (Value.ofObject result, behind) = .ok (.ofObject result) := by
    rw [complete] at hcomplete ⊢
    split at hcomplete
    · rfl
    · cases hcomplete
  simp only [decode, hvalue, bind, Except.bind, hend]
  rfl

lemma valueBuilder_scalars_object? : valueBuilder.Scalars fun v => v.object? = none where
  null := rfl
  bool _ := rfl
  text _ _ _ _ := rfl
  number negative text v rest heq := by
    obtain ⟨⟨n, behind⟩, -, heq⟩ := of_bind_ok heq
    exact Reader.yields_pure (P := fun v => v.object? = none) rfl heq

/-- Only what is read behind an opening brace is an object. -/
lemma readDocument_of_readValue {text rest : List Char} {members : List (String × Value)}
    (h : readValue text = .ok (.obj members, rest)) :
    ∃ object : Object, object.entries = members ∧ readDocument text = .ok (object, rest) := by
  have hword : ∀ {meaning v : Value} {word start rest : List Char}, meaning.object? = none →
      readWord meaning word start = .ok (v, rest) → v.object? = none :=
    fun hmeaning => readWord_yields (P := fun v : Value => v.object? = none) hmeaning _ _ _ _
  replace h : readWith valueBuilder (some (readNested valueBuilder (depthLimit - 1))) text
      = .ok (.obj members, rest) := h
  rw [readWith] at h
  split at h
  · cases h
  · cases hword rfl h
  · cases hword rfl h
  · cases hword rfl h
  · obtain ⟨⟨string, behind⟩, -, heq⟩ := of_bind_ok h
    cases heq
  · obtain ⟨⟨items, behind⟩, -, heq⟩ := of_bind_ok h
    cases heq
  · next start hopen =>
      obtain ⟨⟨bindings, behind⟩, hbindings, heq⟩ := of_bind_ok h
      cases heq
      refine ⟨.ofList bindings, rfl, ?_⟩
      simp only [readDocument, hopen]
      rw [show readString = valueBuilder.string from rfl, hbindings]
      rfl
  · cases valueBuilder_scalars_object?.number true _ _ _ h
  · split_ifs at h
    cases valueBuilder_scalars_object?.number false _ _ _ h

/-- A text is decoded as an object exactly if it is decoded as a value that is one. -/
theorem decodeObject_eq_ok_iff {text : String} {object : Object} :
    decodeObject text = .ok object ↔ decode text = .ok (.ofObject object) := by
  refine ⟨decode_of_decodeObject, fun h => ?_⟩
  obtain ⟨⟨result, behind⟩, hread, hcomplete⟩ := of_bind_ok (of_mapError_ok h)
  obtain rfl : result = .ofObject object := of_complete hcomplete
  obtain ⟨found, hentries, hdocument⟩ := readDocument_of_readValue hread
  obtain rfl : found = object := by
    rw [← SortedMap.ofList_entries found, hentries, SortedMap.ofList_entries]
  have hend : complete (found, behind) = .ok found := by
    rw [complete] at hcomplete ⊢
    split at hcomplete
    · rfl
    · cases hcomplete
  simp only [decodeObject, hdocument, bind, Except.bind, hend]
  rfl

/-- A value that is decoded is an object by its type if it is one. -/
lemma object?_of_decode {text : String} {v : Value} {object : Object} (h : decode text = .ok v)
    (hobject : v.object? = some object) : v = .ofObject object := by
  cases v with
  | obj members =>
      obtain rfl := Option.some.inj hobject
      obtain ⟨⟨result, behind⟩, hread, hcomplete⟩ := of_bind_ok (of_mapError_ok h)
      obtain rfl : result = .obj members := of_complete hcomplete
      obtain ⟨found, rfl, -⟩ := readDocument_of_readValue hread
      rw [SortedMap.ofList_entries]
      rfl
  | _ => cases hobject

/-- An object that is deeper than a document may be is printed, but not read. -/
theorem decodeObject_encode_deep {object : Object} (hc : MembersCanonical object.entries)
    (hd : depthLimit < (Value.ofObject object).depth) :
    ∃ error, decodeObject object.encode = .error error := by
  have hcanonical : (Value.ofObject object).Canonical := ⟨object.ascending, hc⟩
  cases hdecode : decodeObject object.encode with
  | error error => exact ⟨error, rfl⟩
  | ok read =>
      obtain ⟨error, hdeep⟩ := decode_encode_deep hcanonical hd
      have hvalue : decode (Value.ofObject object).encode = .ok (.ofObject read) :=
        decode_of_decodeObject hdecode
      rw [hdeep] at hvalue
      cases hvalue

end ObjectMemory.Json
