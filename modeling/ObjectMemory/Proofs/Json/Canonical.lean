import ObjectMemory.Json.Reader
import ObjectMemory.Proofs.Json.Limits
import ObjectMemory.SortedMap.Lemmas

/-!
# What is read is canonical

Whatever the text, a value that is read lists the members of each object in it by key, each key
once.  Members go through a sorted map on their way into an object, and the readers of arrays and
objects only hand on what was read inside.

* `Reader.Yields` — a reader gives nothing without a property;
* `readItems_yields`, `readMembers_yields`, `readWith_cases`, `readWith_yields` — one level hands a
  property on;
* `readNested_canonical`, `decode_canonical`, `decodeObject_canonical` — what is read.
-/

namespace ObjectMemory.Json

variable {κ α : Type}

/-- What a reader gives has a property. -/
def Reader.Yields (item : Reader α) (P : α → Prop) : Prop :=
  ∀ text a rest, item text = .ok (a, rest) → P a

lemma Reader.yields_true {item : Reader α} : item.Yields fun _ => True := fun _ _ _ _ => trivial

/-- Two steps that succeeded, one after the other. -/
lemma of_bind_ok {ε β : Type} {first : Except ε α} {next : α → Except ε β} {b : β}
    (h : first >>= next = .ok b) : ∃ a, first = .ok a ∧ next a = .ok b := by
  cases first with
  | error e => simp [bind, Except.bind] at h
  | ok a => exact ⟨a, rfl, h⟩

/-- A result of which only the success was kept. -/
lemma of_toOption_some {ε : Type} {result : Except ε α} {a : α} (h : result.toOption = some a) :
    result = .ok a := by
  cases result with
  | error e => cases h
  | ok b => exact congrArg _ (Option.some.inj h)

lemma Reader.yields_pure {P : α → Prop} {a : α} (h : P a) :
    ∀ {b : α} {text rest : List Char}, (pure (a, text) : Except Fault (Front α)) = .ok (b, rest) →
      P b := by
  intro b text rest heq
  simp only [pure, Except.pure, Except.ok.injEq, Prod.mk.injEq] at heq
  exact heq.1 ▸ h

/-! ## One level of brackets -/

lemma readItems_yields {item : Reader α} {P : α → Prop} (h : item.Yields P) (steps : ℕ) :
    Reader.Yields (readItems item steps) fun as => ∀ a ∈ as, P a := by
  induction steps with
  | zero =>
      intro text as rest heq
      simp [readItems] at heq
  | succ steps ih =>
      intro text as rest heq
      rw [readItems] at heq
      obtain ⟨⟨a, next⟩, hitem, heq⟩ := of_bind_ok heq
      dsimp only at heq
      have ha : P a := h _ _ _ hitem
      split at heq
      · cases heq
      · exact Reader.yields_pure (P := fun as => ∀ a ∈ as, P a) (by simpa using ha) heq
      · split at heq
        · cases heq
        · cases heq
        · obtain ⟨⟨more, final⟩, hmore, heq⟩ := of_bind_ok heq
          have hmore := ih _ _ _ hmore
          exact Reader.yields_pure (P := fun as => ∀ a ∈ as, P a)
            (List.forall_mem_cons.mpr ⟨ha, hmore⟩) heq
      · cases heq

lemma readMembers_yields {key : Reader κ} {item : Reader α} {Q : κ → Prop} {P : α → Prop}
    (hkey : key.Yields Q) (h : item.Yields P) (steps : ℕ) :
    Reader.Yields (readMembers key item steps) fun ms => ∀ m ∈ ms, Q m.1 ∧ P m.2 := by
  induction steps with
  | zero =>
      intro text ms rest heq
      simp [readMembers] at heq
  | succ steps ih =>
      intro text ms rest heq
      rw [readMembers] at heq
      obtain ⟨⟨name, behind⟩, hname, heq⟩ := of_bind_ok heq
      obtain ⟨⟨a, next⟩, hitem, heq⟩ := of_bind_ok heq
      dsimp only at heq
      have hq : Q name := hkey _ _ _ hname
      have ha : P a := by
        rw [readMemberValue] at hitem
        split at hitem
        · cases hitem
        · exact h _ _ _ hitem
        · cases hitem
      split at heq
      · cases heq
      · exact Reader.yields_pure (P := fun ms : List (κ × α) => ∀ m ∈ ms, Q m.1 ∧ P m.2)
          (by simpa using ⟨hq, ha⟩) heq
      · split at heq
        · cases heq
        · obtain ⟨⟨more, final⟩, hmore, heq⟩ := of_bind_ok heq
          have hmore := ih _ _ _ hmore
          exact Reader.yields_pure (P := fun ms : List (κ × α) => ∀ m ∈ ms, Q m.1 ∧ P m.2)
            (List.forall_mem_cons.mpr ⟨⟨hq, ha⟩, hmore⟩) heq
        · cases heq
        · cases heq
      · cases heq

lemma readArray_yields {item : Reader α} {P : α → Prop} (h : item.Yields P) :
    Reader.Yields (readArray item) fun as => ∀ a ∈ as, P a := by
  intro text as rest heq
  rw [readArray] at heq
  split at heq
  · cases heq
  · simp only [Except.ok.injEq, Prod.mk.injEq] at heq
    rw [← heq.1]
    simp
  · exact readItems_yields h _ _ _ _ heq

lemma readObject_yields {key : Reader κ} {item : Reader α} {Q : κ → Prop} {P : α → Prop}
    (hkey : key.Yields Q) (h : item.Yields P) :
    Reader.Yields (readObject key item) fun ms => ∀ m ∈ ms, Q m.1 ∧ P m.2 := by
  intro text ms rest heq
  rw [readObject] at heq
  split at heq
  · cases heq
  · simp only [Except.ok.injEq, Prod.mk.injEq] at heq
    rw [← heq.1]
    simp
  · exact readMembers_yields hkey h _ _ _ _ heq
  · cases heq

lemma readWord_yields {P : α → Prop} {meaning : α} (h : P meaning) (word : List Char) :
    Reader.Yields (readWord meaning word) P := by
  induction word with
  | nil =>
      intro text a rest heq
      simp only [readWord, Except.ok.injEq, Prod.mk.injEq] at heq
      exact heq.1 ▸ h
  | cons w word ih =>
      intro text a rest heq
      cases text with
      | nil => cases heq
      | cons c text =>
          rw [readWord] at heq
          split_ifs at heq
          exact ih _ _ _ heq

/-! ## Values -/

/-- A property of values that what a builder makes of scalars has, and that passes from the parts of
arrays and objects to them.  What is made of strings may depend on a property of strings. -/
structure Builder.Keeps (builder : Builder κ α) (Q : κ → Prop) (P : α → Prop) : Prop where
  string : builder.string.Yields Q
  null : P builder.null
  bool : ∀ b, P (builder.bool b)
  text : ∀ text, Q text → P (builder.text text)
  number : ∀ negative, (builder.number negative).Yields P
  array : ∀ items, (∀ a ∈ items, P a) → P (builder.array items)
  object : ∀ members, (∀ m ∈ members, Q m.1 ∧ P m.2) → P (builder.object members)

/-- A property that what a builder makes of scalars has. -/
structure Builder.Scalars (builder : Builder κ α) (P : α → Prop) : Prop where
  null : P builder.null
  bool : ∀ b, P (builder.bool b)
  text : builder.string.Yields fun text => P (builder.text text)
  number : ∀ negative, (builder.number negative).Yields P

lemma Builder.Keeps.scalars {builder : Builder κ α} {Q : κ → Prop} {P : α → Prop}
    (keeps : builder.Keeps Q P) : builder.Scalars P :=
  ⟨keeps.null, keeps.bool, fun _ _ _ h => keeps.text _ (keeps.string _ _ _ h), keeps.number⟩

/-- What is read is a scalar, or an array or object of what a reader of parts gives. -/
lemma readWith_cases {builder : Builder κ α} {P : α → Prop} (scalars : builder.Scalars P)
    {item : Option (Reader α)}
    (array : ∀ reader ∈ item, ∀ text items rest, readArray reader text = .ok (items, rest) →
      P (builder.array items))
    (object : ∀ reader ∈ item, ∀ text members rest,
      readObject builder.string reader text = .ok (members, rest) → P (builder.object members)) :
    Reader.Yields (readWith builder item) P := by
  intro text a rest heq
  rw [readWith] at heq
  split at heq
  · cases heq
  · exact readWord_yields scalars.null _ _ _ _ heq
  · exact readWord_yields (scalars.bool true) _ _ _ _ heq
  · exact readWord_yields (scalars.bool false) _ _ _ _ heq
  · obtain ⟨⟨string, behind⟩, hstring, heq⟩ := of_bind_ok heq
    exact Reader.yields_pure (scalars.text _ _ _ hstring) heq
  · split at heq
    · cases heq
    · next reader =>
        obtain ⟨⟨items, behind⟩, hitems, heq⟩ := of_bind_ok heq
        exact Reader.yields_pure (array reader rfl _ _ _ hitems) heq
  · split at heq
    · cases heq
    · next reader =>
        obtain ⟨⟨members, behind⟩, hmembers, heq⟩ := of_bind_ok heq
        exact Reader.yields_pure (object reader rfl _ _ _ hmembers) heq
  · exact scalars.number true _ _ _ heq
  · split_ifs at heq
    exact scalars.number false _ _ _ heq

lemma readWith_yields {builder : Builder κ α} {Q : κ → Prop} {P : α → Prop}
    (keeps : builder.Keeps Q P)
    {item : Option (Reader α)} (h : ∀ reader ∈ item, reader.Yields P) :
    Reader.Yields (readWith builder item) P := by
  refine readWith_cases keeps.scalars (fun reader hreader text items rest hitems => ?_)
    fun reader hreader text members rest hmembers => ?_
  · exact keeps.array items (readArray_yields (h reader hreader) _ _ _ hitems)
  · exact keeps.object members (readObject_yields keeps.string (h reader hreader) _ _ _ hmembers)

lemma readNested_yields {builder : Builder κ α} {Q : κ → Prop} {P : α → Prop}
    (keeps : builder.Keeps Q P) (depth : ℕ) : Reader.Yields (readNested builder depth) P := by
  induction depth with
  | zero => exact readWith_yields keeps fun reader hreader => by simp at hreader
  | succ depth ih =>
      refine readWith_yields keeps fun reader hreader => ?_
      rw [Option.mem_some_iff] at hreader
      exact hreader ▸ ih

/-! ## Canonical values -/

lemma ofObject_canonical {members : List (String × Value)} (h : ∀ m ∈ members, m.2.Canonical) :
    (Value.ofObject (.ofList members)).Canonical := by
  rw [Value.ofObject, Value.Canonical, membersCanonical]
  exact ⟨(SortedMap.ofList members).ascending, fun m hm => h m (SortedMap.mem_of_mem_ofList hm)⟩

lemma valueBuilder_keeps_canonical :
    valueBuilder.Keeps (fun _ => True) Value.Canonical where
  string := Reader.yields_true
  null := trivial
  bool _ := trivial
  text _ _ := trivial
  number negative text v rest heq := by
    obtain ⟨⟨n, behind⟩, -, heq⟩ := of_bind_ok heq
    exact Reader.yields_pure (show (Value.num n).Canonical from trivial) heq
  array items h := itemsCanonical.mpr h
  object members h := ofObject_canonical fun m hm => (h m hm).2

lemma readNested_canonical (depth : ℕ) :
    Reader.Yields (readNested valueBuilder depth) Value.Canonical :=
  readNested_yields valueBuilder_keeps_canonical depth

lemma of_complete {front : Front α} {a : α} (h : complete front = .ok a) : front.1 = a := by
  obtain ⟨result, text⟩ := front
  rw [complete] at h
  split at h
  · simpa using h
  · cases h

lemma of_mapError_ok {ε ε' : Type} {x : Except ε α} {f : ε → ε'} {a : α}
    (h : x.mapError f = .ok a) : x = .ok a := by
  cases x with
  | error e => cases h
  | ok b => simpa [Except.mapError] using h

/-- **A decoded value is canonical.** -/
theorem decode_canonical {text : String} {v : Value} (h : decode text = .ok v) : v.Canonical := by
  obtain ⟨⟨result, behind⟩, hread, hcomplete⟩ := of_bind_ok (of_mapError_ok h)
  obtain rfl : result = v := of_complete hcomplete
  exact readNested_canonical depthLimit _ _ _ hread

/-- **A decoded object has canonical members.** -/
theorem decodeObject_canonical {text : String} {object : Object}
    (h : decodeObject text = .ok object) : MembersCanonical object.entries := by
  obtain ⟨⟨result, behind⟩, hread, hcomplete⟩ := of_bind_ok (of_mapError_ok h)
  obtain rfl : result = object := of_complete hcomplete
  rw [readDocument] at hread
  split at hread
  · obtain ⟨⟨members, behind'⟩, hmembers, heq⟩ := of_bind_ok hread
    have hmembers := readObject_yields Reader.yields_true (readNested_canonical _) _ _ _ hmembers
    exact Reader.yields_pure (P := fun object : Object => MembersCanonical object.entries)
      (ofObject_canonical fun m hm => (hmembers m hm).2).2 heq
  · cases hread

end ObjectMemory.Json
