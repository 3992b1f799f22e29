import ObjectMemory.Proofs.Json.Readable
import ObjectMemory.Proofs.Json.RoundTrip
import ObjectMemory.SortedMap.Lemmas

/-!
# Decoding undoes encoding

Documents whose brackets are no deeper than a reader goes are decoded from their compact text again,
as any value and as an object.  Everything in them comes back as it was, but for doubles, each of
which comes back as what its digits are read as.  So a value of integers comes back as itself.

* `Value.reread`, `Object.reread` — what comes back of a value, and of an object;
* `reread_of_integersOnly` — of integers, the value itself; `depth_reread`, `Object.get?_reread`,
  `Object.size_reread` — nothing else about it changes;
* `decode_encode_reread`, **`decode_encode`** — values;
* `decodeObject_encode_reread`, **`decodeObject_encode`** — objects.
-/

namespace ObjectMemory.Json

/-! ## What comes back -/

mutual

/-- A value with its numbers as they are read from their digits. -/
def Value.reread : Value → Value
  | .num n => .num n.reread
  | .arr items => .arr (rereadItems items)
  | .obj members => .obj (rereadMembers members)
  | .null => .null
  | .bool b => .bool b
  | .str text => .str text

def rereadItems : List Value → List Value
  | [] => []
  | x :: xs => x.reread :: rereadItems xs

def rereadMembers : List (String × Value) → List (String × Value)
  | [] => []
  | (k, x) :: xs => (k, x.reread) :: rereadMembers xs

end

lemma rereadItems_eq_map (items : List Value) : rereadItems items = items.map Value.reread := by
  induction items with
  | nil => rfl
  | cons x xs ih => rw [rereadItems, ih, List.map_cons]

lemma rereadMembers_eq_map (members : List (String × Value)) :
    rereadMembers members = members.map fun m => (m.1, m.2.reread) := by
  induction members with
  | nil => rfl
  | cons m ms ih => rw [rereadMembers, ih, List.map_cons]

lemma rereadMembers_ascending {members : List (String × Value)}
    (h : members.Pairwise fun a b => compare a.1 b.1 = .lt) :
    (rereadMembers members).Pairwise fun a b => compare a.1 b.1 = .lt := by
  rw [rereadMembers_eq_map]
  exact List.pairwise_map.mpr h

/-- An object with its numbers as they are read from their digits. -/
def Object.reread (object : Object) : Object :=
  ⟨rereadMembers object.entries, rereadMembers_ascending object.ascending⟩

mutual

lemma depth_reread : (v : Value) → v.reread.depth = v.depth
  | .null | .bool _ | .num _ | .str _ => rfl
  | .arr items => congrArg (· + 1) (depthItems_reread items)
  | .obj members => congrArg (· + 1) (depthMembers_reread members)

lemma depthItems_reread : (items : List Value) → depthItems (rereadItems items) = depthItems items
  | [] => rfl
  | x :: xs => by rw [rereadItems, depthItems, depth_reread x, depthItems_reread xs, depthItems]

lemma depthMembers_reread : (members : List (String × Value)) →
    depthMembers (rereadMembers members) = depthMembers members
  | [] => rfl
  | (_, x) :: xs => by
      rw [rereadMembers, depthMembers, depth_reread x, depthMembers_reread xs, depthMembers]

end

lemma Object.get?_reread (object : Object) (key : String) :
    object.reread.get? key = (object.get? key).map Value.reread := by
  show SortedMap.lookupEntry key (rereadMembers object.entries) = _
  rw [SortedMap.get?]
  induction object.entries with
  | nil => rfl
  | cons m ms ih =>
      rw [rereadMembers, SortedMap.lookupEntry, SortedMap.lookupEntry, ih]
      split <;> rfl

lemma Object.size_reread (object : Object) : object.reread.size = object.size := by
  show (rereadMembers object.entries).length = object.entries.length
  rw [rereadMembers_eq_map, List.length_map]

mutual

lemma reread_of_integersOnly : (v : Value) → v.IntegersOnly → v.reread = v
  | .null, _ | .bool _, _ | .str _, _ => rfl
  | .num (.integer n inRange), _ => congrArg Value.num (Number.reread_integer n inRange)
  | .num (.float _), h => h.elim
  | .arr items, h => congrArg Value.arr (rereadItems_of_integersOnly items h)
  | .obj members, h => congrArg Value.obj (rereadMembers_of_integersOnly members h)

lemma rereadItems_of_integersOnly :
    (items : List Value) → ItemsIntegersOnly items → rereadItems items = items
  | [], _ => rfl
  | x :: xs, h => by
      rw [rereadItems, reread_of_integersOnly x h.1, rereadItems_of_integersOnly xs h.2]

lemma rereadMembers_of_integersOnly : (members : List (String × Value)) →
    MembersIntegersOnly members → rereadMembers members = members
  | [], _ => rfl
  | (_, x) :: xs, h => by
      rw [rereadMembers, reread_of_integersOnly x h.1, rereadMembers_of_integersOnly xs h.2]

end

lemma Object.reread_of_integersOnly {object : Object} (h : MembersIntegersOnly object.entries) :
    object.reread = object :=
  SortedMap.ext_get? fun key => congrArg (SortedMap.lookupEntry key)
    (rereadMembers_of_integersOnly object.entries h)

/-! ## Decoding -/

lemma valueBuilder_reads : valueBuilder.Reads id Value.reread where
  string := readString_escaped
  number n rest h := by
    show readNumberValue _ _ = _
    simp only [readNumberValue, readNumber_digits n h, bind, Except.bind]
    rfl
  null := rfl
  bool _ := rfl
  text _ := rfl
  array items := by rw [Value.reread, rereadItems_eq_map]; rfl
  object members h := by
    have hmap : (members.map fun m => (id m.1, m.2.reread)) = rereadMembers members :=
      (rereadMembers_eq_map members).symm
    rw [hmap]
    show Value.ofObject (.ofList (rereadMembers members)) = _
    rw [Value.ofObject, SortedMap.entries_ofList (rereadMembers_ascending h)]
    rfl

/-- A value is decoded from its text as what is reread of it. -/
theorem decode_encode_reread {v : Value} (hc : v.Canonical) (hd : v.depth ≤ depthLimit) :
    decode v.encode = .ok v.reread := by
  have hread := readNested_chars valueBuilder_reads hc hd [] endsNumber_nil
  rw [List.append_nil] at hread
  simp only [decode, Value.encode, String.toList_ofList, readValue, hread, bind, Except.bind,
    complete]
  rfl

/-- **Decoding a value undoes encoding it.** -/
theorem decode_encode {v : Value} (hi : v.IntegersOnly) (hc : v.Canonical)
    (hd : v.depth ≤ depthLimit) : decode v.encode = .ok v := by
  rw [decode_encode_reread hc hd, reread_of_integersOnly v hi]

/-- The items of an array are no deeper than a level less. -/
lemma depth_arr_le {items : List Value} {depth : ℕ} :
    (Value.arr items).depth ≤ depth + 1 ↔ ∀ x ∈ items, x.depth ≤ depth := by
  rw [Value.depth, Nat.add_le_add_iff_right, depthItems_le]

/-- The members of an object are no deeper than a level less. -/
lemma depth_ofObject_le {object : Object} {depth : ℕ} :
    (Value.ofObject object).depth ≤ depth + 1 ↔ ∀ m ∈ object.entries, m.2.depth ≤ depth := by
  rw [Value.ofObject, Value.depth, Nat.add_le_add_iff_right, depthMembers_le]

/-- An object is decoded from its text as what is reread of it. -/
theorem decodeObject_encode_reread {object : Object} (hc : MembersCanonical object.entries)
    (hd : (Value.ofObject object).depth ≤ depthLimit) :
    decodeObject object.encode = .ok object.reread := by
  rw [membersCanonical] at hc
  have hd : ∀ m ∈ object.entries, m.2.depth ≤ depthLimit - 1 := depth_ofObject_le.mp hd
  obtain ⟨inside, heq⟩ := obj_chars object.entries
  have hread := readObject_chars valueBuilder_reads [] heq fun m hm =>
    readNested_chars valueBuilder_reads (hc m hm) (hd m hm)
  have hmap : (object.entries.map fun m => (id m.1, m.2.reread)) = object.reread.entries :=
    (rereadMembers_eq_map object.entries).symm
  rw [List.append_nil, hmap] at hread
  simp only [decodeObject, Object.encode, Value.encode, String.toList_ofList, Value.ofObject, heq,
    readDocument, skipBlanks_cons _ (show isBlank '\x7b' = false from rfl)]
  rw [show readString = valueBuilder.string from rfl, hread]
  simp only [bind, Except.bind, SortedMap.ofList_entries]
  rfl

/-- **Decoding an object undoes encoding it.** -/
theorem decodeObject_encode {object : Object} (hi : MembersIntegersOnly object.entries)
    (hc : MembersCanonical object.entries) (hd : (Value.ofObject object).depth ≤ depthLimit) :
    decodeObject object.encode = .ok object := by
  rw [decodeObject_encode_reread hc hd, Object.reread_of_integersOnly hi]

end ObjectMemory.Json
