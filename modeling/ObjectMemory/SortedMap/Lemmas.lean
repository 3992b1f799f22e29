import ObjectMemory.SortedMap.Basic

/-!
# Sorted maps: the laws of lookup

Every operation of a sorted map is told by what it does to `get?`, and `get?` tells maps apart.

* `get?_empty`, `get?_insert`, `get?_erase` — one law per operation;
* `forall_insert`, `forall_erase` — what all values have, they have after an operation;
* **`ext_get?`** — maps that answer alike at every key are equal, because the order of the entries
  leaves no other freedom;
* `mem_keys_iff`, `keys_pairwise` — the keys are those with a value, each once, ascending;
* `size_insert` — how many entries there are after an insertion;
* `get?_ofList` — a map of bindings has the last one of each key;
* `mem_of_mem_ofList`, `entries_ofList` — it holds nothing else, and lists them as they are when
  they ascend.
-/

namespace ObjectMemory.SortedMap

variable {κ α : Type} [Ord κ]

/-! ## Lookup in lists of entries -/

variable [Std.TransOrd κ]

theorem lookupEntry_insertEntry {key probe : κ} {value : α} {entries : List (κ × α)}
    (h : entries.Pairwise fun a b => compare a.1 b.1 = .lt) :
    lookupEntry probe (insertEntry key value entries) =
      if compare probe key = .eq then some value else lookupEntry probe entries := by
  induction entries with
  | nil => simp [insertEntry, lookupEntry]
  | cons head rest ih =>
    obtain ⟨k, v⟩ := head
    obtain ⟨below, tail⟩ := List.pairwise_cons.1 h
    simp only [insertEntry]
    split
    · simp [lookupEntry]
    · next heq =>
      simp only [lookupEntry]
      by_cases same : compare probe key = .eq
      · simp [same]
      · have : compare probe k ≠ .eq := fun hk =>
          same (Std.TransCmp.eq_trans hk (Std.OrientedCmp.eq_symm heq))
        simp [same, this]
    · next hgt =>
      simp only [lookupEntry, ih tail]
      by_cases same : compare probe key = .eq
      · have : compare probe k ≠ .eq := fun hk => by
          have := Std.TransCmp.eq_trans (Std.OrientedCmp.eq_symm same) hk
          simp [hgt] at this
        simp [same, this]
      · simp [same]

theorem lookupEntry_filter_ne {key probe : κ} {entries : List (κ × α)} :
    lookupEntry probe (entries.filter fun entry => !(compare key entry.1).isEq) =
      if compare probe key = .eq then none else lookupEntry probe entries := by
  induction entries with
  | nil => simp [lookupEntry]
  | cons head rest ih =>
    obtain ⟨k, v⟩ := head
    by_cases hk : compare key k = .eq
    · have drop : (!(compare key k).isEq) = false := by simp [hk]
      simp only [List.filter_cons, drop, Bool.false_eq_true, if_false, ih, lookupEntry]
      by_cases same : compare probe key = .eq
      · simp [same]
      · have : compare probe k ≠ .eq := fun hp =>
          same (Std.TransCmp.eq_trans hp (Std.OrientedCmp.eq_symm hk))
        simp [same, this]
    · have keep : (!(compare key k).isEq) = true := by simp [hk]
      simp only [List.filter_cons, keep, if_true, lookupEntry, ih]
      by_cases same : compare probe key = .eq
      · have : compare probe k ≠ .eq := fun hp =>
          hk (Std.TransCmp.eq_trans (Std.OrientedCmp.eq_symm same) hp)
        simp [same, this]
      · simp [same]

/-! ## Lookup in maps -/

omit [Std.TransOrd κ] in
@[simp] theorem get?_empty (key : κ) : (empty : SortedMap κ α).get? key = none := rfl

theorem get?_erase (map : SortedMap κ α) (key probe : κ) :
    (map.erase key).get? probe =
      if compare probe key = .eq then none else map.get? probe :=
  lookupEntry_filter_ne

theorem get?_insert (map : SortedMap κ α) (key probe : κ) (value : α) :
    (map.insert key value).get? probe =
      if compare probe key = .eq then some value else map.get? probe :=
  lookupEntry_insertEntry map.ascending

@[simp] theorem get?_insert_self (map : SortedMap κ α) (key : κ) (value : α) :
    (map.insert key value).get? key = some value := by
  simp [get?_insert]

@[simp] theorem get?_erase_self (map : SortedMap κ α) (key : κ) :
    (map.erase key).get? key = none := by
  simp [get?_erase]

/-! ## Properties of all values -/

theorem forall_insert (key : κ) {P : α → Prop} {map : SortedMap κ α} {value : α}
    (hvalue : P value) (h : ∀ entry ∈ map.entries, P entry.2) :
    ∀ entry ∈ (map.insert key value).entries, P entry.2 := by
  intro entry mem
  rcases mem_insertEntry mem with rfl | mem
  · exact hvalue
  · exact h entry mem

omit [Std.TransOrd κ] in
theorem forall_erase (key : κ) {P : α → Prop} {map : SortedMap κ α}
    (h : ∀ entry ∈ map.entries, P entry.2) : ∀ entry ∈ (map.erase key).entries, P entry.2 :=
  fun entry mem => h entry (List.mem_filter.1 mem).1

/-! ## Maps are their bindings -/

variable [Std.LawfulEqOrd κ]

theorem get?_insert_of_ne {map : SortedMap κ α} {key probe : κ} {value : α} (h : probe ≠ key) :
    (map.insert key value).get? probe = map.get? probe := by
  simp [get?_insert, h]

theorem get?_erase_of_ne {map : SortedMap κ α} {key probe : κ} (h : probe ≠ key) :
    (map.erase key).get? probe = map.get? probe := by
  simp [get?_erase, h]

omit [Std.TransOrd κ] in
theorem mem_of_lookupEntry {key : κ} {value : α} {entries : List (κ × α)}
    (h : lookupEntry key entries = some value) : (key, value) ∈ entries := by
  induction entries with
  | nil => simp [lookupEntry] at h
  | cons head rest ih =>
    obtain ⟨k, v⟩ := head
    simp only [lookupEntry] at h
    split at h
    · next heq =>
      have hk : key = k := Std.LawfulEqOrd.eq_of_compare heq
      have hv : v = value := by simpa using h
      simp [hk, hv]
    · exact List.mem_cons_of_mem _ (ih h)

theorem lookupEntry_of_mem {key : κ} {value : α} {entries : List (κ × α)}
    (h : entries.Pairwise fun a b => compare a.1 b.1 = .lt) (mem : (key, value) ∈ entries) :
    lookupEntry key entries = some value := by
  induction entries with
  | nil => simp at mem
  | cons head rest ih =>
    obtain ⟨k, v⟩ := head
    obtain ⟨below, tail⟩ := List.pairwise_cons.1 h
    rcases List.mem_cons.1 mem with heq | mem
    · cases heq; simp [lookupEntry]
    · have : compare key k ≠ .eq := fun heq => by
        have := below _ mem
        rw [Std.OrientedCmp.eq_symm heq] at this
        simp at this
      simp [lookupEntry, this, ih tail mem]

theorem mem_entries_iff {map : SortedMap κ α} {key : κ} {value : α} :
    (key, value) ∈ map.entries ↔ map.get? key = some value :=
  ⟨lookupEntry_of_mem map.ascending, mem_of_lookupEntry⟩

theorem mem_keys_iff {map : SortedMap κ α} {key : κ} :
    key ∈ map.keys ↔ map.contains key = true := by
  constructor
  · intro h
    obtain ⟨⟨k, v⟩, mem, rfl⟩ := List.mem_map.1 h
    simp [contains, mem_entries_iff.1 mem]
  · intro h
    obtain ⟨value, hv⟩ := Option.isSome_iff_exists.1 h
    exact List.mem_map.2 ⟨_, mem_entries_iff.2 hv, rfl⟩

theorem length_insertEntry {key : κ} {value : α} {entries : List (κ × α)}
    (h : entries.Pairwise fun a b => compare a.1 b.1 = .lt) :
    (insertEntry key value entries).length =
      if (lookupEntry key entries).isSome then entries.length else entries.length + 1 := by
  induction entries with
  | nil => rfl
  | cons head rest ih =>
    obtain ⟨k, v⟩ := head
    obtain ⟨below, tail⟩ := List.pairwise_cons.1 h
    simp only [insertEntry, lookupEntry]
    split
    · next hlt =>
      -- all other keys are greater still
      have absent : lookupEntry key rest = none := by
        refine Option.eq_none_iff_forall_ne_some.2 fun other found => ?_
        have := Std.TransCmp.lt_trans hlt (below _ (mem_of_lookupEntry found))
        simp at this
      simp [hlt, absent]
    · next heq => simp [heq]
    · next hgt =>
      simp only [hgt, List.length_cons, ih tail, reduceCtorEq, if_false]
      split <;> rfl

/-- Inserting adds an entry exactly if the key has none. -/
theorem size_insert (map : SortedMap κ α) (key : κ) (value : α) :
    (map.insert key value).size = if map.contains key then map.size else map.size + 1 :=
  length_insertEntry map.ascending

omit [Std.TransOrd κ] [Std.LawfulEqOrd κ] in
theorem keys_pairwise (map : SortedMap κ α) :
    map.keys.Pairwise fun a b => compare a b = .lt :=
  List.pairwise_map.2 map.ascending

theorem entries_eq_of_mem_iff : ∀ {xs ys : List (κ × α)},
    (xs.Pairwise fun a b => compare a.1 b.1 = .lt) →
    (ys.Pairwise fun a b => compare a.1 b.1 = .lt) →
    (∀ entry, entry ∈ xs ↔ entry ∈ ys) → xs = ys
  | [], [], _, _, _ => rfl
  | [], y :: ys, _, _, h => by simpa using (h y).2 List.mem_cons_self
  | x :: xs, [], _, _, h => by simpa using (h x).1 List.mem_cons_self
  | x :: xs, y :: ys, hx, hy, h => by
    obtain ⟨xbelow, xtail⟩ := List.pairwise_cons.1 hx
    obtain ⟨ybelow, ytail⟩ := List.pairwise_cons.1 hy
    have heads : x = y := by
      rcases List.mem_cons.1 ((h x).1 List.mem_cons_self) with hxy | hxy
      · exact hxy
      · rcases List.mem_cons.1 ((h y).2 List.mem_cons_self) with hyx | hyx
        · exact hyx.symm
        · have := Std.TransCmp.lt_trans (xbelow _ hyx) (ybelow _ hxy)
          simp at this
    subst heads
    refine congrArg _ (entries_eq_of_mem_iff xtail ytail fun entry => ?_)
    have irrefl : ∀ {zs : List (κ × α)}, (∀ z ∈ zs, compare x.1 z.1 = .lt) → x ∉ zs :=
      fun below mem => by simpa using below _ mem
    constructor
    · intro mem
      rcases List.mem_cons.1 ((h entry).1 (List.mem_cons_of_mem _ mem)) with rfl | mem'
      · exact absurd mem (irrefl xbelow)
      · exact mem'
    · intro mem
      rcases List.mem_cons.1 ((h entry).2 (List.mem_cons_of_mem _ mem)) with rfl | mem'
      · exact absurd mem (irrefl ybelow)
      · exact mem'

/-- **Maps that answer alike at every key are equal.** -/
theorem ext_get? {a b : SortedMap κ α} (h : ∀ key, a.get? key = b.get? key) : a = b := by
  have : a.entries = b.entries := entries_eq_of_mem_iff a.ascending b.ascending fun entry => by
    obtain ⟨key, value⟩ := entry
    rw [mem_entries_iff, mem_entries_iff, h]
  cases a; cases b; simpa using this

/-! ## Maps of bindings -/

theorem get?_foldl_insert [BEq κ] [LawfulBEq κ] {bindings : List (κ × α)} {key : κ} :
    ∀ {map : SortedMap κ α},
      (bindings.foldl (fun map binding => map.insert binding.1 binding.2) map).get? key =
        (bindings.reverse.lookup key).or (map.get? key) := by
  induction bindings with
  | nil => intro map; rfl
  | cons binding rest ih =>
    intro map
    rw [List.foldl_cons, ih, List.reverse_cons, List.lookup_append, Option.or_assoc,
      List.lookup_cons, List.lookup_nil]
    congr 1
    by_cases hkey : key = binding.1
    · simp [hkey]
    · have : (key == binding.1) = false := by simpa using hkey
      simp [get?_insert_of_ne hkey, this]

/-- Of a repeated key the last binding counts. -/
theorem get?_ofList [BEq κ] [LawfulBEq κ] (bindings : List (κ × α)) (key : κ) :
    (ofList bindings).get? key = bindings.reverse.lookup key := by
  rw [ofList, get?_foldl_insert, get?_empty, Option.or_none]

omit [Std.LawfulEqOrd κ] in
theorem mem_foldl_insert {bindings : List (κ × α)} {entry : κ × α} :
    ∀ {map : SortedMap κ α},
      entry ∈ (bindings.foldl (fun map binding => map.insert binding.1 binding.2) map).entries →
      entry ∈ map.entries ∨ entry ∈ bindings := by
  induction bindings with
  | nil => intro map h; exact .inl h
  | cons binding rest ih =>
    intro map h
    rcases ih h with h | h
    · rcases mem_insertEntry h with rfl | h
      · exact .inr List.mem_cons_self
      · exact .inl h
    · exact .inr (List.mem_cons_of_mem _ h)

omit [Std.LawfulEqOrd κ] in
/-- A map of bindings holds nothing else. -/
theorem mem_of_mem_ofList {bindings : List (κ × α)} {entry : κ × α}
    (h : entry ∈ (ofList bindings).entries) : entry ∈ bindings := by
  rcases mem_foldl_insert h with h | h
  · simp [empty] at h
  · exact h

theorem isSome_get?_foldl_insert {bindings : List (κ × α)} {key : κ} :
    ∀ {map : SortedMap κ α},
      ((map.get? key).isSome ∨ ∃ binding ∈ bindings, binding.1 = key) →
      ((bindings.foldl (fun map binding => map.insert binding.1 binding.2) map).get?
        key).isSome := by
  induction bindings with
  | nil =>
    rintro map (h | ⟨binding, mem, -⟩)
    · exact h
    · cases mem
  | cons binding rest ih =>
    intro map h
    refine ih ?_
    by_cases hkey : key = binding.1
    · rw [hkey, get?_insert_self]
      exact .inl rfl
    · rw [get?_insert_of_ne hkey]
      rcases h with h | ⟨other, mem, rfl⟩
      · exact .inl h
      · rcases List.mem_cons.1 mem with rfl | mem
        · exact absurd rfl hkey
        · exact .inr ⟨other, mem, rfl⟩

/-- A key that some binding is for has a value in a map of bindings. -/
theorem isSome_get?_ofList {bindings : List (κ × α)} {key : κ} {value : α}
    (h : (key, value) ∈ bindings) : ((ofList bindings).get? key).isSome :=
  isSome_get?_foldl_insert (.inr ⟨_, h, rfl⟩)

omit [Std.LawfulEqOrd κ] in
theorem insertEntry_of_lt {key : κ} {value : α} {entries : List (κ × α)}
    (h : ∀ entry ∈ entries, compare entry.1 key = .lt) :
    insertEntry key value entries = entries ++ [(key, value)] := by
  induction entries with
  | nil => rfl
  | cons head rest ih =>
    have first : compare key head.1 = .gt :=
      Std.OrientedCmp.gt_of_lt (h head List.mem_cons_self)
    simp only [insertEntry, first, List.cons_append]
    rw [ih fun entry mem => h entry (List.mem_cons_of_mem _ mem)]

omit [Std.LawfulEqOrd κ] in
theorem entries_foldl_insert {bindings : List (κ × α)} :
    ∀ {map : SortedMap κ α},
      ((map.entries ++ bindings).Pairwise fun a b => compare a.1 b.1 = .lt) →
      (bindings.foldl (fun map binding => map.insert binding.1 binding.2) map).entries =
        map.entries ++ bindings := by
  induction bindings with
  | nil => intro map _; simp
  | cons binding rest ih =>
    intro map h
    have last : (map.insert binding.1 binding.2).entries = map.entries ++ [binding] :=
      insertEntry_of_lt fun entry mem =>
        (List.pairwise_append.1 h).2.2 entry mem binding List.mem_cons_self
    have split : map.entries ++ binding :: rest =
        (map.insert binding.1 binding.2).entries ++ rest := by simp [last]
    rw [List.foldl_cons, ih (split ▸ h), split]

omit [Std.LawfulEqOrd κ] in
/-- A map of ascending bindings lists just them. -/
theorem entries_ofList {bindings : List (κ × α)}
    (h : bindings.Pairwise fun a b => compare a.1 b.1 = .lt) :
    (ofList bindings).entries = bindings :=
  entries_foldl_insert (by simpa [empty] using h)

omit [Std.LawfulEqOrd κ] in
@[simp] theorem ofList_entries (map : SortedMap κ α) : ofList map.entries = map := by
  obtain ⟨entries, ascending⟩ := map
  rw [mk.injEq]
  exact entries_ofList ascending

/-- Binding a key to the value that it has changes nothing. -/
theorem insert_of_get? {map : SortedMap κ α} {key : κ} {value : α}
    (h : map.get? key = some value) : map.insert key value = map := by
  refine ext_get? fun probe => ?_
  rw [get?_insert]
  split
  · next heq => rw [Std.LawfulEqOrd.eq_of_compare heq, h]
  · rfl

/-- Of two bindings of a key the later one counts. -/
theorem insert_insert (map : SortedMap κ α) (key : κ) (first second : α) :
    (map.insert key first).insert key second = map.insert key second := by
  refine ext_get? fun probe => ?_
  simp only [get?_insert]
  split <;> rfl

end ObjectMemory.SortedMap
