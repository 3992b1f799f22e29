/-!
# Sorted maps

A finite map kept as the list of its entries in strictly ascending key order.  Members of a JSON
object, the documents of a memory backend, the entries of a cache and the bindings of a registry
are all of this shape: what they list, they list in key order, and no key comes twice.

The order is part of the type (`SortedMap.ascending`), so two maps with the same bindings have the
same entries.  `SortedMap/Lemmas.lean` proves that, and says what each operation does to `get?`.

* `SortedMap.get?`, `contains`, `keys`, `values`, `size` — what a map holds;
* `SortedMap.insert`, `erase` — one binding more or less;
* `SortedMap.ofList` — a map from entries in any order, the last of a repeated key winning.
-/

namespace ObjectMemory

/-- A finite map from `κ` to `α`, as its entries in strictly ascending key order. -/
structure SortedMap (κ α : Type) [Ord κ] where
  /-- The bindings, each key once. -/
  entries : List (κ × α)
  /-- Keys ascend strictly from each entry to every later one. -/
  ascending : entries.Pairwise fun a b => compare a.1 b.1 = .lt

namespace SortedMap

variable {κ α : Type} [Ord κ]

/-! ## Entries -/

/-- The value bound to `key` in a list of entries: that of the first entry with this key. -/
def lookupEntry (key : κ) : List (κ × α) → Option α
  | [] => none
  | (k, value) :: rest => if compare key k = .eq then some value else lookupEntry key rest

/-- Binds `key` to `value` in ascending entries: a new key takes its place in the order, a key that
is there gets the new value. -/
def insertEntry (key : κ) (value : α) : List (κ × α) → List (κ × α)
  | [] => [(key, value)]
  | (k, v) :: rest =>
    match compare key k with
    | .lt => (key, value) :: (k, v) :: rest
    | .eq => (key, value) :: rest
    | .gt => (k, v) :: insertEntry key value rest

theorem mem_insertEntry {key : κ} {value : α} {entry : κ × α} {entries : List (κ × α)}
    (h : entry ∈ insertEntry key value entries) : entry = (key, value) ∨ entry ∈ entries := by
  induction entries with
  | nil => simpa [insertEntry] using h
  | cons head rest ih =>
    obtain ⟨k, v⟩ := head
    simp only [insertEntry] at h
    split at h
    · simpa using h
    · simp only [List.mem_cons] at h ⊢
      grind
    · simp only [List.mem_cons] at h ⊢
      grind

/-- Inserting keeps entries ascending. -/
theorem insertEntry_ascending [Std.TransOrd κ] (key : κ) (value : α) {entries : List (κ × α)}
    (h : entries.Pairwise fun a b => compare a.1 b.1 = .lt) :
    (insertEntry key value entries).Pairwise fun a b => compare a.1 b.1 = .lt := by
  induction entries with
  | nil => simp [insertEntry]
  | cons head rest ih =>
    obtain ⟨k, v⟩ := head
    obtain ⟨below, tail⟩ := List.pairwise_cons.1 h
    simp only [insertEntry]
    split
    · next hlt =>
      refine List.pairwise_cons.2 ⟨fun entry mem => ?_, h⟩
      rcases List.mem_cons.1 mem with rfl | mem
      · exact hlt
      · exact Std.TransCmp.lt_trans hlt (below entry mem)
    · next heq =>
      exact List.pairwise_cons.2
        ⟨fun entry mem => Std.TransCmp.lt_of_eq_of_lt heq (below entry mem), tail⟩
    · next hgt =>
      refine List.pairwise_cons.2 ⟨fun entry mem => ?_, ih tail⟩
      rcases mem_insertEntry mem with rfl | mem
      · exact Std.OrientedCmp.lt_of_gt hgt
      · exact below entry mem

/-! ## What a map holds -/

def empty : SortedMap κ α := ⟨[], .nil⟩

instance : Inhabited (SortedMap κ α) := ⟨empty⟩

instance [DecidableEq κ] [DecidableEq α] : DecidableEq (SortedMap κ α) := fun a b =>
  decidable_of_iff (a.entries = b.entries) <| by
    cases a; cases b; simp

def get? (map : SortedMap κ α) (key : κ) : Option α := lookupEntry key map.entries

def contains (map : SortedMap κ α) (key : κ) : Bool := (map.get? key).isSome

def keys (map : SortedMap κ α) : List κ := map.entries.map Prod.fst

def values (map : SortedMap κ α) : List α := map.entries.map Prod.snd

def size (map : SortedMap κ α) : Nat := map.entries.length

def isEmpty (map : SortedMap κ α) : Bool := map.entries.isEmpty

/-! ## Changing a map -/

/-- Removes the binding of a key, if there is one. -/
def erase (map : SortedMap κ α) (key : κ) : SortedMap κ α :=
  ⟨map.entries.filter fun entry => !(compare key entry.1).isEq, map.ascending.filter _⟩

variable [Std.TransOrd κ]

/-- Binds a key to a value, in place of any value it had. -/
def insert (map : SortedMap κ α) (key : κ) (value : α) : SortedMap κ α :=
  ⟨insertEntry key value map.entries, insertEntry_ascending key value map.ascending⟩

/-- The map of a list of bindings.  Of a repeated key the last binding counts. -/
def ofList (bindings : List (κ × α)) : SortedMap κ α :=
  bindings.foldl (fun map binding => map.insert binding.1 binding.2) empty

end SortedMap

end ObjectMemory
