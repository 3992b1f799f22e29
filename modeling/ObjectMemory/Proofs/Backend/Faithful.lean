import ObjectMemory.Proofs.Backend.Laws
import ObjectMemory.Proofs.Json.Lookup

/-!
# Document stores that keep instances

A document store is faithful if it goes as a map of instances does, as long as the instances are
readable: it has their documents, word for word, and it finds the ids of a class.  Two document
stores that keep the same instances need not be in the same state, and they may list ids in
different orders, but nothing else tells them apart.

Documents in memory that take changes are faithful, and so are documents in a table that nobody else
writes to.  The first look for a class by decoding each document, and the second by looking for the
first member of that name in the spelling.  A document of an instance names its class either way
(`namesClass_encode`, `classOf?_spelled`).

* `FaithfulDocumentStore` — what a document store keeps, and how it goes on;
* `classOf?_spelled`, `idsOfClass_eq` — looking for a class in a table;
* `Memory.Keeps`, `Table.Keeps` — what the two document stores keep.
-/

namespace ObjectMemory.Backend

open Json

/-- A document store that goes as a map of readable instances does. -/
class FaithfulDocumentStore (β : Type) [DocumentStore β] where
  /-- The document store has the documents of these instances and no others. -/
  Keeps : β → SortedMap String Instance → Prop
  readable : ∀ {store : β} {saved : SortedMap String Instance}, Keeps store saved →
    ∀ entry ∈ saved.entries, entry.2.Readable
  get_eq : ∀ {store : β} {saved : SortedMap String Instance}, Keeps store saved →
    ∀ id, DocumentStore.get store id = .ok ((saved.get? id).map Instance.encode)
  put_ok : ∀ {store : β} {saved : SortedMap String Instance}, Keeps store saved →
    ∀ id {object : Instance}, object.Readable →
      ∃ after, DocumentStore.put store id object.encode = .ok after ∧
        Keeps after (saved.insert id object)
  delete_ok : ∀ {store : β} {saved : SortedMap String Instance}, Keeps store saved →
    ∀ id, ∃ after, DocumentStore.delete store id = .ok after ∧ Keeps after (saved.erase id)
  findByClass_ok : ∀ {store : β} {saved : SortedMap String Instance}, Keeps store saved →
    ∀ className, ∃ ids, DocumentStore.findByClass store className = .ok ids ∧ ids.Nodup ∧
      ∀ id, id ∈ ids ↔ (saved.get? id).map Instance.className = some className
  close_ok : ∀ {store : β} {saved : SortedMap String Instance}, Keeps store saved →
    DocumentStore.close store = .ok ()

/-! ## Memory -/

namespace Memory

/-- Documents in memory that take changes, and that are those of some instances. -/
structure Keeps (store : Memory) (saved : SortedMap String Instance) : Prop where
  writable : store.readOnly = false
  readable : ∀ entry ∈ saved.entries, entry.2.Readable
  documents : ∀ id, store.documents.get? id = (saved.get? id).map Instance.encode

variable {store : Memory} {saved : SortedMap String Instance}

lemma empty_keeps : Keeps .empty .empty := ⟨rfl, fun _ h => (by cases h), fun _ => rfl⟩

lemma Keeps.insert (h : store.Keeps saved) (id : String) {object : Instance}
    (readable : object.Readable) :
    Keeps { store with documents := store.documents.insert id object.encode }
      (saved.insert id object) where
  writable := h.writable
  readable := SortedMap.forall_insert id readable h.readable
  documents other := by
    rcases eq_or_ne other id with rfl | hne
    · rw [SortedMap.get?_insert_self, SortedMap.get?_insert_self, Option.map_some]
    · rw [SortedMap.get?_insert_of_ne hne, SortedMap.get?_insert_of_ne hne, h.documents]

lemma Keeps.erase (h : store.Keeps saved) (id : String) :
    Keeps { store with documents := store.documents.erase id } (saved.erase id) where
  writable := h.writable
  readable := SortedMap.forall_erase id h.readable
  documents other := by
    rcases eq_or_ne other id with rfl | hne
    · rw [SortedMap.get?_erase_self, SortedMap.get?_erase_self, Option.map_none]
    · rw [SortedMap.get?_erase_of_ne hne, SortedMap.get?_erase_of_ne hne, h.documents]

lemma findByClass_nodup (store : Memory) (className : String) :
    (store.findByClass className).Nodup := by
  have hkeys : store.documents.keys.Nodup :=
    store.documents.keys_pairwise.imp fun hlt => ne_of_lt (compare_lt_iff_lt.mp hlt)
  exact hkeys.sublist (List.filter_sublist.map Prod.fst)

/-- The ids of a class are those of the documents that name it. -/
lemma mem_findByClass_iff {className id : String} :
    id ∈ store.findByClass className ↔
      ∃ document, store.documents.get? id = some document ∧
        namesClass className document = true := by
  simp only [findByClass, List.mem_map, List.mem_filter, Prod.exists, exists_and_right,
    exists_eq_right, SortedMap.mem_entries_iff]

lemma Keeps.mem_findByClass_iff (h : store.Keeps saved) {className id : String} :
    id ∈ store.findByClass className ↔
      (saved.get? id).map Instance.className = some className := by
  rw [Memory.mem_findByClass_iff, h.documents]
  cases hsaved : saved.get? id with
  | none => simp
  | some object =>
      have hreadable := h.readable _ (SortedMap.mem_entries_iff.mpr hsaved)
      simp [namesClass_encode hreadable]

instance : FaithfulDocumentStore Memory where
  Keeps := Keeps
  readable h := h.readable
  get_eq h id := congrArg Except.ok (h.documents id)
  put_ok h id _ readable := ⟨_, put_encode h.writable id readable, h.insert id readable⟩
  delete_ok h id := ⟨_, delete_of_writable h.writable id, h.erase id⟩
  findByClass_ok h className :=
    ⟨_, rfl, findByClass_nodup _ className, fun _ => h.mem_findByClass_iff⟩
  close_ok _ := rfl

end Memory

/-! ## Tables -/

/-- The class of a document of an instance in a table. -/
lemma classOf?_spelled {object : Instance} (h : object.Readable) :
    classOf? (Value.ofObject object.data).spelled = some object.className := by
  have hmember : (Value.ofObject object.data).spelled.member? classKey
      = some (Value.str object.className).spelled :=
    member?_spelled (by decide) (Instance.mirrored_iff.mp h.mirrored).1
  rw [classOf?, hmember]
  show unescape? _ = _
  rw [unescape?_escaped, String.ofList_toList]

namespace Table

/-- The cell that a table has for an instance. -/
def cellOf (object : Instance) : Cell := .document (Value.ofObject object.data).spelled

lemma read_cellOf {object : Instance} (mirrored : object.Mirrored) :
    (cellOf object).read = .ok object.encode := by
  rw [mirrored.encode_eq, Object.encode, ← Value.spelled_encode]
  rfl

/-- The ids of a class are those of the rows whose cells name it, if all can be looked into. -/
lemma idsOfClass_eq {className : String} {f : String × Cell → Option String}
    {rows : List (String × Cell)} (h : ∀ row ∈ rows, row.2.className? = .ok (f row)) :
    idsOfClass className rows
      = .ok ((rows.filter fun row => f row == some className).map Prod.fst) := by
  induction rows with
  | nil => rfl
  | cons row rest ih =>
      obtain ⟨hcell, hrest⟩ := List.forall_mem_cons.mp h
      rw [idsOfClass, hcell, ih hrest, List.filter_cons]
      split_ifs with hclass
      · simp only [bind, Except.bind, hclass, if_true]
        rfl
      · simp only [bind, Except.bind, hclass]
        rfl

/-- A row is found under its id, if there are no two of one id. -/
lemma get_of_mem {table : Table} (once : (table.rows.map Prod.fst).Nodup) {id : String}
    {cell : Cell} (h : (id, cell) ∈ table.rows) : table.get id = cell.read.map some := by
  have hfind : table.rows.find? (fun row => row.1 == id) = some (id, cell) := by
    have hunique : ∀ row ∈ table.rows, row.1 = id → row = (id, cell) := fun row hrow hid =>
      List.inj_on_of_nodup_map once hrow h hid
    cases hfound : table.rows.find? (fun row => row.1 == id) with
    | none => exact absurd (beq_self_eq_true id) (List.find?_eq_none.mp hfound _ h)
    | some row =>
        have hid : row.1 = id := by simpa using List.find?_some hfound
        rw [hunique row (List.mem_of_find?_eq_some hfound) hid]
  rw [get, hfind]

lemma get_of_notMem {table : Table} {id : String} (h : ∀ cell, (id, cell) ∉ table.rows) :
    table.get id = .ok none := by
  have hfind : table.rows.find? (fun row => row.1 == id) = none := by
    rw [List.find?_eq_none]
    rintro ⟨other, cell⟩ hrow hid
    obtain rfl : other = id := by simpa using hid
    exact h cell hrow
  rw [get, hfind]

/-- A table that nobody else writes to, and whose rows are those of some instances. -/
structure Keeps (table : Table) (saved : SortedMap String Instance) : Prop where
  free : ∀ id, table.refuses id = false
  readable : ∀ entry ∈ saved.entries, entry.2.Readable
  /-- There are no two rows of one id. -/
  once : (table.rows.map Prod.fst).Nodup
  rows : ∀ id cell, (id, cell) ∈ table.rows ↔ (saved.get? id).map cellOf = some cell

variable {table : Table} {saved : SortedMap String Instance}

lemma empty_keeps : Keeps .empty .empty :=
  ⟨fun _ => rfl, fun _ h => (by cases h), List.nodup_nil, fun _ _ => by simp [empty]⟩

lemma mem_rowsWithout_iff {id other : String} {cell : Cell} :
    (other, cell) ∈ table.rowsWithout id ↔ (other, cell) ∈ table.rows ∧ other ≠ id := by
  simp [rowsWithout]

/-- No id gets a second row, neither when a row is taken away, … -/
lemma nodup_rowsWithout (once : (table.rows.map Prod.fst).Nodup) (id : String) :
    ((table.rowsWithout id).map Prod.fst).Nodup :=
  once.sublist (List.filter_sublist.map Prod.fst)

/-- … nor when one is put in its place. -/
lemma nodup_put (once : (table.rows.map Prod.fst).Nodup) (id : String) (cell : Cell) :
    ((table.rowsWithout id ++ [(id, cell)]).map Prod.fst).Nodup := by
  rw [List.map_append, List.map_singleton]
  refine (nodup_rowsWithout once id).append (List.nodup_singleton id) ?_
  rintro _ hmem hid
  obtain rfl := List.mem_singleton.mp hid
  obtain ⟨⟨other, cell⟩, hrow, rfl⟩ := List.mem_map.mp hmem
  exact (mem_rowsWithout_iff.mp hrow).2 rfl

lemma Keeps.rowsWithout (h : table.Keeps saved) (id : String) :
    Keeps { table with rows := table.rowsWithout id } (saved.erase id) where
  free := h.free
  readable := SortedMap.forall_erase id h.readable
  once := nodup_rowsWithout h.once id
  rows other cell := by
    rw [mem_rowsWithout_iff, h.rows]
    rcases eq_or_ne other id with rfl | hne
    · simp
    · simp [SortedMap.get?_erase_of_ne hne, hne]

lemma Keeps.appendRow (h : table.Keeps saved) (id : String) {object : Instance}
    (readable : object.Readable) :
    Keeps { table with rows := table.rowsWithout id ++ [(id, cellOf object)] }
      (saved.insert id object) where
  free := h.free
  readable := SortedMap.forall_insert id readable h.readable
  once := nodup_put h.once id _
  rows other cell := by
    rw [List.mem_append, mem_rowsWithout_iff, h.rows, List.mem_singleton, Prod.mk.injEq]
    rcases eq_or_ne other id with rfl | hne
    · simp [eq_comm]
    · simp [SortedMap.get?_insert_of_ne hne, hne]

lemma Keeps.get (h : table.Keeps saved) (id : String) :
    table.get id = .ok ((saved.get? id).map Instance.encode) := by
  cases hsaved : saved.get? id with
  | none => exact get_of_notMem fun cell hrow => by simpa [hsaved] using (h.rows id cell).mp hrow
  | some object =>
      have hrow : (id, cellOf object) ∈ table.rows := (h.rows id _).mpr (by rw [hsaved]; rfl)
      have hreadable := h.readable _ (SortedMap.mem_entries_iff.mpr hsaved)
      rw [get_of_mem h.once hrow, read_cellOf hreadable.mirrored]
      rfl

lemma Keeps.put (h : table.Keeps saved) (id : String) {object : Instance}
    (readable : object.Readable) :
    table.put id object.encode
      = .ok { table with rows := table.rowsWithout id ++ [(id, cellOf object)] } := by
  have hspelled : Spelled.decode? tableDepthLimit object.encode
      = some (Value.ofObject object.data).spelled := by
    rw [readable.mirrored.encode_eq]
    exact decode?_encode readable.canonical (readable.shallow.trans (by decide))
  rw [Table.put, if_neg (by rw [h.free]; decide), hspelled]
  rfl

lemma Keeps.delete (h : table.Keeps saved) (id : String) :
    table.delete id = .ok { table with rows := table.rowsWithout id } := by
  rw [Table.delete, if_neg (by rw [h.free]; decide)]

lemma Keeps.findByClass (h : table.Keeps saved) (className : String) :
    table.findByClass className = .ok ((table.rows.map Prod.fst).filter fun id =>
      (saved.get? id).map Instance.className == some className) := by
  rw [List.filter_map]
  refine idsOfClass_eq (f := fun row => (saved.get? row.1).map Instance.className) ?_
  rintro ⟨id, cell⟩ hrow
  obtain ⟨object, hobject, rfl⟩ := Option.map_eq_some_iff.mp ((h.rows id cell).mp hrow)
  have hreadable := h.readable _ (SortedMap.mem_entries_iff.mpr hobject)
  simp only [hobject, Option.map_some]
  exact congrArg Except.ok (classOf?_spelled hreadable)

/-- The ids of a class are those of the instances that are of it. -/
lemma Keeps.mem_classIds_iff (h : table.Keeps saved) {className id : String} :
    id ∈ (table.rows.map Prod.fst).filter
        (fun id => (saved.get? id).map Instance.className == some className) ↔
      (saved.get? id).map Instance.className = some className := by
  rw [List.mem_filter, beq_iff_eq, and_iff_right_iff_imp]
  intro hclass
  obtain ⟨object, hobject, -⟩ := Option.map_eq_some_iff.mp hclass
  exact List.mem_map.mpr ⟨(id, cellOf object), (h.rows id _).mpr (by rw [hobject]; rfl), rfl⟩

instance : FaithfulDocumentStore Table where
  Keeps := Keeps
  readable h := h.readable
  get_eq h := h.get
  put_ok h id _ readable := ⟨_, h.put id readable, h.appendRow id readable⟩
  delete_ok h id := ⟨_, h.delete id, h.rowsWithout id⟩
  findByClass_ok h className :=
    ⟨_, h.findByClass className, h.once.filter _, fun _ => h.mem_classIds_iff⟩
  close_ok _ := rfl

end Table

end ObjectMemory.Backend
