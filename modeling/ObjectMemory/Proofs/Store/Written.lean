import ObjectMemory.Proofs.Store.View

/-!
# What is written is found again

A variable is written in the cache, flushed with the document of its instance, and read from that
document once the cache was dropped.  Three parts have a say in this: the instance, which takes any
value, the document store, which may look at the document, and the reader of documents.  They do
not accept the same values.  A value may have as many levels of brackets as a document may, and
then the document that has it for a member has one more.  Documents in memory are refused then, so
that the entry can never be flushed, and a table takes them, so that they can never be read.

A write is found again exactly if there is room for it and its numbers are read as they were
(`foundAgain_iff`).  Only doubles are read as others.

* `Backend.Takes` — a document store that works; `Memory.takes`, `Table.takes` — both do;
* `Instance.HasRoom` — there is room for a value in the document of an instance;
* `FoundAgain` — a value is found after a flush and with nothing cached;
* `flush_of_put`, `load_clear` — a flush of one entry, and reading it again;
* **`write_found_again`** — writes of a variable.
-/

namespace ObjectMemory

open Backend Json

/-! ## Document stores -/

namespace Backend

/-- A document store that takes whatever can be read again as the document of an id, and keeps the
spelling of all that it takes. -/
structure Takes {β : Type} [DocumentStore β] (backend : β) (id : String) : Prop where
  taken : ∀ object : Object, MembersCanonical object.entries →
    (Value.ofObject object).depth ≤ depthLimit →
    ∃ after, DocumentStore.put backend id object.encode = .ok after
  kept : ∀ (object : Object) (after : β), MembersCanonical object.entries →
    DocumentStore.put backend id object.encode = .ok after →
    DocumentStore.get after id = .ok (some object.encode)

lemma Memory.takes {store : Memory} (h : store.readOnly = false) (id : String) :
    Takes store id where
  taken object canonical shallow := by
    have hcanonical : (Value.ofObject object).Canonical := ⟨object.ascending, canonical⟩
    exact ⟨_, put_of_decode h id (decode_encode_reread hcanonical shallow)⟩
  kept object after canonical hput := by
    obtain ⟨-, rfl⟩ := put_eq_ok hput
    rw [get_eq, SortedMap.get?_insert_self]

/-- A table takes documents of many more levels than are read. -/
lemma Table.put_encode {table : Table} {id : String} (h : table.refuses id = false)
    {object : Object} (canonical : MembersCanonical object.entries)
    (shallow : (Value.ofObject object).depth ≤ tableDepthLimit) :
    ∃ after, table.put id object.encode = .ok after := by
  have hcanonical : (Value.ofObject object).Canonical := ⟨object.ascending, canonical⟩
  rw [Table.put, if_neg (by rw [h]; decide), Object.encode, decode?_encode hcanonical shallow]
  exact ⟨_, rfl⟩

lemma Table.takes {table : Table} {id : String} (h : table.refuses id = false) :
    Takes table id where
  taken object canonical shallow := put_encode h canonical (shallow.trans (by decide))
  kept object after canonical hput := by
    have hcanonical : (Value.ofObject object).Canonical := ⟨object.ascending, canonical⟩
    obtain ⟨spelled, hspelled, rfl⟩ := put_eq_ok hput
    obtain rfl := decode?_encode_eq hcanonical hspelled
    show Table.get _ id = _
    rw [Table.get, List.find?_append, find?_rowsWithout_self, Object.encode, ← Value.spelled_encode]
    simp [Cell.read, Except.map, Value.ofObject, Value.spelled]

end Backend

/-! ## Room in a document -/

/-- The document of an instance has room for a value as a variable, and for all other ones. -/
structure Instance.HasRoom (object : Instance) (name : String) (value : Value) : Prop where
  value : value.depth < depthLimit
  others : ∀ other x, other ≠ name → object.get? other = some x → x.depth < depthLimit

lemma depth_insert_le_iff {object : Instance} {name : String} {value : Value} :
    (Value.ofObject (object.data.insert name value)).depth ≤ depthLimit ↔
      object.HasRoom name value := by
  rw [show depthLimit = 126 + 1 from rfl, depth_ofObject_le]
  constructor
  · intro h
    refine ⟨?_, fun other x hne hx => ?_⟩
    · exact Nat.lt_succ_of_le (h (name, value)
        (SortedMap.mem_entries_iff.mpr (SortedMap.get?_insert_self _ _ _)))
    · exact Nat.lt_succ_of_le (h (other, x)
        (SortedMap.mem_entries_iff.mpr ((SortedMap.get?_insert_of_ne hne).trans hx)))
  · rintro ⟨hvalue, hothers⟩ ⟨other, x⟩ hmem
    have hx := SortedMap.mem_entries_iff.mp hmem
    rcases eq_or_ne other name with rfl | hne
    · obtain rfl : value = x := Option.some.inj ((SortedMap.get?_insert_self _ _ _).symm.trans hx)
      exact Nat.le_of_lt_succ hvalue
    · rw [SortedMap.get?_insert_of_ne hne] at hx
      exact Nat.le_of_lt_succ (hothers other x hne hx)

/-- In an instance that was read, all values have room that fit into a document themselves. -/
lemma hasRoom_of_decode {id text : String} {object : Instance}
    (h : Instance.decode id text = .ok object) (name : String) {value : Value}
    (shallow : value.depth < depthLimit) : object.HasRoom name value :=
  ⟨shallow, fun other x _ hx =>
    Instance.decode_shallow h (other, x) (SortedMap.mem_entries_iff.mpr hx)⟩

namespace Store

variable {β : Type} [DocumentStore β] {store : Store β} {id name : String} {value : Value}

/-- A value is found as a variable once everything was flushed and nothing is cached. -/
def FoundAgain (store : Store β) (id name : String) (value : Value) : Prop :=
  ∃ flushed after object, store.flush = (.ok flushed, after) ∧
    (after.clear.load id).1 = .ok object ∧ object.get? name = some value

/-! ## One dirty entry -/

omit [DocumentStore β] in
lemma dirtyIds_eq_singleton (dirty : store.isDirty id = true)
    (others : ∀ other, other ≠ id → store.isDirty other = false) : store.dirtyIds = [id] := by
  have hmem : ∀ other, other ∈ store.dirtyIds ↔ other ∈ [id] := fun other => by
    rw [mem_dirtyIds_iff, List.mem_singleton]
    refine ⟨fun hdirty => by_contra fun hne => ?_, fun heq => heq ▸ dirty⟩
    rw [others other hne] at hdirty
    cases hdirty
  have hnodup : store.dirtyIds.Nodup := store.dirtyIds_ascending.imp fun hlt => ne_of_lt hlt
  exact List.perm_singleton.mp
    ((List.perm_ext_iff_of_nodup hnodup (List.nodup_singleton id)).mpr hmem)

/-- A flush of one entry is one request to the document store. -/
lemma flush_of_put {entry : Entry} (cached : store.cache.get? id = some entry)
    (dirty : store.dirtyIds = [id]) :
    match DocumentStore.put store.backend id entry.object.encode with
    | .error failure => store.flush = (.error (.backend .put id failure), store)
    | .ok backend => ∃ after, store.flush = (.ok 1, after) ∧ after.backend = backend := by
  rw [flush, dirty, flushIds, saveCached, cached]
  simp only [save]
  cases DocumentStore.put store.backend id entry.object.encode with
  | error failure => rfl
  | ok backend => exact ⟨_, rfl, rfl⟩

/-- With nothing cached, an instance is what its document is read as. -/
lemma load_clear {document : String}
    (h : DocumentStore.get store.backend id = .ok (some document)) :
    (store.clear.load id).1
      = ((Instance.decode id document).mapError (.unreadable id)).map Instance.unmodified := by
  have hfetch : store.clear.fetch id = (Instance.decode id document).mapError (.unreadable id) := by
    rw [fetch, show store.clear.backend = store.backend from rfl, h]
  have huncached : store.clear.cache.get? id = none := rfl
  cases hdecode : Instance.decode id document with
  | error error =>
      have hdemand : store.clear.demand id = .error (.unreadable id error) := by
        rw [demand, huncached, hfetch, hdecode]
        rfl
      rw [load_of_error hdemand]
      rfl
  | ok object =>
      have hdemand : store.clear.demand id = .ok (.clean object store.clear.moment) := by
        rw [demand, huncached, hfetch, hdecode]
        rfl
      rw [load_of_demand hdemand]
      rfl

/-- The one dirty entry of a store is found again exactly if its document can be read, and the
value is what is reread of the variable. -/
lemma foundAgain_iff (takes : Takes store.backend id) {entry : Entry}
    (cached : store.cache.get? id = some entry) (dirty : store.dirtyIds = [id])
    (mirrored : entry.object.Mirrored) (canonical : MembersCanonical entry.object.data.entries)
    (free : isReserved name = false) :
    store.FoundAgain id name value ↔ (Value.ofObject entry.object.data).depth ≤ depthLimit ∧
      (entry.object.get? name).map Value.reread = some value := by
  have hflush := flush_of_put cached dirty
  rw [mirrored.encode_eq] at hflush
  cases hput : DocumentStore.put store.backend id entry.object.data.encode with
  | error failure =>
      rw [hput] at hflush
      constructor
      · rintro ⟨flushed, after, object, hok, -⟩
        cases hflush.symm.trans hok
      · rintro ⟨shallow, -⟩
        obtain ⟨after, hok⟩ := takes.taken _ canonical shallow
        rw [hput] at hok
        cases hok
  | ok backend =>
      rw [hput] at hflush
      obtain ⟨saved, hsaved, rfl⟩ := hflush
      have hload := load_clear (takes.kept _ _ canonical hput)
      rw [← mirrored.encode_eq] at hload
      rcases Nat.lt_or_ge depthLimit (Value.ofObject entry.object.data).depth with hdeep | hshallow
      · obtain ⟨error, hdecode⟩ := Instance.decode_encode_deep mirrored canonical hdeep id
        rw [hdecode] at hload
        constructor
        · rintro ⟨flushed, after, object, hok, hloaded, -⟩
          cases hsaved.symm.trans hok
          cases hload.symm.trans hloaded
        · rintro ⟨hle, -⟩
          exact absurd hle (Nat.not_le_of_lt hdeep)
      · obtain ⟨again, hdecode, hvariables⟩ :=
          Instance.decode_encode_reread mirrored canonical hshallow id
        rw [hdecode] at hload
        rw [← hvariables name free]
        constructor
        · rintro ⟨flushed, after, object, hok, hloaded, hvalue⟩
          cases hsaved.symm.trans hok
          cases hload.symm.trans hloaded
          exact ⟨hshallow, hvalue⟩
        · rintro ⟨-, hvalue⟩
          exact ⟨1, saved, again.unmodified, hsaved, hload, hvalue⟩

/-! ## Documents that are too deep -/

/-- Over documents in memory, an entry that is too deep can never be flushed. -/
lemma flush_deep {store : Store Memory} {entry : Entry}
    (cached : store.cache.get? id = some entry) (dirty : store.dirtyIds = [id])
    (made : entry.object.Made) (deep : depthLimit < (Value.ofObject entry.object.data).depth) :
    ∃ failure, store.flush = (.error (.backend .put id failure), store) := by
  have hflush := flush_of_put cached dirty
  rw [made.mirrored.encode_eq] at hflush
  cases hput : DocumentStore.put store.backend id entry.object.data.encode with
  | error failure =>
      rw [hput] at hflush
      exact ⟨failure, hflush⟩
  | ok backend =>
      obtain ⟨⟨value, hdecode⟩, -⟩ := Memory.put_eq_ok hput
      obtain ⟨error, hdeep⟩ := Json.decode_encode_deep
        (v := .ofObject entry.object.data) ⟨entry.object.data.ascending, made.canonical⟩ deep
      cases hdeep.symm.trans hdecode

/-- Over a table, an entry that is too deep is flushed and can never be read. -/
lemma load_deep {store : Store Table} (writable : store.backend.refuses id = false) {entry : Entry}
    (cached : store.cache.get? id = some entry) (dirty : store.dirtyIds = [id])
    (made : entry.object.Made) (deep : depthLimit < (Value.ofObject entry.object.data).depth)
    (taken : (Value.ofObject entry.object.data).depth ≤ tableDepthLimit) :
    ∃ after error, store.flush = (.ok 1, after) ∧
      (after.clear.load id).1 = .error (.unreadable id (.malformed error)) := by
  have hflush := flush_of_put cached dirty
  rw [made.mirrored.encode_eq] at hflush
  obtain ⟨backend, hput⟩ := Table.put_encode writable made.canonical taken
  have hkept := (Table.takes writable).kept _ _ made.canonical hput
  rw [show DocumentStore.put store.backend id entry.object.data.encode = .ok backend from hput]
    at hflush
  obtain ⟨after, hafter, rfl⟩ := hflush
  obtain ⟨error, hdecode⟩ := Instance.decode_encode_deep made.mirrored made.canonical deep id
  rw [made.mirrored.encode_eq] at hdecode
  refine ⟨after, error, hafter, ?_⟩
  rw [load_clear hkept, hdecode]
  rfl

/-! ## Writes of a variable -/

lemma set_of_free (free : isReserved name = false) (value : Value) (object : Instance) :
    Instance.set name value object = (.ok (object.get? name),
      { object with data := object.data.insert name value, modified := true }) := by
  rw [Instance.set, free]
  rfl

/-- A variable that is written is written in the cache, and makes the entry dirty. -/
lemma setVar_of_demand (free : isReserved name = false) (value : Value) {entry : Entry}
    (hdemand : store.demand id = .ok entry) : ∃ edited : Entry,
      edited.object = (Instance.set name value entry.object).2.unmodified ∧ edited.dirty = true ∧
      store.setVar id name value = (.ok (entry.object.get? name), store.remember id edited) := by
  refine ⟨entry.edited (Instance.set name value entry.object).2 store.moment, rfl, ?_, ?_⟩
  · rw [set_of_free free]
    exact Bool.or_true _
  · rw [setVar, update_of_demand _ hdemand, set_of_free free]
    rfl

/-- A variable is written whenever there is an instance, and then this is the one entry that waits
to be flushed. -/
lemma setVar_pending (free : isReserved name = false) (canonical : value.Canonical)
    (others : ∀ other, other ≠ id → store.isDirty other = false) {object : Instance}
    (loaded : (store.load id).1 = .ok object) (made : object.Made) : ∃ (edited : Entry) (after : _),
      store.setVar id name value = (.ok (object.get? name), after) ∧
      after.backend = store.backend ∧ after.cache.get? id = some edited ∧ after.dirtyIds = [id] ∧
      edited.object.Made ∧ edited.object.data = object.data.insert name value := by
  obtain ⟨entry, hdemand, rfl⟩ := demand_of_load loaded
  obtain ⟨edited, hobject, hdirty, hset⟩ := setVar_of_demand free value hdemand
  have hcached : (store.remember id edited).cache.get? id = some edited :=
    SortedMap.get?_insert_self _ _ _
  have hsingle : (store.remember id edited).dirtyIds = [id] := by
    refine dirtyIds_eq_singleton ?_ fun other hne => ?_
    · rw [isDirty, hcached]
      exact hdirty
    · rw [isDirty_eq_false, view_remember_of_ne _ _ hne, ← isDirty_eq_false]
      exact others other hne
  have hmade : edited.object.Made := hobject ▸ (made.edited (.set name value) canonical).unmodified
  have hdata : edited.object.data = entry.object.data.insert name value := by
    rw [hobject, set_of_free free]
    rfl
  exact ⟨edited, _, hset, rfl, hcached, hsingle, hmade, hdata⟩

/-- What is written is found again exactly if there is room for the value and it comes back as it
was. -/
lemma setVar_foundAgain (takes : Takes store.backend id) (free : isReserved name = false)
    (canonical : value.Canonical) (others : ∀ other, other ≠ id → store.isDirty other = false)
    {object : Instance} (loaded : (store.load id).1 = .ok object) (made : object.Made) :
    ∃ before after, store.setVar id name value = (.ok before, after) ∧
      (after.FoundAgain id name value ↔ object.HasRoom name value ∧ value.reread = value) := by
  obtain ⟨edited, after, hset, hbackend, hcached, hdirty, hmade, hdata⟩ :=
    setVar_pending free canonical others loaded made
  refine ⟨_, after, hset, ?_⟩
  rw [foundAgain_iff (hbackend ▸ takes) hcached hdirty hmade.mirrored hmade.canonical free, hdata,
    depth_insert_le_iff, Instance.get?, hdata, SortedMap.get?_insert_self, Option.map_some,
    Option.some_inj]

/-- **What is written is found again**, over documents in memory that may be changed and over a
table that nobody else is writing to: if nothing else is waiting to be flushed, and an instance can
be loaded, then a variable of it is written whatever the value, and is found again exactly if there
is room for the value in the document and its numbers are read as they were. -/
theorem write_found_again {id name : String} {value : Value} (free : isReserved name = false)
    (decodable : value.Decodable) :
    (∀ (store : Store Memory) object, store.backend.readOnly = false →
      (∀ other, other ≠ id → store.isDirty other = false) →
      (store.load id).1 = .ok object → object.Made →
      ∃ before after, store.setVar id name value = (.ok before, after) ∧
        (after.FoundAgain id name value ↔ object.HasRoom name value ∧ value.reread = value)) ∧
    ∀ (store : Store Table) object, store.backend.refuses id = false →
      (∀ other, other ≠ id → store.isDirty other = false) →
      (store.load id).1 = .ok object → object.Made →
      ∃ before after, store.setVar id name value = (.ok before, after) ∧
        (after.FoundAgain id name value ↔ object.HasRoom name value ∧ value.reread = value) :=
  ⟨fun _ _ writable others loaded made =>
    setVar_foundAgain (Memory.takes writable id) free decodable.canonical others loaded made,
    fun _ _ writable others loaded made =>
    setVar_foundAgain (Table.takes writable) free decodable.canonical others loaded made⟩

/-- A document with nothing but a class. -/
def bareDocument : String := "\x7b\"class\":\"Counter\"\x7d"

/-- A store over documents in memory that has a counter. -/
def memoryCounter : Store Memory := new ⟨.ofList [("counter_1", bareDocument)], false⟩

/-- A store over a table that has a counter. -/
def tableCounter : Store Table := new ⟨[("counter_1", .text bareDocument)], false, []⟩

/-- What is loaded with nothing cached is an instance of a document, with no variables but those of
the document. -/
lemma load_new {backend : β} {document : String}
    (h : DocumentStore.get backend id = .ok (some document)) {object : Instance}
    (hdecode : Instance.decode id document = .ok object) :
    ((new backend).load id).1 = .ok object.unmodified := by
  have hget : DocumentStore.get (new backend).backend id = .ok (some document) := h
  have hload := load_clear hget
  rw [hdecode] at hload
  exact hload

lemma memoryCounter_get :
    DocumentStore.get memoryCounter.backend "counter_1" = .ok (some bareDocument) :=
  congrArg Except.ok (SortedMap.get?_insert_self _ _ _)

lemma tableCounter_get :
    DocumentStore.get tableCounter.backend "counter_1" = .ok (some bareDocument) := by
  have hliteral : literal? bareDocument.toList = none := by decide +kernel
  show (Cell.text bareDocument).read.map some = _
  rw [Cell.read, hliteral]
  rfl

lemma bareDocument_decode : ∃ object, Instance.decode "counter_1" bareDocument = .ok object := by
  have hread : (Instance.decode "counter_1" bareDocument).isOk = true := by decide +kernel
  cases hdecode : Instance.decode "counter_1" bareDocument with
  | error error =>
      rw [hdecode] at hread
      cases hread
  | ok object => exact ⟨object, rfl⟩

/-- Both stores load the counter of the document. -/
lemma counter_loaded : ∃ object, Instance.decode "counter_1" bareDocument = .ok object ∧
    (memoryCounter.load "counter_1").1 = .ok object ∧
    (tableCounter.load "counter_1").1 = .ok object := by
  obtain ⟨object, hdecode⟩ := bareDocument_decode
  have hmemory := load_new memoryCounter_get hdecode
  have htable := load_new tableCounter_get hdecode
  rw [Instance.unmodified_eq (Instance.decode_unmodified hdecode)] at hmemory htable
  exact ⟨object, hdecode, hmemory, htable⟩

theorem write_found_again_counter :
    isReserved "n" = false ∧ (Value.str "x").Decodable ∧ ∃ object,
    memoryCounter.backend.readOnly = false ∧ tableCounter.backend.refuses "counter_1" = false ∧
    (∀ other, other ≠ "counter_1" → memoryCounter.isDirty other = false) ∧
    (∀ other, other ≠ "counter_1" → tableCounter.isDirty other = false) ∧
    (memoryCounter.load "counter_1").1 = .ok object ∧
    (tableCounter.load "counter_1").1 = .ok object ∧ object.Made ∧
    (∃ before after, memoryCounter.setVar "counter_1" "n" (.str "x") = (.ok before, after) ∧
      after.FoundAgain "counter_1" "n" (.str "x")) ∧
    ∃ before after, tableCounter.setVar "counter_1" "n" (.str "x") = (.ok before, after) ∧
      after.FoundAgain "counter_1" "n" (.str "x") := by
  have hfree : isReserved "n" = false := by decide
  have hdecodable : (Value.str "x").Decodable :=
    decodable_of_integersOnly trivial trivial (by decide)
  obtain ⟨object, hdecode, hmemory, htable⟩ := counter_loaded
  have hroom : object.HasRoom "n" (.str "x") := hasRoom_of_decode hdecode "n" (by decide)
  obtain ⟨before, after, hset, hfound⟩ := (write_found_again hfree hdecodable).1 memoryCounter
    object rfl (fun _ _ => rfl) hmemory (.decoded hdecode)
  obtain ⟨before', after', hset', hfound'⟩ := (write_found_again hfree hdecodable).2 tableCounter
    object rfl (fun _ _ => rfl) htable (.decoded hdecode)
  exact ⟨hfree, hdecodable, object, rfl, rfl, fun _ _ => rfl, fun _ _ => rfl, hmemory, htable,
    .decoded hdecode, ⟨before, after, hset, hfound.mpr ⟨hroom, rfl⟩⟩,
    before', after', hset', hfound'.mpr ⟨hroom, rfl⟩⟩

/-- Writes are accepted that can never be flushed, that can never be read, and that are read as
another value. -/
theorem write_stranded_counter :
    isReserved "n" = false ∧ (nested depthLimit).Decodable ∧
    (∃ before after failure,
      memoryCounter.setVar "counter_1" "n" (nested depthLimit) = (.ok before, after) ∧
      after.flush = (.error (.backend .put "counter_1" failure), after)) ∧
    (∃ before after saved error,
      tableCounter.setVar "counter_1" "n" (nested depthLimit) = (.ok before, after) ∧
      after.flush = (.ok 1, saved) ∧
      (saved.clear.load "counter_1").1 = .error (.unreadable "counter_1" (.malformed error))) ∧
    ∃ value before after, decode "30e22" = .ok value ∧
      memoryCounter.setVar "counter_1" "n" value = (.ok before, after) ∧
      ¬ after.FoundAgain "counter_1" "n" value := by
  have hfree : isReserved "n" = false := by decide
  have hdecodable : (nested depthLimit).Decodable := decodable_nested depthLimit le_rfl
  obtain ⟨object, hdecode, hmemory, htable⟩ := counter_loaded
  have hdeep : depthLimit < (Value.ofObject (object.data.insert "n" (nested depthLimit))).depth :=
    Nat.lt_of_not_le fun hle =>
      absurd (depth_insert_le_iff.mp hle).value (depth_nested depthLimit).not_lt
  have htaken : (Value.ofObject (object.data.insert "n" (nested depthLimit))).depth
      ≤ tableDepthLimit := by
    have hvalue : (nested depthLimit).depth ≤ 999 := by
      rw [depth_nested]
      decide
    exact depth_ofObject_le.mpr (SortedMap.forall_insert "n" (P := fun v : Value => v.depth ≤ 999)
      hvalue fun m hm => (Instance.decode_shallow hdecode m hm).le.trans (by decide))
  refine ⟨hfree, hdecodable, ?_, ?_, ?_⟩
  · obtain ⟨edited, after, hset, -, hcached, hdirty, hmade, hdata⟩ :=
      setVar_pending hfree hdecodable.canonical (fun _ _ => rfl) hmemory (.decoded hdecode)
    obtain ⟨failure, hflush⟩ := flush_deep hcached hdirty hmade (hdata ▸ hdeep)
    exact ⟨_, after, failure, hset, hflush⟩
  · obtain ⟨edited, after, hset, hbackend, hcached, hdirty, hmade, hdata⟩ :=
      setVar_pending hfree hdecodable.canonical (fun _ _ => rfl) htable (.decoded hdecode)
    obtain ⟨saved, error, hflush, hload⟩ := load_deep (by rw [hbackend]; rfl) hcached hdirty hmade
      (hdata ▸ hdeep) (hdata ▸ htaken)
    exact ⟨_, after, saved, error, hset, hflush, hload⟩
  · have hprinted : (decode "30e22").toOption.map (fun value => (value.encode, value.reread.encode))
        = some ("3e+23", "2.9999999999999997e+23") := by
      decide +kernel
    obtain ⟨value, hvalue, hprinted⟩ := Option.map_eq_some_iff.mp hprinted
    have hvalue : decode "30e22" = .ok value := of_toOption_some hvalue
    obtain ⟨before, after, hset, hfound⟩ := setVar_foundAgain (Memory.takes rfl "counter_1") hfree
      (decode_canonical hvalue) (fun _ _ => rfl) hmemory (.decoded hdecode)
    refine ⟨value, before, after, hvalue, hset, fun h => ?_⟩
    rw [(hfound.mp h).2] at hprinted
    simp only [Prod.mk.injEq] at hprinted
    exact absurd (hprinted.1.symm.trans hprinted.2) (by decide)

end Store

end ObjectMemory
