import ObjectMemory.Proofs.Backend.ClassReaders
import ObjectMemory.Proofs.Store.Frame

/-!
# Ids that are listed and instances that are loaded

A store lists the ids of a class by what the document store finds in the documents, and it loads an
instance that is not cached by decoding its document.  An id should be listed for a class exactly if
an instance of the class is loaded for it.

Over documents in memory this is so, whatever the documents are, since both ask what a document is
decoded as.  Over a table it is so of the documents that both readers of a class read alike, and of
no others; unequivocal documents are read alike, and so are the documents of all instances.

* `Store.Lists`, `Store.Loads` — what is listed, and what is loaded;
* `loads_iff` — what is not cached is loaded as what its document names;
* **`lists_iff_loads`** — over both document stores;
* `lists_iff_loads_counter`, `rivals_listed` — documents that are read alike, and one that is not.
-/

namespace ObjectMemory.Store

open Backend Json

variable {β : Type} [DocumentStore β] {store : Store β} {className id : String}

/-- The id is listed for the class. -/
def Lists (store : Store β) (className id : String) : Prop :=
  ∃ ids, store.findByClass className = .ok ids ∧ id ∈ ids

/-- An instance of the class is loaded for the id. -/
def Loads (store : Store β) (className id : String) : Prop :=
  ∃ object, (store.load id).1 = .ok object ∧ object.className = className

lemma lists_iff :
    store.Lists className id ↔
      ∃ ids, DocumentStore.findByClass store.backend className = .ok ids ∧ id ∈ ids := by
  rw [Lists, findByClass]
  cases DocumentStore.findByClass store.backend className with
  | error failure => simp [Except.mapError]
  | ok ids => simp [Except.mapError]

/-- What is not cached is loaded as an instance of the class that its document names. -/
lemma loads_iff (uncached : store.isCached id = false) :
    store.Loads className id ↔
      ∃ text, DocumentStore.get store.backend id = .ok (some text) ∧
        namesClass className text = true := by
  rw [Loads, load_of_uncached (isCached_eq_false.mp uncached), view]
  cases DocumentStore.get store.backend id with
  | error failure => simp
  | ok found =>
      cases found with
      | none => simp
      | some text =>
          simp only [Except.ok.injEq, Option.some.injEq, exists_eq_left', namesClass_iff_decode id]
          cases Instance.decode id text with
          | error error => simp [Except.mapError]
          | ok object => simp [Except.mapError]

/-- Documents in memory are decoded for their class, as they are to be loaded. -/
lemma lists_iff_loads_memory {store : Store Memory} (uncached : store.isCached id = false) :
    store.Lists className id ↔ store.Loads className id := by
  have hlists : store.Lists className id ↔ id ∈ store.backend.findByClass className := by
    rw [lists_iff]
    exact ⟨fun ⟨_, hids, hmem⟩ => Except.ok.inj hids ▸ hmem, fun hmem => ⟨_, rfl, hmem⟩⟩
  rw [hlists, loads_iff uncached, Memory.mem_findByClass_iff]
  exact exists_congr fun text => and_congr_left fun _ => by rw [Memory.get_eq, Except.ok.injEq]

/-- Over a table it depends on whether both readers of a class read the document alike. -/
lemma lists_iff_loads_table {store : Store Table} (checked : store.backend.Checked)
    (uncached : store.isCached id = false) :
    (∀ className, store.Lists className id ↔ store.Loads className id) ↔
      ∀ document, (id, .document document) ∈ store.backend.rows →
        classOf? document = readClass? document := by
  have hlists : ∀ className, store.Lists className id ↔ ∃ document,
      (id, .document document) ∈ store.backend.rows ∧ classOf? document = some className := by
    intro className
    obtain ⟨ids, hids, hmem⟩ := checked.findByClass className
    rw [lists_iff, ← hmem]
    exact ⟨fun ⟨_, hids', hid⟩ => Except.ok.inj (hids'.symm.trans hids) ▸ hid,
      fun hid => ⟨ids, hids, hid⟩⟩
  have hloads : ∀ className, store.Loads className id ↔ ∃ document,
      (id, .document document) ∈ store.backend.rows ∧ readClass? document = some className :=
    fun className => (loads_iff uncached).trans checked.get_names_iff
  have honly : ∀ {document other}, (id, .document document) ∈ store.backend.rows →
      (id, .document other) ∈ store.backend.rows → document = other := fun hrow hother =>
    Cell.document.inj (Prod.mk.inj (List.inj_on_of_nodup_map checked.once hrow hother rfl)).2
  simp only [hlists, hloads]
  constructor
  · intro h document hrow
    refine Option.ext fun className => ⟨fun hclass => ?_, fun hclass => ?_⟩
    · obtain ⟨other, hother, hread⟩ := (h className).mp ⟨document, hrow, hclass⟩
      rwa [honly hrow hother]
    · obtain ⟨other, hother, hnamed⟩ := (h className).mpr ⟨document, hrow, hclass⟩
      rwa [honly hrow hother]
  · intro h className
    exact exists_congr fun document => and_congr_right fun hrow => by rw [h document hrow]

/-- **An id is listed for a class exactly if an instance of the class is loaded for it** that was
not cached.  Documents in memory may be anything for that.  Documents that a table checked have to
be read alike by both readers of a class, as those are that name one class only. -/
theorem lists_iff_loads (memory : Store Memory) (table : Store Table)
    (checked : table.backend.Checked) (id : String) :
    (memory.isCached id = false →
      ∀ className, memory.Lists className id ↔ memory.Loads className id) ∧
    (table.isCached id = false →
      ((∀ className, table.Lists className id ↔ table.Loads className id) ↔
        ∀ document, (id, .document document) ∈ table.backend.rows →
          classOf? document = readClass? document) ∧
      ((∀ document, (id, .document document) ∈ table.backend.rows → Unequivocal document) →
        ∀ className, table.Lists className id ↔ table.Loads className id)) := by
  refine ⟨fun uncached className => lists_iff_loads_memory uncached, fun uncached => ?_⟩
  have hiff := lists_iff_loads_table checked uncached
  exact ⟨hiff, fun h => hiff.mpr fun document hrow => (h document hrow).classOf?_eq⟩

/-- The document of a counter. -/
def counterDocument : Value := .obj [("class", .str "Counter"), ("n", .null)]

/-- A table that has the document of a counter. -/
def counterTable : Table := ⟨[("counter_1", .document counterDocument.spelled)], false, []⟩

lemma put_counterDocument :
    Table.empty.put "counter_1" counterDocument.encode = .ok counterTable := by
  have hspelled : Spelled.decode? tableDepthLimit counterDocument.encode
      = some counterDocument.spelled :=
    decode?_encode (by decide +kernel) (by decide +kernel)
  rw [Table.put, if_neg (by decide), hspelled]
  rfl

lemma counterTable_unequivocal {document : Spelled}
    (h : ("counter_1", .document document) ∈ counterTable.rows) : Unequivocal document := by
  obtain rfl := Cell.document.inj (Prod.mk.inj (List.mem_singleton.mp h)).2
  refine ⟨by decide +kernel, by decide +kernel, .str "Counter", fun member hmember hname => ?_⟩
  rcases List.mem_pair.mp hmember with rfl | rfl
  · rfl
  · exact absurd hname (by decide +kernel)

/-- A document with two members for the class. -/
def rivalDocument : String := "\x7b\"class\":\"A\",\"class\":\"B\"\x7d"

theorem lists_iff_loads_counter :
    (Table.empty.put "counter_1" counterDocument.encode = .ok counterTable ∧
      counterTable.Checked ∧ (new counterTable).isCached "counter_1" = false ∧
      (∀ document, ("counter_1", .document document) ∈ counterTable.rows → Unequivocal document) ∧
      (new counterTable).Lists "Counter" "counter_1" ∧
      (new counterTable).Loads "Counter" "counter_1") ∧
    ∃ memory, Memory.empty.put "rival_1" rivalDocument = .ok memory ∧
      (new memory).isCached "rival_1" = false ∧
      (new memory).Lists "B" "rival_1" ∧ (new memory).Loads "B" "rival_1" := by
  constructor
  · have hchecked := Table.empty_checked.put put_counterDocument
    have hlists : (new counterTable).Lists "Counter" "counter_1" :=
      ⟨["counter_1"], by decide +kernel, List.mem_singleton_self _⟩
    have hagree :=
      (lists_iff_loads (new Memory.empty) (new counterTable) hchecked "counter_1").2 rfl
    have hloads := (hagree.2 (fun _ => counterTable_unequivocal) "Counter").mp hlists
    exact ⟨put_counterDocument, hchecked, rfl, fun _ => counterTable_unequivocal, hlists, hloads⟩
  · have hlisted : (Memory.empty.put "rival_1" rivalDocument).toOption.map
        (fun memory => memory.findByClass "B") = some ["rival_1"] := by decide +kernel
    obtain ⟨memory, hput, hids⟩ := Option.map_eq_some_iff.mp hlisted
    have hmem : "rival_1" ∈ memory.findByClass "B" := by
      rw [hids]
      exact List.mem_singleton_self _
    have hlists : (new memory).Lists "B" "rival_1" := ⟨_, rfl, hmem⟩
    have hagree :=
      (lists_iff_loads (new memory) (new Table.empty) Table.empty_checked "rival_1").1 rfl
    exact ⟨memory, of_toOption_some hput, rfl, hlists, (hagree "B").mp hlists⟩

/-- A document with two classes is listed under the first and loaded as the last. -/
theorem rivals_listed :
    ∃ table, Table.empty.put "rival_1" rivalDocument = .ok table ∧ table.Checked ∧
      (new table).isCached "rival_1" = false ∧
      (new table).Lists "A" "rival_1" ∧ ¬ (new table).Loads "A" "rival_1" ∧
      (new table).Loads "B" "rival_1" ∧ ¬ (new table).Lists "B" "rival_1" := by
  have hanswers : (Table.empty.put "rival_1" rivalDocument).toOption.map (fun table =>
      (((new table).findByClass "A").toOption, ((new table).findByClass "B").toOption,
        ((new table).load "rival_1").1.toOption.map Instance.className))
      = some (some ["rival_1"], some [], some "B") := by decide +kernel
  obtain ⟨table, hput, hanswers⟩ := Option.map_eq_some_iff.mp hanswers
  obtain ⟨hfirst, hanswers⟩ := Prod.mk.inj hanswers
  obtain ⟨hlast, hload⟩ := Prod.mk.inj hanswers
  have hfirst := of_toOption_some hfirst
  have hlast := of_toOption_some hlast
  obtain ⟨object, hobject, hclass⟩ := Option.map_eq_some_iff.mp hload
  have hloaded := of_toOption_some hobject
  have hput := of_toOption_some hput
  refine ⟨table, hput, Table.empty_checked.put hput, rfl,
    ⟨_, hfirst, List.mem_singleton_self _⟩, ?_, ⟨object, hloaded, hclass⟩, ?_⟩
  · rintro ⟨other, hother, hnamed⟩
    obtain rfl := Except.ok.inj (hother.symm.trans hloaded)
    exact absurd (hnamed.symm.trans hclass) (by decide)
  · rintro ⟨ids, hids, hmem⟩
    obtain rfl := Except.ok.inj (hids.symm.trans hlast)
    exact List.not_mem_nil hmem

end ObjectMemory.Store
