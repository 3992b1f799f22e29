import ObjectMemory.Backend.Memory
import ObjectMemory.Backend.Table
import ObjectMemory.Proofs.Instance.Readable
import ObjectMemory.Proofs.Json.Spelling

/-!
# What document stores keep

A store of instances relies on little of the document store below it: the document of an instance is
found again under its id, in the spelling that the document store keeps (`kept`), and a request for
one id leaves the documents of the others alone.  A request that is refused has no new document
store at all.

Documents in memory keep their spelling (`Memory`), and documents in a table lose their blanks
(`Table`).  A table cannot read back a document that is a bare number, but the document of an
instance is an object.

A document is taken or refused by what it is and where it goes, and never because of a document that
was stored before (`SteadyDocumentStore`).

* `LawfulDocumentStore` — the laws, for both document stores;
* `refusal?`, `SteadyDocumentStore` — what is refused, and that it stays so;
* `Memory.put_encode` — a readable instance is refused by no store in memory that takes changes;
* `Memory.namesClass_encode` — its document names its class.
-/

namespace ObjectMemory.Backend

open Json

/-- A document store that keeps what it takes, id by id. -/
class LawfulDocumentStore (β : Type) [DocumentStore β] where
  /-- The text that a document is found as. -/
  kept : String → String
  kept_encode : ∀ {object : Instance}, object.Storable → kept object.encode = object.encode
  get_put_self : ∀ {store store' : β} {id : String} {object : Instance},
    DocumentStore.put store id object.encode = .ok store' →
      DocumentStore.get store' id = .ok (some (kept object.encode))
  get_put_of_ne : ∀ {store store' : β} {id other document : String},
    DocumentStore.put store id document = .ok store' → other ≠ id →
      DocumentStore.get store' other = DocumentStore.get store other
  get_delete_self : ∀ {store store' : β} {id : String},
    DocumentStore.delete store id = .ok store' → DocumentStore.get store' id = .ok none
  get_delete_of_ne : ∀ {store store' : β} {id other : String},
    DocumentStore.delete store id = .ok store' → other ≠ id →
      DocumentStore.get store' other = DocumentStore.get store other

/-- Why a document store refuses a document, if it does. -/
def refusal? {β : Type} [DocumentStore β] (store : β) (id document : String) : Option Failure :=
  match DocumentStore.put store id document with
  | .ok _ => none
  | .error failure => some failure

/-- A document store that takes or refuses a document whatever it stored before. -/
class SteadyDocumentStore (β : Type) [DocumentStore β] : Prop where
  refusal?_put : ∀ {store store' : β} {id document : String},
    DocumentStore.put store id document = .ok store' →
      ∀ other text, refusal? store' other text = refusal? store other text

/-! ## Memory -/

namespace Memory

/-- A document that is taken is JSON, and it is the only change. -/
lemma put_eq_ok {store store' : Memory} {id document : String}
    (h : store.put id document = .ok store') :
    (∃ value, decode document = .ok value) ∧
      store' = { store with documents := store.documents.insert id document } := by
  rw [put] at h
  split_ifs at h
  split at h
  · cases h
  · next value hvalue => exact ⟨⟨value, hvalue⟩, (Except.ok.inj h).symm⟩

lemma delete_eq_ok {store store' : Memory} {id : String} (h : store.delete id = .ok store') :
    store' = { store with documents := store.documents.erase id } := by
  rw [delete] at h
  split_ifs at h
  exact (Except.ok.inj h).symm

lemma get_eq (store : Memory) (id : String) :
    DocumentStore.get store id = .ok (store.documents.get? id) := rfl

lemma put_of_decode {store : Memory} (h : store.readOnly = false) (id : String)
    {document : String} {value : Value} (hdecode : decode document = .ok value) :
    store.put id document
      = .ok { store with documents := store.documents.insert id document } := by
  rw [put, h, hdecode]
  rfl

lemma put_encode {store : Memory} (h : store.readOnly = false) (id : String) {object : Instance}
    (readable : object.Readable) :
    store.put id object.encode
      = .ok { store with documents := store.documents.insert id object.encode } :=
  put_of_decode h id readable.decode_encode

lemma delete_of_writable {store : Memory} (h : store.readOnly = false) (id : String) :
    store.delete id = .ok { store with documents := store.documents.erase id } := by
  rw [delete, if_neg (by simp [h])]

lemma namesClass_encode {object : Instance} (h : object.Readable) (className : String) :
    namesClass className object.encode = (object.className == className) := by
  have hclass : object.data.reread.get? classKey = some (.str object.className) := by
    rw [Object.get?_reread, (Instance.mirrored_iff.mp h.mirrored).1]
    rfl
  rw [namesClass, h.decode_encode]
  simp only [Value.ofObject, Value.object?, SortedMap.ofList_entries, Option.bind_some, hclass,
    Value.text?]
  rfl

instance : LawfulDocumentStore Memory where
  kept document := document
  kept_encode _ := rfl
  get_put_self {store store' id object} h := by
    obtain ⟨-, rfl⟩ := put_eq_ok h
    rw [get_eq, SortedMap.get?_insert_self]
  get_put_of_ne {store store' id other document} h hne := by
    obtain ⟨-, rfl⟩ := put_eq_ok h
    rw [get_eq, get_eq, SortedMap.get?_insert_of_ne hne]
  get_delete_self {store store' id} h := by
    obtain rfl := delete_eq_ok h
    rw [get_eq, SortedMap.get?_erase_self]
  get_delete_of_ne {store store' id other} h hne := by
    obtain rfl := delete_eq_ok h
    rw [get_eq, get_eq, SortedMap.get?_erase_of_ne hne]

lemma refusal?_eq (store : Memory) (id document : String) :
    refusal? store id document = if store.readOnly then some readOnlyFailure
      else match decode document with
        | .error error => some (malformed error)
        | .ok _ => none := by
  rw [refusal?, show DocumentStore.put store id document = store.put id document from rfl, put]
  cases store.readOnly
  · cases decode document <;> rfl
  · rfl

instance : SteadyDocumentStore Memory where
  refusal?_put {store store' id document} h other text := by
    obtain ⟨-, rfl⟩ := put_eq_ok h
    rw [refusal?_eq, refusal?_eq]

end Memory

/-! ## Tables -/

namespace Table

lemma put_eq_ok {table table' : Table} {id document : String}
    (h : table.put id document = .ok table') :
    ∃ spelled, Spelled.decode? tableDepthLimit document = some spelled ∧
      table' = { table with rows := table.rowsWithout id ++ [(id, .document spelled)] } := by
  rw [put] at h
  split_ifs at h
  split at h
  · cases h
  · next spelled hspelled => exact ⟨spelled, hspelled, (Except.ok.inj h).symm⟩

lemma delete_eq_ok {table table' : Table} {id : String} (h : table.delete id = .ok table') :
    table' = { table with rows := table.rowsWithout id } := by
  rw [delete] at h
  split_ifs at h
  exact (Except.ok.inj h).symm

lemma find?_rowsWithout_self (table : Table) (id : String) :
    (table.rowsWithout id).find? (fun row => row.1 == id) = none := by
  rw [List.find?_eq_none]
  intro row hrow
  have hne := (List.mem_filter.mp hrow).2
  simpa using hne

lemma find?_rowsWithout_of_ne (table : Table) {id other : String} (hne : other ≠ id) :
    (table.rowsWithout id).find? (fun row => row.1 == other)
      = table.rows.find? (fun row => row.1 == other) := by
  rw [rowsWithout, List.find?_filter]
  congr 1
  funext row
  rcases eq_or_ne row.1 other with heq | heq
  · simp [heq, hne]
  · simp [heq]

/-- The document of an instance is an object in a table too. -/
lemma decode?_encode_eq_obj {object : Instance} {spelled : Spelled}
    (h : Spelled.decode? tableDepthLimit object.encode = some spelled) :
    ∃ members, spelled = .obj members := by
  obtain ⟨inside, heq⟩ := obj_chars object.document.entries
  have htext : object.encode.toList.takeWhile (· != '\x00')
      = '\x7b' :: inside.takeWhile (· != '\x00') := by
    rw [Instance.encode, Object.encode, Value.encode, String.toList_ofList, Value.ofObject, heq]
    rfl
  rw [Spelled.decode?, htext] at h
  obtain ⟨front, hread, hcomplete⟩ := of_bind_ok (of_toOption_some h)
  obtain ⟨⟨members, behind⟩, -, heq⟩ := of_bind_ok hread
  rw [← of_complete hcomplete]
  exact Reader.yields_pure (P := fun document => ∃ members, document = Spelled.obj members)
    ⟨members, rfl⟩ heq

instance : LawfulDocumentStore Table where
  kept document :=
    match Spelled.decode? tableDepthLimit document with
    | some spelled => spelled.encode
    | none => document
  kept_encode {object} h := by
    obtain ⟨-, hc, hd⟩ := h.document
    rw [h.mirrored.encode_eq, Object.encode, decode?_encode hc (hd.trans (by decide))]
    exact Value.spelled_encode _
  get_put_self {table table' id object} h := by
    obtain ⟨spelled, hspelled, rfl⟩ := put_eq_ok h
    obtain ⟨members, rfl⟩ := decode?_encode_eq_obj hspelled
    show Table.get _ id = _
    rw [Table.get, List.find?_append, find?_rowsWithout_self, hspelled]
    simp [Cell.read, Except.map]
  get_put_of_ne {table table' id other document} h hne := by
    obtain ⟨spelled, -, rfl⟩ := put_eq_ok h
    show Table.get _ other = Table.get _ other
    rw [Table.get, Table.get, List.find?_append, find?_rowsWithout_of_ne table hne,
      List.find?_singleton, if_neg (by simpa using hne.symm), Option.or_none]
  get_delete_self {table table' id} h := by
    obtain rfl := delete_eq_ok h
    show Table.get _ id = _
    rw [Table.get, find?_rowsWithout_self]
  get_delete_of_ne {table table' id other} h hne := by
    obtain rfl := delete_eq_ok h
    show Table.get _ other = Table.get _ other
    rw [Table.get, Table.get, find?_rowsWithout_of_ne table hne]

lemma refusal?_eq (table : Table) (id document : String) :
    refusal? table id document = if table.refuses id then some (.database .locked)
      else match Spelled.decode? tableDepthLimit document with
        | none => some (.database .malformedJson)
        | some _ => none := by
  rw [refusal?, show DocumentStore.put table id document = table.put id document from rfl, put]
  cases table.refuses id
  · cases Spelled.decode? tableDepthLimit document <;> rfl
  · rfl

instance : SteadyDocumentStore Table where
  refusal?_put {table table' id document} h other text := by
    obtain ⟨spelled, -, rfl⟩ := put_eq_ok h
    rw [refusal?_eq, refusal?_eq]
    rfl

end Table

end ObjectMemory.Backend
