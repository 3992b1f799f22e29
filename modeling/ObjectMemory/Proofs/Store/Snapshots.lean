import ObjectMemory.Proofs.Store.Effects
import ObjectMemory.Proofs.Store.Failures

/-!
# Editing in place and editing a snapshot

An instance can be edited in two ways: in the cache, which is then written, or as a copy that was
loaded and is then saved.  The first goes through the mark of the instance and the dirty flag of its
entry, and the second past both.  Either way one document is given to the document store, and it is
the same one.  If it is taken, the stores are one and the same; if it is refused, the edits are in
the cache or they are nowhere, and that is the whole difference.

* `editInPlace`, `editSnapshot` — the two ways;
* `editInPlace_of_demand`, `editSnapshot_of_demand` — what they do if there is an instance;
* `EditsAlike` — how they agree, and where they differ;
* **`edits_alike`** — they do so for every store, id and edits.
-/

namespace ObjectMemory.Store

open Backend Json

variable {β : Type} [DocumentStore β]

/-- Edits the cached instance of an id and writes it.  The answer has those of the edits, if there
is an instance, and the outcome of the write. -/
def editInPlace (store : Store β) (id : String) (edits : Instance → List Edit) :
    Except Error (List (Except ReservedField (Option Value)) × Except Error Unit) × Store β :=
  match store.update id fun object => editAll (edits object) object with
  | (.error error, store) => (.error error, store)
  | (.ok answers, store) =>
    let (outcome, store) := store.saveCached id
    (.ok (answers, outcome), store)

/-- Edits a copy of the instance of an id and saves it, and answers likewise. -/
def editSnapshot (store : Store β) (id : String) (edits : Instance → List Edit) :
    Except Error (List (Except ReservedField (Option Value)) × Except Error Unit) × Store β :=
  match store.load id with
  | (.error error, store) => (.error error, store)
  | (.ok object, store) =>
    let (answers, edited) := editAll (edits object) object
    let (outcome, store) := store.save id edited
    (.ok (answers, outcome), store)

variable {store : Store β} {id : String} {edits : Instance → List Edit}

/-! ## The two ways -/

lemma saveCached_remember (store : Store β) (id : String) (entry : Entry) :
    (store.remember id entry).saveCached id = (store.remember id entry).save id entry.object := by
  rw [saveCached, show (store.remember id entry).cache.get? id = some entry from
    SortedMap.get?_insert_self _ _ _]

/-- An instance that is saved replaces the entry of its id. -/
lemma save_remember (store : Store β) (id : String) (entry : Entry) (object : Instance) :
    (store.remember id entry).save id object
      = match DocumentStore.put store.backend id object.encode with
        | .error failure => (.error (.backend .put id failure), store.remember id entry)
        | .ok backend => (.ok (),
            ({ store with backend } : Store β).remember id (.clean object store.moment)) := by
  rw [save, show (store.remember id entry).backend = store.backend from rfl]
  cases DocumentStore.put store.backend id object.encode with
  | error failure => rfl
  | ok backend => simp only [remember, SortedMap.insert_insert]

lemma editInPlace_of_error {error : Error} (h : store.demand id = .error error) :
    store.editInPlace id edits = (.error error, store) := by
  rw [editInPlace, update_of_error _ h]

lemma editSnapshot_of_error {error : Error} (h : store.demand id = .error error) :
    store.editSnapshot id edits = (.error error, store) := by
  rw [editSnapshot, load_of_error h]

variable {entry : Entry} {answers : List (Except ReservedField (Option Value))} {edited : Instance}

/-- The cached instance is edited, and its document is given to the document store. -/
lemma editInPlace_of_demand (h : store.demand id = .ok entry)
    (hedit : editAll (edits entry.object) entry.object = (answers, edited)) :
    store.editInPlace id edits = match DocumentStore.put store.backend id edited.encode with
      | .error failure => (.ok (answers, .error (.backend .put id failure)),
          store.remember id (entry.edited edited store.moment))
      | .ok backend => (.ok (answers, .ok ()),
          ({ store with backend } : Store β).remember id (.clean edited store.moment)) := by
  -- the mark that the edits left is no part of the document
  have htext : (entry.edited edited store.moment).object.encode = edited.encode := rfl
  rw [editInPlace, update_of_demand _ h, hedit]
  simp only [saveCached_remember, save_remember, htext]
  cases DocumentStore.put store.backend id edited.encode <;> rfl

/-- The copy is edited, and the same document is given to the document store. -/
lemma editSnapshot_of_demand (h : store.demand id = .ok entry)
    (hedit : editAll (edits entry.object) entry.object = (answers, edited)) :
    store.editSnapshot id edits = match DocumentStore.put store.backend id edited.encode with
      | .error failure => (.ok (answers, .error (.backend .put id failure)),
          store.remember id (entry.touch store.moment))
      | .ok backend => (.ok (answers, .ok ()),
          ({ store with backend } : Store β).remember id (.clean edited store.moment)) := by
  rw [editSnapshot, load_of_demand h]
  simp only [hedit, save_remember]
  cases DocumentStore.put store.backend id edited.encode <;> rfl

/-- An update makes the entry dirty if it was, or if an edit took effect. -/
lemma dirty_edited (unmarked : store.Unmarked) (h : store.demand id = .ok entry)
    (hedit : editAll (edits entry.object) entry.object = (answers, edited)) :
    (entry.edited edited store.moment).dirty = true ↔
      store.isDirty id = true ∨ SomeTookEffect (edits entry.object) answers := by
  have hmark := @modified_editAll_iff (edits entry.object) entry.object
  rw [hedit, unmarked.demand h] at hmark
  rw [Entry.edited, Bool.or_eq_true, hmark, isDirty_of_demand h]
  simp

/-! ## How they agree -/

variable [LawfulDocumentStore β]

/-- The two ways of editing agree but for what a refused write leaves in the cache. -/
structure EditsAlike (store : Store β) (id : String) (edits : Instance → List Edit) : Prop where
  /-- The edits are answered alike, and both ways succeed or fail with one error. -/
  outcome : (store.editInPlace id edits).1 = (store.editSnapshot id edits).1
  /-- Without an instance, neither does anything. -/
  missing : ∀ error, (store.editInPlace id edits).1 = .error error →
    (store.load id).1 = .error error ∧ (store.editInPlace id edits).2 = store ∧
      (store.editSnapshot id edits).2 = store
  /-- What is written is a clean entry with its document, in one and the same store. -/
  written : ∀ answers, (store.editInPlace id edits).1 = .ok (answers, .ok ()) →
    ∃ object edited, (store.load id).1 = .ok object ∧
      editAll (edits object) object = (answers, edited) ∧
      (store.editInPlace id edits).2 = (store.editSnapshot id edits).2 ∧
      (store.editInPlace id edits).2.view id = ⟨some (.clean edited store.moment),
        .ok (some (LawfulDocumentStore.kept β edited.encode))⟩ ∧
      ∀ other, other ≠ id → (store.editInPlace id edits).2.view other = store.view other
  /-- What is refused is in the cache, or only the instance from before is. -/
  refused : ∀ answers error, (store.editInPlace id edits).1 = .ok (answers, .error error) →
    ∃ object edited dirty, (store.load id).1 = .ok object ∧
      editAll (edits object) object = (answers, edited) ∧
      (dirty = true ↔ store.isDirty id = true ∨ SomeTookEffect (edits object) answers) ∧
      (store.editInPlace id edits).2.backend = store.backend ∧
      (store.editSnapshot id edits).2.backend = store.backend ∧
      (store.editInPlace id edits).2.shown id = some (edited.unmodified, dirty) ∧
      (store.editSnapshot id edits).2.shown id = some (object, store.isDirty id) ∧
      ∀ other, other ≠ id → (store.editInPlace id edits).2.shown other = store.shown other ∧
        (store.editSnapshot id edits).2.shown other = store.shown other

lemma editsAlike_of_error {error : Error} (h : store.demand id = .error error) :
    store.EditsAlike id edits := by
  have hinPlace : store.editInPlace id edits = (.error error, store) := editInPlace_of_error h
  have hsnapshot : store.editSnapshot id edits = (.error error, store) := editSnapshot_of_error h
  constructor
  all_goals rw [hinPlace]
  · rw [hsnapshot]
  · rintro _ ⟨⟩
    exact ⟨by rw [load_of_error h], rfl, by rw [hsnapshot]⟩
  · rintro _ ⟨⟩
  · rintro _ _ ⟨⟩

lemma editsAlike_of_refused (unmarked : store.Unmarked) (h : store.demand id = .ok entry)
    (hedit : editAll (edits entry.object) entry.object = (answers, edited)) {failure : Failure}
    (hput : DocumentStore.put store.backend id edited.encode = .error failure) :
    store.EditsAlike id edits := by
  have hinPlace := editInPlace_of_demand h hedit
  have hsnapshot := editSnapshot_of_demand h hedit
  have hload : (store.load id).1 = .ok entry.object := by rw [load_of_demand h]
  rw [hput] at hinPlace hsnapshot
  constructor
  all_goals rw [hinPlace]
  · rw [hsnapshot]
  · rintro _ ⟨⟩
  · rintro _ ⟨⟩
  · rintro _ _ ⟨⟩
    refine ⟨entry.object, edited, _, hload, hedit, dirty_edited unmarked h hedit, rfl, ?_⟩
    rw [hsnapshot]
    refine ⟨rfl, shown_remember_self _, ?_, fun other hne =>
      ⟨shown_remember_of_ne _ hne, shown_remember_of_ne _ hne⟩⟩
    rw [shown_remember_self, isDirty_of_demand h]
    rfl

lemma editsAlike_of_written (h : store.demand id = .ok entry)
    (hedit : editAll (edits entry.object) entry.object = (answers, edited)) {backend : β}
    (hput : DocumentStore.put store.backend id edited.encode = .ok backend) :
    store.EditsAlike id edits := by
  have hinPlace := editInPlace_of_demand h hedit
  have hsnapshot := editSnapshot_of_demand h hedit
  have hload : (store.load id).1 = .ok entry.object := by rw [load_of_demand h]
  rw [hput] at hinPlace hsnapshot
  constructor
  all_goals rw [hinPlace]
  · rw [hsnapshot]
  · rintro _ ⟨⟩
  · rintro _ ⟨⟩
    refine ⟨entry.object, edited, hload, hedit, by rw [hsnapshot], ?_, fun other hne => ?_⟩
    · rw [view_remember_self, view, LawfulDocumentStore.get_put_self hput]
    · rw [view_remember_of_ne _ _ hne, view, view, LawfulDocumentStore.get_put_of_ne hput hne]
  · rintro _ _ ⟨⟩

/-- **Editing in place and editing a snapshot agree**, for whatever is cached or stored of the id
and whatever the edits are. -/
theorem edits_alike (unmarked : store.Unmarked) (id : String) (edits : Instance → List Edit) :
    store.EditsAlike id edits := by
  cases hdemand : store.demand id with
  | error error => exact editsAlike_of_error hdemand
  | ok entry =>
      rcases hedit : editAll (edits entry.object) entry.object with ⟨answers, edited⟩
      cases hput : DocumentStore.put store.backend id edited.encode with
      | error failure => exact editsAlike_of_refused unmarked hdemand hedit hput
      | ok backend => exact editsAlike_of_written hdemand hedit hput

/-- Edits of a counter: one that is refused, one that takes effect, and one that does nothing. -/
def counterEdits (_ : Instance) : List Edit :=
  [.set "class" .null, .set "n" (.bool true), .remove "absent"]

/-- A store whose documents take no changes, with the document of a counter. -/
def lockedCounter : Store Memory :=
  { unreadCounter with backend := unreadCounter.backend.setReadOnly true }

theorem edits_alike_lockedCounter : lockedCounter.Unmarked ∧
    unreadCounter.EditsAlike "counter_1" counterEdits ∧
    (unreadCounter.editSnapshot "counter_1" counterEdits).1.map Prod.snd = .ok (.ok ()) ∧
    lockedCounter.EditsAlike "counter_1" counterEdits ∧
    (lockedCounter.editSnapshot "counter_1" counterEdits).1.map Prod.snd
      = .ok (.error (.backend .put "counter_1" Memory.readOnlyFailure)) ∧
    (lockedCounter.editInPlace "counter_1" counterEdits).2.isDirty "counter_1" = true ∧
    (lockedCounter.editSnapshot "counter_1" counterEdits).2.isDirty "counter_1" = false :=
  ⟨new_unmarked _, edits_alike (new_unmarked _) "counter_1" counterEdits, by decide +kernel,
    edits_alike (new_unmarked _) "counter_1" counterEdits, by decide +kernel, by decide +kernel,
    by decide +kernel⟩

end ObjectMemory.Store
