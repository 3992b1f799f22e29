import ObjectMemory.Proofs.Backend.Laws
import ObjectMemory.Store.Persistence

/-!
# One id of a store

What a store has of an id is its cached entry and what the document store answers for it.  This is
all that an operation on the id looks at, and all that it changes: what the store has of any other id
stays as it was.  So a statement about a whole store is often one about the views of its ids, and
then it is enough to know what each operation does to the one view it is about.

* `Store.view` — what a store has of an id;
* `view_remember_self`, `view_evict_self` — the id that an operation is about;
* `view_remember_of_ne`, `view_evict_of_ne` — other ids;
* `isDirty_eq_of_view`, `dirtyIds_ascending`, … — the dirty flags of a store;
* `load_of_demand`, `update_of_demand`, `demand_cases` — uses of an instance;
* `save_cases`, `saveCached_outcome`, `delete_cases`, `flushIds_keeps` — what writing can do.
-/

namespace ObjectMemory

open Backend Json

/-- The entry of an instance that was edited. -/
def Entry.edited (entry : Entry) (object : Instance) (moment : ℕ) : Entry :=
  { entry with
    object := object.unmodified
    dirty := entry.dirty || object.modified
    accessedAt := moment }

namespace Store

variable {β : Type} [DocumentStore β]

/-- What a store has of an id. -/
structure View where
  entry : Option Entry
  document : Except Failure (Option String)

def view (store : Store β) (id : String) : View :=
  ⟨store.cache.get? id, DocumentStore.get store.backend id⟩

/-! ## The cache -/

lemma view_remember_self (store : Store β) (id : String) (entry : Entry) :
    (store.remember id entry).view id = ⟨some entry, (store.view id).document⟩ := by
  rw [view, remember, SortedMap.get?_insert_self]
  rfl

lemma view_remember_of_ne (store : Store β) {id other : String} (entry : Entry)
    (hne : other ≠ id) : (store.remember id entry).view other = store.view other := by
  rw [view, remember, SortedMap.get?_insert_of_ne hne]
  rfl

lemma view_evict_self (store : Store β) (id : String) :
    (store.evict id).2.view id = ⟨none, (store.view id).document⟩ := by
  rw [view, evict, SortedMap.get?_erase_self]
  rfl

lemma view_evict_of_ne (store : Store β) {id other : String} (hne : other ≠ id) :
    (store.evict id).2.view other = store.view other := by
  rw [view, evict, SortedMap.get?_erase_of_ne hne]
  rfl

lemma isDirty_eq_false {store : Store β} {id : String} :
    store.isDirty id = false ↔
      ∀ entry, (store.view id).entry = some entry → entry.dirty = false := by
  rw [isDirty, view]
  cases store.cache.get? id with
  | none => simp
  | some entry => simp

omit [DocumentStore β] in
lemma mem_dirtyIds_iff {store : Store β} {id : String} :
    id ∈ store.dirtyIds ↔ store.isDirty id = true := by
  rw [dirtyIds, isDirty]
  cases hcached : store.cache.get? id with
  | none => simp [SortedMap.mem_entries_iff, hcached]
  | some entry => simp [SortedMap.mem_entries_iff, hcached]

omit [DocumentStore β] in
/-- Dirty ids are listed in ascending order, each once. -/
lemma dirtyIds_ascending (store : Store β) : store.dirtyIds.Pairwise (· < ·) :=
  List.pairwise_map.mpr ((store.cache.ascending.filter fun entry => entry.2.dirty).imp
    fun hlt => compare_lt_iff_lt.mp hlt)

omit [DocumentStore β] in
lemma dirtyIds_nodup (store : Store β) : store.dirtyIds.Nodup :=
  (dirtyIds_ascending store).imp ne_of_lt

omit [DocumentStore β] in
/-- The statistics count the dirty ids. -/
lemma stats_dirty (store : Store β) : store.stats.dirty = store.dirtyIds.length := by
  rw [stats, SortedMap.values, List.countP_map, List.countP_eq_length_filter, dirtyIds,
    List.length_map]
  rfl

lemma isDirty_eq_of_view {store after : Store β} {id : String}
    (h : after.view id = store.view id) : after.isDirty id = store.isDirty id := by
  rw [isDirty, isDirty, show after.cache.get? id = store.cache.get? id from congrArg View.entry h]

lemma isCached_eq_isSome {store : Store β} {id : String} :
    store.isCached id = (store.view id).entry.isSome := rfl

lemma isCached_eq_of_view {store after : Store β} {id : String}
    (h : after.view id = store.view id) : after.isCached id = store.isCached id :=
  congrArg (Option.isSome ∘ View.entry) h

lemma isCached_eq_false {store : Store β} {id : String} :
    store.isCached id = false ↔ (store.view id).entry = none := by
  rw [isCached_eq_isSome, Option.isSome_eq_false_iff, Option.isNone_iff_eq_none]

omit [DocumentStore β] in
lemma isCached_of_isDirty {store : Store β} {id : String} (h : store.isDirty id = true) :
    store.isCached id = true := by
  rw [isDirty] at h
  rw [isCached, SortedMap.contains]
  cases hcached : store.cache.get? id with
  | none =>
      rw [hcached] at h
      cases h
  | some entry => rfl

omit [DocumentStore β] in
lemma isCached_of_mem_dirtyIds {store : Store β} {id : String} (h : id ∈ store.dirtyIds) :
    store.isCached id = true :=
  isCached_of_isDirty (mem_dirtyIds_iff.mp h)

omit [DocumentStore β] in
lemma isDirty_remember_self {store : Store β} {id : String} {entry : Entry} :
    (store.remember id entry).isDirty id = entry.dirty := by
  rw [isDirty, remember, SortedMap.get?_insert_self]

/-! ## Use -/

/-- An entry to use is the cached one, or one of the document. -/
lemma demand_cases {store : Store β} {id : String} {entry : Entry}
    (h : store.demand id = .ok entry) :
    (store.view id).entry = some entry ∨
    (store.view id).entry = none ∧ ∃ document object,
      (store.view id).document = .ok (some document) ∧ Instance.decode id document = .ok object ∧
      entry = .clean object store.moment := by
  rw [demand] at h
  split at h
  · next cached hcached => exact .inl (hcached.trans (congrArg some (Except.ok.inj h)))
  · next hcached =>
      refine .inr ⟨hcached, ?_⟩
      split at h
      · next object hfetch =>
          rw [fetch] at hfetch
          split at hfetch
          · cases hfetch
          · cases hfetch
          · next document hdocument =>
              exact ⟨document, object, hdocument, of_mapError_ok hfetch, (Except.ok.inj h).symm⟩
      · cases h

/-- An entry to use is dirty if the one of its id is. -/
lemma isDirty_of_demand {store : Store β} {id : String} {entry : Entry}
    (h : store.demand id = .ok entry) : store.isDirty id = entry.dirty := by
  rcases demand_cases h with hcached | ⟨hnone, document, object, -, -, rfl⟩
  · rw [isDirty, show store.cache.get? id = some entry from hcached]
  · rw [isDirty, show store.cache.get? id = none from hnone]
    rfl

lemma load_of_error {store : Store β} {id : String} {error : Error}
    (h : store.demand id = .error error) : store.load id = (.error error, store) := by
  rw [load, h]

lemma load_of_demand {store : Store β} {id : String} {entry : Entry}
    (h : store.demand id = .ok entry) :
    store.load id = (.ok entry.object, store.remember id (entry.touch store.moment)) := by
  rw [load, h]

lemma demand_of_load {store : Store β} {id : String} {object : Instance}
    (loaded : (store.load id).1 = .ok object) :
    ∃ entry, store.demand id = .ok entry ∧ entry.object = object := by
  cases hdemand : store.demand id with
  | error error =>
      rw [load_of_error hdemand] at loaded
      cases loaded
  | ok entry =>
      rw [load_of_demand hdemand] at loaded
      exact ⟨entry, rfl, Except.ok.inj loaded⟩

lemma update_of_error {α : Type} {store : Store β} {id : String} {error : Error}
    (edit : Instance → α × Instance) (h : store.demand id = .error error) :
    store.update id edit = (.error error, store) := by
  rw [update, h]

/-- An edit takes the mark off the instance and makes the entry dirty instead. -/
lemma update_of_demand {α : Type} {store : Store β} {id : String} {entry : Entry}
    (edit : Instance → α × Instance) (h : store.demand id = .ok entry) :
    store.update id edit = (.ok (edit entry.object).1,
      store.remember id (entry.edited (edit entry.object).2 store.moment)) := by
  rw [update, h]
  rfl

/-! ## Writing -/

lemma saveCached_cases (store : Store β) (id : String) :
    (store.view id).entry = none ∧ store.saveCached id = (.error (.notFound id), store) ∨
    ∃ entry, (store.view id).entry = some entry ∧
      store.saveCached id = store.save id entry.object := by
  rw [saveCached, view]
  cases store.cache.get? id with
  | none => exact .inl ⟨rfl, rfl⟩
  | some entry => exact .inr ⟨entry, rfl, rfl⟩

/-- What writing a cached instance keeps, a flush keeps, wherever it stops. -/
lemma flushIds_keeps {P : Store β → Prop} (h : ∀ store id, P store → P (store.saveCached id).2)
    (ids : List String) : ∀ {store : Store β}, P store → P (store.flushIds ids).2 := by
  induction ids with
  | nil => exact fun hstore => hstore
  | cons id rest ih =>
      intro store hstore
      have hsaved := h store id hstore
      rw [flushIds]
      split
      · next error saved heq => rwa [heq] at hsaved
      · next saved heq =>
          rw [heq] at hsaved
          exact ih hsaved

variable [LawfulDocumentStore β]

/-- What cannot be saved changes nothing; anything else is a clean entry, with its document. -/
lemma save_cases (store : Store β) (id : String) (object : Instance) :
    (∃ failure, store.save id object = (.error (.backend .put id failure), store)) ∨
    ∃ saved, store.save id object = (.ok (), saved) ∧
      saved.view id = ⟨some (.clean object store.moment),
        .ok (some (LawfulDocumentStore.kept β object.encode))⟩ ∧
      ∀ other, other ≠ id → saved.view other = store.view other := by
  rw [save]
  cases hput : DocumentStore.put store.backend id object.encode with
  | error failure => exact .inl ⟨failure, rfl⟩
  | ok backend =>
      refine .inr ⟨_, rfl, ?_, fun other hne => ?_⟩
      · rw [view_remember_self, view, LawfulDocumentStore.get_put_self hput]
      · rw [view_remember_of_ne _ _ hne, view, view, LawfulDocumentStore.get_put_of_ne hput hne]

/-- Writing a cached instance fails and changes nothing, or it is a clean entry, with its document. -/
lemma saveCached_outcome (store : Store β) (id : String) :
    (store.view id).entry = none ∧ store.saveCached id = (.error (.notFound id), store) ∨
    (∃ failure, store.saveCached id = (.error (.backend .put id failure), store)) ∨
    ∃ entry saved, (store.view id).entry = some entry ∧ store.saveCached id = (.ok (), saved) ∧
      saved.view id = ⟨some (.clean entry.object store.moment),
        .ok (some (LawfulDocumentStore.kept β entry.object.encode))⟩ ∧
      ∀ other, other ≠ id → saved.view other = store.view other := by
  rcases store.saveCached_cases id with hnone | ⟨entry, hentry, heq⟩
  · exact .inl hnone
  · rw [heq]
    rcases store.save_cases id entry.object with hfailed | ⟨saved, hsaved⟩
    · exact .inr (.inl hfailed)
    · exact .inr (.inr ⟨entry, saved, hentry, hsaved⟩)

lemma delete_cases (store : Store β) (id : String) :
    (∃ failure, store.delete id = (.error (.backend .delete id failure), store)) ∨
    ∃ rest, store.delete id = (.ok (), rest) ∧ rest.view id = ⟨none, .ok none⟩ ∧
      ∀ other, other ≠ id → rest.view other = store.view other := by
  rw [delete]
  cases hdelete : DocumentStore.delete store.backend id with
  | error failure => exact .inl ⟨failure, rfl⟩
  | ok backend =>
      refine .inr ⟨_, rfl, ?_, fun other hne => ?_⟩
      · rw [view, SortedMap.get?_erase_self, LawfulDocumentStore.get_delete_self hdelete]
      · rw [view, view, SortedMap.get?_erase_of_ne hne,
          LawfulDocumentStore.get_delete_of_ne hdelete hne]

end Store

end ObjectMemory
