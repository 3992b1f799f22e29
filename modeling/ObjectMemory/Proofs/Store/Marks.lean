import ObjectMemory.Proofs.Store.Requests
import ObjectMemory.Proofs.Store.View

/-!
# Marks of modification

A change marks the instance as modified, and the store turns the mark into the dirty flag of the
entry.  So whatever is asked of a store, no cached instance carries a mark afterwards: an update
takes it off, and what is cached otherwise comes without one.

* `Store.Unmarked` — no cached instance is marked;
* `Unmarked.change`, `Unmarked.perform` — no request changes that;
* `unmarked_runEvents` — so all stores over documents in memory are.
-/

namespace ObjectMemory.Store

open Backend Json

variable {β : Type} [DocumentStore β]

/-- No cached instance is marked as modified. -/
def Unmarked (store : Store β) : Prop :=
  ∀ id entry, (store.view id).entry = some entry → entry.object.modified = false

variable {store after : Store β} {id : String}

lemma new_unmarked (backend : β) : (new backend).Unmarked := fun _ _ h => by cases h

/-- An operation on one id has to be looked at there only. -/
lemma Unmarked.change (h : store.Unmarked) (id : String)
    (hid : ∀ entry, (after.view id).entry = some entry → entry.object.modified = false)
    (hothers : ∀ other, other ≠ id → (after.view other).entry = (store.view other).entry) :
    after.Unmarked := by
  intro other
  rcases eq_or_ne other id with rfl | hne
  · exact hid
  · rw [hothers other hne]
    exact h other

lemma Unmarked.remember (h : store.Unmarked) (id : String) {entry : Entry}
    (hentry : entry.object.modified = false) : (store.remember id entry).Unmarked := by
  refine h.change id ?_ fun other hne => by rw [view_remember_of_ne _ _ hne]
  rw [view_remember_self]
  rintro _ ⟨⟩
  exact hentry

lemma Unmarked.demand (h : store.Unmarked) {entry : Entry} (hdemand : store.demand id = .ok entry) :
    entry.object.modified = false := by
  rcases demand_cases hdemand with hcached | ⟨-, document, object, -, -, rfl⟩
  · exact h id entry hcached
  · rfl

lemma Unmarked.load (h : store.Unmarked) (id : String) : (store.load id).2.Unmarked := by
  cases hdemand : store.demand id with
  | error error => rwa [load_of_error hdemand]
  | ok entry =>
      have hentry := h.demand hdemand
      have htouched : (entry.touch store.moment).object.modified = false := hentry
      rw [load_of_demand hdemand]
      exact h.remember id htouched

/-- An update takes the mark off, whatever it does. -/
lemma Unmarked.update {α : Type} (h : store.Unmarked) (id : String)
    (edit : Instance → α × Instance) : (store.update id edit).2.Unmarked := by
  cases hdemand : store.demand id with
  | error error => rwa [update_of_error edit hdemand]
  | ok entry =>
      rw [update_of_demand edit hdemand]
      exact h.remember id rfl

lemma Unmarked.markDirty (h : store.Unmarked) (id : String) : (store.markDirty id).2.Unmarked := by
  rw [Store.markDirty]
  split
  · next entry hcached => exact h.remember id (h id entry hcached)
  · exact h

lemma Unmarked.evict (h : store.Unmarked) (id : String) : (store.evict id).2.Unmarked := by
  refine h.change id ?_ fun other hne => by rw [view_evict_of_ne _ hne]
  rw [view_evict_self]
  rintro _ ⟨⟩

variable [LawfulDocumentStore β]

lemma Unmarked.save (h : store.Unmarked) (id : String) (object : Instance) :
    (store.save id object).2.Unmarked := by
  rcases store.save_cases id object with ⟨failure, heq⟩ | ⟨saved, heq, hview, hothers⟩
  · rwa [heq]
  · rw [heq]
    refine h.change id ?_ fun other hne => by rw [hothers other hne]
    rw [hview]
    rintro _ ⟨⟩
    rfl

lemma Unmarked.saveCached (h : store.Unmarked) (id : String) :
    (store.saveCached id).2.Unmarked := by
  rcases store.saveCached_cases id with ⟨-, heq⟩ | ⟨entry, -, heq⟩
  · rwa [heq]
  · rw [heq]
    exact h.save id entry.object

lemma Unmarked.delete (h : store.Unmarked) (id : String) : (store.delete id).2.Unmarked := by
  rcases store.delete_cases id with ⟨failure, heq⟩ | ⟨rest, heq, hview, hothers⟩
  · rwa [heq]
  · rw [heq]
    refine h.change id ?_ fun other hne => by rw [hothers other hne]
    rw [hview]
    rintro _ ⟨⟩

lemma Unmarked.perform (h : store.Unmarked) (request : Request) :
    (store.perform request).2.Unmarked := by
  cases request with
  | load id => exact h.load id
  | save id object => exact h.save id object
  | saveCached id => exact h.saveCached id
  | create className defaults suffix now => exact h.save _ _
  | delete id => exact h.delete id
  | update id edits => exact h.update id _
  | setVar id name value => exact h.update id (Instance.set name value)
  | removeVar id name => exact h.update id (Instance.remove name)
  | markDirty id => exact h.markDirty id
  | flush => exact flushIds_keeps (fun store id hstore => hstore.saveCached id) _ h
  | clear => exact fun _ _ hentry => by cases hentry
  | evict id => exact h.evict id
  | findByClass className => exact h
  | tick => exact h

/-- **Whatever happened to a store**, no cached instance is marked. -/
theorem unmarked_runEvents (backend : Memory) (events : List Event) :
    (runEvents (new backend) events).Unmarked := by
  suffices ∀ store : Store Memory, store.Unmarked → (runEvents store events).Unmarked from
    this _ (new_unmarked backend)
  induction events with
  | nil => exact fun _ h => h
  | cons event rest ih =>
      intro store h
      refine ih _ ?_
      cases event with
      | request asked => exact h.perform asked
      | setReadOnly readOnly => exact h

end ObjectMemory.Store
