import ObjectMemory.Proofs.Store.Requests
import ObjectMemory.Proofs.Store.View

/-!
# What a request leaves alone

Most requests are about one id, and they leave what the store has of every other id as it was.  The
others go over the entries that there are, so they cannot tell an id that is not cached from one that
was never used.

* `Request.about` — the id that a request is about;
* `view_load_of_ne`, `view_save_of_ne`, … — other ids, request by request;
* `view_saveCached_of_none`, `view_flush_of_none` — what is not cached is not written;
* **`view_perform_of_about`**, **`view_perform`** — another id, and one that is not cached, under all
  requests;
* `load_of_uncached` — what loading it answers;
* `save_readOnly`, `flush_readOnly`, … — documents in memory take changes as before.
-/

namespace ObjectMemory.Store

open Backend Json

/-! ## Requests about other ids -/

/-- The id that a request is about, if it is about one. -/
def Request.about : Request → Option String
  | load id | save id _ | saveCached id | delete id | update id _ => some id
  | setVar id _ _ | removeVar id _ | markDirty id | evict id => some id
  | create className _ suffix _ => some (deriveId className suffix)
  | flush | clear | findByClass _ | tick => none

variable {β : Type} [DocumentStore β] {store : Store β} {id other : String}

lemma view_load_of_ne (hne : id ≠ other) : (store.load other).2.view id = store.view id := by
  cases hdemand : store.demand other with
  | error error => rw [load_of_error hdemand]
  | ok entry => rw [load_of_demand hdemand, view_remember_of_ne _ _ hne]

lemma view_update_of_ne {α : Type} (edit : Instance → α × Instance) (hne : id ≠ other) :
    (store.update other edit).2.view id = store.view id := by
  cases hdemand : store.demand other with
  | error error => rw [update_of_error edit hdemand]
  | ok entry => rw [update_of_demand edit hdemand, view_remember_of_ne _ _ hne]

lemma view_markDirty_of_ne (hne : id ≠ other) :
    (store.markDirty other).2.view id = store.view id := by
  rw [markDirty]
  split
  · exact view_remember_of_ne _ _ hne
  · rfl

/-- What is not cached is read from the document store. -/
lemma load_of_uncached (hnone : (store.view id).entry = none) :
    (store.load id).1 =
      match (store.view id).document with
      | .error failure => .error (.backend .get id failure)
      | .ok none => .error (.notFound id)
      | .ok (some document) => (Instance.decode id document).mapError (.unreadable id) := by
  rw [load, demand, show store.cache.get? id = none from hnone]
  simp only [fetch, view]
  cases DocumentStore.get store.backend id with
  | error failure => rfl
  | ok found =>
      cases found with
      | none => rfl
      | some document =>
          cases hdecode : Instance.decode id document with
          | error error => simp only [hdecode, Except.mapError]
          | ok object =>
              have hunmarked := Instance.unmodified_eq (Instance.decode_unmodified hdecode)
              simp only [hdecode, Except.mapError, Entry.clean, hunmarked]

variable [LawfulDocumentStore β]

lemma view_save_of_ne (object : Instance) (hne : id ≠ other) :
    (store.save other object).2.view id = store.view id := by
  rcases store.save_cases other object with ⟨failure, heq⟩ | ⟨saved, heq, -, hothers⟩
  · rw [heq]
  · rw [heq]
    exact hothers id hne

lemma view_delete_of_ne (hne : id ≠ other) :
    (store.delete other).2.view id = store.view id := by
  rcases store.delete_cases other with ⟨failure, heq⟩ | ⟨rest, heq, -, hothers⟩
  · rw [heq]
  · rw [heq]
    exact hothers id hne

lemma view_saveCached_of_ne (hne : id ≠ other) :
    (store.saveCached other).2.view id = store.view id := by
  rcases store.saveCached_cases other with ⟨-, heq⟩ | ⟨entry, -, heq⟩
  · rw [heq]
  · rw [heq]
    exact view_save_of_ne _ hne

/-- What is not cached is not written, either. -/
lemma view_saveCached_of_none (hnone : (store.view id).entry = none) (other : String) :
    (store.saveCached other).2.view id = store.view id := by
  rcases eq_or_ne id other with rfl | hne
  · rcases store.saveCached_cases id with ⟨-, heq⟩ | ⟨entry, hentry, -⟩
    · rw [heq]
    · rw [hnone] at hentry
      cases hentry
  · exact view_saveCached_of_ne hne

lemma view_flush_of_none (hnone : (store.view id).entry = none) :
    store.flush.2.view id = store.view id := by
  refine flushIds_keeps (P := fun s => s.view id = store.view id) (fun s other hs => ?_) _ rfl
  rw [view_saveCached_of_none (hs ▸ hnone), hs]

/-- **A request about one id leaves all other ids alone.** -/
lemma view_perform_of_about {request : Request} (habout : request.about = some other)
    (hne : id ≠ other) : (store.perform request).2.view id = store.view id := by
  cases request with
  | load target => exact view_load_of_ne (Option.some.inj habout ▸ hne)
  | save target object => exact view_save_of_ne object (Option.some.inj habout ▸ hne)
  | saveCached target => exact view_saveCached_of_ne (Option.some.inj habout ▸ hne)
  | create className defaults suffix now =>
      exact view_save_of_ne _ (Option.some.inj habout ▸ hne)
  | delete target => exact view_delete_of_ne (Option.some.inj habout ▸ hne)
  | update target edits => exact view_update_of_ne _ (Option.some.inj habout ▸ hne)
  | setVar target name value =>
      exact view_update_of_ne (Instance.set name value) (Option.some.inj habout ▸ hne)
  | removeVar target name =>
      exact view_update_of_ne (Instance.remove name) (Option.some.inj habout ▸ hne)
  | markDirty target => exact view_markDirty_of_ne (Option.some.inj habout ▸ hne)
  | evict target => exact view_evict_of_ne store (Option.some.inj habout ▸ hne)
  | flush | clear | findByClass _ | tick => cases habout

/-- A request is about another id, which leaves an id alone, or what it is about is nothing else. -/
lemma view_perform_or_about (store : Store β) (request : Request) (id : String) :
    (∃ other, request.about = some other ∧ id ≠ other ∧
      (store.perform request).2.view id = store.view id) ∨
    ∀ other, request.about = some other → other = id := by
  by_cases habout : ∃ other, request.about = some other ∧ id ≠ other
  · obtain ⟨other, habout, hne⟩ := habout
    exact .inl ⟨other, habout, hne, view_perform_of_about habout hne⟩
  · exact .inr fun other h => by_contra fun hne => habout ⟨other, h, Ne.symm hne⟩

/-- **A request leaves an id alone** that it is not about and that is not cached. -/
lemma view_perform (hnone : (store.view id).entry = none) {request : Request}
    (habout : request.about ≠ some id) : (store.perform request).2.view id = store.view id := by
  cases hother : request.about with
  | some other =>
      refine view_perform_of_about hother ?_
      rintro rfl
      exact habout hother
  | none =>
      cases request with
      | flush => exact view_flush_of_none hnone
      | clear => rw [perform, clear, view, view, show store.cache.get? id = none from hnone]; rfl
      | findByClass _ | tick => rfl
      | _ => cases hother

/-! ## Whether documents in memory take changes -/

lemma save_readOnly (store : Store Memory) (id : String) (object : Instance) :
    (store.save id object).2.backend.readOnly = store.backend.readOnly := by
  rw [save]
  cases hput : DocumentStore.put store.backend id object.encode with
  | error failure => rfl
  | ok backend =>
      obtain ⟨-, rfl⟩ := Memory.put_eq_ok hput
      rfl

lemma saveCached_readOnly (store : Store Memory) (id : String) :
    (store.saveCached id).2.backend.readOnly = store.backend.readOnly := by
  rcases store.saveCached_cases id with ⟨-, heq⟩ | ⟨entry, -, heq⟩
  · rw [heq]
  · rw [heq, save_readOnly]

lemma flush_readOnly (store : Store Memory) :
    store.flush.2.backend.readOnly = store.backend.readOnly :=
  flushIds_keeps (P := fun s => s.backend.readOnly = store.backend.readOnly)
    (fun s id hs => (saveCached_readOnly s id).trans hs) _ rfl

lemma markDirty_readOnly (store : Store Memory) (id : String) :
    (store.markDirty id).2.backend.readOnly = store.backend.readOnly := by
  rw [markDirty]
  split <;> rfl

end ObjectMemory.Store
