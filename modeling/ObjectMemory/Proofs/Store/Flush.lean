import ObjectMemory.Proofs.Store.View

/-!
# Flushing without failure

When nothing is refused, a flush leaves no dirty entry, and closing a store is a flush.  An entry is
clean once it is written, and writing another one does not make it dirty again.

* `saveCached_clean`, `isDirty_saveCached` — one entry;
* **`flush_clean`** — all entries;
* `settleIds_keeps`, `close_backend`, `flush_of_close` — closing.
-/

namespace ObjectMemory.Store

open Backend

variable {β : Type} [DocumentStore β] {store after : Store β} {id : String}

/-! ## Closing -/

/-- What writing a cached instance keeps, writing whatever can be written keeps. -/
lemma settleIds_keeps {P : Store β → Prop} (h : ∀ store id, P store → P (store.saveCached id).2)
    (ids : List String) : ∀ {store : Store β}, P store → P (store.settleIds ids).2 := by
  induction ids with
  | nil => exact fun hstore => hstore
  | cons id rest ih =>
      intro store hstore
      have hsaved := h store id hstore
      rw [settleIds]
      split
      · next error saved heq =>
          rw [heq] at hsaved
          exact ih hsaved
      · next saved heq =>
          rw [heq] at hsaved
          exact ih hsaved

/-- A store that is closed leaves the documents of its dirty entries behind, if they are taken. -/
lemma close_backend (store : Store β) :
    store.close.2 = (store.settleIds store.dirtyIds).2.backend := rfl

/-- Writing whatever can be written goes as writing up to the first failure, if there is none. -/
lemma flushIds_of_settleIds {ids : List String} {flushed : ℕ} :
    ∀ {store : Store β}, store.settleIds ids = ((flushed, []), after) →
      store.flushIds ids = (.ok flushed, after) := by
  induction ids generalizing flushed with
  | nil =>
      intro store h
      rw [settleIds] at h
      rw [flushIds]
      simp only [Prod.mk.injEq] at h
      rw [h.1.1, h.2]
  | cons id rest ih =>
      intro store h
      rw [settleIds] at h
      rw [flushIds]
      split at h
      · simp only [Prod.mk.injEq, reduceCtorEq, and_false, false_and] at h
      · next saved heq =>
          rcases hrest : saved.settleIds rest with ⟨⟨count, failed⟩, settled⟩
          simp only [hrest, Prod.mk.injEq] at h
          obtain ⟨⟨rfl, rfl⟩, rfl⟩ := h
          simp only [ih hrest]
          rfl

/-- Closing a store goes as a flush, if there is no failure. -/
lemma flush_of_close (h : store.close.1.isClean = true) :
    ∃ flushed after, store.flush = (.ok flushed, after) ∧ store.close.2 = after.backend := by
  rcases hsettle : store.settleIds store.dirtyIds with ⟨⟨flushed, failed⟩, after⟩
  rw [close, hsettle] at h
  simp only [FlushReport.isClean, Bool.and_eq_true, List.isEmpty_iff] at h
  refine ⟨flushed, after, flushIds_of_settleIds (h.1 ▸ hsettle), ?_⟩
  rw [close, hsettle]

/-! ## Dirty flags -/

variable [LawfulDocumentStore β]

lemma saveCached_clean (h : store.saveCached id = (.ok (), after)) : after.isDirty id = false := by
  rcases store.saveCached_outcome id with
    ⟨-, heq⟩ | ⟨failure, heq⟩ | ⟨entry, saved, -, heq, hview, -⟩
  · rw [heq] at h
    cases h
  · rw [heq] at h
    cases h
  · obtain rfl : saved = after := congrArg Prod.snd (heq.symm.trans h)
    rw [isDirty_eq_false, hview]
    rintro _ ⟨⟩
    rfl

lemma isDirty_saveCached (h : store.isDirty id = false) (other : String) :
    (store.saveCached other).2.isDirty id = false := by
  rcases store.saveCached_outcome other with
    ⟨-, heq⟩ | ⟨failure, heq⟩ | ⟨entry, saved, -, heq, hview, hothers⟩
  · rwa [heq]
  · rwa [heq]
  rw [heq, isDirty_eq_false]
  rcases eq_or_ne id other with rfl | hne
  · rw [hview]
    rintro _ ⟨⟩
    rfl
  · rw [hothers id hne]
    exact isDirty_eq_false.mp h

lemma flushIds_clean {ids : List String} {flushed : ℕ} :
    ∀ {store : Store β}, store.flushIds ids = (.ok flushed, after) →
      ∀ id ∈ ids, after.isDirty id = false := by
  induction ids generalizing flushed with
  | nil => exact fun _ _ hid => by cases hid
  | cons id rest ih =>
      intro store h
      rw [flushIds] at h
      split at h
      · cases h
      · next saved heq =>
          rcases hrest : saved.flushIds rest with ⟨answer, final⟩
          simp only [hrest, Prod.mk.injEq] at h
          obtain ⟨hanswer, rfl⟩ := h
          -- the first is clean now, and stays so while the others are written
          have hkeep : final.isDirty id = false := by
            have hkept := flushIds_keeps (P := fun s => s.isDirty id = false)
              (fun s other hs => isDirty_saveCached hs other) rest (saveCached_clean heq)
            rwa [hrest] at hkept
          cases answer with
          | error error => cases hanswer
          | ok count => exact List.forall_mem_cons.mpr ⟨hkeep, ih hrest⟩

/-- **A flush that succeeds leaves nothing dirty.** -/
theorem flush_clean {flushed : ℕ} (h : store.flush = (.ok flushed, after)) (id : String) :
    after.isDirty id = false := by
  by_cases hid : id ∈ store.dirtyIds
  · exact flushIds_clean h id hid
  · rw [mem_dirtyIds_iff, Bool.not_eq_true] at hid
    have hkept := flushIds_keeps (P := fun s => s.isDirty id = false)
      (fun s other hs => isDirty_saveCached hs other) store.dirtyIds hid
    rwa [show store.flushIds store.dirtyIds = (.ok flushed, after) from h] at hkept

end ObjectMemory.Store
