import ObjectMemory.Proofs.Store.Flush
import ObjectMemory.Proofs.Store.Frame

/-!
# What a flush writes

A flush writes the dirty entries in the order of their ids, up to the first that is refused.  A
document store takes or refuses a document whatever it stored before, so what a flush writes is
known before it: no entry that is written changes what is taken afterwards.

* `Store.refusal?`, `refusal?_saveCached` — why an entry is refused, now and after others were
  written;
* `accepts`, `flushable` — the entries that are taken, and those that a flush gets to;
* `saveCached_of_refusal`, `saveCached_of_accepts` — writing one of them;
* **`flushIds_flushable`** — a flush is to write them, and no more;
* **`isDirty_flush`** — the dirty flags after it.
-/

namespace ObjectMemory.Store

open Backend Json

variable {β : Type} [DocumentStore β] {store : Store β} {id : String}

/-! ## What is taken -/

/-- Why the document of the cached instance of an id is refused, if it is. -/
def refusal? (store : Store β) (id : String) : Option Failure :=
  (store.cache.get? id).bind fun entry => Backend.refusal? store.backend id entry.object.encode

/-- Whether the document store takes the document of the cached instance of an id. -/
def accepts (store : Store β) (id : String) : Bool :=
  match store.cache.get? id with
  | some entry => (DocumentStore.put store.backend id entry.object.encode).isOk
  | none => false

/-- The ids whose entries a flush writes: the dirty ones, up to the first that is refused. -/
def flushable (store : Store β) : List String :=
  store.dirtyIds.takeWhile store.accepts

lemma refusal?_remember_self (entry : Entry) : (store.remember id entry).refusal? id
    = Backend.refusal? store.backend id entry.object.encode := by
  rw [refusal?, remember, SortedMap.get?_insert_self, Option.bind_some]

lemma accepts_iff :
    store.accepts id = true ↔ store.isCached id = true ∧ store.refusal? id = none := by
  rw [accepts, refusal?, isCached, SortedMap.contains]
  cases store.cache.get? id with
  | none => simp
  | some entry =>
      simp only [Option.bind_some, Option.isSome_some, Backend.refusal?]
      cases DocumentStore.put store.backend id entry.object.encode with
      | ok backend => simp [Except.isOk, Except.toBool]
      | error failure => simp [Except.isOk, Except.toBool]

lemma saveCached_of_refusal {failure : Failure} (h : store.refusal? id = some failure) :
    store.saveCached id = (.error (.backend .put id failure), store) := by
  rw [refusal?] at h
  rw [saveCached]
  cases hcached : store.cache.get? id with
  | none =>
      rw [hcached] at h
      cases h
  | some entry =>
      rw [hcached, Option.bind_some, Backend.refusal?] at h
      simp only [save]
      cases hput : DocumentStore.put store.backend id entry.object.encode with
      | ok backend =>
          rw [hput] at h
          cases h
      | error refused =>
          rw [hput] at h
          rw [Option.some.inj h]

lemma saveCached_of_accepts (h : store.accepts id = true) :
    (store.saveCached id).1 = .ok () := by
  rw [accepts] at h
  rw [saveCached]
  cases hcached : store.cache.get? id with
  | none =>
      rw [hcached] at h
      cases h
  | some entry =>
      rw [hcached] at h
      simp only [save]
      cases hput : DocumentStore.put store.backend id entry.object.encode with
      | ok backend => rfl
      | error failure =>
          simp only [hput] at h
          cases h

lemma saveCached_of_not_accepts (h : store.accepts id = false) :
    (store.saveCached id).1 ≠ .ok () ∧ (store.saveCached id).2 = store := by
  cases hrefusal : store.refusal? id with
  | some failure => simp [saveCached_of_refusal hrefusal]
  | none =>
      have hnone : store.cache.get? id = none := by
        by_contra hcached
        have haccepts := accepts_iff.mpr ⟨Option.isSome_iff_ne_none.mpr hcached, hrefusal⟩
        rw [h] at haccepts
        cases haccepts
      simp [saveCached, hnone]

variable [SteadyDocumentStore β]

/-- Why a document is refused does not depend on what was written before. -/
lemma refusal?_saveCached (store : Store β) (id other : String) :
    (store.saveCached id).2.refusal? other = store.refusal? other := by
  rw [saveCached]
  cases hcached : store.cache.get? id with
  | none => rfl
  | some entry =>
      simp only [save]
      cases hput : DocumentStore.put store.backend id entry.object.encode with
      | error failure => rfl
      | ok backend =>
          have hsteady := SteadyDocumentStore.refusal?_put hput other
          rcases eq_or_ne other id with rfl | hne
          · rw [refusal?_remember_self, refusal?, hcached]
            exact hsteady entry.object.encode
          · simp only [refusal?, remember, SortedMap.get?_insert_of_ne hne, hsteady]

variable [LawfulDocumentStore β]

omit [SteadyDocumentStore β] in
lemma isCached_saveCached (store : Store β) (id other : String) :
    (store.saveCached id).2.isCached other = store.isCached other := by
  rcases store.saveCached_outcome id with
    ⟨-, heq⟩ | ⟨failure, heq⟩ | ⟨entry, saved, hentry, heq, hview, hothers⟩
  · rw [heq]
  · rw [heq]
  · rw [heq]
    rcases eq_or_ne other id with rfl | hne
    · rw [isCached_eq_isSome, isCached_eq_isSome, hview, hentry]
      rfl
    · exact isCached_eq_of_view (hothers other hne)

/-- After writing an entry the same ids are cached, and the same are refused. -/
lemma sameAccepted_of_saved {outcome : Except Error Unit} {saved : Store β}
    (h : store.saveCached id = (outcome, saved)) :
    saved.isCached = store.isCached ∧ saved.refusal? = store.refusal? := by
  have hcached := funext (isCached_saveCached store id)
  have hrefusal := funext (refusal?_saveCached store id)
  rw [h] at hcached hrefusal
  exact ⟨hcached, hrefusal⟩

/-- Whether a document is taken does not depend on it, either. -/
lemma accepts_saveCached (store : Store β) (id other : String) :
    (store.saveCached id).2.accepts other = store.accepts other := by
  rw [Bool.eq_iff_iff, accepts_iff, accepts_iff, refusal?_saveCached, isCached_saveCached]

/-! ## What is written -/

lemma isDirty_flushIds (ids : List String) (id : String) : ∀ {store : Store β},
    (store.flushIds ids).2.isDirty id = true ↔
      store.isDirty id = true ∧ id ∉ ids.takeWhile store.accepts := by
  induction ids with
  | nil => simp [flushIds]
  | cons head rest ih =>
      intro store
      rw [flushIds]
      cases haccepts : store.accepts head with
      | false =>
          obtain ⟨hanswer, hafter⟩ := saveCached_of_not_accepts haccepts
          rw [List.takeWhile_cons_of_neg (by simp [haccepts])]
          split
          · next error saved heq =>
              rw [heq] at hafter
              simp [show saved = store from hafter]
          · next saved heq =>
              rw [heq] at hanswer
              exact absurd rfl hanswer
      | true =>
          have hanswer := saveCached_of_accepts haccepts
          rw [List.takeWhile_cons_of_pos haccepts]
          split
          · next error saved heq =>
              rw [heq] at hanswer
              cases hanswer
          · next saved heq =>
              have hsame : saved.accepts = store.accepts := funext fun other => by
                rw [← accepts_saveCached store head other, heq]
              have hdirty : saved.isDirty id = true ↔ store.isDirty id = true ∧ id ≠ head := by
                rcases eq_or_ne id head with rfl | hne
                · simp [saveCached_clean heq]
                · have hview : (store.saveCached head).2.view id = store.view id :=
                    view_saveCached_of_ne hne
                  rw [heq] at hview
                  simp [isDirty_eq_of_view hview, hne]
              simp only [ih, hsame, hdirty, List.mem_cons, not_or, and_assoc]

/-- A flush writes these ids, and nothing else. -/
lemma flushIds_takeWhile (ids : List String) : ∀ {store : Store β},
    store.flushIds (ids.takeWhile store.accepts)
      = (.ok (ids.takeWhile store.accepts).length, (store.flushIds ids).2) := by
  induction ids with
  | nil => exact rfl
  | cons head rest ih =>
      intro store
      rcases hsave : store.saveCached head with ⟨answer, saved⟩
      cases haccepts : store.accepts head with
      | false =>
          obtain ⟨hanswer, hafter⟩ := saveCached_of_not_accepts haccepts
          rw [hsave] at hanswer hafter
          obtain rfl : saved = store := hafter
          rw [List.takeWhile_cons_of_neg (by simp [haccepts]), flushIds, flushIds, hsave]
          cases answer with
          | error error => rfl
          | ok answer => exact absurd rfl hanswer
      | true =>
          have hanswer := saveCached_of_accepts haccepts
          rw [hsave] at hanswer
          obtain rfl : answer = .ok () := hanswer
          have hsame : saved.accepts = store.accepts := funext fun other => by
            rw [← accepts_saveCached store head other, hsave]
          rw [List.takeWhile_cons_of_pos haccepts, flushIds, flushIds, hsave]
          simp only [← hsame, ih]
          rfl

/-- **What a flush does** is to write the flushable ids, all of which are taken. -/
lemma flushIds_flushable (store : Store β) :
    store.flushIds store.flushable = (.ok store.flushable.length, store.flush.2) :=
  flushIds_takeWhile store.dirtyIds

lemma isDirty_flush {store : Store β} {id : String} :
    store.flush.2.isDirty id = true ↔ store.isDirty id = true ∧ id ∉ store.flushable :=
  isDirty_flushIds store.dirtyIds id

end ObjectMemory.Store
