import ObjectMemory.Proofs.Json.Levels
import ObjectMemory.Proofs.Store.WriteBack

/-!
# Closing a store

Closing is the last chance to write what was changed.  It goes over the dirty entries as a flush
does, but goes on behind one that is refused.  An entry that is refused changes nothing, so closing
comes to writing the others (`settleIds_eq`), and it answers for each entry: it is counted as
written, or reported with the reason.

* `flushFailure?`, `taken` — what is reported, and what is written;
* `settleIds_eq` — writing whatever can be written;
* `run_saveCached` — each entry is attempted once;
* `close_wrote`, `close_of_flush` — the documents afterwards, and those that a flush would leave;
* `ClosesAll` — what becomes of the entries and documents, and what is reported;
* **`close_accounts`** — closing does so for every store.
-/

namespace ObjectMemory.Store

open Backend Json

variable {β : Type} [DocumentStore β] {store : Store β} {ids : List String} {id : String}

/-- What is reported of an id when its entry is refused. -/
def flushFailure? (store : Store β) (id : String) : Option FlushFailure :=
  (store.refusal? id).map fun failure => ⟨id, .backend .put id failure⟩

/-- Those among some ids whose entries are not refused. -/
def taken (store : Store β) (ids : List String) : List String :=
  ids.filter fun id => (store.refusal? id).isNone

lemma mem_taken_iff : id ∈ store.taken ids ↔ id ∈ ids ∧ store.refusal? id = none := by
  simp [taken]

/-- Each id is taken or reported. -/
lemma length_taken (store : Store β) (ids : List String) :
    (store.taken ids).length + (ids.filterMap store.flushFailure?).length = ids.length := by
  induction ids with
  | nil => rfl
  | cons id rest ih =>
      rw [taken] at ih ⊢
      cases hrefusal : store.refusal? id with
      | none =>
          have hnone : store.flushFailure? id = none := by simp [flushFailure?, hrefusal]
          rw [List.filterMap_cons_none hnone, List.filter_cons_of_pos (by simp [hrefusal]),
            List.length_cons, List.length_cons]
          omega
      | some failure =>
          have hsome : store.flushFailure? id = some ⟨id, .backend .put id failure⟩ := by
            simp [flushFailure?, hrefusal]
          rw [List.filterMap_cons_some hsome, List.filter_cons_of_neg (by simp [hrefusal]),
            List.length_cons, List.length_cons]
          omega

/-- The ids that are reported are those that are refused, in their order. -/
lemma map_flushFailure? (store : Store β) (ids : List String) :
    (ids.filterMap store.flushFailure?).map FlushFailure.id
      = ids.filter fun id => (store.refusal? id).isSome := by
  induction ids with
  | nil => rfl
  | cons id rest ih =>
      cases hrefusal : store.refusal? id with
      | none => simp [flushFailure?, hrefusal, ← ih]
      | some failure => simp [flushFailure?, hrefusal, ← ih]

lemma taken_eq_self (h : ∀ id ∈ ids, store.refusal? id = none) : store.taken ids = ids := by
  refine List.filter_eq_self.mpr fun id hid => ?_
  rw [h id hid, Option.isNone_none]

lemma filterMap_flushFailure?_eq_nil_iff :
    ids.filterMap store.flushFailure? = [] ↔ ∀ id ∈ ids, store.refusal? id = none := by
  simp [List.filterMap_eq_nil_iff, flushFailure?]

variable [LawfulDocumentStore β] [SteadyDocumentStore β]

/-- **Writing whatever can be written** is to write what is taken, and to report the rest. -/
lemma settleIds_eq : ∀ {store : Store β}, (∀ id ∈ ids, store.isCached id = true) →
    store.settleIds ids = (((store.taken ids).length, ids.filterMap store.flushFailure?),
      (store.flushIds (store.taken ids)).2) := by
  induction ids with
  | nil => exact fun _ => rfl
  | cons id rest ih =>
      intro store cached
      rw [List.forall_mem_cons] at cached
      cases hrefusal : store.refusal? id with
      | some failure =>
          have htaken : store.taken (id :: rest) = store.taken rest := by simp [taken, hrefusal]
          have hreport : (id :: rest).filterMap store.flushFailure?
              = ⟨id, .backend .put id failure⟩ :: rest.filterMap store.flushFailure? := by
            simp [flushFailure?, hrefusal]
          rw [settleIds, saveCached_of_refusal hrefusal, htaken, hreport]
          simp only [ih cached.2]
      | none =>
          obtain ⟨saved, heq, -⟩ := Wrote.saveCached cached.1 hrefusal
          obtain ⟨hcached, hsame⟩ := sameAccepted_of_saved heq
          have htaken : store.taken (id :: rest) = id :: saved.taken rest := by
            simp [taken, hrefusal, hsame]
          have hreport : (id :: rest).filterMap store.flushFailure?
              = rest.filterMap saved.flushFailure? := by
            rw [show saved.flushFailure? = store.flushFailure? from funext fun other => by
              rw [flushFailure?, flushFailure?, hsame]]
            simp [flushFailure?, hrefusal]
          rw [settleIds, heq, htaken, hreport, flushIds, heq]
          simp only [ih (hcached ▸ cached.2), List.length_cons]

omit [SteadyDocumentStore β] in
/-- What is refused for the same reason, or taken, is so with the same outcome. -/
lemma saveCached_congr {saved : Store β} (cached : store.isCached id = true)
    (still : saved.isCached id = true) (same : saved.refusal? id = store.refusal? id) :
    (saved.saveCached id).1 = (store.saveCached id).1 := by
  cases hrefusal : store.refusal? id with
  | some failure =>
      rw [saveCached_of_refusal (same.trans hrefusal), saveCached_of_refusal hrefusal]
  | none =>
      obtain ⟨_, hbefore, -⟩ := Wrote.saveCached cached hrefusal
      obtain ⟨_, hafter, -⟩ := Wrote.saveCached still (same.trans hrefusal)
      rw [hbefore, hafter]

/-- Each entry is attempted once, and with the outcome that it has on its own. -/
lemma run_saveCached : ∀ {store : Store β}, (∀ id ∈ ids, store.isCached id = true) →
    store.run (ids.map .saveCached)
      = (ids.map fun id => .done (store.saveCached id).1, (store.settleIds ids).2) := by
  induction ids with
  | nil => exact fun _ => rfl
  | cons id rest ih =>
      intro store cached
      rw [List.forall_mem_cons] at cached
      rcases hsaved : store.saveCached id with ⟨outcome, saved⟩
      obtain ⟨hcached, hsame⟩ := sameAccepted_of_saved hsaved
      have hrest := ih (hcached ▸ cached.2)
      have houtcome : ∀ other ∈ rest, (saved.saveCached other).1 = (store.saveCached other).1 :=
        fun other hother => saveCached_congr (cached.2 other hother)
          (hcached ▸ cached.2 other hother) (congrFun hsame other)
      have houtcomes : rest.map (fun other => Answer.done (saved.saveCached other).1)
          = rest.map fun other => .done (store.saveCached other).1 :=
        List.map_congr_left fun other hother => congrArg Answer.done (houtcome other hother)
      rw [houtcomes] at hrest
      simp only [List.map_cons, run, perform, Answer.wrap, hsaved, hrest, settleIds]
      cases outcome <;> rfl

/-! ## Closing -/

lemma close_reported (store : Store β) :
    store.close.1.flushed = (store.taken store.dirtyIds).length ∧
      store.close.1.failed = store.dirtyIds.filterMap store.flushFailure? := by
  rw [close, settleIds_eq fun _ => isCached_of_mem_dirtyIds]
  exact ⟨rfl, rfl⟩

lemma failedIds_close (store : Store β) :
    store.close.1.failedIds = store.dirtyIds.filter fun id => (store.refusal? id).isSome := by
  rw [FlushReport.failedIds, (close_reported store).2, map_flushFailure?]

/-- The documents after closing are those after writing what is taken. -/
lemma close_wrote (store : Store β) : ∃ after,
    store.flushIds (store.taken store.dirtyIds) = (.ok (store.taken store.dirtyIds).length, after) ∧
      store.Wrote after (store.taken store.dirtyIds) ∧ store.close.2 = after.backend := by
  obtain ⟨after, hflush, hwrote⟩ := flushIds_of_accepted ((dirtyIds_nodup store).filter _)
    (fun id hid => isCached_of_mem_dirtyIds (mem_taken_iff.mp hid).1)
    (fun id hid => (mem_taken_iff.mp hid).2)
  refine ⟨after, hflush, hwrote, ?_⟩
  rw [close_backend, settleIds_eq fun _ => isCached_of_mem_dirtyIds]
  exact congrArg (fun result => result.2.backend) hflush

/-- Where a flush goes through, closing does the same. -/
lemma close_of_flush {count : ℕ} (h : store.flush.1 = .ok count) :
    store.close.1.flushed = count ∧ store.close.1.failed = [] ∧
      store.close.2 = store.flush.2.backend := by
  have hall := refusal?_of_flushIds (Prod.ext h rfl : store.flush = (.ok count, store.flush.2))
  obtain ⟨after, hflush, -, hbackend⟩ := close_wrote store
  rw [taken_eq_self hall] at hflush
  obtain ⟨hflushed, hfailed⟩ := close_reported store
  rw [show store.flush = (.ok store.dirtyIds.length, after) from hflush] at h ⊢
  rw [hflushed, hfailed, taken_eq_self hall, filterMap_flushFailure?_eq_nil_iff]
  exact ⟨Except.ok.inj h, hall, hbackend⟩

lemma isClean_close_iff (store : Store β) : store.close.1.isClean = true ↔
    (∀ id ∈ store.dirtyIds, store.refusal? id = none) ∧
      DocumentStore.close store.close.2 = .ok () := by
  rw [FlushReport.isClean, Bool.and_eq_true, List.isEmpty_iff, (close_reported store).2,
    filterMap_flushFailure?_eq_nil_iff]
  refine and_congr_right' ?_
  simp only [close]
  cases DocumentStore.close (store.settleIds store.dirtyIds).2.backend <;> simp

/-- Closing attempts each dirty entry once and accounts for it. -/
structure ClosesAll (store : Store β) : Prop where
  accounted : store.close.1.flushed + store.close.1.failed.length = store.dirtyIds.length
  failed : store.close.1.failed = store.dirtyIds.filterMap store.flushFailure?
  failedIds : store.close.1.failedIds = store.dirtyIds.filter fun id => (store.refusal? id).isSome
  ascending : store.close.1.failedIds.Pairwise (· < ·)
  /-- What is not refused is written, wherever it stands. -/
  written : ∀ id ∈ store.dirtyIds, store.refusal? id = none →
    ∃ entry, (store.view id).entry = some entry ∧ DocumentStore.get store.close.2 id
      = .ok (some (LawfulDocumentStore.kept β entry.object.encode))
  /-- What is refused is not, and neither is what is clean or not cached. -/
  untouched : ∀ id, (id ∈ store.dirtyIds → store.refusal? id ≠ none) →
    DocumentStore.get store.close.2 id = DocumentStore.get store.backend id
  attempted : (store.run (store.dirtyIds.map .saveCached)).1
      = store.dirtyIds.map (fun id => .done (store.saveCached id).1) ∧
    (store.run (store.dirtyIds.map .saveCached)).2.backend = store.close.2
  /-- If a flush would write all of them, closing is a flush. -/
  asFlush : ∀ count, store.flush.1 = .ok count →
    store.close.1.flushed = count ∧ store.close.1.failed = [] ∧
      store.close.2 = store.flush.2.backend
  clean : store.close.1.isClean = true ↔
    (∀ id ∈ store.dirtyIds, store.refusal? id = none) ∧ DocumentStore.close store.close.2 = .ok ()

/-- **Closing a store writes every dirty entry that is not refused**, and reports the others, each
with the reason, in the order of their ids. -/
theorem close_accounts (store : Store β) : store.ClosesAll := by
  obtain ⟨hflushed, hfailed⟩ := close_reported store
  obtain ⟨after, -, hwrote, hbackend⟩ := close_wrote store
  refine ⟨?_, hfailed, failedIds_close store, ?_, fun id hid hrefusal => ?_, fun id hid => ?_, ?_,
    fun count => close_of_flush, isClean_close_iff store⟩
  · rw [hflushed, hfailed, length_taken]
  · rw [failedIds_close]
    exact (dirtyIds_ascending store).filter _
  · obtain ⟨entry, hentry, hview⟩ := hwrote.written id (mem_taken_iff.mpr ⟨hid, hrefusal⟩)
    refine ⟨entry, hentry, ?_⟩
    rw [hbackend]
    exact congrArg View.document hview
  · rw [hbackend]
    refine congrArg View.document (hwrote.untouched id fun hmem => ?_)
    exact hid (mem_taken_iff.mp hmem).1 (mem_taken_iff.mp hmem).2
  · rw [run_saveCached fun _ => isCached_of_mem_dirtyIds]
    exact ⟨rfl, rfl⟩

/-- A counter with a value that is too deep for a document. -/
def strandedCounter : Instance :=
  (Instance.set "n" (nested depthLimit) (.new "counter_2" "Counter" .epoch .empty)).2

def strandedEntry : Entry := { (changedCounter "2").2 with object := strandedCounter }

/-- Three changed counters, of which the second is this one. -/
def strandedCounters : Store Memory :=
  (changedCounters Memory.empty).remember "counter_2" strandedEntry

lemma refusal?_strandedCounters : (strandedCounters.refusal? "counter_2").isSome = true := by
  obtain ⟨error, hdecode⟩ := decode_encode_deep (v := .ofObject strandedCounter.document)
    (by decide +kernel) (by decide +kernel)
  have htext : decode strandedEntry.object.encode = .error error := hdecode
  rw [strandedCounters, refusal?_remember_self, Memory.refusal?_eq, htext]
  simp [changedCounters, Memory.empty]

theorem close_accounts_strandedCounters : strandedCounters.ClosesAll ∧
    strandedCounters.dirtyIds = ["counter_1", "counter_2", "counter_3"] ∧
    strandedCounters.close.1.failedIds = ["counter_2"] ∧ strandedCounters.close.1.flushed = 2 := by
  have hcloses := close_accounts strandedCounters
  have hdirty : strandedCounters.dirtyIds = ["counter_1", "counter_2", "counter_3"] := by
    decide +kernel
  have hfirst : strandedCounters.refusal? "counter_1" = none := by decide +kernel
  have hlast : strandedCounters.refusal? "counter_3" = none := by decide +kernel
  have hfailed : strandedCounters.close.1.failedIds = ["counter_2"] := by
    simp [hcloses.failedIds, hdirty, hfirst, hlast, refusal?_strandedCounters]
  have haccounted := hcloses.accounted
  rw [← List.length_map, ← FlushReport.failedIds, hfailed, hdirty] at haccounted
  exact ⟨hcloses, hdirty, hfailed, Nat.add_right_cancel haccounted⟩

end ObjectMemory.Store
