import ObjectMemory.Proofs.Store.Failures
import ObjectMemory.Proofs.Store.Flush
import ObjectMemory.Proofs.Store.Frame
import ObjectMemory.Proofs.Store.Holding

/-!
# Deleted instances stay away

Nothing is left of a deleted instance: no document, and no entry that could be written later, even
if it was dirty.  From there on an id is only looked up, and a lookup that finds nothing caches
nothing.  So as long as nobody saves an instance under the id or makes one that gets it, the store
goes on as if the id had never been used, and this is what every operation says that is asked
about it.

* `Turn` — what can happen to a store, with updates that may do anything;
* `Request.Spares`, `Turn.Spares` — nothing that is saved or made gets the id;
* `Lacks.perform`, `Lacks.turn`, `Lacks.turns` — what there is not, does not come by itself;
* `Gone` — all that a store says of an id that it does not have;
* **`deleted_stays_gone`** — every store after a deletion.
-/

namespace ObjectMemory.Store

open Backend Json

variable {β : Type} [DocumentStore β] {store : Store β} {id : String}

/-! ## Requests -/

/-- A request neither saves an instance under an id nor makes one that gets it. -/
def Request.Spares (id : String) : Request → Prop
  | save other _ => other ≠ id
  | create className _ suffix _ => deriveId className suffix ≠ id
  | _ => True

lemma View.Lacks.entry (h : (store.view id).Lacks) : (store.view id).entry = none :=
  congrArg View.entry h

lemma View.Lacks.saveCached (h : (store.view id).Lacks) :
    store.saveCached id = (.error (.notFound id), store) := by
  rw [Store.saveCached, show store.cache.get? id = none from h.entry]

lemma View.Lacks.markDirty (h : (store.view id).Lacks) : store.markDirty id = (false, store) := by
  rw [Store.markDirty, show store.cache.get? id = none from h.entry]

lemma View.Lacks.evict (h : (store.view id).Lacks) : ((store.evict id).2.view id).Lacks := by
  rw [View.Lacks, view_evict_self]
  exact congrArg (View.mk none ∘ View.document) h

variable [LawfulDocumentStore β]

lemma View.Lacks.delete (h : (store.view id).Lacks) : ((store.delete id).2.view id).Lacks := by
  rcases store.delete_cases id with ⟨failure, heq⟩ | ⟨rest, heq, hlacks, -⟩
  · rwa [heq]
  · rw [heq]
    exact hlacks

/-- **What there is not does not come by itself**: of the requests about an id, only saving and
making an instance can put something there. -/
lemma View.Lacks.perform (h : (store.view id).Lacks) {request : Request}
    (spares : request.Spares id) : ((store.perform request).2.view id).Lacks := by
  by_cases habout : request.about = some id
  · cases request with
    | load other =>
        obtain rfl : other = id := Option.some.inj habout
        rwa [Store.perform, Answer.wrap, h.load]
    | save other object => exact absurd (Option.some.inj habout) spares
    | saveCached other =>
        obtain rfl : other = id := Option.some.inj habout
        rwa [Store.perform, Answer.wrap, h.saveCached]
    | create className defaults suffix now => exact absurd (Option.some.inj habout) spares
    | delete other =>
        obtain rfl : other = id := Option.some.inj habout
        exact h.delete
    | update other edits =>
        obtain rfl : other = id := Option.some.inj habout
        rwa [Store.perform, Answer.wrap, h.update]
    | setVar other name value =>
        obtain rfl : other = id := Option.some.inj habout
        rwa [Store.perform, Answer.wrap, setVar, h.update]
    | removeVar other name =>
        obtain rfl : other = id := Option.some.inj habout
        rwa [Store.perform, Answer.wrap, removeVar, h.update]
    | markDirty other =>
        obtain rfl : other = id := Option.some.inj habout
        rwa [Store.perform, Answer.wrap, h.markDirty]
    | evict other =>
        obtain rfl : other = id := Option.some.inj habout
        exact h.evict
    | flush | clear | findByClass _ | tick => cases habout
  · rw [view_perform h.entry habout]
    exact h

lemma View.Lacks.flush (h : (store.view id).Lacks) : (store.flush.2.view id).Lacks := by
  rw [view_flush_of_none h.entry]
  exact h

lemma View.Lacks.settle (h : (store.view id).Lacks) (ids : List String) :
    ((store.settleIds ids).2.view id).Lacks := by
  refine settleIds_keeps (P := fun s => (s.view id).Lacks) (fun s other hs => ?_) ids h
  rw [view_saveCached_of_none hs.entry]
  exact hs

/-! ## Over documents in memory -/

/-- What can happen to a store over documents in memory. -/
inductive Turn where
  | event (event : Event)
  /-- An update that may leave anything in place of the instance. -/
  | rework (id : String) (change : Instance → Instance)

def Turn.happen (store : Store Memory) : Turn → Store Memory
  | event happening => happening.happen store
  | rework id change => (store.update id fun object => ((), change object)).2

def Turn.Spares (id : String) : Turn → Prop
  | event (.request request) => request.Spares id
  | _ => True

def takeTurns (store : Store Memory) (turns : List Turn) : Store Memory :=
  turns.foldl Turn.happen store

lemma View.Lacks.turn {store : Store Memory} (h : (store.view id).Lacks) {turn : Turn}
    (spares : turn.Spares id) : ((turn.happen store).view id).Lacks := by
  cases turn with
  | event happening =>
      cases happening with
      | request request => exact h.perform spares
      | setReadOnly readOnly => exact h
  | rework other change =>
      rcases eq_or_ne id other with rfl | hne
      · rwa [Turn.happen, h.update]
      · rwa [Turn.happen, view_update_of_ne _ hne]

lemma View.Lacks.turns {store : Store Memory} (h : (store.view id).Lacks) {turns : List Turn}
    (spares : ∀ turn ∈ turns, turn.Spares id) : ((takeTurns store turns).view id).Lacks := by
  induction turns generalizing store with
  | nil => exact h
  | cons turn rest ih =>
      obtain ⟨hturn, hrest⟩ := List.forall_mem_cons.mp spares
      exact ih (h.turn hturn) hrest

/-- All that a store says of an id that it does not have. -/
structure Gone (store : Store Memory) (id : String) : Prop where
  document : store.backend.documents.get? id = none
  cached : store.isCached id = false
  load : (store.load id).1 = .error (.notFound id)
  update : ∀ (α : Type) (edit : Instance → α × Instance),
    (store.update id edit).1 = .error (.notFound id)
  setVar : ∀ name value, (store.setVar id name value).1 = .error (.notFound id)
  removeVar : ∀ name, (store.removeVar id name).1 = .error (.notFound id)
  saveCached : (store.saveCached id).1 = .error (.notFound id)
  markDirty : (store.markDirty id).1 = false
  dirtyIds : id ∉ store.dirtyIds
  findByClass : ∀ className, ∃ ids, store.findByClass className = .ok ids ∧ id ∉ ids
  /-- Not even writing all that waits to be written gives it a document. -/
  flush : store.flush.2.backend.documents.get? id = none
  close : store.close.2.documents.get? id = none

lemma View.Lacks.documents {store : Store Memory} (h : (store.view id).Lacks) :
    store.backend.documents.get? id = none :=
  Except.ok.inj (congrArg View.document h)

lemma View.Lacks.gone {store : Store Memory} (h : (store.view id).Lacks) : Gone store id where
  document := h.documents
  cached := isCached_eq_false.mpr h.entry
  load := by rw [h.load]
  update _ edit := by rw [h.update edit]
  setVar name value := by rw [Store.setVar, h.update]; rfl
  removeVar name := by rw [Store.removeVar, h.update]; rfl
  saveCached := by rw [h.saveCached]
  markDirty := by rw [h.markDirty]
  dirtyIds hmem := by
    rw [mem_dirtyIds_iff, isDirty, show store.cache.get? id = none from h.entry] at hmem
    cases hmem
  findByClass className := by
    refine ⟨_, rfl, fun hmem => ?_⟩
    obtain ⟨⟨_, document⟩, hentry, rfl⟩ := List.mem_map.mp hmem
    have hfound := SortedMap.mem_entries_iff.mp (List.mem_of_mem_filter hentry)
    rw [h.documents] at hfound
    cases hfound
  flush := h.flush.documents
  close := (h.settle store.dirtyIds).documents

/-- **A deleted instance is never resurrected**: whatever happens to a store after a deletion, and
whatever waits to be written in it, the id has no document and no entry, and is answered as one that
does not exist, until an instance is saved under it or made with it. -/
theorem deleted_stays_gone {store deleted : Store Memory}
    (h : store.delete id = (.ok (), deleted)) (turns : List Turn)
    (spares : ∀ turn ∈ turns, turn.Spares id) : Gone (takeTurns deleted turns) id := by
  rcases store.delete_cases id with ⟨failure, heq⟩ | ⟨rest, heq, hlacks, -⟩
  · cases heq.symm.trans h
  · obtain rfl : rest = deleted := congrArg Prod.snd (heq.symm.trans h)
    exact (View.Lacks.turns hlacks spares).gone

/-- A counter that is read and changed, and not written. -/
def unwrittenCounter : Store Memory := (unreadCounter.setVar "counter_1" "n" .null).2

/-- Attempts to use, to change and to write a counter, and another counter that is made. -/
def callsAfterwards : List Turn :=
  [.event (.setReadOnly true), .event (.request (.load "counter_1")),
    .event (.setReadOnly false), .event (.request .flush),
    .rework "counter_1" fun _ => .new "counter_1" "Counter" .epoch .empty,
    .event (.request (.create "Counter" .empty "2" .epoch)),
    .event (.request (.setVar "counter_1" "n" (.bool true))),
    .event (.request (.markDirty "counter_1")), .event (.request (.saveCached "counter_1"))]

theorem deleted_stays_gone_unwrittenCounter : unwrittenCounter.isDirty "counter_1" = true ∧
    ∃ deleted, unwrittenCounter.delete "counter_1" = (.ok (), deleted) ∧
      (∀ turn ∈ callsAfterwards, turn.Spares "counter_1") ∧
      Gone (takeTurns deleted callsAfterwards) "counter_1" := by
  have hdeleted : (unwrittenCounter.delete "counter_1").1 = .ok () := by decide +kernel
  have hspares : ∀ turn ∈ callsAfterwards, turn.Spares "counter_1" := by
    simp only [callsAfterwards, List.forall_mem_cons, List.not_mem_nil, false_implies,
      implies_true, and_true, Turn.Spares, Request.Spares, true_and]
    decide +kernel
  rcases hdelete : unwrittenCounter.delete "counter_1" with ⟨answer, deleted⟩
  rw [hdelete] at hdeleted
  obtain rfl : answer = .ok () := hdeleted
  exact ⟨by decide +kernel, deleted, rfl, hspares, deleted_stays_gone hdelete _ hspares⟩

end ObjectMemory.Store
