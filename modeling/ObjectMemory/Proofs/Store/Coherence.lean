import ObjectMemory.Proofs.Store.Requests
import ObjectMemory.Proofs.Store.View

/-!
# Cache coherence

A store is coherent when dropping a clean entry drops no change: the document store has a document
that the cached instance was written as, or that it was read from.  The mark of a modification is
never set on a cached instance, because each change of one turns the mark into the dirty flag of the
entry, so that no change is forgotten when the next one is looked for.

Coherence is about one id at a time, and each operation is about one id.  What fails changes
nothing, so it is enough to see what each operation does when it succeeds.

* `Entry.Coherent`, `Store.Coherent` — coherence of an entry, and of all of them;
* `Coherent.change`, `Coherent.remember` — changes to one id, and to its entry;
* `Coherent.perform` — every request keeps a store coherent;
* **`coherent_runEvents`** — so every store over documents in memory is, whatever happens to it.
-/

namespace ObjectMemory

open Backend Json

/-! ## Coherence -/

variable {β : Type} [DocumentStore β] [LawfulDocumentStore β]

/-- An entry with what the document store answers for its id: it has no mark, and if it is clean, it
was written as the document or read from it. -/
structure Entry.Coherent (β : Type) [DocumentStore β] [LawfulDocumentStore β] (entry : Entry)
    (id : String) (answer : Except Failure (Option String)) : Prop where
  unmarked : entry.object.modified = false
  written : entry.dirty = false → ∃ document, answer = .ok (some document) ∧
    (document = LawfulDocumentStore.kept β entry.object.encode ∨
      Instance.decode id document = .ok entry.object)

namespace Store

/-- What the store has of an id is coherent. -/
def View.Coherent (β : Type) [DocumentStore β] [LawfulDocumentStore β] (view : View)
    (id : String) : Prop :=
  ∀ entry, view.entry = some entry → entry.Coherent β id view.document

def Coherent (store : Store β) : Prop := ∀ id, (store.view id).Coherent β id

lemma new_coherent (backend : β) : (new backend).Coherent := by
  intro id entry h
  cases h

/-! ## One operation -/

/-- A change to one id is to be looked at there only. -/
lemma Coherent.change {store after : Store β} (h : store.Coherent) {id : String}
    (hid : (after.view id).Coherent β id)
    (hothers : ∀ other, other ≠ id → after.view other = store.view other) : after.Coherent := by
  intro other
  rcases eq_or_ne other id with rfl | hne
  · exact hid
  · rw [hothers other hne]
    exact h other

lemma Coherent.remember {store : Store β} (h : store.Coherent) {id : String} {entry : Entry}
    (hentry : entry.Coherent β id (store.view id).document) :
    (store.remember id entry).Coherent := by
  refine h.change ?_ fun other hne => view_remember_of_ne _ _ hne
  rw [view_remember_self]
  rintro _ ⟨⟩
  exact hentry

lemma Coherent.demand {store : Store β} (h : store.Coherent) {id : String} {entry : Entry}
    (hdemand : store.demand id = .ok entry) : entry.Coherent β id (store.view id).document := by
  rcases demand_cases hdemand with hcached | ⟨-, document, object, hdocument, hdecode, rfl⟩
  · exact h id entry hcached
  · have hunmarked := Instance.unmodified_eq (Instance.decode_unmodified hdecode)
    exact ⟨rfl, fun _ => ⟨document, hdocument, .inr (hunmarked ▸ hdecode)⟩⟩

lemma Coherent.load {store : Store β} (h : store.Coherent) (id : String) :
    (store.load id).2.Coherent := by
  cases hdemand : store.demand id with
  | error error => rwa [load_of_error hdemand]
  | ok entry =>
      have hentry := h.demand hdemand
      rw [load_of_demand hdemand]
      exact h.remember ⟨hentry.unmarked, hentry.written⟩

/-- An edit that leaves its mark makes the entry dirty, and one that does not changes nothing. -/
lemma Coherent.update {α : Type} {store : Store β} (h : store.Coherent) (id : String)
    {edit : Instance → α × Instance} (marks : Instance.Marks edit) :
    (store.update id edit).2.Coherent := by
  cases hdemand : store.demand id with
  | error error => rwa [update_of_error edit hdemand]
  | ok entry =>
      have hentry := h.demand hdemand
      rw [update_of_demand edit hdemand]
      refine h.remember ⟨rfl, fun hclean => ?_⟩
      simp only [Entry.edited, Bool.or_eq_false_iff] at hclean
      -- a clean entry afterwards was clean before, and its instance has no mark of a change
      have hsame : (edit entry.object).2.unmodified = entry.object := by
        rw [marks _ hclean.2, Instance.unmodified_eq hentry.unmarked]
      simp only [Entry.edited, hsame]
      exact hentry.written hclean.1

lemma Coherent.save {store : Store β} (h : store.Coherent) (id : String) (object : Instance) :
    (store.save id object).2.Coherent := by
  rcases store.save_cases id object with ⟨failure, heq⟩ | ⟨saved, heq, hview, hothers⟩
  · rwa [heq]
  · rw [heq]
    refine h.change ?_ hothers
    rw [hview]
    rintro _ ⟨⟩
    exact ⟨rfl, fun _ => ⟨_, rfl, .inl rfl⟩⟩

lemma Coherent.saveCached {store : Store β} (h : store.Coherent) (id : String) :
    (store.saveCached id).2.Coherent := by
  rcases store.saveCached_cases id with ⟨-, heq⟩ | ⟨entry, -, heq⟩
  · rwa [heq]
  · rw [heq]
    exact h.save id entry.object

lemma Coherent.delete {store : Store β} (h : store.Coherent) (id : String) :
    (store.delete id).2.Coherent := by
  rcases store.delete_cases id with ⟨failure, heq⟩ | ⟨rest, heq, hview, hothers⟩
  · rwa [heq]
  · rw [heq]
    refine h.change ?_ hothers
    rw [hview]
    rintro _ ⟨⟩

lemma Coherent.markDirty {store : Store β} (h : store.Coherent) (id : String) :
    (store.markDirty id).2.Coherent := by
  rw [Store.markDirty]
  split
  · next entry hcached =>
      exact h.remember ⟨(h id entry hcached).unmarked, fun hclean => by cases hclean⟩
  · exact h

lemma Coherent.evict {store : Store β} (h : store.Coherent) (id : String) :
    (store.evict id).2.Coherent := by
  refine h.change ?_ fun other hne => view_evict_of_ne _ hne
  rw [view_evict_self]
  rintro _ ⟨⟩

lemma Coherent.clear {store : Store β} (_ : store.Coherent) : store.clear.Coherent := by
  intro id entry h
  cases h

/-! ## Requests -/

/-- **Every request keeps a store coherent**, also one that fails. -/
lemma Coherent.perform {store : Store β} (h : store.Coherent) (request : Request) :
    (store.perform request).2.Coherent := by
  cases request with
  | load id => exact h.load id
  | save id object => exact h.save id object
  | saveCached id => exact h.saveCached id
  | create className defaults suffix now => exact h.save _ _
  | delete id => exact h.delete id
  | update id edits => exact h.update id (marks_editAll edits)
  | setVar id name value => exact h.update id (Edit.set name value).marks
  | removeVar id name => exact h.update id (Edit.remove name).marks
  | markDirty id => exact h.markDirty id
  | flush => exact flushIds_keeps (fun store id hstore => hstore.saveCached id) _ h
  | clear => exact h.clear
  | evict id => exact h.evict id
  | findByClass className => exact h
  | tick => exact h

/-! ## Over documents in memory -/

lemma Coherent.happen {store : Store Memory} (h : store.Coherent) (event : Event) :
    (event.happen store).Coherent := by
  cases event with
  | request asked => exact h.perform asked
  | setReadOnly readOnly => exact h

lemma Coherent.runEvents {store : Store Memory} (h : store.Coherent) (events : List Event) :
    (store.runEvents events).Coherent := by
  induction events generalizing store with
  | nil => exact h
  | cons event rest ih => exact ih (h.happen event)

/-- **A store over documents in memory is coherent at all times**: whatever is asked of it, and
whatever fails, no cached instance is marked, and the document of one that is cached as clean is the
document it was written as, or one that it is read from. -/
theorem coherent_runEvents (documents : SortedMap String String) (readOnly : Bool)
    (events : List Event) {id : String} {entry : Entry}
    (h : (runEvents (new ⟨documents, readOnly⟩) events).inspect id = some entry) :
    entry.object.modified = false ∧
      (entry.dirty = false → ∃ document,
        (runEvents (new ⟨documents, readOnly⟩) events).backend.documents.get? id = some document ∧
        (document = entry.object.encode ∨ Instance.decode id document = .ok entry.object)) := by
  have hentry := (new_coherent _).runEvents events id entry h
  refine ⟨hentry.unmarked, fun hclean => ?_⟩
  obtain ⟨document, hdocument, hwritten⟩ := hentry.written hclean
  exact ⟨document, Except.ok.inj hdocument, hwritten⟩

/-- The document of a counter. -/
def counterDocuments : SortedMap String String :=
  .ofList [("counter_1", "\x7b\"class\":\"Counter\"\x7d")]

/-- A counter that is read, changed, kept when it cannot be written, and written later. -/
def lateWrite : List Event :=
  [.request (.load "counter_1"), .request (.setVar "counter_1" "n" .null), .setReadOnly true,
    .request .flush, .setReadOnly false, .request (.saveCached "counter_1"),
    .request (.removeVar "counter_1" "class")]

theorem coherent_lateWrite :
    ∃ entry, (runEvents (new ⟨counterDocuments, false⟩) lateWrite).inspect "counter_1"
        = some entry ∧
      entry.dirty = false ∧ entry.object.modified = false ∧
      (entry.dirty = false → ∃ document,
        (runEvents (new ⟨counterDocuments, false⟩) lateWrite).backend.documents.get? "counter_1"
          = some document ∧
        (document = entry.object.encode ∨
          Instance.decode "counter_1" document = .ok entry.object)) := by
  have hclean : ((runEvents (new ⟨counterDocuments, false⟩) lateWrite).inspect "counter_1").map
      Entry.dirty = some false := by decide +kernel
  obtain ⟨entry, hentry, hdirty⟩ := Option.map_eq_some_iff.mp hclean
  exact ⟨entry, hentry, hdirty, coherent_runEvents _ _ _ hentry⟩

end Store

end ObjectMemory
