import ObjectMemory.Proofs.Store.View

/-!
# What a store has

A store holds an instance, whichever part of it says so: the cached instance, or the document if
nothing is cached.  Behind a clean entry there is the document of the same instance, and behind a
dirty one the document of an earlier state of it, of the same class.  So a clean entry can be
dropped and a document read again without any difference, and this is where decoding has to undo
encoding.

Each operation on the id of a held instance answers what the instance says, and the store holds
afterwards what the operation makes of it.

* `View.Holds`, `View.Lacks`, `View.Has` — a store has an instance, has none, or either;
* `Holds.load`, `Holds.update`, `Lacks.load`, `Lacks.update` — uses of it;
* `Has.dropped`, `Has.evict`, `Has.clear`, … — upkeep changes nothing of what a store has;
* `holds_saved`, `Has.saveCached`, `Has.flush` — nor does writing it.
-/

namespace ObjectMemory.Store

open Backend Json

variable {β : Type} [DocumentStore β] {id : String} {object : Instance}

/-- Nothing cached of an id is dirty. -/
def View.Clean (view : View) : Prop := ∀ entry, view.entry = some entry → entry.dirty = false

/-- What a store has of an id amounts to an instance. -/
structure View.Holds (view : View) (id : String) (object : Instance) : Prop where
  storable : object.Storable
  named : object.id = id
  unmarked : object.modified = false
  cached : ∀ entry, view.entry = some entry → entry.object = object
  written : ∃ written : Instance, view.document = .ok (some written.encode) ∧ written.Storable ∧
    written.className = object.className ∧ (view.Clean → written = object)

def View.Lacks (view : View) : Prop := view = ⟨none, .ok none⟩

/-- What a store has of an id amounts to an instance, or there is nothing. -/
def View.Has (view : View) (id : String) : Option Instance → Prop
  | some object => view.Holds id object
  | none => view.Lacks

lemma clean_iff {store : Store β} : (store.view id).Clean ↔ store.isDirty id = false :=
  isDirty_eq_false.symm

lemma clean_of_none {view : View} (h : view.entry = none) : view.Clean := by
  intro entry hentry
  rw [h] at hentry
  cases hentry

/-! ## Use -/

/-- The entry of a held instance is one of it, and dirty only if it was. -/
lemma View.Holds.demand {store : Store β} (h : (store.view id).Holds id object) :
    ∃ entry, store.demand id = .ok entry ∧ entry.object = object ∧
      (entry.dirty = false → (store.view id).Clean) := by
  rw [Store.demand]
  cases hcached : store.cache.get? id with
  | some entry =>
      refine ⟨entry, rfl, h.cached entry hcached, fun hclean => ?_⟩
      rintro _ heq
      rw [view, hcached] at heq
      rwa [← Option.some.inj heq]
  | none =>
      have hclean : (store.view id).Clean := clean_of_none hcached
      obtain ⟨written, hdocument, hstorable, -, hwritten⟩ := h.written
      -- nothing is cached, so the document is one of the instance itself
      obtain rfl := hwritten hclean
      have hsame : { written with id, modified := false } = written := by
        rw [← h.named, ← h.unmarked]
      have hfetch : store.fetch id = .ok written := by
        rw [fetch, show DocumentStore.get store.backend id = .ok (some written.encode) from hdocument]
        simp only [Instance.decode_encode hstorable id, hsame]
        rfl
      refine ⟨.clean written store.moment, ?_, Instance.unmodified_eq h.unmarked, fun _ => hclean⟩
      simp only [hfetch]

/-- A held instance is in the entry that replaces its own, together with what is done to it. -/
lemma View.Holds.remember {store : Store β} (h : (store.view id).Holds id object) (entry : Entry)
    (storable : entry.object.Storable) (named : entry.object.id = id)
    (unmarked : entry.object.modified = false) (className : entry.object.className = object.className)
    (clean : entry.dirty = false → (store.view id).Clean ∧ entry.object = object) :
    ((store.remember id entry).view id).Holds id entry.object := by
  rw [view_remember_self]
  obtain ⟨written, hdocument, hstorable, hclass, hwritten⟩ := h.written
  refine ⟨storable, named, unmarked, ?_, written, hdocument, hstorable, ?_, fun hclean => ?_⟩
  · rintro _ ⟨⟩
    rfl
  · rw [hclass, className]
  · obtain ⟨hbefore, hsame⟩ := clean (hclean entry rfl)
    rw [hsame]
    exact hwritten hbefore

lemma View.Holds.load {store : Store β} (h : (store.view id).Holds id object) :
    ∃ loaded, store.load id = (.ok object, loaded) ∧ (loaded.view id).Holds id object ∧
      loaded.backend = store.backend ∧
      ∀ other, other ≠ id → loaded.view other = store.view other := by
  obtain ⟨entry, hdemand, rfl, hclean⟩ := h.demand
  refine ⟨_, load_of_demand hdemand, ?_, rfl, fun other hne => view_remember_of_ne _ _ hne⟩
  exact h.remember _ h.storable h.named h.unmarked rfl fun hdirty => ⟨hclean hdirty, rfl⟩

/-- A held instance is changed, and the mark of the change becomes the dirty flag. -/
lemma View.Holds.update {α : Type} {store : Store β} (h : (store.view id).Holds id object)
    {edit : Instance → α × Instance} (marks : Instance.Marks edit) (fits : Instance.Fits edit) :
    ∃ updated, store.update id edit = (.ok (edit object).1, updated) ∧
      (updated.view id).Holds id (edit object).2.unmodified ∧ updated.backend = store.backend ∧
      ∀ other, other ≠ id → updated.view other = store.view other := by
  obtain ⟨entry, hdemand, rfl, hclean⟩ := h.demand
  obtain ⟨storable, named, className⟩ := fits entry.object h.storable
  refine ⟨_, update_of_demand edit hdemand, ?_, rfl, fun other hne => view_remember_of_ne _ _ hne⟩
  refine h.remember (entry.edited (edit entry.object).2 store.moment) storable.unmodified
    (named.trans h.named) rfl className fun hdirty => ?_
  simp only [Entry.edited, Bool.or_eq_false_iff] at hdirty
  refine ⟨hclean hdirty.1, ?_⟩
  rw [Entry.edited, marks _ hdirty.2, Instance.unmodified_eq h.unmarked]

lemma View.Lacks.demand {store : Store β} (h : (store.view id).Lacks) :
    store.demand id = .error (.notFound id) := by
  rw [View.Lacks, view, View.mk.injEq] at h
  rw [Store.demand, h.1]
  simp only [fetch, h.2]

lemma View.Lacks.load {store : Store β} (h : (store.view id).Lacks) :
    store.load id = (.error (.notFound id), store) :=
  load_of_error h.demand

lemma View.Lacks.update {α : Type} {store : Store β} (h : (store.view id).Lacks)
    (edit : Instance → α × Instance) :
    store.update id edit = (.error (.notFound id), store) :=
  update_of_error edit h.demand

/-! ## Upkeep -/

variable {store : Store β} {had : Option Instance}

/-- A clean entry can be dropped. -/
lemma View.Has.dropped (h : (store.view id).Has id had) (hclean : store.isDirty id = false) :
    View.Has ⟨none, (store.view id).document⟩ id had := by
  cases had with
  | none =>
      rw [View.Has, View.Lacks] at h
      rw [h]
      rfl
  | some object =>
      obtain ⟨written, hdocument, hstorable, hclass, hwritten⟩ := View.Holds.written h
      have hsame := hwritten (clean_iff.mpr hclean)
      refine ⟨View.Holds.storable h, View.Holds.named h, View.Holds.unmarked h, ?_, written,
        hdocument, hstorable, hclass, fun _ => hsame⟩
      rintro _ ⟨⟩

lemma View.Has.load (h : (store.view id).Has id had) (other : String) :
    ((store.load other).2.view id).Has id had := by
  rcases eq_or_ne id other with rfl | hne
  · cases had with
    | none => rwa [View.Lacks.load h]
    | some object =>
        obtain ⟨loaded, heq, hholds, -⟩ := View.Holds.load h
        rwa [heq]
  · cases hdemand : store.demand other with
    | error error => rwa [load_of_error hdemand]
    | ok entry => rwa [load_of_demand hdemand, view_remember_of_ne _ _ hne]

lemma View.Has.evict (h : (store.view id).Has id had) {other : String}
    (hclean : store.isDirty other = false) : ((store.evict other).2.view id).Has id had := by
  rcases eq_or_ne id other with rfl | hne
  · rw [view_evict_self]
    exact h.dropped hclean
  · rwa [view_evict_of_ne _ hne]

lemma View.Has.clear (h : (store.view id).Has id had) (hclean : store.isDirty id = false) :
    (store.clear.view id).Has id had :=
  h.dropped hclean

lemma View.Has.markDirty (h : (store.view id).Has id had) (other : String) :
    ((store.markDirty other).2.view id).Has id had := by
  rw [Store.markDirty]
  split
  · next entry hcached =>
      rcases eq_or_ne id other with rfl | hne
      · cases had with
        | none =>
            rw [View.Has, View.Lacks, view, View.mk.injEq, hcached] at h
            cases h.1
        | some object =>
            obtain rfl := View.Holds.cached h entry hcached
            exact View.Holds.remember h { entry with dirty := true } (View.Holds.storable h)
              (View.Holds.named h) (View.Holds.unmarked h) rfl fun hdirty => by cases hdirty
      · rwa [view_remember_of_ne _ _ hne]
  · exact h

/-! ## Writing -/

variable [LawfulDocumentStore β]

lemma holds_saved (storable : object.Storable) (named : object.id = id) (moment : ℕ) :
    View.Holds ⟨some (.clean object moment), .ok (some (LawfulDocumentStore.kept β object.encode))⟩
      id object.unmodified := by
  refine ⟨storable.unmodified, named, rfl, ?_, object.unmodified, ?_, storable.unmodified, rfl,
    fun _ => rfl⟩
  · rintro _ ⟨⟩
    rfl
  · rw [LawfulDocumentStore.kept_encode storable]
    rfl

lemma View.Has.saveCached (h : (store.view id).Has id had) (other : String) :
    ((store.saveCached other).2.view id).Has id had := by
  rcases store.saveCached_outcome other with
    ⟨-, heq⟩ | ⟨failure, heq⟩ | ⟨entry, saved, hentry, heq, hview, hothers⟩
  · rwa [heq]
  · rwa [heq]
  rw [heq]
  rcases eq_or_ne id other with rfl | hne
  · rw [hview]
    cases had with
    | none =>
        rw [View.Has, View.Lacks] at h
        rw [h] at hentry
        cases hentry
    | some object =>
        obtain rfl := View.Holds.cached h entry hentry
        exact Instance.unmodified_eq (View.Holds.unmarked h) ▸
          holds_saved (View.Holds.storable h) (View.Holds.named h) store.moment
  · rwa [hothers id hne]

lemma View.Has.flush (h : (store.view id).Has id had) : (store.flush.2.view id).Has id had :=
  flushIds_keeps (P := fun store => (store.view id).Has id had)
    (fun _ other hstore => hstore.saveCached other) _ h

end ObjectMemory.Store
