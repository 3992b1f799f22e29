import ObjectMemory.Proofs.Store.Failures
import ObjectMemory.Proofs.Store.Frame

/-!
# Requests about different ids

A request about one id looks at what the store has of that id, and at nothing else but whether the
documents take changes and what time it is, which no such request changes.  So of two requests about
different ids neither can tell whether the other one came first, and a store over documents in
memory is the same store afterwards, because it is known by what it has of each id.

* `SameConditions`, `perform_conditions` — what else a request looks at, and does not change;
* `demand_local`, `save_local`, … — requests one by one;
* **`perform_local`** — a request about an id depends on nothing but the id;
* `eq_of_view` — a store is what it has of each id;
* **`requests_commute`** — requests about different ids in either order.
-/

namespace ObjectMemory.Store

open Backend Json

variable {store other after : Store Memory} {id : String}

/-! ## What requests look at -/

/-- Both stores take changes or refuse them, and at both it is the same time. -/
structure SameConditions (store other : Store Memory) : Prop where
  readOnly : store.backend.readOnly = other.backend.readOnly
  moment : store.moment = other.moment

lemma SameConditions.refl (store : Store Memory) : SameConditions store store := ⟨rfl, rfl⟩

lemma SameConditions.symm (h : SameConditions store other) : SameConditions other store :=
  ⟨h.readOnly.symm, h.moment.symm⟩

lemma SameConditions.trans (h : SameConditions store other) (h' : SameConditions other after) :
    SameConditions store after :=
  ⟨h.readOnly.trans h'.readOnly, h.moment.trans h'.moment⟩

lemma save_conditions (store : Store Memory) (id : String) (object : Instance) :
    SameConditions (store.save id object).2 store where
  readOnly := save_readOnly store id object
  moment := by
    rw [save]
    split <;> rfl

lemma update_conditions {α : Type} (store : Store Memory) (id : String)
    (edit : Instance → α × Instance) : SameConditions (store.update id edit).2 store := by
  cases hdemand : store.demand id with
  | error error => rw [update_of_error edit hdemand]; exact .refl store
  | ok entry => rw [update_of_demand edit hdemand]; exact ⟨rfl, rfl⟩

lemma delete_conditions (store : Store Memory) (id : String) :
    SameConditions (store.delete id).2 store := by
  rw [delete]
  cases hdelete : DocumentStore.delete store.backend id with
  | error failure => exact .refl store
  | ok backend =>
      obtain rfl := Memory.delete_eq_ok hdelete
      exact ⟨rfl, rfl⟩

/-- No request about an id changes what the others look at. -/
lemma perform_conditions {request : Request} (habout : request.about = some id) :
    SameConditions (store.perform request).2 store := by
  cases request with
  | load target =>
      rw [perform, Answer.wrap]
      cases hdemand : store.demand target with
      | error error => rw [load_of_error hdemand]; exact .refl store
      | ok entry => rw [load_of_demand hdemand]; exact ⟨rfl, rfl⟩
  | save target object => exact save_conditions store target object
  | saveCached target =>
      rw [perform, Answer.wrap]
      rcases store.saveCached_cases target with ⟨-, heq⟩ | ⟨entry, -, heq⟩
      · rw [heq]; exact .refl store
      · rw [heq]; exact save_conditions store target entry.object
  | create className defaults suffix now => exact save_conditions store _ _
  | delete target => exact delete_conditions store target
  | update target edits => exact update_conditions store target _
  | setVar target name value => exact update_conditions store target (Instance.set name value)
  | removeVar target name => exact update_conditions store target (Instance.remove name)
  | markDirty target =>
      rw [perform, Answer.wrap, markDirty]
      split <;> exact ⟨rfl, rfl⟩
  | evict target => exact ⟨rfl, rfl⟩
  | flush | clear | findByClass _ | tick => cases habout

/-! ## Requests one by one -/

/-- Two outcomes are the same answer, and leave the same of an id. -/
def SameAt {α : Type} (id : String) (one two : α × Store Memory) : Prop :=
  one.1 = two.1 ∧ one.2.view id = two.2.view id

lemma SameAt.map {α γ : Type} {one two : α × Store Memory} (h : SameAt id one two) (f : α → γ) :
    SameAt id (f one.1, one.2) (f two.1, two.2) :=
  ⟨congrArg f h.1, h.2⟩

lemma sameAt_remember {α : Type} (answer : α) (entry : Entry)
    (hview : store.view id = other.view id) :
    SameAt id (answer, store.remember id entry) (answer, other.remember id entry) :=
  ⟨rfl, by rw [view_remember_self, view_remember_self, hview]⟩

lemma demand_local (same : SameConditions store other) (hview : store.view id = other.view id) :
    store.demand id = other.demand id := by
  have hentry : store.cache.get? id = other.cache.get? id := congrArg View.entry hview
  have hdocument : DocumentStore.get store.backend id = DocumentStore.get other.backend id :=
    congrArg View.document hview
  rw [demand, demand, fetch, fetch, hentry, hdocument, same.moment]

lemma load_local (same : SameConditions store other) (hview : store.view id = other.view id) :
    SameAt id (store.load id) (other.load id) := by
  have hsame := demand_local same hview
  cases hdemand : store.demand id with
  | error error =>
      rw [load_of_error hdemand, load_of_error (hsame ▸ hdemand)]
      exact ⟨rfl, hview⟩
  | ok entry =>
      rw [load_of_demand hdemand, load_of_demand (hsame ▸ hdemand), same.moment]
      exact sameAt_remember _ _ hview

lemma update_local {α : Type} (edit : Instance → α × Instance) (same : SameConditions store other)
    (hview : store.view id = other.view id) :
    SameAt id (store.update id edit) (other.update id edit) := by
  have hsame := demand_local same hview
  cases hdemand : store.demand id with
  | error error =>
      rw [update_of_error edit hdemand, update_of_error edit (hsame ▸ hdemand)]
      exact ⟨rfl, hview⟩
  | ok entry =>
      rw [update_of_demand edit hdemand, update_of_demand edit (hsame ▸ hdemand), same.moment]
      exact sameAt_remember _ _ hview

/-- Whether documents in memory take a document, or why not, is up to its text. -/
lemma put_error_local {store other : Memory} (h : store.readOnly = other.readOnly)
    {document : String} {failure : Failure} (hput : store.put id document = .error failure) :
    other.put id document = .error failure := by
  rw [Memory.put, h] at hput
  rw [Memory.put]
  split_ifs at hput ⊢
  · exact hput
  · cases hdecode : decode document with
    | error error => rwa [hdecode] at hput
    | ok value =>
        rw [hdecode] at hput
        cases hput

lemma save_local (object : Instance) (same : SameConditions store other)
    (hview : store.view id = other.view id) :
    SameAt id (store.save id object) (other.save id object) := by
  have hrefused : ∀ failure, DocumentStore.put store.backend id object.encode = .error failure ↔
      DocumentStore.put other.backend id object.encode = .error failure := fun failure =>
    ⟨put_error_local same.readOnly, put_error_local same.readOnly.symm⟩
  rw [save, save]
  cases hput : DocumentStore.put store.backend id object.encode with
  | error failure =>
      rw [(hrefused failure).mp hput]
      exact ⟨rfl, hview⟩
  | ok backend =>
      cases hother : DocumentStore.put other.backend id object.encode with
      | error failure =>
          rw [(hrefused failure).mpr hother] at hput
          cases hput
      | ok backend' =>
          refine ⟨rfl, ?_⟩
          rw [view_remember_self, view_remember_self, view, view,
            LawfulDocumentStore.get_put_self hput, LawfulDocumentStore.get_put_self hother,
            same.moment]

lemma saveCached_local (same : SameConditions store other)
    (hview : store.view id = other.view id) :
    SameAt id (store.saveCached id) (other.saveCached id) := by
  rcases store.saveCached_cases id with ⟨hnone, heq⟩ | ⟨entry, hentry, heq⟩
  · rcases other.saveCached_cases id with ⟨-, heq'⟩ | ⟨entry, hentry', -⟩
    · rw [heq, heq']
      exact ⟨rfl, hview⟩
    · rw [← hview, hnone] at hentry'
      cases hentry'
  · rcases other.saveCached_cases id with ⟨hnone', -⟩ | ⟨entry', hentry', heq'⟩
    · rw [← hview, hentry] at hnone'
      cases hnone'
    · obtain rfl : entry = entry' :=
        Option.some.inj (hentry.symm.trans ((congrArg View.entry hview).trans hentry'))
      rw [heq, heq']
      exact save_local entry.object same hview

lemma delete_error_local {store other : Memory} (h : store.readOnly = other.readOnly)
    {failure : Failure} (hdelete : store.delete id = .error failure) :
    other.delete id = .error failure := by
  rw [Memory.delete, h] at hdelete
  rw [Memory.delete]
  split_ifs at hdelete ⊢
  exact hdelete

lemma delete_local (same : SameConditions store other) (hview : store.view id = other.view id) :
    SameAt id (store.delete id) (other.delete id) := by
  have hrefused : ∀ failure, DocumentStore.delete store.backend id = .error failure ↔
      DocumentStore.delete other.backend id = .error failure := fun failure =>
    ⟨delete_error_local same.readOnly, delete_error_local same.readOnly.symm⟩
  rw [delete, delete]
  cases hdelete : DocumentStore.delete store.backend id with
  | error failure =>
      rw [(hrefused failure).mp hdelete]
      exact ⟨rfl, hview⟩
  | ok backend =>
      cases hother : DocumentStore.delete other.backend id with
      | error failure =>
          rw [(hrefused failure).mpr hother] at hdelete
          cases hdelete
      | ok backend' =>
          refine ⟨rfl, ?_⟩
          rw [view, view, SortedMap.get?_erase_self, SortedMap.get?_erase_self,
            LawfulDocumentStore.get_delete_self hdelete, LawfulDocumentStore.get_delete_self hother]

lemma markDirty_local (hview : store.view id = other.view id) :
    SameAt id (store.markDirty id) (other.markDirty id) := by
  have hentry : store.cache.get? id = other.cache.get? id := congrArg View.entry hview
  rw [markDirty, markDirty, ← hentry]
  split
  · exact sameAt_remember _ _ hview
  · exact ⟨rfl, hview⟩

lemma evict_local (hview : store.view id = other.view id) :
    SameAt id (store.evict id) (other.evict id) :=
  ⟨isCached_eq_of_view hview, by rw [view_evict_self, view_evict_self, hview]⟩

/-- **A request about an id depends on nothing but the id**: two stores that have the same of it
answer the same, and have the same of it afterwards. -/
lemma perform_local {request : Request} (habout : request.about = some id)
    (same : SameConditions store other) (hview : store.view id = other.view id) :
    SameAt id (store.perform request) (other.perform request) := by
  cases request with
  | load target =>
      obtain rfl : target = id := Option.some.inj habout
      exact (load_local same hview).map Answer.found
  | save target object =>
      obtain rfl : target = id := Option.some.inj habout
      exact (save_local object same hview).map Answer.done
  | saveCached target =>
      obtain rfl : target = id := Option.some.inj habout
      exact (saveCached_local same hview).map Answer.done
  | create className defaults suffix now =>
      obtain rfl : deriveId className suffix = id := Option.some.inj habout
      exact (save_local _ same hview).map fun answer => Answer.created (answer.map fun () => _)
  | delete target =>
      obtain rfl : target = id := Option.some.inj habout
      exact (delete_local same hview).map Answer.done
  | update target edits =>
      obtain rfl : target = id := Option.some.inj habout
      exact (update_local _ same hview).map Answer.edited
  | setVar target name value =>
      obtain rfl : target = id := Option.some.inj habout
      exact (update_local (Instance.set name value) same hview).map (Answer.before ∘ flatten)
  | removeVar target name =>
      obtain rfl : target = id := Option.some.inj habout
      exact (update_local (Instance.remove name) same hview).map (Answer.before ∘ flatten)
  | markDirty target =>
      obtain rfl : target = id := Option.some.inj habout
      exact (markDirty_local hview).map Answer.whether
  | evict target =>
      obtain rfl : target = id := Option.some.inj habout
      exact (evict_local hview).map Answer.whether
  | flush | clear | findByClass _ | tick => cases habout

/-! ## Requests in either order -/

/-- A store over documents in memory is what it has of each id. -/
lemma eq_of_view (same : SameConditions store other) (h : ∀ id, store.view id = other.view id) :
    store = other := by
  obtain ⟨⟨documents, readOnly⟩, cache, moment⟩ := store
  obtain ⟨⟨documents', readOnly'⟩, cache', moment'⟩ := other
  obtain rfl : cache = cache' := SortedMap.ext_get? fun id => congrArg View.entry (h id)
  obtain rfl : documents = documents' :=
    SortedMap.ext_get? fun id => Except.ok.inj (congrArg View.document (h id))
  obtain rfl : readOnly = readOnly' := same.readOnly
  obtain rfl : moment = moment' := same.moment
  rfl

/-- **Requests about different ids commute.**  In either order both answer the same, failures
included, and the store is the same afterwards: what is cached, which entries are dirty, and all
documents.  Neither request touches what the store has of another id. -/
theorem requests_commute (store : Store Memory) {first second : Request} {a b : String}
    (ha : first.about = some a) (hb : second.about = some b) (hne : a ≠ b) :
    ((store.perform first).2.perform second).1 = (store.perform second).1 ∧
    ((store.perform second).2.perform first).1 = (store.perform first).1 ∧
    ((store.perform first).2.perform second).2 = ((store.perform second).2.perform first).2 ∧
    (∀ id, id ≠ a → (store.perform first).2.view id = store.view id) ∧
    ∀ id, id ≠ b → (store.perform second).2.view id = store.view id := by
  have hfirst : ∀ {s : Store Memory} id, id ≠ a → (s.perform first).2.view id = s.view id :=
    fun id hid => view_perform_of_about ha hid
  have hsecond : ∀ {s : Store Memory} id, id ≠ b → (s.perform second).2.view id = s.view id :=
    fun id hid => view_perform_of_about hb hid
  -- each request finds of its id what it would have found without the other one
  obtain ⟨hanswer₂, hview₂⟩ := perform_local hb (perform_conditions ha) (hfirst b hne.symm)
  obtain ⟨hanswer₁, hview₁⟩ := perform_local ha (perform_conditions hb) (hsecond a hne)
  refine ⟨hanswer₂, hanswer₁, ?_, hfirst, hsecond⟩
  apply eq_of_view
  · exact ((perform_conditions hb).trans (perform_conditions ha)).trans
      ((perform_conditions ha).trans (perform_conditions hb)).symm
  · intro id
    rcases eq_or_ne id a with rfl | hida
    · rw [hsecond id hne, hview₁]
    · rw [hfirst id hida]
      rcases eq_or_ne id b with rfl | hidb
      · exact hview₂
      · rw [hsecond id hidb, hfirst id hida, hsecond id hidb]

/-- A counter has to be read to find that the variable is reserved. -/
def reservedWrite : Request := .setVar "counter_1" "class" .null

def anotherCounter : Request := .create "Counter" .empty "2" .epoch

theorem requests_commute_counters :
    reservedWrite.about = some "counter_1" ∧ anotherCounter.about = some "counter_2" ∧
    "counter_1" ≠ "counter_2" ∧
    ((unreadCounter.perform reservedWrite).2.perform anotherCounter).1
      = (unreadCounter.perform anotherCounter).1 ∧
    ((unreadCounter.perform anotherCounter).2.perform reservedWrite).1
      = (unreadCounter.perform reservedWrite).1 ∧
    ((unreadCounter.perform reservedWrite).2.perform anotherCounter).2
      = ((unreadCounter.perform anotherCounter).2.perform reservedWrite).2 ∧
    (unreadCounter.perform anotherCounter).2.view "counter_1" = unreadCounter.view "counter_1" := by
  have hasked : reservedWrite.about = some "counter_1" := rfl
  have hmade : anotherCounter.about = some "counter_2" := by decide +kernel
  have hne : "counter_1" ≠ "counter_2" := by decide
  obtain ⟨hanswer₂, hanswer₁, hstore, -, hframe⟩ :=
    requests_commute unreadCounter hasked hmade hne
  exact ⟨hasked, hmade, hne, hanswer₂, hanswer₁, hstore, hframe _ hne⟩

end ObjectMemory.Store
