import ObjectMemory.Proofs.Backend.Faithful
import ObjectMemory.Proofs.Store.Flush
import ObjectMemory.Proofs.Store.Requests

/-!
# Document stores can be exchanged

Two stores of instances go alike if their caches are the same and their document stores keep the
same instances (`Twins`), whatever the document stores are like inside.  A request finds the same
entry in both, or reads the same document.  It writes the same document, which neither refuses, and
both document stores keep one instance more.  Only the order of the ids of a class may be another,
so answers are compared up to that.

Nothing is refused because every instance that is cached is readable, and this is all that is asked
of the values in requests: that a document has room for them.

* `Twins` — two stores that go alike; `Agree` — two operations on them;
* `Twins.load`, `Twins.update`, `Twins.save`, … — each operation; `Twins.perform`, `Twins.run` —
  requests;
* `Answer.Alike`, `Request.Shallow`, `SameDocuments` — what is compared, and what is asked;
* `Indistinguishable` — what two stores show and leave behind;
* **`backends_interchangeable`** — documents in memory and documents in a table.
-/

namespace ObjectMemory.Store

open Backend Json

variable {α β γ : Type} [DocumentStore α] [FaithfulDocumentStore α] [DocumentStore β]
  [FaithfulDocumentStore β]

/-- Two stores with the same cache over document stores that keep the same instances. -/
structure Twins (a : Store α) (b : Store β) : Prop where
  cache : a.cache = b.cache
  moment : a.moment = b.moment
  readable : ∀ entry ∈ a.cache.entries, entry.2.object.Readable
  saved : ∃ saved, FaithfulDocumentStore.Keeps a.backend saved ∧
    FaithfulDocumentStore.Keeps b.backend saved

/-- Two operations that answer the same and leave twins. -/
structure Agree (x : γ × Store α) (y : γ × Store β) : Prop where
  answer : x.1 = y.1
  stores : Twins x.2 y.2

variable {a : Store α} {b : Store β}

lemma new_twins {x : α} {y : β} (hx : FaithfulDocumentStore.Keeps x .empty)
    (hy : FaithfulDocumentStore.Keeps y .empty) : Twins (new x) (new y) :=
  ⟨rfl, rfl, fun _ h => (by cases h), .empty, hx, hy⟩

/-! ## Entries -/

lemma Twins.remember (h : Twins a b) (id : String) (entry : Entry)
    (readable : entry.object.Readable) : Twins (a.remember id entry) (b.remember id entry) where
  cache := congrArg (·.insert id entry) h.cache
  moment := h.moment
  readable := SortedMap.forall_insert id (P := fun e : Entry => e.object.Readable) readable h.readable
  saved := h.saved

lemma Twins.rememberClean (h : Twins a b) (id : String) {object : Instance}
    (readable : object.Readable) :
    Twins (a.remember id (.clean object a.moment)) (b.remember id (.clean object b.moment)) := by
  rw [← h.moment]
  exact h.remember id (.clean object a.moment) readable.unmodified

lemma Twins.entry_readable (h : Twins a b) {id : String} {entry : Entry}
    (hentry : a.cache.get? id = some entry) : entry.object.Readable :=
  h.readable _ (SortedMap.mem_entries_iff.mpr hentry)

lemma Twins.erase_readable (h : Twins a b) (id : String) :
    ∀ entry ∈ (a.cache.erase id).entries, entry.2.object.Readable :=
  SortedMap.forall_erase id (P := fun e : Entry => e.object.Readable) h.readable

lemma Twins.get (h : Twins a b) (id : String) :
    DocumentStore.get a.backend id = DocumentStore.get b.backend id := by
  obtain ⟨saved, ha, hb⟩ := h.saved
  rw [FaithfulDocumentStore.get_eq ha, FaithfulDocumentStore.get_eq hb]

lemma Twins.demand (h : Twins a b) (id : String) : a.demand id = b.demand id := by
  rw [Store.demand, Store.demand, fetch, fetch, h.cache, h.moment, h.get]

lemma Twins.demand_readable (h : Twins a b) {id : String} {entry : Entry}
    (hdemand : a.demand id = .ok entry) : entry.object.Readable := by
  rcases demand_cases hdemand with hcached | ⟨-, document, object, -, hdecode, rfl⟩
  · exact h.entry_readable hcached
  · exact (Instance.decode_readable hdecode).unmodified

lemma Twins.load (h : Twins a b) (id : String) : Agree (a.load id) (b.load id) := by
  cases hdemand : a.demand id with
  | error error =>
      rw [load_of_error hdemand, load_of_error ((h.demand id).symm.trans hdemand)]
      exact ⟨rfl, h⟩
  | ok entry =>
      rw [load_of_demand hdemand, load_of_demand ((h.demand id).symm.trans hdemand), ← h.moment]
      have hreadable : entry.object.Readable := h.demand_readable hdemand
      exact ⟨rfl, h.remember id (entry.touch a.moment) hreadable⟩

lemma Twins.update (h : Twins a b) (id : String) {edit : Instance → γ × Instance}
    (keeps : ∀ object, object.Readable → (edit object).2.Readable) :
    Agree (a.update id edit) (b.update id edit) := by
  cases hdemand : a.demand id with
  | error error =>
      rw [update_of_error edit hdemand, update_of_error edit ((h.demand id).symm.trans hdemand)]
      exact ⟨rfl, h⟩
  | ok entry =>
      rw [update_of_demand edit hdemand, update_of_demand edit ((h.demand id).symm.trans hdemand),
        ← h.moment]
      have hedited : (edit entry.object).2.Readable := keeps _ (h.demand_readable hdemand)
      exact ⟨rfl, h.remember id (entry.edited _ a.moment) hedited.unmodified⟩

lemma Twins.setVar (h : Twins a b) (id name : String) {value : Value}
    (containable : value.Containable) : Agree (a.setVar id name value) (b.setVar id name value) :=
  have hupdate := h.update id fun _ hobject =>
    Edit.readable (show (Edit.set name value).Containable from containable) hobject
  ⟨congrArg flatten hupdate.answer, hupdate.stores⟩

lemma Twins.removeVar (h : Twins a b) (id name : String) :
    Agree (a.removeVar id name) (b.removeVar id name) :=
  have hupdate := h.update id fun _ hobject =>
    Edit.readable (show (Edit.remove name).Containable from trivial) hobject
  ⟨congrArg flatten hupdate.answer, hupdate.stores⟩

lemma Twins.markDirty (h : Twins a b) (id : String) : Agree (a.markDirty id) (b.markDirty id) := by
  rw [Store.markDirty, Store.markDirty, ← h.cache]
  cases hentry : a.cache.get? id with
  | none => exact ⟨rfl, h⟩
  | some entry =>
      have hreadable : entry.object.Readable := h.entry_readable hentry
      exact ⟨rfl, h.remember id { entry with dirty := true } hreadable⟩

lemma Twins.evict (h : Twins a b) (id : String) : Agree (a.evict id) (b.evict id) where
  answer := by rw [Store.evict, Store.evict, isCached, isCached, h.cache]
  stores :=
    { cache := congrArg (·.erase id) h.cache
      moment := h.moment
      readable := h.erase_readable id
      saved := h.saved }

lemma Twins.clear (h : Twins a b) : Twins a.clear b.clear :=
  ⟨rfl, h.moment, fun _ hentry => (by cases hentry), h.saved⟩

lemma Twins.tick (h : Twins a b) : Twins a.tick b.tick :=
  ⟨h.cache, congrArg (· + 1) h.moment, h.readable, h.saved⟩

/-! ## Writing -/

/-- A readable instance is written in both stores. -/
lemma Twins.save (h : Twins a b) (id : String) {object : Instance} (readable : object.Readable) :
    Agree (a.save id object) (b.save id object) := by
  obtain ⟨saved, ha, hb⟩ := h.saved
  obtain ⟨x, hputx, hx⟩ := FaithfulDocumentStore.put_ok ha id readable
  obtain ⟨y, hputy, hy⟩ := FaithfulDocumentStore.put_ok hb id readable
  have hwritten : Twins { a with backend := x } { b with backend := y } :=
    ⟨h.cache, h.moment, h.readable, _, hx, hy⟩
  rw [Store.save, Store.save, hputx, hputy]
  exact ⟨rfl, hwritten.rememberClean id readable⟩

lemma Twins.saveCached (h : Twins a b) (id : String) :
    Agree (a.saveCached id) (b.saveCached id) := by
  rw [Store.saveCached, Store.saveCached, ← h.cache]
  cases hentry : a.cache.get? id with
  | none => exact ⟨rfl, h⟩
  | some entry => exact h.save id (h.entry_readable hentry)

lemma Twins.create (h : Twins a b) (className : String) {defaults : Object} (suffix : String)
    (now : Timestamp) (containable : ∀ m ∈ defaults.entries, m.2.Containable) :
    Agree (a.create className defaults suffix now) (b.create className defaults suffix now) := by
  have hsave := h.save (deriveId className suffix)
    (Instance.new_readable (deriveId className suffix) className now containable)
  refine ⟨?_, hsave.stores⟩
  show (a.save (deriveId className suffix) _).1.map _ = (b.save (deriveId className suffix) _).1.map _
  rw [hsave.answer]

lemma Twins.delete (h : Twins a b) (id : String) : Agree (a.delete id) (b.delete id) := by
  obtain ⟨saved, ha, hb⟩ := h.saved
  obtain ⟨x, hdeletex, hx⟩ := FaithfulDocumentStore.delete_ok ha id
  obtain ⟨y, hdeletey, hy⟩ := FaithfulDocumentStore.delete_ok hb id
  rw [Store.delete, Store.delete, hdeletex, hdeletey]
  exact ⟨rfl, congrArg (·.erase id) h.cache, h.moment, h.erase_readable id, _, hx, hy⟩

lemma Twins.dirtyIds (h : Twins a b) : a.dirtyIds = b.dirtyIds := by
  rw [Store.dirtyIds, Store.dirtyIds, h.cache]

lemma flushIds_agree (ids : List String) : ∀ {a : Store α} {b : Store β}, Twins a b →
    Agree (a.flushIds ids) (b.flushIds ids) := by
  induction ids with
  | nil => exact fun h => ⟨rfl, h⟩
  | cons id rest ih =>
      intro a b h
      have hsaved := h.saveCached id
      rw [flushIds, flushIds]
      rcases ha : a.saveCached id with ⟨answer, a'⟩
      rcases hb : b.saveCached id with ⟨other, b'⟩
      rw [ha, hb] at hsaved
      obtain rfl : answer = other := hsaved.answer
      cases answer with
      | error error => exact ⟨rfl, hsaved.stores⟩
      | ok answer =>
          have hrest := ih hsaved.stores
          exact ⟨congrArg (Except.map (· + 1)) hrest.answer, hrest.stores⟩

lemma Twins.flush (h : Twins a b) : Agree a.flush b.flush := by
  rw [Store.flush, Store.flush, ← h.dirtyIds]
  exact flushIds_agree a.dirtyIds h

lemma settleIds_agree (ids : List String) : ∀ {a : Store α} {b : Store β}, Twins a b →
    Agree (a.settleIds ids) (b.settleIds ids) := by
  induction ids with
  | nil => exact fun h => ⟨rfl, h⟩
  | cons id rest ih =>
      intro a b h
      have hsaved := h.saveCached id
      rw [settleIds, settleIds]
      rcases ha : a.saveCached id with ⟨answer, a'⟩
      rcases hb : b.saveCached id with ⟨other, b'⟩
      rw [ha, hb] at hsaved
      obtain rfl : answer = other := hsaved.answer
      have hrest := ih hsaved.stores
      cases answer with
      | error error =>
          exact ⟨congrArg (fun r : ℕ × List FlushFailure => (r.1, ⟨id, error⟩ :: r.2))
            hrest.answer, hrest.stores⟩
      | ok answer =>
          exact ⟨congrArg (fun r : ℕ × List FlushFailure => (r.1 + 1, r.2)) hrest.answer,
            hrest.stores⟩

/-! ## What is left behind -/

/-- Two document stores have the same documents, all of which are JSON objects. -/
def SameDocuments (x : α) (y : β) : Prop :=
  ∀ id, ∃ found, DocumentStore.get x id = .ok found ∧ DocumentStore.get y id = .ok found ∧
    ∀ document ∈ found, ∃ object, decodeObject document = .ok object

lemma Twins.documents (h : Twins a b) : SameDocuments a.backend b.backend := by
  intro id
  obtain ⟨saved, ha, hb⟩ := h.saved
  refine ⟨_, FaithfulDocumentStore.get_eq ha id, FaithfulDocumentStore.get_eq hb id, ?_⟩
  intro document hdocument
  obtain ⟨object, hobject, rfl⟩ := Option.map_eq_some_iff.mp hdocument
  have hreadable := FaithfulDocumentStore.readable ha _ (SortedMap.mem_entries_iff.mpr hobject)
  exact ⟨_, hreadable.decodeObject_encode⟩

/-- What two stores show of their caches, and what they leave behind, now and once they are
closed. -/
structure Indistinguishable (a : Store α) (b : Store β) : Prop where
  entries : ∀ id, a.inspect id = b.inspect id
  dirtyIds : a.dirtyIds = b.dirtyIds
  stats : a.stats = b.stats
  documents : SameDocuments a.backend b.backend
  report : a.close.1 = b.close.1
  closed : SameDocuments a.close.2 b.close.2

lemma Twins.indistinguishable (h : Twins a b) : Indistinguishable a b where
  entries id := congrArg (·.get? id) h.cache
  dirtyIds := h.dirtyIds
  stats := by rw [Store.stats, Store.stats, h.cache]
  documents := h.documents
  report := by
    have hsettled := settleIds_agree b.dirtyIds h
    obtain ⟨saved, ha, hb⟩ := hsettled.stores.saved
    simp only [close, h.dirtyIds, hsettled.answer, FaithfulDocumentStore.close_ok ha,
      FaithfulDocumentStore.close_ok hb]
  closed := by
    rw [close_backend, close_backend, ← h.dirtyIds]
    exact (settleIds_agree a.dirtyIds h).stores.documents

/-! ## Requests -/

/-- Answers are the same but for the order of the ids of a class. -/
def Answer.Alike : Answer → Answer → Prop
  | listed (.ok ids), listed (.ok others) => ids.Perm others
  | answer, other => answer = other

lemma Answer.alike_of_eq {answer other : Answer} (h : answer = other) : answer.Alike other := by
  subst h
  cases answer with
  | listed outcome =>
      cases outcome with
      | ok ids => exact List.Perm.refl ids
      | error error => exact rfl
  | _ => exact rfl

/-- Every value in a request is one that a document has room for. -/
def Request.Shallow : Request → Prop
  | save _ object => object.Made ∧ ∀ m ∈ object.data.entries, m.2.depth < depthLimit
  | create _ defaults _ _ => ∀ m ∈ defaults.entries, m.2.Containable
  | update _ edits => ∀ object, ∀ edit ∈ edits object, edit.Containable
  | setVar _ _ value => value.Containable
  | _ => True

/-- Two document stores that keep the same instances list the same ids of a class. -/
lemma Twins.findByClass (h : Twins a b) (className : String) :
    (Answer.listed (a.findByClass className)).Alike (.listed (b.findByClass className)) := by
  obtain ⟨saved, ha, hb⟩ := h.saved
  obtain ⟨ids, hids, hnodup, hmem⟩ := FaithfulDocumentStore.findByClass_ok ha className
  obtain ⟨others, hothers, hnodup', hmem'⟩ := FaithfulDocumentStore.findByClass_ok hb className
  rw [Store.findByClass, Store.findByClass, hids, hothers]
  exact (List.perm_ext_iff_of_nodup hnodup hnodup').mpr fun id => (hmem id).trans (hmem' id).symm

lemma Agree.wrap {x : γ × Store α} {y : γ × Store β} (h : Agree x y) (tag : γ → Answer) :
    (Answer.wrap tag x).1.Alike (Answer.wrap tag y).1 ∧
      Twins (Answer.wrap tag x).2 (Answer.wrap tag y).2 :=
  ⟨Answer.alike_of_eq (congrArg tag h.answer), h.stores⟩

/-- **A request goes alike in twins** and leaves twins. -/
lemma Twins.perform (h : Twins a b) {request : Request} (shallow : request.Shallow) :
    (a.perform request).1.Alike (b.perform request).1 ∧
      Twins (a.perform request).2 (b.perform request).2 := by
  cases request with
  | load id => exact (h.load id).wrap _
  | save id object => exact (h.save id (shallow.1.readable shallow.2)).wrap _
  | saveCached id => exact (h.saveCached id).wrap _
  | create className defaults suffix now => exact (h.create className suffix now shallow).wrap _
  | delete id => exact (h.delete id).wrap _
  | update id edits =>
      exact (h.update id fun object hobject => editAll_readable (shallow object) hobject).wrap _
  | setVar id name value => exact (h.setVar id name shallow).wrap _
  | removeVar id name => exact (h.removeVar id name).wrap _
  | markDirty id => exact (h.markDirty id).wrap _
  | flush => exact h.flush.wrap _
  | clear => exact ⟨Answer.alike_of_eq rfl, h.clear⟩
  | evict id => exact (h.evict id).wrap _
  | findByClass className => exact ⟨h.findByClass className, h⟩
  | tick => exact ⟨Answer.alike_of_eq rfl, h.tick⟩

lemma Twins.run (h : Twins a b) {requests : List Request}
    (shallow : ∀ request ∈ requests, request.Shallow) :
    List.Forall₂ Answer.Alike (a.run requests).1 (b.run requests).1 ∧
      Twins (a.run requests).2 (b.run requests).2 := by
  induction requests generalizing a b with
  | nil => exact ⟨.nil, h⟩
  | cons request rest ih =>
      obtain ⟨hfirst, hrest⟩ := List.forall_mem_cons.mp shallow
      obtain ⟨hanswer, hstep⟩ := h.perform hfirst
      obtain ⟨hanswers, hrun⟩ := ih hstep hrest
      exact ⟨.cons hanswer hanswers, hrun⟩

/-- **Documents in memory and documents in a table are interchangeable** below a store of instances:
from nothing on, any requests are answered alike, and whenever they stop, the two caches are the
same, the same documents are there under each id, and closing the stores goes the same way and
leaves the same documents. -/
theorem backends_interchangeable {requests : List Request}
    (shallow : ∀ request ∈ requests, request.Shallow) :
    List.Forall₂ Answer.Alike ((new Memory.empty).run requests).1 ((new Table.empty).run requests).1 ∧
      Indistinguishable ((new Memory.empty).run requests).2 ((new Table.empty).run requests).2 := by
  have hstart : Twins (new Memory.empty) (new Table.empty) :=
    new_twins Memory.empty_keeps Table.empty_keeps
  obtain ⟨hanswers, htwins⟩ := hstart.run shallow
  exact ⟨hanswers, htwins.indistinguishable⟩

/-- Two counters, the later one with the lesser id, that are changed, saved, read again and deleted,
and an instance that is saved under another id than its own. -/
def counterTraffic : List Request :=
  [.create "Counter" (.ofList [("n", .bool true)]) "2" .epoch, .create "Counter" .empty "1" .epoch,
    .setVar "counter_2" "n" (.arr [.str "\x00", .null]), .setVar "counter_2" "class" .null,
    .findByClass "Counter", .flush, .clear, .load "counter_2", .delete "counter_2",
    .load "counter_2", .save "copy_1" Instance.leapCounter, .markDirty "copy_1"]

/-- The requests before the ids of a class are listed. -/
def listedTraffic : List Request := counterTraffic.take 4

lemma counterTraffic_shallow : ∀ request ∈ counterTraffic, request.Shallow := by
  have hdefaults : ∀ m ∈ (SortedMap.ofList [("n", Value.bool true)]).entries,
      m.2.Containable := by decide +kernel
  have hcopy : ∀ m ∈ Instance.leapCounter.data.entries, m.2.depth < depthLimit := by
    decide +kernel
  have hvalue : (Value.arr [.str "\x00", .null]).Containable := by decide +kernel
  simp only [counterTraffic, List.forall_mem_cons, Request.Shallow, true_and]
  refine ⟨hdefaults, fun _ h => (by cases h), hvalue, by decide +kernel,
    ⟨Instance.leapCounter_made, hcopy⟩, fun _ h => (by cases h)⟩

theorem backends_interchangeable_counterTraffic :
    (∀ request ∈ counterTraffic, request.Shallow) ∧
    List.Forall₂ Answer.Alike ((new Memory.empty).run counterTraffic).1
      ((new Table.empty).run counterTraffic).1 ∧
    Indistinguishable ((new Memory.empty).run counterTraffic).2
      ((new Table.empty).run counterTraffic).2 ∧
    ((new Memory.empty).run counterTraffic).2.dirtyIds = ["copy_1"] ∧
    ((new Memory.empty).run listedTraffic).2.findByClass "Counter"
      = .ok ["counter_1", "counter_2"] ∧
    ((new Table.empty).run listedTraffic).2.findByClass "Counter"
      = .ok ["counter_2", "counter_1"] := by
  obtain ⟨hanswers, hstores⟩ := backends_interchangeable counterTraffic_shallow
  exact ⟨counterTraffic_shallow, hanswers, hstores, by decide +kernel, by decide +kernel,
    by decide +kernel⟩

end ObjectMemory.Store
