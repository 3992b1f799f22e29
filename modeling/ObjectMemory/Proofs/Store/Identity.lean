import ObjectMemory.Proofs.Instance.Agreement
import ObjectMemory.Proofs.Instance.Resaved
import ObjectMemory.Proofs.Message.Calls
import ObjectMemory.Proofs.Store.Dirtiness

/-!
# The id that an instance goes by

An instance has an id of its own, and a document has none: what is read gets the id that it is read
under.  What is cached keeps the id that it came with.  The two are the same unless an instance is
saved under an id that is not its own.  Then it goes by its own id as long as the entry stays, and
by the other one once it is read again.

Nothing else can part them, and only what replaces or drops the entry brings them together.

* `Misnamed` — what is cached under an id has another one;
* `Event.Misnames`, `Event.Renames` — what parts them, and what ends that or any other entry;
* `misnamed_happen` — one event, `misnamed_runEvents` — a whole history;
* `GoesBy` — an instance has the id that it is used under, and so have its answers;
* **`goesBy_iff`** — it does unless it was saved as another one.
-/

namespace ObjectMemory.Store

open Backend Json Message

/-! ## Names that differ -/

section

variable {β : Type} [DocumentStore β] {store after : Store β} {id : String}

/-- What is cached under an id is an instance of another id. -/
def Misnamed (store : Store β) (id : String) : Prop :=
  ∃ entry, (store.view id).entry = some entry ∧ entry.object.id ≠ id

lemma misnamed_of_view (h : after.view id = store.view id) :
    after.Misnamed id ↔ store.Misnamed id := by
  rw [Misnamed, Misnamed, h]

lemma misnamed_of_entry {entry : Entry} (h : (store.view id).entry = some entry) :
    store.Misnamed id ↔ entry.object.id ≠ id := by
  simp [Misnamed, h]

lemma not_misnamed_of_none (h : (store.view id).entry = none) : ¬ store.Misnamed id := by
  simp [Misnamed, h]

lemma misnamed_remember {entry : Entry} :
    (store.remember id entry).Misnamed id ↔ entry.object.id ≠ id :=
  misnamed_of_entry (congrArg View.entry (view_remember_self store id entry))

/-- What is read has the id that it is read under. -/
lemma misnamed_of_demand {entry : Entry} (h : store.demand id = .ok entry) :
    store.Misnamed id ↔ entry.object.id ≠ id := by
  rcases demand_cases h with hcached | ⟨hnone, document, object, -, hread, rfl⟩
  · exact misnamed_of_entry hcached
  · have hown : object.id = id := Instance.decode_id hread
    exact iff_of_false (not_misnamed_of_none hnone) (not_not.mpr hown)

lemma id_iff_of_load {object : Instance} (loaded : (store.load id).1 = .ok object) :
    object.id = id ↔ ¬ store.Misnamed id := by
  obtain ⟨entry, hdemand, rfl⟩ := demand_of_load loaded
  rw [misnamed_of_demand hdemand, not_not]

/-! ## Requests -/

lemma misnamed_load (id : String) : (store.load id).2.Misnamed id ↔ store.Misnamed id := by
  cases hdemand : store.demand id with
  | error error => rw [load_of_error hdemand]
  | ok entry =>
      rw [load_of_demand hdemand, misnamed_remember, misnamed_of_demand hdemand]
      rfl

/-- What leaves the id of the instance alone leaves it in agreement, or not. -/
lemma misnamed_update {α : Type} {edit : Instance → α × Instance}
    (keeps : ∀ object, (edit object).2.id = object.id) (id : String) :
    (store.update id edit).2.Misnamed id ↔ store.Misnamed id := by
  cases hdemand : store.demand id with
  | error error => rw [update_of_error edit hdemand]
  | ok entry =>
      rw [update_of_demand edit hdemand, misnamed_remember, misnamed_of_demand hdemand,
        ← keeps entry.object]
      rfl

lemma misnamed_edit (edit : Edit) (id : String) :
    (store.update id edit.perform).2.Misnamed id ↔ store.Misnamed id :=
  misnamed_update (fun object => (edit.perform_fields object).1) id

lemma misnamed_markDirty (id : String) :
    (store.markDirty id).2.Misnamed id ↔ store.Misnamed id := by
  rw [markDirty]
  split
  · next entry hcached =>
      have hentry : (store.view id).entry = some entry := hcached
      rw [misnamed_remember, misnamed_of_entry hentry]
  · rfl

variable [LawfulDocumentStore β]

lemma misnamed_save (id : String) (object : Instance) :
    (store.save id object).2.Misnamed id ↔
      (store.save id object).1 = .ok () ∧ object.id ≠ id ∨
        store.Misnamed id ∧ ¬ (store.save id object).1 = .ok () := by
  rcases store.save_cases id object with ⟨failure, heq⟩ | ⟨saved, heq, hview, -⟩
  · simp [heq]
  · have hentry : (saved.view id).entry = some (.clean object store.moment) :=
      congrArg View.entry hview
    simp [heq, misnamed_of_entry hentry, Entry.clean, Instance.unmodified]

/-- Writing what is cached is no reason for it to be another instance. -/
lemma misnamed_saveCached (other : String) :
    (store.saveCached other).2.Misnamed id ↔ store.Misnamed id := by
  rcases eq_or_ne id other with rfl | hne
  · rcases store.saveCached_outcome id with
      ⟨-, heq⟩ | ⟨failure, heq⟩ | ⟨entry, saved, hentry, heq, hview, -⟩
    · rw [heq]
    · rw [heq]
    · rw [heq, misnamed_of_entry hentry, misnamed_of_entry (congrArg View.entry hview)]
      rfl
  · exact misnamed_of_view (view_saveCached_of_ne hne)

lemma misnamed_delete (id : String) :
    (store.delete id).2.Misnamed id ↔
      store.Misnamed id ∧ ¬ (store.delete id).1 = .ok () := by
  rcases store.delete_cases id with ⟨failure, heq⟩ | ⟨rest, heq, hview, -⟩
  · simp [heq]
  · simp [heq, not_misnamed_of_none (congrArg View.entry hview)]

/-! ## What parts the names -/

/-- An instance is saved under an id that is not its own. -/
def Request.Misnames (store : Store β) (id : String) : Request → Prop
  | save other object => other = id ∧ (store.save other object).1 = .ok () ∧ object.id ≠ id
  | _ => False

/-- The entry of an id is replaced by that of another instance, or dropped. -/
def Request.Renames (store : Store β) (id : String) : Request → Prop
  | save other object => other = id ∧ (store.save other object).1 = .ok ()
  | create className defaults suffix now =>
    deriveId className suffix = id ∧
      ∃ made, (store.create className defaults suffix now).1 = .ok made
  | delete other => other = id ∧ (store.delete other).1 = .ok ()
  | evict other => other = id
  | clear => True
  | _ => False

omit [LawfulDocumentStore β] in
lemma about_of_misnames {request : Request} (h : request.Misnames store id) :
    request.about = some id := by
  cases request with
  | save other object => exact congrArg some h.1
  | _ => exact h.elim

omit [LawfulDocumentStore β] in
lemma about_of_renames {request : Request} (h : request.Renames store id) :
    request.about = some id ∨ request = .clear := by
  cases request with
  | clear => exact .inr rfl
  | evict other => exact .inl (congrArg some h)
  | save other object | create className defaults suffix now | delete other =>
      exact .inl (congrArg some h.1)
  | _ => exact h.elim

lemma kept_iff {before now : Prop} (h : now ↔ before) : now ↔ False ∨ before ∧ ¬ False := by
  simp [h]

/-- **One request**: the names differ after it if it parts them, or if they did before and it leaves
the entry in place. -/
lemma misnamed_perform (request : Request) (id : String) :
    (store.perform request).2.Misnamed id ↔
      request.Misnames store id ∨ store.Misnamed id ∧ ¬ request.Renames store id := by
  rcases store.view_perform_or_about request id with ⟨other, habout, hne, hview⟩ | hself
  · have hnot : request.about ≠ some id := fun h => hne (Option.some.inj (h.symm.trans habout))
    have hmisnames : ¬ request.Misnames store id := fun h => hnot (about_of_misnames h)
    have hrenames : ¬ request.Renames store id := fun h => by
      rcases about_of_renames h with h | rfl
      · exact hnot h
      · cases habout
    rw [misnamed_of_view hview]
    simp [hmisnames, hrenames]
  cases request with
  | load other =>
      obtain rfl := hself _ rfl
      exact kept_iff (misnamed_load other)
  | save other object =>
      obtain rfl := hself _ rfl
      refine (misnamed_save other object).trans ?_
      simp [Request.Misnames, Request.Renames]
  | saveCached other => exact kept_iff (misnamed_saveCached other)
  | create className defaults suffix now =>
      obtain rfl := hself _ rfl
      refine (misnamed_save _ _).trans ?_
      simp only [Request.Misnames, Request.Renames, create_eq_ok_iff]
      simp [Instance.new]
  | delete other =>
      obtain rfl := hself _ rfl
      refine (misnamed_delete other).trans ?_
      simp [Request.Misnames, Request.Renames]
  | update other edits =>
      obtain rfl := hself _ rfl
      exact kept_iff (misnamed_update (fun object => (Instance.editAll_fields _ object).1) other)
  | setVar other name value =>
      obtain rfl := hself _ rfl
      exact kept_iff (misnamed_edit (.set name value) other)
  | removeVar other name =>
      obtain rfl := hself _ rfl
      exact kept_iff (misnamed_edit (.remove name) other)
  | markDirty other =>
      obtain rfl := hself _ rfl
      exact kept_iff (misnamed_markDirty other)
  | flush =>
      exact kept_iff (flushIds_keeps (P := fun s => s.Misnamed id ↔ store.Misnamed id)
        (fun s other hs => (misnamed_saveCached other).trans hs) _ Iff.rfl)
  | clear =>
      exact iff_of_false (not_misnamed_of_none rfl) (by simp [Request.Misnames, Request.Renames])
  | evict other =>
      obtain rfl := hself _ rfl
      have hnone := congrArg View.entry (view_evict_self store other)
      exact iff_of_false (not_misnamed_of_none hnone) (by simp [Request.Misnames, Request.Renames])
  | findByClass className | tick => exact kept_iff Iff.rfl

end

/-! ## Histories -/

def Event.Misnames (store : Store Memory) (id : String) : Event → Prop
  | request asked => asked.Misnames store id
  | setReadOnly _ => False

def Event.Renames (store : Store Memory) (id : String) : Event → Prop
  | request asked => asked.Renames store id
  | setReadOnly _ => False

/-- An instance of another id was saved under an id, and its entry is still there. -/
def MisnamedSince (start : Store Memory) (events : List Event) (id : String) : Prop :=
  Since (fun store event => event.Misnames store id) (fun store event => event.Renames store id)
    start events

lemma misnamed_happen (store : Store Memory) (event : Event) (id : String) :
    (event.happen store).Misnamed id ↔
      event.Misnames store id ∨ store.Misnamed id ∧ ¬ event.Renames store id := by
  cases event with
  | request asked => exact misnamed_perform asked id
  | setReadOnly readOnly => exact kept_iff Iff.rfl

lemma misnamed_runEvents (backend : Memory) (events : List Event) (id : String) :
    (runEvents (new backend) events).Misnamed id ↔ MisnamedSince (new backend) events id := by
  induction events using List.reverseRecOn with
  | nil => exact iff_of_false (not_misnamed_of_none rfl) not_since_nil
  | append_singleton events event ih =>
      rw [runEvents_concat, misnamed_happen, ih, MisnamedSince, MisnamedSince, since_concat]

/-- It takes an instance that is saved under an id that is not its own. -/
lemma not_misnamedSince {start : Store Memory} {events : List Event} {id : String}
    (own : ∀ other object, .request (.save other object) ∈ events → object.id = other) :
    ¬ MisnamedSince start events id := by
  intro h
  obtain ⟨event, hmem, store, hmisnames⟩ := exists_mem_of_since h
  cases event with
  | request asked =>
      cases asked with
      | save other object =>
          obtain ⟨rfl, -, hne⟩ := hmisnames
          exact hne (own _ object hmem)
      | _ => exact hmisnames
  | setReadOnly readOnly => exact hmisnames

/-! ## Answers -/

/-- An instance has the id that it is used under, and all that it is asked about itself says so. -/
structure GoesBy (store : Store Memory) (id : String) (object : Instance) : Prop where
  own : object.id = id
  asked : ∀ arguments,
    (store.update id (Registry.builtin.dispatch "id" arguments)).1 = .ok (.handled id)
  yourself : ∀ arguments,
    (store.update id (Registry.builtin.dispatch "yourself" arguments)).1 = .ok (.handled id)
  printed : ∀ arguments,
    (store.update id (Registry.builtin.dispatch "printString" arguments)).1
      = .ok (.handled ("<" ++ object.className ++ " " ++ id ++ ">"))

variable {store : Store Memory} {id : String} {object : Instance}

/-- What every object answers, an instance answers that is used. -/
lemma answer_of_load (loaded : (store.load id).1 = .ok object) {selector : String}
    {about : Instance → String} (h : (selector, Builtin.answering about) ∈ Builtin.objectBehaviors)
    (arguments : List Value) :
    (store.update id (Registry.builtin.dispatch selector arguments)).1
      = .ok (.handled (about object)) := by
  refine update_eq_ok_iff.mpr ⟨object, loaded, ?_⟩
  rw [(Registry.builtin_serves_object object.className).dispatch h rfl]

lemma goesBy_of_load (loaded : (store.load id).1 = .ok object) (own : object.id = id) :
    store.GoesBy id object := by
  subst own
  have hasked : ("id", Builtin.answering Instance.id) ∈ Builtin.objectBehaviors := by
    simp [Builtin.objectBehaviors]
  have hyourself : ("yourself", Builtin.answering Instance.id) ∈ Builtin.objectBehaviors := by
    simp [Builtin.objectBehaviors]
  have hprinted : ("printString", Builtin.answering fun object =>
      "<" ++ object.className ++ " " ++ object.id ++ ">") ∈ Builtin.objectBehaviors := by
    simp [Builtin.objectBehaviors]
  exact ⟨rfl, answer_of_load loaded hasked, answer_of_load loaded hyourself,
    answer_of_load loaded hprinted⟩

/-- **An instance goes by the id that it is used under**, whether it was cached or has just been
read, unless it was saved under an id that is not its own, and its entry is still there.  It does
without exception if instances are saved under their own ids. -/
theorem goesBy_iff (backend : Memory) (events : List Event) {id : String} {object : Instance}
    (loaded : ((runEvents (new backend) events).load id).1 = .ok object) :
    ((runEvents (new backend) events).GoesBy id object ↔ ¬ MisnamedSince (new backend) events id) ∧
    ((∀ other saved, .request (.save other saved) ∈ events → saved.id = other) →
      (runEvents (new backend) events).GoesBy id object) := by
  have hiff : (runEvents (new backend) events).GoesBy id object
      ↔ ¬ MisnamedSince (new backend) events id := by
    rw [← misnamed_runEvents, ← id_iff_of_load loaded]
    exact ⟨GoesBy.own, goesBy_of_load loaded⟩
  exact ⟨hiff, fun own => hiff.mpr (not_misnamedSince own)⟩

/-- A counter that is saved under its own id, changed, written and dropped. -/
def droppedCounter : List Event :=
  [.request (.save "counter_1" (.new "counter_1" "Counter" .epoch .empty)),
    .request (.setVar "counter_1" "n" .null), .request .flush, .request (.evict "counter_1")]

/-- A counter that is saved under an id that is not its own. -/
def strayCounter : List Event :=
  [.request (.save "counter_1" (.new "counter_2" "Counter" .epoch .empty)),
    .request (.setVar "counter_1" "n" .null), .request .flush]

theorem goesBy_iff_counters :
    (∃ object, ((runEvents (new Memory.empty) droppedCounter).load "counter_1").1 = .ok object ∧
      (runEvents (new Memory.empty) droppedCounter).GoesBy "counter_1" object) ∧
    ∃ object, ((runEvents (new Memory.empty) strayCounter).load "counter_1").1 = .ok object ∧
      MisnamedSince (new Memory.empty) strayCounter "counter_1" := by
  have hdropped : ((runEvents (new Memory.empty) droppedCounter).load "counter_1").1.toOption.isSome
      = true := by decide +kernel
  have hstray : ((runEvents (new Memory.empty) strayCounter).load "counter_1").1.toOption.map
      Instance.id = some "counter_2" := by decide +kernel
  obtain ⟨object, hobject⟩ := Option.isSome_iff_exists.mp hdropped
  obtain ⟨other, hother, hid⟩ := Option.map_eq_some_iff.mp hstray
  have hloaded := of_toOption_some hobject
  have hloaded' := of_toOption_some hother
  refine ⟨⟨object, hloaded, (goesBy_iff _ _ hloaded).2 ?_⟩, other, hloaded', ?_⟩
  · intro id saved hmem
    simp only [droppedCounter, List.mem_cons, List.not_mem_nil, or_false, Event.request.injEq,
      Request.save.injEq, reduceCtorEq] at hmem
    obtain ⟨rfl, rfl⟩ := hmem
    rfl
  · by_contra hnot
    have hown := ((goesBy_iff _ _ hloaded').1.mpr hnot).own
    exact absurd (hid.symm.trans hown) (by decide)

/-- The counter that was saved under another id goes by its own one, and by the other one as soon as
it is dropped and read again. -/
theorem strayCounter_misnamed :
    (∃ object, ((runEvents (new Memory.empty) strayCounter).load "counter_1").1 = .ok object ∧
      object.id = "counter_2") ∧
    ((runEvents (new Memory.empty) strayCounter).update "counter_1"
      (Registry.builtin.dispatch "id" [])).1.toOption = some (.handled "counter_2") ∧
    ((runEvents (new Memory.empty) strayCounter).update "counter_1"
      (Registry.builtin.dispatch "printString" [])).1.toOption
        = some (.handled "<Counter counter_2>") ∧
    ∃ object, ((runEvents (new Memory.empty)
        (strayCounter ++ [.request (.evict "counter_1")])).load "counter_1").1 = .ok object ∧
      object.id = "counter_1" := by
  have hcached : ((runEvents (new Memory.empty) strayCounter).load "counter_1").1.toOption.map
      Instance.id = some "counter_2" := by decide +kernel
  have hread : ((runEvents (new Memory.empty)
      (strayCounter ++ [.request (.evict "counter_1")])).load "counter_1").1.toOption.map
        Instance.id = some "counter_1" := by decide +kernel
  obtain ⟨object, hobject, hid⟩ := Option.map_eq_some_iff.mp hcached
  obtain ⟨again, hagain, hid'⟩ := Option.map_eq_some_iff.mp hread
  exact ⟨⟨object, of_toOption_some hobject, hid⟩, by decide +kernel, by decide +kernel,
    again, of_toOption_some hagain, hid'⟩

end ObjectMemory.Store
