import ObjectMemory.Proofs.Instance.Agreement
import ObjectMemory.Proofs.Store.Marks

/-!
# What is left of a failure

An operation can fail at several points: there is no instance, or no readable document, or the
document store refuses, or the name is reserved.  Wherever it does, nothing was changed before.
There is one thing that a failure can leave, and it is no change of what the store has: an edit of a
reserved name is refused by the instance, which had to be read for that, and stays cached.

* `Store.shown`, `Alike` — what is cached of an id, and stores that differ in times of use only;
* `RefusedEdit` — what an edit of a variable that failed leaves;
* `refusedEdit_of_error` — such an edit never gets further;
* **`failure_changes_nothing`** — all operations.
-/

namespace ObjectMemory.Store

open Backend Json

variable {β : Type} [DocumentStore β]

/-- The instance that is cached of an id, and whether it is dirty. -/
def shown (store : Store β) (id : String) : Option (Instance × Bool) :=
  (store.inspect id).map fun entry => (entry.object, entry.dirty)

/-- The documents are the same, and what is cached is, but for when it was used. -/
def Alike (store after : Store β) : Prop :=
  after.backend = store.backend ∧ ∀ id, after.shown id = store.shown id

/-- What is left after an edit of a variable failed. -/
structure RefusedEdit (store after : Store β) (id : String) (error : Error) : Prop where
  /-- Nothing changes if the instance was cached, or if the name is not what is wrong. -/
  alike : store.isCached id = true ∨ (∀ field, error ≠ .reserved field) → Alike store after
  /-- An instance that was read and then refused the name stays cached as a clean entry. -/
  read : store.isCached id = false → ∀ field, error = .reserved field →
    ∃ document object, DocumentStore.get store.backend id = .ok (some document) ∧
      Instance.decode id document = .ok object ∧ after.backend = store.backend ∧
      after.shown id = some (object, false) ∧
      ∀ other, other ≠ id → after.shown other = store.shown other

variable {store : Store β} {id : String}

omit [DocumentStore β] in
lemma shown_remember_self (entry : Entry) :
    (store.remember id entry).shown id = some (entry.object, entry.dirty) := by
  rw [shown, inspect, remember, SortedMap.get?_insert_self, Option.map_some]

omit [DocumentStore β] in
lemma shown_remember_of_ne (entry : Entry) {other : String} (hne : other ≠ id) :
    (store.remember id entry).shown other = store.shown other := by
  rw [shown, inspect, remember, SortedMap.get?_insert_of_ne hne, shown, inspect]

lemma ne_reserved_of_fetch {error : Error} (h : store.fetch id = .error error)
    (field : ReservedField) : error ≠ .reserved field := by
  rw [fetch] at h
  cases hget : DocumentStore.get store.backend id with
  | error failure =>
      rw [hget] at h
      obtain rfl := Except.error.inj h
      simp
  | ok found =>
      rw [hget] at h
      cases found with
      | none =>
          obtain rfl := Except.error.inj h
          simp
      | some document =>
          dsimp only at h
          cases hread : Instance.decode id document with
          | ok object =>
              rw [hread] at h
              cases h
          | error unread =>
              rw [hread] at h
              obtain rfl := Except.error.inj h
              simp

/-- An instance that cannot be had is not one that refuses a name. -/
lemma ne_reserved_of_demand {error : Error} (h : store.demand id = .error error)
    (field : ReservedField) : error ≠ .reserved field := by
  rw [demand] at h
  cases hcached : store.cache.get? id with
  | some entry =>
      rw [hcached] at h
      cases h
  | none =>
      rw [hcached] at h
      cases hfetch : store.fetch id with
      | ok object =>
          rw [hfetch] at h
          cases h
      | error failed =>
          rw [hfetch] at h
          obtain rfl := Except.error.inj h
          exact ne_reserved_of_fetch hfetch field

/-! ## Edits of a variable -/

/-- What refuses the names of standard fields, and leaves the instance alone then. -/
def Refuses {α : Type} (edit : Instance → Except ReservedField α × Instance) : Prop :=
  ∀ object field, (edit object).1 = .error field → (edit object).2 = object

lemma refuses_set (name : String) (value : Value) : Refuses (Instance.set name value) := by
  intro object field h
  rw [Instance.set] at h ⊢
  split_ifs at h ⊢
  rfl

lemma refuses_remove (name : String) : Refuses (Instance.remove name) := by
  intro object field h
  rw [Instance.remove] at h ⊢
  split_ifs at h ⊢ with hname
  · rfl
  · split at h <;> cases h

/-- An edit that fails has no instance to change, or the instance refuses it. -/
lemma refusedEdit_of_error {α : Type} (unmarked : store.Unmarked)
    {edit : Instance → Except ReservedField α × Instance} (refuses : Refuses edit) {error : Error}
    (h : flatten (store.update id edit).1 = .error error) :
    RefusedEdit store (store.update id edit).2 id error := by
  cases hdemand : store.demand id with
  | error missing =>
      rw [update_of_error edit hdemand] at h ⊢
      obtain rfl := Except.error.inj h
      exact ⟨fun _ => ⟨rfl, fun _ => rfl⟩, fun _ field hfield =>
        absurd hfield (ne_reserved_of_demand hdemand field)⟩
  | ok entry =>
      rw [update_of_demand edit hdemand] at h ⊢
      cases hedit : (edit entry.object).1 with
      | ok answer =>
          rw [hedit] at h
          cases h
      | error field =>
          rw [hedit] at h
          obtain rfl := Except.error.inj h
          have hmark := unmarked.demand hdemand
          -- what the instance refused is the same entry again, used now
          have hentry : entry.edited (edit entry.object).2 store.moment
              = entry.touch store.moment := by
            rw [refuses _ _ hedit, Entry.edited, hmark, Bool.or_false,
              Instance.unmodified_eq hmark, Entry.touch]
          have hothers : ∀ other, other ≠ id →
              (store.remember id (entry.touch store.moment)).shown other = store.shown other :=
            fun other hne => shown_remember_of_ne _ hne
          rw [hentry]
          rcases demand_cases hdemand with hcached | ⟨hnone, document, object, hget, hread, rfl⟩
          · refine ⟨fun _ => ⟨rfl, fun other => ?_⟩, fun huncached => ?_⟩
            · rcases eq_or_ne other id with rfl | hne
              · rw [shown_remember_self, shown, inspect,
                  show store.cache.get? other = some entry from hcached]
                rfl
              · exact hothers other hne
            · rw [isCached_eq_isSome, hcached] at huncached
              cases huncached
          · refine ⟨?_, fun _ _ _ => ⟨document, object, hget, hread, rfl, ?_, hothers⟩⟩
            · rintro (hcached | hother)
              · rw [isCached_eq_isSome, hnone] at hcached
                cases hcached
              · exact absurd rfl (hother field)
            · rw [shown_remember_self, Entry.touch, Entry.clean,
                Instance.unmodified_eq (Instance.decode_unmodified hread)]

/-! ## All operations -/

/-- **A failure changes nothing.**  Loading, saving, creating and deleting leave the store as it was
when they fail, and so do edits of a variable, with the one exception of an instance that was read
only to find that the name is reserved. -/
theorem failure_changes_nothing (unmarked : store.Unmarked) (id : String) :
    (∀ error, (store.load id).1 = .error error → (store.load id).2 = store) ∧
    (∀ object error, (store.save id object).1 = .error error → (store.save id object).2 = store) ∧
    (∀ error, (store.saveCached id).1 = .error error → (store.saveCached id).2 = store) ∧
    (∀ className defaults suffix now error,
      (store.create className defaults suffix now).1 = .error error →
        (store.create className defaults suffix now).2 = store) ∧
    (∀ error, (store.delete id).1 = .error error → (store.delete id).2 = store) ∧
    (∀ name value error, (store.setVar id name value).1 = .error error →
      RefusedEdit store (store.setVar id name value).2 id error) ∧
    ∀ name error, (store.removeVar id name).1 = .error error →
      RefusedEdit store (store.removeVar id name).2 id error := by
  have hsave : ∀ id object error, (store.save id object).1 = .error error →
      (store.save id object).2 = store := by
    intro id object error h
    rw [save] at h ⊢
    split at h
    · rfl
    · cases h
  refine ⟨fun error h => ?_, hsave id, fun error h => ?_,
    fun className defaults suffix now error h => ?_, fun error h => ?_,
    fun name value error h => ?_, fun name error h => ?_⟩
  · cases hdemand : store.demand id with
    | error missing => rw [load_of_error hdemand]
    | ok entry =>
        rw [load_of_demand hdemand] at h
        cases h
  · rcases store.saveCached_cases id with ⟨-, heq⟩ | ⟨entry, -, heq⟩
    · rw [heq]
    · rw [heq] at h ⊢
      exact hsave id entry.object error h
  · have hsaved := hsave (deriveId className suffix)
      (Instance.new (deriveId className suffix) className now defaults)
    rw [create] at h ⊢
    rcases heq : store.save (deriveId className suffix)
      (Instance.new (deriveId className suffix) className now defaults) with ⟨answer, saved⟩
    rw [heq] at h hsaved
    cases answer with
    | error failure => exact hsaved failure rfl
    | ok done => cases h
  · rw [delete] at h ⊢
    split at h
    · rfl
    · cases h
  · exact refusedEdit_of_error unmarked (refuses_set name value) h
  · exact refusedEdit_of_error unmarked (refuses_remove name) h

/-- A store that has a counter as a document only. -/
def unreadCounter : Store Memory :=
  new ⟨.ofList [("counter_1", "\x7b\"class\":\"Counter\"\x7d")], false⟩

theorem failure_changes_nothing_unreadCounter : unreadCounter.Unmarked ∧
    (unreadCounter.setVar "counter_1" "class" .null).1 = .error (.reserved ⟨"class"⟩) ∧
    (∃ object, (unreadCounter.setVar "counter_1" "class" .null).2.shown "counter_1"
      = some (object, false)) ∧
    (unreadCounter.load "counter_2").2 = unreadCounter := by
  have unmarked : unreadCounter.Unmarked := new_unmarked _
  have hrefused : (unreadCounter.setVar "counter_1" "class" .null).1
      = .error (.reserved ⟨"class"⟩) := by
    have hread : (unreadCounter.demand "counter_1").toOption.isSome = true := by decide +kernel
    cases hdemand : unreadCounter.demand "counter_1" with
    | error error =>
        rw [hdemand] at hread
        cases hread
    | ok entry =>
        rw [setVar, update_of_demand _ hdemand, Instance.set_reserved (by decide)]
        rfl
  obtain ⟨-, -, -, -, -, hset, -⟩ := failure_changes_nothing unmarked "counter_1"
  obtain ⟨-, object, -, -, -, hshown, -⟩ := (hset _ _ _ hrefused).read rfl _ rfl
  have hmissing : (unreadCounter.load "counter_2").1 = .error (.notFound "counter_2") := rfl
  exact ⟨unmarked, hrefused, ⟨object, hshown⟩,
    (failure_changes_nothing unmarked "counter_2").1 _ hmissing⟩

end ObjectMemory.Store
