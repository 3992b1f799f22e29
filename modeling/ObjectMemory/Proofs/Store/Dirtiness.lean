import ObjectMemory.Proofs.Store.Coherence
import ObjectMemory.Proofs.Store.Effects
import ObjectMemory.Proofs.Store.Flushable
import ObjectMemory.Proofs.Store.History

/-!
# What makes an entry dirty

An entry is dirty if something changed its instance since the entry was brought in line with the
document store, by reading the document or by writing it.  What changes an instance, and what
brings an entry in line, can be told from the requests and their answers.  The flag is kept in two
places in between, as the mark of the instance while it is edited and as the flag of the entry
afterwards, and it is exact because no cached instance has a mark.

* `Request.Changes`, `Request.Aligns`, `Request.Harmless` — what requests do to the entry of an id;
* `isDirty_perform`, `isDirty_of_harmless` — the flag after a request;
* `aligns_of_isCached` — what a request caches, it has brought in line;
* `ChangedSince` — something changed an instance after all that brought its entry in line;
* **`dirty_iff_changedSince`** — the flags after anything that happens.
-/

namespace ObjectMemory.Store

open Backend Json

/-! ## Requests -/

section

variable {β : Type} [DocumentStore β]

/-- A request changes the instance of an id, or marks its entry as dirty: a variable is written, also
with the value that it has, or removed when it is there. -/
def Request.Changes (store : Store β) (id : String) : Request → Prop
  | setVar other name value => other = id ∧ ∃ before, (store.setVar other name value).1 = .ok before
  | removeVar other name => other = id ∧ ∃ value, (store.removeVar other name).1 = .ok (some value)
  | update other edits => other = id ∧ ∃ object answers, (store.load other).1 = .ok object ∧
      (store.update other fun object => editAll (edits object) object).1 = .ok answers ∧
      SomeTookEffect (edits object) answers
  | markDirty other => other = id ∧ (store.markDirty other).1 = true
  | _ => False

/-- A request brings the entry of an id in line with the document store: an instance is read to be
used, or it is written. -/
def Request.Aligns (store : Store β) (id : String) : Request → Prop
  | load other | setVar other _ _ | removeVar other _ | update other _ =>
    other = id ∧ store.isCached id = false ∧ ∃ object, (store.load id).1 = .ok object
  | save other object => other = id ∧ (store.save other object).1 = .ok ()
  | saveCached other => other = id ∧ (store.saveCached other).1 = .ok ()
  | create className defaults suffix now =>
    deriveId className suffix = id ∧ ∃ made, (store.create className defaults suffix now).1 = .ok made
  | flush => id ∈ store.flushable
  | _ => False

/-- A request that only reads, that writes nothing because it fails, that names reserved variables, or
that removes what is not there. -/
def Request.Harmless (store : Store β) : Request → Prop
  | load _ | findByClass _ | tick => True
  | save id object => (store.save id object).1 ≠ .ok ()
  | saveCached id => (store.saveCached id).1 ≠ .ok ()
  | create className defaults suffix now =>
    ∀ made, (store.create className defaults suffix now).1 ≠ .ok made
  | delete id => (store.delete id).1 ≠ .ok ()
  | setVar id name value => ∀ before, (store.setVar id name value).1 ≠ .ok before
  | removeVar id name => ∀ value, (store.removeVar id name).1 ≠ .ok (some value)
  | update id edits => ∀ object answers, (store.load id).1 = .ok object →
      (store.update id fun object => editAll (edits object) object).1 = .ok answers →
      ¬ SomeTookEffect (edits object) answers
  | markDirty id => (store.markDirty id).1 = false
  | flush => store.flushable = []
  | clear | evict _ => False

variable {store after : Store β} {id : String} {request : Request}

lemma about_of_changes (h : request.Changes store id) : request.about = some id := by
  cases request with
  | setVar other name value | removeVar other name | update other edits | markDirty other =>
      exact congrArg some h.1
  | _ => exact h.elim

lemma about_of_aligns (h : request.Aligns store id) : request.about = some id ∨ request = .flush := by
  cases request with
  | flush => exact .inr rfl
  | load other | setVar other name value | removeVar other name | update other edits
  | save other object | saveCached other | create className defaults suffix now =>
      exact .inl (congrArg some h.1)
  | _ => exact h.elim

omit [DocumentStore β] in
/-- The flag after a request that may change the instance, and may have read it before. -/
lemma flag_of_changes {changes aligns : Prop}
    (hdirty : after.isDirty id = true ↔ store.isDirty id = true ∨ changes)
    (hmiss : aligns → store.isCached id = false) :
    after.isDirty id = true ↔
      after.isCached id = true ∧ (changes ∨ store.isDirty id = true ∧ ¬ aligns) := by
  have haligned : store.isDirty id = true → ¬ aligns := fun h haligns => by
    rw [isCached_of_isDirty h] at hmiss
    cases hmiss haligns
  constructor
  · intro h
    refine ⟨isCached_of_isDirty h, ?_⟩
    rcases hdirty.mp h with hbefore | hchanges
    · exact .inr ⟨hbefore, haligned hbefore⟩
    · exact .inl hchanges
  · rintro ⟨-, hchanges | ⟨hbefore, -⟩⟩
    · exact hdirty.mpr (.inr hchanges)
    · exact hdirty.mpr (.inl hbefore)

omit [DocumentStore β] in
/-- What is not cached is not dirty. -/
lemma flag_of_uncached {P : Prop} (huncached : after.isCached id = false) :
    after.isDirty id = true ↔ after.isCached id = true ∧ P := by
  constructor
  · intro h
    rw [isCached_of_isDirty h] at huncached
    cases huncached
  · rintro ⟨hcached, -⟩
    rw [hcached] at huncached
    cases huncached

omit [DocumentStore β] in
/-- The flag after a request that may write the instance and changes nothing about it. -/
lemma flag_of_aligns {aligns : Prop}
    (hdirty : after.isDirty id = true ↔ store.isDirty id = true ∧ ¬ aligns) :
    after.isDirty id = true ↔
      after.isCached id = true ∧ (False ∨ store.isDirty id = true ∧ ¬ aligns) := by
  rw [false_or, ← hdirty, and_iff_right_of_imp isCached_of_isDirty]

end

/-! ## The flag after a request -/

section

variable {β : Type} [DocumentStore β] [LawfulDocumentStore β] {store after : Store β} {id : String}

lemma isDirty_save (id : String) (object : Instance) :
    (store.save id object).2.isDirty id = true ↔
      store.isDirty id = true ∧ (store.save id object).1 ≠ .ok () := by
  rcases store.save_cases id object with ⟨failure, heq⟩ | ⟨saved, heq, hview, -⟩
  · simp [heq]
  · have hclean : saved.isDirty id = false := by
      rw [isDirty_eq_false, hview]
      rintro _ ⟨⟩
      rfl
    simp [heq, hclean]

lemma isDirty_saveCached_self (id : String) :
    (store.saveCached id).2.isDirty id = true ↔
      store.isDirty id = true ∧ (store.saveCached id).1 ≠ .ok () := by
  rcases store.saveCached_cases id with ⟨-, heq⟩ | ⟨entry, -, heq⟩
  · simp [heq]
  · rw [heq]
    exact isDirty_save id entry.object

omit [LawfulDocumentStore β] in
lemma create_eq_ok_iff {className suffix : String} {defaults : Object} {now : Timestamp} :
    (∃ made, (store.create className defaults suffix now).1 = .ok made) ↔
      (store.save (deriveId className suffix)
        (.new (deriveId className suffix) className now defaults)).1 = .ok () := by
  rw [create]
  rcases store.save (deriveId className suffix)
    (.new (deriveId className suffix) className now defaults) with ⟨error | ⟨⟩, saved⟩
  · simp [Except.map]
  · simp [Except.map]

lemma isDirty_delete (id : String) :
    (store.delete id).2.isDirty id = true ↔
      (store.delete id).2.isCached id = true ∧ store.isDirty id = true := by
  rcases store.delete_cases id with ⟨failure, heq⟩ | ⟨rest, heq, hview, -⟩
  · rw [heq, and_iff_right_of_imp isCached_of_isDirty]
  · rw [heq]
    exact flag_of_uncached (isCached_eq_false.mpr (congrArg View.entry hview))

end

variable {store : Store Memory}

/-- **The flag after a request** is set if the request changed the instance, or if it was set and the
request did not bring the entry in line. -/
lemma isDirty_perform (unmarked : store.Unmarked) (request : Request) (id : String) :
    (store.perform request).2.isDirty id = true ↔ (store.perform request).2.isCached id = true ∧
      (request.Changes store id ∨ store.isDirty id = true ∧ ¬ request.Aligns store id) := by
  rcases store.view_perform_or_about request id with ⟨other, habout, hne, hview⟩ | hself
  · have hnot : request.about ≠ some id := fun h => hne (Option.some.inj (h.symm.trans habout))
    refine flag_of_changes ?_ fun h => ?_
    · rw [isDirty_eq_of_view hview]
      exact (or_iff_left fun h => hnot (about_of_changes h)).symm
    · rcases about_of_aligns h with h | rfl
      · exact absurd h hnot
      · cases habout
  cases request with
  | load other =>
      obtain rfl := hself _ rfl
      refine flag_of_changes ?_ fun h => h.2.1
      rw [show (store.perform (.load other)).2 = (store.load other).2 from rfl, isDirty_load]
      exact (or_iff_left id).symm
  | save other object =>
      obtain rfl := hself _ rfl
      refine flag_of_aligns ((isDirty_save other object).trans ?_)
      simp [Request.Aligns]
  | saveCached other =>
      obtain rfl := hself _ rfl
      refine flag_of_aligns ((isDirty_saveCached_self other).trans ?_)
      simp [Request.Aligns]
  | create className defaults suffix now =>
      obtain rfl := hself _ rfl
      refine flag_of_aligns ((isDirty_save _ _).trans (and_congr_right' (not_congr ?_)))
      rw [Request.Aligns, and_iff_right rfl, create_eq_ok_iff]
  | delete other =>
      obtain rfl := hself _ rfl
      refine (isDirty_delete other).trans (and_congr_right' ?_)
      simp [Request.Changes, Request.Aligns]
  | update other edits =>
      obtain rfl := hself _ rfl
      refine flag_of_changes ((isDirty_editAll unmarked other edits).trans (or_congr_right ?_))
        fun h => h.2.1
      exact (and_iff_right rfl).symm
  | setVar other name value =>
      obtain rfl := hself _ rfl
      refine flag_of_changes ((isDirty_edit unmarked other (.set name value)).trans
        (or_congr_right ?_)) fun h => h.2.1
      rw [Request.Changes, and_iff_right rfl, exists_setVar_eq_ok_iff]
  | removeVar other name =>
      obtain rfl := hself _ rfl
      refine flag_of_changes ((isDirty_edit unmarked other (.remove name)).trans
        (or_congr_right ?_)) fun h => h.2.1
      rw [Request.Changes, and_iff_right rfl, exists_removeVar_eq_ok_iff]
  | markDirty other =>
      obtain rfl := hself _ rfl
      refine flag_of_changes ((isDirty_markDirty other).trans (or_congr_right ?_))
        fun h => h.elim
      exact (and_iff_right rfl).symm
  | flush => exact flag_of_aligns isDirty_flush
  | clear => exact flag_of_uncached rfl
  | evict other =>
      obtain rfl := hself _ rfl
      exact flag_of_uncached (isCached_eq_false.mpr
        (congrArg View.entry (view_evict_self store other)))
  | findByClass className | tick =>
      exact flag_of_changes (or_iff_left fun h => h).symm fun h => h.elim

/-- Reserved names cannot be written. -/
lemma harmless_setVar_of_reserved (id : String) {name : String} (reserved : isReserved name = true)
    (value : Value) : (Request.setVar id name value).Harmless store := by
  intro before h
  have hupdate : (store.update id (Instance.set name value)).1 = .ok (.ok before) :=
    flatten_eq_ok_iff.mp h
  obtain ⟨object, -, hset⟩ := update_eq_ok_iff.mp hupdate
  rw [Instance.set, if_pos reserved] at hset
  cases hset

lemma harmless_removeVar_of_reserved (id : String) {name : String}
    (reserved : isReserved name = true) : (Request.removeVar id name).Harmless store := by
  intro value h
  have hupdate : (store.update id (Instance.remove name)).1 = .ok (.ok (some value)) :=
    flatten_eq_ok_iff.mp h
  obtain ⟨object, -, hremove⟩ := update_eq_ok_iff.mp hupdate
  rw [Instance.remove, if_pos reserved] at hremove
  cases hremove

/-- What is not there cannot be removed. -/
lemma harmless_removeVar_of_absent {id name : String}
    (absent : (store.load id).1.toOption.bind (·.get? name) = none) :
    (Request.removeVar id name).Harmless store := by
  intro value h
  have hupdate : (store.update id (Instance.remove name)).1 = .ok (.ok (some value)) :=
    flatten_eq_ok_iff.mp h
  obtain ⟨object, hload, hremove⟩ := update_eq_ok_iff.mp hupdate
  rw [hload] at absent
  have hnone : object.get? name = none := absent
  rw [Instance.remove, hnone] at hremove
  split_ifs at hremove
  cases hremove

/-- **A harmless request** neither sets nor clears a flag. -/
lemma isDirty_of_harmless (unmarked : store.Unmarked) {request : Request}
    (harmless : request.Harmless store) (id : String) :
    (store.perform request).2.isDirty id = store.isDirty id := by
  rcases store.view_perform_or_about request id with ⟨other, -, -, hview⟩ | hself
  · exact isDirty_eq_of_view hview
  rw [Bool.eq_iff_iff]
  cases request with
  | load other =>
      obtain rfl := hself _ rfl
      exact Bool.eq_iff_iff.mp (isDirty_load other)
  | save other object =>
      obtain rfl := hself _ rfl
      exact (isDirty_save other object).trans (and_iff_left harmless)
  | saveCached other =>
      obtain rfl := hself _ rfl
      exact (isDirty_saveCached_self other).trans (and_iff_left harmless)
  | create className defaults suffix now =>
      obtain rfl := hself _ rfl
      refine (isDirty_save _ _).trans (and_iff_left fun hsaved => ?_)
      obtain ⟨made, hmade⟩ := create_eq_ok_iff.mpr hsaved
      exact harmless made hmade
  | delete other =>
      rcases store.delete_cases other with ⟨failure, heq⟩ | ⟨rest, heq, -⟩
      · exact Bool.eq_iff_iff.mp (congrArg (isDirty · id) (congrArg Prod.snd heq))
      · exact absurd (congrArg Prod.fst heq) harmless
  | update other edits =>
      obtain rfl := hself _ rfl
      refine (isDirty_editAll unmarked other edits).trans (or_iff_left ?_)
      rintro ⟨object, answers, hload, hanswers, heffect⟩
      exact harmless object answers hload hanswers heffect
  | setVar other name value =>
      obtain rfl := hself _ rfl
      refine (isDirty_edit unmarked other (.set name value)).trans (or_iff_left fun heffect => ?_)
      obtain ⟨before, hbefore⟩ := exists_setVar_eq_ok_iff.mpr heffect
      exact harmless before hbefore
  | removeVar other name =>
      obtain rfl := hself _ rfl
      refine (isDirty_edit unmarked other (.remove name)).trans (or_iff_left fun heffect => ?_)
      obtain ⟨value, hvalue⟩ := exists_removeVar_eq_ok_iff.mpr heffect
      exact harmless value hvalue
  | markDirty other =>
      obtain rfl := hself _ rfl
      exact (isDirty_markDirty other).trans (or_iff_left (by rw [harmless]; decide))
  | flush => exact isDirty_flush.trans (and_iff_left (harmless ▸ List.not_mem_nil))
  | clear | evict _ => exact harmless.elim
  | findByClass _ | tick => exact Iff.rfl

/-! ## What is cached after a request -/

section

variable {β : Type} [DocumentStore β] {store : Store β} {id : String}

lemma exists_load_of_isCached_load (hbefore : store.isCached id = false)
    (hafter : (store.load id).2.isCached id = true) : ∃ object, (store.load id).1 = .ok object := by
  cases hdemand : store.demand id with
  | error error =>
      rw [load_of_error hdemand, hbefore] at hafter
      cases hafter
  | ok entry => exact ⟨entry.object, by rw [load_of_demand hdemand]⟩

lemma exists_load_of_isCached_update {α : Type} (edit : Instance → α × Instance)
    (hbefore : store.isCached id = false)
    (hafter : (store.update id edit).2.isCached id = true) :
    ∃ object, (store.load id).1 = .ok object := by
  cases hdemand : store.demand id with
  | error error =>
      rw [update_of_error edit hdemand, hbefore] at hafter
      cases hafter
  | ok entry => exact ⟨entry.object, by rw [load_of_demand hdemand]⟩

lemma save_ok_of_isCached [LawfulDocumentStore β] {object : Instance}
    (hbefore : store.isCached id = false)
    (hafter : (store.save id object).2.isCached id = true) :
    (store.save id object).1 = .ok () := by
  rcases store.save_cases id object with ⟨failure, heq⟩ | ⟨saved, heq, -⟩
  · rw [heq, hbefore] at hafter
    cases hafter
  · rw [heq]

/-- A deletion caches nothing. -/
lemma isCached_delete [LawfulDocumentStore β] (hbefore : store.isCached id = false) :
    (store.delete id).2.isCached id = false := by
  rcases store.delete_cases id with ⟨failure, heq⟩ | ⟨rest, heq, hview, -⟩
  · rw [heq, hbefore]
  · rw [heq]
    exact isCached_eq_false.mpr (congrArg View.entry hview)

end

/-- **What is cached after a request and was not before** was brought in line. -/
lemma aligns_of_isCached {request : Request} {id : String} (hbefore : store.isCached id = false)
    (hafter : (store.perform request).2.isCached id = true) : request.Aligns store id := by
  have hnone : (store.view id).entry = none := isCached_eq_false.mp hbefore
  have hnew : (store.perform request).2.view id ≠ store.view id := fun hview => by
    rw [isCached_eq_of_view hview, hbefore] at hafter
    cases hafter
  rcases store.view_perform_or_about request id with ⟨other, -, -, hview⟩ | hself
  · exact absurd hview hnew
  cases request with
  | load other =>
      obtain rfl := hself _ rfl
      exact ⟨rfl, hbefore, exists_load_of_isCached_load hbefore hafter⟩
  | save other object =>
      obtain rfl := hself _ rfl
      exact ⟨rfl, save_ok_of_isCached hbefore hafter⟩
  | create className defaults suffix now =>
      obtain rfl := hself _ rfl
      exact ⟨rfl, create_eq_ok_iff.mpr (save_ok_of_isCached hbefore hafter)⟩
  | update other edits =>
      obtain rfl := hself _ rfl
      exact ⟨rfl, hbefore, exists_load_of_isCached_update _ hbefore hafter⟩
  | setVar other name value =>
      obtain rfl := hself _ rfl
      exact ⟨rfl, hbefore, exists_load_of_isCached_update (Instance.set name value) hbefore hafter⟩
  | removeVar other name =>
      obtain rfl := hself _ rfl
      exact ⟨rfl, hbefore, exists_load_of_isCached_update (Instance.remove name) hbefore hafter⟩
  | delete other =>
      obtain rfl := hself _ rfl
      rw [perform, Answer.wrap, isCached_delete hbefore] at hafter
      cases hafter
  | saveCached other => exact absurd (view_saveCached_of_none hnone other) hnew
  | markDirty other =>
      obtain rfl := hself _ rfl
      refine absurd ?_ hnew
      rw [perform, markDirty, show store.cache.get? other = none from hnone]
      rfl
  | flush => exact absurd (view_flush_of_none hnone) hnew
  | evict other =>
      obtain rfl := hself _ rfl
      have hevicted := isCached_eq_false.mpr (congrArg View.entry (view_evict_self store other))
      rw [perform, Answer.wrap, hevicted] at hafter
      cases hafter
  | clear => cases hafter
  | findByClass _ | tick => exact absurd rfl hnew

/-! ## Anything that happens -/

def Event.Changes (store : Store Memory) (id : String) : Event → Prop
  | request asked => asked.Changes store id
  | setReadOnly _ => False

def Event.Aligns (store : Store Memory) (id : String) : Event → Prop
  | request asked => asked.Aligns store id
  | setReadOnly _ => False

/-- Something changed the instance of an id, and nothing has brought its entry in line since. -/
def ChangedSince (start : Store Memory) (events : List Event) (id : String) : Prop :=
  ∃ earlier event later, events = earlier ++ event :: later ∧
    event.Changes (runEvents start earlier) id ∧
    ∀ between next rest, later = between ++ next :: rest →
      ¬ next.Aligns (runEvents start (earlier ++ event :: between)) id

lemma isDirty_happen (unmarked : store.Unmarked) (event : Event) (id : String) :
    (event.happen store).isDirty id = true ↔ (event.happen store).isCached id = true ∧
      (event.Changes store id ∨ store.isDirty id = true ∧ ¬ event.Aligns store id) := by
  cases event with
  | request asked => exact isDirty_perform unmarked asked id
  | setReadOnly readOnly => exact flag_of_changes (or_iff_left fun h => h).symm fun h => h.elim

lemma Event.aligns_of_isCached {event : Event} {id : String} (hbefore : store.isCached id = false)
    (hafter : (event.happen store).isCached id = true) : event.Aligns store id := by
  cases event with
  | request asked => exact Store.aligns_of_isCached hbefore hafter
  | setReadOnly readOnly => exact absurd (hbefore.symm.trans hafter) (by decide)

/-- The last event is a change, or it is not one that brings the entry in line. -/
lemma changedSince_concat {start : Store Memory} {events : List Event} {event : Event} {id : String} :
    ChangedSince start (events ++ [event]) id ↔ event.Changes (runEvents start events) id ∨
      ChangedSince start events id ∧ ¬ event.Aligns (runEvents start events) id := by
  show Since (fun store event => event.Changes store id) (fun store event => event.Aligns store id)
    start (events ++ [event]) ↔ _
  exact since_concat

lemma isDirty_runEvents (backend : Memory) (events : List Event) (id : String) :
    (runEvents (new backend) events).isDirty id = true ↔
      (runEvents (new backend) events).isCached id = true ∧
        ChangedSince (new backend) events id := by
  induction events using List.reverseRecOn with
  | nil => exact flag_of_uncached rfl
  | append_singleton events event ih =>
      rw [changedSince_concat, runEvents_concat, isDirty_happen (unmarked_runEvents backend events)]
      refine and_congr_right fun hcached => or_congr_right (and_congr_left fun haligns => ?_)
      rw [ih, and_iff_right_iff_imp]
      -- an entry that was not there before would have been brought in line by this event
      intro _
      by_contra hbefore
      exact haligns (event.aligns_of_isCached (Bool.not_eq_true _ ▸ hbefore) hcached)

/-- **Dirty flags are exact**: an entry is dirty exactly if something changed its instance since the
entry was last brought in line with the document store.  The dirty ids are listed in ascending
order and counted, and no request has a say in this that only reads, fails, or has nothing to
change. -/
theorem dirty_iff_changedSince (backend : Memory) (events : List Event) :
    (∀ id, (runEvents (new backend) events).isDirty id = true ↔
      (runEvents (new backend) events).isCached id = true ∧
        ChangedSince (new backend) events id) ∧
    (runEvents (new backend) events).dirtyIds.Pairwise (· < ·) ∧
    (∀ id, id ∈ (runEvents (new backend) events).dirtyIds ↔
      (runEvents (new backend) events).isDirty id = true) ∧
    (runEvents (new backend) events).stats.dirty
      = (runEvents (new backend) events).dirtyIds.length ∧
    ∀ request : Request, request.Harmless (runEvents (new backend) events) → ∀ id,
      ((runEvents (new backend) events).perform request).2.isDirty id
        = (runEvents (new backend) events).isDirty id :=
  ⟨isDirty_runEvents backend events, dirtyIds_ascending _, fun _ => mem_dirtyIds_iff,
    stats_dirty _, fun _ harmless => isDirty_of_harmless (unmarked_runEvents backend events) harmless⟩

/-- A counter that is changed and written later, and then given the value again that it has. -/
def rewrittenCounter : List Event :=
  lateWrite ++ [.request (.removeVar "counter_1" "absent"),
    .request (.setVar "counter_1" "n" .null)]

theorem dirty_iff_changedSince_rewrittenCounter :
    ChangedSince (new ⟨counterDocuments, false⟩) rewrittenCounter "counter_1" ∧
    ¬ ChangedSince (new ⟨counterDocuments, false⟩) lateWrite "counter_1" ∧
    (runEvents (new ⟨counterDocuments, false⟩) rewrittenCounter).stats.dirty = 1 ∧
    ∀ request ∈ [Request.setVar "counter_1" "class" .null, .removeVar "counter_1" "_vars",
        .removeVar "counter_1" "absent"],
      request.Harmless (runEvents (new ⟨counterDocuments, false⟩) rewrittenCounter) ∧
      ((runEvents (new ⟨counterDocuments, false⟩) rewrittenCounter).perform request).2.isDirty
        "counter_1" = true := by
  obtain ⟨hflags, -, -, -, hharmless⟩ :=
    dirty_iff_changedSince ⟨counterDocuments, false⟩ rewrittenCounter
  have hdirty : (runEvents (new ⟨counterDocuments, false⟩) rewrittenCounter).isDirty "counter_1"
      = true := by decide +kernel
  have hclean : (runEvents (new ⟨counterDocuments, false⟩) lateWrite).isDirty "counter_1"
      = false := by decide +kernel
  have hcached : (runEvents (new ⟨counterDocuments, false⟩) lateWrite).isCached "counter_1"
      = true := by decide +kernel
  refine ⟨((hflags _).mp hdirty).2, fun h => ?_, by decide +kernel, fun request hrequest => ?_⟩
  · have hlate := (dirty_iff_changedSince ⟨counterDocuments, false⟩ lateWrite).1 "counter_1"
    exact absurd (hclean.symm.trans (hlate.mpr ⟨hcached, h⟩)) (by decide)
  · have hall : request.Harmless
        (runEvents (new ⟨counterDocuments, false⟩) rewrittenCounter) := by
      simp only [List.mem_cons, List.not_mem_nil, or_false] at hrequest
      rcases hrequest with rfl | rfl | rfl
      · exact harmless_setVar_of_reserved _ (by decide) _
      · exact harmless_removeVar_of_reserved _ (by decide)
      · exact harmless_removeVar_of_absent (by decide +kernel)
    have hkept := hharmless request hall "counter_1"
    rw [hdirty] at hkept
    exact ⟨hall, hkept⟩

end ObjectMemory.Store
