import ObjectMemory.Proofs.Store.Frame
import ObjectMemory.Proofs.Store.Holding

/-!
# The cache cannot be seen

A store with a cache over documents answers as a plain map of instances does, on which every change
acts at once.  Instances are not written when they are changed, they are dropped and read again, and
the class index knows only what is written; none of this shows, as long as no dirty entry is
dropped and every value fits into a document.

The plain map knows nothing of entries, so it has no answer to what is only about them.  What the
store has of each id is what the map has (`Mirrors`), and that each request keeps it that way while
both answer alike is the step of an induction over all requests.

* `Instances`, `Instances.perform`, `Instances.run` — the plain map;
* `Request.Admissible`, `Admissible` — values that fit, and no loss of changes;
* `Mirrors`, `Mirrors.perform` — the simulation and its step;
* **`run_transparent`** — the answers of all requests.
-/

namespace ObjectMemory.Store

open Backend Json

/-! ## The plain map -/

/-- Instances by id, without a cache and without documents. -/
abbrev Instances := SortedMap String Instance

namespace Instances

/-- Changes the instance of an id. -/
def edit {α : Type} (map : Instances) (id : String) (edit : Instance → α × Instance) :
    Except Error α × Instances :=
  match map.get? id with
  | some object => (.ok (edit object).1, map.insert id (edit object).2.unmodified)
  | none => (.error (.notFound id), map)

def ofClass (map : Instances) (className : String) : List String :=
  (map.entries.filter fun entry => entry.2.className == className).map Prod.fst

/-- The answer to a request unless it is about entries, and the map after it. -/
def perform (map : Instances) : Request → Option Answer × Instances
  | .load id =>
    match map.get? id with
    | some object => (some (.found (.ok object)), map)
    | none => (some (.found (.error (.notFound id))), map)
  | .save id object => (some (.done (.ok ())), map.insert id object.unmodified)
  | .create className defaults suffix now =>
    let id := deriveId className suffix
    let object := Instance.new id className now defaults
    (some (.created (.ok (id, object))), map.insert id object)
  | .delete id => (some (.done (.ok ())), map.erase id)
  | .update id edits =>
    let (answer, map) := map.edit id fun object => editAll (edits object) object
    (some (.edited answer), map)
  | .setVar id name value =>
    let (answer, map) := map.edit id (Instance.set name value)
    (some (.before (flatten answer)), map)
  | .removeVar id name =>
    let (answer, map) := map.edit id (Instance.remove name)
    (some (.before (flatten answer)), map)
  | .findByClass className => (some (.listed (.ok (map.ofClass className))), map)
  | .saveCached _ | .markDirty _ | .flush | .clear | .evict _ | .tick => (none, map)

def run (map : Instances) : List Request → List (Option Answer)
  | [] => []
  | request :: rest =>
    let (answer, map) := map.perform request
    answer :: map.run rest

end Instances

/-! ## What may be asked -/

/-- A request that gives only values that fit into a document and drops no dirty entry. -/
def Request.Admissible (store : Store Memory) : Request → Prop
  | .save id object =>
    object.Made ∧ object.id = id ∧
      (∀ m ∈ object.data.entries, m.2.IntegersOnly ∧ m.2.depth < depthLimit) ∧
      0 ≤ object.createdAt.date.year ∧ object.createdAt.date.year ≤ 9999
  | .create _ defaults _ now =>
    (∀ m ∈ defaults.entries, m.2.Storable) ∧ 0 ≤ now.date.year ∧ now.date.year ≤ 9999
  | .update _ edits => ∀ object, ∀ edit ∈ edits object, edit.Storable
  | .setVar _ _ value => value.Storable
  | .evict id => store.isDirty id = false
  | .clear => store.dirtyIds = []
  | _ => True

/-- Each request is admissible when it is made. -/
def Admissible (store : Store Memory) : List Request → Prop
  | [] => True
  | request :: rest =>
    request.Admissible store ∧ Admissible (store.perform request).2 rest

/-! ## The simulation -/

/-- The store has of each id what the map has. -/
structure Mirrors (store : Store Memory) (map : Instances) : Prop where
  writable : store.backend.readOnly = false
  has : ∀ id, (store.view id).Has id (map.get? id)

lemma new_mirrors : Mirrors (new .empty) .empty := ⟨rfl, fun _ => rfl⟩

variable {store after : Store Memory} {map : Instances} {id : String} {object : Instance}

lemma Mirrors.insert (h : Mirrors store map) (writable : after.backend.readOnly = false)
    (holds : (after.view id).Holds id object)
    (others : ∀ other, other ≠ id → after.view other = store.view other) :
    Mirrors after (map.insert id object) := by
  refine ⟨writable, fun other => ?_⟩
  rcases eq_or_ne other id with rfl | hne
  · rw [SortedMap.get?_insert_self]
    exact holds
  · rw [SortedMap.get?_insert_of_ne hne, others other hne]
    exact h.has other

lemma Mirrors.erase (h : Mirrors store map) (writable : after.backend.readOnly = false)
    (lacks : (after.view id).Lacks)
    (others : ∀ other, other ≠ id → after.view other = store.view other) :
    Mirrors after (map.erase id) := by
  refine ⟨writable, fun other => ?_⟩
  rcases eq_or_ne other id with rfl | hne
  · rw [SortedMap.get?_erase_self]
    exact lacks
  · rw [SortedMap.get?_erase_of_ne hne, others other hne]
    exact h.has other

/-! ## Use -/

lemma Mirrors.load (h : Mirrors store map) (id : String) :
    ∃ outcome loaded, store.load id = (outcome, loaded) ∧
      map.perform (.load id) = (some (.found outcome), map) ∧ Mirrors loaded map := by
  have hid := h.has id
  cases hget : map.get? id with
  | none =>
      rw [hget] at hid
      refine ⟨_, _, View.Lacks.load hid, ?_, h⟩
      simp only [Instances.perform, hget]
  | some object =>
      rw [hget] at hid
      obtain ⟨loaded, heq, hholds, hbackend, hothers⟩ := View.Holds.load hid
      have hafter := h.insert (hbackend ▸ h.writable) hholds hothers
      rw [SortedMap.insert_of_get? hget] at hafter
      refine ⟨_, _, heq, ?_, hafter⟩
      simp only [Instances.perform, hget]

lemma Mirrors.update (h : Mirrors store map) {α : Type} (id : String)
    {edit : Instance → α × Instance} (marks : Instance.Marks edit) (fits : Instance.Fits edit) :
    ∃ outcome updated changed, store.update id edit = (outcome, updated) ∧
      map.edit id edit = (outcome, changed) ∧ Mirrors updated changed := by
  have hid := h.has id
  rw [Instances.edit]
  cases hget : map.get? id with
  | none =>
      rw [hget] at hid
      exact ⟨_, _, _, View.Lacks.update hid edit, rfl, h⟩
  | some object =>
      rw [hget] at hid
      obtain ⟨updated, heq, hholds, hbackend, hothers⟩ := View.Holds.update hid marks fits
      exact ⟨_, _, _, heq, rfl, h.insert (hbackend ▸ h.writable) hholds hothers⟩

/-! ## Writing -/

lemma Mirrors.save (h : Mirrors store map) (storable : object.Storable) (named : object.id = id) :
    ∃ saved, store.save id object = (.ok (), saved) ∧
      Mirrors saved (map.insert id object.unmodified) := by
  have hput := Memory.put_encode h.writable id storable.readable
  have hreadOnly := store.save_readOnly id object
  rcases store.save_cases id object with ⟨failure, heq⟩ | ⟨saved, heq, hview, hothers⟩
  · rw [Store.save, show DocumentStore.put store.backend id object.encode = _ from hput] at heq
    cases heq
  · rw [heq] at hreadOnly
    refine ⟨saved, heq, h.insert (hreadOnly.trans h.writable) ?_ hothers⟩
    rw [hview]
    exact holds_saved storable named store.moment

lemma Mirrors.create (h : Mirrors store map) (className suffix : String) {defaults : Object}
    {now : Timestamp} (values : ∀ m ∈ defaults.entries, m.2.Storable)
    (years : 0 ≤ now.date.year ∧ now.date.year ≤ 9999) :
    ∃ made, store.create className defaults suffix now
        = (.ok (deriveId className suffix, .new (deriveId className suffix) className now defaults),
          made) ∧
      Mirrors made (map.insert (deriveId className suffix)
        (.new (deriveId className suffix) className now defaults)) := by
  have hstorable := Instance.new_storable (deriveId className suffix) className values years
  obtain ⟨saved, heq, hafter⟩ := h.save hstorable
    (show (Instance.new (deriveId className suffix) ..).id = deriveId className suffix from rfl)
  refine ⟨saved, ?_, hafter⟩
  rw [Store.create]
  simp only [heq]
  rfl

lemma Mirrors.delete (h : Mirrors store map) (id : String) :
    ∃ rest, store.delete id = (.ok (), rest) ∧ Mirrors rest (map.erase id) := by
  have hdelete := Memory.delete_of_writable h.writable id
  rcases store.delete_cases id with ⟨failure, heq⟩ | ⟨rest, heq, hlacks, hothers⟩
  · rw [Store.delete, show DocumentStore.delete store.backend id = _ from hdelete] at heq
    cases heq
  · refine ⟨rest, heq, h.erase ?_ hlacks hothers⟩
    rw [Store.delete, show DocumentStore.delete store.backend id = _ from hdelete] at heq
    have hrest := congrArg (fun result => result.2.backend.readOnly) heq
    exact hrest.symm.trans h.writable

/-! ## The class index -/

/-- Selected keys are ascending, so they are told by which keys they are. -/
lemma selected_keys_eq {α γ : Type} {a : SortedMap String α} {b : SortedMap String γ}
    {p : String × α → Bool} {q : String × γ → Bool}
    (h : ∀ key, (∃ x, a.get? key = some x ∧ p (key, x) = true) ↔
      ∃ y, b.get? key = some y ∧ q (key, y) = true) :
    (a.entries.filter p).map Prod.fst = (b.entries.filter q).map Prod.fst := by
  have hirrefl : Std.Irrefl fun a b : String => compare a b = .lt :=
    ⟨fun a hlt => by simp at hlt⟩
  have hantisymm : Std.Antisymm fun a b : String => compare a b = .lt :=
    ⟨fun a b hab hba => absurd (Std.TransCmp.lt_trans hab hba) (by simp)⟩
  refine List.Pairwise.eq_of_mem_iff (r := fun a b => compare a b = .lt)
    (List.pairwise_map.mpr (a.ascending.filter p)) (List.pairwise_map.mpr (b.ascending.filter q))
    fun key => ?_
  simpa [SortedMap.mem_entries_iff] using h key

lemma Mirrors.findByClass (h : Mirrors store map) (className : String) :
    store.findByClass className = .ok (map.ofClass className) := by
  refine congrArg Except.ok (selected_keys_eq fun id => ?_)
  have hid := h.has id
  cases hget : map.get? id with
  | none =>
      rw [hget, View.Has, View.Lacks, view, View.mk.injEq] at hid
      have hnone : store.backend.documents.get? id = none := Except.ok.inj hid.2
      simp [hnone]
  | some object =>
      rw [hget] at hid
      obtain ⟨written, hdocument, hstorable, hclass, -⟩ := View.Holds.written hid
      have hsome : store.backend.documents.get? id = some written.encode := Except.ok.inj hdocument
      simp [hsome, Memory.namesClass_encode hstorable.readable, hclass]

/-! ## Requests in any order -/

lemma made_storable (made : object.Made)
    (members : ∀ m ∈ object.data.entries, m.2.IntegersOnly ∧ m.2.depth < depthLimit)
    (years : 0 ≤ object.createdAt.date.year ∧ object.createdAt.date.year ≤ 9999) :
    object.Storable :=
  ⟨made.mirrored,
    fun m hm => ⟨(members m hm).1, membersCanonical.mp made.canonical m hm, (members m hm).2⟩,
    years.1, years.2⟩

/-- Upkeep has no answer to compare and changes nothing of what there is. -/
lemma Mirrors.upkeep (h : Mirrors store map)
    (writable : after.backend.readOnly = store.backend.readOnly)
    (has : ∀ id had, (store.view id).Has id had → (after.view id).Has id had) :
    Mirrors after map :=
  ⟨writable.trans h.writable, fun id => has id _ (h.has id)⟩

/-- **The store and the map answer a request alike**, and the store still has what the map has. -/
lemma Mirrors.perform (h : Mirrors store map) (request : Request)
    (admissible : request.Admissible store) :
    Meets (store.perform request).1 (map.perform request).1 ∧
      Mirrors (store.perform request).2 (map.perform request).2 := by
  cases request with
  | load id =>
      obtain ⟨outcome, loaded, heq, hmap, hafter⟩ := h.load id
      rw [Store.perform, heq, hmap]
      exact ⟨meets_self _, hafter⟩
  | save id object =>
      obtain ⟨made, named, members, years⟩ := admissible
      obtain ⟨saved, heq, hafter⟩ := h.save (made_storable made members years) named
      rw [Store.perform, heq]
      exact ⟨meets_self _, hafter⟩
  | create className defaults suffix now =>
      obtain ⟨made, heq, hafter⟩ := h.create className suffix admissible.1 admissible.2
      rw [Store.perform, heq]
      exact ⟨meets_self _, hafter⟩
  | delete id =>
      obtain ⟨rest, heq, hafter⟩ := h.delete id
      rw [Store.perform, heq]
      exact ⟨meets_self _, hafter⟩
  | update id edits =>
      obtain ⟨outcome, updated, changed, heq, hmap, hafter⟩ :=
        h.update id (marks_editAll edits) (fits_editAll admissible)
      rw [Store.perform, heq, Instances.perform, hmap]
      exact ⟨meets_self _, hafter⟩
  | setVar id name value =>
      obtain ⟨outcome, updated, changed, heq, hmap, hafter⟩ :=
        h.update id (Edit.set name value).marks (Edit.fits admissible)
      rw [Edit.perform] at heq hmap
      rw [Store.perform, setVar, heq, Instances.perform, hmap]
      exact ⟨meets_self _, hafter⟩
  | removeVar id name =>
      obtain ⟨outcome, updated, changed, heq, hmap, hafter⟩ :=
        h.update id (Edit.remove name).marks (Edit.fits trivial)
      rw [Edit.perform] at heq hmap
      rw [Store.perform, removeVar, heq, Instances.perform, hmap]
      exact ⟨meets_self _, hafter⟩
  | findByClass className =>
      rw [Store.perform, h.findByClass]
      exact ⟨meets_self _, h⟩
  | saveCached id =>
      exact ⟨meets_none _, h.upkeep (saveCached_readOnly _ _) fun _ _ hid => hid.saveCached id⟩
  | markDirty id =>
      exact ⟨meets_none _, h.upkeep (markDirty_readOnly _ _) fun _ _ hid => hid.markDirty id⟩
  | flush => exact ⟨meets_none _, h.upkeep (flush_readOnly _) fun _ _ hid => hid.flush⟩
  | clear =>
      -- with no id listed as dirty, no entry that goes is
      have hclean : ∀ id, store.isDirty id = false := fun id => by
        rw [Bool.eq_false_iff, ne_eq, ← mem_dirtyIds_iff, admissible]
        exact List.not_mem_nil
      exact ⟨meets_none _, h.upkeep rfl fun id _ hid => hid.clear (hclean id)⟩
  | evict id => exact ⟨meets_none _, h.upkeep rfl fun _ _ hid => hid.evict admissible⟩
  | tick => exact ⟨meets_none _, h.upkeep rfl fun _ _ hid => hid⟩

lemma Mirrors.run (h : Mirrors store map) (requests : List Request)
    (admissible : Admissible store requests) :
    List.Forall₂ Meets (store.run requests).1 (map.run requests) := by
  induction requests generalizing store map with
  | nil => exact .nil
  | cons request rest ih =>
      obtain ⟨hmeets, hafter⟩ := h.perform request admissible.1
      exact .cons hmeets (ih hafter admissible.2)

/-- **The cache cannot be seen**: over documents in memory, from none on, and with admissible
requests in any order, each answer is that of a plain map of instances. -/
theorem run_transparent (requests : List Request) (h : Admissible (new Memory.empty) requests) :
    List.Forall₂ Meets ((new Memory.empty).run requests).1
      (Instances.run .empty requests) :=
  new_mirrors.run requests h

/-- A counter that is made, changed, read again and found, and a note that comes and goes. -/
def counterStory : List Request :=
  [.create "Counter" (.ofList [("n", .null)]) "1" .epoch, .setVar "counter_1" "n" (.bool true),
    .findByClass "Counter", .flush, .evict "counter_1", .load "counter_1",
    .save "note" (.new "note" "Note" .epoch .empty), .removeVar "note" "class", .delete "note",
    .load "note", .clear, .removeVar "counter_1" "n"]

theorem run_transparent_counterStory :
    Admissible (new Memory.empty) counterStory ∧
      List.Forall₂ Meets ((new Memory.empty).run counterStory).1
        (Instances.run .empty counterStory) := by
  have hnull : Value.null.Storable := ⟨trivial, trivial, by decide⟩
  have htrue : (Value.bool true).Storable := ⟨trivial, trivial, by decide⟩
  have hdefaults : ∀ m ∈ (SortedMap.ofList [("n", Value.null)]).entries, m.2.Storable :=
    fun m hm => List.mem_singleton.mp (SortedMap.mem_of_mem_ofList hm) ▸ hnull
  have hnote : (Instance.new "note" "Note" .epoch .empty).Made := .new _ _ _ trivial
  have hmembers : ∀ m ∈ (Instance.new "note" "Note" .epoch .empty).data.entries,
      m.2.IntegersOnly ∧ m.2.depth < depthLimit := by decide +kernel
  have h : Admissible (new Memory.empty) counterStory := by
    refine ⟨⟨hdefaults, by decide, by decide⟩, htrue, trivial, trivial, ?_, trivial,
      ⟨hnote, rfl, hmembers, by decide, by decide⟩, trivial, trivial, trivial, ?_, trivial, trivial⟩
    · show isDirty _ _ = false
      decide +kernel
    · show dirtyIds _ = []
      decide +kernel
  exact ⟨h, run_transparent counterStory h⟩

end ObjectMemory.Store
