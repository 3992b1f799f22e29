import ObjectMemory.Proofs.Store.Flushable

/-!
# Writing back in order

A flush follows a list of the dirty ids that was made before it, and writes one entry after the
other.  No entry that is written changes what is dirty or refused behind it, so the flush writes the
ids before the first that is refused, all of them and only them, and leaves the others for the next
flush.

* `Wrote` — some entries were written, and nothing else was touched;
* `Wrote.append` — entries that are written in two goes;
* `flushIds_of_accepted`, `flushIds_of_refused` — ids that are all taken, or one of them refused;
* `FlushesAll`, `FlushStops` — what becomes of a flush;
* **`flush_writes_front`** — every flush.
-/

namespace ObjectMemory.Store

open Backend Json

variable {β : Type} [DocumentStore β]

/-! ## In order -/

lemma run_append (store : Store β) (front rest : List Request) :
    store.run (front ++ rest) = ((store.run front).1 ++ ((store.run front).2.run rest).1,
      ((store.run front).2.run rest).2) := by
  induction front generalizing store with
  | nil => rfl
  | cons request front ih => simp only [List.cons_append, run, ih]

/-- Writing some ids without failure is to write each of them. -/
lemma run_of_flushIds {ids : List String} {count : ℕ} :
    ∀ {store after : Store β}, store.flushIds ids = (.ok count, after) →
      store.run (ids.map .saveCached) = (ids.map fun _ => .done (.ok ()), after) := by
  induction ids generalizing count with
  | nil =>
      intro store after h
      rw [flushIds, Prod.mk.injEq] at h
      rw [List.map_nil, run, h.2, List.map_nil]
  | cons id rest ih =>
      intro store after h
      rw [flushIds] at h
      split at h
      · cases h
      · next saved heq =>
          rcases hrest : saved.flushIds rest with ⟨answer, final⟩
          simp only [hrest, Prod.mk.injEq] at h
          obtain ⟨hanswer, rfl⟩ := h
          cases answer with
          | error error => cases hanswer
          | ok count => simp [run, perform, Answer.wrap, heq, ih hrest]

/-- Ids behind those that are written without failure. -/
lemma flushIds_append {front rest : List String} {count : ℕ} :
    ∀ {store written : Store β}, store.flushIds front = (.ok count, written) →
      store.flushIds (front ++ rest)
        = ((written.flushIds rest).1.map (· + count), (written.flushIds rest).2) := by
  induction front generalizing count with
  | nil =>
      intro store written h
      rw [flushIds, Prod.mk.injEq, Except.ok.injEq] at h
      obtain ⟨rfl, rfl⟩ := h
      cases hrest : (store.flushIds rest).1 <;> simp [Prod.ext_iff, hrest, Except.map]
  | cons id front ih =>
      intro store written h
      rw [flushIds] at h
      rw [List.cons_append, flushIds]
      split at h
      · cases h
      · next saved heq =>
          rcases hfront : saved.flushIds front with ⟨answer, final⟩
          simp only [hfront, Prod.mk.injEq] at h
          obtain ⟨hanswer, rfl⟩ := h
          cases answer with
          | error error => cases hanswer
          | ok less =>
              obtain rfl : less + 1 = count := Except.ok.inj hanswer
              simp only [ih hfront]
              cases (final.flushIds rest).1 <;> simp [Except.map, Nat.add_assoc]

/-! ## What was written -/

lemma moment_saveCached (store : Store β) (id : String) :
    (store.saveCached id).2.moment = store.moment := by
  rcases store.saveCached_cases id with ⟨-, heq⟩ | ⟨entry, -, heq⟩
  · rw [heq]
  · rw [heq, save]
    split <;> rfl

variable [LawfulDocumentStore β]

/-- The entries of these ids were written, and nothing else was touched.  Each is a clean entry of
the same instance now, and has the document of it. -/
structure Wrote (store after : Store β) (ids : List String) : Prop where
  moment : after.moment = store.moment
  written : ∀ id ∈ ids, ∃ entry, (store.view id).entry = some entry ∧
    after.view id = ⟨some (.clean entry.object store.moment),
      .ok (some (LawfulDocumentStore.kept β entry.object.encode))⟩
  untouched : ∀ id, id ∉ ids → after.view id = store.view id

variable {store written after : Store β} {front rest ids : List String} {id : String}

lemma wrote_nil (store : Store β) : store.Wrote store [] where
  moment := rfl
  written _ h := absurd h List.not_mem_nil
  untouched _ _ := rfl

/-- What is written in two goes is written. -/
lemma Wrote.append (hfront : store.Wrote written front) (hrest : written.Wrote after rest)
    (distinct : front.Disjoint rest) : store.Wrote after (front ++ rest) where
  moment := hrest.moment.trans hfront.moment
  written id hid := by
    rcases List.mem_append.mp hid with hid | hid
    · obtain ⟨entry, hentry, hview⟩ := hfront.written id hid
      exact ⟨entry, hentry, (hrest.untouched id (distinct hid)).trans hview⟩
    · have hbefore := hfront.untouched id fun hmem => distinct hmem hid
      obtain ⟨entry, hentry, hview⟩ := hrest.written id hid
      rw [hbefore] at hentry
      rw [hfront.moment] at hview
      exact ⟨entry, hentry, hview⟩
  untouched id hid := by
    rw [List.mem_append, not_or] at hid
    exact (hrest.untouched id hid.2).trans (hfront.untouched id hid.1)

/-- What was written is clean, and nothing else became so. -/
lemma Wrote.isDirty (h : store.Wrote after ids) (id : String) :
    after.isDirty id = true ↔ store.isDirty id = true ∧ id ∉ ids := by
  by_cases hid : id ∈ ids
  · obtain ⟨entry, -, hview⟩ := h.written id hid
    have hclean : after.isDirty id = false := by
      rw [isDirty_eq_false, hview]
      rintro _ ⟨⟩
      rfl
    simp [hclean, hid]
  · simp [isDirty_eq_of_view (h.untouched id hid), hid]

/-- The ids that are dirty afterwards are those that were and were not written. -/
lemma Wrote.dirtyIds (h : store.Wrote after ids) :
    after.dirtyIds = store.dirtyIds.filter fun id => id ∉ ids := by
  refine (dirtyIds_ascending _).eq_of_mem_iff ((dirtyIds_ascending _).filter _) fun id => ?_
  simp [mem_dirtyIds_iff, h.isDirty]

lemma Wrote.saveCached (cached : store.isCached id = true) (taken : store.refusal? id = none) :
    ∃ saved, store.saveCached id = (.ok (), saved) ∧ store.Wrote saved [id] := by
  have hok := saveCached_of_accepts (accepts_iff.mpr ⟨cached, taken⟩)
  rcases store.saveCached_outcome id with
    ⟨-, heq⟩ | ⟨failure, heq⟩ | ⟨entry, saved, hentry, heq, hview, hothers⟩
  · rw [heq] at hok
    cases hok
  · rw [heq] at hok
    cases hok
  · have hmoment := store.moment_saveCached id
    rw [heq] at hmoment
    refine ⟨saved, heq, hmoment, fun other hother => ?_, fun other hother => ?_⟩
    · obtain rfl := List.mem_singleton.mp hother
      exact ⟨entry, hentry, hview⟩
    · exact hothers other fun h => hother (List.mem_singleton.mpr h)

variable [SteadyDocumentStore β]

/-- **Ids that are all taken** are all written. -/
lemma flushIds_of_accepted (distinct : ids.Nodup) : ∀ {store : Store β},
    (∀ id ∈ ids, store.isCached id = true) → (∀ id ∈ ids, store.refusal? id = none) →
      ∃ after, store.flushIds ids = (.ok ids.length, after) ∧ store.Wrote after ids := by
  induction ids with
  | nil => exact fun {store} _ _ => ⟨store, rfl, wrote_nil store⟩
  | cons id rest ih =>
      intro store cached taken
      rw [List.forall_mem_cons] at cached taken
      obtain ⟨saved, heq, hwrote⟩ := Wrote.saveCached cached.1 taken.1
      obtain ⟨hcached, hrefusal⟩ := sameAccepted_of_saved heq
      rw [List.nodup_cons] at distinct
      obtain ⟨after, hrest, hafter⟩ := ih distinct.2 (hcached ▸ cached.2) (hrefusal ▸ taken.2)
      refine ⟨after, ?_, hwrote.append hafter (List.singleton_disjoint.mpr distinct.1)⟩
      simp only [flushIds, heq, hrest]
      rfl

/-- Ids that are all written were all taken. -/
lemma refusal?_of_flushIds {count : ℕ} : ∀ {store after : Store β},
    store.flushIds ids = (.ok count, after) → ∀ id ∈ ids, store.refusal? id = none := by
  induction ids generalizing count with
  | nil => exact fun _ _ hid => absurd hid List.not_mem_nil
  | cons id rest ih =>
      intro store after h
      rw [flushIds] at h
      split at h
      · cases h
      · next saved heq =>
          rcases hrest : saved.flushIds rest with ⟨answer, final⟩
          simp only [hrest, Prod.mk.injEq] at h
          obtain ⟨-, hsame⟩ := sameAccepted_of_saved heq
          have hhead : store.refusal? id = none := by
            refine Option.eq_none_iff_forall_ne_some.mpr fun failure hfailure => ?_
            rw [saveCached_of_refusal hfailure] at heq
            cases heq
          cases answer with
          | error error => cases h.1
          | ok count =>
              refine List.forall_mem_cons.mpr ⟨hhead, fun other hother => ?_⟩
              rw [← hsame, ih hrest other hother]

/-- **Ids of which one is refused** are written up to there. -/
lemma flushIds_of_refused {failure : Failure} (distinct : front.Nodup)
    (cached : ∀ other ∈ front, store.isCached other = true)
    (taken : ∀ other ∈ front, store.refusal? other = none)
    (refused : store.refusal? id = some failure) (rest : List String) :
    ∃ after, store.flushIds (front ++ id :: rest) = (.error (.backend .put id failure), after) ∧
      after.saveCached id = (.error (.backend .put id failure), after) ∧
      store.flushIds front = (.ok front.length, after) ∧ store.Wrote after front := by
  obtain ⟨after, hfront, hwrote⟩ := flushIds_of_accepted distinct cached taken
  have hstill : after.refusal? id = some failure := by
    rw [← refused]
    have hkept := flushIds_keeps (P := fun s => s.refusal? id = store.refusal? id)
      (fun s other hs => (refusal?_saveCached s other id).trans hs) front rfl
    rwa [hfront] at hkept
  have hsaved := saveCached_of_refusal hstill
  refine ⟨after, ?_, hsaved, hfront, hwrote⟩
  rw [flushIds_append hfront, flushIds, hsaved]
  rfl

/-! ## Flushes -/

/-- A flush writes all dirty entries, and nothing is left to another one. -/
structure FlushesAll (store : Store β) : Prop where
  answer : store.flush.1 = .ok store.dirtyIds.length
  wrote : store.Wrote store.flush.2 store.dirtyIds
  clean : store.flush.2.dirtyIds = []
  again : store.flush.2.flush = (.ok 0, store.flush.2)
  inOrder : store.run (store.dirtyIds.map .saveCached)
    = (store.dirtyIds.map fun _ => .done (.ok ()), store.flush.2)

/-- A flush writes the entries before the one of an id, which is refused, and leaves this one and
the rest to the next flush, at which the document store may be another one with the same
documents. -/
structure FlushStops (store : Store β) (front : List String) (id : String) (rest : List String)
    (failure : Failure) : Prop where
  answer : store.flush.1 = .error (.backend .put id failure)
  wrote : store.Wrote store.flush.2 front
  left : store.flush.2.dirtyIds = id :: rest
  inOrder : store.run ((front ++ [id]).map .saveCached)
    = (front.map (fun _ => .done (.ok ())) ++ [.done (.error (.backend .put id failure))],
      store.flush.2)
  resumed : ∀ backend : β,
    (∀ other, DocumentStore.get backend other = DocumentStore.get store.flush.2.backend other) →
    (∀ other ∈ id :: rest, ({ store.flush.2 with backend } : Store β).refusal? other = none) →
      ({ store.flush.2 with backend } : Store β).flush.1 = .ok (rest.length + 1) ∧
      store.flush.2.Wrote ({ store.flush.2 with backend } : Store β).flush.2 (id :: rest)

lemma flushesAll (taken : ∀ id ∈ store.dirtyIds, store.refusal? id = none) : store.FlushesAll := by
  obtain ⟨after, hflush, hwrote⟩ := flushIds_of_accepted (dirtyIds_nodup store)
    (fun _ => isCached_of_mem_dirtyIds) taken
  have hafter : store.flush = (.ok store.dirtyIds.length, after) := hflush
  have hclean : after.dirtyIds = [] := by
    rw [hwrote.dirtyIds, List.filter_eq_nil_iff]
    intro id hid
    simpa using hid
  refine ⟨?_, ?_, ?_, ?_, ?_⟩ <;> rw [hafter]
  · exact hwrote
  · exact hclean
  · show after.flush = _
    rw [flush, hclean, flushIds]
  · exact run_of_flushIds hflush

/-- What is refused first stops a flush. -/
lemma flushStops {failure : Failure} (hdirty : store.dirtyIds = front ++ id :: rest)
    (taken : ∀ other ∈ front, store.refusal? other = none)
    (refused : store.refusal? id = some failure) : store.FlushStops front id rest failure := by
  have hnodup : (front ++ id :: rest).Nodup := hdirty ▸ dirtyIds_nodup store
  obtain ⟨hfront, -, hdisjoint⟩ := List.nodup_append.mp hnodup
  have hcached : ∀ other ∈ front, store.isCached other = true := fun other hother =>
    isCached_of_mem_dirtyIds (hdirty ▸ List.mem_append_left _ hother)
  obtain ⟨after, hflush, hsaved, hwritten, hwrote⟩ :=
    flushIds_of_refused hfront hcached taken refused rest
  have hafter : store.flush = (.error (.backend .put id failure), after) := by
    rw [flush, hdirty, hflush]
  have hleft : after.dirtyIds = id :: rest := by
    have hfilter : front.filter (fun other => other ∉ front) = [] := by simp
    have hkept : (id :: rest).filter (fun other => other ∉ front) = id :: rest := by
      refine List.filter_eq_self.mpr fun other hother => ?_
      simpa using fun hmem => hdisjoint other hmem other hother rfl
    rw [hwrote.dirtyIds, hdirty, List.filter_append, hfilter, hkept, List.nil_append]
  refine ⟨?_, ?_, ?_, ?_, ?_⟩ <;> rw [hafter]
  · exact hwrote
  · exact hleft
  · rw [List.map_append, run_append, run_of_flushIds hwritten]
    simp [run, perform, Answer.wrap, hsaved]
  · intro backend hsame htaken
    set later : Store β := { after with backend }
    have hdirtyLater : later.dirtyIds = id :: rest := hleft
    have hall : later.FlushesAll := flushesAll (by rwa [hdirtyLater])
    have hview : ∀ other, later.view other = after.view other := fun other => by
      rw [view, view, hsame other]
    refine ⟨by rw [hall.answer, hdirtyLater, List.length_cons], ?_⟩
    have hlater := hall.wrote
    rw [hdirtyLater] at hlater
    refine ⟨hlater.moment, fun other hother => ?_, fun other hother => ?_⟩
    · rw [← hview]
      exact hlater.written other hother
    · rw [← hview]
      exact hlater.untouched other hother

/-- **A flush writes the dirty entries in ascending order, up to the first that is refused.**  If
none is, nothing is left for another flush, and otherwise exactly the rest is.  It goes as writing
the cached instances one by one does, until one cannot be written. -/
theorem flush_writes_front (store : Store β) :
    store.dirtyIds.Pairwise (· < ·) ∧
      ((∀ id ∈ store.dirtyIds, store.refusal? id = none) → store.FlushesAll) ∧
      ∀ front id rest failure, store.dirtyIds = front ++ id :: rest →
        (∀ other ∈ front, store.refusal? other = none) → store.refusal? id = some failure →
          store.FlushStops front id rest failure :=
  ⟨dirtyIds_ascending store, flushesAll, fun _ _ _ _ => flushStops⟩

/-- The entry of a counter that was changed and not written. -/
def changedCounter (suffix : String) : String × Entry :=
  ("counter_" ++ suffix,
    { object := .new ("counter_" ++ suffix) "Counter" .epoch .empty, dirty := true,
      loadedAt := 0, accessedAt := 0 })

/-- Three such counters, over documents that are not theirs. -/
def changedCounters {β : Type} (backend : β) : Store β :=
  ⟨backend, .ofList (["3", "1", "2"].map changedCounter), 0⟩

/-- The counters over a table of which another program holds the second row. -/
def contestedCounters : Store Table := changedCounters ⟨[], false, ["counter_2"]⟩

/-- The counters after a flush, when the row is free again. -/
def releasedCounters : Store Table :=
  let flushed := contestedCounters.flush.2
  { flushed with backend := { flushed.backend with contested := [] } }

theorem flush_writes_front_counters :
    (changedCounters Memory.empty).FlushesAll ∧
      (changedCounters (Memory.empty.setReadOnly true)).FlushStops []
        "counter_1" ["counter_2", "counter_3"] Memory.readOnlyFailure ∧
      contestedCounters.FlushStops ["counter_1"] "counter_2" ["counter_3"] (.database .locked) ∧
      releasedCounters.flush.1 = .ok 2 := by
  have htaken : ∀ id ∈ (changedCounters Memory.empty).dirtyIds,
      (changedCounters Memory.empty).refusal? id = none := by decide +kernel
  have hreadOnly := (flush_writes_front (changedCounters (Memory.empty.setReadOnly true))).2.2 []
    "counter_1" ["counter_2", "counter_3"] Memory.readOnlyFailure (by decide +kernel)
    (fun _ h => absurd h List.not_mem_nil) (by decide +kernel)
  have hcontested := (flush_writes_front contestedCounters).2.2 ["counter_1"] "counter_2"
    ["counter_3"] (.database .locked) (by decide +kernel) (by decide +kernel) (by decide +kernel)
  have hsame : ∀ (table : Table) (id : String),
      DocumentStore.get { table with contested := [] } id = DocumentStore.get table id :=
    fun _ _ => rfl
  have hreleased := hcontested.resumed { contestedCounters.flush.2.backend with contested := [] }
    (hsame _) (by decide +kernel)
  exact ⟨(flush_writes_front _).2.1 htaken, hreadOnly, hcontested, hreleased.1⟩

end ObjectMemory.Store
