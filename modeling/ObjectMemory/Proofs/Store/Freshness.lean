import ObjectMemory.Proofs.Store.Deletion

/-!
# New instances get new ids

The id of a new instance is its class in lower case, an underscore, and a suffix.  The class may
have underscores of its own, and different classes may come out alike, so it is the suffix alone
that tells ids apart: it is what follows the last underscore, as long as no suffix has one.  Then an
id that is made is unlike all that were made before, if no suffix comes twice.

That nothing is there under such an id needs the whole history.  What a store has, it has under ids
that it made, because making is the only way to come by a new id when instances are saved under ids
that were made before.  Deleted ones are no exception, and nor are those that could not be written.

* `suffix_eq_of_deriveId_eq` — an id tells its suffix;
* `Move`, `runMoves` — what can happen to a store over any document store;
* `madeIds`, `suffixes` — the ids that were made, and all suffixes that were drawn for them;
* `Lacks.move`, `lacks_of_notMem` — there is nothing under other ids than those that were made;
* **`created_unused`** — a new instance takes the place of no other, past or present.
-/

namespace ObjectMemory

open Backend Json

/-! ## Suffixes -/

/-- What follows the last of some character in a text. -/
lemma tail_eq_of_append_eq {c : Char} {xs ys us vs : List Char} (hus : c ∉ us) (hvs : c ∉ vs)
    (h : xs ++ c :: us = ys ++ c :: vs) : us = vs := by
  rcases List.append_eq_append_iff.mp h with ⟨between, -, heq⟩ | ⟨between, -, heq⟩
  · cases between with
    | nil => exact (List.cons.inj heq).2
    | cons d between =>
        obtain ⟨-, rfl⟩ := List.cons.inj heq
        exact absurd (List.mem_append_right _ List.mem_cons_self) hus
  · cases between with
    | nil => exact (List.cons.inj heq).2.symm
    | cons d between =>
        obtain ⟨-, rfl⟩ := List.cons.inj heq
        exact absurd (List.mem_append_right _ List.mem_cons_self) hvs

/-- **An id tells its suffix**, whatever the classes are, if suffixes have no underscore. -/
lemma suffix_eq_of_deriveId_eq {className className' suffix suffix' : String}
    (hsuffix : '_' ∉ suffix.toList) (hsuffix' : '_' ∉ suffix'.toList)
    (h : deriveId className suffix = deriveId className' suffix') : suffix = suffix' := by
  have htext := congrArg String.toList h
  simp only [deriveId, String.toList_append, List.append_assoc] at htext
  exact String.toList_inj.mp (tail_eq_of_append_eq hsuffix hsuffix' htext)

namespace Store

/-! ## What can happen -/

/-- What can happen to a store over any document store. -/
inductive Move (β : Type) where
  | request (asked : Request)
  /-- An update that may leave anything in place of the instance. -/
  | rework (id : String) (change : Instance → Instance)
  /-- Something that becomes of the document store itself, as when it takes no changes any more. -/
  | outside (change : β → β)

variable {β : Type} [DocumentStore β]

def Move.happen (store : Store β) : Move β → Store β
  | request asked => (store.perform asked).2
  | rework id change => (store.update id fun object => ((), change object)).2
  | outside change => { store with backend := change store.backend }

/-- What becomes of the document store itself leaves all documents as they are. -/
def Move.Quiet : Move β → Prop
  | outside change =>
    ∀ backend id, DocumentStore.get (change backend) id = DocumentStore.get backend id
  | _ => True

def runMoves (store : Store β) (moves : List (Move β)) : Store β :=
  moves.foldl Move.happen store

/-- The id that is made, if an instance is made. -/
def Move.made (store : Store β) : Move β → Option String
  | request (.create className defaults suffix now) =>
    match (store.create className defaults suffix now).1 with
    | .ok (id, _) => some id
    | .error _ => none
  | _ => none

/-- All ids that are made, whatever becomes of them later. -/
def madeIds (store : Store β) : List (Move β) → List String
  | [] => []
  | move :: rest => (move.made store).toList ++ madeIds (move.happen store) rest

omit [DocumentStore β] in
/-- The suffix that is drawn to make an instance, also if that fails. -/
def Move.suffix? : Move β → Option String
  | request (.create _ _ suffix _) => some suffix
  | _ => none

omit [DocumentStore β] in
def suffixes (moves : List (Move β)) : List String := moves.filterMap Move.suffix?

/-- Instances are saved under ids that were made before. -/
def SavesMade (store : Store β) (moves : List (Move β)) : Prop :=
  ∀ earlier id object later, moves = earlier ++ .request (.save id object) :: later →
    id ∈ madeIds store earlier

/-! ## Ids that were not made -/

variable {store : Store β} {id : String} {moves : List (Move β)}

omit [DocumentStore β] in
lemma suffixes_append (earlier later : List (Move β)) :
    suffixes (earlier ++ later) = suffixes earlier ++ suffixes later :=
  List.filterMap_append

/-- Making an instance is saving it under an id of its own. -/
lemma create_eq (store : Store β) (className suffix : String) (defaults : Object)
    (now : Timestamp) : ∃ object, store.create className defaults suffix now
      = ((store.save (deriveId className suffix) object).1.map fun () =>
          (deriveId className suffix, object), (store.save (deriveId className suffix) object).2) :=
  ⟨.new (deriveId className suffix) className now defaults, rfl⟩

lemma eq_deriveId_of_create {className suffix : String} {defaults : Object} {now : Timestamp}
    {object : Instance} (h : (store.create className defaults suffix now).1 = .ok (id, object)) :
    id = deriveId className suffix := by
  obtain ⟨made, heq⟩ := store.create_eq className suffix defaults now
  rw [heq] at h
  cases hsave : (store.save (deriveId className suffix) made).1 with
  | error failure =>
      rw [hsave] at h
      cases h
  | ok done =>
      rw [hsave] at h
      exact (congrArg Prod.fst (Except.ok.inj h)).symm

/-- An id that is made ends in the suffix that was drawn for it. -/
lemma derived_of_made {move : Move β} (h : move.made store = some id) :
    ∃ className suffix, move.suffix? = some suffix ∧ id = deriveId className suffix := by
  cases move with
  | request asked =>
      cases asked with
      | create className defaults suffix now =>
          rw [Move.made] at h
          split at h
          · next made object heq =>
              obtain rfl := Option.some.inj h
              exact ⟨className, suffix, rfl, eq_deriveId_of_create heq⟩
          · cases h
      | _ => cases h
  | _ => cases h

lemma derived_of_mem_madeIds (h : id ∈ madeIds store moves) :
    ∃ className, ∃ suffix ∈ suffixes moves, id = deriveId className suffix := by
  induction moves generalizing store with
  | nil => cases h
  | cons move rest ih =>
      rw [madeIds, List.mem_append, Option.mem_toList] at h
      rcases h with hmade | hrest
      · obtain ⟨className, suffix, hsuffix, hid⟩ := derived_of_made hmade
        exact ⟨className, suffix, List.mem_filterMap.mpr ⟨move, List.mem_cons_self, hsuffix⟩, hid⟩
      · obtain ⟨className, suffix, hsuffix, hid⟩ := ih hrest
        obtain ⟨other, hother, heq⟩ := List.mem_filterMap.mp hsuffix
        exact ⟨className, suffix,
          List.mem_filterMap.mpr ⟨other, List.mem_cons_of_mem _ hother, heq⟩, hid⟩

variable [LawfulDocumentStore β]

/-- Making an instance that fails leaves everything as it was. -/
lemma view_create_of_not_made {className suffix : String} {defaults : Object} {now : Timestamp}
    (h : (Move.request (.create className defaults suffix now)).made store
      ≠ some (deriveId className suffix)) (id : String) :
    (store.create className defaults suffix now).2.view id = store.view id := by
  obtain ⟨object, heq⟩ := store.create_eq className suffix defaults now
  rw [Move.made] at h
  rcases store.save_cases (deriveId className suffix) object with
    ⟨failure, hsave⟩ | ⟨saved, hsave, -⟩
  · rw [heq, hsave]
  · rw [heq, hsave] at h
    exact absurd rfl h

/-- **What there is not comes by being made**, if nothing is saved under the id. -/
lemma View.Lacks.move (h : (store.view id).Lacks) {move : Move β} (quiet : move.Quiet)
    (hmade : move.made store ≠ some id)
    (hsave : ∀ object, move ≠ .request (.save id object)) :
    ((move.happen store).view id).Lacks := by
  cases move with
  | request asked =>
      by_cases hspares : asked.Spares id
      · exact h.perform hspares
      · cases asked with
        | save other object =>
            obtain rfl : other = id := not_not.mp hspares
            exact absurd rfl (hsave object)
        | create className defaults suffix now =>
            obtain rfl : deriveId className suffix = id := not_not.mp hspares
            show View.Lacks ((store.create className defaults suffix now).2.view _)
            rwa [view_create_of_not_made hmade]
        | _ => exact absurd trivial hspares
  | rework other change =>
      rcases eq_or_ne id other with rfl | hne
      · rwa [Move.happen, h.update]
      · rwa [Move.happen, view_update_of_ne _ hne]
  | outside change =>
      rw [View.Lacks, Move.happen, view, quiet store.backend id]
      exact h

/-- **There is nothing under other ids than those that were made**, and those that were known. -/
lemma lacks_of_notMem (known : List String) (hknown : ∀ id ∉ known, (store.view id).Lacks)
    (quiet : ∀ move ∈ moves, move.Quiet)
    (saves : ∀ earlier id object later, moves = earlier ++ .request (.save id object) :: later →
      id ∈ known ++ madeIds store earlier) :
    ∀ id ∉ known ++ madeIds store moves, ((runMoves store moves).view id).Lacks := by
  induction moves generalizing store known with
  | nil =>
      rw [madeIds, List.append_nil]
      exact hknown
  | cons move rest ih =>
      obtain ⟨hquiet, hrest⟩ := List.forall_mem_cons.mp quiet
      rw [madeIds, ← List.append_assoc]
      refine ih _ (fun id hid => ?_) hrest fun earlier id object later heq => ?_
      · rw [List.mem_append, Option.mem_toList, not_or] at hid
        refine (hknown id hid.1).move hquiet hid.2 fun object hsave => hid.1 ?_
        have hmem := saves [] id object rest (congrArg (· :: rest) hsave)
        rwa [madeIds, List.append_nil] at hmem
      · have hmem := saves (move :: earlier) id object later (congrArg (move :: ·) heq)
        rwa [madeIds, ← List.append_assoc] at hmem

/-! ## New ids -/

/-- **A new instance takes the place of no other**, past or present: the id that it gets was never
made before, nothing is cached of it, and it has no document.  It does not matter what the classes
are, and what was done in between to the instances that there were, deleted ones included. -/
theorem created_unused {backend : β} (empty : ∀ id, DocumentStore.get backend id = .ok none)
    {moves earlier later : List (Move β)} (quiet : ∀ move ∈ moves, move.Quiet)
    (plain : ∀ suffix ∈ suffixes moves, '_' ∉ suffix.toList) (distinct : (suffixes moves).Nodup)
    (saves : SavesMade (new backend) moves) {className suffix : String} {defaults : Object}
    {now : Timestamp}
    (here : moves = earlier ++ .request (.create className defaults suffix now) :: later)
    {object : Instance}
    (created : ((runMoves (new backend) earlier).create className defaults suffix now).1
      = .ok (id, object)) :
    id ∉ madeIds (new backend) earlier ∧ (runMoves (new backend) earlier).isCached id = false ∧
      DocumentStore.get (runMoves (new backend) earlier).backend id = .ok none := by
  subst here
  have hsuffixes : suffixes (earlier ++ .request (.create className defaults suffix now) :: later)
      = suffixes earlier ++ suffix :: suffixes later := suffixes_append ..
  rw [hsuffixes] at plain distinct
  have hid := eq_deriveId_of_create created
  have hnew : id ∉ madeIds (new backend) earlier := by
    intro hmem
    obtain ⟨className', suffix', hsuffix', hid'⟩ := derived_of_mem_madeIds hmem
    have hplain := plain suffix (List.mem_append_right _ List.mem_cons_self)
    have hplain' := plain suffix' (List.mem_append_left _ hsuffix')
    obtain rfl := suffix_eq_of_deriveId_eq hplain hplain' (hid.symm.trans hid')
    exact (List.nodup_append.mp distinct).2.2 suffix hsuffix' suffix List.mem_cons_self rfl
  have hlacks : ((runMoves (new backend) earlier).view id).Lacks := by
    refine lacks_of_notMem [] (fun other _ => ?_) (fun move hmove => ?_) ?_ id hnew
    · exact congrArg (View.mk none) (empty other)
    · exact quiet move (List.mem_append_left _ hmove)
    · rintro before other saved after rfl
      exact saves before other saved (after ++ .request (.create className defaults suffix now)
        :: later) (by simp)
  exact ⟨hnew, isCached_eq_false.mpr hlacks.entry, congrArg View.document hlacks⟩

/-- An instance of a class is deleted and saved again, and classes that come out alike in lower case
go on making instances, of which one cannot be written. -/
def lookalikes : List (Move Memory) :=
  [.request (.create "App::Item" .empty "1" .epoch), .request (.delete "app_item_1"),
    .request (.save "app_item_1" (.new "app_item_1" "App::Item" .epoch .empty)),
    .outside (·.setReadOnly true), .request (.create "app_Item" .empty "2" .epoch),
    .outside (·.setReadOnly false)]

theorem created_unused_lookalikes :
    let next : Move Memory := .request (.create "APP_ITEM" .empty "3" .epoch)
    let store := runMoves (new Memory.empty) lookalikes
    (∀ id, DocumentStore.get Memory.empty id = .ok none) ∧
    (∀ move ∈ lookalikes ++ [next], move.Quiet) ∧
    (∀ suffix ∈ suffixes (lookalikes ++ [next]), '_' ∉ suffix.toList) ∧
    (suffixes (lookalikes ++ [next])).Nodup ∧
    SavesMade (new Memory.empty) (lookalikes ++ [next]) ∧
    ∃ object, (store.create "APP_ITEM" .empty "3" .epoch).1 = .ok ("app_item_3", object) ∧
      "app_item_3" ∉ madeIds (new Memory.empty) lookalikes ∧
      store.isCached "app_item_3" = false ∧
      DocumentStore.get store.backend "app_item_3" = .ok none := by
  intro next store
  have hempty : ∀ id, DocumentStore.get Memory.empty id = .ok none := fun id => rfl
  have hquiet : ∀ move ∈ lookalikes ++ [next], move.Quiet := by
    intro move hmove
    simp only [lookalikes, next, List.cons_append, List.nil_append, List.mem_cons,
      List.not_mem_nil, or_false] at hmove
    rcases hmove with rfl | rfl | rfl | rfl | rfl | rfl | rfl
    all_goals first | trivial | exact fun backend id => rfl
  have hplain : ∀ suffix ∈ suffixes (lookalikes ++ [next]), '_' ∉ suffix.toList := by
    decide +kernel
  have hdistinct : (suffixes (lookalikes ++ [next])).Nodup := by decide +kernel
  have hsaves : SavesMade (new Memory.empty) (lookalikes ++ [next]) := by
    intro earlier id object later h
    simp [lookalikes, next, List.cons_eq_append_iff] at h
    obtain ⟨rfl, ⟨rfl, -⟩, -⟩ := h
    decide +kernel
  have hid : (store.create "APP_ITEM" .empty "3" .epoch).1.toOption.map Prod.fst
      = some "app_item_3" := by
    decide +kernel
  obtain ⟨⟨_, object⟩, hmade, rfl⟩ := Option.map_eq_some_iff.mp hid
  have hcreated := of_toOption_some hmade
  exact ⟨hempty, hquiet, hplain, hdistinct, hsaves, object, hcreated,
    created_unused hempty hquiet hplain hdistinct hsaves rfl hcreated⟩

end Store

end ObjectMemory
