import ObjectMemory.Proofs.Message.Contents
import ObjectMemory.Proofs.Store.Flush
import ObjectMemory.Proofs.Store.Holding
import ObjectMemory.Proofs.Store.Requests
import ObjectMemory.Session.Basic

/-!
# A session answers as a copy in memory

What happens around the messages to an instance does not show in their answers.  The instance may be
written, dropped and read again, an interpreter that leaves the database alone may have its turn, and
the session may be closed and opened again; the answers are those of one copy in memory that gets
the same messages, and in the end the instance is that copy.

Changes are marked on the copy for good, while a session takes the mark off and keeps a dirty flag
instead.  The behaviors heed no mark, so it is enough that the session holds the copy without it
(`Tracks`).

* `Event`, `Event.happen`, `happenAll` — what happens, and to a session;
* `Event.expected`, `expectAll` — what is expected of a copy;
* `undisturbed` — no request to the database is refused, and no dirty entry is dropped;
* `Tracks`, `Tracks.happen` — the simulation and its step;
* **`sends_as_copy`** — the answers of all messages, and the instance after them.
-/

namespace ObjectMemory.Session

open Backend Json Message

/-! ## What happens -/

/-- What can happen around one instance of a session. -/
inductive Event where
  /-- A message, and how the interpreter would run, which leaves the database alone. -/
  | send (selector : String) (arguments : List Value) (run : Invocation → Run)
  | load (other : String)
  | flush
  | evict (other : String)
  /-- The session is closed, and another one is opened on its database. -/
  | reopen
  /-- Another connection begins or ceases to write. -/
  | lock (locked : Bool)

/-- What a session answers. -/
inductive Answer where
  | sent (outcome : Except Error String)
  | loaded (outcome : Except Error Instance)
  | flushed (outcome : Except Error Nat)
  | closed (report : Store.FlushReport)
  | nothing

/-- The answer to what happens around the instance of an id, and the session after it. -/
def Event.happen (id : String) (session : Session) : Event → Answer × Session
  | send selector arguments run =>
    let (outcome, session) :=
      session.send (fun invocation table => (run invocation, table)) id selector arguments
    (.sent outcome, session)
  | load other =>
    let (outcome, session) := session.load other
    (.loaded outcome, session)
  | flush =>
    let (outcome, session) := session.flush
    (.flushed outcome, session)
  | evict other => (.nothing, { session with store := (session.store.evict other).2 })
  | reopen =>
    let (report, table) := session.close
    match openAt session.configuration (.database table) session.registry with
    | .ok opened => (.closed report, opened)
    | .error _ => (.closed report, session)
  | lock locked =>
    let backend := { session.store.backend with locked }
    (.nothing, { session with store := { session.store with backend } })

/-- The answers to what happens in a row, and the session after it. -/
def happenAll (id : String) (session : Session) : List Event → List Answer × Session
  | [] => ([], session)
  | event :: rest =>
    let (answer, session) := event.happen id session
    let (answers, session) := happenAll id session rest
    (answer :: answers, session)

/-! ## What is expected -/

/-- The answer that a copy in memory lets expect, and the copy afterwards. -/
def Event.expected (id : String) (registry : Registry) (copy : Instance) :
    Event → Option Answer × Instance
  | send selector arguments _ =>
    match registry.dispatch selector arguments copy with
    | (.handled answer, copy) => (some (.sent (.ok answer)), copy)
    | (.failed error, copy) => (some (.sent (.error (.behavior id selector error))), copy)
    | (.notHandled, copy) => (none, copy)
  | load other => (if other = id then some (.loaded (.ok copy.unmodified)) else none, copy)
  | _ => (none, copy)

/-- The answers that a copy in memory lets expect, and the copy after all. -/
def expectAll (id : String) (registry : Registry) (copy : Instance) :
    List Event → List (Option Answer) × Instance
  | [] => ([], copy)
  | event :: rest =>
    let (answer, copy) := event.expected id registry copy
    let (answers, copy) := expectAll id registry copy rest
    (answer :: answers, copy)

/-! ## What must not happen -/

/-- Whether the database refused nothing. -/
def Answer.unrefused : Answer → Bool
  | sent (.error (.store (.backend ..))) => false
  | loaded (.error (.store (.backend ..))) => false
  | flushed (.error (.store (.backend ..))) => false
  | closed report => report.isClean
  | _ => true

/-- Whether no dirty entry is dropped. -/
def Event.isLossless (session : Session) : Event → Bool
  | evict other => !session.store.isDirty other
  | _ => true

/-- Whether the database refuses nothing and no dirty entry is dropped, at all times. -/
def undisturbed (id : String) (session : Session) : List Event → Bool
  | [] => true
  | event :: rest =>
    event.isLossless session && (event.happen id session).1.unrefused &&
      undisturbed id (event.happen id session).2 rest

/-! ## The simulation -/

/-- The session has the copy under the id, without its mark. -/
structure Tracks (session : Session) (id : String) (registry : Registry) (copy : Instance) :
    Prop where
  registry : session.registry = registry
  holds : (session.store.view id).Holds id copy.unmodified

variable {session : Session} {id : String} {registry : Registry} {copy : Instance}

lemma Tracks.of_has (h : Tracks session id registry copy) {store : Store Table}
    (hkeep : ∀ had, (session.store.view id).Has id had → (store.view id).Has id had) :
    Tracks { session with store } id registry copy :=
  ⟨h.registry, hkeep (some copy.unmodified) h.holds⟩

lemma Tracks.load (h : Tracks session id registry copy) (other : String) :
    Meets ((Event.load other).happen id session).1
        ((Event.load other).expected id registry copy).1 ∧
      Tracks ((Event.load other).happen id session).2 id registry copy := by
  refine ⟨?_, h.of_has fun had hhad => hhad.load other⟩
  rw [Event.expected]
  split_ifs with hother
  · subst hother
    obtain ⟨loaded, heq, -⟩ := h.holds.load
    simp only [Event.happen, Session.load, heq]
    exact meets_self _
  · exact meets_none _

/-! ## Messages -/

/-- A message to the interpreter leaves the database alone if the interpreter does. -/
lemma bridge_send_shared (bridge : Bridge) (run : Invocation → Run) (receiver selector : String)
    (arguments : List String) (table : Table) :
    (bridge.send (fun invocation table => (run invocation, table)) receiver selector arguments
      table).2 = table := by
  rw [Bridge.send]
  split_ifs <;> rfl

/-- What is written back is clean, and nothing that there is changes. -/
lemma writeBack_cases (session : Session) (id : String) :
    (∃ failure, session.writeBack id = (.error (.store (.backend .put id failure)), session)) ∨
    ∃ store, session.writeBack id = (.ok (), { session with store }) ∧
      store.isDirty id = false ∧
      ∀ had, (session.store.view id).Has id had → (store.view id).Has id had := by
  rw [writeBack]
  split_ifs with hdirty
  · rcases session.store.saveCached_outcome id with
      ⟨hnone, -⟩ | ⟨failure, heq⟩ | ⟨entry, saved, -, heq, -⟩
    · rw [Store.clean_iff.mp (Store.clean_of_none hnone)] at hdirty
      cases hdirty
    · rw [heq]
      exact .inl ⟨failure, rfl⟩
    · have hkeep := fun had (hhad : (session.store.view id).Has id had) => hhad.saveCached id
      rw [heq] at hkeep ⊢
      exact .inr ⟨saved, rfl, Store.saveCached_clean heq, hkeep⟩
  · exact .inr ⟨session.store, rfl, Bool.eq_false_iff.mpr hdirty, fun _ hhad => hhad⟩

/-- A message to an interpreter that leaves the database alone changes nothing that there is. -/
lemma Tracks.forward (h : Tracks session id registry copy) (run : Invocation → Run)
    (selector : String) (arguments : List Value)
    (unrefused : (Answer.sent (session.forward (fun invocation table => (run invocation, table)) id
      selector arguments).1).unrefused = true) :
    Tracks (session.forward (fun invocation table => (run invocation, table)) id selector
      arguments).2 id registry copy := by
  rcases session.writeBack_cases id with ⟨failure, heq⟩ | ⟨store, heq, hclean, hkeep⟩
  · rw [Session.forward, heq] at unrefused
    cases unrefused
  · rw [Session.forward, heq]
    simp only [bridge_send_shared]
    exact h.of_has fun had hhad => (hkeep had hhad).evict hclean

lemma Tracks.send (h : Tracks session id registry copy)
    (hregistry : registry.All Behavior.WritesContents) (selector : String)
    (arguments : List Value) (run : Invocation → Run)
    (unrefused : ((Event.send selector arguments run).happen id session).1.unrefused = true) :
    Meets ((Event.send selector arguments run).happen id session).1
        ((Event.send selector arguments run).expected id registry copy).1 ∧
      Tracks ((Event.send selector arguments run).happen id session).2 id registry
        ((Event.send selector arguments run).expected id registry copy).2 := by
  obtain rfl := h.registry
  obtain ⟨updated, heq, hholds, -⟩ := h.holds.update
    (Registry.dispatch_marks hregistry selector arguments)
    (Registry.dispatch_fits hregistry selector arguments)
  obtain ⟨hanswer, hsame⟩ := Registry.dispatch_unmodified hregistry selector arguments copy
  -- what the session does to the copy without its mark is what happens to the copy
  rw [hanswer] at heq
  rw [hsame] at hholds
  simp only [Event.happen, Session.send, heq] at unrefused ⊢
  rw [Event.expected]
  rcases hdispatch : session.registry.dispatch selector arguments copy with ⟨outcome, after⟩
  rw [hdispatch] at unrefused hholds
  have htracks : Tracks { session with store := updated } id session.registry after :=
    ⟨rfl, hholds⟩
  cases outcome with
  | handled answer => exact ⟨meets_self _, htracks⟩
  | failed error => exact ⟨meets_self _, htracks⟩
  | notHandled => exact ⟨meets_none _, htracks.forward run selector arguments unrefused⟩

/-! ## Closing and opening -/

/-- Closing without failure is a flush, and then every document can be read again. -/
lemma Tracks.reopen (h : Tracks session id registry copy)
    (unrefused : session.close.1.isClean = true) :
    Tracks (Event.reopen.happen id session).2 id registry copy := by
  obtain ⟨flushed, after, hflush, hbackend⟩ := Store.flush_of_close unrefused
  have hkept : (after.view id).Has id (some copy.unmodified) := by
    have hflushed : (session.store.flush.2.view id).Has id (some copy.unmodified) :=
      Store.View.Has.flush h.holds
    rwa [hflush] at hflushed
  have hdropped := hkept.dropped (Store.flush_clean hflush id)
  rcases hclose : session.store.close with ⟨report, table⟩
  rw [hclose] at hbackend
  obtain rfl : table = after.backend := hbackend
  simp only [Event.happen, Session.close, hclose, openAt, Place.opened]
  exact ⟨h.registry, hdropped⟩

/-! ## Anything in a row -/

/-- **The session and the copy agree on what happens**, and the session still tracks the copy. -/
lemma Tracks.happen (h : Tracks session id registry copy)
    (hregistry : registry.All Behavior.WritesContents) (event : Event)
    (lossless : event.isLossless session = true)
    (unrefused : (event.happen id session).1.unrefused = true) :
    Meets (event.happen id session).1 (event.expected id registry copy).1 ∧
      Tracks (event.happen id session).2 id registry (event.expected id registry copy).2 := by
  cases event with
  | send selector arguments run => exact h.send hregistry selector arguments run unrefused
  | load other => exact h.load other
  | flush => exact ⟨meets_none _, h.of_has fun had hhad => hhad.flush⟩
  | evict other =>
      have hclean : session.store.isDirty other = false := by simpa [Event.isLossless] using lossless
      exact ⟨meets_none _, h.of_has fun had hhad => hhad.evict hclean⟩
  | reopen =>
      refine ⟨meets_none _, h.reopen ?_⟩
      rcases hclose : session.close with ⟨report, table⟩
      simpa only [Event.happen, hclose, openAt, Place.opened, Answer.unrefused] using unrefused
  | lock locked => exact ⟨meets_none _, h.of_has fun had hhad => hhad⟩

lemma Tracks.happenAll (h : Tracks session id registry copy)
    (hregistry : registry.All Behavior.WritesContents) (events : List Event)
    (undisturbed : undisturbed id session events = true) :
    List.Forall₂ Meets (happenAll id session events).1 (expectAll id registry copy events).1 ∧
      Tracks (happenAll id session events).2 id registry (expectAll id registry copy events).2 := by
  induction events generalizing session copy with
  | nil => exact ⟨.nil, h⟩
  | cons event rest ih =>
      simp only [Session.undisturbed, Bool.and_eq_true] at undisturbed
      obtain ⟨⟨lossless, unrefused⟩, hrest⟩ := undisturbed
      obtain ⟨hmeets, hafter⟩ := h.happen hregistry event lossless unrefused
      obtain ⟨hmeetsRest, hfinal⟩ := ih hafter hrest
      exact ⟨.cons hmeets hmeetsRest, hfinal⟩

/-- A session has the instance that it made. -/
lemma tracks_created {className suffix : String} {defaults : Object} {now : Timestamp}
    (created : (session.create className defaults suffix now).1 = .ok id)
    (values : ∀ m ∈ defaults.entries, m.2.Storable)
    (years : 0 ≤ now.date.year ∧ now.date.year ≤ 9999) :
    Tracks (session.create className defaults suffix now).2 id session.registry
      (.new id className now defaults) := by
  have hstorable := Instance.new_storable (deriveId className suffix) className values years
  rw [Session.create, Store.create] at created ⊢
  rcases session.store.save_cases (deriveId className suffix)
    (.new (deriveId className suffix) className now defaults) with
    ⟨failure, heq⟩ | ⟨saved, heq, hview, -⟩
  · simp only [heq] at created
    cases created
  · simp only [heq] at created ⊢
    obtain rfl : deriveId className suffix = id := Except.ok.inj created
    refine ⟨rfl, ?_⟩
    rw [hview]
    exact Store.holds_saved hstorable rfl session.store.moment

/-- **A session answers as a copy in memory.**  Take an instance that a session with the built-in
behaviors has just made, of integers for numbers and not too deep, at a moment of this era.  Whatever
happens around it then, in whatever order, every answer of a behavior and every loaded instance is
that of one copy in memory that gets the same messages, and so is the instance in the end. -/
theorem sends_as_copy (session : Session) (builtin : session.registry = .builtin)
    {id className suffix : String} {defaults : Object} {now : Timestamp}
    (created : (session.create className defaults suffix now).1 = .ok id)
    (values : ∀ m ∈ defaults.entries, m.2.Storable)
    (years : 0 ≤ now.date.year ∧ now.date.year ≤ 9999) (events : List Event)
    (undisturbed :
      undisturbed id (session.create className defaults suffix now).2 events = true) :
    List.Forall₂ Meets
        (happenAll id (session.create className defaults suffix now).2 events).1
        (expectAll id .builtin (.new id className now defaults) events).1 ∧
      ((happenAll id (session.create className defaults suffix now).2 events).2.load id).1
        = .ok (expectAll id .builtin (.new id className now defaults) events).2.unmodified := by
  have htracks := tracks_created created values years
  rw [builtin] at htracks
  obtain ⟨hmeets, hfinal⟩ :=
    htracks.happenAll Registry.builtin_writesContents events undisturbed
  refine ⟨hmeets, ?_⟩
  obtain ⟨loaded, heq, -⟩ := hfinal.holds.load
  simp only [Session.load, heq]
  rfl

/-- A session on an empty database. -/
def freshSession : Session :=
  ⟨⟨"/trash", "/trash/db", 5000⟩, .new .empty, .builtin, ⟨"/trash/bin/trash-send"⟩⟩

/-- An array that is written, dropped, sent to an interpreter that is not there, and kept in a
database that is closed, opened and locked. -/
def arrayStory : List Event :=
  [.send "push:" [.str "a\n"] fun _ => .notStarted "", .flush, .evict "array_1",
    .send "at:" [.null] fun _ => .notStarted "", .send "push:" [.null] fun _ => .notStarted "",
    .send "sort" [.bool true] fun _ => .notStarted "not found", .load "array_1", .reopen,
    .lock true, .send "getItems" [] fun _ => .notStarted "", .lock false,
    .send "pop" [] fun _ => .notStarted ""]

theorem sends_as_copy_arrayStory :
    freshSession.registry = .builtin ∧
      (freshSession.create "Array" .empty "1" .epoch).1 = .ok "array_1" ∧
      (∀ m ∈ (SortedMap.empty : Object).entries, m.2.Storable) ∧
      (0 ≤ Timestamp.epoch.date.year ∧ Timestamp.epoch.date.year ≤ 9999) ∧
      undisturbed "array_1" (freshSession.create "Array" .empty "1" .epoch).2 arrayStory = true ∧
      List.Forall₂ Meets
        (happenAll "array_1" (freshSession.create "Array" .empty "1" .epoch).2 arrayStory).1
        (expectAll "array_1" .builtin (.new "array_1" "Array" .epoch .empty) arrayStory).1 ∧
      ((happenAll "array_1" (freshSession.create "Array" .empty "1" .epoch).2 arrayStory).2.load
          "array_1").1
        = .ok (expectAll "array_1" .builtin (.new "array_1" "Array" .epoch .empty)
            arrayStory).2.unmodified := by
  have hcreated : (freshSession.create "Array" .empty "1" .epoch).1 = .ok "array_1" := by
    decide +kernel
  have hvalues : ∀ m ∈ (SortedMap.empty : Object).entries, m.2.Storable := fun _ hm => by cases hm
  have hyears : 0 ≤ Timestamp.epoch.date.year ∧ Timestamp.epoch.date.year ≤ 9999 := by decide
  have hundisturbed : undisturbed "array_1" (freshSession.create "Array" .empty "1" .epoch).2
      arrayStory = true := by decide +kernel
  exact ⟨rfl, hcreated, hvalues, hyears, hundisturbed,
    sends_as_copy freshSession rfl hcreated hvalues hyears arrayStory hundisturbed⟩

end ObjectMemory.Session
