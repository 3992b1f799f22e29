import ObjectMemory.Proofs.Session.Forwarding
import ObjectMemory.Proofs.Store.Coherence
import ObjectMemory.Proofs.Store.Frame

/-!
# Sharing the database with the interpreter

The interpreter writes to the database behind the back of the session, but only the document of the
receiver, and only while it has the message.  This is enough for the cache to stay coherent: the
entry of the receiver is dropped when the message is over, and behind every other entry the document
is still the one it was.  And the receiver is not cached again before somebody asks for it, so it is
then read from what the interpreter left.

The interpreter may leave any text, also one that is no document, and one that is not even a text to
the database, which takes a number for what it is.

* `Behavior.Edits`, `dispatch_marks_of_edits` — behaviors that edit variables mark what they change;
* `Interpreter.ChangesOnly`, `Act.Confined`, `Confined` — who may change which documents;
* `Guarded`, `Guarded.perform`, `Guarded.runActs` — coherence of a session, and its step and run;
* `Act.about`, `view_runActs` — what is not about an id leaves it alone;
* `course_session`, `send_cases` — a session before the interpreter has its turn, and after;
* **`Shared.agrees_with_rows`** — both, after anything that happens;
* `number_left_unloadable` — what the interpreter must not leave, and a behavior must not do.
-/

namespace ObjectMemory

open Backend Json Message

/-! ## Behaviors that edit -/

namespace Message

/-- A behavior that changes an instance by edits of its variables, and not otherwise. -/
def Behavior.Edits (behavior : Behavior) : Prop :=
  ∀ context arguments object, ∃ edits,
    (behavior context arguments object).2 = (editAll edits object).2

lemma Behavior.WritesContents.edits {behavior : Behavior} (h : behavior.WritesContents) :
    behavior.Edits := by
  intro context arguments object
  obtain ⟨answer, text, hanswer⟩ := h context arguments object
  have hobject : behavior context arguments object = (answer, withContents object text) :=
    hanswer object.modified
  rw [hobject]
  cases text with
  | none => exact ⟨[], rfl⟩
  | some text => exact ⟨[.set Builtin.itemsKey (.str text)], rfl⟩

namespace Registry

variable {registry : Registry}

lemma builtin_edits : builtin.All Behavior.Edits :=
  fun signature behavior h => (builtin_writesContents signature behavior h).edits

/-- A message changes an instance by edits, too. -/
lemma dispatch_edits (h : registry.All Behavior.Edits) (selector : String)
    (arguments : List Value) (object : Instance) :
    ∃ edits, (registry.dispatch selector arguments object).2 = (editAll edits object).2 := by
  cases hfound : registry.lookup object.className selector with
  | none => exact ⟨[], congrArg Prod.snd (dispatch_of_none hfound arguments)⟩
  | some behavior =>
      obtain ⟨edits, hedits⟩ :=
        h.lookup hfound ⟨object.className, selector, object.id⟩ arguments object
      refine ⟨edits, ?_⟩
      rw [dispatch_of_some hfound, ← hedits]
      rfl

lemma dispatch_marks_of_edits (h : registry.All Behavior.Edits) (selector : String)
    (arguments : List Value) : Instance.Marks (registry.dispatch selector arguments) := by
  intro object hunmarked
  obtain ⟨edits, hedits⟩ := dispatch_edits h selector arguments object
  rw [hedits] at hunmarked ⊢
  exact editAll_unmodified hunmarked

end Registry

end Message

/-! ## What others may leave -/

namespace Backend.Table

/-- A row that cannot be read as a text is a number. -/
lemma get_eq_error {table : Table} {id : String} {failure : Failure}
    (h : table.get id = .error failure) :
    ∃ whole, failure = .database (.numericCell whole) := by
  rw [get] at h
  split at h
  · next row _ =>
      rcases hcell : row.2 with spelled | content
      · cases spelled with
        | num spelling =>
            rw [hcell] at h
            exact ⟨_, (Except.error.inj h).symm⟩
        | _ =>
            rw [hcell] at h
            cases h
      · rw [hcell, Cell.read] at h
        split at h
        · exact ⟨_, (Except.error.inj h).symm⟩
        · cases h
  · cases h

lemma get_overwrite_self (table : Table) (id text : String)
    (h : literal? text.toList = none) : (table.overwrite id text).get id = .ok (some text) := by
  rw [overwrite, get, List.find?_append, find?_rowsWithout_self]
  simp [Cell.read, h, Except.map]

lemma get_overwrite_of_ne (table : Table) {id other : String} (text : String) (hne : other ≠ id) :
    (table.overwrite id text).get other = table.get other := by
  rw [overwrite, get, get, List.find?_append, find?_rowsWithout_of_ne table hne,
    List.find?_singleton, if_neg (by simpa using hne.symm), Option.or_none]

end Backend.Table

/-- An interpreter that changes no document but that of the receiver. -/
def Interpreter.ChangesOnly (interpreter : Interpreter Table) (id : String) : Prop :=
  ∀ invocation (table : Table) other, other ≠ id →
    (interpreter invocation table).2.get other = table.get other

lemma Interpreter.ChangesOnly.attempt {interpreter : Interpreter Table} {id : String}
    (h : interpreter.ChangesOnly id) (invocation : Invocation) (table : Table) {other : String}
    (hne : other ≠ id) : (interpreter.attempt invocation table).2.get other = table.get other := by
  rw [Interpreter.attempt]
  split_ifs
  · exact h invocation table other hne
  · rfl

namespace Session

/-! ## Acts that are confined -/

/-- Documents are changed by the session alone, apart from that of a receiver while the interpreter
has a message for it; and behaviors edit variables.  Writing may be refused at any time. -/
def Act.Confined (session : Session) : Act → Prop
  | send interpreter id _ _ => interpreter.ChangesOnly id
  | equip registry => registry.All Behavior.Edits
  | meddle table => ∀ id, table.get id = session.store.backend.get id
  | _ => True

/-- All acts are confined, each at its time. -/
def Confined (session : Session) : List Act → Prop
  | [] => True
  | act :: rest => act.Confined session ∧ Confined (act.perform session) rest

/-- The id that an act is about, if it is about one. -/
def Act.about : Act → Option String
  | create className _ suffix _ => some (deriveId className suffix)
  | load id | delete id | send _ id _ _ => some id
  | ask request => request.about
  | flush | equip _ | meddle _ => none

/-- A session as a message leaves it to the interpreter, or as it leaves it at all. -/
def Course.session : Course → Session
  | settled _ after => after
  | forwarded ready => ready

/-- Whether a message is for the interpreter. -/
def Course.isForwarded : Course → Bool
  | settled _ _ => false
  | forwarded _ => true

lemma eq_forwarded_of_isForwarded {course : Course} (h : course.isForwarded = true) :
    ∃ ready, course = .forwarded ready := by
  cases course with
  | settled outcome after => cases h
  | forwarded ready => exact ⟨ready, rfl⟩

/-- A session after the behavior of an instance for a message, if it has one. -/
def updated (session : Session) (id selector : String) (arguments : List Value) : Session :=
  { session with
    store := (session.store.update id (session.registry.dispatch selector arguments)).2 }

variable {session ready : Session} {id : String}

lemma course_session (session : Session) (id selector : String) (arguments : List Value) :
    (session.course id selector arguments).session = session.updated id selector arguments ∨
    (session.course id selector arguments).session
      = ((session.updated id selector arguments).writeBack id).2 := by
  rw [course, updated]
  rcases session.store.update id (session.registry.dispatch selector arguments) with
    ⟨outcome, store⟩
  rcases outcome with error | answer | error | _
  · exact .inl rfl
  · exact .inl rfl
  · exact .inl rfl
  · dsimp only
    rcases Session.writeBack { session with store } id with ⟨error | _, written⟩
    · exact .inr rfl
    · exact .inr rfl

lemma view_takeBack_self (ready : Session) (id : String) (left : Table) :
    (ready.takeBack id left).store.view id = ⟨none, left.get id⟩ :=
  Store.view_evict_self _ _

lemma view_takeBack_of_ne {left : Table} {other : String} (hne : other ≠ id)
    (hleft : left.get other = ready.store.backend.get other) :
    (ready.takeBack id left).store.view other = ready.store.view other := by
  refine (Store.view_evict_of_ne _ hne).trans ?_
  exact congrArg (Store.View.mk _) hleft

lemma send_of_forwarded {interpreter : Interpreter Table} {selector : String}
    {arguments : List Value}
    (h : session.course id selector arguments = .forwarded ready) :
    (session.send interpreter id selector arguments).2 = ready.takeBack id
      (interpreter.attempt ⟨ready.bridge.executable, id :: selector :: arguments.map Value.render⟩
        ready.store.backend).2 := by
  rw [send_eq_conclude, h, Course.conclude]

/-- After a message, a session is as it was before the interpreter, or it has taken the database back
from one that changed no document but that of the receiver. -/
lemma send_cases {interpreter : Interpreter Table} (changes : interpreter.ChangesOnly id)
    (session : Session) (selector : String) (arguments : List Value) :
    let before := (session.course id selector arguments).session
    (session.send interpreter id selector arguments).2 = before ∨
    ∃ left : Table, (∀ other, other ≠ id → left.get other = before.store.backend.get other) ∧
      (session.send interpreter id selector arguments).2 = before.takeBack id left := by
  cases hcourse : session.course id selector arguments with
  | settled outcome after => exact .inl (by rw [send_eq_conclude, hcourse]; rfl)
  | forwarded ready =>
      exact .inr ⟨_, fun other hne => changes.attempt _ _ hne, send_of_forwarded hcourse⟩

/-! ## Coherence -/

/-- The cache is coherent, and no behavior can spoil it. -/
structure Guarded (session : Session) : Prop where
  edits : session.registry.All Behavior.Edits
  coherent : session.store.Coherent

lemma Guarded.withStore (h : session.Guarded) {store : Store Table} (coherent : store.Coherent) :
    Guarded { session with store } :=
  ⟨h.edits, coherent⟩

lemma Guarded.writeBack (h : session.Guarded) (id : String) : (session.writeBack id).2.Guarded := by
  rw [Session.writeBack]
  split_ifs
  · exact h.withStore (h.coherent.saveCached id)
  · exact h

lemma Guarded.course (h : session.Guarded) (id selector : String) (arguments : List Value) :
    (session.course id selector arguments).session.Guarded := by
  have hupdated : (session.updated id selector arguments).Guarded :=
    h.withStore (h.coherent.update id
      (Registry.dispatch_marks_of_edits h.edits selector arguments))
  rcases session.course_session id selector arguments with heq | heq
  · rwa [heq]
  · rw [heq]
    exact hupdated.writeBack id

/-- The entry behind which the document was changed is gone. -/
lemma Guarded.takeBack (h : ready.Guarded) {left : Table}
    (hleft : ∀ other, other ≠ id → left.get other = ready.store.backend.get other) :
    (ready.takeBack id left).Guarded := by
  -- without an entry there is nothing for the new document to disagree with
  have hself : ((ready.takeBack id left).store.view id).Coherent Table id := by
    rw [view_takeBack_self]
    rintro _ ⟨⟩
  exact ⟨h.edits,
    h.coherent.change hself fun other hne => view_takeBack_of_ne hne (hleft other hne)⟩

lemma Guarded.send (h : session.Guarded) {interpreter : Interpreter Table}
    (changes : interpreter.ChangesOnly id) (selector : String) (arguments : List Value) :
    (session.send interpreter id selector arguments).2.Guarded := by
  have hcourse := h.course id selector arguments
  rcases send_cases changes session selector arguments with heq | ⟨left, hleft, heq⟩
  · rwa [heq]
  · rw [heq]
    exact hcourse.takeBack hleft

lemma Guarded.perform (h : session.Guarded) (act : Act) (confined : act.Confined session) :
    (act.perform session).Guarded := by
  cases act with
  | create className defaults suffix now => exact h.withStore (h.coherent.save _ _)
  | load id => exact h.withStore (h.coherent.load id)
  | delete id => exact h.withStore (h.coherent.delete id)
  | flush => exact h.withStore (h.coherent.perform .flush)
  | send interpreter id selector arguments => exact h.send confined selector arguments
  | ask request => exact h.withStore (h.coherent.perform request)
  | equip registry => exact ⟨confined, h.coherent⟩
  | meddle table =>
      refine h.withStore fun id => ?_
      have hview : Store.view { session.store with backend := table } id = session.store.view id :=
        congrArg (Store.View.mk _) (confined id)
      rw [hview]
      exact h.coherent id

lemma Guarded.runActs (h : session.Guarded) (acts : List Act)
    (confined : session.Confined acts) : (runActs session acts).Guarded := by
  induction acts generalizing session with
  | nil => exact h
  | cons act rest ih => exact ih (h.perform act confined.1) confined.2

/-! ## Acts about other ids -/

lemma view_writeBack_of_ne {other : String} (hne : id ≠ other) :
    (session.writeBack other).2.store.view id = session.store.view id := by
  rw [writeBack]
  split_ifs
  · exact Store.view_saveCached_of_ne hne
  · rfl

lemma view_course_of_ne (session : Session) {other : String} (hne : id ≠ other)
    (selector : String) (arguments : List Value) :
    (session.course other selector arguments).session.store.view id = session.store.view id := by
  have hupdated :
      (session.updated other selector arguments).store.view id = session.store.view id :=
    Store.view_update_of_ne _ hne
  rcases session.course_session other selector arguments with heq | heq
  · rwa [heq]
  · rw [heq]
    exact (view_writeBack_of_ne hne).trans hupdated

lemma view_send_of_ne {interpreter : Interpreter Table} {other : String} (hne : id ≠ other)
    (changes : interpreter.ChangesOnly other) (selector : String) (arguments : List Value) :
    (session.send interpreter other selector arguments).2.store.view id
      = session.store.view id := by
  have hcourse := session.view_course_of_ne hne selector arguments
  rcases send_cases changes session selector arguments with heq | ⟨left, hleft, heq⟩
  · rwa [heq]
  · rw [heq]
    exact (view_takeBack_of_ne hne (hleft id hne)).trans hcourse

/-- **An act leaves an id alone** that it is not about and that is not cached. -/
lemma view_perform (hnone : (session.store.view id).entry = none) {act : Act}
    (confined : act.Confined session) (habout : act.about ≠ some id) :
    (act.perform session).store.view id = session.store.view id := by
  have hne : ∀ other, act.about = some other → id ≠ other := by
    rintro other hother rfl
    exact habout hother
  cases act with
  | create className defaults suffix now => exact Store.view_save_of_ne _ (hne _ rfl)
  | load other => exact Store.view_load_of_ne (hne other rfl)
  | delete other => exact Store.view_delete_of_ne (hne other rfl)
  | flush => exact Store.view_flush_of_none hnone
  | send interpreter other selector arguments =>
      exact view_send_of_ne (hne other rfl) confined selector arguments
  | ask request => exact Store.view_perform hnone habout
  | equip registry => rfl
  | meddle table => exact congrArg (Store.View.mk _) (confined id)

lemma view_runActs (hnone : (session.store.view id).entry = none) {acts : List Act}
    (confined : session.Confined acts) (habout : ∀ act ∈ acts, act.about ≠ some id) :
    (runActs session acts).store.view id = session.store.view id := by
  induction acts generalizing session with
  | nil => rfl
  | cons act rest ih =>
      rw [List.forall_mem_cons] at habout
      have hact := view_perform hnone confined.1 habout.1
      have hrest := ih (hact ▸ hnone) confined.2 habout.2
      exact hrest.trans hact

/-! ## Both together -/

/-- A session that has its database to itself and to interpreters that change no more of it than
their receivers. -/
def Shared (session : Session) : Prop :=
  ∃ configuration place registry opened acts,
    openAt configuration place registry = .ok opened ∧ registry.All Behavior.Edits ∧
    opened.Confined acts ∧ session = runActs opened acts

lemma Shared.guarded (h : session.Shared) : session.Guarded := by
  obtain ⟨configuration, place, registry, opened, acts, hopen, edits, confined, rfl⟩ := h
  obtain ⟨table, hstore, rfl⟩ := openAt_store hopen
  exact Guarded.runActs ⟨edits, hstore ▸ Store.new_coherent table⟩ acts confined

/-- **A session and the interpreter agree on the database.**  Whatever happened to the session, the
document behind an entry that is not dirty is the one that the entry was written as, or one that it
is read from.  And when an instance is asked for the next time after a message to the interpreter,
it is read from the document that the interpreter left: there may be none, or one that is not of an
instance, or a number, which cannot be read. -/
theorem Shared.agrees_with_rows {session : Session} (shared : session.Shared) :
    (∀ id entry, session.store.inspect id = some entry → entry.dirty = false →
      ∃ document, session.store.backend.get id = .ok (some document) ∧
        (document = LawfulDocumentStore.kept Table entry.object.encode ∨
          Instance.decode id document = .ok entry.object)) ∧
    ∀ (interpreter : Interpreter Table) id selector arguments ready later,
      session.course id selector arguments = .forwarded ready →
      session.Confined (.send interpreter id selector arguments :: later) →
      (∀ act ∈ later, act.about ≠ some id) →
      let left := (interpreter.attempt
        ⟨ready.bridge.executable, id :: selector :: arguments.map Value.render⟩
        ready.store.backend).2
      let loaded :=
        ((runActs session (.send interpreter id selector arguments :: later)).load id).1
      (left.get id = .ok none → loaded = .error (.store (.notFound id))) ∧
      (∀ text object, left.get id = .ok (some text) → Instance.decode id text = .ok object →
        loaded = .ok object) ∧
      (∀ text error, left.get id = .ok (some text) → Instance.decode id text = .error error →
        loaded = .error (.store (.unreadable id error))) ∧
      ∀ failure, left.get id = .error failure →
        loaded = .error (.store (.backend .get id failure)) ∧
        ∃ whole, failure = .database (.numericCell whole) := by
  refine ⟨fun id entry hentry hclean => (shared.guarded.coherent id entry hentry).written hclean,
    fun interpreter id selector arguments ready later hforwarded confined habout => ?_⟩
  intro left loaded
  -- the message leaves no entry of the receiver, and acts about other ids bring none back
  have hsent : (session.send interpreter id selector arguments).2.store.view id
      = ⟨none, left.get id⟩ := by
    rw [send_of_forwarded hforwarded, view_takeBack_self]
  have hview : (runActs session (.send interpreter id selector arguments :: later)).store.view id
      = ⟨none, left.get id⟩ :=
    (view_runActs (congrArg Store.View.entry hsent) confined.2 habout).trans hsent
  have hload := Store.load_of_uncached (congrArg Store.View.entry hview)
  rw [hview] at hload
  have hloaded : loaded = _ := congrArg (Except.mapError Error.store) hload
  refine ⟨fun hleft => ?_, fun text object hleft hdecode => ?_, fun text error hleft hdecode => ?_,
    fun failure hleft => ⟨?_, Table.get_eq_error hleft⟩⟩
  · rw [hloaded, hleft]
    rfl
  · rw [hloaded, hleft]
    simp only [hdecode, Except.mapError]
  · rw [hloaded, hleft]
    simp only [hdecode, Except.mapError]
  · rw [hloaded, hleft]
    rfl

lemma freshSession_shared {acts : List Act} (confined : freshSession.Confined acts) :
    (runActs freshSession acts).Shared :=
  ⟨freshSession.configuration, .absent, .builtin, freshSession, acts, rfl,
    Registry.builtin_edits, confined, rfl⟩

/-- Two counters, one of them changed and not written since. -/
def twoCounters : Session :=
  runActs freshSession [.create "Counter" .empty "1" .epoch, .create "Counter" .empty "2" .epoch,
    .ask (.setVar "counter_1" "n" .null)]

/-- An interpreter that leaves a text as the document of an id. -/
def leaving (id text : String) : Interpreter Table :=
  fun _ table => (.finished (.exited 0) [] [], table.overwrite id text)

lemma leaving_changesOnly (id text : String) : (leaving id text).ChangesOnly id :=
  fun _ table _ hne => table.get_overwrite_of_ne text hne

theorem agrees_with_rows_dancer :
    twoCounters.Shared ∧
    (∃ entry document, twoCounters.store.inspect "counter_2" = some entry ∧
      entry.dirty = false ∧ twoCounters.store.backend.get "counter_2" = .ok (some document) ∧
      (document = LawfulDocumentStore.kept Table entry.object.encode ∨
        Instance.decode "counter_2" document = .ok entry.object)) ∧
    ∃ ready, twoCounters.course "counter_1" "dance" [] = .forwarded ready ∧
      ((runActs twoCounters [.send (leaving "counter_1" "\x7b\x7d") "counter_1" "dance" [],
          .delete "counter_2", .flush]).load "counter_1").1
        = .error (.store (.unreadable "counter_1" .classless)) := by
  have hshared : twoCounters.Shared := freshSession_shared ⟨trivial, trivial, trivial, trivial⟩
  obtain ⟨hrows, hloaded⟩ := hshared.agrees_with_rows
  have hclean : (twoCounters.store.inspect "counter_2").map Entry.dirty = some false := by
    decide +kernel
  obtain ⟨entry, hentry, hdirty⟩ := Option.map_eq_some_iff.mp hclean
  obtain ⟨document, hdocument, hwritten⟩ := hrows "counter_2" entry hentry hdirty
  have hforwarded : (twoCounters.course "counter_1" "dance" []).isForwarded = true := by
    decide +kernel
  obtain ⟨ready, hready⟩ := eq_forwarded_of_isForwarded hforwarded
  have hconfined : twoCounters.Confined
      [.send (leaving "counter_1" "\x7b\x7d") "counter_1" "dance" [], .delete "counter_2",
        .flush] := ⟨leaving_changesOnly _ _, trivial, trivial, trivial⟩
  have habout : ∀ act ∈ [Act.delete "counter_2", Act.flush], act.about ≠ some "counter_1" := by
    simp [Act.about]
  obtain ⟨-, -, hunreadable, -⟩ := hloaded _ _ _ _ ready _ hready hconfined habout
  have hleft := ready.store.backend.get_overwrite_self "counter_1" "\x7b\x7d" rfl
  exact ⟨hshared, ⟨entry, document, hentry, hdirty, hdocument, hwritten⟩, ready, hready,
    hunreadable _ _ hleft rfl⟩

/-- A behavior that puts another instance in place of its own, without a mark. -/
def forget : Behavior := fun _ _ object => (.ok "", .new object.id "Blank" .epoch .empty)

/-- A counter in a session with that behavior, which it was told to. -/
def forgetful : Session :=
  runActs { freshSession with registry := Registry.builtin.register "Counter" "forget" forget }
    [.create "Counter" .empty "1" .epoch, .send (leaving "counter_1" "") "counter_1" "forget" []]

def counterDocument : String :=
  "\x7b\"class\":\"Counter\",\"created_at\":\"1970-01-01T00:00:00+00:00\"\x7d"

def blankDocument : String :=
  "\x7b\"class\":\"Blank\",\"created_at\":\"1970-01-01T00:00:00+00:00\"\x7d"

/-- A number that the interpreter leaves is not absent and not an unreadable document either, and a
behavior that puts another instance in place of its own leaves a clean entry that is in no
document. -/
theorem number_left_unloadable :
    (twoCounters.Shared ∧ (leaving "counter_2" "5").ChangesOnly "counter_2" ∧
      (twoCounters.course "counter_2" "dance" []).isForwarded = true ∧
      ¬ ∃ loaded,
        ((runActs twoCounters [.send (leaving "counter_2" "5") "counter_2" "dance" []]).load
          "counter_2").1 = loaded ∧
        ((∃ object, loaded = .ok object) ∨ loaded = .error (.store (.notFound "counter_2")) ∨
          ∃ error, loaded = .error (.store (.unreadable "counter_2" error)))) ∧
    ∃ entry, forgetful.store.inspect "counter_1" = some entry ∧ entry.dirty = false ∧
      ¬ ∃ document, forgetful.store.backend.get "counter_1" = .ok (some document) ∧
        (document = LawfulDocumentStore.kept Table entry.object.encode ∨
          Instance.decode "counter_1" document = .ok entry.object) := by
  refine ⟨⟨freshSession_shared ⟨trivial, trivial, trivial, trivial⟩, leaving_changesOnly _ _,
    by decide +kernel, ?_⟩, ?_⟩
  · have hloaded : ((runActs twoCounters [.send (leaving "counter_2" "5") "counter_2" "dance"
        []]).load "counter_2").1.map (fun _ => ())
          = .error (.store (.backend .get "counter_2" (.database (.numericCell true)))) := by
      decide +kernel
    rintro ⟨loaded, heq, hread⟩
    rw [heq] at hloaded
    rcases hread with ⟨object, rfl⟩ | rfl | ⟨error, rfl⟩
    · cases hloaded
    · cases hloaded
    · cases hloaded
  · have hentry : (forgetful.store.inspect "counter_1").map (fun entry =>
        (entry.dirty, entry.object.className, LawfulDocumentStore.kept Table entry.object.encode))
          = some (false, "Blank", blankDocument) := by decide +kernel
    have hdocument : forgetful.store.backend.get "counter_1" = .ok (some counterDocument) := by
      decide +kernel
    have hclass : (Instance.decode "counter_1" counterDocument).map Instance.className
        = .ok "Counter" := by decide +kernel
    obtain ⟨entry, hcached, hfields⟩ := Option.map_eq_some_iff.mp hentry
    obtain ⟨hclean, hblank, hkept⟩ : entry.dirty = false ∧ entry.object.className = "Blank" ∧
        LawfulDocumentStore.kept Table entry.object.encode = blankDocument := by
      simpa using hfields
    refine ⟨entry, hcached, hclean, ?_⟩
    rintro ⟨document, hrow, hwritten⟩
    obtain rfl : counterDocument = document := by simpa [hdocument] using hrow
    rcases hwritten with heq | hdecode
    · rw [hkept] at heq
      exact absurd heq (by decide)
    · rw [hdecode] at hclass
      rw [show entry.object.className = "Counter" from Except.ok.inj hclass] at hblank
      exact absurd hblank (by decide)

end Session

end ObjectMemory
