import ObjectMemory.Proofs.Message.Bindings
import ObjectMemory.Proofs.Session.Acts
import ObjectMemory.Proofs.Session.Transparency

/-!
# Messages to the interpreter

What becomes of a message is settled in the session, or it is up to the interpreter.  The part
before the interpreter does not depend on it (`course`), and the part after it is one run and the
entry that is dropped (`Course.conclude`).  So a statement for every interpreter needs a look at the
first part only: an instance that cannot be loaded, a behavior, and a document that is refused
settle the message, and anything else hands the database over, with the instance in it as it was
cached.

That an entry which was clean stays clean up to there, and is not written once more, is where
`Reachable.unmarked` is needed.

* `Interpreter.attempt` — an invocation, also one that cannot be started;
* `Settles`, `HandsOver` — the two ways of a message;
* `course`, `Course.conclude`, `send_eq_conclude` — a message without the interpreter, and with it;
* `course_of_error`, `course_of_behavior`, `course_of_clean`, … — what settles a message;
* **`send_protocol`** — the ways of all messages.
-/

namespace ObjectMemory

open Backend Json Message

/-! ## Invocations -/

/-- What an invocation gives.  With an argument that cannot be passed, the program is not even
started. -/
def Interpreter.attempt {σ : Type} (interpreter : Interpreter σ) (invocation : Invocation)
    (shared : σ) : Run × σ :=
  if invocation.arguments.all Bridge.isPassable then interpreter invocation shared
  else (.notStarted "nul byte found in provided data", shared)

lemma Bridge.send_eq_attempt {σ : Type} (bridge : Bridge) (interpreter : Interpreter σ)
    (receiver selector : String) (arguments : List String) (shared : σ) :
    bridge.send interpreter receiver selector arguments shared
      = (interpreter.attempt ⟨bridge.executable, receiver :: selector :: arguments⟩ shared).map
          (bridge.answer receiver selector) id := by
  rw [Bridge.send, Interpreter.attempt]
  split_ifs <;> rfl

namespace Session

/-! ## The ways of a message -/

/-- No interpreter is asked about a message: whatever it were, this is the answer, and this is the
session afterwards. -/
def Settles (session : Session) (id selector : String) (arguments : List Value)
    (outcome : Except Error String) (after : Session) : Prop :=
  ∀ interpreter, session.send interpreter id selector arguments = (outcome, after)

/-- A message goes to the interpreter, which runs once and over this database.  Its answer is the
answer, and what it leaves is the database; the entry of the id is gone, and no other entry is
touched. -/
def HandsOver (session : Session) (id selector : String) (arguments : List Value)
    (table : Table) : Prop :=
  ∀ interpreter : Interpreter Table,
    let (run, left) := interpreter.attempt
      ⟨session.bridge.executable, id :: selector :: arguments.map Value.render⟩ table
    ∃ after, session.send interpreter id selector arguments
        = ((session.bridge.answer id selector run).mapError .bridge, after) ∧
      after.store.backend = left ∧ after.store.inspect id = none ∧
      ∀ other, other ≠ id → after.store.inspect other = session.store.inspect other

/-- How far a message gets without the interpreter. -/
inductive Course where
  | settled (outcome : Except Error String) (after : Session)
  /-- It is for the interpreter, and the session is ready. -/
  | forwarded (ready : Session)

/-- What a session does about a message before it asks the interpreter. -/
def course (session : Session) (id selector : String) (arguments : List Value) : Course :=
  let (outcome, store) :=
    session.store.update id (session.registry.dispatch selector arguments)
  let session := { session with store }
  match outcome with
  | .error error => .settled (.error (.store error)) session
  | .ok (.handled answer) => .settled (.ok answer) session
  | .ok (.failed error) => .settled (.error (.behavior id selector error)) session
  | .ok .notHandled =>
    match session.writeBack id with
    | (.error error, session) => .settled (.error error) session
    | (.ok (), session) => .forwarded session

/-- A session takes a database back, without the entry of an id. -/
def takeBack (session : Session) (id : String) (left : Table) : Session :=
  { session with store := ({ session.store with backend := left }.evict id).2 }

/-- The end of a message, with an interpreter. -/
def Course.conclude (interpreter : Interpreter Table) (id selector : String)
    (arguments : List Value) : Course → Except Error String × Session
  | settled outcome after => (outcome, after)
  | forwarded ready =>
    let (run, left) := interpreter.attempt
      ⟨ready.bridge.executable, id :: selector :: arguments.map Value.render⟩ ready.store.backend
    ((ready.bridge.answer id selector run).mapError .bridge, ready.takeBack id left)

variable {session ready : Session} {id selector : String} {arguments : List Value}

/-- **The interpreter has no part in a message but one run**, once the session is ready for it. -/
lemma send_eq_conclude (session : Session) (interpreter : Interpreter Table)
    (id selector : String) (arguments : List Value) :
    session.send interpreter id selector arguments
      = (session.course id selector arguments).conclude interpreter id selector arguments := by
  rw [send, course]
  rcases session.store.update id (session.registry.dispatch selector arguments) with
    ⟨outcome, store⟩
  rcases outcome with error | answer | error | _
  · rfl
  · rfl
  · rfl
  · simp only [forward]
    rcases Session.writeBack { session with store } id with ⟨error | _, written⟩
    · rfl
    · simp only [Course.conclude, Bridge.send_eq_attempt]
      rfl

lemma settles_of_course {outcome : Except Error String} {after : Session}
    (h : session.course id selector arguments = .settled outcome after) :
    session.Settles id selector arguments outcome after := by
  intro interpreter
  rw [send_eq_conclude, h]
  rfl

/-- A message is handed over by a session that is ready, if no other entry was touched before. -/
lemma handsOver_of_course {ready : Session}
    (h : session.course id selector arguments = .forwarded ready)
    (bridge : ready.bridge = session.bridge)
    (others : ∀ other, other ≠ id → ready.store.inspect other = session.store.inspect other) :
    session.HandsOver id selector arguments ready.store.backend := by
  intro interpreter
  refine ⟨ready.takeBack id _, ?_, rfl, SortedMap.get?_erase_self _ _, fun other hne => ?_⟩
  · rw [send_eq_conclude, h, ← bridge]
    rfl
  · rw [← others other hne]
    exact SortedMap.get?_erase_of_ne hne

/-! ## What settles a message -/

lemma load_of_demand {entry : Entry} (h : session.store.demand id = .ok entry) :
    (session.load id).1 = .ok entry.object := by
  rw [load, Store.load_of_demand h]
  rfl

lemma demand_of_load {object : Instance} (h : (session.load id).1 = .ok object) :
    ∃ entry, session.store.demand id = .ok entry ∧ entry.object = object :=
  Store.demand_of_load (of_mapError_ok h)

lemma course_of_error {error : Store.Error} (h : session.store.demand id = .error error) :
    session.course id selector arguments = .settled (.error (.store error)) session := by
  rw [course, Store.update_of_error _ h]

/-- A behavior settles a message, with its answer or its failure, and changes no more than the
cache. -/
lemma course_of_behavior {entry : Entry} {behavior : Behavior}
    (h : session.store.demand id = .ok entry)
    (hfound : session.registry.lookup entry.object.className selector = some behavior) :
    ∃ after, session.course id selector arguments = .settled
        ((behavior ⟨entry.object.className, selector, entry.object.id⟩ arguments
          entry.object).1.mapError (.behavior id selector)) after ∧
      after.store.backend = session.store.backend := by
  rw [course, Store.update_of_demand _ h, Registry.dispatch_of_some hfound]
  rcases behavior ⟨entry.object.className, selector, entry.object.id⟩ arguments entry.object with
    ⟨error | answer, object⟩
  · exact ⟨_, rfl, rfl⟩
  · exact ⟨_, rfl, rfl⟩

/-- A session after the use of an instance that nothing was done to. -/
def used (session : Session) (id : String) (entry : Entry) : Session :=
  { session with store := session.store.remember id (entry.touch session.store.moment) }

/-- Without a behavior, the instance is used and written if it is dirty. -/
lemma course_of_none (arguments : List Value) {entry : Entry}
    (h : session.store.demand id = .ok entry)
    (hunmarked : entry.object.modified = false)
    (hnone : session.registry.lookup entry.object.className selector = none) :
    session.course id selector arguments =
      match (session.used id entry).writeBack id with
      | (.error error, session) => .settled (.error error) session
      | (.ok (), session) => .forwarded session := by
  have hentry : entry.edited entry.object session.store.moment
      = entry.touch session.store.moment := by
    rw [Entry.edited, Instance.unmodified_eq hunmarked, hunmarked, Bool.or_false]
    rfl
  rw [course, Store.update_of_demand _ h, Registry.dispatch_of_none hnone]
  simp only [hentry]
  rfl

lemma writeBack_of_clean {entry : Entry} (h : entry.dirty = false) :
    (session.used id entry).writeBack id = (.ok (), session.used id entry) := by
  have hclean : (session.used id entry).store.isDirty id = false := Store.isDirty_remember_self.trans h
  rw [writeBack, hclean]
  rfl

/-- A session after a dirty instance was used and written. -/
def written (session : Session) (id : String) (entry : Entry) (table : Table) : Session :=
  { session with
    store := Store.remember { (session.used id entry).store with backend := table } id
      (.clean entry.object session.store.moment) }

lemma writeBack_of_dirty {entry : Entry} (h : entry.dirty = true) :
    (session.used id entry).writeBack id =
      match DocumentStore.put session.store.backend id entry.object.encode with
      | .error failure => (.error (.store (.backend .put id failure)), session.used id entry)
      | .ok table => (.ok (), session.written id entry table) := by
  have hdirty : (session.used id entry).store.isDirty id = true := Store.isDirty_remember_self.trans h
  have hcached : (session.used id entry).store.cache.get? id
      = some (entry.touch session.store.moment) := SortedMap.get?_insert_self _ _ _
  have hput : DocumentStore.put (session.used id entry).store.backend id
      (entry.touch session.store.moment).object.encode
        = DocumentStore.put session.store.backend id entry.object.encode := rfl
  rw [writeBack, hdirty, if_pos rfl, Store.saveCached, hcached]
  simp only [Store.save, hput]
  cases DocumentStore.put session.store.backend id entry.object.encode with
  | error failure => rfl
  | ok table => rfl

/-! ## All messages -/

/-- **The ways of a message.**  Whatever happened to a session before: if the instance cannot be
loaded, that is the answer, and nothing changes.  If it has a behavior for the message, its own or
one of every class, the interpreter is not asked and no document changes.  Otherwise, if the
instance is cached as dirty, it is written; if that is refused, the interpreter is not asked and the
instance is still cached as dirty.  And then the message is handed over, with the document of the
instance in the database if it was written, and with the database as it was if the instance was
clean. -/
theorem Reachable.send_protocol {session : Session} (reached : session.Reachable)
    (id selector : String) (arguments : List Value) :
    (∀ error, (session.load id).1 = .error error →
      session.Settles id selector arguments (.error error) session) ∧
    ∀ object, (session.load id).1 = .ok object →
      (session.registry.contains object.className selector = true ∨
          session.registry.contains Registry.wildcard selector = true →
        ∃ outcome after, session.Settles id selector arguments outcome after ∧
          after.store.backend = session.store.backend) ∧
      (session.registry.contains object.className selector = false →
        session.registry.contains Registry.wildcard selector = false →
        (session.store.isDirty id = true →
          (∀ failure,
            DocumentStore.put session.store.backend id object.encode = .error failure →
              ∃ after entry, session.Settles id selector arguments
                  (.error (.store (.backend .put id failure))) after ∧
                after.store.backend = session.store.backend ∧
                after.store.inspect id = some entry ∧ entry.dirty = true ∧
                entry.object = object) ∧
          ∀ table, DocumentStore.put session.store.backend id object.encode = .ok table →
            table.get id = .ok (some (LawfulDocumentStore.kept Table object.encode)) ∧
            (∀ other, other ≠ id → table.get other = session.store.backend.get other) ∧
            session.HandsOver id selector arguments table) ∧
        (session.store.isDirty id = false →
          session.HandsOver id selector arguments session.store.backend)) := by
  cases hdemand : session.store.demand id with
  | error error =>
      have hload : (session.load id).1 = .error (.store error) := by
        rw [load, Store.load_of_error hdemand]
        rfl
      rw [hload]
      refine ⟨?_, fun object h => by cases h⟩
      rintro _ ⟨⟩
      exact settles_of_course (course_of_error hdemand)
  | ok entry =>
      have hload := load_of_demand hdemand
      have hunmarked := reached.unmarked.demand hdemand
      have hothers : ∀ other, other ≠ id →
          (session.used id entry).store.inspect other = session.store.inspect other :=
        fun other hne => SortedMap.get?_insert_of_ne hne
      rw [hload, Store.isDirty_of_demand hdemand]
      refine ⟨fun error h => (by cases h), ?_⟩
      rintro _ ⟨⟩
      refine ⟨fun hcontains => ?_, fun hown hwildcard => ?_⟩
      · cases hfound : session.registry.lookup entry.object.className selector with
        | none => simp [Registry.lookup_eq_none_iff.mp hfound] at hcontains
        | some behavior =>
            obtain ⟨after, hcourse, hbackend⟩ := course_of_behavior hdemand hfound
            exact ⟨_, after, settles_of_course hcourse, hbackend⟩
      -- without a behavior, only whether the entry is dirty is left to look at
      have hcourse := course_of_none arguments hdemand hunmarked
        (Registry.lookup_eq_none_iff.mpr ⟨hown, hwildcard⟩)
      refine ⟨fun hdirty => ⟨fun failure hput => ?_, fun table hput => ?_⟩, fun hclean => ?_⟩
      · rw [writeBack_of_dirty hdirty, hput] at hcourse
        exact ⟨_, entry.touch session.store.moment, settles_of_course hcourse, rfl,
          SortedMap.get?_insert_self _ _ _, hdirty, rfl⟩
      · rw [writeBack_of_dirty hdirty, hput] at hcourse
        refine ⟨LawfulDocumentStore.get_put_self hput,
          fun other hne => LawfulDocumentStore.get_put_of_ne hput hne,
          handsOver_of_course hcourse rfl fun other hne => ?_⟩
        rw [← hothers other hne]
        exact SortedMap.get?_insert_of_ne hne
      · rw [writeBack_of_clean hclean] at hcourse
        have hhanded := handsOver_of_course hcourse rfl hothers
        exact hhanded

lemma freshSession_reachable (acts : List Act) : (runActs freshSession acts).Reachable :=
  ⟨freshSession.configuration, .absent, .builtin, freshSession, acts, rfl, rfl⟩

/-- A session with a counter that was changed and not written since. -/
def counterSession : Session :=
  runActs freshSession [.create "Counter" .empty "1" .epoch, .ask (.setVar "counter_1" "n" .null)]

/-- The counter loads, and its document is one that the table takes. -/
lemma counterSession_put : ∃ object table,
    (counterSession.load "counter_1").1 = .ok object ∧ object.className = "Counter" ∧
      DocumentStore.put counterSession.store.backend "counter_1" object.encode = .ok table := by
  have hclass : (counterSession.load "counter_1").1.map Instance.className = .ok "Counter" := by
    decide +kernel
  have hwritten : ((counterSession.load "counter_1").1.toOption.any fun object =>
      (DocumentStore.put counterSession.store.backend "counter_1" object.encode).isOk) = true := by
    decide +kernel
  cases hload : (counterSession.load "counter_1").1 with
  | error error =>
      rw [hload] at hclass
      cases hclass
  | ok object =>
      rw [hload] at hclass hwritten
      simp only [Except.toOption, Option.any_some] at hwritten
      cases hput : DocumentStore.put counterSession.store.backend "counter_1" object.encode with
      | error failure =>
          rw [hput] at hwritten
          cases hwritten
      | ok table => exact ⟨object, table, rfl, Except.ok.inj hclass, hput⟩

lemma counterSession_isDirty : counterSession.store.isDirty "counter_1" = true := by decide +kernel

theorem send_protocol_dance :
    counterSession.Reachable ∧ ∃ object table,
      (counterSession.load "counter_1").1 = .ok object ∧
      counterSession.store.isDirty "counter_1" = true ∧
      DocumentStore.put counterSession.store.backend "counter_1" object.encode = .ok table ∧
      table.get "counter_1" = .ok (some (LawfulDocumentStore.kept Table object.encode)) ∧
      counterSession.HandsOver "counter_1" "dance" [.str "waltz"] table := by
  have hreached : counterSession.Reachable := freshSession_reachable _
  obtain ⟨object, table, hload, hclass, hput⟩ := counterSession_put
  obtain ⟨-, hloaded⟩ := hreached.send_protocol "counter_1" "dance" [.str "waltz"]
  obtain ⟨-, hforwarded⟩ := hloaded object hload
  rw [hclass] at hforwarded
  obtain ⟨hshown, -, hhanded⟩ :=
    ((hforwarded (by decide +kernel) (by decide +kernel)).1 counterSession_isDirty).2 table hput
  exact ⟨hreached, object, table, hload, counterSession_isDirty, hput, hshown, hhanded⟩

end Session

end ObjectMemory
