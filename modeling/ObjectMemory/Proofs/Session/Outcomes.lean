import ObjectMemory.Proofs.Backend.Faithful
import ObjectMemory.Proofs.Session.Forwarding
import ObjectMemory.Proofs.Text.Bytes

/-!
# What the end of a message tells

A message ends where the instance cannot be loaded, in a behavior, where the instance cannot be
written for the interpreter, or in the interpreter.  Each of these has errors of its own, and the
same trouble can come up in several of them: a behavior may fail because another instance is not
there, and the interpreter may end with whatever code.  So callers ask an error two questions, and
both are about one place only: that there is no such instance is said of the receiver, and that the
message is not understood is said by the interpreter.

* `answer_eq_ok_iff`, `answer_isUnknownSelector_iff` — what the interpreter answers;
* `demand_isNotFound_iff` — an instance that is not there;
* `offered`, `Forwards` — the way to the interpreter, and how it ran; `send_of_forwards`;
* `EndsAs`, `send_endsAs` — the four ends of a message; `unloaded_of_isNotFound`,
  `forwarded_of_isUnknownSelector` — the one that each question is about;
* **`Reachable.send_outcomes`** — messages.
-/

namespace ObjectMemory

open Backend Json Message

/-! ## The interpreter -/

namespace Bridge

variable {bridge : Bridge} {receiver selector : String} {run : Run}

/-- The interpreter answers if it exits with zero, what it printed without the blanks at the end. -/
lemma answer_eq_ok_iff {text : String} :
    bridge.answer receiver selector run = .ok text ↔
      ∃ stdout stderr, run = .finished (.exited 0) stdout stderr ∧
        Text.TrimsTo (Text.ofBytes stdout) text := by
  simp only [Text.trimsTo_iff]
  rcases run with reason | ⟨code | _, stdout, stderr⟩
  · simp [answer]
  · rw [answer]
    split_ifs with hzero hunknown
    · subst hzero
      simp [printed]
    · simp [hzero]
    · simp [hzero]
  · simp [answer]

lemma answer_isUnknownSelector_iff :
    (∃ error, bridge.answer receiver selector run = .error error ∧
        error.isUnknownSelector = true) ↔
      ∃ stdout stderr, run = .finished (.exited unknownSelectorCode) stdout stderr := by
  rcases run with reason | ⟨code | _, stdout, stderr⟩
  · simp [answer, BridgeError.isUnknownSelector]
  · rw [answer]
    split_ifs with hzero hunknown
    · subst hzero
      simp [unknownSelectorCode]
    · subst hunknown
      simp [BridgeError.isUnknownSelector]
    · simp [hunknown, BridgeError.isUnknownSelector]
  · simp [answer, BridgeError.isUnknownSelector]

end Bridge

/-! ## Instances that are not there -/

/-- A table has nothing for an id exactly if there is no row of it. -/
lemma Backend.Table.get_eq_none_iff {table : Table} {id : String} :
    table.get id = .ok none ↔ ∀ row ∈ table.rows, row.1 ≠ id := by
  rw [get]
  cases hfound : table.rows.find? fun row => row.1 == id with
  | none => simpa using hfound
  | some row =>
      have hread : row.2.read.map some ≠ .ok none := by
        cases row.2.read <;> simp [Except.map]
      have hrow : row.1 = id := by simpa using List.find?_some hfound
      exact iff_of_false hread fun h => h row (List.mem_of_find?_eq_some hfound) hrow

/-- Only what is neither cached nor stored is not found. -/
lemma Store.demand_isNotFound_iff {store : Store Table} {id : String} :
    (∃ error, store.demand id = .error error ∧ error.isNotFound = true) ↔
      store.isCached id = false ∧ ∀ row ∈ store.backend.rows, row.1 ≠ id := by
  rw [← Table.get_eq_none_iff, isCached_eq_isSome, view, demand]
  cases hcached : store.cache.get? id with
  | some entry => simp
  | none =>
      rw [fetch, show DocumentStore.get store.backend id = store.backend.get id from rfl]
      rcases store.backend.get id with failure | _ | document
      · simp [Error.isNotFound]
      · simp [Error.isNotFound]
      · cases hdecode : Instance.decode id document <;>
          simp [hdecode, Except.mapError, Error.isNotFound]

namespace Session

variable {session : Session} {interpreter : Interpreter Table} {id selector : String}
  {arguments : List Value} {run : Run}

/-! ## The way to the interpreter -/

/-- The database that the interpreter gets for an instance: with the instance, if it is dirty. -/
def offered (session : Session) (id : String) (object : Instance) : Except Failure Table :=
  if session.store.isDirty id then DocumentStore.put session.store.backend id object.encode
  else .ok session.store.backend

/-- A message goes to the interpreter, which runs like this: the instance loads, nothing is
registered for it, and it is written if it has to be.  A program that cannot be started is one way
to run. -/
def Forwards (session : Session) (interpreter : Interpreter Table) (id selector : String)
    (arguments : List Value) (run : Run) : Prop :=
  ∃ object table, (session.load id).1 = .ok object ∧
    session.registry.contains object.className selector = false ∧
    session.registry.contains Registry.wildcard selector = false ∧
    session.offered id object = .ok table ∧
    (interpreter.attempt
      ⟨session.bridge.executable, id :: selector :: arguments.map Value.render⟩ table).1 = run

variable {entry : Entry}

lemma course_of_refused (arguments : List Value) (demanded : session.store.demand id = .ok entry)
    (unmarked : entry.object.modified = false)
    (unfound : session.registry.lookup entry.object.className selector = none)
    {failure : Failure} (refused : session.offered id entry.object = .error failure) :
    ∃ after, session.course id selector arguments
      = .settled (.error (.store (.backend .put id failure))) after := by
  rw [offered, Store.isDirty_of_demand demanded] at refused
  split_ifs at refused with hdirty
  have hcourse := course_of_none arguments demanded unmarked unfound
  rw [writeBack_of_dirty hdirty, refused] at hcourse
  exact ⟨_, hcourse⟩

lemma course_of_offered (arguments : List Value) (demanded : session.store.demand id = .ok entry)
    (unmarked : entry.object.modified = false)
    (unfound : session.registry.lookup entry.object.className selector = none)
    {table : Table} (offers : session.offered id entry.object = .ok table) :
    ∃ ready, session.course id selector arguments = .forwarded ready ∧
      ready.bridge = session.bridge ∧ ready.store.backend = table := by
  rw [offered, Store.isDirty_of_demand demanded] at offers
  have hcourse := course_of_none arguments demanded unmarked unfound
  split_ifs at offers with hdirty
  · rw [writeBack_of_dirty hdirty, offers] at hcourse
    exact ⟨_, hcourse, rfl, rfl⟩
  · rw [writeBack_of_clean (Bool.eq_false_iff.mpr hdirty)] at hcourse
    exact ⟨_, hcourse, rfl, Except.ok.inj offers⟩

/-- The interpreter has the last word in a message that it gets. -/
lemma Reachable.send_of_forwards (reached : session.Reachable)
    (forwards : session.Forwards interpreter id selector arguments run) :
    (session.send interpreter id selector arguments).1
      = (session.bridge.answer id selector run).mapError .bridge := by
  obtain ⟨object, table, hload, hown, hevery, hoffered, hrun⟩ := forwards
  obtain ⟨entry, hdemand, rfl⟩ := demand_of_load hload
  obtain ⟨ready, hcourse, hbridge, rfl⟩ := course_of_offered arguments hdemand
    (reached.unmarked.demand hdemand) (Registry.lookup_eq_none_iff.mpr ⟨hown, hevery⟩) hoffered
  rw [send_eq_conclude, hcourse]
  simp only [Course.conclude, hbridge, hrun]

/-! ## The ends of a message -/

/-- How a message ends: with the instance, with its behavior, with writing it, or with the
interpreter. -/
inductive EndsAs (session : Session) (interpreter : Interpreter Table) (id selector : String)
    (arguments : List Value) : Except Error String → Prop
  | unloaded {error : Store.Error} (demanded : session.store.demand id = .error error) :
    EndsAs session interpreter id selector arguments (.error (.store error))
  | behaved (answer : Except Message.Error String) :
    EndsAs session interpreter id selector arguments (answer.mapError (.behavior id selector))
  | refused (failure : Failure) :
    EndsAs session interpreter id selector arguments
      (.error (.store (.backend .put id failure)))
  | forwarded {run : Run} (forwards : session.Forwards interpreter id selector arguments run) :
    EndsAs session interpreter id selector arguments
      ((session.bridge.answer id selector run).mapError .bridge)

/-- A behavior has the last word in a message that it is found for. -/
lemma send_of_behavior {object : Instance} {behavior : Behavior}
    (loaded : (session.load id).1 = .ok object)
    (found : session.registry.lookup object.className selector = some behavior) :
    (session.send interpreter id selector arguments).1
      = (behavior ⟨object.className, selector, object.id⟩ arguments object).1.mapError
          (.behavior id selector) := by
  obtain ⟨entry, hdemand, rfl⟩ := demand_of_load loaded
  obtain ⟨after, hcourse, -⟩ := course_of_behavior hdemand found
  rw [send_eq_conclude, hcourse]
  rfl

/-- **Every message ends** in one of the four ways. -/
lemma Reachable.send_endsAs (reached : session.Reachable) (interpreter : Interpreter Table)
    (id selector : String) (arguments : List Value) :
    session.EndsAs interpreter id selector arguments
      (session.send interpreter id selector arguments).1 := by
  cases hdemand : session.store.demand id with
  | error error =>
      rw [send_eq_conclude, course_of_error hdemand]
      exact .unloaded hdemand
  | ok entry =>
      have hload := load_of_demand hdemand
      have hunmarked := reached.unmarked.demand hdemand
      cases hfound : session.registry.lookup entry.object.className selector with
      | some behavior =>
          rw [send_of_behavior hload hfound]
          exact .behaved _
      | none =>
          cases hoffered : session.offered id entry.object with
          | error failure =>
              obtain ⟨after, hcourse⟩ :=
                course_of_refused arguments hdemand hunmarked hfound hoffered
              rw [send_eq_conclude, hcourse]
              exact .refused failure
          | ok table =>
              obtain ⟨hown, hevery⟩ := Registry.lookup_eq_none_iff.mp hfound
              have hforwards : session.Forwards interpreter id selector arguments _ :=
                ⟨entry.object, table, hload, hown, hevery, hoffered, rfl⟩
              rw [reached.send_of_forwards hforwards]
              exact .forwarded hforwards

/-! ## What the errors tell -/

lemma mapError_eq_error_iff {ε ε' α : Type} {result : Except ε α} {wrap : ε → ε'} {error : ε'} :
    result.mapError wrap = .error error ↔ ∃ cause, result = .error cause ∧ wrap cause = error := by
  cases result <;> simp [Except.mapError]

/-- Only an instance that cannot be loaded is not found. -/
lemma EndsAs.unloaded_of_isNotFound {outcome : Except Error String}
    (ends : session.EndsAs interpreter id selector arguments outcome) {error : Error}
    (heq : outcome = .error error) (h : error.isNotFound = true) :
    ∃ cause, session.store.demand id = .error cause ∧ cause.isNotFound = true := by
  cases ends with
  | unloaded demanded =>
      cases heq
      exact ⟨_, demanded, h⟩
  | behaved answer =>
      obtain ⟨cause, -, rfl⟩ := mapError_eq_error_iff.mp heq
      cases h
  | refused failure =>
      cases heq
      cases h
  | forwarded forwards =>
      obtain ⟨cause, -, rfl⟩ := mapError_eq_error_iff.mp heq
      cases h

/-- Only the interpreter tells that a message is not understood. -/
lemma EndsAs.forwarded_of_isUnknownSelector {outcome : Except Error String}
    (ends : session.EndsAs interpreter id selector arguments outcome) {error : Error}
    (heq : outcome = .error error) (h : error.isUnknownSelector = true) :
    ∃ stdout stderr, session.Forwards interpreter id selector arguments
      (.finished (.exited unknownSelectorCode) stdout stderr) := by
  cases ends with
  | unloaded demanded =>
      cases heq
      cases h
  | behaved answer =>
      obtain ⟨cause, -, rfl⟩ := mapError_eq_error_iff.mp heq
      cases h
  | refused failure =>
      cases heq
      cases h
  | forwarded forwards =>
      obtain ⟨cause, hanswer, rfl⟩ := mapError_eq_error_iff.mp heq
      obtain ⟨stdout, stderr, rfl⟩ := Bridge.answer_isUnknownSelector_iff.mp ⟨cause, hanswer, h⟩
      exact ⟨stdout, stderr, forwards⟩

/-- **What errors of messages tell.**  In every state of a session, with whatever behaviors and
whatever interpreter: a message fails for want of the instance exactly if that is neither cached nor
stored.  It is not understood exactly if it gets to the interpreter and this exits with the code for
that.  No error says both.  A behavior that fails says neither, whatever it fails of.  And a message
that gets to the interpreter succeeds exactly if that exits with zero; the answer is what was
printed, decoded with replacements, up to the blanks at its end.  Any other exit code, or none with
a signal, is told by the error. -/
theorem Reachable.send_outcomes {session : Session} (reached : session.Reachable)
    (interpreter : Interpreter Table) (id selector : String) (arguments : List Value) :
    let outcome := (session.send interpreter id selector arguments).1
    ((∃ error, outcome = .error error ∧ error.isNotFound = true) ↔
      session.store.isCached id = false ∧ ∀ row ∈ session.store.backend.rows, row.1 ≠ id) ∧
    ((∃ error, outcome = .error error ∧ error.isUnknownSelector = true) ↔
      ∃ stdout stderr, session.Forwards interpreter id selector arguments
        (.finished (.exited 200) stdout stderr)) ∧
    (∀ error, outcome = .error error →
      ¬ (error.isNotFound = true ∧ error.isUnknownSelector = true)) ∧
    (∀ object behavior cause, (session.load id).1 = .ok object →
      session.registry.lookup object.className selector = some behavior →
      (behavior ⟨object.className, selector, object.id⟩ arguments object).1 = .error cause →
      ∃ error, outcome = .error error ∧ error = .behavior id selector cause ∧
        error.isNotFound = false ∧ error.isUnknownSelector = false) ∧
    ∀ run, session.Forwards interpreter id selector arguments run →
      (∀ text, outcome = .ok text ↔ ∃ stdout stderr,
        run = .finished (.exited 0) stdout stderr ∧ Text.TrimsTo (Text.ofBytes stdout) text) ∧
      (∀ text printed stderr, run = .finished (.exited 0) (Text.bytes printed) stderr →
        (outcome = .ok text ↔ Text.TrimsTo printed text)) ∧
      (∀ code stdout stderr, run = .finished (.exited code) stdout stderr → code ≠ 0 →
        code ≠ 200 → outcome
          = .error (.bridge (.failed id selector (some code) (Bridge.printed stderr)))) ∧
      ∀ stdout stderr, run = .finished .signalled stdout stderr →
        outcome = .error (.bridge (.failed id selector none (Bridge.printed stderr))) := by
  intro outcome
  have hends : session.EndsAs interpreter id selector arguments outcome :=
    reached.send_endsAs interpreter id selector arguments
  have hforwarded : ∀ {run}, session.Forwards interpreter id selector arguments run →
      outcome = (session.bridge.answer id selector run).mapError .bridge :=
    reached.send_of_forwards
  refine ⟨⟨?_, ?_⟩, ⟨?_, ?_⟩, ?_, ?_, ?_⟩
  · rintro ⟨error, heq, h⟩
    exact Store.demand_isNotFound_iff.mp (hends.unloaded_of_isNotFound heq h)
  · intro habsent
    obtain ⟨cause, hdemand, h⟩ := Store.demand_isNotFound_iff.mpr habsent
    exact ⟨.store cause, congrArg Prod.fst (settles_of_course (course_of_error hdemand) _), h⟩
  · rintro ⟨error, heq, h⟩
    exact hends.forwarded_of_isUnknownSelector heq h
  · rintro ⟨stdout, stderr, hforwards⟩
    rw [hforwarded hforwards]
    exact ⟨_, rfl, rfl⟩
  · rintro error - ⟨hnotFound, hunknown⟩
    cases error with
    | store cause => cases hunknown
    | _ => cases hnotFound
  · intro object behavior cause hload hfound hfails
    refine ⟨_, ?_, rfl, rfl, rfl⟩
    rw [show outcome = _ from send_of_behavior hload hfound, hfails]
    rfl
  · intro run hforwards
    have hsucceeds : ∀ text, outcome = .ok text ↔ ∃ stdout stderr,
        run = .finished (.exited 0) stdout stderr ∧
          Text.TrimsTo (Text.ofBytes stdout) text := by
      intro text
      rw [hforwarded hforwards, ← Bridge.answer_eq_ok_iff]
      cases session.bridge.answer id selector run <;> simp [Except.mapError]
    refine ⟨hsucceeds, ?_, ?_, ?_⟩
    · rintro text printed stderr rfl
      simp [hsucceeds, Text.ofBytes_bytes]
    all_goals rw [hforwarded hforwards]
    · rintro code stdout stderr rfl hzero hunknown
      rw [Bridge.answer, if_neg hzero, if_neg (show code ≠ unknownSelectorCode from hunknown)]
      rfl
    · rintro stdout stderr rfl
      rfl

/-- A message that a counter has no behavior for goes to the interpreter, however this runs. -/
lemma counterSession_forwards (run : Run) :
    counterSession.Forwards (fun _ table => (run, table)) "counter_1" "dance" [.str "waltz"]
      run := by
  obtain ⟨object, table, hload, hclass, hput⟩ := counterSession_put
  refine ⟨object, table, hload, ?_, by decide +kernel, ?_, ?_⟩
  · rw [hclass]
    decide +kernel
  · rw [offered, counterSession_isDirty, if_pos rfl, hput]
  · rw [Interpreter.attempt, if_pos (by decide +kernel)]

/-- A blank, a byte that is of no character, and a line that ends. -/
def oddBytes : List UInt8 := [0x20, 0xff, 0x61, 0x0a, 0x0d]

theorem send_outcomes_dance :
    counterSession.Reachable ∧
      counterSession.Forwards (fun _ table => (.finished (.exited 0) oddBytes [], table))
        "counter_1" "dance" [.str "waltz"] (.finished (.exited 0) oddBytes []) ∧
      Text.TrimsTo (Text.ofBytes oddBytes) " \uFFFDa" ∧
      (counterSession.send (fun _ table => (.finished (.exited 0) oddBytes [], table))
        "counter_1" "dance" [.str "waltz"]).1 = .ok " \uFFFDa" ∧
      (∃ error, (counterSession.send (fun _ table => (.finished (.exited 200) [] [], table))
          "counter_1" "dance" [.str "waltz"]).1 = .error error ∧
        error.isUnknownSelector = true) ∧
      (counterSession.send (fun _ table => (.finished .signalled [] oddBytes, table))
        "counter_1" "dance" [.str "waltz"]).1
          = .error (.bridge (.failed "counter_1" "dance" none " \uFFFDa")) ∧
      ∃ error, (counterSession.send (fun _ table => (.finished (.exited 0) [] [], table))
          "counter_2" "dance" []).1 = .error error ∧ error.isNotFound = true := by
  have hreached : counterSession.Reachable := freshSession_reachable _
  have htrims : Text.TrimsTo (Text.ofBytes oddBytes) " \uFFFDa" :=
    Text.trimsTo_iff.mpr (by decide +kernel)
  have hprinted : Bridge.printed oddBytes = " \uFFFDa" := by decide +kernel
  have habsent : counterSession.store.isCached "counter_2" = false ∧
      ∀ row ∈ counterSession.store.backend.rows, row.1 ≠ "counter_2" := by
    decide +kernel
  obtain ⟨-, -, -, -, hzero⟩ := hreached.send_outcomes
    (fun _ table => (.finished (.exited 0) oddBytes [], table)) "counter_1" "dance" [.str "waltz"]
  obtain ⟨-, hunknown, -⟩ := hreached.send_outcomes
    (fun _ table => (.finished (.exited 200) [] [], table)) "counter_1" "dance" [.str "waltz"]
  obtain ⟨-, -, -, -, hsignal⟩ := hreached.send_outcomes
    (fun _ table => (.finished .signalled [] oddBytes, table)) "counter_1" "dance" [.str "waltz"]
  obtain ⟨hnotFound, -⟩ := hreached.send_outcomes
    (fun _ table => (.finished (.exited 0) [] [], table)) "counter_2" "dance" []
  have hforwards := counterSession_forwards
  refine ⟨hreached, hforwards _, htrims, ?_, ?_, ?_, hnotFound.mpr habsent⟩
  · exact ((hzero _ (hforwards _)).1 _).mpr ⟨_, _, rfl, htrims⟩
  · exact hunknown.mpr ⟨_, _, hforwards _⟩
  · rw [← hprinted]
    exact (hsignal _ (hforwards _)).2.2.2 _ _ rfl

end Session

end ObjectMemory
