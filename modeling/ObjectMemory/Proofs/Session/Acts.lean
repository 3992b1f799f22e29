import ObjectMemory.Proofs.Store.Marks
import ObjectMemory.Session.Basic

/-!
# The states of a session

Whatever is done with a session, in whatever order, and whatever other programs do to its database
in between.  Nothing is assumed of the behaviors here, nor of the interpreter, nor of anybody else,
so the states that are reached in this way are all the states there are.

One thing holds in all of them: no cached instance carries the mark of a modification.  An update
takes the mark off, and what is cached otherwise comes without one.

* `Act`, `Act.perform`, `runActs` — what happens, and to a session;
* `Reachable` — the states of a session;
* **`Reachable.unmarked`** — no cached instance is marked.
-/

namespace ObjectMemory

open Backend Json Message

namespace Session

/-- What is done with a session, and what others do around it. -/
inductive Act where
  | create (className : String) (defaults : Object) (suffix : String) (now : Timestamp)
  | load (id : String)
  | delete (id : String)
  | flush
  /-- A message, with the interpreter as it will behave if it is asked. -/
  | send (interpreter : Interpreter Table) (id selector : String) (arguments : List Value)
  /-- A request to the store of the session. -/
  | ask (request : Store.Request)
  /-- Behaviors are registered, or removed. -/
  | equip (registry : Registry)
  /-- Other programs leave the database as this. -/
  | meddle (table : Table)

/-- The session after an act. -/
def Act.perform (session : Session) : Act → Session
  | create className defaults suffix now => (session.create className defaults suffix now).2
  | load id => (session.load id).2
  | delete id => (session.delete id).2
  | flush => session.flush.2
  | send interpreter id selector arguments => (session.send interpreter id selector arguments).2
  | ask request => { session with store := (session.store.perform request).2 }
  | equip registry => { session with registry }
  | meddle table => { session with store := { session.store with backend := table } }

/-- The session after acts in a row. -/
def runActs (session : Session) (acts : List Act) : Session := acts.foldl Act.perform session

/-- The session was opened on some database, and then anything happened. -/
def Reachable (session : Session) : Prop :=
  ∃ configuration place registry opened acts,
    openAt configuration place registry = .ok opened ∧ session = runActs opened acts

lemma openAt_store {configuration : Configuration} {place : Place} {registry : Registry}
    {opened : Session} (h : openAt configuration place registry = .ok opened) :
    ∃ table, opened.store = .new table ∧ opened.registry = registry := by
  rw [openAt] at h
  split at h
  · cases h
  · next table _ =>
      obtain rfl := Except.ok.inj h
      exact ⟨table, rfl, rfl⟩

lemma writeBack_unmarked {session : Session} (h : session.store.Unmarked) (id : String) :
    (session.writeBack id).2.store.Unmarked := by
  rw [writeBack]
  split_ifs
  · exact h.saveCached id
  · exact h

lemma forward_unmarked {session : Session} (h : session.store.Unmarked)
    (interpreter : Interpreter Table) (id selector : String) (arguments : List Value) :
    (session.forward interpreter id selector arguments).2.store.Unmarked := by
  have hwritten := writeBack_unmarked h id
  rw [forward]
  split
  · next error failed heq => rwa [heq] at hwritten
  · next ready heq =>
      rw [heq] at hwritten
      -- what is cached does not depend on what the interpreter leaves of the database
      have hleft : ∀ backend, ({ ready.store with backend } : Store Table).Unmarked :=
        fun _ => hwritten
      exact (hleft _).evict id

lemma send_unmarked {session : Session} (h : session.store.Unmarked)
    (interpreter : Interpreter Table) (id selector : String) (arguments : List Value) :
    (session.send interpreter id selector arguments).2.store.Unmarked := by
  have hupdated := h.update id (session.registry.dispatch selector arguments)
  rw [send]
  rcases hupdate : session.store.update id (session.registry.dispatch selector arguments) with
    ⟨outcome, store⟩
  rw [hupdate] at hupdated
  rcases outcome with error | answer | error | _
  · exact hupdated
  · exact hupdated
  · exact hupdated
  · exact forward_unmarked hupdated interpreter id selector arguments

lemma perform_unmarked {session : Session} (h : session.store.Unmarked) (act : Act) :
    (act.perform session).store.Unmarked := by
  cases act with
  | create className defaults suffix now => exact h.save _ _
  | load id => exact h.load id
  | delete id => exact h.delete id
  | flush => exact Store.Unmarked.perform h .flush
  | send interpreter id selector arguments =>
      exact send_unmarked h interpreter id selector arguments
  | ask request => exact h.perform request
  | equip registry => exact h
  | meddle table => exact h

lemma runActs_unmarked {session : Session} (h : session.store.Unmarked) (acts : List Act) :
    (runActs session acts).store.Unmarked := by
  induction acts generalizing session with
  | nil => exact h
  | cons act rest ih => exact ih (perform_unmarked h act)

/-- **No cached instance of a session is marked**, whatever happened to it. -/
theorem Reachable.unmarked {session : Session} (h : session.Reachable) :
    session.store.Unmarked := by
  obtain ⟨configuration, place, registry, opened, acts, hopen, rfl⟩ := h
  obtain ⟨table, hstore, -⟩ := openAt_store hopen
  exact runActs_unmarked (hstore ▸ Store.new_unmarked table) acts

end Session

end ObjectMemory
