import ObjectMemory.Backend.Table
import ObjectMemory.Json.Plain
import ObjectMemory.Message.Registry
import ObjectMemory.Session.Error
import ObjectMemory.Store.Persistence

/-!
# Sessions

One handle for everything: the configured database behind a store of instances, the behaviors, and
the bridge to the interpreter, which shares the database.

A message goes to the behavior that is found for it, which changes the cached instance.  If there is
none, the message is forwarded.  The interpreter has to see what we changed, so a dirty entry is
written first; and we have to see what it changed, so the entry is dropped afterwards, however the
interpreter ended.

* `Session`, `Session.start` — a session on the database of a configuration;
* `create`, `load`, `delete`, `findByClass`, `flush`, `close` — its store;
* **`send`**, `forward` — messages.
-/

namespace ObjectMemory

open Backend Json Message

/-! ## Opening -/

/-- What there is at the path of a database. -/
inductive Place where
  /-- Nothing; the directories above it can be made. -/
  | absent
  | database (table : Table)
  /-- A directory. -/
  | directory
  /-- Nothing, and a file stands where a directory above it is due. -/
  | obstructed
  /-- A file that is no database. -/
  | foreign

/-- The database at a path, new if there is nothing. -/
def Place.opened (path : String) : Place → Except Failure Table
  | absent => .ok .empty
  | database table => .ok table
  | directory => .error (.database (.cannotOpen path))
  | obstructed => .error (.files "File exists (os error 17)")
  | foreign => .error (.database .notADatabase)

/-- An open database with its behaviors and its interpreter. -/
structure Session where
  configuration : Configuration
  store : Store Table
  registry : Registry
  bridge : Bridge

namespace Session

/-- Opens a session on the database of a configuration. -/
def openAt (configuration : Configuration) (place : Place) (registry : Registry) :
    Except Error Session :=
  match place.opened configuration.storePath with
  | .error failure => .error (.opening configuration.storePath failure)
  | .ok table => .ok ⟨configuration, .new table, registry, ⟨configuration.executable⟩⟩

/-- Opens a session on the database of some settings.  `look` tells what there is at a path. -/
def start (settings : Settings) (environment : Environment) (home : Option String)
    (look : String → Place) (registry : Registry) : Except Error Session :=
  match settings.resolve environment home with
  | .error error => .error (.settings error)
  | .ok configuration => openAt configuration (look configuration.storePath) registry

/-! ## The store -/

/-- Makes an instance of a class; its id. -/
def create (session : Session) (className : String) (defaults : Object) (suffix : String)
    (now : Timestamp) : Except Error String × Session :=
  let (answer, store) := session.store.create className defaults suffix now
  ((answer.map Prod.fst).mapError .store, { session with store })

def load (session : Session) (id : String) : Except Error Instance × Session :=
  let (answer, store) := session.store.load id
  (answer.mapError .store, { session with store })

/-- Removes an instance.  There need not be one. -/
def delete (session : Session) (id : String) : Except Error Unit × Session :=
  let (answer, store) := session.store.delete id
  (answer.mapError .store, { session with store })

def findByClass (session : Session) (className : String) : Except Error (List String) :=
  (session.store.findByClass className).mapError .store

/-- Writes the dirty instances; how many. -/
def flush (session : Session) : Except Error Nat × Session :=
  let (answer, store) := session.store.flush
  (answer.mapError .store, { session with store })

/-- Writes the dirty instances and closes the database; how it went, and the database as it was
left. -/
def close (session : Session) : Store.FlushReport × Table := session.store.close

/-! ## Messages -/

/-- Writes an instance if it is cached and dirty. -/
def writeBack (session : Session) (id : String) : Except Error Unit × Session :=
  if session.store.isDirty id then
    let (answer, store) := session.store.saveCached id
    (answer.mapError .store, { session with store })
  else (.ok (), session)

/-- Sends a message to an instance through the interpreter. -/
def forward (session : Session) (interpreter : Interpreter Table) (id selector : String)
    (arguments : List Value) : Except Error String × Session :=
  match session.writeBack id with
  | (.error error, session) => (.error error, session)
  | (.ok (), session) =>
    let (answer, backend) :=
      session.bridge.send interpreter id selector (arguments.map Value.render)
        session.store.backend
    let (_, store) := { session.store with backend }.evict id
    (answer.mapError .bridge, { session with store })

/-- Sends a message to an instance. -/
def send (session : Session) (interpreter : Interpreter Table) (id selector : String)
    (arguments : List Value) : Except Error String × Session :=
  let (outcome, store) :=
    session.store.update id (session.registry.dispatch selector arguments)
  let session := { session with store }
  match outcome with
  | .error error => (.error (.store error), session)
  | .ok (.handled answer) => (.ok answer, session)
  | .ok (.failed error) => (.error (.behavior id selector error), session)
  | .ok .notHandled => session.forward interpreter id selector arguments

end Session

end ObjectMemory
