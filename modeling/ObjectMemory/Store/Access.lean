import ObjectMemory.Store.Basic

/-!
# Using instances

An instance that is used is looked up in the cache, or else read from the document store and cached
as a clean entry.  Changes are made to the cached instance; an entry in which something was modified
is dirty from then on.  If there is no instance to use, nothing changes.

Each operation answers and gives the store after it, failed or not.

* `Store.demand` — the entry of an id, cached or read;
* `Store.load` — the instance of an id;
* `Store.update` — a change of the cached instance; `setVar`, `removeVar` — of one variable.
-/

namespace ObjectMemory.Store

open Backend Json

variable {β : Type} [DocumentStore β]

/-- Reads the instance of an id from the document store. -/
def fetch (store : Store β) (id : String) : Except Error Instance :=
  match DocumentStore.get store.backend id with
  | .error failure => .error (.backend .get id failure)
  | .ok none => .error (.notFound id)
  | .ok (some document) => (Instance.decode id document).mapError (.unreadable id)

/-- The entry of an id: the cached one, or one of the instance that the document store has. -/
def demand (store : Store β) (id : String) : Except Error Entry :=
  match store.cache.get? id with
  | some entry => .ok entry
  | none =>
    match store.fetch id with
    | .ok object => .ok (.clean object store.moment)
    | .error error => .error error

def load (store : Store β) (id : String) : Except Error Instance × Store β :=
  match store.demand id with
  | .error error => (.error error, store)
  | .ok entry => (.ok entry.object, store.remember id (entry.touch store.moment))

/-- Changes the instance of an id in the cache. -/
def update {α : Type} (store : Store β) (id : String) (edit : Instance → α × Instance) :
    Except Error α × Store β :=
  match store.demand id with
  | .error error => (.error error, store)
  | .ok entry =>
    let (answer, edited) := edit entry.object
    let (modified, object) := edited.takeModified
    (.ok answer,
      store.remember id
        { entry with object, dirty := entry.dirty || modified, accessedAt := store.moment })

/-- The answer of an edit that may be refused, inside a use that may fail. -/
def flatten {α : Type} : Except Error (Except ReservedField α) → Except Error α
  | .ok (.ok answer) => .ok answer
  | .ok (.error field) => .error (.reserved field)
  | .error error => .error error

/-- Writes a variable of an instance; the answer is its value before. -/
def setVar (store : Store β) (id name : String) (value : Value) :
    Except Error (Option Value) × Store β :=
  let (answer, store) := store.update id (Instance.set name value)
  (flatten answer, store)

/-- Removes a variable of an instance; the answer is its value before. -/
def removeVar (store : Store β) (id name : String) : Except Error (Option Value) × Store β :=
  let (answer, store) := store.update id (Instance.remove name)
  (flatten answer, store)

end ObjectMemory.Store
