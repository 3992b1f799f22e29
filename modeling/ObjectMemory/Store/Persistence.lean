import ObjectMemory.Instance.Naming
import ObjectMemory.Store.Access

/-!
# Writing instances

What is written becomes a clean entry, and what cannot be written leaves both the document store and
the cache as they were.

Many entries are written in the order of their ids.  `flush` stops at the first that cannot be
written, and `close` goes on, so that one refused document loses no other; what it could not write
is in its report.

* `Store.save` — an instance under an id; `saveCached` — the cached one;
* `Store.create`, `Store.delete` — the first and the last of an instance;
* `Store.findByClass` — what is written of a class;
* `Store.flush`, `Store.close` — all dirty entries.
-/

namespace ObjectMemory.Store

open Backend Json

variable {β : Type} [DocumentStore β]

/-! ## One instance -/

/-- Writes the document of an instance under an id, and caches the instance as it was written. -/
def save (store : Store β) (id : String) (object : Instance) : Except Error Unit × Store β :=
  match DocumentStore.put store.backend id object.encode with
  | .error failure => (.error (.backend .put id failure), store)
  | .ok backend =>
    (.ok (), { store with backend }.remember id (.clean object store.moment))

/-- Writes the cached instance of an id, dirty or not. -/
def saveCached (store : Store β) (id : String) : Except Error Unit × Store β :=
  match store.cache.get? id with
  | some entry => store.save id entry.object
  | none => (.error (.notFound id), store)

/-- Makes an instance of a class, created at `now`, with an id that ends in `suffix`, and writes
it. -/
def create (store : Store β) (className : String) (defaults : Object) (suffix : String)
    (now : Timestamp) : Except Error (String × Instance) × Store β :=
  let id := deriveId className suffix
  let object := Instance.new id className now defaults
  let (answer, store) := store.save id object
  (answer.map fun () => (id, object), store)

/-- Removes the document and the entry of an id.  There need not be any. -/
def delete (store : Store β) (id : String) : Except Error Unit × Store β :=
  match DocumentStore.delete store.backend id with
  | .error failure => (.error (.backend .delete id failure), store)
  | .ok backend => (.ok (), { store with backend, cache := store.cache.erase id })

def findByClass (store : Store β) (className : String) : Except Error (List String) :=
  (DocumentStore.findByClass store.backend className).mapError (.backend .findByClass className)

/-! ## All dirty entries -/

/-- Writes the cached instances of some ids, up to the first that cannot be written; how many. -/
def flushIds (store : Store β) : List String → Except Error Nat × Store β
  | [] => (.ok 0, store)
  | id :: rest =>
    match store.saveCached id with
    | (.error error, store) => (.error error, store)
    | (.ok (), store) =>
      let (answer, store) := store.flushIds rest
      (answer.map (· + 1), store)

/-- Writes the dirty entries in the order of their ids, up to the first that cannot be written; how
many. -/
def flush (store : Store β) : Except Error Nat × Store β := store.flushIds store.dirtyIds

/-- An entry that could not be written. -/
structure FlushFailure where
  id : String
  error : Error

/-- How closing went. -/
structure FlushReport where
  flushed : Nat
  /-- The entries that could not be written, in the order of their ids. -/
  failed : List FlushFailure
  /-- Why the document store could not be closed. -/
  closeError : Option Failure

def FlushReport.isClean (report : FlushReport) : Bool :=
  report.failed.isEmpty && report.closeError.isNone

def FlushReport.failedIds (report : FlushReport) : List String := report.failed.map FlushFailure.id

/-- Writes the cached instances of some ids, whatever becomes of the others; how many, and which
could not be written. -/
def settleIds (store : Store β) : List String → (Nat × List FlushFailure) × Store β
  | [] => ((0, []), store)
  | id :: rest =>
    match store.saveCached id with
    | (.error error, store) =>
      let ((flushed, failed), store) := store.settleIds rest
      ((flushed, ⟨id, error⟩ :: failed), store)
    | (.ok (), store) =>
      let ((flushed, failed), store) := store.settleIds rest
      ((flushed + 1, failed), store)

/-- Writes the dirty entries that can be written and closes the document store; how it went, and
the document store as it was left. -/
def close (store : Store β) : FlushReport × β :=
  let ((flushed, failed), store) := store.settleIds store.dirtyIds
  let closeError := match DocumentStore.close store.backend with
    | .ok () => none
    | .error failure => some failure
  (⟨flushed, failed, closeError⟩, store.backend)

end ObjectMemory.Store
