import ObjectMemory.Backend.Basic
import ObjectMemory.Instance.Basic
import ObjectMemory.Json.Reader

/-!
# Documents in memory

Documents as they were given, by id.  Only what is JSON is stored.  While the store is read-only it
refuses every change, before it looks at anything else.

* `Memory` — the store; `Memory.put`, `Memory.delete` — its changes; `Memory.setReadOnly` — whether
  it takes them;
* `namesClass` — whether a document names a class;
* `Memory.findByClass` — the ids of such documents, ascending.
-/

namespace ObjectMemory.Backend

open Json

structure Memory where
  documents : SortedMap String String
  /-- Whether changes are refused. -/
  readOnly : Bool

/-- Whether a document is an object that names a class. -/
def namesClass (className document : String) : Bool :=
  match decode document with
  | .ok value => (value.object?.bind (·.get? classKey)).bind Value.text? == some className
  | .error _ => false

namespace Memory

def empty : Memory := ⟨.empty, false⟩

/-- The store that refuses changes, or takes them again. -/
def setReadOnly (store : Memory) (readOnly : Bool) : Memory := { store with readOnly }

def readOnlyFailure : Failure := .other "store is read-only"

/-- The refusal to store what is no JSON. -/
def malformed (error : SyntaxError) : Failure :=
  .other ("malformed document: " ++ error.message)

def put (store : Memory) (id document : String) : Except Failure Memory :=
  if store.readOnly then .error readOnlyFailure
  else
    match decode document with
    | .error error => .error (malformed error)
    | .ok _ => .ok { store with documents := store.documents.insert id document }

def delete (store : Memory) (id : String) : Except Failure Memory :=
  if store.readOnly then .error readOnlyFailure
  else .ok { store with documents := store.documents.erase id }

def findByClass (store : Memory) (className : String) : List String :=
  (store.documents.entries.filter fun entry => namesClass className entry.2).map Prod.fst

instance : DocumentStore Memory where
  get store id := .ok (store.documents.get? id)
  put := put
  delete := delete
  findByClass store className := .ok (store.findByClass className)
  close _ := .ok ()

end Memory

end ObjectMemory.Backend
