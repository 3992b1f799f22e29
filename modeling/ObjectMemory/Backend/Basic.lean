/-!
# Document stores

What keeps the documents of instances: one text for each id.  A store knows nothing of instances but
the class that a document names, by which it lists ids.  Every request may fail, and a request that
fails changes nothing: there is no new store to go on with.

* `Failure` — why a request fails; `Failure.message` — in words;
* `DocumentStore` — the requests.
-/

namespace ObjectMemory.Backend

/-- Why a database refuses a request. -/
inductive DatabaseFault where
  /-- The document is not well-formed. -/
  | malformedJson
  /-- Somebody else is writing. -/
  | locked
  /-- The document was stored as a number, whole or not, and is no text. -/
  | numericCell (whole : Bool)
  /-- There is no file at the path, and none can be made. -/
  | cannotOpen (path : String)
  /-- The file at the path holds something else. -/
  | notADatabase
  deriving DecidableEq, Repr

def DatabaseFault.message : DatabaseFault → String
  | .malformedJson => "malformed JSON"
  | .locked => "database is locked"
  | .numericCell whole =>
    "Invalid column type " ++ (if whole then "Integer" else "Real") ++ " at index: 0, name: data"
  | .cannotOpen path => "unable to open database file: " ++ path
  | .notADatabase => "file is not a database"

/-- Why a document store refuses a request. -/
inductive Failure where
  | database (fault : DatabaseFault)
  /-- The file system refused. -/
  | files (reason : String)
  | other (message : String)
  deriving DecidableEq, Repr

def Failure.message : Failure → String
  | .database fault => "SQLite error: " ++ fault.message
  | .files reason => "I/O error: " ++ reason
  | .other message => message

/-- A store of documents by id. -/
class DocumentStore (β : Type) where
  /-- The document of an id, if there is one. -/
  get : β → (id : String) → Except Failure (Option String)
  /-- Stores a document under an id, in place of any other. -/
  put : β → (id document : String) → Except Failure β
  /-- Removes the document of an id.  There need not be one. -/
  delete : β → (id : String) → Except Failure β
  /-- The ids whose documents name a class, in an order of the store's own. -/
  findByClass : β → (className : String) → Except Failure (List String)
  /-- Gives up what the store holds. -/
  close : β → Except Failure Unit

end ObjectMemory.Backend
