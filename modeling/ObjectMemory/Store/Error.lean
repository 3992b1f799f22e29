import ObjectMemory.Backend.Basic
import ObjectMemory.Instance.Document

/-!
# What can go wrong in a store of instances

An instance may not be there, its document may be unreadable, the document store below may refuse a
request, and a variable may have a reserved name.

* `Operation` — the requests to a document store, as errors name them;
* `Store.Error`, `Store.Error.message` — the errors.
-/

namespace ObjectMemory

/-- A request to a document store. -/
inductive Operation where
  | get
  | put
  | delete
  | findByClass
  deriving DecidableEq, Repr

def Operation.name : Operation → String
  | .get => "get"
  | .put => "put"
  | .delete => "delete"
  | .findByClass => "find_by_class"

namespace Store

/-- What can go wrong in a store of instances. -/
inductive Error where
  /-- There is no instance of the id. -/
  | notFound (id : String)
  /-- The document of the id is not one of an instance. -/
  | unreadable (id : String) (error : DocumentError)
  /-- The document store refused a request about the key. -/
  | backend (operation : Operation) (key : String) (failure : Backend.Failure)
  /-- The variable has the name of a standard field. -/
  | reserved (field : ReservedField)
  deriving DecidableEq, Repr

def Error.message : Error → String
  | .notFound id => "Instance not found: " ++ id
  | .unreadable id error =>
    "An error occurred while deserializing instance " ++ id ++ ": " ++ error.message
  | .backend operation key failure =>
    "Document store " ++ operation.name ++ " failed for (" ++ key ++ "): " ++ failure.message
  | .reserved field =>
    "Instance variable (" ++ field.name ++ ") is reserved for a standard field"

def Error.isNotFound : Error → Bool
  | .notFound _ => true
  | _ => false

end Store

end ObjectMemory
