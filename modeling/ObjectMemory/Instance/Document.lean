import ObjectMemory.Instance.Basic
import ObjectMemory.Json.Reader

/-!
# Instances as documents

The document of an instance is the compact JSON text of its data.  It is read back leniently: only
the class is required.  A moment of creation that is missing or cannot be read is the start of 1970,
and declared names that are no strings, or no array, are left out.  Whatever else the document holds
are variables.

* `Instance.document` — the data with the standard fields; `Instance.encode` — its text;
* `Instance.decode` — the instance of an id and a text;
* `DocumentError` — why there is none.
-/

namespace ObjectMemory

open Json

/-- Why a text is not the document of an instance. -/
inductive DocumentError where
  /-- It is not a JSON object. -/
  | malformed (error : SyntaxError)
  /-- It names no class. -/
  | classless
  deriving DecidableEq, Repr

def DocumentError.message : DocumentError → String
  | .malformed error => error.message
  | .classless => "document has no string `class` field"

namespace Instance

/-- The document of an instance. -/
def document (object : Instance) : Object :=
  withStandardFields object.className object.createdAt object.declared object.data

def encode (object : Instance) : String := object.document.encode

/-- The moment that data give as their creation. -/
def createdAtOf (data : Object) : Timestamp :=
  ((data.get? createdAtKey).bind Value.text? |>.bind Timestamp.decode?).getD .epoch

/-- The names that data give as declared. -/
def declaredOf (data : Object) : List String :=
  match data.get? declaredKey with
  | some (.arr names) => names.filterMap Value.text?
  | _ => []

/-- The instance of an id and its data, which have to name a class. -/
def ofData (id : String) (data : Object) : Except DocumentError Instance :=
  match (data.get? classKey).bind Value.text? with
  | none => .error .classless
  | some className =>
    let createdAt := createdAtOf data
    let declared := declaredOf data
    .ok
      { id, className, createdAt, declared
        data := withStandardFields className createdAt declared data
        modified := false }

/-- The instance of an id and the text of its document. -/
def decode (id text : String) : Except DocumentError Instance :=
  match decodeObject text with
  | .ok data => ofData id data
  | .error error => .error (.malformed error)

end Instance

end ObjectMemory
