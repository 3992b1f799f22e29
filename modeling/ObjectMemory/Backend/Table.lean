import ObjectMemory.Backend.Basic
import ObjectMemory.Backend.Cell
import ObjectMemory.Instance.Basic
import ObjectMemory.Json.Spelling

/-!
# Documents in a table

Documents as the rows of a table in an SQL database, which checks that they are JSON and drops their
blanks, but keeps their spelling.  A new row comes last, also when it replaces another one.

The column of the documents prefers numbers to text, so a document that is nothing but a number is
stored as that number, and cannot be read as a text any more.

The database is shared.  While another connection is writing, every change is refused, before the
database looks at anything else; reading goes on.  And other programs may store texts without the
check, which are kept as they are, unless they are numbers.

**Only JSON.**  The database is more lenient than this.  Its check also takes JSON5, with names that
have no quotes, comments, hexadecimal numbers and the like, and it looks for a class in such texts of
other programs too.  Here JSON5 that is not JSON is malformed: `Table.put` refuses it, and
`Cell.className?` fails on it.  A document that was checked is JSON either way, since the database
stores JSON5 as the JSON that it stands for; and the documents of instances are JSON to begin with.
So the difference shows only where another text is put, or where another program stored one.

* `Cell`, `Cell.read`, `Cell.className?` — what a row holds, as a text, and the class that it names;
* `Table` — the rows; `Table.get`, `put`, `delete` — requests for one of them;
* `Table.overwrite` — what another program may do to a row;
* `Table.findByClass` — the ids of documents of a class, in the order of the rows.
-/

namespace ObjectMemory.Backend

open Json

/-! ## Cells -/

/-- What a row holds. -/
inductive Cell where
  /-- A document that was checked when it was stored. -/
  | document (spelled : Spelled)
  /-- A text that another program stored. -/
  | text (content : String)

/-- How deep the brackets of a document may be. -/
def tableDepthLimit : Nat := 1000

/-- The class that a document is of: what its first member for the class is, a string as the text it
stands for, an array or object as its JSON text. -/
def classOf? (document : Spelled) : Option String :=
  match document.member? classKey with
  | some (.str inside) => unescape? inside
  | some (.arr items) => some (Spelled.arr items).encode
  | some (.obj members) => some (Spelled.obj members).encode
  | _ => none

namespace Cell

/-- The text of a cell. -/
def read : Cell → Except Failure String
  | .document (.num spelling) => .error (.database (.numericCell (isWholeCell spelling)))
  | .document spelled => .ok spelled.encode
  | .text content =>
    match literal? content.toList with
    | some numeral => .error (.database (.numericCell (isWholeNumeral numeral)))
    | none => .ok content

/-- The class that a cell names.  A text has to be JSON to be looked into, where the database would
look into JSON5 as well. -/
def className? : Cell → Except Failure (Option String)
  | .document spelled => .ok (classOf? spelled)
  | .text content =>
    match literal? content.toList, Spelled.decode? tableDepthLimit content with
    | some _, _ => .ok none
    | none, some spelled => .ok (classOf? spelled)
    | none, none => .error (.database .malformedJson)

end Cell

/-! ## Tables -/

/-- The rows of a table, each id once. -/
structure Table where
  rows : List (String × Cell)
  /-- Whether another connection is writing. -/
  locked : Bool
  /-- The ids at whose turn another connection will be writing. -/
  contested : List String

namespace Table

def empty : Table := ⟨[], false, []⟩

/-- Whether a change of a row meets another connection that is writing. -/
def refuses (table : Table) (id : String) : Bool := table.locked || table.contested.contains id

/-- The rows of other ids. -/
def rowsWithout (table : Table) (id : String) : List (String × Cell) :=
  table.rows.filter fun row => row.1 != id

def get (table : Table) (id : String) : Except Failure (Option String) :=
  match table.rows.find? fun row => row.1 == id with
  | some row => row.2.read.map some
  | none => .ok none

/-- Stores a document in place of any other of its id.  It has to be JSON, where the database would
take JSON5 as well and store it as JSON. -/
def put (table : Table) (id document : String) : Except Failure Table :=
  if table.refuses id then .error (.database .locked)
  else
    match Spelled.decode? tableDepthLimit document with
    | none => .error (.database .malformedJson)
    | some spelled =>
      .ok { table with rows := table.rowsWithout id ++ [(id, .document spelled)] }

def delete (table : Table) (id : String) : Except Failure Table :=
  if table.refuses id then .error (.database .locked)
  else .ok { table with rows := table.rowsWithout id }

/-- The table after another program stored a text under an id. -/
def overwrite (table : Table) (id text : String) : Table :=
  { table with rows := table.rowsWithout id ++ [(id, .text text)] }

/-- The ids among rows whose cells name a class, up to the first cell that cannot be looked into. -/
def idsOfClass (className : String) : List (String × Cell) → Except Failure (List String)
  | [] => .ok []
  | (id, cell) :: rest => do
    let found ← cell.className?
    let ids ← idsOfClass className rest
    return if found == some className then id :: ids else ids

def findByClass (table : Table) (className : String) : Except Failure (List String) :=
  idsOfClass className table.rows

instance : DocumentStore Table where
  get := get
  put := put
  delete := delete
  findByClass := findByClass
  close _ := .ok ()

end Table

end ObjectMemory.Backend
