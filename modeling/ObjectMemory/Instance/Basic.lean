import ObjectMemory.Timestamp.Rfc3339
import ObjectMemory.Json.Value

/-!
# Instances

An object of some class: its id, its standard fields, and its variables.  The standard fields are
the class, the moment of creation, and the names of the variables that were declared when it was
made.  They are kept twice, as fields and among the `data`, which is the document of the instance.
Variables may come and go freely, but the three keys of the standard fields are reserved, so no
variable can change what the data say about them.

The flag `modified` tells that a variable was written since somebody last looked.

* `Instance.new` — a fresh instance of a class with default values;
* `Instance.withStandardFields` — data with the standard fields in it;
* `Instance.get?`, `set`, `remove` — variables;
* `Instance.takeModified` — looking at the flag and resetting it.
-/

namespace ObjectMemory

open Json

/-- An object of some class. -/
structure Instance where
  id : String
  className : String
  createdAt : Timestamp
  /-- The names of the declared variables, in the order of their declaration. -/
  declared : List String
  /-- The whole document, variables and standard fields. -/
  data : Object
  /-- Whether a variable was written since the flag was last reset. -/
  modified : Bool

def classKey : String := "class"

def createdAtKey : String := "created_at"

def declaredKey : String := "_vars"

/-- Whether a name is a key of a standard field. -/
def isReserved (name : String) : Bool :=
  name == classKey || name == createdAtKey || name == declaredKey

/-- The refusal to write a standard field. -/
structure ReservedField where
  name : String
  deriving DecidableEq, Repr

namespace Instance

/-- Instances are equal when their fields are; whether they were modified does not count. -/
instance : BEq Instance := ⟨fun a b =>
  a.id == b.id && a.className == b.className && a.createdAt == b.createdAt &&
    a.declared == b.declared && a.data == b.data⟩

/-! ## Standard fields -/

/-- Data with the standard fields in it.  An instance without declared names has no member for
them. -/
def withStandardFields (className : String) (createdAt : Timestamp) (declared : List String)
    (data : Object) : Object :=
  let data := (data.insert classKey (.str className)).insert createdAtKey (.str createdAt.encode)
  if declared.isEmpty then data.erase declaredKey
  else data.insert declaredKey (.arr (declared.map .str))

/-- A fresh instance.  Every default is a variable, declared unless its name is reserved. -/
def new (id className : String) (createdAt : Timestamp) (defaults : Object) : Instance :=
  let declared := defaults.keys.filter fun key => !isReserved key
  { id, className, createdAt, declared
    data := withStandardFields className createdAt declared defaults
    modified := false }

/-! ## Variables -/

def get? (object : Instance) (name : String) : Option Value := object.data.get? name

/-- Writes a variable, declared or not; the answer is its value before.  A write counts as a
modification whatever is written. -/
def set (name : String) (value : Value) (object : Instance) :
    Except ReservedField (Option Value) × Instance :=
  if isReserved name then (.error ⟨name⟩, object)
  else
    (.ok (object.get? name),
      { object with data := object.data.insert name value, modified := true })

/-- Removes a variable; the answer is its value before.  Removing what is not there changes
nothing. -/
def remove (name : String) (object : Instance) :
    Except ReservedField (Option Value) × Instance :=
  if isReserved name then (.error ⟨name⟩, object)
  else
    match object.get? name with
    | some value =>
      (.ok (some value), { object with data := object.data.erase name, modified := true })
    | none => (.ok none, object)

/-- The instance with the flag reset. -/
def unmodified (object : Instance) : Instance := { object with modified := false }

/-- Whether the instance was modified, and the instance with the flag reset. -/
def takeModified (object : Instance) : Bool × Instance := (object.modified, object.unmodified)

end Instance

end ObjectMemory
