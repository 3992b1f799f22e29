import ObjectMemory.Json.Reader

/-!
# Dictionaries

The contents of a dictionary instance: values by key, listed in the order of the keys.  Strings are
ordered by code point, which is also the order of their UTF-8 bytes.

Like a sequence, a dictionary is read leniently: whatever is no object is an empty one.

* `Dictionary.get?`, `contains`, `keys`, `size` — what is in it;
* `put`, `remove` — one entry more or less, with the value that was there before;
* `encode` — the compact JSON text.
-/

namespace ObjectMemory.Collection

open Json

/-- Values by key. -/
structure Dictionary where
  entries : Object

namespace Dictionary

def empty : Dictionary := ⟨.empty⟩

/-- The dictionary of a value: an inline object. -/
def ofValue (value : Value) : Dictionary := ⟨value.object?.getD .empty⟩

/-- The dictionary that a JSON text spells. -/
def ofText (text : String) : Dictionary :=
  match decode text with
  | .ok value => ofValue value
  | .error _ => empty

/-- The dictionary that a variable holds, as text or inline. -/
def ofVariable : Option Value → Dictionary
  | some (.str text) => ofText text
  | some value => ofValue value
  | none => empty

def encode (dictionary : Dictionary) : String := dictionary.entries.encode

def size (dictionary : Dictionary) : Nat := dictionary.entries.size

def isEmpty (dictionary : Dictionary) : Bool := dictionary.entries.isEmpty

def keys (dictionary : Dictionary) : List String := dictionary.entries.keys

instance : BEq Dictionary := ⟨fun a b => a.entries == b.entries⟩

def get? (dictionary : Dictionary) (key : String) : Option Value := dictionary.entries.get? key

def contains (dictionary : Dictionary) (key : String) : Bool := dictionary.entries.contains key

/-- The value that a key had, and the dictionary in which it has another. -/
def put (dictionary : Dictionary) (key : String) (value : Value) : Option Value × Dictionary :=
  (dictionary.get? key, ⟨dictionary.entries.insert key value⟩)

/-- The value that a key had, and the dictionary without its entry. -/
def remove (dictionary : Dictionary) (key : String) : Option Value × Dictionary :=
  (dictionary.get? key, ⟨dictionary.entries.erase key⟩)

end Dictionary

end ObjectMemory.Collection
