import ObjectMemory.Json.Reader

/-!
# Sequences

The contents of an array instance: values in order, addressed by signed 64-bit indices.  An index
from zero up counts from the front, a negative one from the end, so `-1` is the last element.  An
index that addresses nothing reads as nothing, and writing or removing there changes nothing.

A sequence is read leniently (`ofText`, `ofVariable`): whatever is no array is an empty one.

* `Sequence.position?` — where an index points;
* `get?`, `set?`, `push`, `pop`, `first?`, `last?`, `remove?` — the operations;
* `encode` — the compact JSON text.
-/

namespace ObjectMemory.Collection

open Json

/-- Values in order. -/
structure Sequence where
  items : List Value

namespace Sequence

def empty : Sequence := ⟨[]⟩

/-- The sequence of a value: an inline array. -/
def ofValue : Value → Sequence
  | .arr items => ⟨items⟩
  | _ => empty

/-- The sequence that a JSON text spells. -/
def ofText (text : String) : Sequence :=
  match decode text with
  | .ok value => ofValue value
  | .error _ => empty

/-- The sequence that a variable holds, as text or inline. -/
def ofVariable : Option Value → Sequence
  | some (.str text) => ofText text
  | some value => ofValue value
  | none => empty

def encode (sequence : Sequence) : String := (Value.arr sequence.items).encode

def size (sequence : Sequence) : Nat := sequence.items.length

def isEmpty (sequence : Sequence) : Bool := sequence.items.isEmpty

instance : BEq Sequence := ⟨fun a b => sameItems a.items b.items⟩

/-! ## Addressing -/

/-- The position that an index addresses among `size` elements. -/
def position? (size : Nat) (index : Int64) : Option Nat :=
  let i := index.toInt
  let position := if i < 0 then i + size else i
  if 0 ≤ position ∧ position < size then some position.toNat else none

def get? (sequence : Sequence) (index : Int64) : Option Value :=
  (position? sequence.size index).bind (sequence.items[·]?)

/-- The sequence with another element at an index, if the index addresses one. -/
def set? (sequence : Sequence) (index : Int64) (value : Value) : Option Sequence :=
  (position? sequence.size index).map fun i => ⟨sequence.items.set i value⟩

/-- The element at an index and the sequence without it, if the index addresses one. -/
def remove? (sequence : Sequence) (index : Int64) : Option (Value × Sequence) := do
  let i ← position? sequence.size index
  let value ← sequence.items[i]?
  return (value, ⟨sequence.items.eraseIdx i⟩)

/-! ## Both ends -/

def first? (sequence : Sequence) : Option Value := sequence.items.head?

def last? (sequence : Sequence) : Option Value := sequence.items.getLast?

def push (sequence : Sequence) (value : Value) : Sequence := ⟨sequence.items ++ [value]⟩

/-- The last element, if there is one, and the sequence without it. -/
def pop (sequence : Sequence) : Option Value × Sequence :=
  (sequence.last?, ⟨sequence.items.dropLast⟩)

end Sequence

end ObjectMemory.Collection
