import ObjectMemory.Collection.Sequence
import ObjectMemory.Message.Builtin.Items

/-!
# What arrays answer

The behaviors of arrays, whose contents are a sequence.  A missing element is answered as an empty
text.  Writing past the ends is accepted and answered like any other write, and changes no element;
it still puts the contents into their one spelling and counts as a modification, and so does taking
the last element of an empty array.

* `arrayBehaviors` — by selector.
-/

namespace ObjectMemory.Message.Builtin

open Json Collection

def sequenceOf (object : Instance) : Sequence := .ofVariable (items object)

/-- The index that the first argument is. -/
def indexArgument (context : Context) (arguments : List Value) : Except Error Int64 := do
  let value ← context.argument arguments 0 1
  match value.index? with
  | some index => return index
  | none => throw (context.invalid ("expected an integer index, got " ++ value.encode))

/-- The behavior that answers something about the elements. -/
def answeringSequence (about : Sequence → String) : Behavior :=
  Behavior.reading fun _ _ object => .ok (about (sequenceOf object))

def arrayAt : Behavior := Behavior.reading fun context arguments object => do
  let index ← indexArgument context arguments
  return render? ((sequenceOf object).get? index)

/-- Writes the element at an index, and answers what was to be written. -/
def arrayAtPut : Behavior := Behavior.atomic fun context arguments object => do
  let value ← context.argument arguments 1 2
  let index ← indexArgument context arguments
  let sequence := sequenceOf object
  let written := (sequence.set? index value).getD sequence
  return (value.render, withItems object written.encode)

/-- Appends an element, and answers it. -/
def arrayPush : Behavior := Behavior.atomic fun context arguments object => do
  let value ← context.argument arguments 0 1
  return (value.render, withItems object ((sequenceOf object).push value).encode)

/-- Takes the last element away, and answers it. -/
def arrayPop : Behavior := Behavior.atomic fun _ _ object =>
  let (last, rest) := (sequenceOf object).pop
  .ok (render? last, withItems object rest.encode)

def arrayBehaviors : List (String × Behavior) :=
  [("size", answeringSequence fun sequence => toString sequence.size),
    ("isEmpty", answeringSequence fun sequence => boolean sequence.isEmpty),
    ("first", answeringSequence fun sequence => render? sequence.first?),
    ("last", answeringSequence fun sequence => render? sequence.last?),
    ("at:", arrayAt),
    ("at:put:", arrayAtPut),
    ("push:", arrayPush),
    ("pop", arrayPop),
    ("getItems", answeringSequence Sequence.encode),
    ("setItems:", setItems)]

end ObjectMemory.Message.Builtin
