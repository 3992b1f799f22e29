import ObjectMemory.Collection.Dictionary
import ObjectMemory.Message.Builtin.Items

/-!
# What dictionaries answer

The behaviors of dictionaries, whose contents are values by key.  Any argument is a key, by its
plain text, so a number and the text of it are one key.  A missing value is answered as an empty
text, and removing what is not there changes nothing.

* `dictionaryBehaviors` — by selector.
-/

namespace ObjectMemory.Message.Builtin

open Json Collection

def dictionaryOf (object : Instance) : Dictionary := .ofVariable (items object)

/-- The key that the first argument is. -/
def keyArgument (context : Context) (arguments : List Value) : Except Error String := do
  return (← context.argument arguments 0 1).render

/-- The behavior that answers something about the entries. -/
def answeringDictionary (about : Dictionary → String) : Behavior :=
  Behavior.reading fun _ _ object => .ok (about (dictionaryOf object))

def dictionaryAt : Behavior := Behavior.reading fun context arguments object => do
  let key ← keyArgument context arguments
  return render? ((dictionaryOf object).get? key)

/-- Writes the value of a key, and answers it. -/
def dictionaryAtPut : Behavior := Behavior.atomic fun context arguments object => do
  let value ← context.argument arguments 1 2
  let key ← keyArgument context arguments
  return (value.render, withItems object ((dictionaryOf object).put key value).2.encode)

def dictionaryIncludes : Behavior := Behavior.reading fun context arguments object => do
  let key ← keyArgument context arguments
  return boolean ((dictionaryOf object).contains key)

/-- Removes the entry of a key, and answers its value. -/
def dictionaryRemove : Behavior := Behavior.atomic fun context arguments object => do
  let key ← keyArgument context arguments
  match (dictionaryOf object).remove key with
  | (some value, rest) => return (value.render, withItems object rest.encode)
  | (none, _) => return ("", object)

/-- The keys as a JSON array. -/
def keysText (dictionary : Dictionary) : String := (Value.arr (dictionary.keys.map .str)).encode

def dictionaryBehaviors : List (String × Behavior) :=
  [("size", answeringDictionary fun dictionary => toString dictionary.size),
    ("isEmpty", answeringDictionary fun dictionary => boolean dictionary.isEmpty),
    ("at:", dictionaryAt),
    ("at:put:", dictionaryAtPut),
    ("includesKey:", dictionaryIncludes),
    ("removeAt:", dictionaryRemove),
    ("keys", answeringDictionary keysText),
    ("getItems", answeringDictionary Dictionary.encode),
    ("setItems:", setItems)]

end ObjectMemory.Message.Builtin
