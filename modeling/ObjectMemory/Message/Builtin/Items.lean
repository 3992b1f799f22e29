import ObjectMemory.Json.Plain
import ObjectMemory.Message.Registry

/-!
# The contents of collections

Arrays and dictionaries keep their contents in one variable, `items`, as JSON text.  What is found
there may also be the array or object itself; what is written is always text.

* `itemsKey` — the variable; `withItems` — an instance with other contents;
* `boolean` — a truth value as an answer;
* `itemsText` — contents that are given as an argument.
-/

namespace ObjectMemory.Message.Builtin

open Json

/-- The variable of the contents. -/
def itemsKey : String := "items"

/-- The contents of a collection, as they are kept. -/
def items (object : Instance) : Option Value := object.get? itemsKey

/-- An instance with other contents, which modifies it. -/
def withItems (object : Instance) (text : String) : Instance :=
  (object.set itemsKey (.str text)).2

def boolean (b : Bool) : String := if b then "true" else "false"

/-- Contents that are given as an argument: text as it is, an array or object as its text. -/
def itemsText (context : Context) : Value → Except Error String
  | .str text => .ok text
  | .arr items => .ok (Value.arr items).encode
  | .obj members => .ok (Value.obj members).encode
  | other =>
    .error (context.invalid ("expected JSON text, an array or an object, got " ++ other.encode))

/-- Replaces the contents by those that are given, and answers their text. -/
def setItems : Behavior := Behavior.atomic fun context arguments object => do
  let text ← itemsText context (← context.argument arguments 0 1)
  return (text, withItems object text)

end ObjectMemory.Message.Builtin
