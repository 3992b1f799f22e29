import ObjectMemory.Message.Builtin.Array
import ObjectMemory.Message.Builtin.Dictionary
import ObjectMemory.Message.Builtin.Object

/-!
# The built-in behaviors

A registry to start from: what every object answers, and what arrays and dictionaries answer.  The
collection behaviors can be registered for other classes as well.

* `Registry.registerObject`, `registerArray`, `registerDictionary` — a family of behaviors;
* `Registry.builtin` — all of them.
-/

namespace ObjectMemory.Message.Registry

open Builtin

/-- Registers what every object answers. -/
def registerObject (registry : Registry) : Registry :=
  registry.registerAll wildcard objectBehaviors

/-- Registers what arrays answer, for a class. -/
def registerArray (registry : Registry) (className : String) : Registry :=
  registry.registerAll className arrayBehaviors

/-- Registers what dictionaries answer, for a class. -/
def registerDictionary (registry : Registry) (className : String) : Registry :=
  registry.registerAll className dictionaryBehaviors

def builtin : Registry :=
  ((empty.registerObject).registerArray "Array").registerDictionary "Dictionary"

end ObjectMemory.Message.Registry
