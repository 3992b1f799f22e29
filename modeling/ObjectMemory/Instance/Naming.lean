import ObjectMemory.Text.LowerCase

/-!
# Naming instances

The id of an instance starts with the name of its class: in lower case, with an underscore in place
of each double colon between namespaces, and another underscore before a suffix that makes it
unique.

* `flattenNamespaces` — double colons to underscores;
* `deriveId` — the id.
-/

namespace ObjectMemory

/-- Puts an underscore in place of each double colon, from the left. -/
def flattenNamespaces : List Char → List Char
  | ':' :: ':' :: rest => '_' :: flattenNamespaces rest
  | c :: rest => c :: flattenNamespaces rest
  | [] => []

/-- The id of an instance of a class. -/
def deriveId (className suffix : String) : String :=
  Text.lowercase (.ofList (flattenNamespaces className.toList)) ++ "_" ++ suffix

end ObjectMemory
