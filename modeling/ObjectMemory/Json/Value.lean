import ObjectMemory.Decimal.Binary64
import ObjectMemory.SortedMap.Basic

/-!
# JSON values

What a JSON document says once its spelling is forgotten.  Numbers keep one distinction of their
spelling: a number written without fraction and exponent is an integer if 64 bits hold it, signed
or unsigned, and every other number is a double.  So `1` and `1.0` are different values.

The members of an object are listed by key.  The type allows any list, and `Value.Canonical` says
that each object in a value lists its keys ascending and once; what is read is canonical, and an
`Object` is canonical at its top by its type.

* `Number`, `Value`, `Object` — the values;
* `Value.ofObject`, `Value.object?` — between objects and values;
* `Value.same` — equality as JSON has it, where `0.0` and `-0.0` are equal;
* `Value.depth`, `Value.IntegersOnly`, `Value.Canonical` — what limits a value.
-/

namespace ObjectMemory.Json

open Decimal

/-! ## The types -/

inductive Number where
  /-- A whole number of 64 bits, signed or unsigned. -/
  | integer (n : Int) (inRange : -0x8000000000000000 ≤ n ∧ n < 0x10000000000000000)
  | float (x : Binary64)
  deriving DecidableEq, Repr

inductive Value where
  | null
  | bool (b : Bool)
  | num (n : Number)
  | str (text : String)
  | arr (items : List Value)
  | obj (members : List (String × Value))
  deriving Inhabited

/-- An object: its members by key. -/
abbrev Object := SortedMap String Value

namespace Value

/-- The whole number `n` as a value; outside the 64-bit ranges there is none. -/
def ofInt? (n : Int) : Option Value :=
  if inRange : -0x8000000000000000 ≤ n ∧ n < 0x10000000000000000 then
    some (.num (.integer n inRange))
  else none

def ofObject (object : Object) : Value := .obj object.entries

/-- The object that a value is.  Of a repeated key the last member counts. -/
def object? : Value → Option Object
  | .obj members => some (.ofList members)
  | _ => none

def text? : Value → Option String
  | .str text => some text
  | _ => none

/-! ## Equality -/

end Value

/-- Whether two numbers are equal: of one kind, and of one value. -/
def Number.same : Number → Number → Bool
  | .integer a _, .integer b _ => a == b
  | .float x, .float y => x.sameValue y
  | _, _ => false

mutual

/-- Whether two values are equal.  Equal members have to stand in one order, which canonical values
always do. -/
def Value.same : Value → Value → Bool
  | .null, .null => true
  | .bool a, .bool b => a == b
  | .num a, .num b => a.same b
  | .str a, .str b => a == b
  | .arr xs, .arr ys => sameItems xs ys
  | .obj xs, .obj ys => sameMembers xs ys
  | _, _ => false

/-- Whether two lists hold equal values in order. -/
def sameItems : List Value → List Value → Bool
  | [], [] => true
  | x :: xs, y :: ys => x.same y && sameItems xs ys
  | _, _ => false

def sameMembers : List (String × Value) → List (String × Value) → Bool
  | [], [] => true
  | (k, x) :: xs, (l, y) :: ys => k == l && x.same y && sameMembers xs ys
  | _, _ => false

end

instance : BEq Value := ⟨Value.same⟩

/-- Objects are equal when their members are. -/
instance : BEq Object := ⟨fun a b => sameMembers a.entries b.entries⟩

/-! ## What limits a value -/

mutual

/-- How many arrays and objects stand inside each other in a value. -/
def Value.depth : Value → Nat
  | .arr items => depthItems items + 1
  | .obj members => depthMembers members + 1
  | _ => 0

def depthItems : List Value → Nat
  | [] => 0
  | x :: xs => max x.depth (depthItems xs)

def depthMembers : List (String × Value) → Nat
  | [] => 0
  | (_, x) :: xs => max x.depth (depthMembers xs)

end

mutual

/-- Every number in the value is an integer. -/
def Value.IntegersOnly : Value → Prop
  | .num (.float _) => False
  | .arr items => ItemsIntegersOnly items
  | .obj members => MembersIntegersOnly members
  | _ => True

def ItemsIntegersOnly : List Value → Prop
  | [] => True
  | x :: xs => x.IntegersOnly ∧ ItemsIntegersOnly xs

def MembersIntegersOnly : List (String × Value) → Prop
  | [] => True
  | (_, x) :: xs => x.IntegersOnly ∧ MembersIntegersOnly xs

end

mutual

/-- Every object in the value lists its members in ascending key order, each key once. -/
def Value.Canonical : Value → Prop
  | .arr items => ItemsCanonical items
  | .obj members =>
    (members.Pairwise fun a b => compare a.1 b.1 = .lt) ∧ MembersCanonical members
  | _ => True

def ItemsCanonical : List Value → Prop
  | [] => True
  | x :: xs => x.Canonical ∧ ItemsCanonical xs

def MembersCanonical : List (String × Value) → Prop
  | [] => True
  | (_, x) :: xs => x.Canonical ∧ MembersCanonical xs

end

end ObjectMemory.Json
