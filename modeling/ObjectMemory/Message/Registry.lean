import ObjectMemory.Message.Error

/-!
# Behaviors and where they are found

What an instance does on a message is a behavior, found by the class of the instance and the
selector of the message.  A behavior registered for the class `*` stands in for every class that has
none of its own for the selector; there is no other inheritance.

A behavior sees the message as a context and its arguments, and it may change the instance even when
it fails.

* `Context`, `Context.argument` — what a behavior is told;
* `Behavior`, `Behavior.atomic` — behaviors, and those that change nothing when they fail;
* `Registry` — behaviors by class and selector; `register`, `unregister` — its changes;
* `Registry.lookup` — the behavior of a class for a selector;
* `Registry.dispatchAs`, `Registry.dispatch` — a message sent to an instance.
-/

namespace ObjectMemory.Message

open Json

/-! ## Behaviors -/

/-- What a behavior is told besides the instance and the arguments: the class it was found for, the
selector, and the id of the instance. -/
structure Context where
  className : String
  selector : String
  id : String

namespace Context

/-- The argument at a position, of a selector that takes `expected` arguments. -/
def argument (context : Context) (arguments : List Value) (position expected : Nat) :
    Except Error Value :=
  let missing := Error.missingArgument context.selector expected arguments.length
  if arguments.length < expected then .error missing
  else
    match arguments[position]? with
    | some value => .ok value
    | none => .error missing

/-- The refusal of an argument. -/
def invalid (context : Context) (message : String) : Error :=
  .invalidArgument context.selector message

end Context

/-- What an instance does on a message: an answer or a failure, and the instance afterwards. -/
abbrev Behavior := Context → (arguments : List Value) → Instance → Except Error String × Instance

/-- A behavior that leaves the instance alone when it fails. -/
def Behavior.atomic
    (act : Context → (arguments : List Value) → Instance → Except Error (String × Instance)) :
    Behavior := fun context arguments object =>
  match act context arguments object with
  | .ok (answer, object) => (.ok answer, object)
  | .error error => (.error error, object)

/-- A behavior that only looks at the instance. -/
def Behavior.reading (act : Context → (arguments : List Value) → Instance → Except Error String) :
    Behavior := fun context arguments object => (act context arguments object, object)

/-! ## Registries -/

/-- What a behavior is found by. -/
structure Signature where
  className : String
  selector : String
  deriving DecidableEq

namespace Signature

/-- The order of signatures: by class, then by selector. -/
def order : Signature → Signature → Ordering :=
  compareLex (compareOn className) (compareOn selector)

instance : Ord Signature := ⟨order⟩

instance : Std.TransOrd Signature :=
  inferInstanceAs (Std.TransCmp (compareLex (compareOn className) (compareOn selector)))

instance : Std.LawfulEqOrd Signature where
  eq_of_compare {a b} h := by
    obtain ⟨classes, selectors⟩ : compare a.className b.className = .eq ∧
        compare a.selector b.selector = .eq := by
      simpa [compare, order, compareLex, compareOn, Ordering.then_eq_eq] using h
    cases a; cases b
    simp_all

end Signature

/-- Behaviors by class and selector. -/
structure Registry where
  behaviors : SortedMap Signature Behavior

namespace Registry

/-- The class that stands in for every class. -/
def wildcard : String := "*"

def empty : Registry := ⟨.empty⟩

/-- Registers a behavior, in place of any other of the same class and selector. -/
def register (registry : Registry) (className selector : String) (behavior : Behavior) :
    Registry :=
  ⟨registry.behaviors.insert ⟨className, selector⟩ behavior⟩

/-- Registers behaviors of a class by their selectors. -/
def registerAll (registry : Registry) (className : String)
    (behaviors : List (String × Behavior)) : Registry :=
  behaviors.foldl (fun registry (selector, behavior) =>
    registry.register className selector behavior) registry

def contains (registry : Registry) (className selector : String) : Bool :=
  registry.behaviors.contains ⟨className, selector⟩

/-- Removes the behavior of just this class for a selector; whether there was one. -/
def unregister (registry : Registry) (className selector : String) : Bool × Registry :=
  (registry.contains className selector, ⟨registry.behaviors.erase ⟨className, selector⟩⟩)

/-- The behavior of a class for a selector, its own before that of every class. -/
def lookup (registry : Registry) (className selector : String) : Option Behavior :=
  registry.behaviors.get? ⟨className, selector⟩ <|>
    registry.behaviors.get? ⟨wildcard, selector⟩

def list (registry : Registry) : List Signature := registry.behaviors.keys

def size (registry : Registry) : Nat := registry.behaviors.size

def isEmpty (registry : Registry) : Bool := registry.behaviors.isEmpty

end Registry

/-! ## Sending -/

/-- What becomes of a message. -/
inductive Dispatch where
  | handled (answer : String)
  | failed (error : Error)
  | notHandled
  deriving DecidableEq, Repr

def Dispatch.isHandled : Dispatch → Bool
  | .notHandled => false
  | _ => true

namespace Registry

/-- Sends a message to an instance as one of a class; the instance afterwards. -/
def dispatchAs (registry : Registry) (className selector : String) (arguments : List Value)
    (object : Instance) : Dispatch × Instance :=
  match registry.lookup className selector with
  | none => (.notHandled, object)
  | some behavior =>
    match behavior ⟨className, selector, object.id⟩ arguments object with
    | (.ok answer, object) => (.handled answer, object)
    | (.error error, object) => (.failed error, object)

/-- Sends a message to an instance; the instance afterwards. -/
def dispatch (registry : Registry) (selector : String) (arguments : List Value)
    (object : Instance) : Dispatch × Instance :=
  registry.dispatchAs object.className selector arguments object

end Registry

end ObjectMemory.Message
