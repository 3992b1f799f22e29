import ObjectMemory.Store.Error

/-!
# How a behavior fails

A behavior that was found and ran may still fail: for want of an argument, because of one, because
something it reads or writes is refused, or for a reason of its own.

* `Message.Error`, `Message.Error.message` — the failures.
-/

namespace ObjectMemory.Message

/-- How a behavior fails. -/
inductive Error where
  /-- There are fewer arguments than the selector asks for. -/
  | missingArgument (selector : String) (expected given : Nat)
  /-- An argument is of no use to the selector. -/
  | invalidArgument (selector message : String)
  /-- The contents of a collection are malformed. -/
  | collection (error : Json.SyntaxError)
  /-- The instance, or a store of instances, refused something. -/
  | store (error : Store.Error)
  /-- The result is malformed. -/
  | result (error : Json.SyntaxError)
  /-- The behavior has a reason of its own. -/
  | failed (message : String)
  deriving DecidableEq, Repr

def Error.message : Error → String
  | .missingArgument selector expected given =>
    selector ++ " expects " ++ toString expected ++ " argument(s), got " ++ toString given
  | .invalidArgument selector message => selector ++ ": invalid argument: " ++ message
  | .collection error =>
    "Codec error: An error occurred while encoding a collection: " ++ error.message
  | .store error => "Instance error: " ++ error.message
  | .result error => "An error occurred while encoding a result: " ++ error.message
  | .failed message => message

end ObjectMemory.Message
