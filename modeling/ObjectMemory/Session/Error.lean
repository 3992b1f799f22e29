import ObjectMemory.Bridge
import ObjectMemory.Message.Error
import ObjectMemory.Settings

/-!
# What can go wrong in a session

A session puts settings, a store, behaviors and the bridge together, and each of them may fail.

* `Session.Error`, `Session.Error.message` — the errors;
* `isUnknownSelector`, `isNotFound` — the two that callers tell apart.
-/

namespace ObjectMemory.Session

/-- What can go wrong in a session. -/
inductive Error where
  | settings (error : SettingsError)
  /-- The database at the path cannot be opened. -/
  | opening (path : String) (failure : Backend.Failure)
  | store (error : Store.Error)
  /-- The behavior of an instance for a selector failed. -/
  | behavior (id selector : String) (error : Message.Error)
  | bridge (error : BridgeError)
  deriving DecidableEq, Repr

namespace Error

def message : Error → String
  | settings error => error.message
  | opening path failure =>
    "Failed to open instance store at " ++ path ++ ": " ++ failure.message
  | store error => error.message
  | behavior id selector error => selector ++ " failed on " ++ id ++ ": " ++ error.message
  | bridge error => error.message

/-- Whether neither a behavior nor the interpreter understands the message. -/
def isUnknownSelector : Error → Bool
  | bridge error => error.isUnknownSelector
  | _ => false

/-- Whether there is no such instance. -/
def isNotFound : Error → Bool
  | store error => error.isNotFound
  | _ => false

end Error

end ObjectMemory.Session
