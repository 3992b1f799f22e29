import ObjectMemory.Text.Blank
import ObjectMemory.Text.Integer

/-!
# Settings

Where things are and how long to wait for the database.  There are three settings, and each is taken
from the first of three sources that has it: what is set explicitly, a variable of the environment
that is not empty, and a default.  A source that is not asked is not looked at, so a malformed
variable does no harm when the setting is explicit.

Paths are texts and are put together without looking at what they name.

* `Settings`, `Configuration` — settings that may be missing, and all of them;
* `Settings.resolve` — the configuration; `SettingsError` — why there is none;
* `Configuration.executable` — the program that answers what no behavior does.
-/

namespace ObjectMemory

/-! ## Paths -/

def joinPath (base name : String) : String :=
  if base.toList = [] ∨ base.toList.getLast? = some '/' then base ++ name else base ++ "/" ++ name

/-! ## Sources -/

/-- Settings, as far as they are explicit. -/
structure Settings where
  installRoot : Option String
  storePath : Option String
  /-- How long to wait for the database, in milliseconds. -/
  busyTimeout : Option Nat

/-- All settings. -/
structure Configuration where
  installRoot : String
  storePath : String
  /-- How long to wait for the database, in milliseconds. -/
  busyTimeout : Nat
  deriving DecidableEq, Repr

/-- Why settings do not make a configuration. -/
inductive SettingsError where
  /-- The install root has no source at all. -/
  | noHomeDirectory
  /-- The variable of the timeout is not a number of milliseconds. -/
  | invalidTimeout (value : String)
  deriving DecidableEq, Repr

def rootVariable : String := "TRASH_HOME"

def storeVariable : String := "TRASH_DB"

def timeoutVariable : String := "TRASH_BUSY_TIMEOUT_MS"

def SettingsError.message : SettingsError → String
  | .noHomeDirectory => "No install root configured and no home directory found"
  | .invalidTimeout value =>
    "Invalid " ++ timeoutVariable ++ " value '" ++ value ++ "': expected milliseconds"

/-! ## Resolution -/

/-- The variables of an environment. -/
abbrev Environment := String → Option String

/-- The value of a variable that is not empty. -/
def Environment.nonEmpty (environment : Environment) (name : String) : Option String :=
  (environment name).filter (· != "")

/-- The number of milliseconds that a text spells between blanks. -/
def milliseconds? (text : String) : Option Nat :=
  Text.readUnsigned 0x10000000000000000 (Text.trim text).toList

def defaultTimeout : Nat := 5000

namespace Settings

variable (settings : Settings) (environment : Environment)

/-- The install root: by default a directory in the home directory. -/
def resolveRoot (home : Option String) : Except SettingsError String :=
  match settings.installRoot, environment.nonEmpty rootVariable, home with
  | some root, _, _ => .ok root
  | none, some root, _ => .ok root
  | none, none, some home => .ok (joinPath home ".trashtalk")
  | none, none, none => .error .noHomeDirectory

/-- The database path: by default inside the install root. -/
def resolveStore (root : String) : String :=
  match settings.storePath, environment.nonEmpty storeVariable with
  | some path, _ => path
  | none, some path => path
  | none, none => joinPath (joinPath root "db") "instances.db"

def resolveTimeout : Except SettingsError Nat :=
  match settings.busyTimeout, environment.nonEmpty timeoutVariable with
  | some timeout, _ => .ok timeout
  | none, some value =>
    match milliseconds? value with
    | some timeout => .ok timeout
    | none => .error (.invalidTimeout value)
  | none, none => .ok defaultTimeout

/-- All settings, in an environment and with or without a home directory.  A missing install root is
reported before a malformed timeout. -/
def resolve (home : Option String) : Except SettingsError Configuration := do
  let installRoot ← settings.resolveRoot environment home
  let busyTimeout ← settings.resolveTimeout environment
  return ⟨installRoot, settings.resolveStore environment installRoot, busyTimeout⟩

end Settings

/-- The program that answers what no behavior does. -/
def Configuration.executable (configuration : Configuration) : String :=
  joinPath (joinPath configuration.installRoot "bin") "trash-send"

end ObjectMemory
