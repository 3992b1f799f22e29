import ObjectMemory.Text.Blank
import ObjectMemory.Text.Utf8

/-!
# The bridge to the interpreter

Messages that no behavior answers go to an external program, the interpreter: it is run with the
receiver, the selector and the arguments, and answers by what it prints.  One exit code means that
it does not understand the message either, and any other end than success is a failure, told by what
it prints as errors.

What the interpreter does is a parameter.  It is a function of the invocation and of the state that
it shares with us, such as a database that it may write to.

* `Invocation`, `Run`, `Interpreter` — what is run, how it goes, and what runs it;
* `Bridge.send` — one message; `BridgeError` — why it has no answer.
-/

namespace ObjectMemory

/-! ## Processes -/

/-- A program and its arguments. -/
structure Invocation where
  executable : String
  arguments : List String
  deriving DecidableEq, Repr

inductive Ending where
  | exited (code : Int)
  | signalled
  deriving DecidableEq, Repr

/-- How running a program went. -/
inductive Run where
  /-- It could not be started. -/
  | notStarted (reason : String)
  /-- It ended, and printed these bytes, as answers and as errors. -/
  | finished (ending : Ending) (stdout stderr : List UInt8)
  deriving DecidableEq, Repr

/-- What an invocation does to a shared state, and how it goes. -/
abbrev Interpreter (σ : Type) := Invocation → σ → Run × σ

/-! ## Messages -/

/-- Why the interpreter gives no answer. -/
inductive BridgeError where
  | unknownSelector (receiver selector : String)
  /-- It failed, with an exit code unless a signal ended it. -/
  | failed (receiver selector : String) (code : Option Int) (stderr : String)
  /-- It could not be run. -/
  | notRun (receiver selector executable reason : String)
  deriving DecidableEq, Repr

namespace BridgeError

def describeCode : Option Int → String
  | some code => "exit " ++ toString code
  | none => "terminated by signal"

def message : BridgeError → String
  | unknownSelector receiver selector => receiver ++ " does not understand " ++ selector
  | failed receiver selector code stderr =>
    receiver ++ ">>" ++ selector ++ " failed (" ++ describeCode code ++ "): " ++ stderr
  | notRun receiver selector executable reason =>
    "Failed to run " ++ executable ++ " for " ++ receiver ++ ">>" ++ selector ++ ": " ++ reason

/-- Whether the interpreter does not understand the message. -/
def isUnknownSelector : BridgeError → Bool
  | unknownSelector _ _ => true
  | _ => false

end BridgeError

/-- The exit code for a message that is not understood. -/
def unknownSelectorCode : Int := 200

/-- A way to the interpreter. -/
structure Bridge where
  executable : String
  deriving DecidableEq, Repr

namespace Bridge

/-- What a process printed, as text without the blanks at its end. -/
def printed (bytes : List UInt8) : String := Text.trimEnd (Text.ofBytes bytes)

/-- The answer of a run. -/
def answer (bridge : Bridge) (receiver selector : String) : Run → Except BridgeError String
  | .notStarted reason => .error (.notRun receiver selector bridge.executable reason)
  | .finished .signalled _ stderr => .error (.failed receiver selector none (printed stderr))
  | .finished (.exited code) stdout stderr =>
    if code = 0 then .ok (printed stdout)
    else if code = unknownSelectorCode then .error (.unknownSelector receiver selector)
    else .error (.failed receiver selector (some code) (printed stderr))

/-- Whether a text can be an argument of a program: it must not hold the null character. -/
def isPassable (text : String) : Bool := !text.toList.contains '\x00'

/-- Sends a message to the interpreter.  With an argument that cannot be passed, nothing is run. -/
def send {σ : Type} (bridge : Bridge) (interpreter : Interpreter σ) (receiver selector : String)
    (arguments : List String) (shared : σ) : Except BridgeError String × σ :=
  let arguments := receiver :: selector :: arguments
  if arguments.all isPassable then
    let (run, shared) := interpreter ⟨bridge.executable, arguments⟩ shared
    (bridge.answer receiver selector run, shared)
  else
    let run := Run.notStarted "nul byte found in provided data"
    (bridge.answer receiver selector run, shared)

end Bridge

end ObjectMemory
