import Mutant.Disk
import Mutant.Text.Lowercase

/-!
Where log messages go. There are two sinks, the console and a file; each shows messages from a level
on. The first setup decides, later ones count only when forced.
-/

namespace Mutant.Logging

def levels : List (String × Nat) :=
  [("TRACE", 5), ("DEBUG", 10), ("INFO", 20), ("SUCCESS", 25), ("WARNING", 30), ("ERROR", 40),
    ("CRITICAL", 50)]

def rank? (level : String) : Option Nat := levels.lookup level

def unknownLevel (level : String) : String :=
  s!"Level '{level}' does not exist"

def machineMode : String := "MTSPARK_MACHINE_MODE"

def fileLogging : String := "MTSPARK_FILE_LOGGING"

def logFolder : String := "MTSPARK_LOG_DIR"

def defaultFolder : String := ".mtspark/logs"

def logName : String := "mtspark.log"

structure State where
  configured : Bool := false
  console : Option Nat := none
  file : Option Nat := none
  environment : List (String × String) := []
  disk : Disk := {}

structure Setup where
  level : String := "INFO"
  suppressConsole : Option Bool := none
  enableFile : Option Bool := none
  force : Bool := false
deriving DecidableEq, Repr

def valueOf (state : State) (name : String) : Option String :=
  state.environment.lookup name

/-- Whether a variable is switched on. -/
def flag (state : State) (name : String) : Bool :=
  ["1", "true", "yes"].contains (Text.lower ((valueOf state name).getD ""))

def folder (state : State) : Path :=
  Path.ofText ((valueOf state logFolder).getD defaultFolder)

def logPath (state : State) : Path := (folder state).child logName

def setVariable (state : State) (name value : String) : State :=
  { state with environment := (name, value) :: state.environment }

/-- Opens the log file, making its folder first. A file that is there already is continued. -/
def openFile (state : State) : Except (Trouble × Path) State :=
  match state.disk.makeFolders (folder state) with
  | .error failure => .error failure
  | .ok disk =>
      match disk.openToAppend (logPath state) with
      | .error trouble => .error (trouble, logPath state)
      | .ok disk => .ok { state with disk, file := rank? "INFO" }

inductive Failure where
  | level (name : String)
  | disk (trouble : Trouble) (path : Path)
deriving DecidableEq, Repr

def Failure.message : Failure → String
  | level name => unknownLevel name
  | disk trouble path => trouble.message path

def addFile (setup : Setup) (state : State) : Option Failure × State :=
  if setup.enableFile.getD (flag state fileLogging) then
    match openFile state with
    | .ok opened => (none, opened)
    | .error (trouble, path) => (some (.disk trouble path), state)
  else (none, state)

/-- Sets the sinks up anew. A failure leaves those that were set up before it. -/
def setUp (setup : Setup) (state : State) : Option Failure × State :=
  if state.configured && !setup.force then (none, state)
  else
    let cleared := { state with configured := true, console := none, file := none }
    if setup.suppressConsole.getD (flag cleared machineMode) then addFile setup cleared
    else
      match rank? setup.level with
      | none => (some (.level setup.level), cleared)
      | some rank => addFile setup { cleared with console := some rank }

/-- Where a message of some level is shown: on the console, and in the file. Without any sink the
level is not looked at. -/
def log (state : State) (level : String) : Except Failure (Bool × Bool) :=
  if state.console.isNone && state.file.isNone then .ok (false, false)
  else
    match rank? level with
    | none => .error (.level level)
    | some rank =>
        let shows := fun (least : Option Nat) => least.any (· ≤ rank)
        .ok (shows state.console, shows state.file)

end Mutant.Logging
