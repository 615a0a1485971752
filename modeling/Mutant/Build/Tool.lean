import Mutant.Build.Outcome
import Mutant.Text.Utf8
import Mutant.World

/-!
Finding the build tool of a repository and running it. A wrapper script in the repository wins over an
installed tool, and is made executable if it is not.
-/

namespace Mutant

structure BuildTool where
  wrapper : String
  windowsWrapper : String
  executable : String
  markers : List String
  arguments : List String
  skipTests : List String
deriving DecidableEq, Repr

namespace BuildTool

def gradle : BuildTool where
  wrapper := "gradlew"
  windowsWrapper := "gradlew.bat"
  executable := "gradle"
  markers := ["build.gradle", "build.gradle.kts"]
  arguments := ["--no-daemon", "clean", "build"]
  skipTests := ["-x", "test"]

def maven : BuildTool where
  wrapper := "mvnw"
  windowsWrapper := "mvnw.cmd"
  executable := "mvn"
  markers := ["pom.xml"]
  arguments := ["-B", "-q", "clean", "package"]
  skipTests := ["-DskipTests=true"]

def all : List BuildTool := [gradle, maven]

def wrapperPath (tool : BuildTool) (windows : Bool) (repo : Path) : Path :=
  repo.child (if windows then tool.windowsWrapper else tool.wrapper)

def argumentsFor (tool : BuildTool) (skipTests : Bool) : List String :=
  tool.arguments ++ if skipTests then tool.skipTests else []

def ownerBit : Nat := 0o100

def executeBits : Nat := 0o111

def makeExecutable (disk : Disk) (path : Path) : Disk :=
  match disk.mode? path with
  | some mode => if mode &&& ownerBit = 0 then disk.setMode path (mode ||| executeBits) else disk
  | none => disk

end BuildTool

structure ToolMissing where
  repo : String
deriving DecidableEq, Repr

def ToolMissing.message (error : ToolMissing) : String :=
  "Could not detect build tool in " ++ error.repo

inductive VariableFault where
  | badName
  | nullByte
deriving DecidableEq, Repr

def VariableFault.message : VariableFault → String
  | badName => "illegal environment variable name"
  | nullByte => "embedded null byte"

inductive BuildError where
  | toolMissing (reason : ToolMissing)
  | disk (trouble : Trouble) (path : Path)
  | environment (fault : VariableFault)
deriving DecidableEq, Repr

def BuildError.message : BuildError → String
  | toolMissing reason => reason.message
  | disk trouble path => trouble.message path
  | environment fault => fault.message

inductive Launch where
  | script (file : Path) (absolute : Path)
  | program (name : String)
deriving DecidableEq, Repr

def Launch.text : Launch → String
  | script _ absolute => absolute.text
  | program name => name

structure Command where
  launch : Launch
  arguments : List String
deriving DecidableEq, Repr

def Command.words (command : Command) : List String :=
  command.launch.text :: command.arguments

def BuildTool.firstPresent (disk : Disk) :
    List (BuildTool × Path) → Except (Trouble × Path) (Option (BuildTool × Path))
  | [] => .ok none
  | (tool, file) :: rest =>
      match disk.probe file with
      | .error failure => .error failure
      | .ok entry =>
          if entry.any Entry.isFile then .ok (some (tool, file)) else firstPresent disk rest

namespace World

def toolMissing (world : World) (repo : Path) : BuildError :=
  if repo.hasNull then .disk .nullByte repo
  else .toolMissing ⟨(world.resolve repo).text⟩

def wrappers (world : World) (repo : Path) : List (BuildTool × Path) :=
  BuildTool.all.map fun tool => (tool, tool.wrapperPath world.windows repo)

def markers (repo : Path) : List (BuildTool × Path) :=
  BuildTool.all.flatMap fun tool => tool.markers.map fun marker => (tool, repo.child marker)

/-- The command that builds a repository. -/
def detectCommand (world : World) (repo : Path) (skipTests : Bool) :
    Except BuildError Command × World :=
  match BuildTool.firstPresent world.disk (world.wrappers repo) with
  | .error (trouble, path) => (.error (.disk trouble path), world)
  | .ok (some (tool, wrapper)) =>
      let disk := if world.windows then world.disk else BuildTool.makeExecutable world.disk wrapper
      (.ok ⟨.script wrapper (world.resolve wrapper), tool.argumentsFor skipTests⟩,
        { world with disk })
  | .ok none =>
      match BuildTool.firstPresent world.disk (markers repo) with
      | .error (trouble, path) => (.error (.disk trouble path), world)
      | .ok (some (tool, _)) => (.ok ⟨.program tool.executable, tool.argumentsFor skipTests⟩, world)
      | .ok none => (.error (world.toolMissing repo), world)

end World

structure BuildSettings where
  skipTests : Bool := true
  javaHomeOverrides : List String := ["JAVA_HOME_17", "JAVA17_HOME"]
deriving DecidableEq, Repr

namespace BuildSettings

def setVariable (name value : String) : List (String × String) → List (String × String)
  | [] => [(name, value)]
  | (other, old) :: rest =>
      if other == name then (name, value) :: rest else (other, old) :: setVariable name value rest

def environment (settings : BuildSettings) (inherited : List (String × String)) :
    List (String × String) :=
  match settings.javaHomeOverrides.findSome? fun name =>
      (inherited.lookup name).filter fun value => !value.isEmpty with
  | some home => setVariable "JAVA_HOME" home inherited
  | none => inherited

def variableFault? (environment : List (String × String)) : Option VariableFault :=
  let hasNull := fun (text : String) => text.toList.contains (Char.ofNat 0)
  if environment.any fun entry => entry.1.toList.contains '=' then some .badName
  else if environment.any fun entry => hasNull entry.1 || hasNull entry.2 then
    some .nullByte
  else none

end BuildSettings

namespace World

def outputText (bytes : Bytes) : String :=
  String.ofList (Text.unifyLineEnds (Utf8.decodeLossy bytes))

def scriptMark : Bytes := [0x23, 0x21]

def launchTrouble? (world : World) : Launch → Option Trouble
  | .script file _ =>
      match world.disk.find file with
      | .ok (.file content mode) =>
          if mode &&& BuildTool.executeBits = 0 then some .denied
          else if scriptMark.isPrefixOf content then none
          else some .badFormat
      | .ok (.folder _) => some .denied
      | .error trouble => some trouble
  | .program name => if world.installed.contains name then none else some .missing

/-- Starts a build and waits for its end, or kills it when its time is up. -/
def startBuild (world : World) (settings : BuildSettings) (command : Command) :
    BuildOutcome × World :=
  let invocation : Invocation := ⟨command.arguments, settings.environment world.environment⟩
  let process := world.buildTool world.builds.length invocation
  let exitCode := process.exitCode.getD BuildOutcome.timeoutExit
  ({ success := exitCode == 0
     command := command.words
     exitCode
     stdout := outputText process.out
     stderr := outputText process.err
     timedOut := process.exitCode.isNone },
    { world with builds := world.builds ++ [world.disk] })

def build (world : World) (settings : BuildSettings) (repo : Path) (skipTests : Bool) :
    Except BuildError BuildOutcome × World :=
  match world.detectCommand repo skipTests with
  | (.error error, world) => (.error error, world)
  | (.ok command, world) =>
      match BuildSettings.variableFault? (settings.environment world.environment) with
      | some fault => (.error (.environment fault), world)
      | none =>
          match world.launchTrouble? command.launch with
          | some .missing => (.error (world.toolMissing repo), world)
          | some trouble => (.error (.disk trouble (Path.ofText command.launch.text)), world)
          | none =>
              let (outcome, world) := world.startBuild settings command
              (.ok outcome, world)

end World

end Mutant
