import Mutant.Text.Utf8
import Mutant.World

/-!
The state of a repository during a run. With git, uncommitted work is stashed before the run and
popped after it; without, every file is backed up before it is touched.
-/

namespace Mutant

structure Repository where
  path : Path
  isGit : Bool
  /-- The content each file had when it was first tracked. -/
  backups : List (Path × Bytes) := []
  stashed : Bool := false
deriving DecidableEq, Repr

namespace Repository

def stashMessage : String := "mtspark-temp"

def stashPush : List String := ["stash", "push", "-u", "-k", "-m", stashMessage]

def stashPop : List String := ["stash", "pop"]

def resetHard : List String := ["reset", "--hard"]

def openAt (disk : Disk) (path : Path) : Except (Trouble × Path) Repository :=
  (disk.probe (path.child ".git")).map fun entry => { path, isGit := entry.any Entry.isFolder }

inductive Failure where
  | disk (trouble : Trouble) (path : Path)
  | output (bytes : Bytes) (malformed : Utf8.Malformed)
deriving DecidableEq, Repr

def reasonText : Utf8.Reason → String
  | .badStart => "invalid start byte"
  | .badContinuation => "invalid continuation byte"
  | .unfinished => "unexpected end of data"

/-- One byte is shown, several are named by their offsets. -/
def placeText (bytes : Bytes) (malformed : Utf8.Malformed) : String :=
  if malformed.stop = malformed.start + 1 then
    let byte := (bytes[malformed.start]?).getD 0
    s!"byte 0x{String.ofList (Text.hex 2 byte.toNat)} in position {malformed.start}"
  else s!"bytes in position {malformed.start}-{malformed.stop - 1}"

def Failure.message : Failure → String
  | disk trouble path => trouble.message path
  | output bytes malformed =>
      s!"'utf-8' codec can't decode {placeText bytes malformed}: {reasonText malformed.reason}"

def brokenOutput? : List Bytes → Option Failure
  | [] => none
  | bytes :: rest =>
      match Utf8.decode bytes with
      | .error malformed => some (.output bytes malformed)
      | .ok _ => brokenOutput? rest

/-- Calls git, which changes what it likes, and writes the call down. Its outputs must be texts. -/
def callGit (world : World) (arguments : List String) : GitReply × World × Option Failure :=
  let reply := world.git world.gitCalls.length
  let failure := match reply with
    | .ended _ out err => brokenOutput? [out, err]
    | _ => none
  let root := world.gitMakes world.gitCalls.length world.disk.root
  (reply,
    { world with
      disk := { world.disk with root }
      gitCalls := world.gitCalls ++ [(arguments, reply)] },
    failure)

def cleanMarker : Bytes := Utf8.ofString "No local changes"

/-- Whether a call made a stash. In a clean tree it makes none, and a later pop would take somebody
else's. -/
def madeStash : GitReply → Bool
  | .ended exitCode out err => exitCode == 0 && !Bytes.occursIn cleanMarker (out ++ err)
  | _ => false

def snapshot (repository : Repository) (world : World) : Repository × World × Option Failure :=
  if repository.isGit then
    match callGit world stashPush with
    | (_, world, some failure) => (repository, world, some failure)
    | (reply, world, none) => ({ repository with stashed := madeStash reply }, world, none)
  else (repository, world, none)

/-- Keeps the content of a file, unless it is kept already. -/
def track (repository : Repository) (disk : Disk) (file : Path) :
    Except (Trouble × Path) Repository :=
  if repository.isGit then .ok repository
  else
    match disk.probe file with
    | .error failure => .error failure
    | .ok (some (.file _ _)) =>
        if (repository.backups.lookup file).isSome then .ok repository
        else
          match disk.read file with
          | .error trouble => .error (trouble, file)
          | .ok content =>
              .ok { repository with backups := repository.backups ++ [(file, content)] }
    | .ok _ => .ok repository

/-- Writes backups back over the files that are still there, up to the first failure. -/
def writeBack (disk : Disk) : List (Path × Bytes) → Disk × Option Failure
  | [] => (disk, none)
  | (file, content) :: rest =>
      if disk.hasEntry file then
        match disk.write file content with
        | .ok written => writeBack written rest
        | .error trouble => (disk, some (.disk trouble file))
      else writeBack disk rest

def restoreGit (repository : Repository) (world : World) : Repository × World × Option Failure :=
  match callGit world resetHard with
  | (_, world, some failure) => (repository, world, some failure)
  | (_, world, none) =>
      if repository.stashed then
        match callGit world stashPop with
        | (_, world, some failure) => (repository, world, some failure)
        | (_, world, none) => ({ repository with stashed := false }, world, none)
      else (repository, world, none)

def restore (repository : Repository) (world : World) : Repository × World × Option Failure :=
  if repository.isGit then repository.restoreGit world
  else
    match writeBack world.disk repository.backups with
    | (disk, none) => ({ repository with backups := [] }, { world with disk }, none)
    | (disk, some failure) => (repository, { world with disk }, some failure)

end Repository

end Mutant
