import Mutant.Mutation
import Mutant.World

/-!
One operator on one file of the disk. What cannot be read, parsed or written is reported as
unchanged, so that the caller can go on to the next file. A new version is written beside the file and
then moved into its place.
-/

namespace Mutant

inductive FileError where
  | parse (reason : ParseError)
  | apply (reason : ApplyError)
  | disk (trouble : Trouble) (path : Path)
deriving DecidableEq, Repr

def FileError.message : FileError → String
  | parse reason => reason.message
  | apply reason => reason.message
  | disk trouble path => trouble.message path

namespace Disk

def eightDigits (number : Nat) : String :=
  let digits := toString number
  "".pushn '0' (8 - digits.length) ++ digits

/-- The names of temporary files for a file, told apart by a number. -/
def temporaryPath (path : Path) (number : Nat) : Path :=
  ⟨path.root, path.names.dropLast ++ [s!".{path.name}.{eightDigits number}.tmp"]⟩

def freeTemporary (disk : Disk) (path : Path) : Path :=
  let entries := match disk.find path.parent with
    | .ok (.folder entries) => entries.length
    | _ => 0
  temporaryPath path (((List.range (entries + 1)).find? fun number =>
    !disk.hasEntry (temporaryPath path number)).getD 0)

/-- Replaces a file in one step, keeping its mode. If that fails, the temporary file is taken away
again. A temporary file that cannot be made is a failure of its own. -/
def replaceContent (disk : Disk) (fails : Bool) (path : Path) (content : Bytes) :
    Except (Trouble × Path) (Bool × Disk) :=
  let temporary := disk.freeTemporary path
  match disk.write temporary content with
  | .error trouble => .error (trouble, temporary)
  | .ok written =>
      let ready := written.setMode temporary (((disk.mode? path).getD newMode) % 0o10000)
      match if fails then .error .missing else ready.replace temporary path with
      | .ok replaced => .ok (true, replaced)
      | .error _ =>
          match ready.remove temporary with
          | .ok cleaned => .ok (false, cleaned)
          | .error _ => .ok (false, ready)

end Disk

namespace World

/-- Reads and parses a file of the disk. A path that no call takes is no matter of parsing. -/
def parseFile (world : World) (path : Path) : Except FileError SourceFile :=
  match world.disk.read path with
  | .error .nullByte => .error (.disk .nullByte path)
  | .error trouble => .error (.parse ⟨path, .unreadable (trouble.message path)⟩)
  | .ok source =>
      match SourceFile.parse world.grammar path source with
      | .error error => .error (.parse error)
      | .ok file => .ok file

/-- Mutates one file, or leaves everything as it was. -/
@[irreducible]
def mutateFile (world : World) (operator : Operator) (settings : Settings) (policy : Policy)
    (path : Path) : Except FileError Mutation × World :=
  let unchanged := Mutation.unchanged path.text (some operator.name)
  if settings.supports path then
    match world.parseFile path with
    | .error (.parse _) => (.ok unchanged, world)
    | .error error => (.error error, world)
    | .ok file =>
        match operator.apply settings policy world.now file with
        | .error error => (.error (.apply error), world)
        | .ok (draft, mutation) =>
            if mutation.changed then
              match world.disk.replaceContent world.replaceFails path draft.render with
              | .error (trouble, temporary) => (.error (.disk trouble temporary), world)
              | .ok (done, disk) => (.ok (if done then mutation else unchanged), { world with disk })
            else (.ok mutation, world)
  else (.ok unchanged, world)

end World

end Mutant
