import Mutant.Cli.Program

/-!
The command line. The files to work on are named on standard input, one a line; they are read before
a run, and those that it changed are written back. No other program is started from here: without a
parser, git and build tools a run ends with its baseline build.
-/

namespace Mutant.Main

/-- Without a parser no text has a tree free of errors. -/
def noParser : Grammar := fun source => .mk .error none ⟨0, source.length⟩ true false []

def notFound : Int := 127

def world (disk : Disk) : World where
  disk := disk
  grammar := noParser
  now := ⟨1970, 1, 1, 0, 0, 0, 0, some 0⟩
  buildTool := fun _ _ => { exitCode := some notFound }
  git := fun _ => .absent

def load (home : Path) (names : List String) : IO Disk :=
  names.foldlM (fun (disk : Disk) (name : String) => do
    let content ← IO.FS.readBinFile name
    return disk.store (Path.ofText name) content.toList) (Disk.emptyAt home.names)

def save (before after : Disk) : IO Unit := do
  for (names, content) in before.changes after do
    let path : Path := ⟨"/", names⟩
    IO.FS.createDirAll path.parent.text
    IO.FS.writeBinFile path.text content.toByteArray

def givenNames : IO (List String) := do
  let input ← (← IO.getStdin).readToEnd
  return ((Text.lines input.toList).map String.ofList).filter fun name => !name.isEmpty

end Mutant.Main

def main (arguments : List String) : IO UInt32 := do
  let names ← if Mutant.Cli.needsFiles arguments then Mutant.Main.givenNames else pure []
  let home := Mutant.Path.ofText (toString (← IO.currentDir))
  let disk ← Mutant.Main.load home names
  let (answer, world) := Mutant.Cli.answer (Mutant.Main.world disk) arguments
  Mutant.Main.save disk world.disk
  IO.print answer.stdout
  return UInt32.ofNat answer.exitCode
