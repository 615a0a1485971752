import Mutant.Disk
import Mutant.Source
import Mutant.Timestamp

/-!
Everything outside the program: the disk, the parser, the clock, the environment, and what build tools
and git answer when they are called. Calls are written down in the order they are made.
-/

namespace Mutant

structure Invocation where
  arguments : List String
  environment : List (String × String)
deriving DecidableEq, Repr

structure BuildReply where
  out : Bytes := []
  err : Bytes := []
  /-- Minus the number of a signal that ended it; nothing if it does not end in time. -/
  exitCode : Option Int := some 0
deriving DecidableEq, Repr

inductive GitReply where
  | absent
  | timedOut
  | ended (exitCode : Int) (out err : Bytes)
deriving DecidableEq, Repr

structure World where
  disk : Disk := {}
  grammar : Grammar
  now : Timestamp
  environment : List (String × String) := []
  windows : Bool := false
  installed : List String := []
  /-- What the build started as number `n` does. -/
  buildTool : Nat → Invocation → BuildReply
  /-- The reply to call number `n` of git. -/
  git : Nat → GitReply
  /-- What call number `n` of git makes of all files. -/
  gitMakes : Nat → Entry → Entry := fun _ root => root
  /-- What the disk held each time a build was started. -/
  builds : List Disk := []
  gitCalls : List (List String × GitReply) := []
  /-- Whether moving a new version of a file into place fails. -/
  replaceFails : Bool := false

namespace World

/-- The absolute form of a path, without `..`. -/
def resolve (world : World) (path : Path) : Path :=
  ⟨"/", Path.settle (world.disk.origin path) path.names⟩

end World

end Mutant
