import Mutant.Disk

/-!
The files below a folder that patterns ask for. A folder's own files come first, then its subfolders one
after another, both by name; folders with certain names are left out with all they hold. What patterns
mean is no matter of the search.
-/

namespace Mutant.Discovery

/-- A language of patterns: why a list of them is refused, and which paths a list accepts. Paths are
texts with slashes between the names. -/
structure PathSpec (fault : Type) where
  fault? : List String → Option fault
  accepts : List String → List Char → Bool

def defaultIgnored : List String :=
  [".git", ".gradle", "build", "out", "target", "node_modules"]

def defaultPatterns (includeTests : Bool) : List String :=
  "src/main/**/*.java" :: if includeTests then ["src/test/**/*.java"] else []

def nameLe (first second : String) : Bool :=
  !(decide (second < first))

def fileNames (entries : List (String × Entry)) : List String :=
  ((entries.filter (·.2.isFile)).map (·.1)).mergeSort nameLe

mutual

def visit (ignored : List String) : Entry → List (List String)
  | .file _ _ => []
  | .folder entries =>
      let own := (fileNames entries).map fun name => [name]
      let below := (visitFolders ignored entries).mergeSort fun first second =>
        nameLe first.1 second.1
      own ++ below.flatMap fun (name, found) => found.map (name :: ·)

def visitFolders (ignored : List String) :
    List (String × Entry) → List (String × List (List String))
  | [] => []
  | (name, entry) :: rest =>
      if entry.isFolder && !ignored.contains name then
        (name, visit ignored entry) :: visitFolders ignored rest
      else visitFolders ignored rest

end

/-- A path below the root as patterns see it. -/
def relativeText (names : List String) : List Char :=
  ("/".intercalate names).toList

def search {fault : Type} (spec : PathSpec fault) (disk : Disk) (root : Path)
    (patterns ignored : List String) : List Path :=
  match disk.find root with
  | .error _ => []
  | .ok entry =>
      ((visit ignored entry).filter fun names => spec.accepts patterns (relativeText names)).map
        fun names => ⟨root.root, root.names ++ names⟩

inductive Failure (fault : Type) where
  | pattern (fault : fault)
  | nullByte (root : Path)
deriving DecidableEq, Repr

def find {fault : Type} (spec : PathSpec fault) (disk : Disk) (root : Path)
    (patterns ignored : List String) : Except (Failure fault) (List Path) :=
  match spec.fault? patterns with
  | some fault => .error (.pattern fault)
  | none =>
      if root.hasNull then .error (.nullByte root)
      else .ok (search spec disk root patterns ignored)

end Mutant.Discovery
