import Mutant.Text.Split

/-!
Paths. A path is a root part and a list of names; empty and `.` names vanish, `..` stays. The
root part is empty for a relative path, `/`, or `//` when the text begins with exactly two slashes.
-/

namespace Mutant

structure Path where
  root : String := ""
  names : List String := []
deriving DecidableEq, Repr

namespace Path

def rootOf : List Char → String
  | '/' :: '/' :: '/' :: _ => "/"
  | '/' :: '/' :: _ => "//"
  | '/' :: _ => "/"
  | _ => ""

def isName (name : String) : Bool :=
  name != "" && name != "."

def ofText (text : String) : Path :=
  ⟨rootOf text.toList, ((Text.splitAt '/' text.toList).map String.ofList).filter isName⟩

def isAbsolute (path : Path) : Bool :=
  path.root != ""

def text (path : Path) : String :=
  if path.root == "" && path.names.isEmpty then "."
  else path.root ++ "/".intercalate path.names

/-- No call takes a path with a null character in it. -/
def hasNull (path : Path) : Bool :=
  path.names.any fun name => name.toList.contains (Char.ofNat 0)

def join (base extra : Path) : Path :=
  if extra.isAbsolute then extra else ⟨base.root, base.names ++ extra.names⟩

def child (base : Path) (name : String) : Path :=
  base.join (ofText name)

def parent (path : Path) : Path :=
  ⟨path.root, path.names.dropLast⟩

def name (path : Path) : String :=
  path.names.getLast?.getD ""

/-- What follows the last dot of a name, with the dot. A dot that begins or ends the name does not
count. -/
def suffixOf (name : List Char) : List Char :=
  let ending := name.reverse.takeWhile (· != '.')
  let before := name.length - ending.length
  if ending.isEmpty || before ≤ 1 then [] else '.' :: ending.reverse

def suffix (path : Path) : String :=
  String.ofList (suffixOf path.name.toList)

/-- Names joined to those that lead to a folder, where `..` takes the last one away. -/
def settle (folder names : List String) : List String :=
  names.foldl (fun settled name => if name == ".." then settled.dropLast else settled ++ [name]) folder

/-- The names that lead from `base` to `path`, if `path` lies below it. -/
def relativeTo? (path base : Path) : Option Path :=
  if path.root == base.root && base.names.isPrefixOf path.names then
    some ⟨"", path.names.drop base.names.length⟩
  else none

end Path

end Mutant
