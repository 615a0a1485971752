import Mutant.Bytes
import Mutant.Path
import Mutant.Text.Quoted

/-!
The tree of all files with their permission bits, and the calls that read and change it. Paths are
followed name by name, from the root or from the working directory; `..` leads to the parent of a
directory that exists. Whether a file may be read or overwritten depends on who runs the program, which
is a parameter of the disk; new files can be made in every folder. There are no links.
-/

namespace Mutant

inductive Entry where
  | file (content : Bytes) (mode : Nat)
  | folder (entries : List (String × Entry))
deriving Repr

inductive Trouble where
  | missing | present | notFolder | isFolder
  /-- The device that a file is on gives up. -/
  | deviceFails
  | nameTooLong
  | nullByte
  | denied
  | badFormat
deriving DecidableEq, Repr

namespace Trouble

/-- The number of the system for a trouble, and its words. A path with a null character never reaches
the system. -/
def reason? : Trouble → Option (Nat × String)
  | missing => some (2, "No such file or directory")
  | deviceFails => some (5, "Input/output error")
  | badFormat => some (8, "Exec format error")
  | denied => some (13, "Permission denied")
  | present => some (17, "File exists")
  | notFolder => some (20, "Not a directory")
  | isFolder => some (21, "Is a directory")
  | nameTooLong => some (36, "File name too long")
  | nullByte => none

/-- A device gives up when a file is open already, so its path is not named. -/
def message (trouble : Trouble) (path : Path) : String :=
  match trouble.reason? with
  | some (code, reason) =>
      let cause := s!"[Errno {code}] {reason}"
      if trouble == .deviceFails then cause else s!"{cause}: {Text.quoted path.text}"
  | none => "embedded null byte"

end Trouble

namespace Entry

/-- The part of a mode that says who may do what with a file. -/
def permissionsOf (mode : Nat) : Nat :=
  mode % 0o10000

def isFile : Entry → Bool
  | file _ _ => true
  | folder _ => false

def isFolder : Entry → Bool
  | file _ _ => false
  | folder _ => true

def get? : Entry → List String → Option Entry
  | entry, [] => some entry
  | file _ _, _ :: _ => none
  | folder entries, name :: names => (entries.lookup name).bind (·.get? names)

/-- Changes what is listed under a name, where `none` stands for nothing. -/
def alterIn (change : Option Entry → Option Entry) (name : String) :
    List (String × Entry) → List (String × Entry)
  | [] => ((change none).map fun entry => [(name, entry)]).getD []
  | (other, entry) :: rest =>
      if name == other then
        ((change (some entry)).map fun changed => (other, changed) :: rest).getD rest
      else (other, entry) :: alterIn change name rest

/-- Changes the entry that a list of names leads to, if all names but the last lead to folders. -/
def alter (change : Option Entry → Option Entry) : List String → Entry → Entry
  | [], entry => entry
  | _ :: _, file content mode => file content mode
  | [name], folder entries => folder (alterIn change name entries)
  | name :: next :: names, folder entries =>
      folder (alterIn (Option.map (alter change (next :: names))) name entries)

mutual

def files : Entry → List (List String × Bytes)
  | file content _ => [([], content)]
  | folder entries => filesIn entries

def filesIn : List (String × Entry) → List (List String × Bytes)
  | [] => []
  | (name, entry) :: rest =>
      (files entry).map (fun found => (name :: found.1, found.2)) ++ filesIn rest

end

end Entry

inductive Access where
  | read | write
deriving DecidableEq, Repr

structure Disk where
  root : Entry := .folder []
  /-- The names that lead from the root to the working directory. -/
  home : List String := []
  /-- Why whoever runs the program may not open a file, which depends on where it is and on its
  permissions. The superuser is refused nothing. -/
  refusal : Access → List String → Nat → Option Trouble := fun _ _ _ => none

namespace Disk

def newMode : Nat := 0o644

def emptyAt (home : List String) : Disk where
  root := home.foldr (fun name inside => .folder [(name, inside)]) (.folder [])
  home := home

def ownerBits : Access → Nat
  | .read => 0o400
  | .write => 0o200

def ownerRefusal (access : Access) (_ : List String) (permissions : Nat) : Option Trouble :=
  if permissions &&& ownerBits access = 0 then some .denied else none

def at? (disk : Disk) (location : List String) : Option Entry :=
  disk.root.get? location

/-- How many bytes a name may have. -/
def maxName : Nat := 255

def maxPath : Nat := 4095

def isLongName (name : String) : Bool :=
  maxName < name.utf8ByteSize

/-- Follows names from a location. Every name but the last must lead to a folder, and above the root
there is the root. -/
def follow (disk : Disk) : List String → List String → Except Trouble (List String)
  | location, [] => .ok location
  | location, name :: names =>
      match disk.at? location with
      | none => .error .missing
      | some (.file _ _) => .error .notFolder
      | some (.folder _) =>
          if name == ".." then disk.follow location.dropLast names
          else if isLongName name then .error .nameTooLong
          else disk.follow (location ++ [name]) names

def origin (disk : Disk) (path : Path) : List String :=
  if path.isAbsolute then [] else disk.home

/-- Where a path leads, whether or not there is an entry. -/
def locate (disk : Disk) (path : Path) : Except Trouble (List String) :=
  if path.hasNull then .error .nullByte
  else if maxPath < path.text.utf8ByteSize then .error .nameTooLong
  else disk.follow (disk.origin path) path.names

def find (disk : Disk) (path : Path) : Except Trouble Entry :=
  match disk.locate path with
  | .error trouble => .error trouble
  | .ok location =>
      match disk.at? location with
      | none => .error .missing
      | some entry => .ok entry

/-- What is at a path, if anything is. That a name is too long does not go without saying. -/
def probe (disk : Disk) (path : Path) : Except (Trouble × Path) (Option Entry) :=
  match disk.find path with
  | .ok entry => .ok (some entry)
  | .error .nameTooLong => .error (.nameTooLong, path)
  | .error _ => .ok none

def hasEntry (disk : Disk) (path : Path) : Bool :=
  (disk.find path).isOk

def isFolder (disk : Disk) (path : Path) : Bool :=
  match disk.find path with
  | .ok entry => entry.isFolder
  | .error _ => false

def refuses? (disk : Disk) (access : Access) (location : List String) (mode : Nat) : Option Trouble :=
  disk.refusal access location (Entry.permissionsOf mode)

def read (disk : Disk) (path : Path) : Except Trouble Bytes :=
  match disk.locate path with
  | .error trouble => .error trouble
  | .ok location =>
      match disk.at? location with
      | none => .error .missing
      | some (.folder _) => .error .isFolder
      | some (.file content mode) =>
          match disk.refuses? .read location mode with
          | some trouble => .error trouble
          | none => .ok content

def mode? (disk : Disk) (path : Path) : Option Nat :=
  match disk.find path with
  | .ok (.file _ mode) => some mode
  | _ => none

def put (disk : Disk) (location : List String) (entry : Entry) : Disk :=
  { disk with root := disk.root.alter (fun _ => some entry) location }

def drop (disk : Disk) (location : List String) : Disk :=
  { disk with root := disk.root.alter (fun _ => none) location }

/-- Overwrites a file, or creates it with the usual mode. -/
def write (disk : Disk) (path : Path) (content : Bytes) : Except Trouble Disk :=
  match disk.locate path with
  | .error trouble => .error trouble
  | .ok location =>
      match disk.at? location with
      | some (.folder _) => .error .isFolder
      | some (.file _ mode) =>
          match disk.refuses? .write location mode with
          | some trouble => .error trouble
          | none => .ok (disk.put location (.file content mode))
      | none => .ok (disk.put location (.file content newMode))

/-- Opens a file to go on writing to it. One that is not there is created without content. -/
def openToAppend (disk : Disk) (path : Path) : Except Trouble Disk :=
  match disk.locate path with
  | .error trouble => .error trouble
  | .ok location =>
      match disk.at? location with
      | some (.folder _) => .error .isFolder
      | some (.file _ mode) =>
          match disk.refuses? .write location mode with
          | some trouble => .error trouble
          | none => .ok disk
      | none => .ok (disk.put location (.file [] newMode))

def remove (disk : Disk) (path : Path) : Except Trouble Disk :=
  match disk.locate path with
  | .error trouble => .error trouble
  | .ok location =>
      match disk.at? location with
      | none => .error .missing
      | some (.folder _) => .error .isFolder
      | some (.file _ _) => .ok (disk.drop location)

def setMode (disk : Disk) (path : Path) (mode : Nat) : Disk :=
  match disk.locate path with
  | .error _ => disk
  | .ok location =>
      match disk.at? location with
      | some (.file content _) => disk.put location (.file content mode)
      | _ => disk

def replace (disk : Disk) (source target : Path) : Except Trouble Disk :=
  match disk.find source, disk.locate source, disk.locate target with
  | .ok (.file content mode), .ok origin, .ok location =>
      match disk.at? location with
      | some (.folder _) => .error .isFolder
      | _ => .ok ((disk.drop origin).put location (.file content mode))
  | .ok (.folder _), _, _ => .error .isFolder
  | .error trouble, _, _ => .error trouble
  | _, .error trouble, _ => .error trouble
  | _, _, .error trouble => .error trouble

def makeFolder (disk : Disk) (path : Path) : Except Trouble Disk :=
  match disk.locate path with
  | .error trouble => .error trouble
  | .ok location =>
      match disk.at? location with
      | some _ => .error .present
      | none => .ok (disk.put location (.folder []))

/-- Makes a folder and the folders above it that are missing. A folder that is there already is no
failure; the names are given last one first. -/
def makeFoldersFor (disk : Disk) (root : String) :
    List String → Except (Trouble × Path) Disk
  | [] => .ok disk
  | name :: above =>
      let path : Path := ⟨root, (name :: above).reverse⟩
      let settle := fun (disk : Disk) (trouble : Trouble) =>
        if disk.isFolder path then .ok disk else .error (trouble, path)
      match disk.makeFolder path with
      | .ok made => .ok made
      | .error .missing =>
          match disk.makeFoldersFor root above with
          | .error failure => .error failure
          | .ok grown =>
              match grown.makeFolder path with
              | .ok made => .ok made
              | .error .missing => .error (.missing, path)
              | .error trouble => settle grown trouble
      | .error trouble => settle disk trouble

def makeFolders (disk : Disk) (path : Path) : Except (Trouble × Path) Disk :=
  disk.makeFoldersFor path.root path.names.reverse

/-- Puts a file in its place together with the folders above it. What stands in the way stays. -/
def store (disk : Disk) (path : Path) (content : Bytes) : Disk :=
  match disk.makeFolders path.parent with
  | .error _ => disk
  | .ok grown =>
      match grown.write path content with
      | .error _ => grown
      | .ok written => written

def files (disk : Disk) : List (List String × Bytes) :=
  disk.root.files

/-- The files of a later state that an earlier one does not have with this content. -/
def changes (before after : Disk) : List (List String × Bytes) :=
  after.files.filter fun file => !before.files.contains file

end Disk

end Mutant
