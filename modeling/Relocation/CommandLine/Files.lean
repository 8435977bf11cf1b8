import Relocation.Storage
import Relocation.Text.Bytes
import Relocation.Text.Split

/-!
# Files

Commands read and write whole files.  How they do it is left to the place they run in
(`FileAccess`).  A `Directory` is the simplest such place: a flat collection of named files.

A path leads from directory to directory, part by part.  Only a directory can be passed through, and
a path that ends with a slash has to lead to one.  The directories around the one at hand, reached
through `..` or from the root, are taken to hold nothing but the files that were put there.
-/

namespace Relocation.CommandLine

/-- The parts of a path.  Empty parts and single dots do not count, apart from an empty part in
front, which stands for the root, and a dot in front. -/
def pathParts (path : String) : List (List Char) :=
  match Text.cutAt '/' path.toList with
  | [] => []
  | first :: rest => first :: rest.filter fun part => part != [] && part != ['.']

/-- Two ways of writing one path. -/
def samePath (a b : String) : Bool :=
  pathParts a == pathParts b

/-- At what a look into a file failed. -/
inductive ViewFault where
  | opening (reason : String)
  | mapping (reason : String)
  deriving DecidableEq, Repr

/-- Reading and writing files.  A failure comes with its reason. -/
structure FileAccess (m : Type → Type) where
  read : String → m (Except String Storage)
  /-- Looks into a file in place. -/
  view : String → m (Except ViewFault Storage)
  write : String → Storage → m (Except String Unit)
  /-- Copies the first file to the second. -/
  copy : String → String → m (Except String Unit)

/-- Why a path does not lead to what is asked for. -/
inductive PathFault where
  | noSuchFile
  /-- A look into something that has no contents to map. -/
  | noSuchDevice
  /-- The path leads through a file. -/
  | notADirectory
  | isADirectory
  /-- The path or one of its parts is too long. -/
  | nameTooLong
  /-- What is to be copied is a directory. -/
  | notAFile
  deriving DecidableEq, Repr

/-- The wording of a path fault. -/
def PathFault.reason : PathFault → String
  | noSuchFile => "No such file or directory (os error 2)"
  | noSuchDevice => "No such device (os error 19)"
  | notADirectory => "Not a directory (os error 20)"
  | isADirectory => "Is a directory (os error 21)"
  | nameTooLong => "File name too long (os error 36)"
  | notAFile => "the source path is neither a regular file nor a symlink to a regular file"

/-! ### Directories -/

/-- A flat collection of files, each known by the path that leads to it. -/
structure Directory where
  files : List (String × Storage)
  deriving DecidableEq, Repr

/-- What a path leads to. -/
inductive Place where
  /-- A directory, by the text in front of the names of its files: nothing for the directory at
  hand, `../` for the one around it, `/` for the root. -/
  | directory (way : String)
  /-- A file, by its path. -/
  | file (path : String)
  deriving DecidableEq, Repr

namespace Directory

/-- Paths take fewer bytes than this. -/
def pathLimit : Nat := 4096

/-- The most bytes that the name of a file takes. -/
def longestName : Nat := 255

/-- The contents of a file. -/
def get? (directory : Directory) (path : String) : Option Storage :=
  directory.files.lookup path

/-- The directory with the contents of a file replaced, or a file added. -/
def put (directory : Directory) (path : String) (data : Storage) : Directory :=
  if directory.files.any (·.1 == path) then
    ⟨directory.files.map fun file => if file.1 == path then (path, data) else file⟩
  else
    ⟨directory.files ++ [(path, data)]⟩

/-- The files of the directory itself, without those around it. -/
def ownFiles (directory : Directory) : List (String × Storage) :=
  directory.files.filter fun file => !file.1.toList.contains '/'

/-! ### Paths -/

/-- The part of a path stands for the directory that was reached before it. -/
def staysPut (part : List Char) : Bool :=
  part == [] || part == ['.']

/-- The way to the directory around another one.  There is none around the root. -/
def wayUp (way : String) : String :=
  if way = "/" then way else way ++ "../"

/-- Where a part of a path leads from a place.  A file leads nowhere. -/
def step (directory : Directory) (place : Place) (part : List Char) : Except PathFault Place :=
  match place with
  | .file _ => .error .notADirectory
  | .directory way =>
    if staysPut part then .ok place
    else if part = ['.', '.'] then .ok (.directory (wayUp way))
    else if longestName < Text.byteLength part then .error .nameTooLong
    else
      let path := way ++ String.ofList part
      if (directory.get? path).isSome then .ok (.file path) else .error .noSuchFile

/-- Where several parts lead, one after the other. -/
def walk (directory : Directory) (start : Place) (parts : List (List Char)) :
    Except PathFault Place :=
  parts.foldlM directory.step start

/-- Where a path begins, and its parts. -/
def origin (path : String) : Except PathFault (Place × List (List Char)) :=
  if path.isEmpty then .error .noSuchFile
  else if pathLimit ≤ path.utf8ByteSize then .error .nameTooLong
  else
    match Text.cutAt '/' path.toList with
    | [] :: parts => .ok (.directory "/", parts)
    | parts => .ok (.directory "", parts)

/-- What a path leads to. -/
def follow (directory : Directory) (path : String) : Except PathFault Place := do
  let (start, parts) ← origin path
  directory.walk start parts

/-- The path of the file that a path leads to, whether or not the file is there.  A slash behind a
new name asks for a directory, which is not made. -/
def target (directory : Directory) (path : String) : Except PathFault String := do
  let (start, parts) ← origin path
  let slashes := parts.reverse.takeWhile (· == [])
  match parts.reverse.drop slashes.length with
  | [] => .error .isADirectory
  | part :: before =>
    match ← directory.walk start before.reverse with
    | .file _ => .error .notADirectory
    | .directory way =>
      if staysPut part ∨ part = ['.', '.'] ∨ slashes ≠ [] then .error .isADirectory
      else if longestName < Text.byteLength part then .error .nameTooLong
      else .ok (way ++ String.ofList part)

/-! ### Access -/

/-- The contents of the file that a path leads to.  `directoryFault` says what is wrong with a
directory there. -/
def contents (directory : Directory) (directoryFault : PathFault) (path : String) :
    Except PathFault Storage := do
  match ← directory.follow path with
  | .file path =>
    match directory.get? path with
    | some data => .ok data
    | none => .error .noSuchFile
  | .directory _ => .error directoryFault

/-- What a look into the file that a path leads to shows.  A directory can be opened, but has
nothing to map. -/
def viewPath (directory : Directory) (path : String) : Except ViewFault Storage :=
  match directory.contents .noSuchDevice path with
  | .ok data => .ok data
  | .error .noSuchDevice => .error (.mapping PathFault.noSuchDevice.reason)
  | .error fault => .error (.opening fault.reason)

/-- The directory with the contents of the file that a path leads to replaced. -/
def writePath (directory : Directory) (path : String) (data : Storage) :
    Except PathFault Directory := do
  return directory.put (← directory.target path) data

/-- The directory after copying.  The copy is emptied before the contents are read, so a file that
is copied onto itself stays empty. -/
def copyPath (directory : Directory) (source target : String) : Except PathFault Directory := do
  let _ ← directory.contents .notAFile source
  let copy ← directory.target target
  let emptied := directory.put copy []
  return emptied.put copy (← emptied.contents .notAFile source)

/-- Does what `action` says to the directory, unless it fails. -/
def attempt (action : Directory → Except PathFault Directory) :
    StateM Directory (Except String Unit) := do
  match action (← get) with
  | .ok directory =>
    set directory
    return .ok ()
  | .error fault => return .error fault.reason

/-- Access to the files of a directory. -/
def access : FileAccess (StateM Directory) where
  read path := do return ((← get).contents .isADirectory path).mapError PathFault.reason
  view path := do return (← get).viewPath path
  write path data := attempt fun directory => directory.writePath path data
  copy source target := attempt fun directory => directory.copyPath source target

end Directory

end Relocation.CommandLine
