import Gamebook.Keyed
import Gamebook.Text.Blank

/-!
# Directories

A directory of texts, as the commands see the one they run in: files under paths, and the
directories that those paths go through. Of what lies outside, only the directories above it, the
root with the usual directories for devices and passing files, and a few devices are there.
-/

namespace Gamebook

/-- Why a file cannot be read or written. -/
inductive FileFault where
  | notFound
  | isDirectory
  /-- A file stands where the path goes on. -/
  | notDirectory
  /-- A name, or the whole path, has too many bytes. -/
  | nameTooLong
  /-- The file is no text in UTF-8. -/
  | notText
  | other (reason : String)
  deriving Repr, DecidableEq

/-- What is said about a fault. -/
def FileFault.message : FileFault → String
  | notFound => "No such file or directory (os error 2)"
  | isDirectory => "Is a directory (os error 21)"
  | notDirectory => "Not a directory (os error 20)"
  | nameTooLong => "File name too long (os error 36)"
  | notText => "stream did not contain valid UTF-8"
  | other reason => reason

/-- The most bytes of a name. -/
def maxNameBytes : Nat := 255

/-- The most bytes of a path. -/
def maxPathBytes : Nat := 4095

/-- Texts by path. The parts of a path are its names, from the outermost directory to the file. A
place above the directory begins with names "..", one for each level; a place below the root begins
with the name "/". -/
structure Directory where
  files : List (List String × String) := []
  deriving DecidableEq

namespace Directory

/-- A device, which can be read and written like a file. -/
inductive Device where
  /-- It holds nothing and keeps nothing. -/
  | null
  /-- What is typed. -/
  | input
  /-- Where a program says what it found. -/
  | output
  /-- Where a program says what it did. -/
  | notes
  deriving DecidableEq, Repr

/-- The device of a name. -/
def Device.ofName? : String → Option Device
  | "null" => some .null
  | "stdin" => some .input
  | "stdout" => some .output
  | "stderr" => some .notes
  | _ => none

/-- What stands at a path. -/
inductive Entry where
  | file (text : String)
  | directory
  | device (device : Device)
  /-- Nothing yet, in a directory that is there. -/
  | vacant
  /-- No directory, though a slash at the end of the path asks for one. -/
  | noDirectory (fault : FileFault)
  deriving DecidableEq

/-- The text of a file. -/
def file? (d : Directory) (names : List String) : Option String := d.files.lookup names

/-- The directories outside that are always there, besides those above. -/
def standing : List (List String) := [["/"], ["/", "dev"], ["/", "tmp"]]

/-- Whether a path leads to a directory. -/
def isDirectory (d : Directory) (names : List String) : Bool :=
  names.all (· = "..") || standing.contains names ||
    d.files.any fun file => names.isPrefixOf file.1 && names != file.1

/-- The directory that a directory lies in. The root lies in itself. -/
def parent (names : List String) : List String :=
  if names = ["/"] then names
  else if names.all (· = "..") then names ++ [".."]
  else names.dropLast

/-- What stands under a name in a directory, if no directory does. -/
def entry (d : Directory) (names : List String) (name : String) : Except FileFault Entry :=
  if maxNameBytes < name.utf8ByteSize then .error .nameTooLong
  else match if names = ["/", "dev"] then Device.ofName? name else none with
    | some device => .ok (.device device)
    | none =>
      match d.file? (names ++ [name]) with
      | some text => .ok (.file text)
      | none => .ok .vacant

/-- What stands at the end of a path whose first names, `before`, lead to a directory. -/
def walk (d : Directory) (before : List String) :
    List String → Except FileFault (List String × Entry)
  | [] => .ok (before, .directory)
  | ".." :: names => d.walk (parent before) names
  | name :: names =>
    let here := before ++ [name]
    if name = "" ∨ name = "." then d.walk before names
    else if d.isDirectory here then d.walk here names
    else match d.entry before name, names with
      | .ok entry, [] => .ok (here, entry)
      | .error fault, [] => .error fault
      | entry, names =>
        let fault := match entry with
          | .ok .vacant => .notFound
          | .ok _ => .notDirectory
          | .error fault => fault
        if names.all (· = "") then .ok (here, .noDirectory fault) else .error fault

/-- What stands at a path. -/
def find (d : Directory) (path : String) : Except FileFault (List String × Entry) :=
  if maxPathBytes < path.utf8ByteSize then .error .nameTooLong
  else match Text.splitAt '/' path with
    | "" :: names => if names.isEmpty then .error .notFound else d.walk ["/"] names
    | names => d.walk [] names

/-- The device at a path. -/
def device? (d : Directory) (path : String) : Option Device :=
  match d.find path with
  | .ok (_, .device device) => some device
  | _ => none

/-- Reads a file. A device is empty here; what is typed is not part of a directory. -/
def read (d : Directory) (path : String) : Except FileFault String :=
  match d.find path with
  | .ok (_, .file text) => .ok text
  | .ok (_, .device _) => .ok ""
  | .ok (_, .vacant) => .error .notFound
  | .ok (_, .directory) => .error .isDirectory
  | .ok (_, .noDirectory fault) => .error fault
  | .error fault => .error fault

/-- Puts a text under a path. -/
def put (names : List String) (text : String) :
    List (List String × String) → List (List String × String)
  | [] => [(names, text)]
  | file :: files =>
    if file.1 = names then (names, text) :: files else file :: put names text files

/-- Writes a file, which may be new. A device keeps nothing. -/
def write (d : Directory) (path text : String) : Except FileFault Directory :=
  match d.find path with
  | .ok (names, .file _) | .ok (names, .vacant) => .ok { files := put names text d.files }
  | .ok (_, .device _) => .ok d
  | .ok (_, .directory) | .ok (_, .noDirectory _) => .error .isDirectory
  | .error fault => .error fault

/-- The directory with the given files. -/
def ofFiles (files : List (String × String)) : Directory where
  files := files.map fun file => (Text.splitAt '/' file.1, file.2)

end Directory

end Gamebook
