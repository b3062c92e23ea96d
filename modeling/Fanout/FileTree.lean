/-! Files as a program sees them, by their paths; and a tree of files and directories below a working
directory, with the paths into it. -/

namespace Fanout

/-- What can be asked about the paths of a file system. -/
structure FileView where
  isDirectory : String → Bool
  /-- The file at a path, if there is one: its bytes, or `none` where it cannot be read. -/
  file? : String → Option (Option (List UInt8))

namespace FileView

/-- The path of a name within a directory. -/
def join (directory name : String) : String :=
  if directory.endsWith "/" then directory ++ name else directory ++ "/" ++ name

/-- The parts of a path, without empty ones and those that mean the same directory. -/
def components (path : String) : List String :=
  (path.splitOn "/").filter fun part => part ≠ "" && part ≠ "."

/-- A path without the parts that say nothing. -/
def normal (path : String) : String :=
  (if path.startsWith "/" then "/" else "") ++ "/".intercalate (components path)

end FileView

structure FileTree where
  /-- Files by the names on the way to them, with their bytes if they can be read. -/
  files : List (List String × Option (List UInt8)) := []
  /-- Directories by the names on the way to them. Those that hold something need not be listed. -/
  directories : List (List String) := []

/-- A place that a path leads to. -/
inductive Place
  | within (names : List String)
  /-- Above the working directory by so many steps. -/
  | above (steps : Nat)
  deriving DecidableEq, Repr

namespace FileTree

def isDirectoryAt (names : List String) (t : FileTree) : Bool :=
  names = []
    || t.directories.any names.isPrefixOf
    || t.files.any fun (file, _) => names.isPrefixOf file && names.length < file.length

/-- Takes one step of a path; it has to start in a directory. -/
def step (t : FileTree) : Option Place → String → Option Place
  | none, _ => none
  | some (.above n), name => if name = ".." then some (.above (n + 1)) else none
  | some (.within names), name =>
    if t.isDirectoryAt names then
      if name = ".." then
        some (if names.isEmpty then .above 1 else .within names.dropLast)
      else some (.within (names ++ [name]))
    else none

/-- The place that a path leads to. A path that begins at the root of the file system, or an empty
one, leads nowhere. -/
def resolve (path : String) (t : FileTree) : Option Place :=
  if path = "" || path.startsWith "/" then none
  else (FileView.components path).foldl t.step (some (.within []))

def isDirectory (path : String) (t : FileTree) : Bool :=
  match t.resolve path with
  | some (.within names) => t.isDirectoryAt names
  | some (.above _) => true
  | none => false

/-- The file at a path. A path with a slash at its end names no file. -/
def file? (path : String) (t : FileTree) : Option (Option (List UInt8)) :=
  if path.endsWith "/" then none
  else match t.resolve path with
    | some (.within names) => (t.files.find? (·.1 == names)).map (·.2)
    | _ => none

/-- The tree as a program sees it. -/
def view (t : FileTree) : FileView :=
  { isDirectory := fun path => t.isDirectory path, file? := fun path => t.file? path }

end FileTree

end Fanout
