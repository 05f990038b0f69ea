import ScenarioSteps.Text.Blank

/-!
# `ScenarioSteps.Command.Files`: a tree of files

A tree of files is seen from one directory, the working directory. It holds
files by their normal path, which is the list of names from the working
directory down. Every directory on the way to a file exists, and so does every
directory above the working directory.

A path is followed name by name. Every name but the last must be that of a
directory, and so must a last name with a slash behind it.
-/

set_option autoImplicit false

namespace ScenarioSteps

/-- Why a file cannot be read or written. -/
inductive Obstacle where
  | missing
  | notDirectory
  | isDirectory
  | nameTooLong
  /-- The path holds the character with code zero. -/
  | badPath
  /-- The content is not text in UTF-8. -/
  | notText
deriving Repr, DecidableEq

/-- An obstacle in words. -/
def Obstacle.message : Obstacle → String
  | .missing => "No such file or directory (os error 2)"
  | .notDirectory => "Not a directory (os error 20)"
  | .isDirectory => "Is a directory (os error 21)"
  | .nameTooLong => "File name too long (os error 36)"
  | .badPath => "file name contained an unexpected NUL byte"
  | .notText => "stream did not contain valid UTF-8"

/-- A tree of files. Content that is not text is `none`. -/
structure Files where
  contents : List (List String × Option String) := []
deriving Repr, DecidableEq

namespace Files

/-- The name of the directory above. -/
def up : String := ".."

/-- The names between the slashes of a path. -/
def names (path : String) : List String :=
  (Text.splitBy (· == '/') path.toList).map String.ofList

/-- Files by paths down from the working directory, whose directories are made. -/
def ofList (contents : List (String × Option String)) : Files :=
  ⟨contents.map fun (path, content) =>
    ((names path).filter fun name => !name.isEmpty && name != ".", content)⟩

/-- The directory above a directory. Above the working directory there are
only directories that hold no file of the tree. -/
def parent (directory : List String) : List String :=
  if directory == ["/"] then directory
  else if directory.all (· == up) then directory ++ [up]
  else directory.dropLast

/-- The content of a file. -/
def find? (files : Files) (path : List String) : Option (Option String) :=
  files.contents.lookup path

/-- Whether a normal path is that of a directory. -/
def isDirectory (files : Files) (path : List String) : Bool :=
  path == ["/"] || path.all (· == up)
    || files.contents.any fun (other, _) => path.isPrefixOf other && path != other

/-- Follows names from a directory to a normal path, at which there need not be
anything. -/
def follow (files : Files) (directory : List String) : List String → Except Obstacle (List String)
  | [] => .ok directory
  | name :: rest =>
    if name.isEmpty || name == "." then follow files directory rest
    else if name == up then follow files (parent directory) rest
    else if 255 < name.utf8ByteSize then .error .nameTooLong
    else
      let path := directory ++ [name]
      if rest.isEmpty then .ok path
      else if files.isDirectory path then follow files path rest
      else if (files.find? path).isSome then .error .notDirectory
      else .error .missing

/-- The normal path that a path leads to. -/
def locate (files : Files) (path : String) : Except Obstacle (List String) :=
  if path.contains '\x00' then .error .badPath
  else if 4095 < path.utf8ByteSize then .error .nameTooLong
  else if path.isEmpty then .error .missing
  else files.follow (if path.startsWith "/" then ["/"] else []) (names path)

/-- The text of a file. -/
def read (files : Files) (path : String) : Except Obstacle String := do
  let path ← files.locate path
  match files.find? path with
  | some (some text) => return text
  | some none => throw .notText
  | none => throw (if files.isDirectory path then .isDirectory else .missing)

/-- Whether a path leads to a file. -/
def isFile (files : Files) (path : String) : Bool :=
  match files.locate path with
  | .ok path => (files.find? path).isSome
  | .error _ => false

/-- Puts content at a normal path. -/
def put (files : Files) (path : List String) (content : Option String) : Files :=
  ⟨files.contents.filter (·.1 != path) ++ [(path, content)]⟩

/-- Writes a file, which is made if it is missing. The directory that it goes
into must exist. -/
def write (files : Files) (path text : String) : Except Obstacle Files := do
  -- Slashes at the end ask for a directory, but what stands before them is looked at first.
  let bare := String.ofList (path.toList.reverse.dropWhile (· == '/')).reverse
  let target ← files.locate (if bare.isEmpty then path else bare)
  if bare.length < path.length || files.isDirectory target then throw .isDirectory
  else return files.put target (some text)

/-- Whether a normal path stays below the working directory. -/
def isBelow (path : List String) : Bool :=
  path.head? != some up && path.head? != some "/"

/-- The files below the working directory that are not the same in an earlier
tree, by their paths. -/
def changes (files before : Files) : List (String × Option String) :=
  (files.contents.filter fun (path, content) =>
    isBelow path && before.find? path != some content).map
      fun (path, content) => ("/".intercalate path, content)

end Files

/-- The name of the file at a path: its last name, without slashes and dots
behind it. A path that ends in two dots is its own name. -/
def fileName (path : String) : String :=
  let names := (Files.names path).filter fun name => !name.isEmpty && name != "."
  match names.getLast? with
  | some name => if name == Files.up then path else name
  | none => path

end ScenarioSteps
