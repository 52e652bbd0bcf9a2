import PhraseStructure.CommandLine.Host
import PhraseStructure.CommandLine.Path
/-!
# File systems as values

Files and folders held as a value, with a working folder among them, and how
paths are looked up.
-/
namespace PhraseStructure.CommandLine

/-- What a path can lead to. -/
inductive Item where
  | file (content : ByteArray)
  | folder
  /-- The null device: nothing can be read from it, and it forgets what is
  written to it. -/
  | null

/-- A place, given by the names that lead to it from the root. -/
abbrev Place := List String

/-- A file system: the items below its root, and the place from which relative
paths start. -/
structure FileSystem where
  items : List (Place × Item)
  working : Place

namespace FileSystem

/-- A file system with an empty working folder, and outside of it the folders
that every system has. -/
def empty : FileSystem :=
  { items :=
      ["bin", "dev", "etc", "home", "lib", "proc", "tmp", "usr", "var"].map (fun name => ([name], .folder)) ++
        [(["dev", "null"], .null), (["tmp", "work"], .folder)]
    working := ["tmp", "work"] }

/-- The item at a place. The root is a folder. -/
def item? (s : FileSystem) (place : Place) : Option Item :=
  if place.isEmpty then some .folder else s.items.lookup place

/-- The file system with an item put at a place. -/
def put (s : FileSystem) (place : Place) (item : Item) : FileSystem :=
  { s with items := (place, item) :: s.items.filter (·.1 != place) }

/-- The place where a path starts. -/
def origin (s : FileSystem) (path : String) : Place := if Path.isAbsolute path then [] else s.working

/-! ## Looking up -/

/-- Whether a name has more bytes than a folder can keep. -/
def isTooLong (name : String) : Bool := name.utf8ByteSize > 255

/-- A path is refused for its text alone if it holds a NUL character or has too
many bytes. -/
def checkText (path : String) : Except FileError Unit :=
  if path.contains '\x00' then .error .nulInName
  else if path.utf8ByteSize ≥ 4096 then .error .nameTooLong
  else .ok ()

/-- Only a folder can be stepped into. -/
def checkFolder (s : FileSystem) (place : Place) : Except FileError Unit :=
  match s.item? place with
  | none => .error .notFound
  | some .folder => .ok ()
  | some _ => .error .notADirectory

/-- The place where steps from `here` lead. Every step must start at a folder;
there need be nothing at the end. Above the root there is the root again. -/
def follow (s : FileSystem) (here : Place) : List String → Except FileError Place
  | [] => .ok here
  | step :: steps => do
    s.checkFolder here
    if step = "." then s.follow here steps
    else if step = ".." then s.follow here.dropLast steps
    else if isTooLong step then .error .nameTooLong
    else s.follow (here ++ [step]) steps

/-- The place that a path leads to. -/
def locate (s : FileSystem) (path : String) : Except FileError Place := do
  checkText path
  if path.isEmpty then .error .notFound else s.follow (s.origin path) (Path.steps path)

/-- The content of the file at a path. -/
def read (s : FileSystem) (path : String) : Except FileError ByteArray := do
  match s.item? (← s.locate path) with
  | none => throw .notFound
  | some .folder => throw .isADirectory
  | some .null => return ByteArray.empty
  | some (.file content) => return content

/-! ## Writing -/

/-- Make the folders on the way from `here` along some names. Those made before
an error stay. -/
def makeFolders (s : FileSystem) (here : Place) : List String → Except FileError Unit × FileSystem
  | [] => (.ok (), s)
  | name :: names =>
    if name = ".." then s.makeFolders here.dropLast names
    else if isTooLong name then (.error .nameTooLong, s)
    else
      let place := here ++ [name]
      match s.item? place with
      | some .folder => s.makeFolders place names
      | some _ => (.error (if names.isEmpty then .alreadyExists else .notADirectory), s)
      | none => (s.put place .folder).makeFolders place names

/-- Make the folders above the last name of a path. -/
def makeParents (s : FileSystem) (path : String) : Except FileError Unit × FileSystem :=
  match checkText (Path.parent path) with
  | .error e => (.error e, s)
  | .ok () => s.makeFolders (s.origin path) (Path.parents path)

/-- The place at which a path lets a file be written. A path that ends with a
slash asks for a folder, if its last name can be reached at all. -/
def locateFile (s : FileSystem) (path : String) : Except FileError Place := do
  if Path.endsWithSlash path then
    checkText path
    s.checkFolder (← s.follow (s.origin path) (Path.steps path).dropLast.dropLast)
    throw .isADirectory
  s.locate path

/-- Write a file whose folder is there. -/
def writeFile (s : FileSystem) (path : String) (content : ByteArray) : Except FileError FileSystem := do
  let place ← s.locateFile path
  match s.item? place with
  | some .folder => throw .isADirectory
  | some .null => return s
  | _ => return s.put place (.file content)

/-- Write a file, making the folders above it first. They stay even if the file
cannot be written. -/
def write (s : FileSystem) (path : String) (content : ByteArray) : Except FileError Unit × FileSystem :=
  match s.makeParents path with
  | (.error e, s) => (.error e, s)
  | (.ok (), s) =>
    match s.writeFile path content with
    | .error e => (.error e, s)
    | .ok s => (.ok (), s)

end FileSystem

end PhraseStructure.CommandLine
