import TypeCatalog.Crash
import TypeCatalog.Files.Path
import TypeCatalog.Limits
import TypeCatalog.Text.Utf8
import TypeCatalog.Text.Written

namespace TypeCatalog

/-!
# Files

The files that the program sees: directories, and files with their bytes and a mark that changes
with each writing.
-/

/-- A directory or a file. -/
inductive FileEntry where
  | directory
  | file (bytes : List Nat) (mark : Nat)
deriving Repr, DecidableEq

/-- Files below the root, by the names on the way to them. -/
structure FileTree where
  workingDirectory : FilePath
  home : FilePath
  entries : List (List String × FileEntry)
  writings : Nat
deriving Repr

namespace FileTree

/-- A tree with a working directory and a home directory that are empty. -/
def empty (workingDirectory home : FilePath) : FileTree :=
  ⟨workingDirectory, home,
    [(workingDirectory.names, .directory), (home.names, .directory), ([], .directory)], 0⟩

/-- What stands at a place. -/
def at?
    (tree : FileTree)
    (place : List String) : Option FileEntry :=
  tree.entries.lookup place

/-- Whether a name has more bytes than the name of a file can have. -/
def isLongName (name : String) : Bool :=
  (Text.utf8Bytes name).length > Limits.nameBytes

/-- Whether a path has more bytes than are looked at. -/
def isLongPath (path : FilePath) : Bool :=
  (Text.utf8Bytes path.text).length ≥ Limits.pathBytes

/-- The crash for a path that is too long, or with a name on it that is. -/
def longNameCrash (path : FilePath) : Crash :=
  ⟨.systemFailure, "[Errno 36] File name too long: " ++ Text.quoted path.text⟩

/-- The crash for a path with a null character. -/
def nullCrash : Crash :=
  ⟨.invalidValue, "embedded null byte"⟩

/-- What following names can come to. -/
inductive Sighting where
  | missing
  | found (entry : FileEntry)
  | longName
deriving Repr, DecidableEq

/-- Follows names from a place at which an entry stands.  A name that is too long is noticed only in
a directory that is there. -/
def walk
    (tree : FileTree)
    (place : List String)
    (entry : FileEntry) : List String → Sighting
  | [] => .found entry
  | name :: rest =>
    match entry with
    | .file .. => .missing
    | .directory =>
      if isLongName name then
        .longName
      else
        match tree.at? (FilePath.follow place name) with
        | none => .missing
        | some next => tree.walk (FilePath.follow place name) next rest

/-- What a path leads to, if it leads to something. -/
def entry?
    (tree : FileTree)
    (path : FilePath) : Except Crash (Option FileEntry) :=
  if path.hasNull then
    .ok none
  else if isLongPath path then
    .error (longNameCrash path)
  else
    match tree.walk [] .directory (tree.workingDirectory.join path).names with
    | .missing => .ok none
    | .found entry => .ok (some entry)
    | .longName => .error (longNameCrash path)

/-- Whether a path leads to a directory. -/
def isDirectory
    (tree : FileTree)
    (path : FilePath) : Except Crash Bool :=
  (tree.entry? path).map fun found => found = some .directory

/-- The bytes of the file that a path leads to, and its mark. -/
def file?
    (tree : FileTree)
    (path : FilePath) : Except Crash (Option (List Nat × Nat)) :=
  (tree.entry? path).map fun found =>
    match found with
    | some (.file bytes mark) => some (bytes, mark)
    | _ => none

/-- The path that a path leads to, without double dots. -/
def resolve
    (tree : FileTree)
    (path : FilePath) : FilePath :=
  path.resolve tree.workingDirectory

/-- A path with the home directory in the place of a leading tilde.  Only the own home directory is
known. -/
def expandHome
    (tree : FileTree)
    (path : FilePath) : Except Crash FilePath :=
  match path.isAbsolute, path.names with
  | false, name :: rest =>
    if name = "~" then .ok ⟨tree.home.root, tree.home.names ++ rest⟩
    else if Text.startsWith name "~" then
      .error ⟨.notPossible, "Could not determine home directory."⟩
    else .ok path
  | _, _ => .ok path

/-- Puts an entry at a place. -/
def put
    (entries : List (List String × FileEntry))
    (place : List String)
    (entry : FileEntry) : List (List String × FileEntry) :=
  (place, entry) :: entries.filter fun other => other.1 != place

/-- The directories on the way to a place. -/
def parents (place : List String) : List (List String) :=
  (List.range place.length).map fun length => place.take length

/-- Makes the directories on the way to a place. -/
def makeParents
    (entries : List (List String × FileEntry))
    (place : List String) : List (List String × FileEntry) :=
  (parents place).foldl
    (fun entries parent =>
      if (entries.lookup parent).isSome then entries else put entries parent .directory)
    entries

/-- Makes a directory and the directories on the way to it. -/
def makeDirectory
    (tree : FileTree)
    (path : FilePath) : FileTree :=
  let place := (tree.resolve path).names
  { tree with entries := put (makeParents tree.entries place) place .directory }

/-- Writes a file and makes the directories on the way to it. -/
def write
    (tree : FileTree)
    (path : FilePath)
    (bytes : List Nat) : FileTree :=
  let place := (tree.resolve path).names
  { tree with
    entries := put (makeParents tree.entries place) place (.file bytes tree.writings)
    writings := tree.writings + 1 }

/-- Removes what a path leads to and all below it. -/
def remove
    (tree : FileTree)
    (path : FilePath) : FileTree :=
  let place := (tree.resolve path).names
  { tree with entries := tree.entries.filter fun entry => !place.isPrefixOf entry.1 }

end FileTree

end TypeCatalog
