import TypeCatalog.Text.Split

namespace TypeCatalog

/-!
# Paths

A path is a root and the names below it.  Writing a path drops repeated separators and single dots,
but keeps double dots: what they lead to depends on the files.
-/

/-- A path.  The root is empty for a path that is relative to the working directory. -/
structure FilePath where
  root : String
  names : List String
deriving Repr, DecidableEq

namespace FilePath

/-- The root that a text starts with: exactly two separators are kept. -/
def rootOf : List Char → String
  | '/' :: '/' :: '/' :: _ => "/"
  | '/' :: '/' :: _ => "//"
  | '/' :: _ => "/"
  | _ => ""

/-- The path that a text writes. -/
def ofText (text : String) : FilePath :=
  ⟨rootOf text.toList, (Text.splitAt '/' text).filter fun name => name != "" && name != "."⟩

/-- The text of a path; the empty path is a dot. -/
def text (path : FilePath) : String :=
  if path.root.isEmpty && path.names.isEmpty then "."
  else path.root ++ "/".intercalate path.names

/-- Whether a character of a path is the null character, which the name of no file holds. -/
def hasNull (path : FilePath) : Bool :=
  path.text.toList.any fun c => c.toNat = 0

/-- Whether a path starts at the root of all files. -/
def isAbsolute (path : FilePath) : Bool :=
  !path.root.isEmpty

/-- A path below another; an absolute one stays as it is. -/
def join (first second : FilePath) : FilePath :=
  if second.isAbsolute then second else ⟨first.root, first.names ++ second.names⟩

/-- The path of the directory that a path lies in. -/
def parent (path : FilePath) : FilePath :=
  ⟨path.root, path.names.dropLast⟩

/-- The last name of a path. -/
def lastName (path : FilePath) : String :=
  path.names.getLast?.getD ""

/-- The ending of the last name from its last dot on.  A dot at either end of the name starts no
ending. -/
def suffix (path : FilePath) : String :=
  match Text.beforeLast? '.' path.lastName with
  | none => ""
  | some stem =>
    let ending := Text.afterLast '.' path.lastName
    if stem.isEmpty || ending.isEmpty then "" else "." ++ ending

/-- Follows a name from a list of names: double dots lead to the name above. -/
def follow
    (place : List String)
    (name : String) : List String :=
  if name = ".." then place.dropLast else place ++ [name]

/-- The absolute path that a path leads to from a directory, without double dots. -/
def resolve
    (path directory : FilePath) : FilePath :=
  ⟨"/", (directory.join path).names.foldl follow []⟩

end FilePath

end TypeCatalog
