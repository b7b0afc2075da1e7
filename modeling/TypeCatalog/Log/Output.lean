import TypeCatalog.Files.Tree
import TypeCatalog.Settings.Configuration

namespace TypeCatalog.FileTree

/-!
# Files to append to

A file that is opened for appending is made if it is not there, with the directories on the way to
it.
-/

/-- Whether a file stands on the way to a path. -/
def isBlocked
    (tree : FileTree)
    (path : FilePath) : Bool :=
  (List.range path.names.length).any fun length =>
    match tree.walk [] .directory
        (tree.workingDirectory.join ⟨path.root, path.names.take length⟩).names with
    | .found (.file ..) => true
    | _ => false

/-- A tree in which a path leads to a directory. -/
def ensureDirectory
    (tree : FileTree)
    (path : FilePath) : Except Crash FileTree := do
  match ← tree.entry? path with
  | some .directory => return tree
  | some (.file ..) =>
    throw ⟨.alreadyThere, "[Errno 17] File exists: " ++ Text.quoted path.text⟩
  | none =>
    if path.hasNull then
      throw nullCrash
    else if tree.isBlocked path then
      throw ⟨.notDirectory, "[Errno 20] Not a directory: " ++ Text.quoted path.text⟩
    else if path.names.any isLongName then
      throw (longNameCrash path)
    else
      return tree.makeDirectory path

/-- Opens a file for appending. -/
def openForAppending
    (tree : FileTree)
    (path : FilePath) : Except Crash FileTree := do
  let tree ← tree.ensureDirectory path.parent
  match ← tree.entry? path with
  | some .directory =>
    throw ⟨.isDirectory, "[Errno 21] Is a directory: " ++ Text.quoted path.text⟩
  | some (.file ..) => return tree
  | none => if path.hasNull then throw nullCrash else return tree.write path []

end TypeCatalog.FileTree

namespace TypeCatalog

/-!
# Opening log outputs

The files that log lines go to are opened in order, before the first line is written.
-/

namespace LogOutput

/-- The file of an output, unless the output is a stream. -/
def file? (output : LogOutput) : Option FilePath :=
  if streams.contains output.destination then none else some (.ofText output.destination)

/-- Opens an output. -/
def openIn
    (files : FileTree)
    (output : LogOutput) : Except Crash FileTree :=
  match output.file? with
  | none => .ok files
  | some path => files.openForAppending path

end LogOutput

/-- Opens all outputs. -/
def LogSettings.openIn
    (files : FileTree)
    (settings : LogSettings) : Except Crash FileTree :=
  settings.outputs.foldlM LogOutput.openIn files

end TypeCatalog
