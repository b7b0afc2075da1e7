import TypeCatalog.Command.Run

namespace TypeCatalog

/-!
# The program

Reads the files, the environment and the command line, runs, and writes what the run says.  Only
files that the command line or a search root names are read.
-/

/-- The texts among the arguments that may be paths: whole arguments, and what stands after an
equals sign. -/
def pathTexts (arguments : List String) : List String :=
  arguments ++ arguments.filterMap fun argument => (Command.nameAndValue argument).2

/-- The paths that matter before the configuration is known. -/
def firstPaths
    (home : FilePath)
    (arguments : List String) : List FilePath :=
  home.join Settings.globalFile :: Settings.projectFile ::
    (pathTexts arguments).flatMap fun text =>
      [.ofText text, (FilePath.ofText text).join Settings.projectFile]

/-- The search roots of the configurations that may apply. -/
def possibleRoots
    (around : Surroundings)
    (arguments : List String) : List String :=
  (none :: (pathTexts arguments).map some).flatMap fun root? =>
    match around.configuration root? with
    | .ok configuration => configuration.inspection.searchRoots
    | .error _ => []

/-- The paths that matter once the configuration is known. -/
def furtherPaths
    (around : Surroundings)
    (arguments : List String) : List FilePath :=
  (possibleRoots around arguments).flatMap fun root =>
    (pathTexts arguments).map fun text => (FilePath.ofText root).join (.ofText text)

/-- The files with what stands at a path, if anything does. -/
def look
    (files : FileTree)
    (path : FilePath) : IO FileTree := do
  try
    let place ← IO.FS.realPath (files.workingDirectory.join path).text
    if ← place.isDir then
      return files.makeDirectory path
    if (← place.metadata).type != .file then
      return files
    let bytes ← IO.FS.readBinFile place
    return files.write path (bytes.toList.map UInt8.toNat)
  catch _ =>
    return files

/-- A variable of the environment in its written form. -/
def variableOf (text : String) : Option (String × String) :=
  match Command.nameAndValue text with
  | (name, some value) => some (name, value)
  | (_, none) => none

/-- The variables of the environment. -/
def readVariables : IO (List (String × String)) := do
  try
    let bytes ← IO.FS.readBinFile "/proc/self/environ"
    match Text.decodeUtf8 (bytes.toList.map UInt8.toNat) with
    | .ok text => return (Text.splitAt '\x00' text).filterMap variableOf
    | .error _ => return []
  catch _ =>
    return []

/-- A name for a call that no other call has. -/
def freshName : IO String := do
  let bytes ← IO.getRandomBytes 6
  return String.join (bytes.toList.map fun byte => Text.hexadecimal 2 byte.toNat)

/-- What the program finds around it. -/
def survey (arguments : List String) : IO Surroundings := do
  let workingDirectory := FilePath.ofText (← IO.currentDir).toString
  let home := FilePath.ofText ((← IO.getEnv "HOME").getD "/")
  let files ← (firstPaths home arguments).foldlM look (FileTree.empty workingDirectory home)
  let clock := Binary64.ofInt ((← IO.monoMsNow) / 1000)
  let around : Surroundings := ⟨files, ← readVariables, clock, ← freshName⟩
  let files ← (furtherPaths around arguments).foldlM look files
  return { around with files := files }

end TypeCatalog

/-- Runs the command line. -/
def main (arguments : List String) : IO UInt32 := do
  let around ← TypeCatalog.survey arguments
  let outcome := around.run arguments
  (← IO.getStdout).putStr outcome.standardOutput
  (← IO.getStderr).putStr outcome.errorOutput
  return outcome.exitCode.toUInt32
