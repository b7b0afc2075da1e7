import TypeCatalog.Json.Printer
import TypeCatalog.Settings.Configuration
import TypeCatalog.Settings.Environment
import TypeCatalog.Text.Utf8
import TypeCatalog.Yaml.Document

namespace TypeCatalog.Settings

/-!
# Loading the configuration

Settings come from a global file, a file of the project, the environment and the caller; later ones
win.  A missing or empty file says nothing.
-/

/-- Where the file of a project stands below its root. -/
def projectFile : FilePath :=
  .ofText ".typelens/config.yaml"

/-- Where the global file stands below the home directory. -/
def globalFile : FilePath :=
  .ofText ".config/typelens/config.yaml"

/-- The settings that the text of a file writes. -/
def readText
    (path : FilePath)
    (text : String) : Except Failure (List (Key × Value)) :=
  match Yaml.read text with
  | .error (.crashed crash) => .error (.crashed crash)
  | .error .malformed =>
    .error (.reported (.unreadableConfig path.text Yaml.malformedMessage))
  | .ok .null => .ok []
  | .ok (.map entries) => .ok entries
  | .ok _ => .error (.reported (.unreadableConfig path.text "top level must be a mapping"))

/-- The settings in a file. -/
def readFile
    (files : FileTree)
    (path : FilePath) : Except Failure (List (Key × Value)) :=
  match files.file? path with
  | .error crash => .error (.crashed crash)
  | .ok none => .ok []
  | .ok (some (bytes, _)) =>
    match Text.decodeUtf8 bytes with
    | .error fault => .error (.crashed ⟨.undecodable, fault.message⟩)
    | .ok text => readText path (Text.normalizeLineEnds text)

/-- The crash for a name of a section that has no case. -/
def nameFault? : Key → Option Crash
  | .text _ | .unpaired _ | .bytes _ => none
  | key => some (.lacking key.toValue.formWord "lower")

/-- Whether a key is the name of a section, in any case. -/
def namesSection
    (part : Section) : Key → Bool
  | .text name => lower name == part.name
  | _ => false

/-- The sections among entries.  The case of their names does not matter; of several entries for one
section the first counts. -/
def sectionsAmong (entries : List (Key × Value)) : List (Key × Value) :=
  sections.filterMap fun part =>
    (entries.find? fun entry => namesSection part entry.1).map fun entry =>
      (Key.text part.name, entry.2)

/-- Names in bytes are noticed only when all sources have been read. -/
def requireTexts (entries : List (Key × Value)) : Except Failure Unit :=
  if entries.any fun entry => entry.1.toValue.formWord == (Value.bytes []).formWord then
    .error (.crashed ⟨.wrongType, "keywords must be strings"⟩)
  else
    .ok ()

/-- The error for settings that do not pass their check: it names the first one. -/
def errorOfIssues (issues : List Schema.Issue) : ReportedError :=
  match issues.head? with
  | none => .invalidConfigValue "<root>" .null ""
  | some issue =>
    let path := ReportedError.pathText issue.path
    .invalidConfigValue (if path.isEmpty then "<root>" else path) issue.input issue.message

/-- The failure for settings that do not pass their check.  The error shows the first refused value,
which it cannot when a number in it has too many digits. -/
def failureOfIssues (issues : List Schema.Issue) : Failure :=
  if issues.head?.any fun issue => issue.input.hasLongNumber then
    .crashed Json.tooLongCrash
  else
    .reported (errorOfIssues issues)

/-- Checks merged settings. -/
def conclude
    (files : FileTree)
    (entries : List (Key × Value)) : Except Failure Configuration :=
  match Configuration.ofEntries files entries with
  | .ok configuration => .ok configuration
  | .rejected issues => .error (failureOfIssues issues)
  | .crashed crash => .error (.crashed crash)

/-- The settings of both files, those of the project over the global ones. -/
def fileSettings
    (files : FileTree)
    (globalPath root : FilePath) : Except Failure (List (Key × Value)) := do
  let global ← readFile files globalPath
  let project ← readFile files (root.join projectFile)
  return merge (merge [] global) project

/-- Loads the configuration for a project. -/
def load
    (files : FileTree)
    (assignments : List (String × String))
    (globalPath? : Option FilePath)
    (root : FilePath)
    (overrides : List (Key × Value)) : Except Failure Configuration := do
  let globalPath := globalPath?.getD (files.home.join globalFile)
  let fromFiles ← fileSettings files globalPath root
  match fromFiles.findSome? fun entry => nameFault? entry.1 with
  | some crash => throw (.crashed crash)
  | none =>
    match ofEnvironment assignments with
    | .error crash => throw (.crashed crash)
    | .ok fromEnvironment =>
      requireTexts fromFiles
      conclude files
        (merge (sectionsAmong fromFiles) (merge fromEnvironment (sectionsAmong overrides)))

end TypeCatalog.Settings
