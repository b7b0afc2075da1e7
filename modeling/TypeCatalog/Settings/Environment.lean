import TypeCatalog.Crash
import TypeCatalog.Json.Reader
import TypeCatalog.Settings.Merge
import TypeCatalog.Text.LetterCase

namespace TypeCatalog.Settings

/-!
# Settings in the environment

A variable sets a section, as JSON, or one setting of a section: its name is the mark of the
program, the section and the setting, with two underscores between them.  A setting that holds
several values is written as JSON.
-/

/-- A section: its name, its settings, and which of them hold several values. -/
structure Section where
  name : String
  simple : List String
  composite : List String
deriving Repr, DecidableEq

/-- The sections of the configuration. -/
def sections : List Section :=
  [⟨"logging", ["level"], ["outputs"]⟩,
    ⟨"server", ["transport", "host", "port"], []⟩,
    ⟨"limits", ["default_page_size"], ["page_size_overrides"]⟩,
    ⟨"cache", ["ttl_seconds"], []⟩,
    ⟨"inspection", ["include_non_public_by_default"], ["search_roots"]⟩]

/-- What the names of all variables start with. -/
def variableMark : String := "typelens__"

/-- A name in lower case. -/
def lower (name : String) : String :=
  Text.lowerCase name

/-- Variables by their names in lower case; of several with one name the last one counts. -/
def loweredVariables (assignments : List (String × String)) : List (Key × Value) :=
  Value.collect (assignments.map fun assignment => (.text (lower assignment.1), .text assignment.2))

/-- Cuts a name at every two underscores. -/
def nameParts
    (part : List Char) : List Char → List String
  | '_' :: '_' :: rest => String.ofList part.reverse :: nameParts [] rest
  | c :: rest => nameParts (c :: part) rest
  | [] => [String.ofList part.reverse]

/-- The crash for a variable that is not JSON where it must be. -/
def unreadable (sectionName : String) : Crash :=
  ⟨.unreadableSettings,
    "error parsing value for field \"" ++ sectionName ++ "\" from source \"EnvSettingsSource\""⟩

/-- The value of a variable that is JSON. -/
def readJson (sectionName content : String) : Except Crash Value :=
  match Json.read content.toList with
  | .ok value => .ok value
  | .error failure =>
    .error
      (match failure with
      | .tooDeep _ => failure.crash?.getD (unreadable sectionName)
      | _ => unreadable sectionName)

/-- Sets an entry below a path of names, as far as there are mappings on the way. -/
def setBelow
    (entries : List (Key × Value))
    (name : String)
    (value : Value) : List String → List (Key × Value)
  | [] => Value.insert entries (.text name) value
  | step :: rest =>
    match Value.lookup? entries step with
    | none => Value.insert entries (.text step) (.map (setBelow [] name value rest))
    | some (.map inner) =>
      Value.insert entries (.text step) (.map (setBelow inner name value rest))
    | some _ => entries

/-- The value of a variable for a setting: JSON if the setting holds several values. -/
def settingValue
    (part : Section)
    (path : List String)
    (name content : String) : Except Crash Value :=
  if path.isEmpty && part.composite.contains name && !content.isEmpty then
    readJson part.name content
  else
    .ok (.text content)

/-- Adds the setting of a variable, if the variable is one of a section. -/
def addVariable
    (part : Section)
    (entries : List (Key × Value))
    (assignment : Key × Value) : Except Crash (List (Key × Value)) :=
  let start := (variableMark ++ part.name ++ "__").toList
  match assignment with
  | (.text variableName, .text content) =>
    if start.isPrefixOf variableName.toList then
      match (nameParts [] (variableName.toList.drop start.length)).reverse with
      | [] => .ok entries
      | name :: path =>
        (settingValue part path name content).map fun value =>
          setBelow entries name value path.reverse
    else
      .ok entries
  | _ => .ok entries

/-- The settings of a section that variables set one by one. -/
def separateSettings
    (part : Section)
    (assignments : List (Key × Value)) : Except Crash (List (Key × Value)) :=
  assignments.foldlM (addVariable part) []

/-- The name of the setting that a name means in any case. -/
def settingName
    (part : Section)
    (name : String) : String :=
  ((part.simple ++ part.composite).find? fun setting => setting == lower name).getD name

/-- Entries with the names of settings in their usual case. -/
def withSettingNames
    (part : Section)
    (entries : List (Key × Value)) : List (Key × Value) :=
  Value.collect
    (entries.map fun entry =>
      match entry.1 with
      | .text name => (.text (settingName part name), entry.2)
      | key => (key, entry.2))

/-- What variables say about a section, if they say anything. -/
def sectionValue?
    (assignments : List (Key × Value))
    (part : Section) : Except Crash (Option Value) :=
  match Value.lookup? assignments (variableMark ++ part.name) with
  | some (.text content) => do
    match ← readJson part.name content with
    | .map entries => do
      let separate ← separateSettings part assignments
      return some (.map (withSettingNames part (merge entries separate)))
    | .null => return none
    | value => return some value
  | _ => do
    let separate ← separateSettings part assignments
    return if separate.isEmpty then none else some (.map (withSettingNames part separate))

/-- The settings in the environment. -/
def ofEnvironment (assignments : List (String × String)) : Except Crash (List (Key × Value)) := do
  let found ← sections.mapM fun part => do
    let value? ← sectionValue? (loweredVariables assignments) part
    return value?.map fun value => (Key.text part.name, value)
  return found.filterMap id

end TypeCatalog.Settings
