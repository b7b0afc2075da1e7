import TypeCatalog.Files.Path
import TypeCatalog.Json.Reader
import TypeCatalog.Metadata.TypeDefinition
import TypeCatalog.Text.Utf8
import TypeCatalog.Yaml.Document

namespace TypeCatalog.Manifest

/-!
# Manifests

A manifest is a file that describes one module, in YAML if its name says so and else in JSON.
-/

/-- The endings of names of YAML files. -/
def yamlSuffixes : List String :=
  [".yaml", ".yml"]

/-- Whether the name of a file says that it holds YAML. -/
def isYaml (path : FilePath) : Bool :=
  yamlSuffixes.contains (String.ofList (path.suffix.toList.map Char.toLower))

/-- The crash for a manifest that cannot be parsed. -/
def unparsable
    (path : FilePath)
    (reason : String) : Crash :=
  ⟨.brokenManifest, "Failed to parse manifest " ++ path.text ++ ": " ++ reason⟩

/-- The crash for a manifest that describes no module. -/
def invalid
    (path : FilePath)
    (issues : List Schema.Issue) : Crash :=
  ⟨.brokenManifest,
    "Invalid manifest " ++ path.text ++ ": " ++ (issues.head?.map Schema.Issue.message).getD ""⟩

/-- The text in the bytes of a file, with line feeds as line ends. -/
def textOf (bytes : List Nat) : Except Crash String :=
  match Text.decodeUtf8 bytes with
  | .ok text => .ok (Text.normalizeLineEnds text)
  | .error fault => .error ⟨.undecodable, fault.message⟩

/-- The value that the text of a manifest writes. -/
def parse
    (path : FilePath)
    (text : String) : Except Crash Value :=
  if isYaml path then
    match Yaml.read text with
    | .ok value => .ok value
    | .error .malformed => .error (unparsable path Yaml.malformedMessage)
    | .error (.crashed crash) => .error crash
  else
    match Json.read text.toList with
    | .ok value => .ok value
    | .error failure =>
      .error (failure.crash?.getD (unparsable path (failure.message text.toList)))

/-- The module that the bytes of a manifest describe. -/
def load
    (path : FilePath)
    (bytes : List Nat) : Except Crash ModuleDefinition := do
  let text ← textOf bytes
  let value ← parse path text
  match ModuleDefinition.check value with
  | .ok definition => return definition.assignDeclarationOrder
  | .rejected issues => throw (invalid path issues)
  | .crashed crash => throw crash

end TypeCatalog.Manifest
