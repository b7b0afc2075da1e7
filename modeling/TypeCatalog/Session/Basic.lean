import TypeCatalog.Cache.Store
import TypeCatalog.Json.Printer
import TypeCatalog.Paging.Budget
import TypeCatalog.Report.Envelope
import TypeCatalog.Schema.Checked
import TypeCatalog.Settings.RuntimeOptions
import TypeCatalog.Source.ModuleSource

namespace TypeCatalog

/-!
# Sessions

A session is what lasts from one call to the next: the source of modules, the files, the runtime
options and the cache of answers.
-/

/-- A session. -/
structure Session where
  source : ModuleSource
  files : FileTree
  options : RuntimeOptions
  cache : ResponseCache Envelope
deriving Repr

/-- The error for a failed call.  An unforeseen failure names the call. -/
def Failure.toError
    (requestId : String) : Failure → ReportedError
  | .reported error => error
  | .invalid issues => .ofIssues issues
  | .crashed crash => .internal crash.message [("request_id", .text requestId)]

namespace Session

/-- A session with an empty cache. -/
def start
    (source : ModuleSource)
    (files : FileTree)
    (options : RuntimeOptions)
    (clock : Binary64) : Session :=
  ⟨source, files, options, .empty clock⟩

/-- The envelope for data.  Data that cannot be written, or whose text would be above the ceiling,
are refused. -/
def envelopeOf
    (kind : String)
    (data : Value) : Except Failure Envelope :=
  match Json.unwritable? data with
  | some crash => .error (.crashed crash)
  | none =>
    match enforceCeiling (Envelope.success kind data).size Limits.maximumResponse with
    | .error error => .error (.reported error)
    | .ok _ => .ok (.success kind (Json.settled data))

/-- The envelope for the outcome of a call. -/
def conclude
    (requestId : String) : Except Failure Envelope → Envelope
  | .ok envelope => envelope
  | .error failure => .failure (failure.toError requestId)

/-- The trimmed text of an argument that must be a text and must not be blank. -/
def requireText
    (argument : String)
    (value : Value) : Except Failure String :=
  let refused : Failure := .reported (.invalidArgument argument "must not be empty" [])
  match value with
  | .null => .error refused
  | .text content =>
    if Text.isBlankText content then .error refused else .ok (Text.trim content)
  | other => .error (.crashed (.lacking other.formWord "strip"))

/-- A relative path below a search root. -/
def belowRoot (root path : String) : String :=
  ((FilePath.ofText root).join (.ofText path)).text

/-- The module that a path means: the one at the path itself, or for a relative path the first one
below a search root. -/
def resolveModule
    (session : Session)
    (modulePath : Value) : Except Failure ModuleStamp := do
  let path ← requireText "module_path" modulePath
  let roots := if (FilePath.ofText path).isAbsolute then [] else session.options.searchRoots
  match session.source.firstStamp? session.files (path :: roots.map fun root =>
      belowRoot root path) with
  | .error crash => throw (.crashed crash)
  | .ok (some stamp) => return stamp
  | .ok none => throw (.reported (.moduleNotFound path))

end Session

end TypeCatalog
