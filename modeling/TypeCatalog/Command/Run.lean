import TypeCatalog.Command.Markup
import TypeCatalog.Command.Request
import TypeCatalog.Json.Printer
import TypeCatalog.Log.Output
import TypeCatalog.Settings.Load

namespace TypeCatalog

/-!
# Running the command line

From the arguments of a command to what it leaves behind.
-/

/-!
## Outcomes

What a run of the command line does: what it writes to both streams and the code it exits with.  An
error envelope goes to the standard stream like any other, and its message to the error stream.
-/

/-- The outcome of a run. -/
inductive Outcome where
  | shown (text : String)
  | helpNeeded
  | refused (fault : Command.UsageFault)
  | misconfigured (error : ReportedError)
  | answered (envelope : Envelope) (isRaw : Bool)
  | served (server : ServerSettings)
  | crashed (crash : Crash)
deriving Repr

namespace Outcome

/-- How the text of an envelope is laid out: on one line, or indented. -/
def envelopeLayout (isRaw : Bool) : Json.Layout :=
  if isRaw then .spaced else .indented 2

/-- What is said about a text that cannot be shown indented. -/
def encodingAdvice : String :=
  "\n*** You may need to add PYTHONIOENCODING=utf-8 to your environment ***"

/-- The crash of writing an envelope whose text holds halves of surrogate pairs. -/
def writeFault?
    (envelope : Envelope)
    (isRaw : Bool) : Option Crash :=
  (Text.utf8Fault? (Json.points (envelopeLayout isRaw) 0 envelope.toValue)).map fun fault =>
    ⟨.unencodable, fault.message ++ if isRaw then "" else encodingAdvice⟩

/-- The text of an envelope: on one line, or indented. -/
def envelopeText
    (envelope : Envelope)
    (isRaw : Bool) : String :=
  (if isRaw then Json.spaced envelope.toValue else Json.indented envelope.toValue) ++ "\n"

/-- The message of an error with its tags. -/
def markedMessage (error : ReportedError) : String :=
  "[red]" ++ error.code.word ++ "[/red]: " ++ error.message

/-- The message about the address of the server. -/
def endpointMessage (server : ServerSettings) : String :=
  "typelens MCP endpoint: http://" ++ server.host ++ ":" ++ Text.signedDecimal server.port ++
    "/mcp"

/-- The crash that ends a run, if one does. -/
def crash? : Outcome → Option Crash
  | .answered (.failure error) _ => Command.showFault? (markedMessage error)
  | .crashed crash => some crash
  | _ => none

/-- The code that a run exits with. -/
def exitCode : Outcome → Nat
  | .shown _ | .served _ => 0
  | .answered envelope _ => if envelope.isError then 1 else 0
  | .misconfigured _ | .crashed _ => 1
  | .helpNeeded | .refused _ => 2

/-- What a run writes to the standard stream. -/
def standardOutput : Outcome → String
  | .shown text => text
  | .answered envelope isRaw => envelopeText envelope isRaw
  | _ => ""

/-- What a run writes to the error stream. -/
def errorOutput (outcome : Outcome) : String :=
  match outcome.crash?, outcome with
  | some crash, _ => crash.message ++ "\n"
  | none, .helpNeeded => Command.helpText none
  | none, .refused fault => "Error: " ++ fault.message ++ "\n"
  | none, .misconfigured error => "Error: " ++ error.message ++ "\n"
  | none, .answered (.failure error) _ => error.code.word ++ ": " ++ error.message ++ "\n"
  | none, .served server =>
    if server.transport = .http then endpointMessage server ++ "\n" else ""
  | none, _ => ""

end Outcome

/-!
## Running the command line

A run reads the command line, then the configuration, then answers the query or starts the server.
The first fault ends it.
-/

/-- What a run finds around it. -/
structure Surroundings where
  files : FileTree
  assignments : List (String × String)
  clock : Binary64
  requestId : String
deriving Repr

namespace Surroundings

/-- The configuration of the project in a directory, else in the working directory. -/
def configuration
    (around : Surroundings)
    (root? : Option String) : Except Failure Configuration :=
  Settings.load around.files around.assignments none
    (around.files.resolve (.ofText (root?.getD ""))) []

/-- The outcome when something fails that no envelope reports. -/
def outcomeOf : Failure → Outcome
  | .reported error => .misconfigured error
  | .invalid issues => .misconfigured (Settings.errorOfIssues issues)
  | .crashed crash => .crashed crash

/-- Answers a query.  Nothing is written if the whole envelope cannot be. -/
def answerQuery
    (around : Surroundings)
    (request : QueryRequest) : Outcome :=
  match around.configuration request.root? with
  | .error failure => outcomeOf failure
  | .ok configuration =>
    let session :=
      Session.start (.ofStore .manifests) around.files configuration.runtimeOptions around.clock
    let envelope := (session.answer around.requestId (.query request.call)).1
    match Outcome.writeFault? envelope request.isRaw with
    | some crash => .crashed crash
    | none => .answered envelope request.isRaw

/-- The configuration with what the command line says about the server. -/
def serverConfiguration
    (around : Surroundings)
    (request : ServeRequest)
    (configuration : Configuration) : Configuration :=
  let server := configuration.server
  let inspection := configuration.inspection
  { configuration with
    server :=
      ⟨request.transport?.getD server.transport, request.host?.getD server.host,
        request.port?.getD server.port⟩
    inspection :=
      { inspection with
        searchRoots :=
          inspection.searchRoots ++
            request.searchRoots.map fun root => (around.files.resolve (.ofText root)).text }
    logging :=
      if request.isVerbose then { configuration.logging with level := .debug }
      else configuration.logging }

/-- Starts the server.  Its address is shown first. -/
def serve
    (around : Surroundings)
    (request : ServeRequest) : Outcome :=
  match around.configuration request.root? with
  | .error failure => outcomeOf failure
  | .ok loaded =>
    let configuration := around.serverConfiguration request loaded
    match configuration.logging.openIn around.files with
    | .error crash => .crashed crash
    | .ok _ =>
      let server := configuration.server
      match server.transport, Command.showFault? (Outcome.endpointMessage server) with
      | .http, some crash => .crashed crash
      | _, _ => .served server

/-- Does what a request asks for. -/
def perform (around : Surroundings) : Request → Outcome
  | .query request => around.answerQuery request
  | .serve request => around.serve request
  | .help command? => .shown (Command.helpText command?)
  | .version => .shown Command.versionText

/-- Runs a command line. -/
def run
    (around : Surroundings)
    (arguments : List String) : Outcome :=
  if arguments.isEmpty then
    .helpNeeded
  else
    match Request.ofArguments around.files arguments with
    | .error .nullInPath => .crashed FileTree.nullCrash
    | .error fault => .refused fault
    | .ok request => around.perform request

end Surroundings

end TypeCatalog
