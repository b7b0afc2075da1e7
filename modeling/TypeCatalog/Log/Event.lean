import TypeCatalog.Settings.Configuration

namespace TypeCatalog

/-!
# Log events

An event is written to every output whose level it reaches, as one line.  While a call is answered,
its events carry the name of the call.
-/

/-- An event before it is written: what happened, where and with which fields.  The logger and the
name of the call may be nothing.  An event without a level is never written. -/
structure LogEvent where
  level? : Option LogLevel
  logger : Value
  event : Value
  fields : List (Key × Value)
  requestId : Value
deriving Repr

namespace LogEvent

/-- Whether a value is there. -/
def isPresent : Value → Bool
  | .null => false
  | _ => true

/-- The entry for a value under a condition. -/
def entryIf
    (condition : Bool)
    (name : String)
    (value : Value) : List (Key × Value) :=
  if condition then [(Key.text name, value)] else []

/-- The word for the level of an event. -/
def levelWord (event : LogEvent) : String :=
  match event.level? with
  | some level => String.ofList (level.word.toList.map Char.toLower)
  | none => LogLevel.silentName

/-- Names of fields that mark events on their way and are never written. -/
def passingNames : List String :=
  ["_record", "_from_structlog"]

/-- The line of an event at a time.  What the program says about an event wins over its fields. -/
def line
    (event : LogEvent)
    (time : Value) : Value :=
  let given := Value.insertAll (entryIf event.logger.isSomething "logger" event.logger) event.fields
  let written :=
    Value.insertAll given
      (entryIf (isPresent event.event) "event" event.event ++
        [(.text "level", .text event.levelWord), (.text "timestamp", time)] ++
        entryIf (isPresent event.requestId) "request_id" event.requestId)
  .map (written.filter fun entry => !passingNames.any fun name => entry.1 == Key.text name)

/-- Whether an event has a field with a name. -/
def hasField
    (event : LogEvent)
    (name : String) : Bool :=
  event.fields.any fun entry => entry.1 == Key.text name

/-- An event with the field that asks for what led to an error, if it has no such field yet. -/
def withCause (event : LogEvent) : LogEvent :=
  if event.hasField "exc_info" then
    event
  else
    { event with fields := event.fields ++ [(.text "exc_info", .bool true)] }

/-- An event that is logged under a name, once its level is set. -/
def ofCall
    (name : String)
    (event : LogEvent) : Except Crash LogEvent :=
  if LogLevel.silentNames.contains name then
    .ok { event with level? := none }
  else
    match LogLevel.ofCallName? name with
    | none => .error (.lacking "BoundLogger" name)
    | some level =>
      let event := { event with level? := some level }
      .ok (if name == LogLevel.exceptionName then event.withCause else event)

end LogEvent

namespace LogSettings

/-- The number that an event must reach for an output. -/
def threshold
    (settings : LogSettings)
    (output : LogOutput) : Nat :=
  max settings.level.number (output.level?.getD settings.level).number

/-- Whether an event is written to an output. -/
def admits
    (settings : LogSettings)
    (output : LogOutput)
    (event : LogEvent) : Bool :=
  event.level?.any fun level => settings.threshold output ≤ level.number

/-- Why an event cannot be logged.  Some names stand for parts of the event itself; one of them does
so only for events that are not dropped at once. -/
def eventFault?
    (settings : LogSettings)
    (event : LogEvent) : Option Crash :=
  let isKept := event.level?.any fun level => settings.level.number ≤ level.number
  (["self", "event"] ++ if isKept then ["method_name"] else []).findSome? fun name =>
    if event.hasField name then
      some ⟨.wrongType, "got multiple values for argument '" ++ name ++ "'"⟩
    else
      none

/-- The outputs that an event is written to. -/
def outputsFor
    (settings : LogSettings)
    (event : LogEvent) : List LogOutput :=
  settings.outputs.filter fun output => settings.admits output event

/-- The lines that events leave at a destination in a format. -/
def linesAt
    (settings : LogSettings)
    (format : LogFormat)
    (destination : String)
    (time : Value)
    (events : List LogEvent) : List Value :=
  events.flatMap fun event =>
    ((settings.outputsFor event).filter fun output =>
      output.format = format && output.destination == destination).map fun _ => event.line time

end LogSettings

namespace LogEvent

/-- The number of characters of a text that are logged. -/
def loggedLength : Nat := 80

/-- The number of items that are logged one by one. -/
def loggedItems : Nat := 3

/-- An argument as it is logged: long texts are cut, large collections only counted. -/
def loggedArgument : Value → Value
  | .text content =>
    if content.length > loggedLength then .text (Text.take loggedLength content ++ "...")
    else .text content
  | .list items =>
    if items.length > loggedItems then .text ("[" ++ Text.decimal items.length ++ " items]")
    else .list items
  | .map entries =>
    if entries.length > loggedItems then .text ("[" ++ Text.decimal entries.length ++ " items]")
    else .map entries
  | value => value

/-- The arguments of a call as they are logged. -/
def loggedArguments (arguments : List (Key × Value)) : List (Key × Value) :=
  (arguments.filter fun entry => isPresent entry.2).map fun entry =>
    (entry.1, loggedArgument entry.2)

/-- Why the arguments of a call cannot be logged.  The line about a call says under a name of its
own what is called, and two more names stand for the line itself. -/
def clash? (arguments : List (Key × Value)) : Option String :=
  let present := loggedArguments arguments
  if present.any fun entry => entry.1 == Key.text "tool" then
    some "structlog._native._nop() got multiple values for keyword argument 'tool'"
  else
    present.findSome? fun entry =>
      if entry.1 == Key.text "event" || entry.1 == Key.text "self" then
        some ("_nop() got multiple values for argument '" ++ entry.1.display ++ "'")
      else
        none

end LogEvent

end TypeCatalog
