import TypeCatalog.Files.Tree
import TypeCatalog.Log.Level
import TypeCatalog.Settings.RuntimeOptions

namespace TypeCatalog

/-!
# Configuration

The settings that the program starts with, in five sections.  Every setting has a default.
-/

/-- How log lines are written. -/
inductive LogFormat where
  | json
  | console
deriving Repr, DecidableEq

/-- A place that log lines go to: a standard stream or a file with an absolute path. -/
structure LogOutput where
  format : LogFormat
  destination : String
  level? : Option LogLevel
deriving Repr, DecidableEq

/-- The settings for logging. -/
structure LogSettings where
  level : LogLevel
  outputs : List LogOutput
deriving Repr, DecidableEq

/-- How the server is reached. -/
inductive Transport where
  | stdio
  | http
deriving Repr, DecidableEq

/-- The settings for the server. -/
structure ServerSettings where
  transport : Transport
  host : String
  port : Int
deriving Repr, DecidableEq

/-- The settings for pages. -/
structure LimitSettings where
  defaultPageSize : Nat
  pageSizeOverrides : List (String × Int)
deriving Repr, DecidableEq

/-- The settings for reading modules. -/
structure InspectionSettings where
  includeNonPublic : Bool
  searchRoots : List String
deriving Repr, DecidableEq

/-- All settings. -/
structure Configuration where
  logging : LogSettings
  server : ServerSettings
  limits : LimitSettings
  cacheLifetime : Int
  inspection : InspectionSettings
deriving Repr, DecidableEq

namespace LogFormat

/-- The word for a format. -/
def word : LogFormat → String
  | .json => "json"
  | .console => "console"

/-- Both formats. -/
def all : List LogFormat :=
  [.json, .console]

end LogFormat

namespace Transport

/-- The word for a transport. -/
def word : Transport → String
  | .stdio => "stdio"
  | .http => "http"

/-- Both transports. -/
def all : List Transport :=
  [.stdio, .http]

/-- The transport with a word. -/
def ofWord? (word : String) : Option Transport :=
  all.find? fun transport => transport.word == word

end Transport

/-! ## Logging -/

namespace LogOutput

/-- Plain lines on the stream for errors. -/
def standard : LogOutput :=
  ⟨.console, "stderr", none⟩

/-- The streams that log lines can go to. -/
def streams : List String :=
  ["stderr", "stdout"]

/-- Checks a value as a destination: a stream, or an absolute path once a tilde is the home
directory. -/
def checkDestination (files : FileTree) : Schema.Check String := fun value =>
  (Schema.text value).andThen fun destination =>
    if streams.contains destination then
      .ok destination
    else
      match files.expandHome (.ofText destination) with
      | .error crash => .crashed crash
      | .ok path =>
        if path.isAbsolute then
          .ok path.text
        else
          .rejectRule ("File destination must be absolute path: " ++ destination) value

/-- Checks a value as a level. -/
def checkLevel : Schema.Check LogLevel :=
  Schema.literal (LogLevel.all.map fun level => (level.word, level))

/-- Checks a value as an output. -/
def check (files : FileTree) : Schema.Check LogOutput :=
  Schema.recordOf "LogOutputConfig" fun entries =>
    LogOutput.mk
      <$> Schema.optional entries "format" .console
        (Schema.literal (LogFormat.all.map fun format => (format.word, format)))
      <*> Schema.optional entries "destination" "stderr" (checkDestination files)
      <*> Schema.optional entries "level" none (Schema.nullable checkLevel)

/-- An output as a value. -/
def toValue (output : LogOutput) : Value :=
  .record
    [("format", .text output.format.word), ("destination", .text output.destination),
      ("level", .ofText? (output.level?.map LogLevel.word))]

end LogOutput

namespace LogSettings

/-- The settings when nothing is configured. -/
def standard : LogSettings :=
  ⟨.info, [.standard]⟩

/-- Checks a value as settings for logging. -/
def check (files : FileTree) : Schema.Check LogSettings :=
  Schema.recordOf "LoggingConfig" fun entries =>
    LogSettings.mk
      <$> Schema.optional entries "level" .info LogOutput.checkLevel
      <*> Schema.optional entries "outputs" [.standard]
        (Schema.listOf "list" (LogOutput.check files))

/-- Settings for logging as a value. -/
def toValue (settings : LogSettings) : Value :=
  .record
    [("level", .text settings.level.word),
      ("outputs", .list (settings.outputs.map LogOutput.toValue))]

end LogSettings

/-! ## Server -/

namespace ServerSettings

/-- The settings when nothing is configured. -/
def standard : ServerSettings :=
  ⟨.stdio, "127.0.0.1", 7655⟩

/-- The greatest port. -/
def greatestPort : Int := 65535

/-- Checks a value as a port. -/
def checkPort : Schema.Check Int := fun value =>
  (Schema.whole value).andThen fun port =>
    if 0 ≤ port && port ≤ greatestPort then
      .ok port
    else
      .rejectRule ("Port must be 0-65535, got " ++ Text.signedDecimal port) value

/-- Checks a value as settings for the server. -/
def check : Schema.Check ServerSettings :=
  Schema.recordOf "ServerConfig" fun entries =>
    ServerSettings.mk
      <$> Schema.optional entries "transport" .stdio
        (Schema.literal (Transport.all.map fun transport => (transport.word, transport)))
      <*> Schema.optional entries "host" standard.host Schema.text
      <*> Schema.optional entries "port" standard.port checkPort

/-- Settings for the server as a value. -/
def toValue (settings : ServerSettings) : Value :=
  .record
    [("transport", .text settings.transport.word), ("host", .text settings.host),
      ("port", .int settings.port)]

end ServerSettings

/-! ## Other sections -/

namespace LimitSettings

/-- Checks a value as settings for pages. -/
def check : Schema.Check LimitSettings :=
  Schema.recordOf "LimitsConfig" fun entries =>
    LimitSettings.mk
      <$> Schema.optional entries "default_page_size" Limits.defaultPageSize
        (fun value => (Schema.wholeBetween 1 Limits.maximumPageSize value).map Int.toNat)
      <*> Schema.optional entries "page_size_overrides" [] RuntimeOptions.checkOverrides

/-- Settings for pages as a value. -/
def toValue (settings : LimitSettings) : Value :=
  .record
    [("default_page_size", .ofNat settings.defaultPageSize),
      ("page_size_overrides",
        .record (settings.pageSizeOverrides.map fun entry => (entry.1, .int entry.2)))]

end LimitSettings

namespace InspectionSettings

/-- Checks a value as settings for reading modules. -/
def check : Schema.Check InspectionSettings :=
  Schema.recordOf "InspectionConfig" fun entries =>
    InspectionSettings.mk
      <$> Schema.optional entries "include_non_public_by_default" false Schema.truth
      <*> Schema.optional entries "search_roots" [] (Schema.listOf "list" Schema.text)

/-- Settings for reading modules as a value. -/
def toValue (settings : InspectionSettings) : Value :=
  .record
    [("include_non_public_by_default", .bool settings.includeNonPublic),
      ("search_roots", .ofTexts settings.searchRoots)]

end InspectionSettings

namespace Configuration

/-- Checks a value as settings for the cache. -/
def checkCache : Schema.Check Int :=
  Schema.recordOf "CacheConfig" fun entries =>
    Schema.optional entries "ttl_seconds" Limits.defaultLifetime Schema.whole

/-- Reads all settings from the entries of a mapping. -/
def ofEntries
    (files : FileTree)
    (entries : List (Key × Value)) : Schema.Checked Configuration :=
  Configuration.mk
    <$> Schema.optional entries "logging" .standard (LogSettings.check files)
    <*> Schema.optional entries "server" .standard ServerSettings.check
    <*> Schema.optional entries "limits" ⟨Limits.defaultPageSize, []⟩ LimitSettings.check
    <*> Schema.optional entries "cache" Limits.defaultLifetime checkCache
    <*> Schema.optional entries "inspection" ⟨false, []⟩ InspectionSettings.check

/-- Checks a value as all settings. -/
def check (files : FileTree) : Schema.Check Configuration :=
  Schema.recordOf "TypeLensConfig" (ofEntries files)

/-- All settings as a value. -/
def toValue (configuration : Configuration) : Value :=
  .record
    [("logging", configuration.logging.toValue), ("server", configuration.server.toValue),
      ("limits", configuration.limits.toValue),
      ("cache", .record [("ttl_seconds", .int configuration.cacheLifetime)]),
      ("inspection", configuration.inspection.toValue)]

/-- The runtime options that a session starts with. -/
def runtimeOptions (configuration : Configuration) : RuntimeOptions :=
  ⟨configuration.limits.defaultPageSize, configuration.limits.pageSizeOverrides,
    configuration.cacheLifetime, configuration.inspection.includeNonPublic,
    configuration.inspection.searchRoots⟩

end Configuration

end TypeCatalog
