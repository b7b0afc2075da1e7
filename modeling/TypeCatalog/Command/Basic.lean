import TypeCatalog.Answer.Kind
import TypeCatalog.Command.Arguments
import TypeCatalog.Text.Order

namespace TypeCatalog

/-!
# Commands

There is a command for each kind of query, and one that serves queries.
-/

/-- A command. -/
inductive Command where
  | types
  | type
  | members
  | member
  | serve
deriving Repr, DecidableEq

namespace Command

/-- The word for a command. -/
def word : Command → String
  | .types => "types"
  | .type => "type"
  | .members => "members"
  | .member => "member"
  | .serve => "serve"

/-- All commands. -/
def all : List Command :=
  [.member, .members, .serve, .type, .types]

/-- The command with a word. -/
def ofWord? (word : String) : Option Command :=
  all.find? fun command => command.word == word

/-- What a command does. -/
def summary : Command → String
  | .types => "List the types of MODULE_PATH."
  | .type => "Describe TYPE_NAME in MODULE_PATH."
  | .members => "List the members of TYPE_NAME in MODULE_PATH."
  | .member => "Show every overload of MEMBER_NAME on TYPE_NAME, or its documentation."
  | .serve => "Start the typelens MCP server."

/-- The names of the arguments of a command. -/
def argumentNames : Command → List String
  | .types => ["MODULE_PATH"]
  | .type | .members => ["MODULE_PATH", "TYPE_NAME"]
  | .member => ["MODULE_PATH", "TYPE_NAME", "MEMBER_NAME"]
  | .serve => []

/-! ## Options -/

/-- An option that sets something. -/
def flag (name key : String) : CommandOption :=
  ⟨[name], key, .set true⟩

/-- An option that takes a value of a kind. -/
def taking
    (names : List String)
    (key : String)
    (kind : ValueKind) : CommandOption :=
  ⟨names, key, .take kind⟩

/-- The option that shows the help. -/
def helpOption : CommandOption :=
  ⟨["--help"], "help", .showHelp⟩

/-- The options before the command. -/
def programOptions : List CommandOption :=
  [⟨["--version"], "version", .showVersion⟩,
    ⟨["--verbose", "-v"], "verbose", .set true⟩,
    helpOption]

/-- The option for the directory whose configuration applies. -/
def rootOption : CommandOption :=
  taking ["--root"] "root" .directory

/-- The options of every query. -/
def queryOptions : List CommandOption :=
  [rootOption, flag "--raw" "raw", flag "--ignore-case" "ignore_case", helpOption]

/-- The options that filter, sort and page a listing. -/
def listingOptions : List CommandOption :=
  [flag "--non-public" "non_public",
    ⟨["--public-only"], "non_public", .set false⟩,
    taking ["--name-contains"] "name_contains" .text,
    taking ["--attribute"] "attribute" .text,
    taking ["--sort-by"] "sort_by" .text,
    flag "--desc" "desc",
    taking ["--skip"] "skip" .whole,
    taking ["--max-items", "-n"] "max_items" .whole,
    taking ["--token"] "token" .text]

/-- The words for the views of a type, in order. -/
def viewWords : List String :=
  (TypeView.all.map TypeView.word).mergeSort Text.atMost

/-- The words for selections of members. -/
def selectionWords : List String :=
  MemberSelection.every.map MemberSelection.word

/-- The options of a command. -/
def options : Command → List CommandOption
  | .types => listingOptions ++ queryOptions
  | .type => taking ["--view"] "view" (.choice viewWords) :: queryOptions
  | .members =>
    [taking ["--kind", "-k"] "kind" (.choice selectionWords),
      flag "--inherited" "inherited",
      flag "--static-only" "static_only",
      flag "--instance-only" "instance_only"] ++
      listingOptions ++ queryOptions
  | .member =>
    [flag "--non-public" "non_public",
      flag "--inherited" "inherited",
      flag "--docs" "docs"] ++
      queryOptions
  | .serve =>
    [rootOption,
      taking ["--transport"] "transport" (.choice ["stdio", "http"]),
      taking ["--host"] "host" .text,
      taking ["--port", "-p"] "port" .whole,
      ⟨["--search-root"], "search_roots", .collect .directory⟩,
      helpOption]

/-! ## Help -/

/-- The name of the program. -/
def programName : String := "tlens"

/-- The line that `--version` shows. -/
def versionText : String :=
  programName ++ ", version 0.1.0\n"

/-- A line for each option. -/
def optionLines (options : List CommandOption) : List String :=
  options.map fun option => "  " ++ ", ".intercalate option.names

/-- The help for the program or for one of its commands. -/
def helpText : Option Command → String
  | none =>
    "\n".intercalate
      (["Usage: " ++ programName ++ " [OPTIONS] COMMAND [ARGS]...", "", "Options:"] ++
        optionLines programOptions ++ ["", "Commands:"] ++
        all.map fun command => "  " ++ command.word ++ "  " ++ command.summary) ++ "\n"
  | some command =>
    "\n".intercalate
      ([" ".intercalate
          (["Usage:", programName, command.word, "[OPTIONS]"] ++ command.argumentNames),
        "", "  " ++ command.summary, "", "Options:"] ++
        optionLines command.options) ++ "\n"

end Command

end TypeCatalog
