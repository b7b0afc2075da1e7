import TypeCatalog.Files.Tree
import TypeCatalog.Number.FromText
import TypeCatalog.Text.CharacterClass
import TypeCatalog.Text.Order
import TypeCatalog.Text.Similarity
import TypeCatalog.Text.Written
import TypeCatalog.Value.Basic

namespace TypeCatalog.Command

/-!
# Arguments of the command line

Options have a long name after two dashes or a short one after one dash.  A long option takes its
value after `=` or from the next argument; short options may stand together.  After `--` nothing is
an option.
-/

/-- What an option takes. -/
inductive ValueKind where
  | text
  | whole
  | choice (words : List String)
  | directory
deriving Repr, DecidableEq

/-- What an option does: set something, take a value, take a value each time, show the help or show
the version. -/
inductive OptionAction where
  | set (value : Bool)
  | take (kind : ValueKind)
  | collect (kind : ValueKind)
  | showHelp
  | showVersion
deriving Repr, DecidableEq

/-- An option with its names and the name of what it sets. -/
structure CommandOption where
  names : List String
  key : String
  action : OptionAction
deriving Repr, DecidableEq

/-- One use of an option, with its value if it takes one. -/
structure OptionUse where
  option : CommandOption
  value? : Option String
deriving Repr, DecidableEq

/-- What is wrong with a command line. -/
inductive UsageFault where
  | noSuchOption (name : String) (suggestions : List String)
  | noSuchCommand (name : String) (suggestions : List String)
  | missingCommand
  | missingValue (name : String)
  | unwantedValue (name : String)
  | missingArgument (name : String)
  | extraArguments (arguments : List String)
  | notWhole (hint value : String)
  | notChoice (hint value : String) (words : List String)
  | noDirectory (hint value : String)
  | notDirectory (hint value : String)
  | exclusive (first second : String)
  | nullInPath
deriving Repr, DecidableEq

namespace UsageFault

/-- Quoted words with commas between them. -/
def quotedList (words : List String) : String :=
  ", ".intercalate (words.map Text.quoted)

/-- The suggestions at the end of a message. -/
def suggestionText : List String → String
  | [] => ""
  | [only] => " Did you mean " ++ Text.quoted only ++ "?"
  | several => " (Did you mean one of: " ++ quotedList (several.mergeSort Text.atMost) ++ "?)"

/-- The start of a message about the value of an option. -/
def invalidValue (hint : String) : String :=
  "Invalid value for " ++ hint ++ ": "

/-- The wording of a fault. -/
def message : UsageFault → String
  | .noSuchOption name suggestions =>
    "No such option " ++ Text.quoted name ++ "." ++ suggestionText suggestions
  | .noSuchCommand name suggestions =>
    "No such command " ++ Text.quoted name ++ "." ++ suggestionText suggestions
  | .missingCommand => "Missing command."
  | .missingValue name => "Option " ++ Text.quoted name ++ " requires an argument."
  | .unwantedValue name => "Option " ++ Text.quoted name ++ " does not take a value."
  | .missingArgument name => "Missing argument '" ++ name ++ "'."
  | .extraArguments [only] => "Got unexpected extra argument (" ++ only ++ ")"
  | .extraArguments arguments =>
    "Got unexpected extra arguments (" ++ " ".intercalate arguments ++ ")"
  | .notWhole hint value =>
    invalidValue hint ++ Text.quoted value ++ " is not a valid integer."
  | .notChoice hint value [only] =>
    invalidValue hint ++ Text.quoted value ++ " is not " ++ Text.quoted only ++ "."
  | .notChoice hint value words =>
    invalidValue hint ++ Text.quoted value ++ " is not one of " ++ quotedList words ++ "."
  | .noDirectory hint value =>
    invalidValue hint ++ "Directory " ++ Text.quoted value ++ " does not exist."
  | .notDirectory hint value =>
    invalidValue hint ++ "Directory " ++ Text.quoted value ++ " is a file."
  | .exclusive first second => first ++ " and " ++ second ++ " are mutually exclusive"
  | .nullInPath => FileTree.nullCrash.text

end UsageFault

namespace CommandOption

/-- Whether an option takes a value. -/
def takesValue (option : CommandOption) : Bool :=
  match option.action with
  | .take _ | .collect _ => true
  | _ => false

/-- Whether an option ends the command before anything else is looked at. -/
def isEager (option : CommandOption) : Bool :=
  option.action = .showHelp || option.action = .showVersion

/-- The names of an option in a message. -/
def hint (option : CommandOption) : String :=
  " / ".intercalate (option.names.map fun name => "'" ++ name ++ "'")

/-- The option with a name. -/
def named?
    (options : List CommandOption)
    (name : String) : Option CommandOption :=
  options.find? fun option => option.names.contains name

/-- The long names of options. -/
def longNames (options : List CommandOption) : List String :=
  (options.flatMap CommandOption.names).filter fun name => Text.startsWith name "--"

end CommandOption

/-! ## Cutting the command line -/

/-- Uses of options and the arguments that are none. -/
structure Cut where
  uses : List OptionUse
  arguments : List String
deriving Repr, DecidableEq

/-- Puts uses of options in front. -/
def Cut.withUses
    (uses : List OptionUse)
    (cut : Cut) : Cut :=
  { cut with uses := uses ++ cut.uses }

/-- Puts an argument in front. -/
def Cut.withArgument
    (argument : String)
    (cut : Cut) : Cut :=
  { cut with arguments := argument :: cut.arguments }

/-- The name in front of an equals sign and the value after it, if there is one. -/
def nameAndValue (argument : String) : String × Option String :=
  if argument.toList.contains '=' then
    (Text.beforeFirst '=' argument,
      some (String.ofList ((argument.toList.dropWhile (· != '=')).drop 1)))
  else
    (argument, none)

/-- Uses of short options that stand together, and the option that still needs a value, with its
name. -/
def shortUses
    (options : List CommandOption) :
    List Char → Except UsageFault (List OptionUse × Option (CommandOption × String))
  | [] => .ok ([], none)
  | c :: rest =>
    let name := String.ofList ['-', c]
    match CommandOption.named? options name with
    | none => .error (.noSuchOption name [])
    | some option =>
      if !option.takesValue then
        (shortUses options rest).map fun found => (⟨option, none⟩ :: found.1, found.2)
      else if rest.isEmpty then
        .ok ([], some (option, name))
      else
        .ok ([⟨option, some (String.ofList rest)⟩], none)

/-- What one argument that starts with a dash means: uses of options, and the option that takes the
next argument, with its name. -/
def readOption
    (options : List CommandOption)
    (argument : String) :
    Except UsageFault (List OptionUse × Option (CommandOption × String)) :=
  let (name, value?) := nameAndValue argument
  let long? := if Text.startsWith name "--" then CommandOption.named? options name else none
  match long?, value? with
  | some option, some value =>
    if option.takesValue then .ok ([⟨option, some value⟩], none)
    else .error (.unwantedValue name)
  | some option, none =>
    if option.takesValue then .ok ([], some (option, name)) else .ok ([⟨option, none⟩], none)
  | none, _ =>
    if Text.startsWith argument "--" then
      .error (.noSuchOption name (Text.closeWords name (CommandOption.longNames options)))
    else
      shortUses options (argument.toList.drop 1)

/-- Whether an argument is written as an option. -/
def isOption (argument : String) : Bool :=
  Text.startsWith argument "-" && argument != "-"

/-- Cuts a command line.  When options may not follow an argument, the first argument ends them. -/
def cut
    (options : List CommandOption)
    (isMixed : Bool) : List String → Except UsageFault Cut
  | [] => .ok ⟨[], []⟩
  | argument :: rest =>
    if argument = "--" then
      .ok ⟨[], rest⟩
    else if isOption argument then
      match readOption options argument with
      | .error fault => .error fault
      | .ok (uses, none) => (cut options isMixed rest).map (Cut.withUses uses)
      | .ok (uses, some (option, name)) =>
        match rest with
        | [] => .error (.missingValue name)
        | value :: others =>
          (cut options isMixed others).map (Cut.withUses (uses ++ [⟨option, some value⟩]))
    else if isMixed then
      (cut options isMixed rest).map (Cut.withArgument argument)
    else
      .ok ⟨[], argument :: rest⟩

/-! ## Values -/

/-- The whole number that a text writes. -/
def wholeOf? (text : String) : Option Int :=
  (Number.wholeInBase 10 text.toList).toOption

/-- What a path leads to as it is written: an empty path leads nowhere, and only a directory may
be followed by a separator.  A path that is too long leads nowhere. -/
def entryAt?
    (files : FileTree)
    (path : String) : Option FileEntry :=
  if path.isEmpty then
    none
  else
    match files.entry? (.ofText path) with
    | .ok (some .directory) => some .directory
    | .ok (some entry) =>
      if Text.endsWith path "/" || Text.endsWith path "/." then none else some entry
    | _ => none

/-- The value of an option. -/
def readValue
    (files : FileTree)
    (option : CommandOption)
    (kind : ValueKind)
    (text : String) : Except UsageFault Value :=
  match kind with
  | .text => .ok (.text text)
  | .whole =>
    match wholeOf? text with
    | some number => .ok (.int number)
    | none => .error (.notWhole option.hint text)
  | .choice words =>
    if words.contains text then .ok (.text text)
    else .error (.notChoice option.hint text words)
  | .directory =>
    if (FilePath.ofText text).hasNull then
      .error .nullInPath
    else
      match entryAt? files text with
      | some .directory => .ok (.text text)
      | some _ => .error (.notDirectory option.hint text)
      | none => .error (.noDirectory option.hint text)

/-- The uses of an option and of others that set the same thing. -/
def usesOf
    (uses : List OptionUse)
    (key : String) : List OptionUse :=
  uses.filter fun use => use.option.key == key

/-- What the last use of an option gives. -/
def lastValue
    (files : FileTree)
    (use : OptionUse) : Except UsageFault Value :=
  match use.option.action with
  | .set value => .ok (.bool value)
  | .take kind | .collect kind => readValue files use.option kind (use.value?.getD "")
  | .showHelp | .showVersion => .ok .null

/-- What the uses of an option give: the last one counts, unless the option collects. -/
def valueOf
    (files : FileTree)
    (first : OptionUse)
    (uses : List OptionUse) : Except UsageFault Value :=
  match first.option.action with
  | .collect _ => (uses.mapM (lastValue files)).map .list
  | _ => lastValue files (uses.getLast?.getD first)

/-- What is given on a command line, by the names of what is set. -/
abbrev GivenValues : Type :=
  List (String × Value)

/-- What the uses of options give, in the order of the first uses. -/
def optionValues
    (files : FileTree)
    (all : List OptionUse)
    (done : List String) : List OptionUse → Except UsageFault GivenValues
  | [] => .ok []
  | use :: rest =>
    if done.contains use.option.key then
      optionValues files all done rest
    else do
      let value ← valueOf files use (usesOf all use.option.key)
      let others ← optionValues files all (use.option.key :: done) rest
      return (use.option.key, value) :: others

/-- Gives names to arguments; each name needs one. -/
def nameArguments : List String → List String → Except UsageFault (GivenValues × List String)
  | [], rest => .ok ([], rest)
  | name :: _, [] => .error (.missingArgument name)
  | name :: names, argument :: rest => do
    let (values, left) ← nameArguments names rest
    return ((name, .text argument) :: values, left)

/-- What is given to a command with named arguments. -/
def giveValues
    (files : FileTree)
    (names : List String)
    (found : Cut) : Except UsageFault GivenValues := do
  let values ← optionValues files found.uses [] found.uses
  let (arguments, left) ← nameArguments names found.arguments
  if left.isEmpty then return values ++ arguments else throw (.extraArguments left)

/-- The option among some uses that ends the command, if there is one. -/
def eagerAction?
    (uses : List OptionUse) : Option OptionAction :=
  (uses.find? fun use => use.option.isEager).map fun use => use.option.action

end TypeCatalog.Command
