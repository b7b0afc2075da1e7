import TypeCatalog.Command.Basic
import TypeCatalog.Session.Operation
import TypeCatalog.Settings.Configuration

namespace TypeCatalog

/-!
# Requests

A command line that can be read asks for one query or for the server, for the help or for the
version.
-/

/-- A query from the command line. -/
structure QueryRequest where
  root? : Option String
  call : QueryCall
  isRaw : Bool
deriving Repr

/-- The server with settings that win over the configured ones. -/
structure ServeRequest where
  root? : Option String
  transport? : Option Transport
  host? : Option String
  port? : Option Int
  searchRoots : List String
  isVerbose : Bool
deriving Repr

/-- What a command line asks for. -/
inductive Request where
  | query (request : QueryRequest)
  | serve (request : ServeRequest)
  | help (command? : Option Command)
  | version
deriving Repr

namespace Command

namespace GivenValues

/-- What is given for a key, or nothing. -/
def value
    (given : GivenValues)
    (key : String) : Value :=
  (given.lookup key).getD .null

/-- Whether a flag is set. -/
def isSet
    (given : GivenValues)
    (key : String) : Bool :=
  match given.value key with
  | .bool truth => truth
  | _ => false

/-- The text for a key. -/
def text?
    (given : GivenValues)
    (key : String) : Option String :=
  match given.value key with
  | .text content => some content
  | _ => none

/-- The whole number for a key. -/
def whole?
    (given : GivenValues)
    (key : String) : Option Int :=
  match given.value key with
  | .int number => some number
  | _ => none

/-- The texts for a key. -/
def texts
    (given : GivenValues)
    (key : String) : List String :=
  match given.value key with
  | .list items =>
    items.filterMap fun
      | .text content => some content
      | _ => none
  | _ => []

end GivenValues

/-- An entry under a condition. -/
def entryIf
    (condition : Bool)
    (name : String)
    (value : Value) : List (String × Value) :=
  if condition then [(name, value)] else []

/-- An entry for what is given. -/
def entryOf
    (given : GivenValues)
    (key name : String) : List (String × Value) :=
  match given.value key with
  | .null => []
  | value => [(name, value)]

/-- Whether names are compared with regard to case. -/
def caseSensitive (given : GivenValues) : Bool :=
  !given.isSet "ignore_case"

/-- The entries for inherited members. -/
def inheritedEntries (given : GivenValues) : List (String × Value) :=
  entryIf (given.isSet "inherited") "include_inherited" (.bool true) ++
    entryIf (given.isSet "inherited") "declared_only" (.bool false)

/-- The entries that filter, sort and page a listing. -/
def listingEntries (given : GivenValues) : List (String × Value) :=
  [("case_sensitive", .bool (caseSensitive given))] ++
    entryOf given "non_public" "include_non_public" ++
    entryOf given "name_contains" "name_contains" ++
    entryOf given "attribute" "has_attribute_contains" ++
    entryOf given "sort_by" "sort_by" ++
    entryIf (given.isSet "desc") "sort_order" (.text "desc") ++
    entryOf given "skip" "skip" ++
    entryOf given "max_items" "max_items" ++
    entryOf given "token" "continuation_token"

/-- The view of a type that is given. -/
def givenView (given : GivenValues) : TypeView :=
  (TypeView.all.find? fun view => given.text? "view" == some view.word).getD .info

/-- The selection of members that is given. -/
def givenSelection (given : GivenValues) : MemberSelection :=
  (MemberSelection.every.find? fun selection =>
    given.text? "kind" == some selection.word).getD .all

/-- A query about the given module. -/
def queryRequest
    (given : GivenValues)
    (query : Query) : Request :=
  .query
    ⟨given.text? "root", ⟨given.value "MODULE_PATH", query, false⟩, given.isSet "raw"⟩

/-- What a command asks for. -/
def request
    (isVerbose : Bool)
    (given : GivenValues) : Command → Except UsageFault Request
  | .types => .ok (queryRequest given (.types (.record (listingEntries given))))
  | .type =>
    .ok
      (queryRequest given
        (.type (givenView given) (given.value "TYPE_NAME") (.bool (caseSensitive given))))
  | .members =>
    if given.isSet "static_only" && given.isSet "instance_only" then
      .error (.exclusive "--static-only" "--instance-only")
    else
      .ok
        (queryRequest given
          (.members (givenSelection given) (given.value "TYPE_NAME")
            (.record
              (listingEntries given ++
                entryIf (given.isSet "instance_only") "include_static" (.bool false) ++
                entryIf (given.isSet "static_only") "include_instance" (.bool false) ++
                inheritedEntries given))))
  | .member =>
    .ok
      (queryRequest given
        (.named (if given.isSet "docs" then .documentation else .lookup)
          (given.value "TYPE_NAME") (given.value "MEMBER_NAME")
          (.record
            ([("case_sensitive", .bool (caseSensitive given))] ++
              entryIf (given.isSet "non_public") "include_non_public" (.bool true) ++
              inheritedEntries given))))
  | .serve =>
    .ok
      (.serve
        ⟨given.text? "root", (given.text? "transport").bind Transport.ofWord?,
          given.text? "host", given.whole? "port", given.texts "search_roots", isVerbose⟩)

end Command

namespace Request

open Command

/-- What an option that ends the reading asks for. -/
def ofEager
    (command? : Option Command) : OptionAction → Request
  | .showVersion => .version
  | _ => .help command?

/-- Reads what stands after a command. -/
def ofCommand
    (files : FileTree)
    (isVerbose : Bool)
    (command : Command)
    (arguments : List String) : Except UsageFault Request := do
  let found ← cut command.options true arguments
  match eagerAction? found.uses with
  | some action => return .ofEager (some command) action
  | none => command.request isVerbose (← giveValues files command.argumentNames found)

/-- A first argument that is no command may still be an option that ends the reading. -/
def ofUnknown
    (word : String)
    (rest : List String) : Except UsageFault Request := do
  let found ← cut programOptions false (word :: rest)
  match eagerAction? found.uses with
  | some action => return .ofEager none action
  | none => throw (.noSuchCommand word (Text.closeWords word (Command.all.map Command.word)))

/-- Reads a command line. -/
def ofArguments
    (files : FileTree)
    (arguments : List String) : Except UsageFault Request := do
  let found ← cut programOptions false arguments
  match eagerAction? found.uses with
  | some action => return .ofEager none action
  | none =>
    match found.arguments with
    | [] => throw .missingCommand
    | word :: rest =>
      match Command.ofWord? word with
      | some command => ofCommand files (!found.uses.isEmpty) command rest
      | none => ofUnknown word rest

end Request

end TypeCatalog
