import TypeCatalog.Report.Catalog
import TypeCatalog.Session.Options
import TypeCatalog.Session.Query

namespace TypeCatalog

/-!
# Calls and operations

The calls of a session, and operations called by name.
-/

/-!
## Calls

Every call is answered with exactly one envelope and leaves a session for the next call.
-/

/-- A call. -/
inductive Call where
  | query (call : QueryCall)
  | showOptions
  | updateOptions (changes : OptionChanges)
  | describeErrors (code : Value)
deriving Repr

namespace Session

/-- The data about some error codes. -/
def catalogData (entries : List ErrorDocumentation) : Value :=
  .record
    [("count", .ofNat entries.length),
      ("errors", .list (entries.map ErrorDocumentation.toValue))]

/-- The words for all error codes, in order. -/
def errorWords : List String :=
  (ErrorCode.all.map ErrorCode.word).mergeSort Text.atMost

/-- The documentation of one error code, or of all when none is named. -/
def errorData (code : Value) : Except Failure Value :=
  match code with
  | .null => .ok (catalogData ErrorDocumentation.catalog)
  | .text word =>
    if Text.isBlankText word then
      .ok (catalogData ErrorDocumentation.catalog)
    else
      match ErrorDocumentation.ofWord? (Text.trim word) with
      | some entry => .ok (catalogData [entry])
      | none =>
        .error
          (.reported
            (.invalidArgument "code" ("unknown error code '" ++ word ++ "'")
              [("available", .ofTexts errorWords)]))
  | other => .error (.crashed (.lacking other.formWord "strip"))

/-- Describes error codes. -/
def describeErrors
    (requestId : String)
    (code : Value) : Envelope :=
  conclude requestId ((errorData code).bind (envelopeOf OperationKind.errorCatalog.word))

/-- Answers a call. -/
def answer
    (session : Session)
    (requestId : String) : Call → Envelope × Session
  | .query call => session.answerQuery requestId call
  | .showOptions => (session.showOptions requestId, session)
  | .updateOptions changes => session.updateOptions requestId changes
  | .describeErrors code => (describeErrors requestId code, session)

end Session

/-!
## Operations

An operation makes a call from arguments under names.  Which names it needs and which it takes is
fixed; the values under them are looked at when the call is answered, all but the kind of the
members to list, which decides what the call is.
-/

/-- The operations. -/
inductive Operation where
  | listTypes
  | listMembers
  | listAllMembers
  | findMember (view : NameView)
  | describeType (view : TypeView)
  | showOptions
  | updateOptions
  | describeErrors
deriving Repr, DecidableEq

namespace Operation

/-- The name of an operation. -/
def name : Operation → String
  | .listTypes => "list_types"
  | .listMembers => "list_members"
  | .listAllMembers => "list_all_members"
  | .findMember view => view.callName
  | .describeType view => view.callName
  | .showOptions => "get_runtime_options"
  | .updateOptions => "update_runtime_options"
  | .describeErrors => "describe_errors"

/-- All operations. -/
def all : List Operation :=
  [.listTypes, .listMembers, .listAllMembers, .findMember .lookup, .findMember .documentation] ++
    TypeView.all.map .describeType ++ [.showOptions, .updateOptions, .describeErrors]

/-- The operation with a name. -/
def ofName? (name : String) : Option Operation :=
  all.find? fun operation => operation.name == name

/-- The names of the arguments that an operation needs. -/
def neededNames : Operation → List String
  | .listTypes => ["module_path"]
  | .listMembers => ["member_kind", "module_path", "type_name"]
  | .listAllMembers | .describeType _ => ["module_path", "type_name"]
  | .findMember _ => ["module_path", "type_name", "member_name"]
  | .showOptions | .updateOptions | .describeErrors => []

/-- The names of the arguments that an operation takes but does not need. -/
def optionalNames : Operation → List String
  | .listTypes | .listMembers | .listAllMembers | .findMember _ => ["options", "no_cache"]
  | .describeType _ => ["case_sensitive", "no_cache"]
  | .showOptions => []
  | .updateOptions =>
    ["default_page_size", "page_size_overrides", "cache_ttl_seconds",
      "include_non_public_by_default", "add_search_roots", "remove_search_roots"]
  | .describeErrors => ["code"]

/-- Whether the names of arguments are those that an operation needs and takes. -/
def accepts
    (operation : Operation)
    (given : List (Key × Value)) : Bool :=
  operation.neededNames.all (fun name => (Value.lookup? given name).isSome) &&
    given.all fun entry =>
      (operation.neededNames ++ operation.optionalNames).any fun name => entry.1 == Key.text name

/-- The value of an argument, or nothing. -/
def argument
    (given : List (Key × Value))
    (name : String) : Value :=
  (Value.lookup? given name).getD .null

/-- The changes of options that arguments ask for. -/
def changesOf (given : List (Key × Value)) : OptionChanges :=
  ⟨argument given "default_page_size", argument given "page_size_overrides",
    argument given "cache_ttl_seconds", argument given "include_non_public_by_default",
    argument given "add_search_roots", argument given "remove_search_roots"⟩

/-- The call that an operation makes of accepted arguments. -/
def callOf
    (given : List (Key × Value)) : Operation → Except Crash Call
  | .listTypes => query (.types (argument given "options"))
  | .listMembers =>
    (MemberKind.ofValue (argument given "member_kind")).bind fun kind =>
      query (.members (.ofKind kind) (argument given "type_name") (argument given "options"))
  | .listAllMembers =>
    query (.members .all (argument given "type_name") (argument given "options"))
  | .findMember view =>
    query
      (.named view (argument given "type_name") (argument given "member_name")
        (argument given "options"))
  | .describeType view =>
    query
      (.type view (argument given "type_name")
        ((Value.lookup? given "case_sensitive").getD (.bool true)))
  | .showOptions => .ok .showOptions
  | .updateOptions => .ok (.updateOptions (changesOf given))
  | .describeErrors => .ok (.describeErrors (argument given "code"))
where
  query (query : Query) : Except Crash Call :=
    .ok
      (.query
        ⟨argument given "module_path", query, (argument given "no_cache").isSomething⟩)

/-- The call of the operation with a name. -/
def callOfName
    (name : String)
    (given : List (Key × Value)) : Except Crash Call :=
  match ofName? name with
  | none => .error ⟨.missingAttribute, "no operation is called '" ++ name ++ "'"⟩
  | some operation =>
    if operation.accepts given then
      operation.callOf given
    else
      .error ⟨.wrongType, name ++ "() got unexpected arguments or lacks needed ones"⟩

end Operation

end TypeCatalog
