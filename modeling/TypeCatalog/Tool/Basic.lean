import TypeCatalog.Json.Printer
import TypeCatalog.Log.Event
import TypeCatalog.Session.Operation
import TypeCatalog.Tool.Parameter

namespace TypeCatalog

/-!
# Tools

Tools are the calls under fixed names with arguments that are checked before the call.  A call of a
tool is answered with an envelope, whatever its arguments are.
-/

/-- A tool. -/
inductive Tool where
  | listTypes
  | describeType (view : TypeView)
  | listMembers (selection : MemberSelection)
  | findMember (view : NameView)
  | showOptions
  | updateOptions
  | describeError
deriving Repr, DecidableEq

namespace Tool

/-- The name of a tool. -/
def name : Tool → String
  | .listTypes => "list_types"
  | .describeType view => view.callName
  | .listMembers .all => "list_all_members"
  | .listMembers (.ofKind kind) => "list_" ++ (MemberSelection.ofKind kind).word
  | .findMember view => view.callName
  | .showOptions => "get_runtime_options"
  | .updateOptions => "update_runtime_options"
  | .describeError => "describe_error"

/-- All tools. -/
def all : List Tool :=
  [.listTypes] ++ TypeView.all.map .describeType ++ MemberSelection.every.map .listMembers ++
    [.findMember .lookup, .findMember .documentation, .showOptions, .updateOptions, .describeError]

/-- The tool with a name. -/
def ofName? (name : String) : Option Tool :=
  all.find? fun tool => tool.name == name

/-! ## Parameters -/

/-- The parameter for the path of a module. -/
def modulePath : Parameter :=
  .requiredText "module_path"

/-- The parameter for the name of a type. -/
def typeName : Parameter :=
  .requiredText "type_name"

/-- Whether names are compared with regard to case. -/
def caseSensitive : Parameter :=
  .truth "case_sensitive" true

/-- Whether the cache is left out. -/
def noCache : Parameter :=
  .truth "no_cache" false

/-- The parameters that filter, sort and page a listing. -/
def listingParameters : List Parameter :=
  [caseSensitive, .optionalText "name_contains", .optionalText "has_attribute_contains",
    .optionalWord "sort_by" (SortKey.all.map SortKey.word),
    .optionalWord "sort_order" (SortOrder.all.map SortOrder.word),
    .optionalOf "skip" (Schema.wholeFrom 0) .int,
    .optionalOf "max_items" (Schema.wholeBetween 1 Limits.maximumPageSize) .int,
    .optionalText "continuation_token", noCache]

/-- The parameters of a tool. -/
def parameters : Tool → List Parameter
  | .listTypes =>
    [modulePath, .optionalTruth "include_public", .optionalTruth "include_non_public"] ++
      listingParameters
  | .describeType _ => [modulePath, typeName, caseSensitive, noCache]
  | .listMembers _ =>
    [modulePath, typeName, .optionalTruth "include_public", .optionalTruth "include_non_public",
      .optionalTruth "include_static", .optionalTruth "include_instance",
      .optionalTruth "include_inherited", .optionalTruth "declared_only"] ++
      listingParameters
  | .findMember _ =>
    [modulePath, typeName, .requiredText "member_name", .optionalTruth "include_non_public",
      .optionalTruth "include_inherited", .optionalTruth "declared_only", caseSensitive, noCache]
  | .showOptions => []
  | .updateOptions =>
    [.optionalOf "default_page_size" (Schema.wholeBetween 1 Limits.maximumPageSize) .int,
      .optionalOf "page_size_overrides" (Schema.mappingOf Schema.whole)
        (fun sizes => .record (sizes.map fun entry => (entry.1, .int entry.2))),
      .optionalOf "cache_ttl_seconds" Schema.whole .int,
      .optionalTruth "include_non_public_by_default", .optionalTexts "add_search_roots",
      .optionalTexts "remove_search_roots"]
  | .describeError => [.optionalText "code"]

/-! ## Calls -/

open Parameter in
/-- The query of a tool with bound arguments. -/
def queryCall
    (bound : Parameter.Arguments)
    (query : Query) : Call :=
  .query ⟨argument bound "module_path", query, truthArgument bound "no_cache"⟩

open Parameter in
/-- The changes of options that bound arguments ask for. -/
def changesOf (bound : Parameter.Arguments) : OptionChanges :=
  ⟨argument bound "default_page_size", argument bound "page_size_overrides",
    argument bound "cache_ttl_seconds", argument bound "include_non_public_by_default",
    argument bound "add_search_roots", argument bound "remove_search_roots"⟩

open Parameter in
/-- The call that a tool with bound arguments makes. -/
def toCall
    (tool : Tool)
    (bound : Parameter.Arguments) : Call :=
  match tool with
  | .listTypes => queryCall bound (.types (optionsArgument bound))
  | .describeType view =>
    queryCall bound
      (.type view (argument bound "type_name") (argument bound "case_sensitive"))
  | .listMembers selection =>
    queryCall bound
      (.members selection (argument bound "type_name") (optionsArgument bound))
  | .findMember view =>
    queryCall bound
      (.named view (argument bound "type_name") (argument bound "member_name")
        (optionsArgument bound))
  | .showOptions => .showOptions
  | .updateOptions => .updateOptions (changesOf bound)
  | .describeError => .describeErrors (argument bound "code")

/-- The error for a name that no tool has. -/
def unknownTool (name : String) : ReportedError :=
  .internal ("Error calling tool '" ++ name ++ "': Unknown tool: '" ++ name ++ "'")
    [("error_type", .text CrashKind.unknownName.label)]

end Tool

/-- An envelope as the answer of a tool, in which all numbers are finite. -/
def Envelope.withFiniteData : Envelope → Envelope
  | .success kind data => .success kind (Json.finiteOnly data)
  | .failure error => .failure error

namespace Session

/-- Answers a call of a tool with arguments that were logged. -/
def answerTool
    (session : Session)
    (requestId name : String)
    (given : List (Key × Value)) : Envelope × Session :=
  match Tool.ofName? name with
  | none => (.failure (Tool.unknownTool name), session)
  | some tool =>
    match (Parameter.bindAll tool.parameters given).toExcept with
    | .error failure => (conclude requestId (.error failure), session)
    | .ok bound =>
      let answered := session.answer requestId (tool.toCall bound)
      (answered.1.withFiniteData, answered.2)

/-- Answers a call of the tool with a name.  A call that cannot be logged is not answered with an
envelope. -/
def callTool
    (session : Session)
    (requestId name : String)
    (given : List (Key × Value)) : Except String (Envelope × Session) :=
  match LogEvent.clash? given with
  | some reason => .error reason
  | none => .ok (session.answerTool requestId name given)

end Session

end TypeCatalog
