import TypeCatalog.Report.Error

namespace TypeCatalog

/-!
# The error catalog

What each error code means, what leads to it and what a caller can do.  No error goes away when the
same call is repeated.
-/

/-- The documentation of an error code. -/
structure ErrorDocumentation where
  code : ErrorCode
  category : String
  description : String
  causes : List String
  remediation : List String
deriving Repr, DecidableEq

namespace ErrorDocumentation

/-- The documentation of a code. -/
def ofCode : ErrorCode → ErrorDocumentation
  | .moduleNotFound =>
    ⟨.moduleNotFound, "lookup",
      "The module path does not resolve to a readable module.",
      ["Path is misspelled or relative to a different working directory",
        "Module is not under any configured search root"],
      ["Pass an absolute module path",
        "Add the containing directory with update_runtime_options add_search_roots"]⟩
  | .typeNotFound =>
    ⟨.typeNotFound, "lookup",
      "No type in the module matches the requested name.",
      ["Name is missing its namespace and is ambiguous or misspelled",
        "Case differs and case_sensitive is true",
        "Type lives in a different module"],
      ["List types with list_types and copy the full_name",
        "Use either Outer.Inner or Outer+Inner for nested types",
        "Retry with case_sensitive=false"]⟩
  | .memberNotFound =>
    ⟨.memberNotFound, "lookup",
      "The type has no member with the requested name under the given filters.",
      ["Member is non-public and include_non_public is false",
        "Member is inherited and declared_only is true"],
      ["List members with list_all_members to see available names",
        "Set include_non_public or include_inherited"]⟩
  | .invalidArgument =>
    ⟨.invalidArgument, "validation",
      "A parameter value is out of range or not supported by the operation.",
      ["max_items outside 1..1000 or negative skip",
        "sort_by key not supported for this listing",
        "Empty module path or type name"],
      ["Check details.argument and details.reason and fix that parameter"]⟩
  | .invalidContinuationToken =>
    ⟨.invalidContinuationToken, "paging",
      "The continuation token is malformed or was issued for a different query.",
      ["Filter, sort, type or page-size parameters changed between pages",
        "Token was truncated or edited",
        "Module changed on disk since the token was issued"],
      ["Repeat the exact parameters of the call that returned the token",
        "Start again from the first page without a token"]⟩
  | .responseTooLarge =>
    ⟨.responseTooLarge, "size",
      "The rendered response exceeds the hard size ceiling.",
      ["A single item is larger than the ceiling on its own",
        "Type descriptor with very many nested types or attributes"],
      ["Use a listing operation with a smaller max_items",
        "Narrow the result with name_contains or has_attribute_contains"]⟩
  | .internalError =>
    ⟨.internalError, "system",
      "An unexpected failure occurred while handling the call.",
      ["Unreadable or corrupt module metadata",
        "Bug in typelens"],
      ["Check the server log for the request_id in the error details"]⟩

/-- The whole catalog. -/
def catalog : List ErrorDocumentation :=
  ErrorCode.all.map ofCode

/-- The documentation of the code with a word. -/
def ofWord? (word : String) : Option ErrorDocumentation :=
  (ErrorCode.ofWord? word).map ofCode

/-- An entry of the catalog as a value. -/
def toValue (entry : ErrorDocumentation) : Value :=
  .record
    [("code", .text entry.code.word), ("category", .text entry.category),
      ("description", .text entry.description), ("causes", .ofTexts entry.causes),
      ("remediation", .ofTexts entry.remediation), ("retryable", .bool false)]

end ErrorDocumentation

end TypeCatalog
