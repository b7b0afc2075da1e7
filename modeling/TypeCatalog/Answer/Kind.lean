import TypeCatalog.Metadata.Kinds

namespace TypeCatalog

/-!
# Kinds of operations

Every operation has a word, which names it in answers, in cache keys and in page size overrides.
-/

/-- What is shown of one type. -/
inductive TypeView where
  | info
  | hierarchy
  | generics
  | attributes
  | nested
  | documentation
deriving Repr, DecidableEq

namespace TypeView

/-- The word for a view. -/
def word : TypeView → String
  | .info => "info"
  | .hierarchy => "hierarchy"
  | .generics => "generic"
  | .attributes => "attributes"
  | .nested => "nested"
  | .documentation => "docs"

/-- The name under which a view is called. -/
def callName : TypeView → String
  | .info => "get_type_info"
  | .hierarchy => "get_type_hierarchy"
  | .generics => "get_generic_info"
  | .attributes => "get_type_attributes"
  | .nested => "get_nested_types"
  | .documentation => "get_type_docs"

/-- All views. -/
def all : List TypeView :=
  [.info, .hierarchy, .generics, .attributes, .nested, .documentation]

end TypeView

/-- What is shown of the members with one name. -/
inductive NameView where
  | lookup
  | documentation
deriving Repr, DecidableEq

/-- The name under which a view of members is called. -/
def NameView.callName : NameView → String
  | .lookup => "lookup_member"
  | .documentation => "get_member_docs"

/-- Which members a listing shows. -/
inductive MemberSelection where
  | ofKind (kind : MemberKind)
  | all
deriving Repr, DecidableEq

namespace MemberSelection

/-- The kinds of members in a selection. -/
def kinds : MemberSelection → List MemberKind
  | .ofKind kind => [kind]
  | .all => MemberKind.all

/-- The word for a selection. -/
def word : MemberSelection → String
  | .ofKind .method => "methods"
  | .ofKind .property => "properties"
  | .ofKind .field => "fields"
  | .ofKind .event => "events"
  | .ofKind .constructor => "constructors"
  | .all => "all"

/-- All selections. -/
def every : List MemberSelection :=
  MemberKind.all.map .ofKind ++ [.all]

end MemberSelection

/-- The kinds of operations. -/
inductive OperationKind where
  | typeList
  | type (view : TypeView)
  | members (selection : MemberSelection)
  | named (view : NameView)
  | runtimeOptions
  | errorCatalog
deriving Repr, DecidableEq

/-- The word for a kind of operation. -/
def OperationKind.word : OperationKind → String
  | .typeList => "type.list"
  | .type view => "type." ++ view.word
  | .members selection => "member." ++ selection.word
  | .named .lookup => "member.lookup"
  | .named .documentation => "member.docs"
  | .runtimeOptions => "runtime.options"
  | .errorCatalog => "error.catalog"

end TypeCatalog
