import TypeCatalog.Answer.Kind
import TypeCatalog.Describe.Fault
import TypeCatalog.Source.ModuleSource

namespace TypeCatalog.Answer

/-!
# Views of a type

The data of answers about one type.  The hierarchy follows base types while they are in the module
and stops at a type that it has met before.
-/

/-- The type with a full name; of several the last one. -/
def typeNamed?
    (types : List TypeDefinition)
    (fullName : String) : Option TypeDefinition :=
  types.reverse.find? fun type => type.fullName == fullName

/-- A base type: its full name, the type itself if the module has it, and whether it is met for the
first time. -/
structure ChainLink where
  fullName : String
  base? : Option TypeDefinition
  isNew : Bool
deriving Repr

/-- The base types of a type from the nearest one on, up to one that is not in the module or was met
before.  Each further step meets a new type, so there are at most as many steps as types. -/
def inheritanceChain
    (types : List TypeDefinition)
    (met : List String)
    (current : TypeDefinition) : Nat → List ChainLink
  | 0 => []
  | fuel + 1 =>
    match current.baseType? with
    | none => []
    | some reference =>
      match typeNamed? types reference.fullName with
      | none => [⟨reference.fullName, none, true⟩]
      | some base =>
        if met.contains base.fullName then
          [⟨reference.fullName, some base, false⟩]
        else
          ⟨reference.fullName, some base, true⟩ ::
            inheritanceChain types (base.fullName :: met) base fuel

/-- The base types of a type. -/
def chainOf
    (types : List TypeDefinition)
    (type : TypeDefinition) : List ChainLink :=
  inheritanceChain types [type.fullName] type (types.length + 1)

/-- The types with a given type as base type, in the order of their names. -/
def derivedTypes
    (types : List TypeDefinition)
    (type : TypeDefinition) : List String :=
  ((types.filter fun other =>
    other.baseType?.any fun reference => reference.fullName == type.fullName).map
      TypeDefinition.fullName).mergeSort Text.atMost

/-- A link of a chain as a value. -/
def linkValue (link : ChainLink) : Value :=
  .record [("full_name", .text link.fullName), ("in_module", .bool link.base?.isSome)]

/-- The base types of a chain that are in the module, each once. -/
def chainBases (chain : List ChainLink) : List TypeDefinition :=
  chain.filterMap fun link => if link.isNew then link.base? else none

/-- The fields of a view of a type. -/
def viewFields
    (view : TypeView)
    (moduleName : String)
    (types : List TypeDefinition)
    (type : TypeDefinition) : List (String × Value) :=
  let descriptor := TypeDescriptor.describe moduleName type
  let name : String × Value := ("type_name", .text descriptor.fullName)
  match view with
  | .info => [("type", descriptor.toValue)]
  | .hierarchy =>
    let chain := chainOf types type
    [name, ("base_type", .ofText? descriptor.baseType?),
      ("inheritance_chain", .list (chain.map linkValue)),
      ("base_types",
        .list ((chainBases chain).map fun base =>
          (TypeDescriptor.describe moduleName base).toOwnValue)),
      ("interfaces", .ofTexts descriptor.interfaces),
      ("derived_types", .ofTexts (derivedTypes types type))]
  | .generics =>
    [name, ("is_generic", .bool descriptor.isGeneric),
      ("is_generic_definition", .bool type.isGenericDefinition),
      ("arity", .ofNat descriptor.genericParameters.length),
      ("generic_parameters",
        .list (descriptor.genericParameters.map GenericParameterDescriptor.toValue))]
  | .attributes =>
    [name, ("count", .ofNat descriptor.attributes.length),
      ("attributes", .list (descriptor.attributes.map AttributeDescriptor.toValue))]
  | .nested =>
    [name, ("count", .ofNat descriptor.nestedTypes.length),
      ("nested_types", .list (TypeDescriptor.listToValue descriptor.nestedTypes))]
  | .documentation =>
    [name, ("has_docs", .bool descriptor.docs?.isSome),
      ("docs", DocsDescriptor.optionToValue descriptor.docs?)]

/-- Why a view of a type cannot be made: the type, or in a hierarchy one of its base types, cannot
be described. -/
def viewFault?
    (view : TypeView)
    (types : List TypeDefinition)
    (type : TypeDefinition) : Option Crash :=
  type.describeFault?.or
    (match view with
    | .hierarchy => (chainBases (chainOf types type)).findSome? TypeDefinition.describeFault?
    | _ => none)

/-- A view of a type. -/
def typeView
    (view : TypeView)
    (typeName : String)
    (caseSensitive : Bool)
    (opened : OpenModule) : Except Failure Value := do
  let type ← opened.type typeName caseSensitive
  let types ← opened.types
  Failure.unlessCrash (viewFault? view types type)
  return .record
    (("module_path", .text opened.path) :: viewFields view opened.name types type)

end TypeCatalog.Answer
