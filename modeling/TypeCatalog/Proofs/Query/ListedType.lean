import Mathlib.Data.List.Nodup
import TypeCatalog.Answer.Listing
import TypeCatalog.Answer.TypeView
import TypeCatalog.Proofs.Query.Selection
import TypeCatalog.Proofs.Source.ReadingOrder
import TypeCatalog.Proofs.Text.Words

namespace TypeCatalog

/-!
# Listed types and their views

Where full names tell the types of a module apart, the full name of a listed type means that type.
All views are made of its one definition, and they show it as it is listed.
-/

/-- A module whose types are told apart by their full names, which have no blanks around them. -/
structure ModuleDefinition.Named (definition : ModuleDefinition) : Prop where
  distinct : (definition.allTypes.map TypeDefinition.fullName).Nodup
  trimmed : ∀ type ∈ definition.allTypes, Text.Trimmed type.fullName.toList

namespace TypeDefinition

/-- A full name that one type alone has is found before any name that only means the type. -/
theorem findAmong?_fullName
    {candidates : List TypeDefinition}
    {type : TypeDefinition}
    (distinct : (candidates.map fullName).Nodup)
    (member : type ∈ candidates) :
    findAmong? candidates type.fullName true = some type := by
  have byFullName :
      (candidates.find? fun other => other.fullName == type.fullName) = some type := by
    induction candidates with
    | nil =>
        cases member
    | cons first rest inductionHypothesis =>
        rw [List.map_cons, List.nodup_cons] at distinct
        rcases List.mem_cons.mp member with rfl | inRest
        · rw [List.find?_cons_of_pos (by simp)]
        · have otherName : first.fullName ≠ type.fullName :=
            fun sameName => distinct.1 (sameName ▸ List.mem_map_of_mem inRest)
          rw [List.find?_cons_of_neg (by simpa using otherName)]
          exact inductionHypothesis distinct.2 inRest
  have wayOne :
      (candidates.find? fun other =>
        Text.foldFor true other.fullName == Text.foldFor true type.fullName) = some type :=
    byFullName
  rw [findAmong?, wayOne]
  rfl

/-- Where full names tell types apart, a full name means its type. -/
theorem find_fullName
    {types : List TypeDefinition}
    {type : TypeDefinition}
    (distinct : (types.map fullName).Nodup)
    (member : type ∈ types)
    (trimmed : Text.Trimmed type.fullName.toList) :
    find types type.fullName true = .found type := by
  have notEmpty : ¬ type.fullName.isEmpty = true := by
    intro isEmpty
    apply trimmed.ne_nil
    rw [String.isEmpty_iff.mp isEmpty]
    rfl
  have found : findAmong? (sortByFullName types) type.fullName true = some type := by
    apply findAmong?_fullName
    · exact ((List.mergeSort_perm _ _).map fullName).nodup_iff.mpr distinct
    · exact List.mem_mergeSort.mpr member
  simp only [find, trimmed.trim_eq, if_neg notEmpty, found]

end TypeDefinition

/-- In a module whose types are told apart, the full name of a type means that type. -/
theorem OpenModule.type_fullName
    {path : String}
    {definition : ModuleDefinition}
    {type : TypeDefinition}
    (named : definition.Named)
    (member : type ∈ definition.allTypes) :
    (⟨path, definition, .ordinary⟩ : OpenModule).type type.fullName true = .ok type := by
  have found := TypeDefinition.find_fullName named.distinct member (named.trimmed type member)
  let opened : OpenModule := ⟨path, definition, .ordinary⟩
  have readable : opened.mode ≠ .failing :=
    nofun
  have inOrder : opened.inReadingOrder opened.definition.allTypes = definition.allTypes :=
    rfl
  rw [type_of_readable readable, inOrder, found]

namespace Answer

/-- A type that is listed is one of the module that can be described. -/
theorem exists_type_of_arrangedTypes
    {path : String}
    {definition : ModuleDefinition}
    {options : FilterOptions}
    {visibility : Visibility}
    {items : List TypeDescriptor}
    {item : TypeDescriptor}
    (arranged : arrangedTypes ⟨path, definition, .ordinary⟩ options visibility = .ok items)
    (member : item ∈ items) :
    ∃ type ∈ definition.allTypes,
      item = TypeDescriptor.describe definition.name type ∧ type.describeFault? = none := by
  obtain ⟨types, typesAre, arranged⟩ := Failure.exists_of_bind_eq_ok arranged
  cases typesAre
  obtain ⟨_, passed, sorted⟩ := Failure.exists_of_bind_eq_ok arranged
  have describable := Failure.eq_none_of_unlessCrash passed
  have beforeSorting := (Listing.perm_of_sortItems sorted).mem_iff.mp member
  have beforeFilters := List.mem_of_mem_filter (List.mem_of_mem_filter beforeSorting)
  obtain ⟨type, isShown, rfl⟩ := List.mem_map.mp beforeFilters
  exact ⟨type, List.mem_of_mem_filter isShown, rfl,
    List.findSome?_eq_none_iff.mp describable type isShown⟩

/-- The data of a view of a type of a module. -/
def viewData
    (view : TypeView)
    (path : String)
    (definition : ModuleDefinition)
    (type : TypeDefinition) : Value :=
  .record
    (("module_path", .text path) :: viewFields view definition.name definition.allTypes type)

/-- A view under the full name of a type is made of that type, unless something that it shows
cannot be described. -/
theorem typeView_fullName
    {path : String}
    {definition : ModuleDefinition}
    {type : TypeDefinition}
    (named : definition.Named)
    (member : type ∈ definition.allTypes)
    (view : TypeView) :
    typeView view type.fullName true ⟨path, definition, .ordinary⟩ =
      (Failure.unlessCrash (viewFault? view definition.allTypes type)).map fun _ =>
        viewData view path definition type := by
  rw [typeView, OpenModule.type_fullName named member]
  change (Failure.unlessCrash (viewFault? view definition.allTypes type) >>= _) = _
  cases Failure.unlessCrash (viewFault? view definition.allTypes type) <;> rfl

/-- Why a base type that the hierarchy of a type shows cannot be described. -/
def baseFault?
    (definition : ModuleDefinition)
    (type : TypeDefinition) : Option Crash :=
  (chainBases (chainOf definition.allTypes type)).findSome? TypeDefinition.describeFault?

/-- Of a type that can be described, all views can be made but its hierarchy. -/
theorem viewFault?_of_describable
    {definition : ModuleDefinition}
    {type : TypeDefinition}
    (describable : type.describeFault? = none)
    (view : TypeView) :
    viewFault? view definition.allTypes type =
      match view with
      | .hierarchy => baseFault? definition type
      | _ => none := by
  unfold viewFault?
  rw [describable]
  cases view <;> rfl

end Answer

/-- The field under a name in the data of an answer. -/
def Envelope.shown?
    (name : String) : Envelope → Option Value
  | .success _ data => data.field? name
  | .failure _ => none

/-- Whether an answer about a type shows the type of a listed item as the item does.  The view of
the type itself has all fields of the item and only the nested types besides.  The other views have
its full name, and the fields that an item has too are the same. -/
def Envelope.ShowsListed
    (answer : Envelope)
    (view : TypeView)
    (item : Value) : Prop :=
  match view with
  | .info =>
    ∃ shown,
      answer.shown? "type" = some shown ∧
        ∀ name ≠ "nested_types", shown.field? name = item.field? name
  | _ =>
    answer.shown? "type_name" = item.field? "full_name" ∧
      ∀ name, answer.shown? name = none ∨ item.field? name = none ∨
        answer.shown? name = item.field? name

namespace TypeDescriptor

@[simp] theorem fullName_describe
    (moduleName : String)
    (type : TypeDefinition) :
    (describe moduleName type).fullName = type.fullName := by
  cases type
  rw [describe, describeWithin]
  rfl

private theorem ownNames_nodup (descriptor : TypeDescriptor) :
    (descriptor.ownFields.map Prod.fst).Nodup :=
  (by decide :
    ["full_name", "name", "namespace", "kind", "accessibility", "module", "is_abstract",
      "is_sealed", "is_static", "is_generic", "is_nested", "declaring_type", "base_type",
      "interfaces", "attributes", "generic_parameters"].Nodup)

theorem field?_settled_toOwnValue
    (descriptor : TypeDescriptor)
    (name : String) :
    (Json.settled descriptor.toOwnValue).field? name =
      (descriptor.ownFields.lookup name).map Json.settled :=
  Json.field?_settled_record descriptor.ownNames_nodup name

theorem toValue_eq (descriptor : TypeDescriptor) :
    descriptor.toValue =
      .record
        (descriptor.ownFields ++
          [("nested_types", .list (listToValue descriptor.nestedTypes))]) := by
  cases descriptor
  rw [toValue]

/-- With its nested types a type is shown as without them, but for these. -/
theorem field?_settled_toValue
    {name : String}
    (notNested : name ≠ "nested_types")
    (descriptor : TypeDescriptor) :
    (Json.settled descriptor.toValue).field? name =
      (Json.settled descriptor.toOwnValue).field? name := by
  have distinct :
      ((descriptor.ownFields ++
        [("nested_types", Value.list (listToValue descriptor.nestedTypes))]).map
          Prod.fst).Nodup :=
    (by decide :
      ["full_name", "name", "namespace", "kind", "accessibility", "module", "is_abstract",
        "is_sealed", "is_static", "is_generic", "is_nested", "declaring_type", "base_type",
        "interfaces", "attributes", "generic_parameters", "nested_types"].Nodup)
  have notLast :
      [("nested_types", Value.list (listToValue descriptor.nestedTypes))].lookup name = none := by
    rw [List.lookup_cons, beq_eq_false_iff_ne.mpr notNested]
    rfl
  rw [toValue_eq, Json.field?_settled_record distinct, field?_settled_toOwnValue,
    List.lookup_append, notLast, Option.or_none]

end TypeDescriptor

namespace Answer

variable {path : String} {definition : ModuleDefinition} {type : TypeDefinition}

private theorem viewNames_nodup (view : TypeView) :
    ((("module_path", Value.text path) ::
      viewFields view definition.name definition.allTypes type).map Prod.fst).Nodup := by
  cases view with
  | info =>
      exact (by decide : ["module_path", "type"].Nodup)
  | hierarchy =>
      exact (by decide :
        ["module_path", "type_name", "base_type", "inheritance_chain", "base_types", "interfaces",
          "derived_types"].Nodup)
  | generics =>
      exact (by decide :
        ["module_path", "type_name", "is_generic", "is_generic_definition", "arity",
          "generic_parameters"].Nodup)
  | attributes =>
      exact (by decide : ["module_path", "type_name", "count", "attributes"].Nodup)
  | nested =>
      exact (by decide : ["module_path", "type_name", "count", "nested_types"].Nodup)
  | documentation =>
      exact (by decide : ["module_path", "type_name", "has_docs", "docs"].Nodup)

private theorem shown?_viewData
    (view : TypeView)
    (kind name : String) :
    (Envelope.success kind (Json.settled (viewData view path definition type))).shown? name =
      ((("module_path", Value.text path) ::
        viewFields view definition.name definition.allTypes type).lookup name).map
          Json.settled :=
  Json.field?_settled_record (viewNames_nodup view) name

private theorem lookup_ownFields_of_view
    {view : TypeView}
    {field : String × Value}
    (notInfo : view ≠ .info)
    (member :
      field ∈
        ("module_path", Value.text path) ::
          viewFields view definition.name definition.allTypes type) :
    let own := (TypeDescriptor.describe definition.name type).ownFields
    own.lookup field.1 = none ∨ own.lookup field.1 = some field.2 := by
  intro own
  rcases List.mem_cons.mp member with rfl | inView
  · exact .inl rfl
  cases view with
  | info =>
      exact absurd rfl notInfo
  | hierarchy =>
      simp only [viewFields, List.mem_cons, List.not_mem_nil, or_false] at inView
      rcases inView with rfl | rfl | rfl | rfl | rfl | rfl
      · exact .inl rfl
      · exact .inr rfl
      · exact .inl rfl
      · exact .inl rfl
      · exact .inr rfl
      · exact .inl rfl
  | generics =>
      simp only [viewFields, List.mem_cons, List.not_mem_nil, or_false] at inView
      rcases inView with rfl | rfl | rfl | rfl | rfl
      · exact .inl rfl
      · exact .inr rfl
      · exact .inl rfl
      · exact .inl rfl
      · exact .inr rfl
  | attributes =>
      simp only [viewFields, List.mem_cons, List.not_mem_nil, or_false] at inView
      rcases inView with rfl | rfl | rfl
      · exact .inl rfl
      · exact .inl rfl
      · exact .inr rfl
  | nested | documentation =>
      simp only [viewFields, List.mem_cons, List.not_mem_nil, or_false] at inView
      rcases inView with rfl | rfl | rfl <;> exact .inl rfl

/-- The data of a view of a type show it as a listing does. -/
theorem showsListed_viewData
    (view : TypeView)
    (kind : String) :
    (Envelope.success kind
      (Json.settled (viewData view path definition type))).ShowsListed view
        (Json.settled (TypeDescriptor.describe definition.name type).toOwnValue) := by
  have fieldsAgree (notInfo : view ≠ .info) (name : String) :
      let answer :=
        Envelope.success kind (Json.settled (viewData view path definition type))
      let item := Json.settled (TypeDescriptor.describe definition.name type).toOwnValue
      answer.shown? name = none ∨ item.field? name = none ∨
        answer.shown? name = item.field? name := by
    intro answer item
    rw [shown?_viewData, TypeDescriptor.field?_settled_toOwnValue]
    cases found :
        (("module_path", Value.text path) ::
          viewFields view definition.name definition.allTypes type).lookup name with
    | none =>
        exact .inl rfl
    | some value =>
        obtain ⟨_, _, fieldsAre, _⟩ := List.lookup_eq_some_iff.mp found
        have member :
            (name, value) ∈
              ("module_path", Value.text path) ::
                viewFields view definition.name definition.allTypes type := by
          rw [fieldsAre]
          exact List.mem_append_right _ List.mem_cons_self
        rcases lookup_ownFields_of_view notInfo member with notOwn | own
        · rw [notOwn]
          exact .inr (.inl rfl)
        · rw [own]
          exact .inr (.inr rfl)
  cases view with
  | info =>
      exact ⟨_, shown?_viewData .info kind "type",
        fun name notNested => TypeDescriptor.field?_settled_toValue notNested _⟩
  | hierarchy | generics | attributes | nested | documentation =>
      refine ⟨?_, fieldsAgree nofun⟩
      rw [shown?_viewData, TypeDescriptor.field?_settled_toOwnValue]
      rfl

end Answer

end TypeCatalog
