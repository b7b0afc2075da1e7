import Mathlib.Data.List.Perm.Basic
import TypeCatalog.Answer.TypeView
import TypeCatalog.Proofs.Query.StableSorting

namespace TypeCatalog

/-!
# Nested types

A description mirrors the tree of a type and the types nested in it.  In every type the nested ones
stand by token and then by full name, without those that bear the name of the type or of a type
around it.  So no path into a description meets a name twice, and where no path into the tree does
either, the description shows each type of the tree once.

A text of an array has a mark for every dimension, so there are references without a text.  A tree
cannot be described if one of the types that would be shown has such a reference.
-/

/-- The full names along a way from a node of a tree to a node in it. -/
inductive NestingPath
    {Node : Type}
    (fullName : Node → String)
    (children : Node → List Node) : Node → List String → Prop
  | stop (node : Node) : NestingPath fullName children node [fullName node]
  | step
      {node child : Node}
      {names : List String}
      (member : child ∈ children node)
      (path : NestingPath fullName children child names) :
      NestingPath fullName children node (fullName node :: names)

namespace TypeDefinition

/-! ## Trees of types -/

mutual

/-- What holds of a type if it holds of the types nested in it holds of every type. -/
@[elab_as_elim]
theorem nestedInduction
    {motive : TypeDefinition → Prop}
    (nest : ∀ type : TypeDefinition, (∀ nested ∈ type.nestedTypes, motive nested) → motive type) :
    ∀ type, motive type
  | ⟨fullName, kind, accessibility, token, isAbstract, isSealed, isGenericDefinition,
      declaringType?, baseType?, interfaces, attributes, genericParameters, members, docs?,
      nestedTypes⟩ =>
    nest
      ⟨fullName, kind, accessibility, token, isAbstract, isSealed, isGenericDefinition,
        declaringType?, baseType?, interfaces, attributes, genericParameters, members, docs?,
        nestedTypes⟩
      (nestedInduction_mem nest nestedTypes)

theorem nestedInduction_mem
    {motive : TypeDefinition → Prop}
    (nest : ∀ type : TypeDefinition, (∀ nested ∈ type.nestedTypes, motive nested) → motive type) :
    ∀ types : List TypeDefinition, ∀ type ∈ types, motive type
  | [] => nofun
  | type :: rest =>
    List.forall_mem_cons.mpr ⟨nestedInduction nest type, nestedInduction_mem nest rest⟩

end

theorem flattenAll_eq_flatMap (types : List TypeDefinition) :
    flattenAll types = types.flatMap flatten := by
  induction types with
  | nil =>
      rfl
  | cons type rest inductionHypothesis =>
      rw [flattenAll, inductionHypothesis, List.flatMap_cons]

theorem flatten_eq (type : TypeDefinition) :
    type.flatten = type :: type.nestedTypes.flatMap flatten := by
  cases type
  rw [flatten, flattenAll_eq_flatMap]

/-- The full names along a way from a type to a type nested in it at any depth. -/
def Path (type : TypeDefinition) (names : List String) : Prop :=
  NestingPath fullName nestedTypes type names

/-! ## The nested types that are shown -/

/-- Whether a type stands before another that is nested in the same type: by token, then by full
name. -/
def StandsBefore (one other : TypeDefinition) : Prop :=
  one.token < other.token ∨ one.token = other.token ∧ one.fullName ≤ other.fullName

theorem standsBefore_iff (one other : TypeDefinition) :
    one.StandsBefore other ↔ one.siblingKey.atMost other.siblingKey = true := by
  rw [Text.RankKey.atMost_iff, StandsBefore, le_iff_lt_or_eq]
  simp only [Text.RankKey.parts, siblingKey, Prod.Lex.toLex_le_toLex, le_refl, and_true]

/-- The types nested in a type that are shown in it where it stands inside types with the given
names, in the order in which they are shown. -/
structure ShowsNested
    (outer : List String)
    (type : TypeDefinition)
    (shown : List TypeDefinition) : Prop where
  perm :
    shown.Perm (type.nestedTypes.filter fun nested => nested.fullName ∉ type.fullName :: outer)
  sorted : shown.Pairwise StandsBefore
  stable : ∀ token fullName,
    (shown.filter fun nested => nested.token = token ∧ nested.fullName = fullName) =
      (type.nestedTypes.filter fun nested => nested.fullName ∉ type.fullName :: outer).filter
        fun nested => nested.token = token ∧ nested.fullName = fullName

theorem ShowsNested.mem_iff
    {outer : List String}
    {type nested : TypeDefinition}
    {shown : List TypeDefinition}
    (shows : type.ShowsNested outer shown) :
    nested ∈ shown ↔ nested ∈ type.nestedTypes ∧ nested.fullName ∉ type.fullName :: outer := by
  rw [shows.perm.mem_iff, List.mem_filter, decide_eq_true_eq]

/-- The types nested in a type that bear no name of the type or of a type around it, sorted. -/
def shownNested
    (outer : List String)
    (type : TypeDefinition) : List TypeDefinition :=
  (type.nestedTypes.filter fun nested => nested.fullName ∉ type.fullName :: outer).mergeSort
    fun one other => one.siblingKey.atMost other.siblingKey

theorem showsNested_shownNested
    (outer : List String)
    (type : TypeDefinition) :
    type.ShowsNested outer (type.shownNested outer) := by
  have transitive : ∀ one two three : TypeDefinition,
      one.siblingKey.atMost two.siblingKey = true → two.siblingKey.atMost three.siblingKey = true →
        one.siblingKey.atMost three.siblingKey = true :=
    fun _ _ _ => Text.RankKey.atMost_trans
  have total : ∀ one other : TypeDefinition,
      (one.siblingKey.atMost other.siblingKey || other.siblingKey.atMost one.siblingKey) = true :=
    fun _ _ => Text.RankKey.atMost_total _ _
  refine ⟨List.mergeSort_perm _ _, ?_, ?_⟩
  · exact (List.pairwise_mergeSort transitive total _).imp (standsBefore_iff _ _).mpr
  · intro token fullName
    rw [shownNested, Sorting.filter_mergeSort transitive total]
    -- Types with one token and one full name are in order as they are listed.
    apply List.mergeSort_of_pairwise
    refine List.pairwise_of_forall_mem_list fun one oneMember other otherMember => ?_
    have oneIs := of_decide_eq_true (List.mem_filter.mp oneMember).2
    have otherIs := of_decide_eq_true (List.mem_filter.mp otherMember).2
    exact (standsBefore_iff one other).mp
      (.inr ⟨oneIs.1.trans otherIs.1.symm, (oneIs.2.trans otherIs.2.symm).le⟩)

/-- Whether the description of a type that stands inside types with the given names shows another
type: the type itself, or one that is shown in a nested type. -/
inductive Shows : List String → TypeDefinition → TypeDefinition → Prop
  | itself (outer : List String) (type : TypeDefinition) : Shows outer type type
  | inside
      {outer : List String}
      {type nested found : TypeDefinition}
      (member : nested ∈ type.nestedTypes)
      (unmet : nested.fullName ∉ type.fullName :: outer)
      (shows : Shows (type.fullName :: outer) nested found) :
      Shows outer type found

/-! ## What cannot be described -/

/-- The references of a type of which its description shows the texts. -/
def shownReferences (type : TypeDefinition) : List TypeRef :=
  type.baseType?.toList ++ type.interfaces ++
    (GenericParameterDescriptor.inOrder type.genericParameters).flatMap
      GenericParameterFact.constraints

end TypeDefinition

theorem TypeRef.elementFault?_eq_findSome? (element? : Option TypeRef) :
    elementFault? element? = element?.toList.findSome? textFault? := by
  cases element? with
  | none =>
      rfl
  | some element =>
      rw [elementFault?, Option.toList_some, List.findSome?_singleton]

theorem TypeRef.argumentFault?_eq_findSome? (arguments : List TypeRef) :
    argumentFault? arguments = arguments.findSome? textFault? := by
  induction arguments with
  | nil =>
      rfl
  | cons argument rest inductionHypothesis =>
      rw [argumentFault?, inductionHypothesis, List.findSome?_cons]
      cases textFault? argument <;> rfl

private theorem findSome?_flatMap
    {α β γ : Type}
    (parts : α → List β)
    (result : β → Option γ)
    (items : List α) :
    (items.flatMap parts).findSome? result =
      items.findSome? fun item => (parts item).findSome? result := by
  induction items with
  | nil =>
      rfl
  | cons item rest inductionHypothesis =>
      rw [List.flatMap_cons, List.findSome?_append, inductionHypothesis, List.findSome?_cons]
      cases (parts item).findSome? result <;> rfl

namespace TypeDefinition

theorem referenceFault?_eq_findSome? (type : TypeDefinition) :
    referenceFault? type.baseType? type.interfaces type.genericParameters =
      type.shownReferences.findSome? TypeRef.textFault? := by
  rw [referenceFault?, shownReferences, List.findSome?_append, List.findSome?_append,
    TypeRef.elementFault?_eq_findSome?, TypeRef.argumentFault?_eq_findSome?,
    findSome?_flatMap]
  simp only [TypeRef.argumentFault?_eq_findSome?]

theorem nestedFaults_eq_map
    (outer : List String)
    (types : List TypeDefinition) :
    nestedFaults outer types =
      (types.filter fun type => type.fullName ∉ outer).map fun type =>
        (type.siblingKey, faultWithin? outer type) := by
  induction types with
  | nil =>
      rfl
  | cons type rest inductionHypothesis =>
      rw [nestedFaults, inductionHypothesis]
      by_cases isAround : type.fullName ∈ outer
      · rw [if_pos (List.contains_iff_mem.mpr isAround),
          List.filter_cons_of_neg (by simpa using isAround)]
      · rw [if_neg (mt List.contains_iff_mem.mp isAround),
          List.filter_cons_of_pos (by simpa using isAround), List.map_cons]

/-- A type fails to be described as the first of the types shown in it that does, else as the first
of its own references that has no text. -/
theorem faultWithin?_eq
    (outer : List String)
    (type : TypeDefinition) :
    faultWithin? outer type =
      ((type.shownNested outer).findSome? (faultWithin? (type.fullName :: outer))).or
        (type.shownReferences.findSome? TypeRef.textFault?) := by
  have sortedFaults :
      (type.shownNested outer).map
          (fun nested => (nested.siblingKey, faultWithin? (type.fullName :: outer) nested)) =
        ((type.nestedTypes.filter fun nested => nested.fullName ∉ type.fullName :: outer).map
          fun nested =>
            (nested.siblingKey, faultWithin? (type.fullName :: outer) nested)).mergeSort
          fun one other => one.1.atMost other.1 :=
    List.map_mergeSort fun _ _ _ _ => rfl
  have firstFault :
      (type.shownNested outer).findSome? (faultWithin? (type.fullName :: outer)) =
        firstSiblingFault? (nestedFaults (type.fullName :: outer) type.nestedTypes) := by
    rw [nestedFaults_eq_map, firstSiblingFault?, ← sortedFaults, List.findSome?_map]
    rfl
  rw [firstFault, ← referenceFault?_eq_findSome?]
  cases type
  rw [faultWithin?]

/-- A type can be described if each reference of each type that would be shown has a text. -/
theorem faultWithin?_eq_none_iff
    (type : TypeDefinition)
    (outer : List String) :
    faultWithin? outer type = none ↔
      ∀ found, Shows outer type found →
        ∀ reference ∈ found.shownReferences, reference.textFault? = none := by
  induction type using nestedInduction generalizing outer with
  | nest type inductionHypothesis =>
      rw [faultWithin?_eq, Option.or_eq_none_iff, List.findSome?_eq_none_iff,
        List.findSome?_eq_none_iff]
      constructor
      · rintro ⟨nestedDescribable, ownTexts⟩ found shows
        cases shows with
        | itself => exact ownTexts
        | inside member unmet shows =>
            have describable :=
              nestedDescribable _ ((showsNested_shownNested outer type).mem_iff.mpr ⟨member, unmet⟩)
            exact (inductionHypothesis _ member _).mp describable found shows
      · intro texts
        refine ⟨fun nested isShown => ?_, texts type (.itself outer type)⟩
        obtain ⟨member, unmet⟩ := (showsNested_shownNested outer type).mem_iff.mp isShown
        exact (inductionHypothesis nested member _).mpr fun found shows =>
          texts found (.inside member unmet shows)

end TypeDefinition

namespace TypeDescriptor

/-! ## Trees of descriptions -/

/-- The full names along a way from a description to one that stands in it at any depth. -/
def Path (descriptor : TypeDescriptor) (names : List String) : Prop :=
  NestingPath fullName nestedTypes descriptor names

mutual

/-- A description and all that stand in it at any depth, each without those in it. -/
def parts : TypeDescriptor → List TypeDescriptor
  | ⟨fullName, simpleName, namespaceName, kind, accessibility, moduleName, order, isAbstract,
      isSealed, isStatic, isGeneric, isNested, declaringType?, baseType?, interfaces, attributes,
      genericParameters, nestedTypes, docs?⟩ =>
    ⟨fullName, simpleName, namespaceName, kind, accessibility, moduleName, order, isAbstract,
      isSealed, isStatic, isGeneric, isNested, declaringType?, baseType?, interfaces, attributes,
      genericParameters, [], docs?⟩ :: partsOfAll nestedTypes

/-- All descriptions of a list and all that stand in them, each without those in it. -/
def partsOfAll : List TypeDescriptor → List TypeDescriptor
  | [] => []
  | descriptor :: rest => parts descriptor ++ partsOfAll rest

end

theorem partsOfAll_eq_flatMap (descriptors : List TypeDescriptor) :
    partsOfAll descriptors = descriptors.flatMap parts := by
  induction descriptors with
  | nil =>
      rfl
  | cons descriptor rest inductionHypothesis =>
      rw [partsOfAll, inductionHypothesis, List.flatMap_cons]

theorem parts_ofDefinition
    (moduleName : String)
    (type : TypeDefinition)
    (nested : List TypeDescriptor) :
    (ofDefinition moduleName type nested).parts =
      ofDefinition moduleName type [] :: nested.flatMap parts := by
  rw [← partsOfAll_eq_flatMap]
  rfl

/-- Whether a description mirrors a type that stands inside types with the given names: it shows
the type, and the descriptions in it mirror the nested types that are shown. -/
inductive Mirrors (moduleName : String) : List String → TypeDefinition → TypeDescriptor → Prop
  | node
      {outer : List String}
      {type : TypeDefinition}
      {shown : List TypeDefinition}
      (description : TypeDefinition → TypeDescriptor)
      (shows : type.ShowsNested outer shown)
      (mirrored : ∀ nested ∈ shown,
        Mirrors moduleName (type.fullName :: outer) nested (description nested)) :
      Mirrors moduleName outer type (ofDefinition moduleName type (shown.map description))

theorem describeNested_eq_map
    (moduleName : String)
    (outer : List String)
    (types : List TypeDefinition) :
    describeNested moduleName outer types =
      (types.filter fun type => type.fullName ∉ outer).map
        (describeWithin moduleName outer) := by
  induction types with
  | nil =>
      rfl
  | cons type rest inductionHypothesis =>
      rw [describeNested, inductionHypothesis]
      by_cases isAround : type.fullName ∈ outer
      · rw [if_pos (List.contains_iff_mem.mpr isAround),
          List.filter_cons_of_neg (by simpa using isAround)]
      · rw [if_neg (mt List.contains_iff_mem.mp isAround),
          List.filter_cons_of_pos (by simpa using isAround), List.map_cons]

theorem siblingKey_describeWithin
    (moduleName : String)
    (outer : List String)
    (type : TypeDefinition) :
    (describeWithin moduleName outer type).siblingKey = type.siblingKey := by
  cases type
  rw [describeWithin]
  rfl

/-- A description, with the descriptions of the types that are shown in it. -/
theorem describeWithin_eq
    (moduleName : String)
    (outer : List String)
    (type : TypeDefinition) :
    describeWithin moduleName outer type =
      ofDefinition moduleName type
        ((type.shownNested outer).map (describeWithin moduleName (type.fullName :: outer))) := by
  rw [TypeDefinition.shownNested, List.map_mergeSort]
  · cases type
    rw [describeWithin, sortSiblings, describeNested_eq_map]
  · intro one _ other _
    rw [siblingKey_describeWithin, siblingKey_describeWithin]

theorem mirrors_describeWithin
    (moduleName : String)
    (type : TypeDefinition)
    (outer : List String) :
    Mirrors moduleName outer type (describeWithin moduleName outer type) := by
  induction type using TypeDefinition.nestedInduction generalizing outer with
  | nest type inductionHypothesis =>
      rw [describeWithin_eq]
      have shows := TypeDefinition.showsNested_shownNested outer type
      exact .node _ shows fun nested isShown =>
        inductionHypothesis nested (shows.mem_iff.mp isShown).1 _

namespace Mirrors

variable
  {moduleName : String}
  {outer : List String}
  {type : TypeDefinition}
  {descriptor : TypeDescriptor}

/-- On a path into what mirrors a type there is no name twice, and no name of a type around it. -/
theorem nodup_path
    (mirrors : Mirrors moduleName outer type descriptor)
    (unmet : type.fullName ∉ outer)
    {names : List String}
    (path : descriptor.Path names) :
    names.Nodup ∧ ∀ name ∈ names, name ∉ outer := by
  induction mirrors generalizing names with
  | @node outer type shown description shows mirrored inductionHypothesis =>
      cases path with
      | stop =>
          exact ⟨List.nodup_singleton _, List.forall_mem_singleton.mpr unmet⟩
      | step member path =>
          obtain ⟨nested, isShown, rfl⟩ := List.mem_map.mp member
          obtain ⟨distinct, apart⟩ :=
            inductionHypothesis nested isShown (shows.mem_iff.mp isShown).2 path
          refine ⟨List.nodup_cons.mpr ⟨fun again => ?_, distinct⟩,
            List.forall_mem_cons.mpr ⟨unmet, fun name isName around => ?_⟩⟩
          · exact apart _ again List.mem_cons_self
          · exact apart name isName (List.mem_cons_of_mem _ around)

/-- Where no path into a type meets a name twice or a name of a type around it, each type of the
tree is shown once in what mirrors it. -/
theorem perm_parts
    (mirrors : Mirrors moduleName outer type descriptor)
    (distinct : ∀ names, type.Path names → names.Nodup ∧ ∀ name ∈ names, name ∉ outer) :
    descriptor.parts.Perm (type.flatten.map fun found => ofDefinition moduleName found []) := by
  induction mirrors with
  | @node outer type shown description shows mirrored inductionHypothesis =>
      have nestedDistinct : ∀ nested ∈ type.nestedTypes, ∀ names, nested.Path names →
          names.Nodup ∧ ∀ name ∈ names, name ∉ type.fullName :: outer := by
        intro nested member names path
        obtain ⟨wholeDistinct, wholeApart⟩ := distinct _ (.step member path)
        obtain ⟨unmet, namesDistinct⟩ := List.nodup_cons.mp wholeDistinct
        refine ⟨namesDistinct, fun name isName around => ?_⟩
        rcases List.mem_cons.mp around with rfl | isOuter
        · exact unmet isName
        · exact wholeApart name (List.mem_cons_of_mem _ isName) isOuter
      have allShown : shown.Perm type.nestedTypes := by
        refine shows.perm.trans (.of_eq (List.filter_eq_self.mpr fun nested member => ?_))
        have unmet := (nestedDistinct nested member _ (.stop nested)).2 _ List.mem_cons_self
        exact decide_eq_true unmet
      rw [parts_ofDefinition, TypeDefinition.flatten_eq, List.map_cons, List.flatMap_map,
        List.map_flatMap]
      refine .cons _ (allShown.flatMap fun nested isShown => ?_)
      exact inductionHypothesis nested isShown
        (nestedDistinct nested (allShown.mem_iff.mp isShown))

end Mirrors

end TypeDescriptor

namespace Answer

/-- The view of a type is its description, unless it cannot be described. -/
theorem typeView_info
    {opened : OpenModule}
    {typeName : String}
    {caseSensitive : Bool}
    {type : TypeDefinition}
    (found : opened.type typeName caseSensitive = .ok type) :
    typeView .info typeName caseSensitive opened =
      match type.describeFault? with
      | none =>
        .ok
          (.record
            [("module_path", .text opened.path),
              ("type", (TypeDescriptor.describe opened.name type).toValue)])
      | some crash => .error (.crashed crash) := by
  cases typesAre : opened.types with
  | error failure =>
      rw [OpenModule.type, typesAre] at found
      cases found
  | ok types =>
      rw [typeView, found, typesAre]
      change (Failure.unlessCrash (type.describeFault?.or none) >>= _) = _
      rw [Option.or_none]
      cases type.describeFault? <;> rfl

end Answer

/-- The description of a type mirrors the tree of the types nested in it, in the order of tokens
and then of full names and without the types that bear the name of a type around them.  No path
into the description meets a name twice.  If no path into the tree does, every type of the tree is
shown exactly once.  The view of the type has this description, unless a type that would be shown
has a reference without a text. -/
theorem TypeDescriptor.describe_mirrors_tree
    (moduleName : String)
    (type : TypeDefinition) :
    Mirrors moduleName [] type (describe moduleName type) ∧
      (∀ names, (describe moduleName type).Path names → names.Nodup) ∧
      ((∀ names, type.Path names → names.Nodup) →
        (describe moduleName type).parts.Perm
          (type.flatten.map fun found => ofDefinition moduleName found [])) ∧
      (type.describeFault? = none ↔
        ∀ found, TypeDefinition.Shows [] type found →
          ∀ reference ∈ found.shownReferences, reference.textFault? = none) ∧
      ∀ opened : OpenModule, opened.name = moduleName →
        ∀ typeName caseSensitive, opened.type typeName caseSensitive = .ok type →
          Answer.typeView .info typeName caseSensitive opened =
            match type.describeFault? with
            | none =>
              .ok
                (.record
                  [("module_path", .text opened.path),
                    ("type", (describe moduleName type).toValue)])
            | some crash => .error (.crashed crash) := by
  have mirrors : Mirrors moduleName [] type (describe moduleName type) :=
    mirrors_describeWithin moduleName type []
  refine ⟨mirrors, fun names path => (mirrors.nodup_path List.not_mem_nil path).1,
    fun distinct => mirrors.perm_parts fun names path => ⟨distinct names path, fun _ _ => nofun⟩,
    TypeDefinition.faultWithin?_eq_none_iff type [], ?_⟩
  rintro opened rfl typeName caseSensitive found
  exact Answer.typeView_info found

/-- A public class with a token, a base type and the types nested in it. -/
def TypeDefinition.holding
    (fullName : String)
    (token : Int)
    (baseType? : Option TypeRef)
    (nestedTypes : List TypeDefinition) : TypeDefinition :=
  ⟨fullName, .classType, .public, token, false, false, false, none, baseType?, [], [], [], [],
    none, nestedTypes⟩

-- Only the innermost type bears the name of a type around it.
example :
    ((TypeDescriptor.describe "M"
      (.holding "A" 1 none [.holding "A+B" 1 none [.holding "A" 1 none []]])).parts.map
        TypeDescriptor.fullName) = ["A", "A+B"] := by
  decide +kernel

/-- A type with a nested type whose name is also that of a type nested in another one. -/
def TypeDefinition.ofCousins : TypeDefinition :=
  .holding "A" 1 none [.holding "A+C" 2 none [.holding "A+B" 1 none []], .holding "A+B" 1 none []]

theorem TypeDescriptor.describe_mirrors_tree_of_cousins :
    TypeDefinition.ofCousins.describeFault? = none ∧
      (∀ names, TypeDefinition.ofCousins.Path names → names.Nodup) ∧
        (describe "M" .ofCousins).parts.Perm
          (TypeDefinition.ofCousins.flatten.map fun found => ofDefinition "M" found []) := by
  have distinct : ∀ names, TypeDefinition.ofCousins.Path names → names.Nodup := by
    intro names path
    rcases path with _ | ⟨member, path⟩
    · decide
    · rcases List.mem_cons.mp member with rfl | member
      · rcases path with _ | ⟨member, path⟩
        · decide
        · cases List.mem_singleton.mp member
          rcases path with _ | ⟨member, _⟩
          · decide
          · cases member
      · cases List.mem_singleton.mp member
        rcases path with _ | ⟨member, _⟩
        · decide
        · cases member
  obtain ⟨_, _, once, _⟩ := describe_mirrors_tree "M" .ofCousins
  refine ⟨?_, distinct, once distinct⟩
  simp [TypeDefinition.ofCousins, TypeDefinition.holding, TypeDefinition.describeFault?,
    TypeDefinition.faultWithin?, TypeDefinition.nestedFaults, TypeDefinition.firstSiblingFault?,
    TypeDefinition.referenceFault?, TypeRef.elementFault?, TypeRef.argumentFault?,
    GenericParameterDescriptor.inOrder]

/-- An array of so many dimensions that no text can hold its marks. -/
def TypeRef.vastArray : TypeRef :=
  ⟨.array, "", some ⟨.named, "X", none, 0, []⟩, Nat.pow 2 64, []⟩

/-- A type whose base type has no text cannot be described. -/
theorem Answer.vast_array_is_not_described :
    typeView .info "A" true
        ⟨"m.json", ⟨"M", "", [.holding "A" 1 (some .vastArray) []]⟩, .ordinary⟩ =
      .error (.crashed ⟨.overflow, "cannot fit 'int' into an index-sized integer"⟩) := by
  have found (baseType : TypeRef) :
      OpenModule.type ⟨"m.json", ⟨"M", "", [.holding "A" 1 (some baseType) []]⟩, .ordinary⟩
        "A" true = .ok (.holding "A" 1 (some baseType) []) := by
    with_unfolding_all rfl
  have fault :
      (TypeDefinition.holding "A" 1 (some .vastArray) []).describeFault? =
        some ⟨.overflow, "cannot fit 'int' into an index-sized integer"⟩ := by
    decide +kernel
  rw [typeView_info (found .vastArray), fault]

end TypeCatalog
