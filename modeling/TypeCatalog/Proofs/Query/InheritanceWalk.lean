import Mathlib.Data.List.Chain
import Mathlib.Data.List.Perm.Subperm
import TypeCatalog.Proofs.Json.Record
import TypeCatalog.Proofs.Query.ListedType
import TypeCatalog.Proofs.Source.Reading

namespace TypeCatalog

/-!
# Walking along base types

The hierarchy of a type follows base types until one is not in the module, was met before or does
not exist.  Each turn meets a type that was not met before, so the walk ends by itself, and its
bases are types of the module that all differ.
-/

/-- The full name of the base type. -/
def TypeDefinition.baseName? (type : TypeDefinition) : Option String :=
  type.baseType?.map TypeRef.fullName

namespace Answer

open TypeDefinition (fullName)

variable {types : List TypeDefinition} {met : List String} {current type : TypeDefinition}
  {chain : List ChainLink}

/-! ## The walk -/

theorem mem_of_typeNamed?
    {name : String}
    (named : typeNamed? types name = some type) :
    type ∈ types ∧ type.fullName = name := by
  rw [typeNamed?] at named
  have sameName := List.find?_some named
  exact ⟨List.mem_reverse.mp (List.mem_of_find?_eq_some named), eq_of_beq sameName⟩

theorem not_mem_of_typeNamed?
    {name : String}
    (missing : typeNamed? types name = none) :
    ∀ other ∈ types, other.fullName ≠ name := by
  intro other member sameName
  exact List.find?_eq_none.mp missing other (List.mem_reverse.mpr member)
    (beq_iff_eq.mpr sameName)

/-- A walk along base types that ends by itself, whatever number of turns it takes: before a type
without a base, at a base outside the module, or at one that was met before. -/
inductive Walks (types : List TypeDefinition) :
    List String → TypeDefinition → List ChainLink → Prop where
  | baseless
      {met : List String}
      {current : TypeDefinition} :
      current.baseName? = none →
      Walks types met current []
  | leaving
      {met : List String}
      {current : TypeDefinition}
      {name : String} :
      current.baseName? = some name →
      typeNamed? types name = none →
      Walks types met current [⟨name, none, true⟩]
  | returning
      {met : List String}
      {current base : TypeDefinition}
      {name : String} :
      current.baseName? = some name →
      typeNamed? types name = some base →
      base.fullName ∈ met →
      Walks types met current [⟨name, some base, false⟩]
  | advancing
      {met : List String}
      {current base : TypeDefinition}
      {name : String}
      {rest : List ChainLink} :
      current.baseName? = some name →
      typeNamed? types name = some base →
      base.fullName ∉ met →
      Walks types (base.fullName :: met) base rest →
      Walks types met current (⟨name, some base, true⟩ :: rest)

/-- With more turns than there are types that were not met, the chain is a walk that ended by
itself. -/
theorem walks_inheritanceChain
    {turns : Nat}
    (metInside : met ⊆ types.map fullName)
    (metDistinct : met.Nodup)
    (enough : types.length < met.length + turns) :
    Walks types met current (inheritanceChain types met current turns) := by
  induction turns generalizing met current with
  | zero =>
      have metFew := (metDistinct.subperm metInside).length_le
      rw [List.length_map] at metFew
      omega
  | succ turns inductionHypothesis =>
      rw [inheritanceChain]
      cases based : current.baseType? with
      | none =>
          exact .baseless (by rw [TypeDefinition.baseName?, based]; rfl)
      | some reference =>
          have baseIs : current.baseName? = some reference.fullName := by
            rw [TypeDefinition.baseName?, based]
            rfl
          cases named : typeNamed? types reference.fullName with
          | none =>
              simp only [named]
              exact .leaving baseIs named
          | some base =>
              simp only [named]
              by_cases isMet : base.fullName ∈ met
              · rw [if_pos (List.contains_iff_mem.mpr isMet)]
                exact .returning baseIs named isMet
              · rw [if_neg (List.contains_iff_mem.not.mpr isMet)]
                have baseInside : base.fullName ∈ types.map fullName :=
                  List.mem_map_of_mem (mem_of_typeNamed? named).1
                refine .advancing baseIs named isMet (inductionHypothesis ?_ ?_ ?_)
                · exact List.cons_subset.mpr ⟨baseInside, metInside⟩
                · exact List.nodup_cons.mpr ⟨isMet, metDistinct⟩
                · rw [List.length_cons]
                  omega

/-- With more turns than links the chain is the walk, so no further turn adds to it. -/
theorem Walks.inheritanceChain_eq
    {turns : Nat}
    (walks : Walks types met current chain)
    (enough : chain.length < turns) :
    inheritanceChain types met current turns = chain := by
  induction walks generalizing turns with
  | baseless noBase =>
      obtain ⟨turns, rfl⟩ := Nat.exists_eq_add_one_of_ne_zero (Nat.ne_zero_of_lt enough)
      rw [inheritanceChain, Option.map_eq_none_iff.mp noBase]
  | leaving isBase missing =>
      obtain ⟨turns, rfl⟩ := Nat.exists_eq_add_one_of_ne_zero (Nat.ne_zero_of_lt enough)
      obtain ⟨reference, based, rfl⟩ := Option.map_eq_some_iff.mp isBase
      simp only [inheritanceChain, based, missing]
  | returning isBase named isMet =>
      obtain ⟨turns, rfl⟩ := Nat.exists_eq_add_one_of_ne_zero (Nat.ne_zero_of_lt enough)
      obtain ⟨reference, based, rfl⟩ := Option.map_eq_some_iff.mp isBase
      simp only [inheritanceChain, based, named, if_pos (List.contains_iff_mem.mpr isMet)]
  | advancing isBase named notMet _ inductionHypothesis =>
      obtain ⟨turns, rfl⟩ := Nat.exists_eq_add_one_of_ne_zero (Nat.ne_zero_of_lt enough)
      obtain ⟨reference, based, rfl⟩ := Option.map_eq_some_iff.mp isBase
      simp only [inheritanceChain, based, named, if_neg (List.contains_iff_mem.not.mpr notMet),
        inductionHypothesis (Nat.lt_of_succ_lt_succ enough)]

/-- The base types of a type of a module are walked to the end. -/
theorem walks_chainOf (member : type ∈ types) :
    Walks types [type.fullName] type (chainOf types type) := by
  apply walks_inheritanceChain
  · exact List.cons_subset.mpr ⟨List.mem_map_of_mem member, List.nil_subset _⟩
  · exact List.nodup_singleton _
  · rw [List.length_singleton]
    omega

/-! ## What a walk lists -/

/-- What a walk from a type on lists, if some names were met before.  The bases are types of the
module, each the base of the one before, and none has a name that was met.  Their names are followed
by the name of one more base, if the last type has one; then this base is outside the module, or it
was met. -/
structure FollowsBases
    (types : List TypeDefinition)
    (met : List String)
    (current : TypeDefinition)
    (names : List String)
    (bases : List TypeDefinition) : Prop where
  inside : ∀ base ∈ bases, base ∈ types
  linked :
    (current :: bases).IsChain fun derived base => derived.baseName? = some base.fullName
  distinct : (met ++ bases.map fullName).Nodup
  names_eq :
    names =
      bases.map fullName ++
        ((current :: bases).getLast (List.cons_ne_nil _ _)).baseName?.toList
  ends :
    ∀ name, ((current :: bases).getLast (List.cons_ne_nil _ _)).baseName? = some name →
      (∀ other ∈ types, other.fullName ≠ name) ∨ name ∈ met ++ bases.map fullName

/-- At the end of a walk there is at most the name of one more base. -/
theorem FollowsBases.nil
    (metDistinct : met.Nodup)
    (ends : ∀ name, current.baseName? = some name →
      (∀ other ∈ types, other.fullName ≠ name) ∨ name ∈ met) :
    FollowsBases types met current current.baseName?.toList [] := by
  constructor
  · exact fun _ member => absurd member List.not_mem_nil
  · exact List.isChain_singleton current
  · rw [List.map_nil, List.append_nil]
    exact metDistinct
  · rfl
  · rw [List.map_nil, List.append_nil]
    exact ends

/-- A walk goes on from a base as it does from there. -/
theorem FollowsBases.cons
    {base : TypeDefinition}
    {names : List String}
    {bases : List TypeDefinition}
    (follows : FollowsBases types (base.fullName :: met) base names bases)
    (member : base ∈ types)
    (isBase : current.baseName? = some base.fullName) :
    FollowsBases types met current (base.fullName :: names) (base :: bases) := by
  have sameNames : ((base.fullName :: met) ++ bases.map fullName).Perm
      (met ++ (base :: bases).map fullName) :=
    List.perm_middle.symm
  constructor
  · exact List.forall_mem_cons.mpr ⟨member, follows.inside⟩
  · exact List.isChain_cons_cons.mpr ⟨isBase, follows.linked⟩
  · exact sameNames.nodup_iff.mp follows.distinct
  · rw [List.getLast_cons (List.cons_ne_nil _ _), List.map_cons, List.cons_append,
      ← follows.names_eq]
  · rw [List.getLast_cons (List.cons_ne_nil _ _)]
    intro name isNext
    exact (follows.ends name isNext).imp_right sameNames.mem_iff.mp

namespace Walks

theorem followsBases
    (walks : Walks types met current chain)
    (metDistinct : met.Nodup) :
    FollowsBases types met current (chain.map ChainLink.fullName) (chainBases chain) := by
  induction walks with
  | @baseless met current noBase =>
      have namesAre : ([] : List String) = current.baseName?.toList := by
        rw [noBase]
        rfl
      change FollowsBases types met current [] []
      rw [namesAre]
      refine .nil metDistinct fun name isBase => ?_
      cases noBase.symm.trans isBase
  | @leaving met current name isBase missing =>
      have namesAre : [name] = current.baseName?.toList := by
        rw [isBase]
        rfl
      change FollowsBases types met current [name] []
      rw [namesAre]
      refine .nil metDistinct fun other otherIsBase => ?_
      cases isBase.symm.trans otherIsBase
      exact .inl (not_mem_of_typeNamed? missing)
  | @returning met current base name isBase named isMet =>
      have namesAre : [name] = current.baseName?.toList := by
        rw [isBase]
        rfl
      change FollowsBases types met current [name] []
      rw [namesAre]
      refine .nil metDistinct fun other otherIsBase => ?_
      cases isBase.symm.trans otherIsBase
      exact .inr ((mem_of_typeNamed? named).2 ▸ isMet)
  | @advancing met current base name rest isBase named notMet _ inductionHypothesis =>
      obtain ⟨member, rfl⟩ := mem_of_typeNamed? named
      exact (inductionHypothesis (List.nodup_cons.mpr ⟨notMet, metDistinct⟩)).cons member isBase

/-- A link is marked as inside exactly if its name is that of a type. -/
theorem isSome_base?_iff
    {link : ChainLink}
    (walks : Walks types met current chain)
    (member : link ∈ chain) :
    link.base?.isSome = true ↔ ∃ other ∈ types, other.fullName = link.fullName := by
  have isInside {base : TypeDefinition} {name : String}
      (named : typeNamed? types name = some base) :
      (some base).isSome = true ↔ ∃ other ∈ types, other.fullName = name :=
    ⟨fun _ => ⟨base, mem_of_typeNamed? named⟩, fun _ => rfl⟩
  induction walks with
  | baseless _ =>
      cases member
  | leaving _ missing =>
      cases List.mem_singleton.mp member
      constructor
      · intro isSome
        cases isSome
      · rintro ⟨other, otherMember, sameName⟩
        exact absurd sameName (not_mem_of_typeNamed? missing other otherMember)
  | returning _ named _ =>
      cases List.mem_singleton.mp member
      exact isInside named
  | advancing _ named _ _ inductionHypothesis =>
      rcases List.mem_cons.mp member with rfl | isLater
      · exact isInside named
      · exact inductionHypothesis isLater

/-- The first name is that of the base type, if there is one. -/
theorem head?_fullName
    (walks : Walks types met current chain) :
    chain.head?.map ChainLink.fullName = current.baseName? := by
  cases walks with
  | baseless noBase =>
      exact noBase.symm
  | leaving isBase _ | returning isBase _ _ | advancing isBase _ _ _ =>
      exact isBase.symm

/-- There are no more links than types. -/
theorem length_le
    (walks : Walks types [type.fullName] type chain)
    (member : type ∈ types) :
    chain.length ≤ types.length := by
  have follows := walks.followsBases (List.nodup_singleton _)
  have insideNames : [type.fullName] ++ (chainBases chain).map fullName ⊆ types.map fullName := by
    refine List.cons_subset.mpr ⟨List.mem_map_of_mem member, ?_⟩
    exact List.map_subset _ follows.inside
  have basesFew := (follows.distinct.subperm insideNames).length_le
  have linksFew := congrArg List.length follows.names_eq
  have oneMore := Option.length_toList_le (o :=
    ((type :: chainBases chain).getLast (List.cons_ne_nil _ _)).baseName?)
  simp only [List.length_append, List.length_map, List.length_singleton] at basesFew linksFew
  omega

end Walks

private theorem any_baseType?_iff
    (type : TypeDefinition)
    (name : String) :
    (type.baseType?.any fun reference => reference.fullName == name) = true ↔
      type.baseName? = some name := by
  rw [TypeDefinition.baseName?]
  cases type.baseType? <;> simp

/-- A type is among the types that are derived from its base type, and of no other. -/
theorem mem_derivedTypes_iff
    {base : TypeDefinition}
    (distinct : (types.map fullName).Nodup)
    (member : type ∈ types) :
    type.fullName ∈ derivedTypes types base ↔ type.baseName? = some base.fullName := by
  rw [derivedTypes, List.mem_mergeSort, List.mem_map, ← any_baseType?_iff]
  constructor
  · rintro ⟨other, isDerived, sameName⟩
    obtain ⟨otherMember, isBase⟩ := List.mem_filter.mp isDerived
    cases List.inj_on_of_nodup_map distinct otherMember member sameName
    exact isBase
  · intro isBase
    exact ⟨type, List.mem_filter.mpr ⟨member, isBase⟩, rfl⟩

/-! ## The hierarchy of a type -/

/-- Whether data show a walk from a type: each link by its name and whether the module has a type of
that name, the bases as they are listed, and the types that are derived from the type. -/
structure ShowsWalk
    (moduleName : String)
    (types : List TypeDefinition)
    (type : TypeDefinition)
    (chain : List ChainLink)
    (data : Value) : Prop where
  links :
    data.field? "inheritance_chain" =
      some (.list (chain.map fun link =>
        .record
          [("full_name", .text link.fullName),
            ("in_module", .bool (types.any fun other => other.fullName == link.fullName))]))
  bases :
    data.field? "base_types" =
      some (.list ((chainBases chain).map fun base =>
        (TypeDescriptor.describe moduleName base).toOwnValue))
  derived : data.field? "derived_types" = some (.ofTexts (derivedTypes types type))

/-- The links of a walk as they are shown. -/
theorem Walks.map_linkValue
    (walks : Walks types met current chain) :
    chain.map linkValue =
      chain.map fun link =>
        .record
          [("full_name", .text link.fullName),
            ("in_module", .bool (types.any fun other => other.fullName == link.fullName))] := by
  refine List.map_congr_left fun link member => ?_
  have sameMark :
      link.base?.isSome = types.any fun other => other.fullName == link.fullName := by
    rw [Bool.eq_iff_iff, walks.isSome_base?_iff member, List.any_eq_true]
    simp only [beq_iff_eq]
  rw [linkValue, sameMark]

theorem showsWalk_viewFields
    (walks : Walks types [type.fullName] type (chainOf types type))
    (path moduleName : String) :
    ShowsWalk moduleName types type (chainOf types type)
      (.record (("module_path", .text path) :: viewFields .hierarchy moduleName types type)) := by
  constructor
  · rw [Value.field?_record, ← walks.map_linkValue]
    rfl
  · rw [Value.field?_record]
    rfl
  · rw [Value.field?_record]
    rfl

end Answer

open Answer

namespace OpenModule

/-- The hierarchy of a type that was found, in whatever order the module is read. -/
private theorem typeView_hierarchy
    {opened : OpenModule}
    {type : TypeDefinition}
    {typeName : String}
    {caseSensitive : Bool}
    (distinct : (opened.definition.allTypes.map TypeDefinition.fullName).Nodup)
    (found : opened.type typeName caseSensitive = .ok type) :
    let types := opened.definition.allTypes
    typeView .hierarchy typeName caseSensitive opened =
      (Failure.unlessCrash
        ((type :: chainBases (chainOf types type)).findSome? TypeDefinition.describeFault?)).map
          fun _ =>
            .record (("module_path", .text opened.path) ::
              viewFields .hierarchy opened.name types type) := by
  intro types
  have readable : opened.mode ≠ .failing := by
    intro failing
    rw [OpenModule.type, OpenModule.types, if_pos failing] at found
    cases found
  have perm : types.Perm opened.reading.types :=
    (opened.inReadingOrder_perm types).symm
  have sameChain := chainOf_eq_of_perm perm distinct type
  have sameFields :
      viewFields .hierarchy opened.name opened.reading.types type =
        viewFields .hierarchy opened.name types type := by
    simp only [viewFields, sameChain, derivedTypes_eq_of_perm perm type]
  have sameFault :
      viewFault? .hierarchy opened.reading.types type =
        (type :: chainBases (chainOf types type)).findSome? TypeDefinition.describeFault? := by
    rw [viewFault?, List.findSome?_cons, ← sameChain]
    cases type.describeFault? <;> rfl
  rw [typeView, found, types_eq_reading readable, ← sameFault, ← sameFields]
  change (Failure.unlessCrash (viewFault? .hierarchy opened.reading.types type) >>= _) = _
  cases Failure.unlessCrash (viewFault? .hierarchy opened.reading.types type) <;> rfl

/-- In a module whose types have different full names, the walk from a type along base types ends by
itself.  It lists the names of the base types up to the first one that is outside the module or was
met, or up to a type without a base type, so there are no more of them than types; and a type is
derived from another exactly if its own walk starts with that one.  The hierarchy shows the walk,
unless the type or one of its bases cannot be described. -/
theorem hierarchy_walks_bases
    {opened : OpenModule}
    {type : TypeDefinition}
    (distinct : (opened.definition.allTypes.map TypeDefinition.fullName).Nodup)
    (member : type ∈ opened.definition.allTypes) :
    let types := opened.definition.allTypes
    ∃ chain,
      Walks types [type.fullName] type chain ∧
      (∀ turns > chain.length, inheritanceChain types [type.fullName] type turns = chain) ∧
      FollowsBases types [type.fullName] type (chain.map ChainLink.fullName) (chainBases chain) ∧
      chain.length ≤ types.length ∧
      (∀ base : TypeDefinition,
        type.fullName ∈ derivedTypes types base ↔
          chain.head?.map ChainLink.fullName = some base.fullName) ∧
      ∀ typeName caseSensitive, opened.type typeName caseSensitive = .ok type →
        let fault? := (type :: chainBases chain).findSome? TypeDefinition.describeFault?
        (∀ crash, fault? = some crash →
          typeView .hierarchy typeName caseSensitive opened = .error (.crashed crash)) ∧
        (fault? = none →
          ∃ data,
            typeView .hierarchy typeName caseSensitive opened = .ok data ∧
              ShowsWalk opened.name types type chain data) := by
  intro types
  have walks := walks_chainOf member
  refine ⟨chainOf types type, walks, fun _ enough => walks.inheritanceChain_eq enough,
    walks.followsBases (List.nodup_singleton _), walks.length_le member, fun base => ?_,
    fun typeName caseSensitive found => ?_⟩
  · rw [walks.head?_fullName]
    exact mem_derivedTypes_iff distinct member
  · rw [typeView_hierarchy distinct found]
    refine ⟨fun crash undescribed => ?_, fun describable => ?_⟩
    · rw [undescribed]
      rfl
    · rw [describable]
      exact ⟨_, rfl, showsWalk_viewFields walks opened.path opened.name⟩

end OpenModule

/-- A public class with a base class and nothing else. -/
def TypeDefinition.derived (fullName baseName : String) : TypeDefinition :=
  { bare fullName with baseType? := some ⟨.named, baseName, none, 1, []⟩ }

@[simp] theorem TypeDefinition.derived_fullName (fullName baseName : String) :
    (derived fullName baseName).fullName = fullName :=
  rfl

/-- A module in which one class leads into a circle of two others. -/
def ModuleDefinition.ofCircle : ModuleDefinition :=
  ⟨"Lib", "", [.derived "A" "B", .derived "B" "C", .derived "C" "B"]⟩

private theorem allTypes_ofCircle :
    ModuleDefinition.ofCircle.allTypes =
      [.derived "A" "B", .derived "B" "C", .derived "C" "B"] :=
  rfl

private theorem named_ofCircle : ModuleDefinition.ofCircle.Named := by
  constructor
  · decide +kernel
  · rw [allTypes_ofCircle]
    simp only [List.forall_mem_cons, List.not_mem_nil, false_imp_iff, implies_true, and_true]
    exact ⟨⟨⟨'A', [], rfl, rfl⟩, ⟨[], 'A', rfl, rfl⟩⟩, ⟨⟨'B', [], rfl, rfl⟩, ⟨[], 'B', rfl, rfl⟩⟩,
      ⟨⟨'C', [], rfl, rfl⟩, ⟨[], 'C', rfl, rfl⟩⟩⟩

/-- From a class that leads into a circle the walk goes once around, and the base that is met again
is listed but not described. -/
theorem OpenModule.hierarchy_walks_bases_into_circle :
    let opened : OpenModule := ⟨"lib", .ofCircle, .ordinary⟩
    let types := ModuleDefinition.ofCircle.allTypes
    ∃ chain data,
      chain.map ChainLink.fullName = ["B", "C", "B"] ∧
        (chainBases chain).map TypeDefinition.fullName = ["B", "C"] ∧
          typeView .hierarchy "A" true opened = .ok data ∧
            ShowsWalk "Lib" types (.derived "A" "B") chain data := by
  intro opened types
  have member : .derived "A" "B" ∈ ModuleDefinition.ofCircle.allTypes := by
    rw [allTypes_ofCircle]
    exact List.mem_cons_self
  have found := @type_fullName "lib" _ _ named_ofCircle member
  rw [TypeDefinition.derived_fullName] at found
  obtain ⟨chain, _, isChain, _, few, _, shows⟩ :=
    @hierarchy_walks_bases opened (.derived "A" "B") named_ofCircle.distinct member
  have chainIs :
      chain =
        [⟨"B", some (.derived "B" "C"), true⟩, ⟨"C", some (.derived "C" "B"), true⟩,
          ⟨"B", some (.derived "B" "C"), false⟩] := by
    rw [← isChain 4 (Nat.lt_succ_of_le few), allTypes_ofCircle]
    rfl
  have describable :
      (.derived "A" "B" :: chainBases chain).findSome? TypeDefinition.describeFault? = none := by
    rw [chainIs]
    decide +kernel
  obtain ⟨data, served, showsWalk⟩ := (shows "A" true found).2 describable
  refine ⟨chain, data, ?_, ?_, served, showsWalk⟩
  · rw [chainIs]
    rfl
  · rw [chainIs]
    rfl

end TypeCatalog
