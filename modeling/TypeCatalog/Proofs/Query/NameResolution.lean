import TypeCatalog.Proofs.Metadata.QualifiedNames
import TypeCatalog.Proofs.Query.ListedType
import TypeCatalog.Proofs.Source.Reading
import TypeCatalog.Proofs.Text.LetterCase
import TypeCatalog.Proofs.Text.Words

namespace TypeCatalog

/-!
# What a name means

A name means a type by its full name, else by its simple name, else, if the name has a separator, by
a full name that is the same when every `+` is read as `.`.  Names are compared in their folded
forms, and among several types that fit alike the one with the least full name is taken.
-/

namespace QualifiedName

/-- A name with every `+` read as `.`. -/
def dotted (name : String) : String :=
  Text.replaceCharacter '+' '.' name

theorem dot_mem_dotted_iff (name : String) :
    '.' ∈ (dotted name).toList ↔ Separated name := by
  simp only [dotted, Text.replaceCharacter, String.toList_ofList, List.mem_map, Separated]
  constructor
  · rintro ⟨c, member, readsAsDot⟩
    split at readsAsDot
    · next isPlus =>
        exact .inr (isPlus ▸ member)
    · exact .inl (readsAsDot ▸ member)
  · rintro (dot | plus)
    · exact ⟨'.', dot, by decide⟩
    · exact ⟨'+', plus, by decide⟩

/-- Reading every `.` as `+` first makes no difference. -/
theorem dotted_replaceCharacter (name : String) :
    dotted (Text.replaceCharacter '.' '+' name) = dotted name := by
  simp only [dotted, Text.replaceCharacter, String.toList_ofList, List.map_map]
  congr 1
  refine List.map_congr_left fun c _ => ?_
  by_cases isDot : c = '.' <;> simp [isDot]

theorem dotted_foldFor
    (caseSensitive : Bool)
    (name : String) :
    dotted (Text.foldFor caseSensitive name) = Text.foldFor caseSensitive (dotted name) :=
  Text.replaceCharacter_foldFor Text.isSign_plus Text.isSign_dot caseSensitive name

theorem separated_foldFor_iff
    (caseSensitive : Bool)
    (name : String) :
    Separated (Text.foldFor caseSensitive name) ↔ Separated name := by
  rw [Separated, Text.mem_foldFor_iff Text.isSign_dot, Text.mem_foldFor_iff Text.isSign_plus,
    Separated]

end QualifiedName

namespace TypeDefinition

open QualifiedName (Separated dotted)

variable {types : List TypeDefinition} {type : TypeDefinition} {query typeName : String}
  {caseSensitive : Bool}

/-! ## The ways to mean a type -/

/-- Whether a name is the full name of a type, up to folding. -/
def HasFullName
    (caseSensitive : Bool)
    (query : String)
    (type : TypeDefinition) : Prop :=
  Text.foldFor caseSensitive type.fullName = Text.foldFor caseSensitive query

/-- Whether a name is the simple name of a type, up to folding. -/
def HasSimpleName
    (caseSensitive : Bool)
    (query : String)
    (type : TypeDefinition) : Prop :=
  Text.foldFor caseSensitive type.simpleName = Text.foldFor caseSensitive query

/-- Whether a name is the full name of a type, up to folding and with every `.` in the name read as
`+`. -/
def HasNestedName
    (caseSensitive : Bool)
    (query : String)
    (type : TypeDefinition) : Prop :=
  Text.foldFor caseSensitive type.fullName =
    Text.replaceCharacter '.' '+' (Text.foldFor caseSensitive query)

/-- Whether a name is the full name of a type, up to folding and with every `+` read as `.` in
both. -/
def HasDottedName
    (caseSensitive : Bool)
    (query : String)
    (type : TypeDefinition) : Prop :=
  dotted (Text.foldFor caseSensitive type.fullName) = dotted (Text.foldFor caseSensitive query)

/-- Whether a name means a type in any way. -/
def IsMeantBy
    (caseSensitive : Bool)
    (query : String)
    (type : TypeDefinition) : Prop :=
  type.HasFullName caseSensitive query ∨ type.HasSimpleName caseSensitive query ∨
    Separated query ∧ type.HasDottedName caseSensitive query

/-- A type that is meant, and of those that are meant none has a lesser full name. -/
structure LeastNamed
    (isMeant : TypeDefinition → Prop)
    (types : List TypeDefinition)
    (type : TypeDefinition) : Prop where
  member : type ∈ types
  meant : isMeant type
  least : ∀ other ∈ types, isMeant other → type.fullName ≤ other.fullName

/-- The type that a name means among types, way by way: a way counts only where no way before it
leads to a type. -/
inductive Resolves
    (types : List TypeDefinition)
    (query : String)
    (caseSensitive : Bool) : Option TypeDefinition → Prop where
  | byFullName {type : TypeDefinition} :
      LeastNamed (HasFullName caseSensitive query) types type →
      Resolves types query caseSensitive (some type)
  | bySimpleName {type : TypeDefinition} :
      (∀ other ∈ types, ¬ other.HasFullName caseSensitive query) →
      LeastNamed (HasSimpleName caseSensitive query) types type →
      Resolves types query caseSensitive (some type)
  | byNestedName {type : TypeDefinition} :
      (∀ other ∈ types, ¬ other.HasFullName caseSensitive query) →
      (∀ other ∈ types, ¬ other.HasSimpleName caseSensitive query) →
      Separated query →
      LeastNamed (HasNestedName caseSensitive query) types type →
      Resolves types query caseSensitive (some type)
  | byDottedName {type : TypeDefinition} :
      (∀ other ∈ types, ¬ other.HasFullName caseSensitive query) →
      (∀ other ∈ types, ¬ other.HasSimpleName caseSensitive query) →
      Separated query →
      (∀ other ∈ types, ¬ other.HasNestedName caseSensitive query) →
      LeastNamed (HasDottedName caseSensitive query) types type →
      Resolves types query caseSensitive (some type)
  | missing :
      (∀ other ∈ types, ¬ other.IsMeantBy caseSensitive query) →
      Resolves types query caseSensitive none

theorem pairwise_sortByFullName (types : List TypeDefinition) :
    (sortByFullName types).Pairwise fun one other => one.fullName ≤ other.fullName :=
  (@List.pairwise_mergeSort TypeDefinition
    (fun one other => Text.atMost one.fullName other.fullName)
    (fun one two three => Text.atMost_trans one.fullName two.fullName three.fullName)
    (fun one other => Text.atMost_total one.fullName other.fullName) types).imp of_decide_eq_true

/-- Looking through the sorted types for one that is meant finds the one with the least full name,
or none is meant. -/
theorem find?_sortByFullName
    {isMeant : TypeDefinition → Bool}
    {means : TypeDefinition → Prop}
    (decides : ∀ type, isMeant type = true ↔ means type)
    (types : List TypeDefinition) :
    (∃ type, (sortByFullName types).find? isMeant = some type ∧ LeastNamed means types type) ∨
      (sortByFullName types).find? isMeant = none ∧ ∀ type ∈ types, ¬ means type := by
  have sameTypes (type : TypeDefinition) : type ∈ sortByFullName types ↔ type ∈ types :=
    List.mem_mergeSort
  cases found : (sortByFullName types).find? isMeant with
  | none =>
      refine .inr ⟨rfl, fun type member meant => ?_⟩
      exact List.find?_eq_none.mp found type ((sameTypes type).mpr member)
        ((decides type).mpr meant)
  | some type =>
      obtain ⟨meant, before, after, sortedAre, noneBefore⟩ :=
        List.find?_eq_some_iff_append.mp found
      have sorted := pairwise_sortByFullName types
      rw [sortedAre] at sorted sameTypes
      refine .inl ⟨type, rfl, ?_, (decides type).mp meant, fun other member otherMeant => ?_⟩
      · exact (sameTypes type).mp (List.mem_append_right _ List.mem_cons_self)
      · rcases List.mem_append.mp ((sameTypes other).mpr member) with isBefore | isHereOrAfter
        · have notMeant := noneBefore other isBefore
          rw [(decides other).mpr otherMeant] at notMeant
          cases notMeant
        · rcases List.mem_cons.mp isHereOrAfter with rfl | isAfter
          · exact le_refl _
          · exact List.rel_of_pairwise_cons (List.pairwise_append.mp sorted).2.1 isAfter

/-- What the search finds, way by way. -/
theorem resolves_findAmong?
    (types : List TypeDefinition)
    (query : String)
    (caseSensitive : Bool) :
    Resolves types query caseSensitive
      (findAmong? (sortByFullName types) query caseSensitive) := by
  have decidesSeparated :
      (query.toList.contains '.' || query.toList.contains '+') = true ↔ Separated query := by
    simp [Separated]
  simp only [findAmong?, Option.orElse_eq_orElse, Option.orElse_eq_or]
  rcases @find?_sortByFullName _ (HasFullName caseSensitive query) (fun _ => beq_iff_eq) types with
    ⟨type, found, least⟩ | ⟨missing, noFullName⟩
  · rw [found]
    exact .byFullName least
  rw [missing, Option.none_or]
  rcases @find?_sortByFullName _ (HasSimpleName caseSensitive query) (fun _ => beq_iff_eq) types
    with ⟨type, found, least⟩ | ⟨missing, noSimpleName⟩
  · rw [found]
    exact .bySimpleName noFullName least
  rw [missing, Option.none_or]
  by_cases separated : Separated query
  · rw [if_pos (decidesSeparated.mpr separated)]
    rcases @find?_sortByFullName _ (HasNestedName caseSensitive query) (fun _ => beq_iff_eq) types
      with ⟨type, found, least⟩ | ⟨missing, noNestedName⟩
    · rw [found]
      exact .byNestedName noFullName noSimpleName separated least
    rw [missing, Option.none_or]
    change Resolves types query caseSensitive
      ((sortByFullName types).find? fun other =>
        dotted (Text.foldFor caseSensitive other.fullName) ==
          dotted (Text.foldFor caseSensitive query))
    rcases @find?_sortByFullName _ (HasDottedName caseSensitive query) (fun _ => beq_iff_eq) types
      with ⟨type, found, least⟩ | ⟨missing, noDottedName⟩
    · rw [found]
      exact .byDottedName noFullName noSimpleName separated noNestedName least
    rw [missing]
    refine .missing fun other member => ?_
    rintro (full | simple | ⟨_, dotted⟩)
    · exact noFullName other member full
    · exact noSimpleName other member simple
    · exact noDottedName other member dotted
  · rw [if_neg (decidesSeparated.not.mpr separated)]
    refine .missing fun other member => ?_
    rintro (full | simple | ⟨isSeparated, _⟩)
    · exact noFullName other member full
    · exact noSimpleName other member simple
    · exact separated isSeparated

/-! ## What is found -/

theorem HasNestedName.hasDottedName
    (hasName : type.HasNestedName caseSensitive query) :
    type.HasDottedName caseSensitive query := by
  rw [HasDottedName, hasName, QualifiedName.dotted_replaceCharacter]

theorem HasFullName.hasDottedName
    (hasName : type.HasFullName caseSensitive query) :
    type.HasDottedName caseSensitive query :=
  congrArg dotted hasName

/-- No simple name has a separator. -/
theorem not_hasSimpleName_of_separated
    (separated : Separated query) :
    ¬ type.HasSimpleName caseSensitive query := by
  intro hasName
  apply QualifiedName.not_separated_simpleName type.fullName
  rw [← QualifiedName.separated_foldFor_iff caseSensitive, ← simpleName, hasName,
    QualifiedName.separated_foldFor_iff]
  exact separated

/-- What a name means with regard to case it also means without. -/
theorem IsMeantBy.withoutCase
    (meant : type.IsMeantBy true query) :
    type.IsMeantBy false query := by
  rcases meant with fullName | simpleName | ⟨separated, dottedName⟩
  · exact .inl (congrArg (Text.foldFor false) fullName)
  · exact .inr (.inl (congrArg (Text.foldFor false) simpleName))
  · refine .inr (.inr ⟨separated, ?_⟩)
    rw [HasDottedName, QualifiedName.dotted_foldFor, QualifiedName.dotted_foldFor]
    exact congrArg (Text.foldFor false) dottedName

namespace Resolves

theorem mem
    (resolves : Resolves types query caseSensitive (some type)) :
    type ∈ types := by
  cases resolves with
  | byFullName least | bySimpleName _ least | byNestedName _ _ _ least
    | byDottedName _ _ _ _ least =>
      exact least.member

theorem isMeantBy
    (resolves : Resolves types query caseSensitive (some type)) :
    type.IsMeantBy caseSensitive query := by
  cases resolves with
  | byFullName least =>
      exact .inl least.meant
  | bySimpleName _ least =>
      exact .inr (.inl least.meant)
  | byNestedName _ _ separated least =>
      exact .inr (.inr ⟨separated, least.meant.hasDottedName⟩)
  | byDottedName _ _ separated _ least =>
      exact .inr (.inr ⟨separated, least.meant⟩)

theorem leastNamed_of_fullName
    {other : TypeDefinition}
    (resolves : Resolves types query caseSensitive (some type))
    (member : other ∈ types)
    (hasName : other.HasFullName caseSensitive query) :
    LeastNamed (HasFullName caseSensitive query) types type := by
  cases resolves with
  | byFullName least =>
      exact least
  | bySimpleName noFullName _ | byNestedName noFullName _ _ _ | byDottedName noFullName _ _ _ _ =>
      exact absurd hasName (noFullName other member)

theorem hasSimpleName
    {other : TypeDefinition}
    (resolves : Resolves types query caseSensitive (some type))
    (noFullName : ∀ other ∈ types, ¬ other.HasFullName caseSensitive query)
    (member : other ∈ types)
    (hasName : other.HasSimpleName caseSensitive query) :
    type.HasSimpleName caseSensitive query := by
  cases resolves with
  | byFullName least =>
      exact absurd least.meant (noFullName type least.member)
  | bySimpleName _ least =>
      exact least.meant
  | byNestedName _ noSimpleName _ _ | byDottedName _ noSimpleName _ _ _ =>
      exact absurd hasName (noSimpleName other member)

end Resolves

/-- A name that is not blank finds a type that it means, or there is none. -/
theorem find_cases
    (notBlank : Text.isBlankText typeName = false)
    (types : List TypeDefinition)
    (caseSensitive : Bool) :
    (∃ type,
      find types typeName caseSensitive = .found type ∧
        Resolves types (Text.trim typeName) caseSensitive (some type)) ∨
    find types typeName caseSensitive = .notFound (Text.trim typeName) ∧
      ∀ type ∈ types, ¬ type.IsMeantBy caseSensitive (Text.trim typeName) := by
  have notEmpty : ¬ (Text.trim typeName).isEmpty = true := by
    rw [Text.isEmpty_trim_iff, notBlank]
    exact Bool.false_ne_true
  have resolves := resolves_findAmong? types (Text.trim typeName) caseSensitive
  simp only [find, if_neg notEmpty]
  cases found : findAmong? (sortByFullName types) (Text.trim typeName) caseSensitive with
  | some type =>
      rw [found] at resolves
      exact .inl ⟨type, rfl, resolves⟩
  | none =>
      rw [found] at resolves
      cases resolves with
      | missing noneMeant =>
          exact .inr ⟨rfl, noneMeant⟩

theorem resolves_of_find
    (notBlank : Text.isBlankText typeName = false)
    (found : find types typeName caseSensitive = .found type) :
    Resolves types (Text.trim typeName) caseSensitive (some type) := by
  rcases find_cases notBlank types caseSensitive with ⟨other, foundOther, resolves⟩ | ⟨missing, _⟩
  · cases foundOther.symm.trans found
    exact resolves
  · cases missing.symm.trans found

/-- A name that means a type of a list finds one. -/
theorem exists_found_iff
    (notBlank : Text.isBlankText typeName = false) :
    (∃ type, find types typeName caseSensitive = .found type) ↔
      ∃ type ∈ types, type.IsMeantBy caseSensitive (Text.trim typeName) := by
  rcases find_cases notBlank types caseSensitive with
    ⟨other, found, resolves⟩ | ⟨missing, noneMeant⟩
  · exact ⟨fun _ => ⟨other, resolves.mem, resolves.isMeantBy⟩, fun _ => ⟨other, found⟩⟩
  · constructor
    · rintro ⟨type, found⟩
      cases missing.symm.trans found
    · rintro ⟨type, member, meant⟩
      exact absurd meant (noneMeant type member)

/-- A type is found under a name exactly when the name means one: by its full name, by its simple
name, or with either separator for the other.  The type that is found is meant, by its full name if
any type is, else by its simple name if any type is.  Regard to case only takes types away, and
where no two types share a full name the order of the types does not matter. -/
theorem finds_what_is_meant
    {typeName : String}
    (notBlank : Text.isBlankText typeName = false)
    (types : List TypeDefinition) :
    let query := Text.trim typeName
    (∀ caseSensitive,
      ((∃ type, find types typeName caseSensitive = .found type) ↔
        ∃ type ∈ types, type.IsMeantBy caseSensitive query) ∧
      ∀ type, find types typeName caseSensitive = .found type →
        type ∈ types ∧ type.IsMeantBy caseSensitive query ∧
          ((∃ other ∈ types, other.HasFullName caseSensitive query) →
            type.HasFullName caseSensitive query) ∧
          ((∀ other ∈ types, ¬ other.HasFullName caseSensitive query) →
            (∃ other ∈ types, other.HasSimpleName caseSensitive query) →
              type.HasSimpleName caseSensitive query)) ∧
    ((∃ type, find types typeName true = .found type) →
      ∃ type, find types typeName false = .found type) ∧
    ((types.map fullName).Nodup →
      ∀ others caseSensitive, types.Perm others →
        find types typeName caseSensitive = find others typeName caseSensitive) := by
  intro query
  refine ⟨fun caseSensitive => ⟨exists_found_iff notBlank, ?_⟩, ?_, ?_⟩
  · intro type found
    have resolves := resolves_of_find notBlank found
    refine ⟨resolves.mem, resolves.isMeantBy, ?_, ?_⟩
    · rintro ⟨other, member, hasName⟩
      exact (resolves.leastNamed_of_fullName member hasName).meant
    · rintro noFullName ⟨other, member, hasName⟩
      exact resolves.hasSimpleName noFullName member hasName
  · rw [exists_found_iff notBlank, exists_found_iff notBlank]
    rintro ⟨type, member, meant⟩
    exact ⟨type, member, meant.withoutCase⟩
  · intro distinct others caseSensitive perm
    exact find_eq_of_perm perm distinct typeName caseSensitive

/-- A name that is the simple name of one type, and but for its case the full name of another. -/
theorem finds_what_is_meant_in_both_modes :
    let types : List TypeDefinition := [.bare "N.A+b", .bare "B"]
    (∃ type, find types " b " true = .found type ∧ type.HasSimpleName true "b") ∧
      ∃ type, find types " b " false = .found type ∧ type.HasFullName false "b" := by
  intro types
  obtain ⟨eachMode, withoutCase, _⟩ := @finds_what_is_meant " b " (by decide +kernel) types
  have simple : (bare "N.A+b").HasSimpleName true (Text.trim " b ") := by
    unfold HasSimpleName
    decide +kernel
  have full : (bare "B").HasFullName false (Text.trim " b ") := by
    unfold HasFullName
    decide +kernel
  have noFull : ∀ other ∈ types, ¬ other.HasFullName true (Text.trim " b ") := by
    intro other member
    rcases List.mem_pair.mp member with rfl | rfl
    · unfold HasFullName
      decide +kernel
    · unfold HasFullName
      decide +kernel
  obtain ⟨type, found⟩ := (eachMode true).1.mpr ⟨bare "N.A+b", by simp [types], .inr (.inl simple)⟩
  obtain ⟨other, otherFound⟩ := withoutCase ⟨type, found⟩
  obtain ⟨_, _, _, bySimple⟩ := (eachMode true).2 type found
  obtain ⟨_, _, byFull, _⟩ := (eachMode false).2 other otherFound
  exact ⟨⟨type, found, bySimple noFull ⟨bare "N.A+b", by simp [types], simple⟩⟩,
    ⟨other, otherFound, byFull ⟨bare "B", by simp [types], full⟩⟩⟩

/-! ## Either nesting form -/

/-- A name with a separator that means one type alone, whichever separator stands where, finds
it. -/
private theorem find_of_only
    (separated : Separated (Text.trim typeName))
    (member : type ∈ types)
    (hasName : type.HasDottedName caseSensitive (Text.trim typeName))
    (only : ∀ other ∈ types, other.HasDottedName caseSensitive (Text.trim typeName) →
      other = type) :
    find types typeName caseSensitive = .found type := by
  have notBlank : Text.isBlankText typeName = false := by
    rw [← Bool.not_eq_true, ← Text.isEmpty_trim_iff, String.isEmpty_iff]
    intro isEmpty
    rw [isEmpty] at separated
    rcases separated with dot | plus
    · cases dot
    · cases plus
  rcases find_cases notBlank types caseSensitive with ⟨other, found, resolves⟩ | ⟨_, noneMeant⟩
  · have isType : other = type := by
      apply only other resolves.mem
      rcases resolves.isMeantBy with fullName | simpleName | ⟨_, dottedName⟩
      · exact fullName.hasDottedName
      · exact absurd simpleName (not_hasSimpleName_of_separated separated)
      · exact dottedName
    rw [found, isType]
  · exact absurd (.inr (.inr ⟨separated, hasName⟩)) (noneMeant type member)

/-- If a name has a separator and is the full name of one type alone when both separators are read
alike, then it finds this type, and so does the name with any of its separators exchanged. -/
theorem found_in_either_nesting
    (separated : Separated (Text.trim typeName))
    (member : type ∈ types)
    (hasName : type.HasDottedName caseSensitive (Text.trim typeName))
    (only : ∀ other ∈ types, other.HasDottedName caseSensitive (Text.trim typeName) →
      other = type) :
    find types typeName caseSensitive = .found type ∧
      ∀ otherName, dotted (Text.trim otherName) = dotted (Text.trim typeName) →
        find types otherName caseSensitive = .found type := by
  refine ⟨find_of_only separated member hasName only, ?_⟩
  intro otherName sameDotted
  have sameMeaning (other : TypeDefinition) :
      other.HasDottedName caseSensitive (Text.trim otherName) ↔
        other.HasDottedName caseSensitive (Text.trim typeName) := by
    rw [HasDottedName, HasDottedName, QualifiedName.dotted_foldFor _ (Text.trim otherName),
      QualifiedName.dotted_foldFor _ (Text.trim typeName), sameDotted]
  have otherSeparated : Separated (Text.trim otherName) := by
    rw [← QualifiedName.dot_mem_dotted_iff, sameDotted, QualifiedName.dot_mem_dotted_iff]
    exact separated
  refine find_of_only otherSeparated member ((sameMeaning type).mpr hasName) ?_
  intro other otherMember otherHasName
  exact only other otherMember ((sameMeaning other).mp otherHasName)

/-- A nested type is found with a dot and with a plus sign, beside a type that has its simple
name. -/
theorem found_in_either_nesting_of_nested_type :
    let types : List TypeDefinition := [.bare "B", .bare "A+B"]
    find types " a.b" false = .found (.bare "A+B") ∧
      find types "a+b" false = .found (.bare "A+B") := by
  intro types
  have separated : Separated (Text.trim " a.b") :=
    .inl (by decide +kernel)
  have nested : (bare "A+B").HasDottedName false (Text.trim " a.b") := by
    unfold HasDottedName
    decide +kernel
  have only :
      ∀ other ∈ types, other.HasDottedName false (Text.trim " a.b") →
        other = bare "A+B" := by
    intro other member hasName
    rcases List.mem_pair.mp member with rfl | isNested
    · exact absurd hasName (by unfold HasDottedName; decide +kernel)
    · exact isNested
  have found := found_in_either_nesting separated (by simp [types]) nested only
  exact ⟨found.1, found.2 "a+b" (by decide +kernel)⟩

/-! ## The full name of a type -/

/-- Under the full name of a type, with or without regard to case, the type is found that has the
least of the full names that are the same up to folding.  This is the type itself exactly if no
lesser full name is the same, as it always is with regard to case. -/
theorem finds_least_of_own_fullName
    (distinct : (types.map fullName).Nodup)
    (member : type ∈ types)
    (trimmed : Text.Trimmed type.fullName.toList) :
    (∀ caseSensitive,
      (∃ found,
        find types type.fullName caseSensitive = .found found ∧
          LeastNamed (HasFullName caseSensitive type.fullName) types found) ∧
      (find types type.fullName caseSensitive = .found type ↔
        ∀ other ∈ types, other.HasFullName caseSensitive type.fullName →
          type.fullName ≤ other.fullName)) ∧
    find types type.fullName true = .found type := by
  refine ⟨fun caseSensitive => ?_, find_fullName distinct member trimmed⟩
  have ownName : type.HasFullName caseSensitive type.fullName :=
    rfl
  obtain ⟨found, foundIs, least⟩ :
      ∃ found,
        find types type.fullName caseSensitive = .found found ∧
          LeastNamed (HasFullName caseSensitive type.fullName) types found := by
    rcases find_cases trimmed.isBlankText_eq_false types caseSensitive with
      ⟨found, foundIs, resolves⟩ | ⟨_, noneMeant⟩
    · rw [trimmed.trim_eq] at resolves
      exact ⟨found, foundIs, resolves.leastNamed_of_fullName member ownName⟩
    · rw [trimmed.trim_eq] at noneMeant
      exact absurd (.inl ownName) (noneMeant type member)
  refine ⟨⟨found, foundIs, least⟩, ?_⟩
  rw [foundIs]
  constructor
  · intro isType
    cases isType
    exact least.least
  · intro typeLeast
    have sameName : found.fullName = type.fullName :=
      le_antisymm (least.least type member ownName) (typeLeast found least.member least.meant)
    exact congrArg Lookup.found (List.inj_on_of_nodup_map distinct least.member member sameName)

/-- Beside a type whose name has a small letter for the capital, a type is found under its own full
name, and the other one is with regard to case. -/
theorem finds_own_fullName_with_capital :
    let types : List TypeDefinition := [.bare "a", .bare "A"]
    find types "A" false = .found (.bare "A") ∧ find types "a" true = .found (.bare "a") := by
  intro types
  have distinct : (types.map fullName).Nodup := by
    decide
  have capital :=
    @finds_least_of_own_fullName types (.bare "A") distinct (by simp [types])
      ⟨⟨'A', [], rfl, rfl⟩, ⟨[], 'A', rfl, rfl⟩⟩
  have small :=
    @finds_least_of_own_fullName types (.bare "a") distinct (by simp [types])
      ⟨⟨'a', [], rfl, rfl⟩, ⟨[], 'a', rfl, rfl⟩⟩
  refine ⟨(capital.1 false).2.mpr fun other member _ => ?_, small.2⟩
  rcases List.mem_pair.mp member with rfl | rfl
  · decide +kernel
  · exact le_refl _

/-- Without regard to case, another type may be found under the full name of a type. -/
theorem finds_capital_under_small_fullName :
    ¬ ∀ (types : List TypeDefinition) (type : TypeDefinition) (caseSensitive : Bool),
      (types.map fullName).Nodup → type ∈ types → Text.Trimmed type.fullName.toList →
        find types type.fullName caseSensitive = .found type := by
  intro findsItself
  have found :=
    findsItself [.bare "a", .bare "A"] (.bare "a") false (by decide) List.mem_cons_self
      ⟨⟨'a', [], rfl, rfl⟩, ⟨[], 'a', rfl, rfl⟩⟩
  have sameFolded : (bare "A").HasFullName false (Text.trim "a") := by
    unfold HasFullName
    decide +kernel
  have capital : bare "A" ∈ [bare "a", bare "A"] := by
    simp
  have least :=
    (resolves_of_find (by decide +kernel) found).leastNamed_of_fullName capital sameFolded
  exact absurd (least.least _ capital sameFolded) (by decide +kernel)

end TypeDefinition

end TypeCatalog
