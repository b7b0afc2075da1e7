import Mathlib.Data.List.Forall2
import Mathlib.Data.List.Nodup
import TypeCatalog.Metadata.TypeDefinition

namespace TypeCatalog

/-!
# Declaration order

Types and members without a token get their place among their siblings as one.  A token that a
module states is kept, so it can be the place of a sibling without one: only then do siblings whose
stated tokens differ share a token afterwards.
-/

/-! ## The tokens of siblings -/

/-- The token of a type or a member at an index among its siblings: its own, or else its place. -/
def tokenAt (index : Nat) (token : Int) : Int :=
  if token = 0 then index + 1 else token

/-- What an order makes of the tokens of siblings.  Stated tokens are kept and the others become
places, so that all differ if the stated ones do and none of these is the place of a sibling
without a token. -/
structure OrderAssigned (before after : List Int) : Prop where
  length_eq : after.length = before.length
  stated_kept : ∀ (index : Nat) (token : Int), token ≠ 0 →
    before[index]? = some token → after[index]? = some token
  omitted_placed : ∀ index : Nat, before[index]? = some 0 → after[index]? = some (index + 1 : Int)
  omitted_inOrder : ∀ first second : Nat, first < second →
    before[first]? = some 0 → before[second]? = some 0 →
      ∃ one other, after[first]? = some one ∧ after[second]? = some other ∧ one < other
  nonzero : 0 ∉ after
  nodup_iff :
    after.Nodup ↔
      (before.filter fun token => token ≠ 0).Nodup ∧
        ∀ index : Nat, before[index]? = some 0 → (index + 1 : Int) ∉ before

theorem tokenAt_ne_zero (index : Nat) (token : Int) : tokenAt index token ≠ 0 := by
  unfold tokenAt
  split
  · omega
  · assumption

theorem nodup_mapIdx_tokenAt_iff (tokens : List Int) :
    (tokens.mapIdx tokenAt).Nodup ↔
      (tokens.filter fun token => token ≠ 0).Nodup ∧
        ∀ index : Nat, tokens[index]? = some 0 → (index + 1 : Int) ∉ tokens := by
  constructor
  · intro distinct
    have sameIndex : ∀ (one other : Nat) (oneIn : one < tokens.length)
        (otherIn : other < tokens.length),
        tokenAt one tokens[one] = tokenAt other tokens[other] → one = other := by
      intro one other oneIn otherIn same
      have oneInPlaced : one < (tokens.mapIdx tokenAt).length := by
        rwa [List.length_mapIdx]
      have otherInPlaced : other < (tokens.mapIdx tokenAt).length := by
        rwa [List.length_mapIdx]
      have samePlaced :
          (tokens.mapIdx tokenAt)[one] = (tokens.mapIdx tokenAt)[other] := by
        rw [List.getElem_mapIdx, List.getElem_mapIdx, same]
      exact distinct.getElem_inj_iff.mp samePlaced
    constructor
    · rw [List.Nodup, List.pairwise_filter, List.pairwise_iff_getElem]
      intro one other oneIn otherIn less oneStated otherStated same
      have sameToken : tokenAt one tokens[one] = tokenAt other tokens[other] := by
        simp_all [tokenAt]
      exact Nat.ne_of_lt less (sameIndex one other oneIn otherIn sameToken)
    · intro index omitted taken
      obtain ⟨indexIn, isOmitted⟩ := List.getElem?_eq_some_iff.mp omitted
      obtain ⟨other, otherIn, isPlace⟩ := List.mem_iff_getElem.mp taken
      have sameToken : tokenAt index tokens[index] = tokenAt other tokens[other] := by
        rw [tokenAt, if_pos isOmitted, tokenAt, isPlace, if_neg (by omega)]
      obtain rfl := sameIndex index other indexIn otherIn sameToken
      omega
  · rintro ⟨statedDistinct, notTaken⟩
    rw [List.Nodup, List.pairwise_filter, List.pairwise_iff_getElem] at statedDistinct
    rw [List.Nodup, List.pairwise_iff_getElem]
    intro one other oneIn otherIn less same
    rw [List.length_mapIdx] at oneIn otherIn
    rw [List.getElem_mapIdx, List.getElem_mapIdx, tokenAt, tokenAt] at same
    by_cases oneOmitted : tokens[one] = 0
    · by_cases otherOmitted : tokens[other] = 0
      · rw [if_pos oneOmitted, if_pos otherOmitted] at same
        omega
      · rw [if_pos oneOmitted, if_neg otherOmitted] at same
        exact notTaken one (List.getElem?_eq_some_iff.mpr ⟨oneIn, oneOmitted⟩)
          (same ▸ List.getElem_mem otherIn)
    · by_cases otherOmitted : tokens[other] = 0
      · rw [if_neg oneOmitted, if_pos otherOmitted] at same
        exact notTaken other (List.getElem?_eq_some_iff.mpr ⟨otherIn, otherOmitted⟩)
          (same ▸ List.getElem_mem oneIn)
      · rw [if_neg oneOmitted, if_neg otherOmitted] at same
        exact statedDistinct one other oneIn otherIn less (by simpa using oneOmitted)
          (by simpa using otherOmitted) same

theorem orderAssigned_mapIdx (tokens : List Int) :
    OrderAssigned tokens (tokens.mapIdx tokenAt) where
  length_eq := List.length_mapIdx
  stated_kept := by
    intro index token stated isToken
    rw [List.getElem?_mapIdx, isToken, Option.map_some, tokenAt, if_neg stated]
  omitted_placed := by
    intro index omitted
    rw [List.getElem?_mapIdx, omitted]
    rfl
  omitted_inOrder := by
    intro first second less firstOmitted secondOmitted
    refine ⟨first + 1, second + 1, ?_, ?_, by omega⟩
    · rw [List.getElem?_mapIdx, firstOmitted]
      rfl
    · rw [List.getElem?_mapIdx, secondOmitted]
      rfl
  nonzero := by
    intro isZero
    obtain ⟨index, _, zero⟩ := List.mem_mapIdx.mp isZero
    exact tokenAt_ne_zero index _ zero
  nodup_iff := nodup_mapIdx_tokenAt_iff tokens

/-! ## Groups of siblings -/

namespace TypeDefinition

/-- The tokens of the members of a type, and those of the types nested in it. -/
def siblingTokens (type : TypeDefinition) : List (List Int) :=
  [type.members.map MemberFact.token, type.nestedTypes.map token]

theorem token_numberMembers (members : List MemberFact) :
    (numberMembers members).map MemberFact.token =
      (members.map MemberFact.token).mapIdx tokenAt := by
  refine List.ext_getElem? fun index => ?_
  rw [numberMembers, List.getElem?_map, List.getElem?_mapIdx, List.getElem?_mapIdx,
    List.getElem?_map, Option.map_map, Option.map_map]
  congr 1
  funext member
  simp only [Function.comp_apply, tokenAt]
  split <;> rfl

theorem getElem?_numberAll
    (position : Int)
    (types : List TypeDefinition)
    (index : Nat) :
    (numberAll position types)[index]? = types[index]?.map (number (position + index)) := by
  induction types generalizing position index with
  | nil =>
      rfl
  | cons type rest inductionHypothesis =>
      cases index with
      | zero =>
          rw [numberAll, List.getElem?_cons_zero, List.getElem?_cons_zero, Int.natCast_zero,
            Int.add_zero, Option.map_some]
      | succ index =>
          rw [numberAll, List.getElem?_cons_succ, List.getElem?_cons_succ, inductionHypothesis,
            Int.natCast_succ, Int.add_assoc, Int.add_comm 1]

theorem token_numberAll (types : List TypeDefinition) :
    (numberAll 1 types).map token = (types.map token).mapIdx tokenAt := by
  refine List.ext_getElem? fun index => ?_
  rw [List.getElem?_map, getElem?_numberAll, List.getElem?_mapIdx, List.getElem?_map,
    Option.map_map, Option.map_map]
  congr 1
  funext type
  cases type
  rw [Function.comp_apply, Function.comp_apply, number, tokenAt, Int.add_comm]

theorem siblingTokens_number
    (position : Int)
    (type : TypeDefinition) :
    (number position type).siblingTokens =
      type.siblingTokens.map fun tokens => tokens.mapIdx tokenAt := by
  cases type
  rw [number, siblingTokens, token_numberMembers, token_numberAll]
  rfl

mutual

/-- The places of siblings do not depend on the place of the type that they stand in. -/
theorem siblingTokens_flatten_number :
    ∀ (position : Int) (type : TypeDefinition),
      (number position type).flatten.flatMap siblingTokens =
        (type.flatten.flatMap siblingTokens).map fun tokens => tokens.mapIdx tokenAt
  | position, ⟨fullName, kind, accessibility, token, isAbstract, isSealed, isGenericDefinition,
      declaringType?, baseType?, interfaces, attributes, genericParameters, members, docs?,
      nestedTypes⟩ => by
      have own :=
        siblingTokens_number position
          ⟨fullName, kind, accessibility, token, isAbstract, isSealed, isGenericDefinition,
            declaringType?, baseType?, interfaces, attributes, genericParameters, members, docs?,
            nestedTypes⟩
      rw [number] at own ⊢
      rw [flatten, flatten, List.flatMap_cons, List.flatMap_cons, List.map_append, own,
        siblingTokens_flattenAll_numberAll 1 nestedTypes]

theorem siblingTokens_flattenAll_numberAll :
    ∀ (position : Int) (types : List TypeDefinition),
      (flattenAll (numberAll position types)).flatMap siblingTokens =
        ((flattenAll types).flatMap siblingTokens).map fun tokens => tokens.mapIdx tokenAt
  | _, [] => rfl
  | position, type :: rest => by
      rw [numberAll, flattenAll, flattenAll, List.flatMap_append, List.flatMap_append,
        List.map_append, siblingTokens_flatten_number position type,
        siblingTokens_flattenAll_numberAll (position + 1) rest]

end

/-! ## What an order leaves as it was -/

mutual

/-- A type with no tokens, neither its own nor those of its members and nested types. -/
def withoutTokens : TypeDefinition → TypeDefinition
  | ⟨fullName, kind, accessibility, _, isAbstract, isSealed, isGenericDefinition,
      declaringType?, baseType?, interfaces, attributes, genericParameters, members, docs?,
      nestedTypes⟩ =>
    ⟨fullName, kind, accessibility, 0, isAbstract, isSealed, isGenericDefinition,
      declaringType?, baseType?, interfaces, attributes, genericParameters,
      members.map fun member => { member with token := 0 }, docs?, listWithoutTokens nestedTypes⟩

/-- Types with no tokens. -/
def listWithoutTokens : List TypeDefinition → List TypeDefinition
  | [] => []
  | type :: rest => withoutTokens type :: listWithoutTokens rest

end

theorem withoutTokens_numberMembers (members : List MemberFact) :
    ((numberMembers members).map fun member => { member with token := 0 }) =
      members.map fun member => { member with token := 0 } := by
  refine List.ext_getElem? fun index => ?_
  rw [numberMembers, List.getElem?_map, List.getElem?_mapIdx, List.getElem?_map, Option.map_map]
  congr 1
  funext member
  rw [Function.comp_apply]
  split <;> rfl

mutual

theorem withoutTokens_number :
    ∀ (position : Int) (type : TypeDefinition),
      (number position type).withoutTokens = type.withoutTokens
  | _, ⟨_, _, _, _, _, _, _, _, _, _, _, _, _, _, nestedTypes⟩ => by
      rw [number, withoutTokens, withoutTokens, withoutTokens_numberMembers,
        listWithoutTokens_numberAll 1 nestedTypes]

theorem listWithoutTokens_numberAll :
    ∀ (position : Int) (types : List TypeDefinition),
      listWithoutTokens (numberAll position types) = listWithoutTokens types
  | _, [] => rfl
  | position, type :: rest => by
      rw [numberAll, listWithoutTokens, listWithoutTokens, withoutTokens_number position type,
        listWithoutTokens_numberAll (position + 1) rest]

end

end TypeDefinition

namespace ModuleDefinition

/-- The tokens of every group of siblings: of the top-level types, of the members of each type and
of the types nested in it. -/
def siblingTokens (definition : ModuleDefinition) : List (List Int) :=
  definition.types.map TypeDefinition.token ::
    definition.allTypes.flatMap TypeDefinition.siblingTokens

/-- A module with no tokens. -/
def withoutTokens (definition : ModuleDefinition) : ModuleDefinition :=
  { definition with types := TypeDefinition.listWithoutTokens definition.types }

theorem siblingTokens_assignDeclarationOrder (definition : ModuleDefinition) :
    definition.assignDeclarationOrder.siblingTokens =
      definition.siblingTokens.map fun tokens => tokens.mapIdx tokenAt := by
  rw [siblingTokens, siblingTokens, List.map_cons, assignDeclarationOrder,
    TypeDefinition.token_numberAll]
  exact congrArg _ (TypeDefinition.siblingTokens_flattenAll_numberAll 1 definition.types)

/-- Assigning a declaration order changes nothing but tokens.  In each group of siblings it keeps
those that are stated and makes the others places, in the order in which the siblings are listed.
Afterwards no token is left out, and siblings share one exactly if they did before or if one states
the place of another one that states none. -/
theorem assignDeclarationOrder_fills_places (definition : ModuleDefinition) :
    List.Forall₂ OrderAssigned definition.siblingTokens
        definition.assignDeclarationOrder.siblingTokens ∧
      definition.assignDeclarationOrder.withoutTokens = definition.withoutTokens := by
  constructor
  · rw [siblingTokens_assignDeclarationOrder, List.forall₂_map_right_iff, List.forall₂_same]
    exact fun tokens _ => orderAssigned_mapIdx tokens
  · rw [withoutTokens, withoutTokens, assignDeclarationOrder,
      TypeDefinition.listWithoutTokens_numberAll]

/-- A module with a type that states the place of the type after it. -/
def ofStatedPlace : ModuleDefinition :=
  ⟨"M", "",
    [⟨"A", .classType, .public, 2, false, false, false, none, none, [], [], [], [], none, []⟩,
      ⟨"B", .classType, .public, 0, false, false, false, none, none, [], [], [], [], none, []⟩]⟩

/-- Types of which no two state the same token share one afterwards. -/
theorem stated_place_is_shared :
    (∀ tokens ∈ ofStatedPlace.siblingTokens, (tokens.filter fun token => token ≠ 0).Nodup) ∧
      ¬ ∀ tokens ∈ ofStatedPlace.assignDeclarationOrder.siblingTokens, tokens.Nodup := by
  decide

end ModuleDefinition

end TypeCatalog
