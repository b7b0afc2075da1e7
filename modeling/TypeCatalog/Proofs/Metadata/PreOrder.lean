import TypeCatalog.Proofs.Describe.NestedTypes
import TypeCatalog.Proofs.Metadata.DeclarationOrder

namespace TypeCatalog

/-!
# All types of a module in pre-order

A type of a module has a place: its index among the top-level types, or the place of the type that
it is nested in and its index there.  Places are compared index by index, so that a place comes
before those inside it, and those before the places of later siblings.  The types of a module are
listed in the order of their places, each once.

A walk with a stack, which finds the type on top and puts those nested in it there, lists them
likewise.
-/

/-! ## Places -/

namespace TypeDefinition

/-- The type that is reached from a type by the indices of nested types. -/
def below?
    (type : TypeDefinition) : List Nat → Option TypeDefinition
  | [] => some type
  | index :: rest => type.nestedTypes[index]?.bind fun nested => nested.below? rest

/-- The type at a place among types. -/
def atPlace?
    (types : List TypeDefinition) : List Nat → Option TypeDefinition
  | [] => none
  | index :: rest => types[index]?.bind fun type => type.below? rest

/-- Types listed in the order of their places, with every place that there is. -/
structure ListedByPlace
    (at? : List Nat → Option TypeDefinition)
    (places : List (List Nat))
    (types : List TypeDefinition) : Prop where
  found : List.Forall₂ (fun place type => at? place = some type) places types
  complete : ∀ place type, at? place = some type → place ∈ places
  ordered : places.Pairwise (· < ·)

theorem below?_cons
    (type : TypeDefinition)
    (index : Nat)
    (rest : List Nat) :
    type.below? (index :: rest) = atPlace? type.nestedTypes (index :: rest) :=
  rfl

theorem atPlace?_cons_succ
    (type : TypeDefinition)
    (types : List TypeDefinition)
    (index : Nat)
    (rest : List Nat) :
    atPlace? (type :: types) ((index + 1) :: rest) = atPlace? types (index :: rest) :=
  rfl

/-- The place of a type in a list to which one type was added in front. -/
def nextPlace : List Nat → List Nat
  | [] => []
  | index :: rest => (index + 1) :: rest

theorem exists_cons_of_atPlace?
    {types : List TypeDefinition}
    {type : TypeDefinition}
    {place : List Nat}
    (found : atPlace? types place = some type) :
    ∃ index rest, place = index :: rest := by
  cases place with
  | nil => cases found
  | cons index rest => exact ⟨index, rest, rfl⟩

theorem nextPlace_lt
    {one other : List Nat}
    (less : one < other)
    (isPlace : ∃ index rest, one = index :: rest) :
    nextPlace one < nextPlace other := by
  obtain ⟨index, rest, rfl⟩ := isPlace
  cases other with
  | nil => exact absurd less (List.not_lt_nil _)
  | cons otherIndex otherRest =>
      rw [List.cons_lt_cons_iff] at less
      rw [nextPlace, nextPlace, List.cons_lt_cons_iff]
      exact less.imp Nat.succ_lt_succ (And.imp_left (congrArg Nat.succ))

namespace ListedByPlace

variable {at? : List Nat → Option TypeDefinition} {places : List (List Nat)}
  {types : List TypeDefinition}

theorem exists_type_of_mem
    (listed : ListedByPlace at? places types)
    {place : List Nat}
    (member : place ∈ places) :
    ∃ type, at? place = some type := by
  have found := listed.found
  clear listed
  induction found with
  | nil => cases member
  | @cons first type others _ isThere _ inductionHypothesis =>
      rcases List.mem_cons.mp member with rfl | inOthers
      · exact ⟨type, isThere⟩
      · exact inductionHypothesis inOthers

theorem exists_cons_of_mem
    {forest : List TypeDefinition}
    (listed : ListedByPlace (atPlace? forest) places types)
    {place : List Nat}
    (member : place ∈ places) :
    ∃ index rest, place = index :: rest := by
  obtain ⟨_, found⟩ := listed.exists_type_of_mem member
  exact exists_cons_of_atPlace? found

theorem nil : ListedByPlace (atPlace? []) [] [] where
  found := .nil
  complete := by
    intro place type found
    obtain ⟨index, rest, rfl⟩ := exists_cons_of_atPlace? found
    cases found
  ordered := .nil

/-- A type comes before those nested in it. -/
theorem outer
    {type : TypeDefinition}
    (listed : ListedByPlace (atPlace? type.nestedTypes) places types) :
    ListedByPlace type.below? ([] :: places) (type :: types) where
  found := by
    refine .cons rfl (listed.found.imp fun place nested found => ?_)
    obtain ⟨index, rest, rfl⟩ := exists_cons_of_atPlace? found
    rw [below?_cons, found]
  complete := by
    intro place nested found
    cases place with
    | nil => exact List.mem_cons_self
    | cons index rest => exact List.mem_cons_of_mem [] (listed.complete _ nested found)
  ordered := by
    refine listed.ordered.cons fun place member => ?_
    obtain ⟨index, rest, rfl⟩ := listed.exists_cons_of_mem member
    exact List.nil_lt_cons index rest

/-- A type and all those nested in it come before its later siblings. -/
theorem sibling
    {type : TypeDefinition}
    {rest others : List TypeDefinition}
    {otherPlaces : List (List Nat)}
    (first : ListedByPlace type.below? places types)
    (later : ListedByPlace (atPlace? rest) otherPlaces others) :
    ListedByPlace (atPlace? (type :: rest)) (places.map (0 :: ·) ++ otherPlaces.map nextPlace)
      (types ++ others) where
  found := by
    refine List.rel_append ?_ ?_
    · exact List.forall₂_map_left_iff.mpr first.found
    · refine List.forall₂_map_left_iff.mpr (later.found.imp fun place other found => ?_)
      obtain ⟨index, inside, rfl⟩ := exists_cons_of_atPlace? found
      rw [nextPlace, atPlace?_cons_succ, found]
  complete := by
    intro place found isThere
    obtain ⟨index, inside, rfl⟩ := exists_cons_of_atPlace? isThere
    rw [List.mem_append]
    cases index with
    | zero =>
        exact .inl (List.mem_map_of_mem (first.complete inside found isThere))
    | succ index =>
        rw [atPlace?_cons_succ] at isThere
        exact .inr (List.mem_map_of_mem (f := nextPlace) (later.complete _ found isThere))
  ordered := by
    refine List.pairwise_append.mpr ⟨?_, ?_, ?_⟩
    · refine List.pairwise_map.mpr (first.ordered.imp fun less => ?_)
      exact List.cons_lt_cons_iff.mpr (.inr ⟨rfl, less⟩)
    · refine List.pairwise_map.mpr (later.ordered.imp_of_mem fun member _ less => ?_)
      exact nextPlace_lt less (later.exists_cons_of_mem member)
    · intro place isFirst other isLater
      obtain ⟨inside, _, rfl⟩ := List.mem_map.mp isFirst
      obtain ⟨before, member, rfl⟩ := List.mem_map.mp isLater
      obtain ⟨index, otherInside, rfl⟩ := later.exists_cons_of_mem member
      exact List.cons_lt_cons_iff.mpr (.inl (Nat.succ_pos index))

end ListedByPlace

/-- The types of trees are listed by their places if those of each tree are. -/
theorem exists_listedByPlace_of_each
    {types : List TypeDefinition}
    (each : ∀ type ∈ types, ∃ places, ListedByPlace type.below? places type.flatten) :
    ∃ places, ListedByPlace (atPlace? types) places (flattenAll types) := by
  induction types with
  | nil =>
      exact ⟨[], .nil⟩
  | cons type rest inductionHypothesis =>
      obtain ⟨firstListed, restListed⟩ := List.forall_mem_cons.mp each
      obtain ⟨places, first⟩ := firstListed
      obtain ⟨otherPlaces, later⟩ := inductionHypothesis restListed
      rw [flattenAll]
      exact ⟨_, first.sibling later⟩

theorem exists_listedByPlace_flatten (type : TypeDefinition) :
    ∃ places, ListedByPlace type.below? places type.flatten := by
  induction type using nestedInduction with
  | nest type each =>
      obtain ⟨places, listed⟩ := exists_listedByPlace_of_each each
      rw [flatten_eq, ← flattenAll_eq_flatMap]
      exact ⟨[] :: places, listed.outer⟩

theorem exists_listedByPlace (types : List TypeDefinition) :
    ∃ places, ListedByPlace (atPlace? types) places (flattenAll types) :=
  exists_listedByPlace_of_each fun type _ => exists_listedByPlace_flatten type

/-! ## What an order leaves of the sequence -/

mutual

theorem flatten_withoutTokens :
    ∀ type : TypeDefinition, type.withoutTokens.flatten = type.flatten.map withoutTokens
  | ⟨_, _, _, _, _, _, _, _, _, _, _, _, _, _, nestedTypes⟩ => by
      rw [withoutTokens, flatten, flatten, flattenAll_listWithoutTokens nestedTypes, List.map_cons,
        withoutTokens]

theorem flattenAll_listWithoutTokens :
    ∀ types : List TypeDefinition,
      flattenAll (listWithoutTokens types) = (flattenAll types).map withoutTokens
  | [] => rfl
  | type :: rest => by
      rw [listWithoutTokens, flattenAll, flattenAll, flatten_withoutTokens type,
        flattenAll_listWithoutTokens rest, List.map_append]

end

end TypeDefinition

/-! ## Walking with a stack -/

/-- A walk over types: those that were found, in turn, and those on the stack, the top one last. -/
structure TypeWalk where
  found : List TypeDefinition
  stack : List TypeDefinition

namespace TypeWalk

/-- A walk that has found nothing yet, with types on the stack, the first of them on top. -/
def start (types : List TypeDefinition) : TypeWalk :=
  ⟨[], types.reverse⟩

/-- One turn of a walk: the type on top of the stack is found, and those nested in it take its
place, the first of them on top.  Without a type on the stack there is no turn. -/
def turn? (walk : TypeWalk) : Option TypeWalk :=
  walk.stack.getLast?.map fun type =>
    ⟨walk.found ++ [type], walk.stack.dropLast ++ type.nestedTypes.reverse⟩

/-- The types that a walk has found when there is no further turn. -/
inductive Finds : TypeWalk → List TypeDefinition → Prop where
  | done {walk : TypeWalk} :
      walk.turn? = none →
      Finds walk walk.found
  | turn {walk next : TypeWalk} {types : List TypeDefinition} :
      walk.turn? = some next →
      Finds next types →
      Finds walk types

/-- The types under those on the stack, from its top on. -/
def ahead (walk : TypeWalk) : List TypeDefinition :=
  TypeDefinition.flattenAll walk.stack.reverse

theorem turn?_eq_none_iff (walk : TypeWalk) : walk.turn? = none ↔ walk.stack = [] := by
  rw [turn?, Option.map_eq_none_iff, List.getLast?_eq_none_iff]

/-- A turn finds the first type that lies ahead. -/
theorem turn_takes_first
    {walk next : TypeWalk}
    (turned : walk.turn? = some next) :
    ∃ type, next.found = walk.found ++ [type] ∧ walk.ahead = type :: next.ahead := by
  obtain ⟨type, isTop, rfl⟩ := Option.map_eq_some_iff.mp turned
  obtain ⟨below, stackIs⟩ := List.getLast?_eq_some_iff.mp isTop
  refine ⟨type, rfl, ?_⟩
  simp only [ahead, stackIs, TypeDefinition.flattenAll_eq_flatMap, List.dropLast_concat,
    List.reverse_append, List.reverse_reverse, List.reverse_singleton, List.flatMap_cons,
    List.flatMap_append, List.nil_append, List.cons_append,
    TypeDefinition.flatten_eq type]

theorem Finds.eq
    {walk : TypeWalk}
    {types : List TypeDefinition}
    (finds : walk.Finds types) :
    types = walk.found ++ walk.ahead := by
  induction finds with
  | @done walk isOver =>
      rw [ahead, (turn?_eq_none_iff walk).mp isOver, List.reverse_nil, TypeDefinition.flattenAll,
        List.append_nil]
  | turn turned _ inductionHypothesis =>
      obtain ⟨type, foundIs, aheadIs⟩ := turn_takes_first turned
      rw [inductionHypothesis, foundIs, aheadIs, List.append_assoc, List.singleton_append]

/-- A walk comes to its end, since each turn leaves less ahead. -/
theorem finds_all (walk : TypeWalk) : walk.Finds (walk.found ++ walk.ahead) := by
  cases turned : walk.turn? with
  | none =>
      have isOver : walk.Finds walk.found := .done turned
      rwa [isOver.eq] at isOver
  | some next =>
      obtain ⟨type, foundIs, aheadIs⟩ := turn_takes_first turned
      have finds := finds_all next
      rw [foundIs, List.append_assoc, List.singleton_append, ← aheadIs] at finds
      exact .turn turned finds
termination_by walk.ahead.length
decreasing_by
  rw [aheadIs, List.length_cons]
  exact Nat.lt_succ_self _

theorem finds_start_iff
    {types found : List TypeDefinition} :
    (start types).Finds found ↔ found = TypeDefinition.flattenAll types := by
  have aheadIs : (start types).ahead = TypeDefinition.flattenAll types := by
    rw [ahead, start, List.reverse_reverse]
  have finds := finds_all (start types)
  rw [aheadIs] at finds
  constructor
  · intro others
    rw [others.eq, aheadIs]
    rfl
  · rintro rfl
    exact finds

end TypeWalk

/-- All types of a module are listed in the order of their places, each place once.  A walk with a
stack comes to an end and finds the same types in the same order.  Assigning a declaration order
first changes nothing but tokens in this sequence. -/
theorem ModuleDefinition.allTypes_in_preOrder (definition : ModuleDefinition) :
    (∃ places,
      TypeDefinition.ListedByPlace (TypeDefinition.atPlace? definition.types) places
        definition.allTypes) ∧
    (∀ found, (TypeWalk.start definition.types).Finds found ↔ found = definition.allTypes) ∧
    definition.assignDeclarationOrder.allTypes.map TypeDefinition.withoutTokens =
      definition.allTypes.map TypeDefinition.withoutTokens := by
  refine ⟨TypeDefinition.exists_listedByPlace definition.types,
    fun found => TypeWalk.finds_start_iff, ?_⟩
  rw [allTypes, allTypes, assignDeclarationOrder, ← TypeDefinition.flattenAll_listWithoutTokens,
    ← TypeDefinition.flattenAll_listWithoutTokens, TypeDefinition.listWithoutTokens_numberAll]

end TypeCatalog
