import Mathlib.Data.List.Permutation
import Mathlib.Data.Prod.Lex
import TypeCatalog.Proofs.Cache.UnderKey
import TypeCatalog.Proofs.Session.Preparation
import TypeCatalog.Proofs.Source.ReadingOrder

namespace TypeCatalog

/-!
# Queries by name and the order of reading

Members with one name are sorted by kind, signature and declaring type.  Two members that agree in
all three tie and stay in the order in which they were read.  So the answer does not depend on the
order of reading if members that tie are shown alike, and it does where they are not: a signature
names types without their namespaces, so two overloads can have the same.
-/

namespace MemberDescriptor

/-- Members that sorting by name does not tell apart. -/
structure TiesWith
    (first second : MemberDescriptor) : Prop where
  kind_eq : first.kind = second.kind
  signature_eq : first.signature = second.signature
  declaringType_eq : first.declaringType = second.declaringType

/-- What members with one name are sorted by. -/
def nameRank (member : MemberDescriptor) : String ×ₗ String ×ₗ String :=
  toLex (member.kind.word, toLex (member.signature, member.declaringType))

theorem TiesWith.nameRank_eq
    {first second : MemberDescriptor}
    (ties : first.TiesWith second) :
    first.nameRank = second.nameRank := by
  rw [nameRank, nameRank, ties.kind_eq, ties.signature_eq, ties.declaringType_eq]

end MemberDescriptor

theorem MemberKind.eq_of_word_eq
    {first second : MemberKind}
    (same : first.word = second.word) :
    first = second := by
  revert same
  cases first <;> cases second <;> decide

namespace Answer

theorem namedAtMost_iff
    (first second : MemberDescriptor) :
    namedAtMost first second = true ↔ first.nameRank ≤ second.nameRank := by
  simp only [namedAtMost, MemberDescriptor.nameRank, Prod.Lex.toLex_le_toLex, Text.atMost,
    Sorting.ite_lt_iff, decide_eq_true_eq]

private theorem namedAtMost_trans
    (first second third : MemberDescriptor)
    (firstAtMost : namedAtMost first second = true)
    (secondAtMost : namedAtMost second third = true) :
    namedAtMost first third = true := by
  rw [namedAtMost_iff] at firstAtMost secondAtMost ⊢
  exact le_trans firstAtMost secondAtMost

private theorem namedAtMost_total (first second : MemberDescriptor) :
    (namedAtMost first second || namedAtMost second first) = true := by
  rw [Bool.or_eq_true, namedAtMost_iff, namedAtMost_iff]
  exact le_total _ _

/-- Members tie if each may stand before the other. -/
theorem tiesWith_of_namedAtMost
    {first second : MemberDescriptor}
    (firstAtMost : namedAtMost first second = true)
    (secondAtMost : namedAtMost second first = true) :
    first.TiesWith second := by
  rw [namedAtMost_iff] at firstAtMost secondAtMost
  have sameRank := le_antisymm firstAtMost secondAtMost
  obtain ⟨sameWord, sameRest⟩ := Prod.mk.inj (toLex.injective sameRank)
  obtain ⟨sameSignature, sameDeclaring⟩ := Prod.mk.inj (toLex.injective sameRest)
  exact ⟨MemberKind.eq_of_word_eq sameWord, sameSignature, sameDeclaring⟩

/-- A member as a view shows it. -/
def itemOf : NameView → MemberDescriptor → Value
  | .lookup => MemberDescriptor.toValue
  | .documentation => documentedMember

/-- The members of some descriptors with a name, as a view shows them, do not depend on the order
of the descriptors if those that tie are shown alike. -/
theorem map_namedMembers_eq_of_perm
    {view : NameView}
    {first second : List MemberDescriptor}
    (perm : first.Perm second)
    (tiesAlike : ∀ one ∈ first, ∀ other ∈ first, one.TiesWith other →
      itemOf view one = itemOf view other)
    (memberName : String)
    (caseSensitive : Bool) :
    (namedMembers memberName caseSensitive first).map (itemOf view) =
      (namedMembers memberName caseSensitive second).map (itemOf view) := by
  refine Sorting.map_mergeSort_eq_of_perm namedAtMost_trans namedAtMost_total (perm.filter _) ?_
  intro one oneMember other otherMember firstAtMost secondAtMost
  exact tiesAlike one (List.mem_of_mem_filter oneMember) other
    (List.mem_of_mem_filter otherMember) (tiesWith_of_namedAtMost firstAtMost secondAtMost)

/-- Members that tie are shown in the order in which they were read. -/
theorem namedMembers_eq_filter_of_ties
    {members : List MemberDescriptor}
    (tie : ∀ one ∈ members, ∀ other ∈ members, one.TiesWith other)
    (memberName : String)
    (caseSensitive : Bool) :
    namedMembers memberName caseSensitive members =
      members.filter fun member =>
        Text.foldFor caseSensitive member.name == Text.foldFor caseSensitive memberName := by
  refine List.mergeSort_of_pairwise (List.pairwise_of_forall_mem_list ?_)
  intro one oneMember other otherMember
  have ties :=
    tie one (List.mem_of_mem_filter oneMember) other (List.mem_of_mem_filter otherMember)
  exact (namedAtMost_iff one other).mpr ties.nameRank_eq.le

theorem namedMembers_perm
    {first second : List MemberDescriptor}
    (perm : first.Perm second)
    (memberName : String)
    (caseSensitive : Bool) :
    (namedMembers memberName caseSensitive first).Perm
      (namedMembers memberName caseSensitive second) :=
  (List.mergeSort_perm _ _).trans ((perm.filter _).trans (List.mergeSort_perm _ _).symm)

/-- The fields of a view of members follow from their number, from how many are documented, and
from the members as the view shows them. -/
theorem namedFields_congr
    {view : NameView}
    {first second : List MemberDescriptor}
    (perm : first.Perm second)
    (sameItems : first.map (itemOf view) = second.map (itemOf view)) :
    namedFields view first = namedFields view second := by
  cases view with
  | lookup =>
      exact congrArg (fun items => [("items", Value.list items)]) sameItems
  | documentation =>
      change first.map documentedMember = second.map documentedMember at sameItems
      rw [namedFields, namedFields, perm.countP_eq, sameItems]

end Answer

/-- A type whose members do not show in which order they were read: those that tie are shown alike,
and those that cannot be described fail alike. -/
structure TypeDefinition.HidesOrder
    (type : TypeDefinition)
    (view : NameView) : Prop where
  tiesAlike : ∀ first ∈ type.members, ∀ second ∈ type.members,
    (MemberDescriptor.describe first).TiesWith (MemberDescriptor.describe second) →
      Answer.itemOf view (MemberDescriptor.describe first) =
        Answer.itemOf view (MemberDescriptor.describe second)
  faultsAlike : ∀ first ∈ type.members, ∀ second ∈ type.members, ∀ crash other,
    first.describeFault? = some crash → second.describeFault? = some other → crash = other

/-- A module whose types have different full names and do not show in which order their members
were read. -/
structure OpenModule.HidesOrder
    (opened : OpenModule)
    (view : NameView) : Prop where
  namesDistinct : (opened.definition.allTypes.map TypeDefinition.fullName).Nodup
  members : ∀ type ∈ opened.definition.allTypes, type.HidesOrder view

/-- Members that can all be described, and of which no two agree in kind, signature and declaring
type, do not show in which order they were read. -/
theorem TypeDefinition.hidesOrder_of_nodup
    {type : TypeDefinition}
    (distinct :
      (type.members.map fun member => (MemberDescriptor.describe member).nameRank).Nodup)
    (describable : ∀ member ∈ type.members, member.describeFault? = none)
    (view : NameView) :
    type.HidesOrder view := by
  constructor
  · intro first firstMember second secondMember ties
    rw [List.inj_on_of_nodup_map distinct firstMember secondMember ties.nameRank_eq]
  · intro first firstMember second secondMember crash other isCrash
    rw [describable first firstMember] at isCrash
    cases isCrash

private theorem OpenModule.mem_of_mem_membersOf
    {opened : OpenModule}
    {type : TypeDefinition}
    {visibility : Visibility}
    {member : MemberFact}
    (isVisible : member ∈ opened.membersOf type visibility) :
    member ∈ type.members :=
  List.mem_of_mem_filter ((opened.inReadingOrder_perm _).mem_iff.mp isVisible)

namespace TypeDefinition.HidesOrder

variable {type : TypeDefinition} {view : NameView}

private theorem itemOf_eq_of_tie
    (hidesOrder : type.HidesOrder view)
    (opened : OpenModule)
    (visibility : Visibility) :
    let described :=
      MemberDescriptor.describeAll MemberKind.all (opened.membersOf type visibility)
    ∀ one ∈ described, ∀ other ∈ described, one.TiesWith other →
      Answer.itemOf view one = Answer.itemOf view other := by
  intro described one oneMember other otherMember ties
  obtain ⟨oneFact, oneIn, rfl⟩ := List.mem_map.mp oneMember
  obtain ⟨otherFact, otherIn, rfl⟩ := List.mem_map.mp otherMember
  exact hidesOrder.tiesAlike oneFact
    (OpenModule.mem_of_mem_membersOf (List.mem_of_mem_filter oneIn)) otherFact
    (OpenModule.mem_of_mem_membersOf (List.mem_of_mem_filter otherIn)) ties

private theorem firstFault?_eq
    {other : TypeDefinition}
    (hidesOrder : type.HidesOrder view)
    (sameMembers : type.SameMembers other)
    (first second : OpenModule)
    (visibility : Visibility) :
    MemberFact.firstFault? MemberKind.all (first.membersOf type visibility) =
      MemberFact.firstFault? MemberKind.all (second.membersOf other visibility) := by
  have visiblePerm := OpenModule.membersOf_perm first second sameMembers visibility
  refine Sorting.findSome?_eq_of_perm (visiblePerm.filter _) ?_
  intro one oneMember another anotherMember
  exact hidesOrder.faultsAlike one
    (OpenModule.mem_of_mem_membersOf (List.mem_of_mem_filter oneMember)) another
    (OpenModule.mem_of_mem_membersOf (List.mem_of_mem_filter anotherMember))

end TypeDefinition.HidesOrder

namespace Answer

/-- A query by name finds the same in modules that are the same up to the order of reading. -/
theorem named_eq_of_sameUpToOrder
    {view : NameView}
    {first second : OpenModule}
    (same : first.SameUpToOrder second)
    (hidesOrder : first.HidesOrder view)
    (stamp : ModuleStamp)
    (typeName memberName : String)
    (options : FilterOptions)
    (visibility : Visibility) :
    named stamp view typeName memberName options visibility first =
      named stamp view typeName memberName options visibility second := by
  unfold named
  rcases OpenModule.type_of_sameUpToOrder same hidesOrder.namesDistinct typeName
      options.caseSensitive with
    ⟨failure, firstFails, secondFails⟩ | ⟨type, other, firstHas, secondHas, member, sameMembers⟩
  · rw [firstFails, secondFails]
    rfl
  · have typeHides := hidesOrder.members type member
    have visiblePerm := OpenModule.membersOf_perm first second sameMembers visibility
    have sameFault := typeHides.firstFault?_eq sameMembers first second visibility
    have describedPerm :
        (MemberDescriptor.describeAll MemberKind.all (first.membersOf type visibility)).Perm
          (MemberDescriptor.describeAll MemberKind.all (second.membersOf other visibility)) :=
      (visiblePerm.filter _).map _
    have sameItems :=
      map_namedMembers_eq_of_perm describedPerm (typeHides.itemOf_eq_of_tie first visibility)
        memberName options.caseSensitive
    have namedPerm := namedMembers_perm describedPerm memberName options.caseSensitive
    rw [firstHas, secondHas]
    simp only [bind, Except.bind, sameFault, sameMembers.fullName_eq, namedPerm.length_eq,
      namedPerm.isEmpty_eq, namedFields_congr namedPerm sameItems]

end Answer

namespace Session

/-- Two sessions with the same options, files and cache whose sources have the same modules, each
read in its own order. -/
structure SameUpToOrder
    (first second : Session) : Prop where
  options_eq : first.options = second.options
  files_eq : first.files = second.files
  cache_eq : first.cache = second.cache
  source : first.source.SameUpToOrder second.source first.files

namespace SameUpToOrder

variable {first second : Session}

theorem resolveModule_eq
    (same : first.SameUpToOrder second)
    (modulePath : Value) :
    first.resolveModule modulePath = second.resolveModule modulePath := by
  have sameStamp (paths : List String) :
      first.source.firstStamp? first.files paths =
        second.source.firstStamp? second.files paths := by
    rw [same.source.firstStamp?_eq, same.files_eq]
  simp only [resolveModule, same.options_eq, sameStamp]

theorem planNamed_eq
    (same : first.SameUpToOrder second)
    (modulePath : Value)
    (view : NameView)
    (typeName memberName given : Value) :
    first.planNamed modulePath view typeName memberName given =
      second.planNamed modulePath view typeName memberName given :=
  plan_congr same.options_eq (same.resolveModule_eq modulePath)
    (.named view typeName memberName given)

private theorem compute_of_planNamed
    {session : Session}
    {modulePath : Value}
    {view : NameView}
    {typeName memberName given : Value}
    {plan : Plan}
    (planned : session.planNamed modulePath view typeName memberName given = .ok plan) :
    ∃ name wanted options,
      plan.compute =
        Answer.named plan.stamp view name wanted options (session.visibilityFor options) := by
  have prepared :
      session.Prepares modulePath (.named view typeName memberName given) plan :=
    prepares_of_plan planned
  cases prepared
  exact ⟨_, _, _, rfl⟩

/-- A query by name is answered alike by sessions that are the same up to the order of reading, if
no module shows the order in which it is read. -/
theorem answerQuery_named_eq
    {view : NameView}
    (same : first.SameUpToOrder second)
    (hidesOrder : ∀ path opened,
      (first.source.openModule first.files path).1 = .ok (some opened) → opened.HidesOrder view)
    (requestId : String)
    (modulePath typeName memberName given : Value)
    (noCache : Bool) :
    (first.answerQuery requestId
        ⟨modulePath, .named view typeName memberName given, noCache⟩).1 =
      (second.answerQuery requestId
        ⟨modulePath, .named view typeName memberName given, noCache⟩).1 := by
  have samePlan := same.planNamed_eq modulePath view typeName memberName given
  simp only [answerQuery, plan, ← samePlan]
  cases planned : first.planNamed modulePath view typeName memberName given with
  | error failure =>
      rfl
  | ok plan =>
      -- The plan has the same key in both sessions, so the caches agree once the data do.
      obtain ⟨name, wanted, options, computed⟩ := compute_of_planNamed planned
      have sameProduced : (first.produce plan).1 = (second.produce plan).1 := by
        unfold produce
        rw [← same.files_eq]
        refine same.source.withModule_eq fun one other opens sameModule => ?_
        rw [computed, Answer.named_eq_of_sameUpToOrder sameModule (hidesOrder _ one opens)]
      have sameLifetime : first.lifetime = second.lifetime := by
        rw [lifetime, lifetime, same.options_eq]
      dsimp only
      rw [same.cache_eq, sameLifetime]
      exact congrArg (conclude requestId)
        (ResponseCache.execute_fst_congr rfl sameProduced _ _)

end SameUpToOrder

/-- The session with its modules read backwards. -/
def readBackwards (session : Session) : Session :=
  { session with source := { session.source with mode := .backwards } }

theorem sameUpToOrder_readBackwards
    {session : Session}
    (ordinary : session.source.mode = .ordinary) :
    session.SameUpToOrder session.readBackwards :=
  ⟨rfl, rfl, rfl, ModuleSource.sameUpToOrder_backwards ordinary session.files⟩

/-- A session over one module opens no other. -/
theorem definition_of_openModule_overModule
    {path openPath : String}
    {definition : ModuleDefinition}
    {opened : OpenModule}
    (opens :
      ((overModule path definition).source.openModule (overModule path definition).files
        openPath).1 = .ok (some opened)) :
    opened.definition = definition.assignDeclarationOrder := by
  have stays :
      (overModule path definition).source.beforeOpening openPath =
        (overModule path definition).source :=
    rfl
  have looksUp :
      (overModule path definition).source.module? (overModule path definition).files openPath =
        .ok
          (((Registry.empty.replace path definition).module? openPath).map fun found =>
            (openPath, found)) :=
    rfl
  simp only [ModuleSource.openModule, stays, looksUp] at opens
  cases present : (Registry.empty.replace path definition).module? openPath with
  | none =>
      rw [present] at opens
      cases opens
  | some found =>
      rw [present] at opens
      cases opens
      simp only [Registry.module?, Registry.replace, Registry.empty, List.filter_nil,
        List.lookup_cons, List.lookup_nil] at present
      split at present
      · exact (Option.some.inj present).symm
      · cases present

end Session

/-! ## Two overloads -/

/-- A method without parameters that gives a value of a type, with a summary. -/
def MemberFact.overload
    (token : Int)
    (typeName summary : String) : MemberFact :=
  ⟨.method, "M", "A", .public, token, some ⟨.named, typeName, none, 1, []⟩, [], [], [],
    some ⟨some summary, none, none, []⟩, false, false, false, false, false, none, false, false,
    false, none, none, false, false, false, .null, none, none⟩

/-- A type with two methods of one name. -/
def TypeDefinition.ofOverloads (firstType secondType : String) : TypeDefinition :=
  { bare "A" with
    token := 1
    members := [.overload 1 firstType "first", .overload 2 secondType "second"] }

/-- A module with one type, which has two methods of one name. -/
def ModuleDefinition.ofOverloads (firstType secondType : String) : ModuleDefinition :=
  ⟨"Lib", "", [.ofOverloads firstType secondType]⟩

namespace Session

/-- Two overloads with different signatures are documented alike in both orders of reading. -/
theorem answerQuery_readBackwards_of_overloads :
    let session := overModule "lib" (.ofOverloads "P.X" "P.Y")
    let call : QueryCall :=
      ⟨.text "lib", .named .documentation (.text "A") (.text "M") .null, false⟩
    (session.answerQuery "1" call).1 = (session.readBackwards.answerQuery "1" call).1 := by
  intro session call
  refine (sameUpToOrder_readBackwards rfl).answerQuery_named_eq (fun path opened opens => ?_)
    "1" _ _ _ _ _
  have definitionIs := definition_of_openModule_overModule opens
  constructor
  · rw [definitionIs]
    decide +kernel
  · rw [definitionIs]
    intro type member
    have isOnly := List.mem_singleton.mp member
    rw [isOnly]
    exact TypeDefinition.hidesOrder_of_nodup (by decide +kernel) (by decide +kernel) _

/-- An overload as it is documented. -/
def overloadItem (summary : String) : Value :=
  .record
    [("kind", .text "method"), ("name", .text "M"), ("signature", .text "public X M()"),
      ("declaring_type", .text "A"),
      ("docs",
        .record
          [("summary", .text summary), ("remarks", .null), ("returns", .null),
            ("params", .list [])])]

/-- The documentation of two overloads in order. -/
def overloadData (first second : String) : Value :=
  .record
    [("module_path", .text "lib"), ("type_name", .text "A"), ("member_name", .text "M"),
      ("count", .ofNat 2), ("documented", .ofNat 2),
      ("items", .list [overloadItem first, overloadItem second])]

/-- The open module of two overloads whose types differ in the namespace alone. -/
def tiedOverloads (mode : ReadingMode) : OpenModule :=
  ⟨"lib", (ModuleDefinition.ofOverloads "P.X" "Q.X").assignDeclarationOrder, mode⟩

private theorem named_tiedOverloads :
    Answer.named ⟨"lib", "rev-1"⟩ .documentation "A" "M" .standard .standard
        (tiedOverloads .ordinary) =
      .ok (overloadData "first" "second") := by
  have found :
      (tiedOverloads .ordinary).type "A" FilterOptions.standard.caseSensitive =
        .ok (.ofOverloads "P.X" "Q.X") := by
    with_unfolding_all rfl
  rw [Answer.named, found]
  cbv

private theorem named_tiedOverloads_backwards :
    Answer.named ⟨"lib", "rev-1"⟩ .documentation "A" "M" .standard .standard
        (tiedOverloads .backwards) =
      .ok (overloadData "second" "first") := by
  have found :
      (tiedOverloads .backwards).type "A" FilterOptions.standard.caseSensitive =
        .ok (.ofOverloads "P.X" "Q.X") := by
    with_unfolding_all rfl
  rw [Answer.named, found]
  cbv

/-- Two overloads whose types differ in the namespace alone have one signature, and the order of
reading shows in the answer. -/
theorem answerQuery_readBackwards_of_tied_overloads :
    let definition := ModuleDefinition.ofOverloads "P.X" "Q.X"
    let session := overModule "lib" definition
    let call : QueryCall :=
      ⟨.text "lib", .named .documentation (.text "A") (.text "M") .null, true⟩
    session.SameUpToOrder session.readBackwards ∧
      (definition.allTypes.map TypeDefinition.fullName).Nodup ∧
      (∀ type ∈ definition.allTypes,
        (type.members.map fun member =>
          (member.token, (MemberDescriptor.describe member).signature,
            member.declaringType)).Nodup) ∧
      (session.answerQuery "1" call).1.render ≠
        (session.readBackwards.answerQuery "1" call).1.render := by
  intro definition session call
  have answered :
      (session.answerQuery "1" call).1 =
        conclude "1"
          ((Answer.named ⟨"lib", "rev-1"⟩ .documentation "A" "M" .standard .standard
            (tiedOverloads .ordinary)).bind
              (envelopeOf (OperationKind.named .documentation).word)) := by
    rfl
  have answeredBackwards :
      (session.readBackwards.answerQuery "1" call).1 =
        conclude "1"
          ((Answer.named ⟨"lib", "rev-1"⟩ .documentation "A" "M" .standard .standard
            (tiedOverloads .backwards)).bind
              (envelopeOf (OperationKind.named .documentation).word)) := by
    rfl
  refine ⟨sameUpToOrder_readBackwards rfl, by decide +kernel, by decide +kernel, ?_⟩
  rw [answered, answeredBackwards, named_tiedOverloads, named_tiedOverloads_backwards]
  exact fun same => absurd (String.ofList_injective same) (by decide +kernel)

end Session

end TypeCatalog
