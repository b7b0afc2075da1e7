import TypeCatalog.Proofs.Cache.UnderKey
import TypeCatalog.Proofs.Session.CallTrace
import TypeCatalog.Proofs.Session.KindListing
import TypeCatalog.Proofs.Session.NameQueryOrder
import TypeCatalog.Proofs.Session.Preparation

namespace TypeCatalog

/-!
# Hidden members

A query about members that does not ask for the others than the public ones looks at the public
ones alone: they decide which members there are, in which order, how many, on which pages, and
whether there is an error.
-/

/-- Whether a query asks about the members of a type. -/
def Query.asksMembers : Query → Bool
  | .members .. | .named .. => true
  | .types _ | .type .. => false

namespace Redaction

variable {visibility : Visibility}

/-- What is seen without the hidden members is in what is left when they are left out. -/
theorem membersOf_ofHidden
    (publicOnly : visibility.nonPublicMembers = false)
    (type : TypeDefinition) :
    visibility.membersOf (ofHidden.type type) = visibility.membersOf type := by
  rw [Visibility.membersOf, Visibility.membersOf, members_type, fullName_type, ofHidden,
    List.filter_filter]
  congr 1
  funext member
  -- A hidden member is left out on one side and not asked for on the other.
  by_cases isPublic : member.accessibility = .public
  · simp [isPublic]
  · simp [Visibility.admits, isPublic, publicOnly]

theorem membersOf_opened_ofHidden
    (publicOnly : visibility.nonPublicMembers = false)
    (opened : OpenModule)
    (type : TypeDefinition) :
    (ofHidden.opened opened).membersOf (ofHidden.type type) visibility =
      opened.membersOf type visibility := by
  rw [OpenModule.membersOf, OpenModule.membersOf, membersOf_ofHidden publicOnly]
  rfl

/-- A listing of members is made of what is left when the hidden ones are left out. -/
theorem memberListing_ofHidden
    (publicOnly : visibility.nonPublicMembers = false)
    (stamp : ModuleStamp)
    (selection : MemberSelection)
    (typeName : String)
    (options : FilterOptions)
    (position : Answer.PagePosition)
    (opened : OpenModule) :
    Answer.memberListing stamp selection typeName options visibility position
        (ofHidden.opened opened) =
      Answer.memberListing stamp selection typeName options visibility position opened := by
  unfold Answer.memberListing
  rw [type_opened]
  cases opened.type typeName options.caseSensitive with
  | error failure =>
      rfl
  | ok type =>
      simp only [Except.map, bind, Except.bind, Answer.arrangedMembers,
        membersOf_opened_ofHidden publicOnly, fullName_type]
      rfl

/-- What is shown of the members with a name is made of what is left when the hidden ones are left
out. -/
theorem named_ofHidden
    (publicOnly : visibility.nonPublicMembers = false)
    (stamp : ModuleStamp)
    (view : NameView)
    (typeName memberName : String)
    (options : FilterOptions)
    (opened : OpenModule) :
    Answer.named stamp view typeName memberName options visibility (ofHidden.opened opened) =
      Answer.named stamp view typeName memberName options visibility opened := by
  unfold Answer.named
  rw [type_opened]
  cases opened.type typeName options.caseSensitive with
  | error failure =>
      rfl
  | ok type =>
      simp only [Except.map, bind, Except.bind, membersOf_opened_ofHidden publicOnly,
        fullName_type]

end Redaction

namespace Session

/-- A query about members that does not ask for the hidden ones is answered from what is left when
they are left out. -/
theorem compute_ofHidden
    {session : Session}
    {modulePath : Value}
    {query : Query}
    {plan : Plan}
    (asksMembers : query.asksMembers = true)
    (hides :
      ∀ given options, query.options? = some given →
        FilterOptions.checkOptional given = .ok options →
          (session.visibilityFor options).nonPublicMembers = false)
    (planned : session.plan modulePath query = .ok plan)
    (opened : OpenModule) :
    plan.compute (Redaction.ofHidden.opened opened) = plan.compute opened := by
  cases prepares_of_plan planned with
  | types | type =>
      cases asksMembers
  | members checked =>
      have publicOnly := hides _ _ rfl (Schema.Checked.eq_ok_of_toExcept checked)
      exact Redaction.memberListing_ofHidden publicOnly _ _ _ _ _ _
  | named checked =>
      have publicOnly := hides _ _ rfl (Schema.Checked.eq_ok_of_toExcept checked)
      exact Redaction.named_ofHidden publicOnly _ _ _ _ _ _

/-- Two sessions over registries that differ only in hidden members, with the same options and with
nothing in their caches, answer every query about members alike when it does not ask for the hidden
ones. -/
theorem hidden_members_never_show
    {first second : Session}
    {call : QueryCall}
    (alike : first.AlikeThrough .ofHidden second)
    (firstUnused : first.cache.entries = [])
    (secondUnused : second.cache.entries = [])
    (asksMembers : call.query.asksMembers = true)
    (hides :
      ∀ given options, call.query.options? = some given →
        FilterOptions.checkOptional given = .ok options →
          (first.visibilityFor options).nonPublicMembers = false)
    (requestId : String) :
    (first.answerQuery requestId call).1 = (second.answerQuery requestId call).1 := by
  have samePlan := alike.plan_eq call.modulePath call.query
  unfold answerQuery
  rw [← samePlan, ← alike.lifetime_eq]
  cases planned : first.plan call.modulePath call.query with
  | error failure =>
      rfl
  | ok plan =>
      refine congrArg (conclude requestId) (ResponseCache.execute_fst_congr ?_ ?_ _ _)
      · simp [ResponseCache.get_fst, ResponseCache.entry?, firstUnused, secondUnused]
      · exact alike.produce_eq (compute_ofHidden asksMembers hides planned)

/-- One hidden method before the public one, or two others behind it: the listing is of the public
one. -/
theorem hidden_members_never_show_beside_public :
    let shown : MemberFact := .overload 2 "X" ""
    let hidden (token : Int) (typeName : String) : MemberFact :=
      { MemberFact.overload token typeName "" with accessibility := .private }
    let around (members : List MemberFact) : Session :=
      overModule "lib" ⟨"Lib", "", [{ TypeDefinition.bare "A" with members := members }]⟩
    let first := around [hidden 1 "X", shown]
    let second := around [shown, hidden 3 "Y", hidden 4 "Z"]
    let call : QueryCall := ⟨.text "lib", .members .all (.text "A") .null, false⟩
    (first.answerQuery "1" call).1 = (second.answerQuery "1" call).1 ∧
      (first.answerQuery "1" call).1.countOf? .method = some 1 := by
  intro shown hidden around first second call
  constructor
  · refine @hidden_members_never_show first second call (.overModule ?_ "lib") rfl rfl rfl ?_ "1"
    · rfl
    · intro given options isGiven checked
      cases isGiven
      cases checked
      rfl
  · decide +kernel

end Session

end TypeCatalog
