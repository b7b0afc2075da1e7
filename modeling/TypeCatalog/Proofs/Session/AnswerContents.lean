import TypeCatalog.Answer.TypeView
import TypeCatalog.Proofs.Paging.PageEdges
import TypeCatalog.Proofs.Query.Selection
import TypeCatalog.Proofs.Query.ShownContents
import TypeCatalog.Proofs.Session.KeptAnswers
import TypeCatalog.Proofs.Session.Preparation
import TypeCatalog.Proofs.Session.SizeCeiling
import TypeCatalog.Proofs.Source.ReadingOrder
import TypeCatalog.Session.Operation

namespace TypeCatalog

/-!
# What answers consist of

An answer about a module consists of texts, truth values and whole numbers, and of the values that
the module gives.
-/

section Contents

variable {sort : Value → Prop} {keySort : Key → Prop}

namespace OpenModule

variable {opened : OpenModule}

theorem consist_types
    {types : List TypeDefinition}
    (consists : opened.definition.toValue.ConsistsOf sort keySort)
    (found : opened.types = .ok types) :
    ∀ type ∈ types, type.toValue.ConsistsOf sort keySort := by
  unfold OpenModule.types at found
  split at found
  · cases found
  · cases found
    intro type member
    exact ModuleDefinition.consist_allTypes consists type
      ((opened.inReadingOrder_perm _).mem_iff.mp member)

theorem consistsOf_type
    {typeName : String}
    {caseSensitive : Bool}
    {type : TypeDefinition}
    (consists : opened.definition.toValue.ConsistsOf sort keySort)
    (found : opened.type typeName caseSensitive = .ok type) :
    type.toValue.ConsistsOf sort keySort := by
  obtain ⟨types, areTypes, found⟩ := Failure.exists_of_bind_eq_ok found
  split at found
  · next isFound =>
      cases found
      exact consist_types consists areTypes _ (TypeDefinition.mem_of_find isFound)
  · cases found
  · cases found

theorem consist_membersOf
    (opened : OpenModule)
    {type : TypeDefinition}
    (consists : type.toValue.ConsistsOf sort keySort)
    (visibility : Visibility) :
    ∀ member ∈ opened.membersOf type visibility, member.toValue.ConsistsOf sort keySort := by
  intro member isMember
  have visible := (opened.inReadingOrder_perm _).mem_iff.mp isMember
  exact (TypeDefinition.consistsOf_parts consists).2.1 member (List.mem_of_mem_filter visible)

end OpenModule

namespace Answer

private theorem mem_of_mem_arrange
    {α : Type}
    [Listed α]
    {options : FilterOptions}
    {supported : List SortKey}
    {items arranged : List α}
    (isArranged : arrange options supported items = .ok arranged)
    {item : α}
    (member : item ∈ arranged) :
    item ∈ items :=
  List.mem_of_mem_filter
    (List.mem_of_mem_filter ((Listing.perm_of_sortItems isArranged).mem_iff.mp member))

variable (plain : Value.TakesPlain sort keySort)

include plain

/-- The fields of a page consist of what its items consist of. -/
private theorem consist_toFields
    {α : Type}
    {render : α → Value}
    {items : List α}
    {position : PagePosition}
    {page : Page}
    (cut : pageOf render items position = .ok page)
    (consist : ∀ item ∈ items, (render item).ConsistsOf sort keySort) :
    ∀ field ∈ page.toFields, field.2.ConsistsOf sort keySort := by
  have shown : ∀ value ∈ page.items, value.ConsistsOf sort keySort := by
    obtain ⟨_, _, rfl⟩ := Failure.exists_of_map_eq_ok cut
    intro value member
    obtain ⟨taken, isFilled, _⟩ := PageBuilder.exists_taken_of_fill (.empty Limits.pageTarget)
      (Page.candidates render items position.offset position.take)
    have isCandidate : value ∈ Page.candidates render items position.offset position.take := by
      rw [Page.build, isFilled] at member
      exact List.mem_of_mem_take member
    obtain ⟨item, isItem, rfl⟩ := List.mem_map.mp isCandidate
    exact consist item (List.mem_of_mem_take (List.mem_of_mem_drop isItem))
  have advice : page.advice.toValue.ConsistsOf sort keySort := by
    refine plain.consistsOf_record ?_
    simp [plain.consistsOf_bool, plain.consistsOf_int]
  simp [Page.toFields, plain.consistsOf_ofNat, plain.consistsOf_int, plain.consistsOf_bool,
    plain.consistsOf_ofText?, advice, Value.consistsOf_list_iff]
  exact shown

omit plain in
/-- The base types in a chain are types of the module. -/
private theorem mem_of_mem_inheritanceChain
    {types : List TypeDefinition}
    {met : List String}
    {current base : TypeDefinition}
    {fuel : Nat}
    {link : ChainLink}
    (member : link ∈ inheritanceChain types met current fuel)
    (isBase : link.base? = some base) :
    base ∈ types := by
  induction fuel generalizing met current with
  | zero => cases member
  | succ fuel inductionHypothesis =>
      rw [inheritanceChain] at member
      split at member
      · cases member
      · split at member
        · cases List.mem_singleton.mp member
          cases isBase
        · next named =>
            have isType := List.mem_reverse.mp (List.mem_of_find?_eq_some named)
            split at member
            · cases List.mem_singleton.mp member
              cases isBase
              exact isType
            · rcases List.mem_cons.mp member with rfl | isLater
              · cases isBase
                exact isType
              · exact inductionHypothesis isLater

private theorem consist_viewFields
    {types : List TypeDefinition}
    {type : TypeDefinition}
    (consist : ∀ type ∈ types, type.toValue.ConsistsOf sort keySort)
    (consists : type.toValue.ConsistsOf sort keySort)
    (view : TypeView)
    (moduleName : String) :
    ∀ field ∈ viewFields view moduleName types type, field.2.ConsistsOf sort keySort := by
  have shown := TypeDescriptor.consistsOf_toValue_describeWithin plain moduleName [] type consists
  have parts := shown
  rw [TypeDescriptor.toValue_eq] at parts
  have bases : ∀ base ∈ chainBases (chainOf types type),
      (TypeDescriptor.describe moduleName base).toOwnValue.ConsistsOf sort keySort := by
    intro base member
    obtain ⟨link, isLink, isBase⟩ := List.mem_filterMap.mp member
    split at isBase
    · exact TypeDescriptor.consistsOf_toOwnValue_describe plain
        (consist base (mem_of_mem_inheritanceChain isLink isBase)) moduleName
    · cases isBase
  cases view with
  | info =>
      exact List.forall_mem_singleton.mpr shown
  | hierarchy =>
      have links : (Value.list ((chainOf types type).map linkValue)).ConsistsOf sort keySort := by
        refine Value.consistsOf_list_iff.mpr (List.forall_mem_map.mpr fun link _ => ?_)
        refine plain.consistsOf_record ?_
        simp [plain.consistsOf_text, plain.consistsOf_bool]
      have baseTypes := Value.consistsOf_list_iff.mpr (List.forall_mem_map.mpr bases)
      simp [viewFields, plain.consistsOf_text, plain.consistsOf_ofText?, plain.consistsOf_ofTexts,
        links, baseTypes]
  | generics =>
      have parameters := Value.consistsOf_of_lookup parts "generic_parameters" rfl
      simp [viewFields, plain.consistsOf_text, plain.consistsOf_bool, plain.consistsOf_ofNat]
      exact parameters
  | attributes =>
      have attributes := Value.consistsOf_of_lookup parts "attributes" rfl
      simp [viewFields, plain.consistsOf_text, plain.consistsOf_ofNat]
      exact attributes
  | nested =>
      have nested := Value.consistsOf_of_lookup parts "nested_types" rfl
      simp [viewFields, plain.consistsOf_text, plain.consistsOf_ofNat]
      exact nested
  | documentation =>
      simp [viewFields, plain.consistsOf_text, plain.consistsOf_bool,
        consistsOf_optionToValue_docs plain]

section Opened

variable
  {opened : OpenModule}
  {stamp : ModuleStamp}
  {options : FilterOptions}
  {visibility : Visibility}
  {data : Value}
  (consists : opened.definition.toValue.ConsistsOf sort keySort)

include consists

theorem consistsOf_typeListing
    {position : PagePosition}
    (computed : typeListing stamp options visibility position opened = .ok data) :
    data.ConsistsOf sort keySort := by
  obtain ⟨items, arranged, computed⟩ := Failure.exists_of_bind_eq_ok computed
  obtain ⟨page, cut, computed⟩ := Failure.exists_of_bind_eq_ok computed
  obtain ⟨types, areTypes, arranged⟩ := Failure.exists_of_bind_eq_ok arranged
  obtain ⟨_, _, arranged⟩ := Failure.exists_of_bind_eq_ok arranged
  cases computed
  have consist := OpenModule.consist_types consists areTypes
  have page := consist_toFields plain cut fun descriptor member => by
    obtain ⟨type, isShown, rfl⟩ := List.mem_map.mp (mem_of_mem_arrange arranged member)
    exact TypeDescriptor.consistsOf_toOwnValue_describe plain
      (consist type (List.mem_of_mem_filter isShown)) opened.name
  refine plain.consistsOf_record (List.forall_mem_append.mpr ⟨?_, page⟩)
  simp [plain.consistsOf_text]

theorem consistsOf_memberListing
    {selection : MemberSelection}
    {typeName : String}
    {position : PagePosition}
    (computed :
      memberListing stamp selection typeName options visibility position opened = .ok data) :
    data.ConsistsOf sort keySort := by
  obtain ⟨type, found, computed⟩ := Failure.exists_of_bind_eq_ok computed
  obtain ⟨items, arranged, computed⟩ := Failure.exists_of_bind_eq_ok computed
  obtain ⟨page, cut, computed⟩ := Failure.exists_of_bind_eq_ok computed
  obtain ⟨_, _, arranged⟩ := Failure.exists_of_bind_eq_ok arranged
  cases computed
  have described := MemberDescriptor.consist_describeAll plain
    (opened.consist_membersOf (OpenModule.consistsOf_type consists found) visibility)
    selection.kinds
  have page := consist_toFields plain cut fun descriptor member =>
    described descriptor (mem_of_mem_arrange arranged member)
  have counts : ∀ field ∈ countFields selection items, field.2.ConsistsOf sort keySort := by
    cases selection with
    | ofKind kind => exact nofun
    | all =>
        refine List.forall_mem_singleton.mpr (plain.consistsOf_record ?_)
        exact List.forall_mem_map.mpr fun kind _ => plain.consistsOf_ofNat _
  refine plain.consistsOf_record
    (List.forall_mem_append.mpr ⟨List.forall_mem_append.mpr ⟨?_, counts⟩, page⟩)
  simp [plain.consistsOf_text]

theorem consistsOf_named
    {view : NameView}
    {typeName memberName : String}
    (computed : named stamp view typeName memberName options visibility opened = .ok data) :
    data.ConsistsOf sort keySort := by
  rw [named_eq] at computed
  obtain ⟨found, isFound, rfl⟩ := Failure.exists_of_map_eq_ok computed
  obtain ⟨type, isType, isFound⟩ := Failure.exists_of_bind_eq_ok isFound
  obtain ⟨_, _, isFound⟩ := Failure.exists_of_bind_eq_ok isFound
  have described := MemberDescriptor.consist_describeAll plain
    (opened.consist_membersOf (OpenModule.consistsOf_type consists isType) visibility)
    MemberKind.all
  dsimp only at isFound
  split at isFound
  · cases isFound
  · cases isFound
    have ofView : ∀ members : List MemberDescriptor,
        (∀ member ∈ members, member.toValue.ConsistsOf sort keySort) →
          ∀ field ∈ namedFields view members, field.2.ConsistsOf sort keySort := by
      intro members consist
      cases view with
      | lookup =>
          exact List.forall_mem_singleton.mpr
            (Value.consistsOf_list_iff.mpr (List.forall_mem_map.mpr consist))
      | documentation =>
          have documented : (Value.list (members.map documentedMember)).ConsistsOf sort keySort := by
            refine Value.consistsOf_list_iff.mpr (List.forall_mem_map.mpr fun member _ => ?_)
            refine plain.consistsOf_record ?_
            simp [plain.consistsOf_text, consistsOf_optionToValue_docs plain]
          simp [namedFields, plain.consistsOf_ofNat, documented]
    refine plain.consistsOf_record (List.forall_mem_append.mpr ⟨?_, ofView _ ?_⟩)
    · simp [plain.consistsOf_text, plain.consistsOf_ofNat]
    · exact fun member isMember =>
        described member (List.mem_of_mem_filter (List.mem_mergeSort.mp isMember))

theorem consistsOf_typeView
    {view : TypeView}
    {typeName : String}
    {caseSensitive : Bool}
    (computed : typeView view typeName caseSensitive opened = .ok data) :
    data.ConsistsOf sort keySort := by
  obtain ⟨type, found, computed⟩ := Failure.exists_of_bind_eq_ok computed
  obtain ⟨types, areTypes, computed⟩ := Failure.exists_of_bind_eq_ok computed
  obtain ⟨_, _, computed⟩ := Failure.exists_of_bind_eq_ok computed
  cases computed
  exact plain.consistsOf_record (List.forall_mem_cons.mpr
    ⟨plain.consistsOf_text _, consist_viewFields plain (OpenModule.consist_types consists areTypes)
      (OpenModule.consistsOf_type consists found) view opened.name⟩)

end Opened

end Answer

end Contents

namespace Session

/-! ## What is measured -/

/-- Data that are measured on the way to the answer of a call, with the word for their kind.  Those
of a query follow from the module that is opened for it. -/
inductive Measures
    (session : Session) : Call → String → Value → Prop where
  | query
      {call : QueryCall}
      {plan : Plan}
      {opened : OpenModule}
      {data : Value}
      (planned : session.plan call.modulePath call.query = .ok plan)
      (opens : (session.source.openModule session.files plan.stamp.path).1 = .ok (some opened))
      (computed : plan.compute opened = .ok data) :
      Measures session (.query call) plan.kind.word data
  | showOptions :
      Measures session .showOptions OperationKind.runtimeOptions.word
        (.record [("options", session.options.toValue)])
  | updateOptions
      {changes : OptionChanges}
      {options : RuntimeOptions}
      {changed : List String}
      (isChanged : session.changedOptions changes = .ok (options, changed)) :
      Measures session (.updateOptions changes) OperationKind.runtimeOptions.word
        (.record [("options", options.toValue), ("changed", .ofTexts changed)])
  | describeErrors
      {code data : Value}
      (described : errorData code = .ok data) :
      Measures session (.describeErrors code) OperationKind.errorCatalog.word data

/-- What a query is answered with anew is made of data that were measured. -/
theorem exists_measured_of_produce
    {session : Session}
    {call : QueryCall}
    {plan : Plan}
    {answer : Envelope}
    (planned : session.plan call.modulePath call.query = .ok plan)
    (produced : (session.produce plan).1 = .ok answer) :
    ∃ kind data, session.Measures (.query call) kind data ∧ envelopeOf kind data = .ok answer := by
  rw [produce, ModuleSource.withModule_fst] at produced
  rcases opening : (session.source.openModule session.files plan.stamp.path).1 with
    _ | _ | opened <;> rw [opening] at produced
  · cases produced
  · cases produced
  · change (plan.compute opened >>= _) = _ at produced
    obtain ⟨data, computed, made⟩ := Failure.exists_of_bind_eq_ok produced
    exact ⟨plan.kind.word, data, .query planned opening computed, made⟩

/-- Every answer without an error is a kept one or made of data that are measured for it. -/
theorem exists_measured_of_answer
    {session : Session}
    {requestId : String}
    {call : Call}
    (noError : (session.answer requestId call).1.isError = false) :
    (∃ entry ∈ session.cache.entries, entry.payload = (session.answer requestId call).1) ∨
      ∃ kind data, session.Measures call kind data ∧
        envelopeOf kind data = .ok (session.answer requestId call).1 := by
  have ofConclude {outcome : Except Failure Envelope}
      (concluded : (conclude requestId outcome).isError = false) :
      outcome = .ok (conclude requestId outcome) := by
    cases outcome with
    | error failure => cases concluded
    | ok envelope => rfl
  cases call with
  | query call =>
      change (session.answerQuery requestId call).1.isError = false at noError
      change (∃ entry ∈ session.cache.entries,
          entry.payload = (session.answerQuery requestId call).1) ∨
        ∃ kind data, session.Measures (.query call) kind data ∧
          envelopeOf kind data = .ok (session.answerQuery requestId call).1
      unfold answerQuery at noError ⊢
      split at noError
      · cases noError
      · next plan planned =>
          rcases ResponseCache.exists_entry_or_produced_of_execute (ofConclude noError) with
            ⟨entry, member, isPayload⟩ | produced
          · exact .inl ⟨entry, member, isPayload⟩
          · exact .inr (exists_measured_of_produce planned produced)
  | showOptions =>
      exact .inr ⟨_, _, .showOptions, ofConclude noError⟩
  | updateOptions changes =>
      change (session.updateOptions requestId changes).1.isError = false at noError
      change _ ∨ ∃ kind data, session.Measures (.updateOptions changes) kind data ∧
        envelopeOf kind data = .ok (session.updateOptions requestId changes).1
      unfold updateOptions at noError ⊢
      split at noError
      · cases noError
      · next isChanged =>
          exact .inr ⟨_, _, .updateOptions isChanged, ofConclude noError⟩
  | describeErrors code =>
      obtain ⟨data, described, made⟩ := Failure.exists_of_bind_eq_ok (ofConclude noError)
      exact .inr ⟨_, data, .describeErrors described, made⟩

section Contents

variable
  {sort : Value → Prop}
  {keySort : Key → Prop}
  {session : Session}
  (plain : Value.TakesPlain sort keySort)

include plain

theorem Prepares.consistsOf_compute
    {modulePath data : Value}
    {query : Query}
    {plan : Plan}
    {opened : OpenModule}
    (prepares : session.Prepares modulePath query plan)
    (consists : opened.definition.toValue.ConsistsOf sort keySort)
    (computed : plan.compute opened = .ok data) :
    data.ConsistsOf sort keySort := by
  cases prepares with
  | types => exact Answer.consistsOf_typeListing plain consists computed
  | members => exact Answer.consistsOf_memberListing plain consists computed
  | type => exact Answer.consistsOf_typeView plain consists computed
  | named => exact Answer.consistsOf_named plain consists computed

private theorem consistsOf_toValue_options (options : RuntimeOptions) :
    options.toValue.ConsistsOf sort keySort := by
  have overrides : (Value.record (options.sortedOverrides.map fun entry =>
      (entry.1, .int entry.2))).ConsistsOf sort keySort :=
    plain.consistsOf_record (List.forall_mem_map.mpr fun entry _ => plain.consistsOf_int entry.2)
  refine plain.consistsOf_record ?_
  simp [plain.consistsOf_ofNat, plain.consistsOf_int, plain.consistsOf_bool,
    plain.consistsOf_ofTexts, overrides]

private theorem consistsOf_catalogData (entries : List ErrorDocumentation) :
    (catalogData entries).ConsistsOf sort keySort := by
  have listed : (Value.list (entries.map ErrorDocumentation.toValue)).ConsistsOf sort keySort := by
    refine Value.consistsOf_list_iff.mpr (List.forall_mem_map.mpr fun entry _ => ?_)
    refine plain.consistsOf_record ?_
    simp [plain.consistsOf_text, plain.consistsOf_bool, plain.consistsOf_ofTexts]
  refine plain.consistsOf_record ?_
  simp [plain.consistsOf_ofNat, listed]

/-- What is measured consists of what the modules consist of that can be opened. -/
theorem Measures.consistsOf
    {call : Call}
    {kind : String}
    {data : Value}
    (measures : session.Measures call kind data)
    (consist : ∀ path opened,
      (session.source.openModule session.files path).1 = .ok (some opened) →
        opened.definition.toValue.ConsistsOf sort keySort) :
    data.ConsistsOf sort keySort := by
  cases measures with
  | query planned opens computed =>
      exact (prepares_of_plan planned).consistsOf_compute plain (consist _ _ opens) computed
  | showOptions =>
      exact plain.consistsOf_record
        (List.forall_mem_singleton.mpr (consistsOf_toValue_options plain _))
  | updateOptions =>
      exact plain.consistsOf_record (List.forall_mem_cons.mpr ⟨consistsOf_toValue_options plain _,
        List.forall_mem_singleton.mpr (plain.consistsOf_ofTexts _)⟩)
  | describeErrors described =>
      unfold errorData at described
      split at described
      · cases described
        exact consistsOf_catalogData plain _
      · split at described
        · cases described
          exact consistsOf_catalogData plain _
        · split at described
          · cases described
            exact consistsOf_catalogData plain _
          · cases described
      · cases described

end Contents

end Session

end TypeCatalog
