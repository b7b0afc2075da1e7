import TypeCatalog.Proofs.Query.WiderVisibility
import TypeCatalog.Proofs.Session.KindListing

namespace TypeCatalog

/-!
# Listings that include more

A listing that includes more, and otherwise filters and sorts alike, has all rows of the narrower
listing in their order.  So its total and its counts are no smaller.
-/

/-- A visibility that sees nothing in a listing that another one does not see. -/
def ListingForm.Within
    (narrow wide : Visibility) : ListingForm → Prop
  | .types => narrow.TypesWithin wide
  | .members .. => narrow.Within wide

theorem ListingForm.Within.scope
    {form : ListingForm}
    {scope : ListingScope}
    {narrow wide : Visibility}
    (within : form.Within narrow wide)
    (scopeIs : form.scope = .ok scope) :
    scope.Within narrow wide := by
  cases form with
  | types =>
      cases scopeIs
      exact within
  | members selection typeName =>
      obtain ⟨name, _, rfl⟩ := Failure.exists_of_map_eq_ok scopeIs
      exact within

/-- Options that filter and sort alike do so when they are resolved. -/
theorem FilterOptions.ArrangesLike.resolve
    {options other : FilterOptions}
    (alike : options.ArrangesLike other)
    (narrow wide : Visibility)
    (take otherTake : Nat) :
    (ResolvedOptions.resolve options narrow take).toFilter.ArrangesLike
      (ResolvedOptions.resolve other wide otherTake).toFilter := by
  refine ⟨alike.caseSensitive_eq, ?_, ?_, alike.sortBy_eq, alike.sortOrder_eq⟩
  · exact congrArg (some ∘ Listing.filterText) alike.nameContains?_eq
  · exact congrArg (some ∘ Listing.filterText) alike.attributeContains?_eq

namespace Session

variable {session later : Session} {modules laterModules : Registry} {texts : List String}
  {modulePath given widerGiven : Value} {form : ListingForm} {options wider : FilterOptions}

/-- A listing is of the scope that its form means, in the module that is meant, under the options as
the session resolves them. -/
theorem exists_scope_of_listing
    {listing : ListingSubject}
    (meant : session.listing modulePath form options = .ok listing) :
    ∃ scope stamp,
      form.scope = .ok scope ∧
        session.resolveModule modulePath = .ok stamp ∧
          listing = ⟨scope, stamp, session.resolvedOptions scope.kind options⟩ := by
  obtain ⟨scope, scopeIs, meant⟩ := Failure.exists_of_bind_eq_ok meant
  obtain ⟨stamp, resolved, meant⟩ := Failure.exists_of_bind_eq_ok meant
  cases meant
  exact ⟨scope, stamp, scopeIs, resolved, rfl⟩

/-- The rows of a narrower listing stand in the wider listing, in their order. -/
theorem HasRows.sublist
    {listing widerListing : ListingSubject}
    {definition laterDefinition : ModuleDefinition}
    {rows widerRows : List Value}
    (has : session.HasRows modules modulePath form options listing definition rows)
    (widerHas :
      later.HasRows laterModules modulePath form wider widerListing laterDefinition widerRows)
    (follows : laterModules.Follows modules)
    (sameGround : session.SameGround later modulePath)
    (alike : options.ArrangesLike wider)
    (within : form.Within (session.visibilityFor options) (session.visibilityFor wider)) :
    rows.Sublist widerRows := by
  obtain ⟨scope, stamp, scopeIs, resolved, rfl⟩ := exists_scope_of_listing has.meant
  obtain ⟨widerScope, widerStamp, widerScopeIs, widerResolved, rfl⟩ :=
    exists_scope_of_listing widerHas.meant
  cases scopeIs.symm.trans widerScopeIs
  cases resolved.symm.trans (sameGround.stamp_eq.symm.trans widerResolved)
  cases has.definition_eq widerHas follows rfl
  have visibilitySame : later.visibilityFor wider = session.visibilityFor wider := by
    rw [visibilityFor, visibilityFor, sameGround.options_eq]
  refine ListingSubject.rows_sublist has.rows_eq widerHas.rows_eq (alike.resolve _ _ _ _) ?_
  change scope.Within (session.visibilityFor options) (later.visibilityFor wider)
  rw [visibilitySame]
  exact within.scope scopeIs

namespace Coherent

variable {requestId widerId : String} {noCache widerNoCache : Bool}

/-- A page of a narrower listing shows no greater total than a page of the wider one. -/
theorem total_le
    (coherent : session.Coherent modules texts)
    (laterCoherent : later.Coherent laterModules texts)
    (follows : laterModules.Follows modules)
    (sameGround : session.SameGround later modulePath)
    (apart : DigestsApart texts)
    (checked : FilterOptions.checkOptional given = .ok options)
    (widerChecked : FilterOptions.checkOptional widerGiven = .ok wider)
    (alike : options.ArrangesLike wider)
    (within : form.Within (session.visibilityFor options) (session.visibilityFor wider))
    (hashed :
      ∀ text ∈ session.textsOfStep
        (.ask requestId (.query ⟨modulePath, form.query given, noCache⟩)), text ∈ texts)
    (widerHashed :
      ∀ text ∈ later.textsOfStep
        (.ask widerId (.query ⟨modulePath, form.query widerGiven, widerNoCache⟩)),
        text ∈ texts) :
    let answer := (session.answerQuery requestId ⟨modulePath, form.query given, noCache⟩).1
    let widerAnswer :=
      (later.answerQuery widerId ⟨modulePath, form.query widerGiven, widerNoCache⟩).1
    answer.isError = false →
      widerAnswer.isError = false →
        ∃ page widerPage,
          answer.page? = some page ∧
            widerAnswer.page? = some widerPage ∧ page.total ≤ widerPage.total := by
  intro answer widerAnswer served widerServed
  obtain ⟨_, _, rows, page, has, shown, total⟩ :=
    coherent.exists_total apart checked hashed served
  obtain ⟨_, _, widerRows, widerPage, widerHas, widerShown, widerTotal⟩ :=
    laterCoherent.exists_total apart widerChecked widerHashed widerServed
  have sublist := has.sublist widerHas follows sameGround alike within
  refine ⟨page, widerPage, shown, widerShown, ?_⟩
  rw [total, widerTotal]
  exact sublist.length_le

/-- A page of a narrower listing of all members counts no more members of a kind than a page of the
wider one. -/
theorem counts_le
    {typeName : Value}
    (coherent : session.Coherent modules texts)
    (laterCoherent : later.Coherent laterModules texts)
    (follows : laterModules.Follows modules)
    (sameGround : session.SameGround later modulePath)
    (apart : DigestsApart texts)
    (checked : FilterOptions.checkOptional given = .ok options)
    (widerChecked : FilterOptions.checkOptional widerGiven = .ok wider)
    (alike : options.ArrangesLike wider)
    (within : (session.visibilityFor options).Within (session.visibilityFor wider))
    (hashed :
      ∀ text ∈ session.textsOfStep
        (.ask requestId (.query ⟨modulePath, .members .all typeName given, noCache⟩)),
        text ∈ texts)
    (widerHashed :
      ∀ text ∈ later.textsOfStep
        (.ask widerId (.query ⟨modulePath, .members .all typeName widerGiven, widerNoCache⟩)),
        text ∈ texts) :
    let answer :=
      (session.answerQuery requestId ⟨modulePath, .members .all typeName given, noCache⟩).1
    let widerAnswer :=
      (later.answerQuery widerId
        ⟨modulePath, .members .all typeName widerGiven, widerNoCache⟩).1
    answer.isError = false →
      widerAnswer.isError = false →
        ∀ kind, ∃ count widerCount,
          answer.countOf? kind = some count ∧
            widerAnswer.countOf? kind = some widerCount ∧ count ≤ widerCount := by
  intro answer widerAnswer served widerServed kind
  obtain ⟨_, _, items, has, counted⟩ := coherent.exists_counts apart checked hashed served
  obtain ⟨_, _, widerItems, widerHas, widerCounted⟩ :=
    laterCoherent.exists_counts apart widerChecked widerHashed widerServed
  have sublist := has.sublist widerHas follows sameGround alike within
  refine ⟨_, _, counted kind, widerCounted kind, ?_⟩
  rw [← MemberDescriptor.countP_isOfKind, ← MemberDescriptor.countP_isOfKind]
  exact (sublist.map Json.settled).countP_le

/-- All pages of a narrower listing have some of the items on all pages of the wider one, in their
order. -/
theorem allItems_sublist
    {turns widerTurns : List PageTurn}
    (coherent : session.Coherent modules texts)
    (laterCoherent : later.Coherent laterModules texts)
    (follows : laterModules.Follows modules)
    (sameGround : session.SameGround later modulePath)
    (apart : DigestsApart texts)
    (valid : session.options.Valid)
    (checked : FilterOptions.checkOptional given = .ok options)
    (widerChecked : FilterOptions.checkOptional widerGiven = .ok wider)
    (alike : options.ArrangesLike wider)
    (within : form.Within (session.visibilityFor options) (session.visibilityFor wider))
    (unpositioned : options.Unpositioned)
    (widerUnpositioned : wider.Unpositioned)
    (turned : session.TurnsAllPages modulePath form given turns)
    (widerTurned : later.TurnsAllPages modulePath form widerGiven widerTurns)
    (hashed :
      ∀ text ∈ session.hashedTexts
        ((turnPages modulePath form given session none turns).flatMap PageVisit.steps),
        text ∈ texts)
    (widerHashed :
      ∀ text ∈ later.hashedTexts
        ((turnPages modulePath form widerGiven later none widerTurns).flatMap PageVisit.steps),
        text ∈ texts) :
    (PageVisit.allItems (turnPages modulePath form given session none turns)).Sublist
      (PageVisit.allItems (turnPages modulePath form widerGiven later none widerTurns)) := by
  have laterValid : later.options.Valid := sameGround.options_eq ▸ valid
  obtain ⟨_, _, rows, has, items⟩ :=
    coherent.exists_rows_of_turnsAllPages apart valid checked unpositioned turned hashed
  obtain ⟨_, _, widerRows, widerHas, widerItems⟩ :=
    laterCoherent.exists_rows_of_turnsAllPages apart laterValid widerChecked widerUnpositioned
      widerTurned widerHashed
  rw [items, widerItems]
  exact (has.sublist widerHas follows sameGround alike within).map Json.settled

end Coherent

/-- After any run over a registry, a listing that includes more, and otherwise filters and sorts
alike, shows no smaller total, and no smaller counts if it is of all members.  Whoever turns all
pages of both gets from the narrower one some of the items of the wider one, in their order.
Between the two the session may go on in any way that leaves the module and the runtime options as
they are.  The digest is taken to tell the key texts of the calls apart. -/
theorem wider_listing_only_adds_after_run
    {modules : Registry}
    {files : FileTree}
    {runtimeOptions : RuntimeOptions}
    {clock : Binary64}
    {history between : List SessionStep}
    {modulePath given widerGiven : Value}
    {options wider : FilterOptions}
    (valid : runtimeOptions.Valid)
    (historyWellTyped : ∀ step ∈ history, step.WellTyped)
    (betweenWellTyped : ∀ step ∈ between, step.WellTyped)
    (checked : FilterOptions.checkOptional given = .ok options)
    (widerChecked : FilterOptions.checkOptional widerGiven = .ok wider)
    (alike : options.ArrangesLike wider)
    (form : ListingForm) :
    let started := start (.ofStore (.registry modules)) files runtimeOptions clock
    let session := started.run history
    let later := session.run between
    session.SameGround later modulePath →
    form.Within (session.visibilityFor options) (session.visibilityFor wider) →
    (∀ (requestId widerId : String) (noCache widerNoCache : Bool),
      let call : QueryCall := ⟨modulePath, form.query given, noCache⟩
      let widerCall : QueryCall := ⟨modulePath, form.query widerGiven, widerNoCache⟩
      let answer := (session.answerQuery requestId call).1
      let widerAnswer := (later.answerQuery widerId widerCall).1
      DigestsApart
        (started.hashedTexts (history ++ [.ask requestId (.query call)]) ++
          started.hashedTexts (history ++ (between ++ [.ask widerId (.query widerCall)]))) →
      answer.isError = false →
      widerAnswer.isError = false →
      (∃ page widerPage,
        answer.page? = some page ∧
          widerAnswer.page? = some widerPage ∧ page.total ≤ widerPage.total) ∧
      ∀ typeName, form = .members .all typeName →
        ∀ kind, ∃ count widerCount,
          answer.countOf? kind = some count ∧
            widerAnswer.countOf? kind = some widerCount ∧ count ≤ widerCount) ∧
    (options.Unpositioned →
      wider.Unpositioned →
      ∀ turns widerTurns : List PageTurn,
        let visits := turnPages modulePath form given session none turns
        let widerVisits := turnPages modulePath form widerGiven later none widerTurns
        DigestsApart
          (started.hashedTexts (history ++ visits.flatMap PageVisit.steps) ++
            started.hashedTexts
              (history ++ (between ++ widerVisits.flatMap PageVisit.steps))) →
        session.TurnsAllPages modulePath form given turns →
        later.TurnsAllPages modulePath form widerGiven widerTurns →
        (PageVisit.allItems visits).Sublist (PageVisit.allItems widerVisits)) := by
  intro started session later sameGround within
  constructor
  · intro requestId widerId noCache widerNoCache call widerCall answer widerAnswer apart served
      widerServed
    obtain ⟨now, afterwards, follows, coherent, laterCoherent, hashed, laterHashed⟩ :=
      exists_coherent_pair modules files runtimeOptions clock historyWellTyped betweenWellTyped
        [.ask requestId (.query call)] [.ask widerId (.query widerCall)]
    have callHashed := fun text member => hashed text (List.mem_append_left _ member)
    have widerHashed := fun text member => laterHashed text (List.mem_append_left _ member)
    constructor
    · exact coherent.total_le laterCoherent follows sameGround apart checked widerChecked alike
        within callHashed widerHashed served widerServed
    · rintro typeName rfl
      exact coherent.counts_le laterCoherent follows sameGround apart checked widerChecked alike
        within callHashed widerHashed served widerServed
  · intro unpositioned widerUnpositioned turns widerTurns visits widerVisits apart turned
      widerTurned
    obtain ⟨now, afterwards, follows, coherent, laterCoherent, hashed, laterHashed⟩ :=
      exists_coherent_pair modules files runtimeOptions clock historyWellTyped betweenWellTyped
        (visits.flatMap PageVisit.steps) (widerVisits.flatMap PageVisit.steps)
    exact coherent.allItems_sublist laterCoherent follows sameGround apart
      (valid_run valid history) checked widerChecked alike within unpositioned widerUnpositioned
      turned widerTurned hashed laterHashed

/-- A type with one private method: nothing is listed, then the method is. -/
theorem wider_listing_adds_private_method :
    let hidden : MemberFact := { MemberFact.overload 1 "X" "" with accessibility := .private }
    let type : TypeDefinition := { TypeDefinition.bare "A" with members := [hidden] }
    let session := overModule "lib" ⟨"Lib", "", [type]⟩
    let later := session.run [.advance (.zero false)]
    let widerGiven : Value := .record [("include_non_public", .bool true)]
    let call : QueryCall := ⟨.text "lib", .members .all (.text "A") .null, false⟩
    let widerCall : QueryCall := ⟨.text "lib", .members .all (.text "A") widerGiven, false⟩
    let turn : PageTurn := ⟨"1", false, []⟩
    let visits := turnPages (.text "lib") (.members .all (.text "A")) .null session none [turn]
    let widerVisits :=
      turnPages (.text "lib") (.members .all (.text "A")) widerGiven later none [turn]
    (PageVisit.allItems visits).Sublist (PageVisit.allItems widerVisits) ∧
      ∃ count widerCount,
        (session.answerQuery "1" call).1.countOf? .method = some count ∧
          (later.answerQuery "1" widerCall).1.countOf? .method = some widerCount ∧
            count ≤ widerCount := by
  intro hidden type session later widerGiven call widerCall turn visits widerVisits
  obtain ⟨pages, items⟩ :=
    @wider_listing_only_adds_after_run
      (Registry.empty.replace "lib" ⟨"Lib", "", [type]⟩)
      (.empty (.ofText "/work") (.ofText "/home")) .standard (.zero false) []
      [.advance (.zero false)] (.text "lib") .null widerGiven _ _ RuntimeOptions.valid_standard
      (fun _ member => absurd member List.not_mem_nil)
      (List.forall_mem_singleton.mpr trivial) rfl rfl ⟨rfl, rfl, rfl, rfl, rfl⟩
      (.members .all (.text "A")) ⟨rfl, rfl⟩
      ⟨fun _ => rfl, fun _ => rfl, fun _ => rfl, fun _ => rfl, fun asked => asked,
        fun _ => rfl⟩
  have served :
      let answer := (session.answerQuery "1" call).1
      answer.isError = false ∧ answer.nextToken? = none := by
    decide +kernel
  have widerServed :
      let answer := (later.answerQuery "1" widerCall).1
      answer.isError = false ∧ answer.nextToken? = none := by
    decide +kernel
  have apart :
      DigestsApart
        (session.hashedTexts [.ask "1" (.query call)] ++
          session.hashedTexts [.advance (.zero false), .ask "1" (.query widerCall)]) := by
    apply digestsApart_of_nodup
    decide +kernel
  constructor
  · refine items ⟨rfl, rfl⟩ ⟨rfl, rfl⟩ [turn] [turn] ?_
      (turnsAllPages_of_one_page (fun _ member => absurd member List.not_mem_nil) served)
      (turnsAllPages_of_one_page (fun _ member => absurd member List.not_mem_nil) widerServed)
    rw [turnPages_of_one_page served.2, turnPages_of_one_page widerServed.2]
    exact apart
  · exact (pages "1" "1" false false apart served.1 widerServed.1).2 (.text "A") rfl .method

end Session

end TypeCatalog
