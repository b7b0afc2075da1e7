import TypeCatalog.Proofs.Session.Outcome
import TypeCatalog.Proofs.Session.PageTurning

namespace TypeCatalog

/-!
# Tokens are bound to their listing

A token resumes the listing that it was issued for, whatever happened since: a query for the same
listing starts right after the page that carried the token, and a query for any other listing is
refused.
-/

/-- An answer to a query that resumes a listing where a page ended: a page from there on, or the
error that it cannot be written. -/
structure Envelope.Resumes
    (answer : Envelope)
    (page : PageView) : Prop where
  served :
    answer.isError = false →
      ∃ next, answer.page? = some next ∧ next.offset = page.offset + page.count
  code_of_failure :
    ∀ error, answer = .failure error →
      error.code = .responseTooLarge ∨ error.code = .internalError

/-- An answer with a page is no error. -/
theorem Envelope.isError_of_page?
    {answer : Envelope}
    {page : PageView}
    (shown : answer.page? = some page) :
    answer.isError = false := by
  cases answer with
  | failure error =>
      cases shown
  | success kind data =>
      rfl

namespace Session

variable {session : Session} {modules : Registry} {texts : List String}
  {modulePath given : Value} {form : ListingForm} {options : FilterOptions}
  {listing : ListingSubject} {requestId : String} {noCache : Bool}

/-- A query that cannot start in its listing asks for nothing. -/
theorem subject_of_startOf_error
    {failure : Failure}
    (checked : FilterOptions.checkOptional given = .ok options)
    (meant : session.listing modulePath form options = .ok listing)
    (refused : listing.startOf options = .error failure) :
    session.subject modulePath (form.query given) = .error failure := by
  rw [subject_query, pageSubject, checked]
  change (session.listing modulePath form options >>= _) = _
  rw [meant]
  change (listing.startOf options >>= _) = _
  rw [refused]
  rfl

/-- A query that cannot start in its listing is answered with the reason. -/
theorem answerQuery_of_startOf_error
    {failure : Failure}
    (checked : FilterOptions.checkOptional given = .ok options)
    (meant : session.listing modulePath form options = .ok listing)
    (refused : listing.startOf options = .error failure)
    (requestId : String)
    (noCache : Bool) :
    (session.answerQuery requestId ⟨modulePath, form.query given, noCache⟩).1 =
      conclude requestId (.error failure) := by
  have noPlan := session.plan_eq modulePath (wellTyped_listing form given)
  rw [subject_of_startOf_error checked meant refused] at noPlan
  rw [answerQuery, noPlan]
  rfl

/-- If the rows of its listing are there, a query for a page can only fail to be written. -/
theorem Coherent.code_of_failure
    {rows : List Value}
    {offset : Nat}
    {error : ReportedError}
    (coherent : session.Coherent modules texts)
    (apart : DigestsApart texts)
    (checked : FilterOptions.checkOptional given = .ok options)
    (meant : session.listing modulePath form options = .ok listing)
    (starts : listing.startOf options = .ok offset)
    (hashed :
      ∀ text ∈ session.textsOfStep
        (.ask requestId (.query ⟨modulePath, form.query given, noCache⟩)), text ∈ texts)
    (rowsAre :
      ∀ now, modules.module? listing.stamp.path = some now →
        listing.stamp.fingerprint = modules.fingerprint listing.stamp.path →
          listing.rows ⟨listing.stamp.path, now, .ordinary⟩ = .ok rows)
    (failed :
      (session.answerQuery requestId ⟨modulePath, form.query given, noCache⟩).1 =
        .failure error) :
    error.code = .responseTooLarge ∨ error.code = .internalError := by
  let call : QueryCall := ⟨modulePath, form.query given, noCache⟩
  have wellTyped : call.query.WellTyped := wellTyped_listing form given
  have found : session.subject call.modulePath call.query = .ok (.page listing offset) :=
    subject_of_listing checked meant starts
  obtain ⟨now, present, fingerprintSame, concluded | ⟨failure, unusable, concluded⟩⟩ :=
    coherent.conclude_of_answerQuery apart wellTyped found
      (hashed _ (keyText_mem_textsOfStep wellTyped found requestId)) requestId
  · rw [concluded] at failed
    cases outcome : (QuerySubject.page listing offset).envelope now with
    | error failure =>
        rw [outcome] at failed
        cases failed
        have ofWriting :=
          QuerySubject.ofWriting_of_envelope (rowsAre now present fingerprintSame) outcome
        exact ofWriting.code_toError requestId
    | ok envelope =>
        rw [outcome] at failed
        obtain ⟨data, _, enveloped⟩ := Failure.exists_of_bind_eq_ok outcome
        rw [(writable_of_envelopeOf enveloped).2] at failed
        cases failed
  · rw [concluded] at failed
    cases failed
    obtain ⟨crash, rfl⟩ := exists_crash_of_lifetime unusable
    exact .inr rfl

/-- A token in an answer resumes the listing right after the page in that answer. -/
theorem Coherent.exists_issued
    {page : PageView}
    {token : String}
    (coherent : session.Coherent modules texts)
    (apart : DigestsApart texts)
    (checked : FilterOptions.checkOptional given = .ok options)
    (meant : session.listing modulePath form options = .ok listing)
    (hashed :
      ∀ text ∈ session.textsOfStep
        (.ask requestId (.query ⟨modulePath, form.query given, noCache⟩)), text ∈ texts)
    (shown :
      (session.answerQuery requestId ⟨modulePath, form.query given, noCache⟩).1.page? =
        some page)
    (issued : page.nextToken? = some token) :
    ∃ definition rows,
      modules.module? listing.stamp.path = some definition ∧
      listing.stamp.fingerprint = modules.fingerprint listing.stamp.path ∧
      listing.rows ⟨listing.stamp.path, definition, .ordinary⟩ = .ok rows ∧
      page.offset + page.count < Text.leastTooLong ∧
      token = listing.tokenText (page.offset + page.count) := by
  have noError := Envelope.isError_of_page? shown
  obtain ⟨issuer, offset, issuerMeant, starts⟩ := exists_start_of_answerQuery checked noError
  have isListing : issuer = listing := Except.ok.inj (issuerMeant.symm.trans meant)
  rw [isListing] at starts
  obtain ⟨definition, rows, cut, present, fingerprintSame, rowsAre, shows, cutShown, rowsShort,
    _⟩ := coherent.exists_page apart checked meant starts hashed noError
  have isCut : page = .ofPage cut := Option.some.inj (shown.symm.trans cutShown)
  rw [isCut] at issued ⊢
  obtain ⟨remain, tokenIs⟩ := PageView.nextToken?_ofPage shows issued
  have endsAt :
      (PageView.ofPage cut).offset + (PageView.ofPage cut).count = offset + cut.count := by
    change cut.offset.toNat + cut.count = offset + cut.count
    rw [shows.offset_eq, Int.toNat_natCast]
  rw [endsAt]
  exact
    ⟨definition, rows, present, fingerprintSame, rowsAre, Nat.lt_trans remain rowsShort, tokenIs⟩

/-- A query that starts where a page of its listing ended resumes the listing there, if the rows
are there. -/
theorem Coherent.resumes
    {page : PageView}
    {rows : List Value}
    (coherent : session.Coherent modules texts)
    (apart : DigestsApart texts)
    (checked : FilterOptions.checkOptional given = .ok options)
    (meant : session.listing modulePath form options = .ok listing)
    (startsAfter : listing.startOf options = .ok (page.offset + page.count))
    (hashed :
      ∀ text ∈ session.textsOfStep
        (.ask requestId (.query ⟨modulePath, form.query given, noCache⟩)), text ∈ texts)
    (rowsAre :
      ∀ now, modules.module? listing.stamp.path = some now →
        listing.stamp.fingerprint = modules.fingerprint listing.stamp.path →
          listing.rows ⟨listing.stamp.path, now, .ordinary⟩ = .ok rows) :
    (session.answerQuery requestId ⟨modulePath, form.query given, noCache⟩).1.Resumes page := by
  constructor
  · intro served
    obtain ⟨_, _, next, _, _, _, shows, shown, _⟩ :=
      coherent.exists_page apart checked meant startsAfter hashed served
    refine ⟨.ofPage next, shown, ?_⟩
    rw [PageView.ofPage, shows.offset_eq, Int.toNat_natCast]
  · intro error failed
    exact coherent.code_of_failure apart checked meant startsAfter hashed rowsAre failed

/-- In a run over a registry, a query with the token of an earlier page resumes the listing after
that page if it means the same listing, and is refused if it means another one.  The digest is
taken to tell the key texts of the run apart, and its first digits the two listings. -/
theorem token_bound_after_run
    {modules : Registry}
    {files : FileTree}
    {runtimeOptions : RuntimeOptions}
    {clock : Binary64}
    {before between : List SessionStep}
    {firstId secondId : String}
    {firstPath secondPath firstGiven secondGiven : Value}
    {firstForm secondForm : ListingForm}
    {firstNoCache secondNoCache : Bool}
    {firstOptions secondOptions : FilterOptions}
    {firstListing secondListing : ListingSubject}
    {page : PageView}
    {token : String}
    (beforeWellTyped : ∀ step ∈ before, step.WellTyped)
    (betweenWellTyped : ∀ step ∈ between, step.WellTyped)
    (firstChecked : FilterOptions.checkOptional firstGiven = .ok firstOptions)
    (secondChecked : FilterOptions.checkOptional secondGiven = .ok secondOptions)
    (passesToken : secondOptions.continuationToken? = some token)
    (issued : page.nextToken? = some token)
    (saltsApart :
      firstListing.salt = secondListing.salt →
        firstListing.queryText = secondListing.queryText) :
    let started := start (.ofStore (.registry modules)) files runtimeOptions clock
    let session := started.run before
    let first : QueryCall := ⟨firstPath, firstForm.query firstGiven, firstNoCache⟩
    let later := session.run (.ask firstId (.query first) :: between)
    let second : QueryCall := ⟨secondPath, secondForm.query secondGiven, secondNoCache⟩
    DigestsApart
        (started.hashedTexts
          (before ++ (.ask firstId (.query first) :: between ++
            [.ask secondId (.query second)]))) →
      session.listing firstPath firstForm firstOptions = .ok firstListing →
      later.listing secondPath secondForm secondOptions = .ok secondListing →
      (session.answerQuery firstId first).1.page? = some page →
      (firstListing = secondListing →
        (later.answerQuery secondId second).1.Resumes page ∧
        ∀ given,
          FilterOptions.checkOptional given =
              .ok
                { secondOptions with
                  skip? := some (page.offset + page.count)
                  continuationToken? := none } →
            (later.answerQuery secondId second).1 =
              (later.answerQuery secondId
                ⟨secondPath, secondForm.query given, secondNoCache⟩).1) ∧
      (firstListing ≠ secondListing →
        (later.answerQuery secondId second).1 =
          .failure (.invalidToken ContinuationToken.foreignReason)) := by
  intro started session first later second apart firstMeant secondMeant shown
  -- Both sessions are coherent over the texts of the whole run.
  obtain ⟨registry, coherent, hashed⟩ :=
    exists_coherent_run modules files runtimeOptions clock beforeWellTyped
      (.ask firstId (.query first) :: between ++ [.ask secondId (.query second)])
  rw [hashedTexts_append] at hashed
  have betweenHashed := fun text member => hashed text (List.mem_append_left _ member)
  have secondHashed := fun text member =>
    hashed text (List.mem_append_right _ (List.mem_append_left _ member))
  have stepsWellTyped :
      ∀ step ∈ SessionStep.ask firstId (.query first) :: between, step.WellTyped :=
    List.forall_mem_cons.mpr ⟨wellTyped_listing firstForm firstGiven, betweenWellTyped⟩
  obtain ⟨laterRegistry, follows, laterCoherent⟩ := coherent.run stepsWellTyped betweenHashed
  obtain ⟨definition, rows, present, fingerprintSame, rowsAre, short, tokenIs⟩ :=
    coherent.exists_issued apart firstChecked firstMeant
      (fun text member => betweenHashed text (List.mem_append_left _ member)) shown issued
  constructor
  · intro sameListing
    rw [← sameListing] at secondMeant
    have startsAfter :
        firstListing.startOf secondOptions = .ok (page.offset + page.count) := by
      have own := firstListing.startOf_token secondOptions short
      rw [← tokenIs, ← passesToken] at own
      exact own
    have rowsStay :
        ∀ now, laterRegistry.module? firstListing.stamp.path = some now →
          firstListing.stamp.fingerprint =
              laterRegistry.fingerprint firstListing.stamp.path →
            firstListing.rows ⟨firstListing.stamp.path, now, .ordinary⟩ = .ok rows := by
      intro now presentNow fingerprintNow
      rw [follows.module?_eq_of_fingerprint_eq (fingerprintNow.symm.trans fingerprintSame)
        presentNow present]
      exact rowsAre
    refine
      ⟨laterCoherent.resumes apart secondChecked secondMeant startsAfter secondHashed rowsStay,
        fun given skipChecked => ?_⟩
    have bySkip :=
      subject_of_listing skipChecked secondMeant
        (show firstListing.startOf _ = .ok (page.offset + page.count) from rfl)
    have byToken := subject_of_listing secondChecked secondMeant startsAfter
    rw [answerQuery_eq_of_subject_eq (wellTyped_listing secondForm _)
      (wellTyped_listing secondForm _) byToken bySkip]
  · intro otherListing
    have foreign : firstListing.salt ≠ secondListing.salt := fun saltsSame =>
      otherListing (ListingSubject.eq_of_queryText (saltsApart saltsSame))
    have refused :
        secondListing.startOf secondOptions =
          .error (.reported (.invalidToken ContinuationToken.foreignReason)) := by
      have refusedToken := ListingSubject.startOf_foreign secondOptions short foreign
      rw [← tokenIs, ← passesToken] at refusedToken
      exact refusedToken
    exact answerQuery_of_startOf_error secondChecked secondMeant refused secondId secondNoCache

end Session

/-- A name that is above the ceiling of answers. -/
def vastName : String :=
  String.ofList (List.replicate (Limits.maximumResponse + 1) 'B')

/-- A module of two types, the second with a given name. -/
def ModuleDefinition.ofTwoTypes (second : String) : ModuleDefinition :=
  ⟨"Lib", "", [.bare "A", .bare second]⟩

/-- A session over a module whose second type has a name above the ceiling. -/
def Session.overVastType : Session :=
  overModule "lib" (.ofTwoTypes vastName)

/-- Options that list types in the order of their declaration, so many on a page. -/
def Value.declaredTypes (take : Nat) : Value :=
  .record [("max_items", .ofNat take), ("sort_by", .text "declaration")]

/-- What these options say. -/
def FilterOptions.declaredTypes (take : Nat) : FilterOptions :=
  { standard with sortBy := .declaration, maxItems? := some take }

namespace ListingSubject

/-- The listing of the types of a module in the order of their declaration, so many on a page. -/
def declaredTypes (take : Nat) : ListingSubject :=
  ⟨.types, ⟨"lib", "rev-1"⟩,
    ⟨⟨true, false, true, true, false, true⟩, true, "", "", .declaration, .ascending, take⟩⟩

private def declared
    (position : Int)
    (name : String) : TypeDescriptor :=
  .describe "Lib" (.number position (.bare name))

private theorem mergeSort_pair
    {α : Type}
    {le : α → α → Bool}
    {first second : α}
    (inOrder : le first second = true) :
    [first, second].mergeSort le = [first, second] := by
  apply List.mergeSort_of_pairwise
  simp [inOrder]

private theorem arrangedTypes_declaredTypes
    (take : Nat)
    (second : String) :
    Answer.arrangedTypes
        ⟨"lib", (ModuleDefinition.ofTwoTypes second).assignDeclarationOrder, .ordinary⟩
        (declaredTypes take).options.toFilter (declaredTypes take).options.visibility =
      .ok [declared 1 "A", declared 2 second] := by
  let types : List TypeDefinition := [.number 1 (.bare "A"), .number 2 (.bare second)]
  have noFault : types.findSome? TypeDefinition.describeFault? = none := by
    simp [types, TypeDefinition.describeFault?, TypeDefinition.number, TypeDefinition.bare,
      TypeDefinition.faultWithin?, TypeDefinition.nestedFaults, TypeDefinition.firstSiblingFault?,
      TypeDefinition.referenceFault?, TypeRef.elementFault?, TypeRef.argumentFault?,
      GenericParameterDescriptor.inOrder, TypeDefinition.numberAll]
  have firstOrder : (declared 1 "A").order = 1 := by
    rfl
  have secondOrder : (declared 2 second).order = 2 := by
    rfl
  have sorted :
      Listing.sortItems .declaration .ascending SortKey.forTypes
          [declared 1 "A", declared 2 second] =
        .ok [declared 1 "A", declared 2 second] := by
    rw [Listing.sortItems, if_neg (by decide), if_neg (by simp [Listed.sortValue?]),
      Listing.sortByTie, mergeSort_pair, mergeSort_pair]
    · simp [Listing.inOrder, Listing.sortValue, Listed.sortValue?, firstOrder, secondOrder,
        SortValue.atMost]
    · simp [Listed.tieKey, firstOrder, secondOrder, Text.RankKey.atMost]
  have shown :
      types.filter (Answer.showsType (declaredTypes take).options.visibility) = types := by
    rfl
  change (do
    Failure.unlessCrash ((types.filter (Answer.showsType _)).findSome? _)
    _) = _
  rw [shown, noFault]
  exact sorted

private theorem exists_large_row
    {second : String}
    (large : Limits.maximumResponse < second.toList.length) :
    ∃ rows row,
      (declaredTypes 1).rows
          ⟨"lib", (ModuleDefinition.ofTwoTypes second).assignDeclarationOrder, .ordinary⟩ =
        .ok rows ∧
      rows[1]? = some row ∧
      Limits.maximumResponse < (Json.characters .compact 3 row).length := by
  refine
    ⟨[(declared 1 "A").toOwnValue, (declared 2 second).toOwnValue],
      (declared 2 second).toOwnValue, ?_, rfl, ?_⟩
  · change (Answer.arrangedTypes _ (declaredTypes 1).options.toFilter
      (declaredTypes 1).options.visibility).map _ = _
    rw [arrangedTypes_declaredTypes]
    rfl
  · have nameWritten :
        (Json.characters .compact 4 (.text second)).length ≤
          (Json.characters .compact 3 (declared 2 second).toOwnValue).length :=
      Json.length_le_of_mem_record
        (show ("full_name", Value.text second) ∈ (declared 2 second).ownFields from
          List.mem_cons_self)
    have contentWritten := Json.length_le_length_stringCharacters second
    rw [Json.characters] at nameWritten
    omega

end ListingSubject

namespace Session

private theorem checkOptional_declaredTypes :
    FilterOptions.checkOptional (.declaredTypes 1) = .ok (.declaredTypes 1) := by
  rfl

private theorem listing_overVastType :
    overVastType.listing (.text "lib") .types (.declaredTypes 1) = .ok (.declaredTypes 1) :=
  Failure.eq_ok_of_toOption_eq_some (by decide +kernel)

private theorem answerQuery_noCache
    {session : Session}
    {modules : Registry}
    {modulePath given : Value}
    {form : ListingForm}
    {options : FilterOptions}
    {listing : ListingSubject}
    {offset : Nat}
    {definition : ModuleDefinition}
    (serves : session.source.Serves modules)
    (checked : FilterOptions.checkOptional given = .ok options)
    (meant : session.listing modulePath form options = .ok listing)
    (starts : listing.startOf options = .ok offset)
    (present : modules.module? listing.stamp.path = some definition)
    (requestId : String) :
    (session.answerQuery requestId ⟨modulePath, form.query given, true⟩).1 =
      conclude requestId ((QuerySubject.page listing offset).envelope definition) := by
  have found := subject_of_listing checked meant starts
  obtain ⟨now, presentNow, _, produced, _⟩ := produce_of_subject serves found
  have sameDefinition : now = definition := Option.some.inj (presentNow.symm.trans present)
  simp only [answerQuery, plan_of_subject (wellTyped_listing form given) found,
    ResponseCache.execute_noCache]
  rw [produced, sameDefinition]

private theorem salt_declaredTypes :
    (ListingSubject.declaredTypes 1).salt = "a7d01164962c2a25" := by
  decide +kernel

private theorem startOf_declaredTypes :
    (ListingSubject.declaredTypes 1).startOf (.declaredTypes 1) = .ok 0 := by
  rfl

private theorem nextToken?_overVastType :
    (overVastType.answerQuery "1" ⟨.text "lib", .types (.declaredTypes 1), true⟩).1.nextToken? =
      some ((ListingSubject.declaredTypes 1).tokenText 1) := by
  have serves :
      overVastType.source.Serves (Registry.empty.replace "lib" (.ofTwoTypes vastName)) :=
    ⟨rfl, rfl⟩
  have answered :=
    answerQuery_noCache serves checkOptional_declaredTypes listing_overVastType
      startOf_declaredTypes rfl "1"
  change (overVastType.answerQuery "1" ⟨_, ListingForm.query _ .types, true⟩).1.nextToken? = _
  rw [answered]
  change
    (conclude "1"
      ((Answer.arrangedTypes ⟨"lib", _, .ordinary⟩
        (ListingSubject.declaredTypes 1).options.toFilter
        (ListingSubject.declaredTypes 1).options.visibility >>= _) >>= _)).nextToken? = _
  rw [ListingSubject.arrangedTypes_declaredTypes, ListingSubject.tokenText]
  simp only [ListingSubject.position, salt_declaredTypes]
  decide +kernel

/-- The page after the first one is refused, though it is asked for with the token of the first one
and means the same listing: its only row is above the ceiling. -/
theorem isError_of_row_above_ceiling :
    let token := (ListingSubject.declaredTypes 1).tokenText 1
    let first : QueryCall := ⟨.text "lib", .types (.declaredTypes 1), true⟩
    let later := overVastType.run [.ask "1" (.query first)]
    let second : QueryCall :=
      ⟨.text "lib",
        .types (.withOption "continuation_token" (.text token) (.declaredTypes 1)), true⟩
    overVastType.listing (.text "lib") .types (.declaredTypes 1) = .ok (.declaredTypes 1) ∧
      (overVastType.answerQuery "1" first).1.nextToken? = some token ∧
      later.listing (.text "lib") .types
          { FilterOptions.declaredTypes 1 with continuationToken? := some token } =
        .ok (.declaredTypes 1) ∧
      (later.answerQuery "2" second).1.isError = true := by
  intro token first later second
  have laterMeant :
      later.listing (.text "lib") .types
          { FilterOptions.declaredTypes 1 with continuationToken? := some token } =
        .ok (.declaredTypes 1) :=
    Failure.eq_ok_of_toOption_eq_some (by decide +kernel)
  refine ⟨listing_overVastType, nextToken?_overVastType, laterMeant, ?_⟩
  have serves :
      later.source.Serves (Registry.empty.replace "lib" (.ofTwoTypes vastName)) :=
    ⟨rfl, rfl⟩
  have starts := (ListingSubject.declaredTypes 1).startOf_token (.declaredTypes 1) Text.one_lt_leastTooLong
  have answered :=
    answerQuery_noCache serves
      (FilterOptions.checkOptional_withOption_token checkOptional_declaredTypes token)
      laterMeant starts rfl "2"
  have vast : Limits.maximumResponse < vastName.toList.length := by
    rw [vastName, String.toList_ofList, List.length_replicate]
    exact Nat.lt_succ_self _
  obtain ⟨rows, row, rowsAre, isSecond, large⟩ := ListingSubject.exists_large_row vast
  obtain ⟨failure, refused⟩ :=
    QuerySubject.exists_failure_of_large_row rowsAre Nat.one_pos isSecond large
  rw [refused] at answered
  exact congrArg Envelope.isError answered

/-- The token of a page is refused for pages of another size. -/
theorem token_refused_for_other_size :
    let token := (ListingSubject.declaredTypes 1).tokenText 1
    let first : QueryCall := ⟨.text "lib", .types (.declaredTypes 1), true⟩
    let later :=
      overVastType.run [.ask "1" (.query first), .replace "other" ⟨"Other", "", []⟩]
    let second : QueryCall :=
      ⟨.text "lib",
        .types (.withOption "continuation_token" (.text token) (.declaredTypes 2)), false⟩
    (later.answerQuery "2" second).1 =
      .failure (.invalidToken ContinuationToken.foreignReason) := by
  intro token first later second
  obtain ⟨page, shown, issued⟩ := Option.bind_eq_some_iff.mp nextToken?_overVastType
  have otherSalt :
      (ListingSubject.declaredTypes 1).salt ≠ (ListingSubject.declaredTypes 2).salt := by
    rw [salt_declaredTypes]
    decide +kernel
  have checked : FilterOptions.checkOptional (.declaredTypes 2) = .ok (.declaredTypes 2) := by
    rfl
  have checkedWithToken := FilterOptions.checkOptional_withOption_token checked token
  have meant :
      later.listing (.text "lib") .types
          { FilterOptions.declaredTypes 2 with continuationToken? := some token } =
        .ok (.declaredTypes 2) :=
    Failure.eq_ok_of_toOption_eq_some (by decide +kernel)
  have between :
      ∀ step ∈ [SessionStep.replace "other" ⟨"Other", "", []⟩], step.WellTyped := by
    intro step member
    rw [List.mem_singleton.mp member]
    trivial
  have bound :=
    @token_bound_after_run (Registry.empty.replace "lib" (.ofTwoTypes vastName))
      (.empty (.ofText "/work") (.ofText "/home")) .standard (.zero false) [] _ "1" "2"
      (.text "lib") (.text "lib") (.declaredTypes 1) _ .types .types true false _ _ _ _ page token
      (fun _ member => absurd member List.not_mem_nil) between checkOptional_declaredTypes
      checkedWithToken rfl issued (fun sameSalt => absurd sameSalt otherSalt)
  refine (bound ?_ listing_overVastType meant shown).2 (by decide)
  -- The refused query hashes nothing, so a single key text is left.
  have found := subject_of_listing checkOptional_declaredTypes listing_overVastType
    startOf_declaredTypes
  have refused :=
    subject_of_startOf_error checkedWithToken meant
      (ListingSubject.startOf_foreign (.declaredTypes 2) Text.one_lt_leastTooLong otherSalt)
  have firstText :
      overVastType.textsOfStep (.ask "1" (.query first)) =
        [(QuerySubject.page (.declaredTypes 1) 0).keyText] := by
    rw [textsOfStep_query overVastType (wellTyped_listing .types (.declaredTypes 1))]
    exact congrArg (fun subject => (subject.map QuerySubject.keyText).toOption.toList) found
  have noText : later.textsOfStep (.ask "2" (.query second)) = [] := by
    rw [textsOfStep_query later (wellTyped_listing .types _)]
    exact congrArg (fun subject => (subject.map QuerySubject.keyText).toOption.toList) refused
  have texts :
      overVastType.hashedTexts
          ([.ask "1" (.query first), .replace "other" ⟨"Other", "", []⟩] ++
            [.ask "2" (.query second)]) =
        [(QuerySubject.page (.declaredTypes 1) 0).keyText] := by
    rw [hashedTexts_append]
    change (overVastType.textsOfStep (.ask "1" (.query first)) ++ []) ++
      (later.textsOfStep (.ask "2" (.query second)) ++ []) = _
    rw [firstText, noText]
    rfl
  change DigestsApart
    (overVastType.hashedTexts
      ([.ask "1" (.query first), .replace "other" ⟨"Other", "", []⟩] ++
        [.ask "2" (.query second)]))
  rw [texts]
  intro one oneMember other otherMember _
  rw [List.mem_singleton.mp oneMember, List.mem_singleton.mp otherMember]

end Session

end TypeCatalog
