import TypeCatalog.Proofs.Session.PageTurning

namespace TypeCatalog

/-!
# Paging is complete

Whoever turns the pages of a listing while the module and the runtime options stay as they are gets
all rows, each once and in order, in no more calls than there are rows.  A page can also be asked
for by the number of rows before it.
-/

/-- Calls for pages during which the runtime options and the module at a path stay as they are in a
session, and whose answers are no errors. -/
structure Undisturbed
    (session : Session)
    (modulePath : Value)
    (visits : List PageVisit) : Prop where
  options_eq : ∀ visit ∈ visits, visit.session.options = session.options
  stamp_eq :
    ∀ visit ∈ visits,
      visit.session.resolveModule modulePath = session.resolveModule modulePath
  no_error : ∀ visit ∈ visits, visit.answer.isError = false

private theorem Undisturbed.listing_eq
    {session : Session}
    {modulePath : Value}
    {visits : List PageVisit}
    {visit : PageVisit}
    (undisturbed : Undisturbed session modulePath visits)
    (member : visit ∈ visits)
    (form : ListingForm)
    (options : FilterOptions) :
    visit.session.listing modulePath form options =
      session.listing modulePath form options := by
  have optionsSame := undisturbed.options_eq visit member
  simp only [Session.listing, Session.resolvedOptions, Session.visibilityFor, Session.takeFor,
    undisturbed.stamp_eq visit member, optionsSame]

namespace Session

namespace Coherent

variable {session : Session} {modules : Registry} {texts : List String}

/-- Turning pages from the first one on lists all rows of the module of now. -/
theorem exists_completeListing
    {modulePath given : Value}
    {form : ListingForm}
    {options : FilterOptions}
    {turns : List PageTurn}
    (coherent : session.Coherent modules texts)
    (apart : DigestsApart texts)
    (valid : session.options.Valid)
    (checked : FilterOptions.checkOptional given = .ok options)
    (unpositioned : options.Unpositioned)
    (someTurn : turns ≠ [])
    (wellTyped : ∀ turn ∈ turns, ∀ step ∈ turn.afterwards, step.WellTyped)
    (hashed :
      ∀ text ∈ session.hashedTexts
        ((turnPages modulePath form given session none turns).flatMap PageVisit.steps),
        text ∈ texts)
    (undisturbed :
      Undisturbed session modulePath (turnPages modulePath form given session none turns)) :
    ∃ listing opened rows views,
      session.listing modulePath form options = .ok listing ∧
      (session.source.openModule session.files listing.stamp.path).1 = .ok (some opened) ∧
      listing.rows opened = .ok rows ∧
      (turnPages modulePath form given session none turns).map
          (fun visit => visit.answer.page?) = views.map some ∧
      CompleteListing rows turns.length views := by
  obtain ⟨turn, rest, rfl⟩ := List.exists_cons_of_ne_nil someTurn
  obtain ⟨afterwards, visits, visitsAre, _⟩ :=
    exists_rest_of_turnPages modulePath form given session none turn rest
  have firstVisit :
      ⟨session, turn.requestId, ⟨modulePath, form.query given, turn.noCache⟩,
          (session.answerQuery turn.requestId
            ⟨modulePath, form.query given, turn.noCache⟩).1, afterwards⟩ ∈
        turnPages modulePath form given session none (turn :: rest) := by
    rw [visitsAre]
    exact List.mem_cons_self
  have noError := undisturbed.no_error _ firstVisit
  obtain ⟨listing, _, meant, _⟩ := exists_start_of_answerQuery checked noError
  have starts := listing.startOf_unpositioned unpositioned
  have hashedFirst :
      ∀ text ∈ session.textsOfStep
        (.ask turn.requestId (.query ⟨modulePath, form.query given, turn.noCache⟩)),
        text ∈ texts := by
    intro text member
    rw [visitsAre] at hashed
    refine hashed text (List.mem_append_left _ ?_)
    exact member
  obtain ⟨definition, rows, _, present, fingerprintSame, rowsAre, _⟩ :=
    coherent.exists_page apart checked meant starts hashedFirst noError
  have opened := coherent.serves.openModule_of_present present session.files
  have startsWithoutToken :
      listing.startOf { options with continuationToken? := none } = .ok 0 :=
    listing.startOf_unpositioned ⟨unpositioned.noSkip, rfl⟩
  obtain ⟨views, viewsAre, walk⟩ :=
    exists_pageWalk_of_turnPages apart checked unpositioned.noToken present fingerprintSame
      rowsAre (take_pos_of_listing valid checked meant) (.refl modules) coherent
      startsWithoutToken wellTyped hashed
      (fun visit member => (undisturbed.listing_eq member form options).trans meant)
      undisturbed.no_error
  refine ⟨listing, _, rows, views, meant, ?_, rowsAre, viewsAre, walk.completeListing⟩
  rw [opened]

/-- A page that is asked for by the number of rows before it is the one that a token with that
offset resumes at. -/
theorem answerQuery_skip_eq_token
    {modulePath given : Value}
    {form : ListingForm}
    {options : FilterOptions}
    {listing : ListingSubject}
    {requestId : String}
    {noCache : Bool}
    {skip : Nat}
    (coherent : session.Coherent modules texts)
    (apart : DigestsApart texts)
    (checked : FilterOptions.checkOptional given = .ok options)
    (unpositioned : options.Unpositioned)
    (meant : session.listing modulePath form options = .ok listing)
    (hashed :
      ∀ text ∈ session.textsOfStep
        (.ask requestId (.query
          ⟨modulePath, form.query (.withOption "skip" (.ofNat skip) given), noCache⟩)),
        text ∈ texts)
    (served :
      (session.answerQuery requestId
          ⟨modulePath, form.query (.withOption "skip" (.ofNat skip) given),
            noCache⟩).1.isError = false ∨
        (session.answerQuery requestId
          ⟨modulePath,
            form.query
              (.withOption "continuation_token" (.text (listing.tokenText skip)) given),
            noCache⟩).1.isError = false) :
    (session.answerQuery requestId
        ⟨modulePath, form.query (.withOption "skip" (.ofNat skip) given), noCache⟩).1 =
      (session.answerQuery requestId
        ⟨modulePath,
          form.query (.withOption "continuation_token" (.text (listing.tokenText skip)) given),
          noCache⟩).1 := by
  have checkedSkip := FilterOptions.checkOptional_withOption_skip checked skip
  have checkedToken :=
    FilterOptions.checkOptional_withOption_token checked (listing.tokenText skip)
  by_cases short : skip < Text.leastTooLong
  · obtain ⟨bySkip, byToken⟩ :=
      subject_skip_eq_subject_token checked unpositioned meant short
    rw [answerQuery_eq_of_subject_eq (wellTyped_listing form _) (wellTyped_listing form _)
      bySkip byToken]
  · exfalso
    rcases served with served | served
    · obtain ⟨_, _, _, _, _, _, _, _, _, offsetShort⟩ :=
        coherent.exists_page apart checkedSkip meant
          (listing.startOf_skip unpositioned skip) hashed served
      exact short offsetShort
    · obtain ⟨meantByToken, offset, sameListing, starts⟩ :=
        exists_start_of_answerQuery checkedToken served
      have isListing : meantByToken = listing :=
        Except.ok.inj (sameListing.symm.trans meant)
      rw [isListing, ListingSubject.startOf, ListingSubject.tokenText,
        ContinuationToken.resolveOffset_long _ _ (Nat.le_of_not_lt short)
          listing.readableSalt] at starts
      cases starts

end Coherent

/-- After any run over a registry, turning the pages of a listing while the module and the runtime
options stay as they are gives every row once and in order, and a page that is asked for by the
number of rows before it is the one that a token with that offset resumes at.  The digest is taken
to tell the key texts of the calls apart. -/
theorem turnPages_complete_after_run
    {modules : Registry}
    {files : FileTree}
    {runtimeOptions : RuntimeOptions}
    {clock : Binary64}
    {history : List SessionStep}
    {modulePath given : Value}
    {form : ListingForm}
    {options : FilterOptions}
    (valid : runtimeOptions.Valid)
    (historyWellTyped : ∀ step ∈ history, step.WellTyped)
    (checked : FilterOptions.checkOptional given = .ok options)
    (unpositioned : options.Unpositioned) :
    let started := start (.ofStore (.registry modules)) files runtimeOptions clock
    let session := started.run history
    (∀ turns : List PageTurn,
      let visits := turnPages modulePath form given session none turns
      turns ≠ [] →
      (∀ turn ∈ turns, ∀ step ∈ turn.afterwards, step.WellTyped) →
      DigestsApart (started.hashedTexts (history ++ visits.flatMap PageVisit.steps)) →
      Undisturbed session modulePath visits →
      ∃ listing opened rows views,
        session.listing modulePath form options = .ok listing ∧
        (session.source.openModule session.files listing.stamp.path).1 = .ok (some opened) ∧
        listing.rows opened = .ok rows ∧
        visits.map (fun visit => visit.answer.page?) = views.map some ∧
        CompleteListing rows turns.length views) ∧
    ∀ (listing : ListingSubject) (skip : Nat) (requestId : String) (noCache : Bool),
      let bySkip : QueryCall :=
        ⟨modulePath, form.query (.withOption "skip" (.ofNat skip) given), noCache⟩
      let byToken : QueryCall :=
        ⟨modulePath,
          form.query (.withOption "continuation_token" (.text (listing.tokenText skip)) given),
          noCache⟩
      session.listing modulePath form options = .ok listing →
      DigestsApart (started.hashedTexts (history ++ [.ask requestId (.query bySkip)])) →
      (session.answerQuery requestId bySkip).1.isError = false ∨
        (session.answerQuery requestId byToken).1.isError = false →
      (session.answerQuery requestId bySkip).1 = (session.answerQuery requestId byToken).1 := by
  intro started session
  constructor
  · intro turns visits someTurn wellTyped apart undisturbed
    obtain ⟨now, coherent, hashed⟩ :=
      exists_coherent_run modules files runtimeOptions clock historyWellTyped
        (visits.flatMap PageVisit.steps)
    exact coherent.exists_completeListing apart (valid_run valid history) checked unpositioned
      someTurn wellTyped hashed undisturbed
  · intro listing skip requestId noCache bySkip byToken meant apart served
    obtain ⟨now, coherent, hashed⟩ :=
      exists_coherent_run modules files runtimeOptions clock historyWellTyped
        [.ask requestId (.query bySkip)]
    exact coherent.answerQuery_skip_eq_token apart checked unpositioned meant
      (fun text member => hashed text (List.mem_append_left _ member)) served

/-- Two turns at a listing of one type in a module that was replaced, and the page after its row. -/
theorem turnPages_complete_of_one_type :
    let history : List SessionStep :=
      [.replace "lib" ⟨"Lib", "", [.bare "B"]⟩]
    let session := (overModule "lib" ⟨"Lib", "", [.bare "A"]⟩).run history
    let given : Value := .record [("max_items", .int 1)]
    let turns : List PageTurn := [⟨"2", false, [.advance (.zero false)]⟩, ⟨"3", true, []⟩]
    let visits := turnPages (.text "lib") .types given session none turns
    ∃ (listing : ListingSubject) (opened : OpenModule) (rows : List Value)
      (views : List PageView),
      (session.source.openModule session.files listing.stamp.path).1 = .ok (some opened) ∧
      listing.rows opened = .ok rows ∧
      visits.map (fun visit => visit.answer.page?) = views.map some ∧
      CompleteListing rows turns.length views ∧
      (session.answerQuery "4"
          ⟨.text "lib", .types (.withOption "skip" (.ofNat 1) given), false⟩).1 =
        (session.answerQuery "4"
          ⟨.text "lib",
            .types (.withOption "continuation_token" (.text (listing.tokenText 1)) given),
            false⟩).1 := by
  intro history session given turns visits
  have wellTyped : ∀ step ∈ history, step.WellTyped := by
    intro step member
    rw [List.mem_singleton.mp member]
    trivial
  have passed :
      FilterOptions.checkOptional given =
        .ok { FilterOptions.standard with maxItems? := some 1 } := by
    rfl
  obtain ⟨walks, skips⟩ :=
    @turnPages_complete_after_run (Registry.empty.replace "lib" ⟨"Lib", "", [.bare "A"]⟩)
      (.empty (.ofText "/work") (.ofText "/home")) .standard (.zero false) history
      (.text "lib") given .types _ RuntimeOptions.valid_standard wellTyped passed ⟨rfl, rfl⟩
  have turnsWellTyped : ∀ turn ∈ turns, ∀ step ∈ turn.afterwards, step.WellTyped := by
    simp [turns, SessionStep.WellTyped]
  have noError : ∀ visit ∈ visits, visit.answer.isError = false := by
    decide +kernel
  have undisturbed : Undisturbed session (.text "lib") visits := by
    obtain ⟨_, _, visitsAre, ends, _⟩ :=
      exists_rest_of_turnPages (.text "lib") .types given session none
        ⟨"2", false, [.advance (.zero false)]⟩ [⟨"3", true, []⟩]
    obtain ⟨rfl, rfl⟩ := ends (by decide +kernel)
    have atSession : ∀ visit ∈ visits, visit.session = session := by
      intro visit member
      rw [show visits = [_] from visitsAre] at member
      rw [List.mem_singleton.mp member]
    exact
      ⟨fun visit member => by rw [atSession visit member],
        fun visit member => by rw [atSession visit member], noError⟩
  obtain ⟨listing, opened, rows, views, meant, isOpened, rowsAre, viewsAre, complete⟩ :=
    walks turns (List.cons_ne_nil _ _) turnsWellTyped
      (digestsApart_of_nodup (by decide +kernel)) undisturbed
  refine ⟨listing, opened, rows, views, isOpened, rowsAre, viewsAre, complete, ?_⟩
  exact skips listing 1 "4" false meant (digestsApart_of_nodup (by decide +kernel))
    (.inl (by decide +kernel))

end Session

end TypeCatalog
