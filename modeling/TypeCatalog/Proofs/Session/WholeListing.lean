import TypeCatalog.Proofs.Session.PageLength
import TypeCatalog.Proofs.Session.PagingCompleteness

namespace TypeCatalog

/-!
# Whole listings

Whoever turns the pages of a listing to the last one, while the module and the runtime options stay
as they are, has all rows of the listing: its items are the rows as they are read back.
-/

/-- The items of some calls for pages, one page after the other. -/
def PageVisit.allItems (visits : List PageVisit) : List Value :=
  visits.flatMap fun visit => visit.answer.items

/-- A page shows the items of its answer. -/
theorem Envelope.items_of_page?
    {answer : Envelope}
    {page : PageView}
    (shown : answer.page? = some page) :
    answer.items = page.items := by
  cases answer with
  | failure error =>
      cases shown
  | success kind data =>
      simp only [page?] at shown
      split at shown
      · next itemsAre =>
          cases shown
          simp only [items, itemsAre]
      · cases shown

private theorem allItems_eq_flatMap
    {visits : List PageVisit}
    {views : List PageView}
    (viewsAre : visits.map (fun visit => visit.answer.page?) = views.map some) :
    PageVisit.allItems visits = views.flatMap PageView.items := by
  induction visits generalizing views with
  | nil =>
      rw [List.map_nil, eq_comm, List.map_eq_nil_iff] at viewsAre
      rw [viewsAre]
      rfl
  | cons visit rest inductionHypothesis =>
      cases views with
      | nil =>
          cases viewsAre
      | cons view others =>
          rw [List.map_cons, List.map_cons, List.cons_eq_cons] at viewsAre
          rw [PageVisit.allItems, List.flatMap_cons, List.flatMap_cons,
            Envelope.items_of_page? viewsAre.1]
          exact congrArg (view.items ++ ·) (inductionHypothesis viewsAre.2)

private theorem endsWithoutToken_of_visits
    {visits : List PageVisit}
    {views : List PageView}
    {last : PageVisit}
    (viewsAre : visits.map (fun visit => visit.answer.page?) = views.map some)
    (isLast : visits.getLast? = some last)
    (noToken : last.answer.nextToken? = none) :
    endsWithoutToken views := by
  have lastPage :
      (visits.map fun visit => visit.answer.page?).getLast? = some last.answer.page? := by
    rw [List.getLast?_map, isLast, Option.map_some]
  rw [viewsAre, List.getLast?_map, Option.map_eq_some_iff] at lastPage
  obtain ⟨view, isLastView, shown⟩ := lastPage
  refine ⟨view, isLastView, ?_⟩
  rw [Envelope.nextToken?, ← shown] at noToken
  exact noToken

namespace Session

/-- A later session in which a query about the module at a path means what it did: the runtime
options and the module are the same. -/
structure SameGround
    (session later : Session)
    (modulePath : Value) : Prop where
  options_eq : later.options = session.options
  stamp_eq : later.resolveModule modulePath = session.resolveModule modulePath

/-- Turning pages in a session goes on to the last one, while the module and the runtime options
stay as they are. -/
structure TurnsAllPages
    (session : Session)
    (modulePath : Value)
    (form : ListingForm)
    (given : Value)
    (turns : List PageTurn) : Prop where
  wellTyped : ∀ turn ∈ turns, ∀ step ∈ turn.afterwards, step.WellTyped
  undisturbed :
    Undisturbed session modulePath (turnPages modulePath form given session none turns)
  ends :
    ∃ last, (turnPages modulePath form given session none turns).getLast? = some last ∧
      last.answer.nextToken? = none

/-- A listing that fits on one page takes one turn. -/
theorem turnPages_of_one_page
    {session : Session}
    {modulePath given : Value}
    {form : ListingForm}
    {turn : PageTurn}
    (noToken :
      (session.answerQuery turn.requestId
        ⟨modulePath, form.query given, turn.noCache⟩).1.nextToken? = none) :
    turnPages modulePath form given session none [turn] =
      [⟨session, turn.requestId, ⟨modulePath, form.query given, turn.noCache⟩,
        (session.answerQuery turn.requestId ⟨modulePath, form.query given, turn.noCache⟩).1,
        []⟩] := by
  obtain ⟨afterwards, visits, visitsAre, endsHere, _⟩ :=
    exists_rest_of_turnPages modulePath form given session none turn []
  obtain ⟨rfl, rfl⟩ := endsHere noToken
  exact visitsAre

theorem turnsAllPages_of_one_page
    {session : Session}
    {modulePath given : Value}
    {form : ListingForm}
    {turn : PageTurn}
    (wellTyped : ∀ step ∈ turn.afterwards, step.WellTyped)
    (served :
      let answer :=
        (session.answerQuery turn.requestId ⟨modulePath, form.query given, turn.noCache⟩).1
      answer.isError = false ∧ answer.nextToken? = none) :
    session.TurnsAllPages modulePath form given [turn] := by
  have visitsAre := turnPages_of_one_page served.2
  refine ⟨List.forall_mem_singleton.mpr wellTyped, ?_, ?_⟩
  · rw [visitsAre]
    exact
      ⟨List.forall_mem_singleton.mpr rfl, List.forall_mem_singleton.mpr rfl,
        List.forall_mem_singleton.mpr served.1⟩
  · rw [visitsAre]
    exact ⟨_, rfl, served.2⟩

/-- A listing that is meant in a session over a registry, and its rows in the module of now. -/
structure HasRows
    (session : Session)
    (modules : Registry)
    (modulePath : Value)
    (form : ListingForm)
    (options : FilterOptions)
    (listing : ListingSubject)
    (definition : ModuleDefinition)
    (rows : List Value) : Prop where
  meant : session.listing modulePath form options = .ok listing
  present : modules.module? listing.stamp.path = some definition
  fingerprint_eq : listing.stamp.fingerprint = modules.fingerprint listing.stamp.path
  rows_eq : listing.rows ⟨listing.stamp.path, definition, .ordinary⟩ = .ok rows

/-- Turning all pages of a listing gives its rows in the module of now. -/
theorem Coherent.exists_rows_of_turnsAllPages
    {session : Session}
    {modules : Registry}
    {texts : List String}
    {modulePath given : Value}
    {form : ListingForm}
    {options : FilterOptions}
    {turns : List PageTurn}
    (coherent : session.Coherent modules texts)
    (apart : DigestsApart texts)
    (valid : session.options.Valid)
    (checked : FilterOptions.checkOptional given = .ok options)
    (unpositioned : options.Unpositioned)
    (turnsAll : session.TurnsAllPages modulePath form given turns)
    (hashed :
      ∀ text ∈ session.hashedTexts
        ((turnPages modulePath form given session none turns).flatMap PageVisit.steps),
        text ∈ texts) :
    ∃ listing definition rows,
      session.HasRows modules modulePath form options listing definition rows ∧
        PageVisit.allItems (turnPages modulePath form given session none turns) =
          rows.map Json.settled := by
  obtain ⟨last, isLast, noToken⟩ := turnsAll.ends
  have someTurn : turns ≠ [] := by
    rintro rfl
    cases isLast
  obtain ⟨listing, opened, rows, views, meant, opens, rowsAre, viewsAre, complete⟩ :=
    coherent.exists_completeListing apart valid checked unpositioned someTurn turnsAll.wellTyped
      hashed turnsAll.undisturbed
  obtain ⟨⟨definition, present⟩, fingerprintSame⟩ :=
    module_of_resolveModule coherent.serves (resolveModule_of_listing meant)
  rw [coherent.serves.openModule_of_present present session.files] at opens
  cases opens
  refine ⟨listing, definition, rows, ⟨meant, present, fingerprintSame, rowsAre⟩, ?_⟩
  rw [allItems_eq_flatMap viewsAre]
  exact complete.items_eq (endsWithoutToken_of_visits viewsAre isLast noToken)

/-- Listings that are meant in two sessions have the same module if they have the same stamp and the
later registry follows the earlier one. -/
theorem HasRows.definition_eq
    {first second : Session}
    {modules later : Registry}
    {modulePath laterPath : Value}
    {form laterForm : ListingForm}
    {options laterOptions : FilterOptions}
    {listing laterListing : ListingSubject}
    {definition laterDefinition : ModuleDefinition}
    {rows laterRows : List Value}
    (earlierHas : first.HasRows modules modulePath form options listing definition rows)
    (laterHas :
      second.HasRows later laterPath laterForm laterOptions laterListing laterDefinition
        laterRows)
    (follows : later.Follows modules)
    (sameStamp : laterListing.stamp = listing.stamp) :
    laterDefinition = definition := by
  have laterPresent := laterHas.present
  have laterFingerprint := laterHas.fingerprint_eq
  rw [sameStamp] at laterPresent laterFingerprint
  exact follows.module?_eq_of_fingerprint_eq
    (laterFingerprint.symm.trans earlierHas.fingerprint_eq) laterPresent earlierHas.present

/-- A listing that is meant in a session has one list of rows. -/
theorem HasRows.rows_unique
    {session : Session}
    {modules : Registry}
    {modulePath : Value}
    {form : ListingForm}
    {options : FilterOptions}
    {listing other : ListingSubject}
    {definition otherDefinition : ModuleDefinition}
    {rows otherRows : List Value}
    (has : session.HasRows modules modulePath form options listing definition rows)
    (hasOther :
      session.HasRows modules modulePath form options other otherDefinition otherRows) :
    rows = otherRows := by
  cases has.meant.symm.trans hasOther.meant
  cases has.present.symm.trans hasOther.present
  exact Except.ok.inj (has.rows_eq.symm.trans hasOther.rows_eq)

/-- A page that is answered without an error shows how many rows its listing has. -/
theorem Coherent.exists_total
    {session : Session}
    {modules : Registry}
    {texts : List String}
    {modulePath given : Value}
    {form : ListingForm}
    {options : FilterOptions}
    {requestId : String}
    {noCache : Bool}
    (coherent : session.Coherent modules texts)
    (apart : DigestsApart texts)
    (checked : FilterOptions.checkOptional given = .ok options)
    (hashed :
      ∀ text ∈ session.textsOfStep
        (.ask requestId (.query ⟨modulePath, form.query given, noCache⟩)), text ∈ texts)
    (noError :
      (session.answerQuery requestId
        ⟨modulePath, form.query given, noCache⟩).1.isError = false) :
    ∃ listing definition rows page,
      session.HasRows modules modulePath form options listing definition rows ∧
        (session.answerQuery requestId ⟨modulePath, form.query given, noCache⟩).1.page? =
          some page ∧
          page.total = rows.length := by
  obtain ⟨listing, offset, meant, starts⟩ := exists_start_of_answerQuery checked noError
  obtain ⟨definition, rows, page, present, fingerprintSame, rowsAre, shows, shown, _⟩ :=
    coherent.exists_page apart checked meant starts hashed noError
  exact ⟨listing, definition, rows, .ofPage page, ⟨meant, present, fingerprintSame, rowsAre⟩,
    shown, shows.total_eq⟩

/-- In a run over a registry, a session and one that it goes on to are coherent, each with what it
hashes next. -/
theorem exists_coherent_pair
    (modules : Registry)
    (files : FileTree)
    (options : RuntimeOptions)
    (clock : Binary64)
    {history between : List SessionStep}
    (historyWellTyped : ∀ step ∈ history, step.WellTyped)
    (betweenWellTyped : ∀ step ∈ between, step.WellTyped)
    (steps laterSteps : List SessionStep) :
    let started := start (.ofStore (.registry modules)) files options clock
    let session := started.run history
    let later := session.run between
    let texts :=
      started.hashedTexts (history ++ steps) ++
        started.hashedTexts (history ++ (between ++ laterSteps))
    ∃ now afterwards : Registry,
      afterwards.Follows now ∧
        session.Coherent now texts ∧
          later.Coherent afterwards texts ∧
            (∀ text ∈ session.hashedTexts steps, text ∈ texts) ∧
              ∀ text ∈ later.hashedTexts laterSteps, text ∈ texts := by
  intro started session later texts
  have textsAre :
      texts =
        (started.hashedTexts history ++ session.hashedTexts steps) ++
          (started.hashedTexts history ++
            (session.hashedTexts between ++ later.hashedTexts laterSteps)) := by
    simp only [texts, hashedTexts_append]
    rfl
  have historyHashed : ∀ text ∈ started.hashedTexts history, text ∈ texts := by
    intro text member
    rw [textsAre]
    exact List.mem_append_left _ (List.mem_append_left _ member)
  have betweenHashed : ∀ text ∈ session.hashedTexts between, text ∈ texts := by
    intro text member
    rw [textsAre]
    exact List.mem_append_right _ (List.mem_append_right _ (List.mem_append_left _ member))
  obtain ⟨now, _, coherent⟩ :=
    (coherent_start modules files options clock texts).run historyWellTyped historyHashed
  obtain ⟨afterwards, follows, laterCoherent⟩ := coherent.run betweenWellTyped betweenHashed
  refine ⟨now, afterwards, follows, coherent, laterCoherent, ?_, ?_⟩
  · intro text member
    rw [textsAre]
    exact List.mem_append_left _ (List.mem_append_right _ member)
  · intro text member
    rw [textsAre]
    exact List.mem_append_right _ (List.mem_append_right _ (List.mem_append_right _ member))

end Session

end TypeCatalog
