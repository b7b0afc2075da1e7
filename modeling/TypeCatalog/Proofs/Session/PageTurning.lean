import TypeCatalog.Proofs.Session.ListingPage
import TypeCatalog.Proofs.Session.PageStart

namespace TypeCatalog

/-!
# Turning pages

A walk goes from page to page while a page has a token and turns are left.  Each page shows rows
from where the page before ended, so the pages put one after the other are the rows, and every page
but the first needs at least one row of its own.

A caller asks for the first page of a listing and then, with the same options, for the page that
the token of the last one resumes at, until a page has none.  In between the session may go on in
any way that leaves the module and the runtime options as they are.  Every page shows the same
rows, so the pages are a walk through them.
-/

/-! ## Walks through pages -/

/-- A page in an answer that shows some rows from an offset on. -/
structure PageView.Shows
    (view : PageView)
    (rows : List Value)
    (offset : Nat) : Prop where
  total_eq : view.total = rows.length
  offset_eq : view.offset = offset
  count_eq : view.count = view.items.length
  items_eq : view.items = ((rows.drop offset).take view.count).map Json.settled
  some_items : offset < rows.length → 0 < view.count
  goes_on_iff : view.nextToken?.isSome = true ↔ offset + view.count < rows.length

/-- A page that shows some rows is seen to show them. -/
theorem PageView.shows_ofPage
    {page : Page}
    {rows : List Value}
    {offset take : Nat}
    {salt : String}
    (shows : page.Shows rows offset take salt)
    (positive : 0 < take) :
    (PageView.ofPage page).Shows rows offset := by
  constructor
  · exact shows.total_eq
  · rw [ofPage, shows.offset_eq, Int.toNat_natCast]
  · exact (List.length_map Json.settled).symm
  · rw [ofPage, ← shows.items_eq]
  · exact fun inside => shows.count_pos inside positive
  · rw [ofPage, shows.nextToken_eq]
    split
    · next remain =>
        simpa using remain
    · next noneRemain =>
        simpa using noneRemain

/-- The token of a page resumes right after it, where rows remain. -/
theorem PageView.nextToken?_ofPage
    {page : Page}
    {rows : List Value}
    {offset take : Nat}
    {salt token : String}
    (shows : page.Shows rows offset take salt)
    (next : (PageView.ofPage page).nextToken? = some token) :
    offset + page.count < rows.length ∧
      token = ContinuationToken.text ⟨(offset + page.count : Nat), salt⟩ := by
  change page.nextToken?.map ContinuationToken.text = some token at next
  rw [shows.nextToken_eq] at next
  split at next
  · next remain =>
      exact ⟨remain, (Option.some.inj next).symm⟩
  · cases next

/-- The items of a page and the rows after it are the rows from its offset on. -/
theorem PageView.Shows.items_append
    {view : PageView}
    {rows : List Value}
    {offset : Nat}
    (shows : view.Shows rows offset) :
    view.items ++ (rows.drop (offset + view.count)).map Json.settled =
      (rows.drop offset).map Json.settled := by
  have rest : rows.drop (offset + view.count) = (rows.drop offset).drop view.count := by
    rw [List.drop_drop]
  calc
    view.items ++ (rows.drop (offset + view.count)).map Json.settled =
        ((rows.drop offset).take view.count).map Json.settled ++
          ((rows.drop offset).drop view.count).map Json.settled := by
      rw [← shows.items_eq, rest]
    _ = (rows.drop offset).map Json.settled := by
      rw [← List.map_append, List.take_append_drop]

/-- The number of items on several pages. -/
def PageView.countAll : List PageView → Nat
  | [] => 0
  | view :: rest => view.count + countAll rest

/-- A walk from an offset with so many turns left. -/
inductive PageWalk (rows : List Value) : Nat → Nat → List PageView → Prop where
  | stopped (offset : Nat) : PageWalk rows 0 offset []
  | last
    {turns offset : Nat}
    {view : PageView}
    (shows : view.Shows rows offset)
    (ends : view.nextToken? = none) :
    PageWalk rows (turns + 1) offset [view]
  | more
    {turns offset : Nat}
    {view : PageView}
    {views : List PageView}
    (shows : view.Shows rows offset)
    (goesOn : offset + view.count < rows.length)
    (rest : PageWalk rows turns (offset + view.count) views) :
    PageWalk rows (turns + 1) offset (view :: views)

/-- Whether the last of some pages has no token. -/
def endsWithoutToken (views : List PageView) : Prop :=
  ∃ view, views.getLast? = some view ∧ view.nextToken? = none

namespace PageWalk

variable {rows : List Value} {turns offset : Nat} {views : List PageView}

theorem length_le
    (walk : PageWalk rows turns offset views) :
    views.length ≤ max 1 (rows.length - offset) := by
  induction walk with
  | stopped offset =>
      exact Nat.zero_le _
  | last shows ends =>
      exact Nat.le_max_left _ _
  | more shows goesOn rest inductionHypothesis =>
      -- A page that others follow uses up at least one row.
      have positive := shows.some_items (by omega)
      rw [List.length_cons]
      omega

theorem ends
    (walk : PageWalk rows turns offset views)
    (enough : max 1 (rows.length - offset) ≤ turns) :
    endsWithoutToken views := by
  induction walk with
  | stopped offset =>
      omega
  | last shows ends =>
      exact ⟨_, rfl, ends⟩
  | more shows goesOn rest inductionHypothesis =>
      have positive := shows.some_items (by omega)
      obtain ⟨view, isLast, noToken⟩ := inductionHypothesis (by omega)
      exact ⟨view, by rw [List.getLast?_cons, isLast, Option.getD_some], noToken⟩

theorem shows_of_mem
    (walk : PageWalk rows turns offset views) :
    ∀ view ∈ views, view.Shows rows view.offset := by
  induction walk with
  | stopped offset =>
      exact fun _ member => absurd member List.not_mem_nil
  | last shows ends =>
      intro view member
      rw [List.mem_singleton.mp member]
      exact shows.offset_eq ▸ shows
  | more shows goesOn rest inductionHypothesis =>
      intro view member
      rcases List.mem_cons.mp member with rfl | inRest
      · exact shows.offset_eq ▸ shows
      · exact inductionHypothesis view inRest

theorem offset_eq
    (walk : PageWalk rows turns offset views) :
    ∀ index view, views[index]? = some view →
      view.offset = offset + PageView.countAll (views.take index) := by
  induction walk with
  | stopped offset =>
      intro index view found
      simp at found
  | last shows ends =>
      intro index view found
      cases index with
      | zero =>
          cases found
          exact shows.offset_eq
      | succ index =>
          simp at found
  | more shows goesOn rest inductionHypothesis =>
      intro index view found
      cases index with
      | zero =>
          cases found
          exact shows.offset_eq
      | succ index =>
          rw [List.getElem?_cons_succ] at found
          rw [inductionHypothesis index view found, List.take_succ_cons, PageView.countAll,
            Nat.add_assoc]

theorem items_isPrefix
    (walk : PageWalk rows turns offset views) :
    views.flatMap PageView.items <+: (rows.drop offset).map Json.settled := by
  induction walk with
  | stopped offset =>
      exact List.nil_prefix
  | last shows ends =>
      rw [List.flatMap_cons, List.flatMap_nil, List.append_nil]
      exact ⟨_, shows.items_append⟩
  | more shows goesOn rest inductionHypothesis =>
      rw [List.flatMap_cons, ← shows.items_append]
      exact (List.prefix_append_right_inj _).mpr inductionHypothesis

theorem items_eq
    (walk : PageWalk rows turns offset views)
    (ended : endsWithoutToken views) :
    views.flatMap PageView.items = (rows.drop offset).map Json.settled := by
  induction walk with
  | stopped offset =>
      obtain ⟨view, isLast, _⟩ := ended
      cases isLast
  | @last turns offset view shows ends =>
      have noneRemain : ¬ offset + view.count < rows.length := by
        rw [← shows.goes_on_iff, ends]
        exact Bool.false_ne_true
      rw [List.flatMap_cons, List.flatMap_nil, ← shows.items_append,
        List.drop_eq_nil_of_le (Nat.le_of_not_lt noneRemain), List.map_nil]
  | @more turns offset view views shows goesOn rest inductionHypothesis =>
      obtain ⟨final, isLast, noToken⟩ := ended
      rw [List.getLast?_cons, Option.some.injEq] at isLast
      cases lastOfRest : views.getLast? with
      | none =>
          rw [lastOfRest, Option.getD_none] at isLast
          have token := shows.goes_on_iff.mpr goesOn
          rw [isLast, noToken] at token
          cases token
      | some later =>
          rw [lastOfRest, Option.getD_some] at isLast
          rw [List.flatMap_cons,
            inductionHypothesis ⟨later, lastOfRest, by rw [isLast]; exact noToken⟩]
          exact shows.items_append

end PageWalk

/-- What a caller gets who turns pages from the first row on, so many times at most. -/
structure CompleteListing
    (rows : List Value)
    (turns : Nat)
    (views : List PageView) : Prop where
  length_le : views.length ≤ max 1 rows.length
  ends : max 1 rows.length ≤ turns → endsWithoutToken views
  total_eq : ∀ view ∈ views, view.total = rows.length
  offset_eq :
    ∀ index view, views[index]? = some view →
      view.offset = PageView.countAll (views.take index)
  count_eq : ∀ view ∈ views, view.count = view.items.length
  some_items : ∀ view ∈ views, view.offset < view.total → view.items ≠ []
  items_isPrefix : views.flatMap PageView.items <+: rows.map Json.settled
  items_eq : endsWithoutToken views → views.flatMap PageView.items = rows.map Json.settled

/-- A walk from the first row on lists all rows, each once and in order. -/
theorem PageWalk.completeListing
    {rows : List Value}
    {turns : Nat}
    {views : List PageView}
    (walk : PageWalk rows turns 0 views) :
    CompleteListing rows turns views := by
  constructor
  · exact walk.length_le
  · exact walk.ends
  · exact fun view member => (walk.shows_of_mem view member).total_eq
  · intro index view found
    rw [walk.offset_eq index view found, Nat.zero_add]
  · exact fun view member => (walk.shows_of_mem view member).count_eq
  · intro view member inside isEmpty
    have shows := walk.shows_of_mem view member
    have positive := shows.some_items (shows.total_eq ▸ inside)
    rw [shows.count_eq, isEmpty, List.length_nil] at positive
    exact Nat.lt_irrefl 0 positive
  · exact walk.items_isPrefix
  · exact walk.items_eq

/-! ## Calls for page after page -/

/-- The token that an answer hands out, if it has one. -/
def Envelope.nextToken? (envelope : Envelope) : Option String :=
  envelope.page?.bind PageView.nextToken?

/-- One turn of a caller: a call with or without the cache, and how the session goes on before the
next one. -/
structure PageTurn where
  requestId : String
  noCache : Bool
  afterwards : List SessionStep
deriving Repr

/-- A call for a page: the session that was asked, the call, the answer and how the session went
on. -/
structure PageVisit where
  session : Session
  requestId : String
  call : QueryCall
  answer : Envelope
  afterwards : List SessionStep
deriving Repr

/-- The steps of the session from a call for a page to the next one. -/
def PageVisit.steps (visit : PageVisit) : List SessionStep :=
  .ask visit.requestId (.query visit.call) :: visit.afterwards

/-- Options with the token to resume at, if there is one. -/
def Value.withToken
    (token? : Option String)
    (given : Value) : Value :=
  match token? with
  | none => given
  | some token => .withOption "continuation_token" (.text token) given

/-- The calls of a caller who turns pages, so many times at most. -/
def turnPages
    (modulePath : Value)
    (form : ListingForm)
    (given : Value) : Session → Option String → List PageTurn → List PageVisit
  | _, _, [] => []
  | session, token?, turn :: rest =>
    let call : QueryCall := ⟨modulePath, form.query (.withToken token? given), turn.noCache⟩
    let answered := session.answerQuery turn.requestId call
    match answered.1.nextToken? with
    | none => [⟨session, turn.requestId, call, answered.1, []⟩]
    | some token =>
      ⟨session, turn.requestId, call, answered.1, turn.afterwards⟩ ::
        turnPages modulePath form given (answered.2.run turn.afterwards) (some token) rest

/-- Options with a token to resume at are the options of before with that token. -/
theorem FilterOptions.checkOptional_withToken
    {given : Value}
    {options : FilterOptions}
    (checked : checkOptional given = .ok options)
    (noToken : options.continuationToken? = none)
    (token? : Option String) :
    checkOptional (.withToken token? given) =
      .ok { options with continuationToken? := token? } := by
  cases token? with
  | none =>
      have unchanged : { options with continuationToken? := none } = options := by
        rw [← noToken]
      rw [unchanged]
      exact checked
  | some token =>
      exact checkOptional_withOption_token checked token

namespace Session

/-- A page that is answered without an error shows rows of the module of now. -/
theorem Coherent.exists_page
    {session : Session}
    {modules : Registry}
    {texts : List String}
    {modulePath given : Value}
    {form : ListingForm}
    {options : FilterOptions}
    {listing : ListingSubject}
    {offset : Nat}
    {requestId : String}
    {noCache : Bool}
    (coherent : session.Coherent modules texts)
    (apart : DigestsApart texts)
    (checked : FilterOptions.checkOptional given = .ok options)
    (meant : session.listing modulePath form options = .ok listing)
    (starts : listing.startOf options = .ok offset)
    (hashed :
      ∀ text ∈ session.textsOfStep
        (.ask requestId (.query ⟨modulePath, form.query given, noCache⟩)), text ∈ texts)
    (noError :
      (session.answerQuery requestId
        ⟨modulePath, form.query given, noCache⟩).1.isError = false) :
    ∃ (definition : ModuleDefinition) (rows : List Value) (page : Page),
      modules.module? listing.stamp.path = some definition ∧
      listing.stamp.fingerprint = modules.fingerprint listing.stamp.path ∧
      listing.rows ⟨listing.stamp.path, definition, .ordinary⟩ = .ok rows ∧
      page.Shows rows offset listing.options.take listing.salt ∧
      (session.answerQuery requestId ⟨modulePath, form.query given, noCache⟩).1.page? =
        some (.ofPage page) ∧
      rows.length < Text.leastTooLong ∧
      offset < Text.leastTooLong := by
  have found := subject_of_listing checked meant starts
  have wellTyped := wellTyped_listing form given
  obtain ⟨definition, present, fingerprintSame, enveloped⟩ :=
    coherent.envelope_of_answerQuery apart wellTyped found
      (hashed _ (keyText_mem_textsOfStep wellTyped found requestId)) noError
  obtain ⟨rows, page, rowsAre, shows, pageIs, rowsShort, offsetShort⟩ :=
    QuerySubject.exists_page_of_envelope enveloped
  exact ⟨definition, rows, page, present, fingerprintSame, rowsAre, shows, pageIs, rowsShort,
    offsetShort⟩

/-- As long as the module stays as it was, every page shows the rows that it had. -/
theorem Coherent.exists_page_of_rows
    {session : Session}
    {earlier modules : Registry}
    {texts : List String}
    {modulePath given : Value}
    {form : ListingForm}
    {options : FilterOptions}
    {listing : ListingSubject}
    {definition : ModuleDefinition}
    {rows : List Value}
    {offset : Nat}
    {requestId : String}
    {noCache : Bool}
    (coherent : session.Coherent modules texts)
    (follows : modules.Follows earlier)
    (present : earlier.module? listing.stamp.path = some definition)
    (fingerprintSame : listing.stamp.fingerprint = earlier.fingerprint listing.stamp.path)
    (rowsAre : listing.rows ⟨listing.stamp.path, definition, .ordinary⟩ = .ok rows)
    (apart : DigestsApart texts)
    (checked : FilterOptions.checkOptional given = .ok options)
    (meant : session.listing modulePath form options = .ok listing)
    (starts : listing.startOf options = .ok offset)
    (hashed :
      ∀ text ∈ session.textsOfStep
        (.ask requestId (.query ⟨modulePath, form.query given, noCache⟩)), text ∈ texts)
    (noError :
      (session.answerQuery requestId
        ⟨modulePath, form.query given, noCache⟩).1.isError = false) :
    ∃ page : Page,
      page.Shows rows offset listing.options.take listing.salt ∧
      (session.answerQuery requestId ⟨modulePath, form.query given, noCache⟩).1.page? =
        some (.ofPage page) ∧
      rows.length < Text.leastTooLong := by
  obtain ⟨now, rowsNow, page, presentNow, fingerprintNow, rowsNowAre, shows, pageIs, short, _⟩ :=
    coherent.exists_page apart checked meant starts hashed noError
  rw [follows.module?_eq_of_fingerprint_eq (fingerprintNow.symm.trans fingerprintSame)
    presentNow present, rowsAre] at rowsNowAre
  cases rowsNowAre
  exact ⟨page, shows, pageIs, short⟩

end Session

/-- The first turn is a call for a page; the others follow if its answer has a token. -/
theorem exists_rest_of_turnPages
    (modulePath : Value)
    (form : ListingForm)
    (given : Value)
    (session : Session)
    (token? : Option String)
    (turn : PageTurn)
    (turns : List PageTurn) :
    let call : QueryCall := ⟨modulePath, form.query (.withToken token? given), turn.noCache⟩
    let answered := session.answerQuery turn.requestId call
    ∃ afterwards visits,
      turnPages modulePath form given session token? (turn :: turns) =
        ⟨session, turn.requestId, call, answered.1, afterwards⟩ :: visits ∧
      (answered.1.nextToken? = none → afterwards = [] ∧ visits = []) ∧
      ∀ token, answered.1.nextToken? = some token →
        afterwards = turn.afterwards ∧
        visits =
          turnPages modulePath form given (answered.2.run turn.afterwards) (some token)
            turns := by
  intro call answered
  cases next : answered.1.nextToken? with
  | none =>
      refine ⟨[], [], ?_, fun _ => ⟨rfl, rfl⟩, nofun⟩
      rw [turnPages]
      simp only [next, answered, call] at next ⊢
  | some token =>
      refine
        ⟨turn.afterwards,
          turnPages modulePath form given (answered.2.run turn.afterwards) (some token) turns,
          ?_, nofun, fun other isToken => ?_⟩
      · rw [turnPages]
        simp only [next, answered, call] at next ⊢
      · cases isToken
        exact ⟨rfl, rfl⟩

/-- The calls of a caller who turns pages are a walk through the rows of the listing. -/
theorem exists_pageWalk_of_turnPages
    {modulePath given : Value}
    {form : ListingForm}
    {options : FilterOptions}
    {listing : ListingSubject}
    {earlier modules : Registry}
    {definition : ModuleDefinition}
    {rows : List Value}
    {texts : List String}
    {session : Session}
    {token? : Option String}
    {turns : List PageTurn}
    {offset : Nat}
    (apart : DigestsApart texts)
    (checked : FilterOptions.checkOptional given = .ok options)
    (noToken : options.continuationToken? = none)
    (present : earlier.module? listing.stamp.path = some definition)
    (fingerprintSame : listing.stamp.fingerprint = earlier.fingerprint listing.stamp.path)
    (rowsAre : listing.rows ⟨listing.stamp.path, definition, .ordinary⟩ = .ok rows)
    (positive : 0 < listing.options.take)
    (follows : modules.Follows earlier)
    (coherent : session.Coherent modules texts)
    (starts : listing.startOf { options with continuationToken? := token? } = .ok offset)
    (wellTyped : ∀ turn ∈ turns, ∀ step ∈ turn.afterwards, step.WellTyped)
    (hashed :
      ∀ text ∈ session.hashedTexts
        ((turnPages modulePath form given session token? turns).flatMap PageVisit.steps),
        text ∈ texts)
    (meant :
      ∀ visit ∈ turnPages modulePath form given session token? turns,
        visit.session.listing modulePath form options = .ok listing)
    (noError :
      ∀ visit ∈ turnPages modulePath form given session token? turns,
        visit.answer.isError = false) :
    ∃ views,
      (turnPages modulePath form given session token? turns).map
          (fun visit => visit.answer.page?) = views.map some ∧
        PageWalk rows turns.length offset views := by
  -- Every turn asks a coherent session for the page at an offset of its own, so the session, its
  -- registry, the token and the offset are generalized.
  induction turns generalizing session modules token? offset with
  | nil =>
      exact ⟨[], rfl, .stopped offset⟩
  | cons turn rest inductionHypothesis =>
      obtain ⟨afterwards, visits, visitsAre, endsHere, goesOn⟩ :=
        exists_rest_of_turnPages modulePath form given session token? turn rest
      rw [visitsAre] at hashed meant noError ⊢
      rw [List.flatMap_cons, Session.hashedTexts_append] at hashed
      have stepsHashed := fun text member => hashed text (List.mem_append_left _ member)
      have restHashed := fun text member => hashed text (List.mem_append_right _ member)
      have checkedHere := FilterOptions.checkOptional_withToken checked noToken token?
      obtain ⟨page, shows, pageIs, rowsShort⟩ :=
        coherent.exists_page_of_rows follows present fingerprintSame rowsAre apart checkedHere
          (meant _ List.mem_cons_self) starts
          (fun text member => stepsHashed text (List.mem_append_left _ member))
          (noError _ List.mem_cons_self)
      have viewShows := PageView.shows_ofPage shows positive
      cases next :
          (session.answerQuery turn.requestId
            ⟨modulePath, form.query (.withToken token? given),
              turn.noCache⟩).1.nextToken? with
      | none =>
          obtain ⟨rfl, rfl⟩ := endsHere next
          refine ⟨[.ofPage page], ?_, .last viewShows ?_⟩
          · rw [List.map_singleton, pageIs]
            rfl
          · rw [Envelope.nextToken?, pageIs, Option.bind_some] at next
            exact next
      | some token =>
          obtain ⟨rfl, rfl⟩ := goesOn token next
          rw [Envelope.nextToken?, pageIs, Option.bind_some] at next
          obtain ⟨remain, tokenIs⟩ := PageView.nextToken?_ofPage shows next
          have startsAgain :
              listing.startOf { options with continuationToken? := some token } =
                .ok (offset + (PageView.ofPage page).count) := by
            rw [tokenIs]
            exact listing.startOf_token options (Nat.lt_trans remain rowsShort)
          -- The call and what follows it keep the session coherent, so the walk can go on.
          have stepsWellTyped :
              ∀ step ∈ SessionStep.ask turn.requestId (.query
                  ⟨modulePath, form.query (.withToken token? given), turn.noCache⟩) ::
                    turn.afterwards,
                step.WellTyped :=
            List.forall_mem_cons.mpr
              ⟨Session.wellTyped_listing form _, wellTyped turn List.mem_cons_self⟩
          obtain ⟨later, laterFollows, afterTurn⟩ := coherent.run stepsWellTyped stepsHashed
          obtain ⟨views, viewsAre, walk⟩ :=
            inductionHypothesis (laterFollows.trans follows) afterTurn startsAgain
              (fun other member => wellTyped other (List.mem_cons_of_mem turn member))
              restHashed
              (fun visit member => meant visit (List.mem_cons_of_mem _ member))
              (fun visit member => noError visit (List.mem_cons_of_mem _ member))
          refine ⟨.ofPage page :: views, ?_, .more viewShows remain walk⟩
          rw [List.map_cons, List.map_cons, ← viewsAre, pageIs]
          rfl

end TypeCatalog
