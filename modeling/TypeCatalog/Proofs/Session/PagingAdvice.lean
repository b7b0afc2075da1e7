import TypeCatalog.Proofs.Session.OptionRun
import TypeCatalog.Proofs.Session.PageLength
import TypeCatalog.Proofs.Session.PageStart

namespace TypeCatalog

/-!
# Advice on paging

A page comes with advice on how many items the next one should have.  The advice can be followed
after every page that starts before the end of its listing: the number is accepted as the size of a
page, and where smaller pages are advised it is smaller.  A page from the end on is empty and
recommends pages of no items, which are refused.
-/

/-! ## Sizes that are accepted -/

/-- Whether a number is accepted as the number of items on a page, beside all options that are
accepted without it. -/
def FilterOptions.AcceptsAsSize (number : Int) : Prop :=
  ∀ given options, checkOptional given = .ok options →
    checkOptional (.withOption "max_items" (.int number) given) =
      .ok { options with maxItems? := some number.toNat }

theorem FilterOptions.acceptsAsSize_iff (number : Int) :
    AcceptsAsSize number ↔ 1 ≤ number ∧ number ≤ Limits.maximumPageSize := by
  constructor
  · intro accepts
    have bounds := maxItems_bounds_of_checkOptional (accepts .null .standard rfl) rfl
    omega
  · intro inRange given options passed
    obtain ⟨size, rfl⟩ : ∃ size : Nat, number = size := ⟨number.toNat, by omega⟩
    exact checkOptional_withOption_maxItems passed (by omega)

/-! ## What is recommended -/

/-- Advice that can be followed after a page of so many items: the number that it recommends is
accepted, and where smaller pages are advised after a page of more than the least size, it is
smaller, but no less than the least size. -/
structure PagingAdvice.CanBeFollowed
    (advice : PagingAdvice)
    (count : Nat) : Prop where
  in_range :
    1 ≤ advice.recommendedPageSize ∧ advice.recommendedPageSize ≤ Limits.maximumPageSize
  accepted : FilterOptions.AcceptsAsSize advice.recommendedPageSize
  smaller :
    advice.advised = true → Limits.leastRecommendedPage < count →
      Limits.leastRecommendedPage ≤ advice.recommendedPageSize ∧
        advice.recommendedPageSize < count

namespace Page

variable (page : Page)

/-- As many items are recommended as the page has, but half as many, and no fewer than the least
size, if smaller pages are advised and the page has more than that. -/
theorem recommended_eq :
    page.advice.recommendedPageSize =
      if page.advice.advised = true ∧ Limits.leastRecommendedPage < page.count then
        max (Limits.leastRecommendedPage : Int) (page.count / 2 : Nat)
      else
        page.count := by
  simp only [advice, PagingAdvice.forPage, Bool.and_eq_true, decide_eq_true_iff, gt_iff_lt,
    Int.ofNat_lt, Int.fdiv_eq_ediv_of_nonneg _ (by decide : (0 : Int) ≤ 2), Int.natCast_ediv,
    Int.cast_ofNat_Int]

theorem smaller_of_advised
    (advised : page.advice.advised = true)
    (large : Limits.leastRecommendedPage < page.count) :
    Limits.leastRecommendedPage ≤ page.advice.recommendedPageSize ∧
      page.advice.recommendedPageSize < page.count := by
  rw [recommended_eq, if_pos ⟨advised, large⟩]
  simp only [Limits.leastRecommendedPage] at large ⊢
  omega

/-- No more items are recommended than the page has, and none only if it has none. -/
theorem recommended_bounds :
    0 ≤ page.advice.recommendedPageSize ∧ page.advice.recommendedPageSize ≤ page.count ∧
      (page.advice.recommendedPageSize = 0 ↔ page.count = 0) := by
  rw [recommended_eq]
  split
  · next smaller =>
      have large := smaller.2
      simp only [Limits.leastRecommendedPage] at large ⊢
      omega
  · omega

/-- The advice of a page within the bounds can be followed unless the page is empty. -/
theorem canBeFollowed_iff
    (bounded : page.count ≤ Limits.maximumPageSize) :
    page.advice.CanBeFollowed page.count ↔ 0 < page.count := by
  obtain ⟨_, atMostCount, zeroIff⟩ := page.recommended_bounds
  constructor
  · intro followed
    have positive := followed.in_range.1
    omega
  · intro notEmpty
    have inRange :
        1 ≤ page.advice.recommendedPageSize ∧
          page.advice.recommendedPageSize ≤ Limits.maximumPageSize := by
      omega
    exact ⟨inRange, (FilterOptions.acceptsAsSize_iff _).mpr inRange, page.smaller_of_advised⟩

end Page

/-! ## What an answer shows -/

/-- The advice that a value stands for. -/
def Value.advice? (value : Value) : Option PagingAdvice :=
  match value.field? "has_more", value.field? "current_page_chars",
    value.field? "estimated_total_chars", value.field? "pagination_advised",
    value.field? "recommended_page_size" with
  | some (.bool hasMore), some (.int used), some (.int estimated), some (.bool advised),
      some (.int recommended) => some ⟨hasMore, used, estimated, advised, recommended⟩
  | _, _, _, _, _ => none

theorem PagingAdvice.advice?_toValue (advice : PagingAdvice) : advice.toValue.advice? = some advice :=
  rfl

/-- The advice in an answer, if it has some. -/
def Envelope.advice? : Envelope → Option PagingAdvice
  | .success _ data => (data.field? "pagination").bind Value.advice?
  | .failure _ => none

theorem ListingSubject.HeadsPage.advice?_eq
    {head : List (String × Value)}
    (heads : HeadsPage head)
    (page : Page)
    (kind : String) :
    (Envelope.success kind (.record (head ++ page.toFields))).advice? = some page.advice := by
  have found : (head ++ page.toFields).lookup "pagination" = some page.advice.toValue :=
    (Value.lookup_append_of_nodup (heads.distinct page) (by simp [Page.toFields])).trans rfl
  rw [Envelope.advice?, Value.field?_record, found, Option.bind_some, page.advice.advice?_toValue]

/-! ## The advice of a page in an answer -/

theorem ListingSubject.count_pageOf_le
    (listing : ListingSubject)
    (rows : List Value)
    (offset : Nat) :
    (listing.pageOf rows offset).count ≤ listing.options.take := by
  have endsIn :=
    Page.endsIn_build id rows offset listing.options.take listing.salt Limits.pageTarget
  have bounded := endsIn.count_le
  rw [Page.candidates_natCast, List.length_take] at bounded
  exact bounded.trans (Nat.min_le_left _ _)

/-- What an answer shows of a page within the bounds and of the advice on the next one. -/
structure PageView.ComesWith
    (page : PageView)
    (advice : PagingAdvice) : Prop where
  count_eq : page.count = page.items.length
  count_le : page.count ≤ Limits.maximumPageSize
  empty_iff : page.count = 0 ↔ page.total ≤ page.offset
  followed_iff : advice.CanBeFollowed page.count ↔ page.offset < page.total
  recommends_none_iff : advice.recommendedPageSize = 0 ↔ page.total ≤ page.offset

/-- An answer that shows a page with advice. -/
def Envelope.AdvisesOnPage (answer : Envelope) : Prop :=
  ∃ page advice,
    answer.page? = some page ∧ answer.advice? = some advice ∧ page.ComesWith advice

theorem Page.Shows.empty_iff
    {page : Page}
    {rows : List Value}
    {offset take : Nat}
    {salt : String}
    (shows : page.Shows rows offset take salt)
    (takePos : 1 ≤ take) :
    page.count = 0 ↔ page.total ≤ offset := by
  rw [shows.total_eq]
  constructor
  · intro isEmpty
    by_contra inside
    have someItem := shows.count_pos (Nat.lt_of_not_le inside) takePos
    omega
  · intro pastEnd
    rw [count, shows.items_eq, List.drop_eq_nil_of_le pastEnd, List.take_nil, List.length_nil]

theorem Page.Shows.comesWith_advice
    {page : Page}
    {rows : List Value}
    {offset take : Nat}
    {salt : String}
    (shows : page.Shows rows offset take salt)
    (takePos : 1 ≤ take)
    (bounded : page.count ≤ Limits.maximumPageSize) :
    (PageView.ofPage page).ComesWith page.advice := by
  have emptyIff :
      (PageView.ofPage page).count = 0 ↔
        (PageView.ofPage page).total ≤ (PageView.ofPage page).offset := by
    have offsetIs : page.offset.toNat = offset := by
      rw [shows.offset_eq, Int.toNat_natCast]
    simp only [PageView.ofPage, offsetIs]
    exact shows.empty_iff takePos
  exact {
    count_eq := (List.length_map _).symm
    count_le := bounded
    empty_iff := emptyIff
    followed_iff :=
      (page.canBeFollowed_iff bounded).trans
        (Nat.pos_iff_ne_zero.trans (emptyIff.not.trans not_le))
    recommends_none_iff := page.recommended_bounds.2.2.trans emptyIff }

/-- What is written for a page within the bounds advises on it. -/
theorem ListingSubject.Writes.advisesOnPage
    {listing : ListingSubject}
    {offset : Nat}
    {opened : OpenModule}
    {written : Envelope}
    (writes : listing.Writes offset opened written)
    (takeBounds : 1 ≤ listing.options.take ∧ listing.options.take ≤ Limits.maximumPageSize) :
    written.readBack.AdvisesOnPage := by
  obtain ⟨data, computed, rfl⟩ := writes
  obtain ⟨rows, head, _, heads, rfl⟩ := exists_rows_of_answer computed
  have shows := listing.shows_pageOf rows offset
  have bounded := (listing.count_pageOf_le rows offset).trans takeBounds.2
  generalize listing.pageOf rows offset = page at shows bounded
  have adviceSame : page.readBack.advice = page.advice := by
    rw [Page.advice, Page.readBack, Page.count, List.length_map]
    rfl
  refine
    ⟨.ofPage page, page.advice, Envelope.page?_settled _ (heads.distinct page) shows.offset_eq, ?_,
      shows.comesWith_advice takeBounds.1 bounded⟩
  rw [Envelope.readBack, heads.settled_eq, heads.advice?_eq, adviceSame]

namespace Session

variable {session : Session}

/-- What a query for a page is answered with under options within their bounds advises on it. -/
def AdvisesIfListing
    (kind : OperationKind)
    (answer : Envelope) : Prop :=
  ∀ (form : ListingForm) (given : Value), kind = (form.query given).kind → answer.AdvisesOnPage

theorem makesHolding_advises
    (inBounds : session.options.InBounds) :
    session.MakesHolding AdvisesIfListing := by
  intro modulePath query plan answer planned produced form given isListing
  obtain ⟨_, _, options, listing, offset, opened, written, checked, meant, writes, rfl⟩ :=
    exists_written_of_produce isListing planned produced
  exact writes.advisesOnPage (take_bounds_of_listing inBounds checked meant)

/-- One step keeps every kept page with its advice. -/
theorem keepsHolding_advises_optionStep
    {step : OptionStep}
    (inBounds : session.options.InBounds)
    (keeps : session.KeepsHolding AdvisesIfListing) :
    (session.optionStep step).KeepsHolding AdvisesIfListing := by
  cases step with
  | answer requestId call =>
      exact keeps.answer (makesHolding_advises inBounds) requestId call
  | update fields =>
      rw [optionStep]
      split <;> exact keeps
  | replace | amid =>
      exact keeps

theorem keepsHolding_advises_optionRun
    {steps : List OptionStep}
    (inBounds : session.options.InBounds)
    (keeps : session.KeepsHolding AdvisesIfListing)
    (stayInBounds : ∀ step ∈ steps, step.StaysInBounds) :
    (session.optionRun steps).KeepsHolding AdvisesIfListing := by
  induction steps generalizing session with
  | nil =>
      exact keeps
  | cons step rest inductionHypothesis =>
      exact
        inductionHypothesis
          (inBounds_optionStep inBounds (stayInBounds step List.mem_cons_self))
          (keepsHolding_advises_optionStep inBounds keeps)
          fun other member => stayInBounds other (List.mem_cons_of_mem step member)

/-- After every run from options within their bounds, in which only such options take their place,
each page that is answered comes with advice that can be followed exactly if the page starts before
the end of its listing; from the end on it is empty and recommends pages of no items. -/
theorem advice_followed_iff_before_end
    {source : ModuleSource}
    {files : FileTree}
    {options : RuntimeOptions}
    {clock : Binary64}
    {steps : List OptionStep}
    {requestId : String}
    {modulePath given : Value}
    {form : ListingForm}
    {noCache : Bool}
    (inBounds : options.InBounds)
    (stayInBounds : ∀ step ∈ steps, step.StaysInBounds) :
    let reached := (start source files options clock).optionRun steps
    let answered := (reached.answerQuery requestId ⟨modulePath, form.query given, noCache⟩).1
    answered.isError = false →
      ∃ page advice,
        answered.page? = some page ∧ answered.advice? = some advice ∧
          page.ComesWith advice := by
  intro reached answered noError
  have startInBounds : (start source files options clock).options.InBounds :=
    inBounds
  have nothingKept : (start source files options clock).KeepsHolding AdvisesIfListing :=
    fun _ member => absurd member List.not_mem_nil
  have keeps := keepsHolding_advises_optionRun startInBounds nothingKept stayInBounds
  have makes := makesHolding_advises (inBounds_optionRun startInBounds stayInBounds)
  exact keeps.holds_answerQuery makes noError form given rfl

/-- A query for the types of a module from an offset on. -/
def typesFrom (offset : Nat) : QueryCall :=
  ⟨.text "lib", ListingForm.types.query (.record [("skip", .ofNat offset)]), false⟩

/-- The page of one type is followed by advice to ask for one more. -/
theorem advice_followed_after_one_type :
    let session := overModule "lib" ⟨"Lib", "", [.bare "A"]⟩
    let answered := ((session.optionRun replacingSteps).answerQuery "1" (typesFrom 0)).1
    RuntimeOptions.standard.InBounds ∧
      (∀ step ∈ replacingSteps, step.StaysInBounds) ∧
        answered.isError = false ∧
          answered.advice?.map PagingAdvice.recommendedPageSize = some 1 ∧
            ∃ page advice,
              answered.page? = some page ∧ answered.advice? = some advice ∧
                page.ComesWith advice := by
  intro session answered
  have noError : answered.isError = false := by
    decide +kernel
  exact ⟨RuntimeOptions.inBounds_standard, replacingSteps_stayInBounds, noError, by decide +kernel,
    advice_followed_iff_before_end RuntimeOptions.inBounds_standard replacingSteps_stayInBounds
      noError⟩

/-- A page from the end of a listing on recommends a size that no query can ask for. -/
theorem advice_past_end_is_refused :
    let answered :=
      ((overModule "lib" ⟨"Lib", "", [.bare "A"]⟩).answerQuery "1" (typesFrom 1)).1
    answered.isError = false ∧
      ∃ advice,
        answered.advice? = some advice ∧ ∀ count, ¬ advice.CanBeFollowed count := by
  intro answered
  have advised : answered.advice? = some ⟨false, 0, 0, false, 0⟩ := by
    decide +kernel
  refine ⟨by decide +kernel, _, advised, fun count followed => ?_⟩
  exact absurd followed.in_range.1 (by decide)

end Session

end TypeCatalog
