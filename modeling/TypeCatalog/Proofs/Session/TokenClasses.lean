import TypeCatalog.Proofs.Paging.TokenSpelling
import TypeCatalog.Proofs.Session.KeptAnswers
import TypeCatalog.Proofs.Session.TokenBinding

namespace TypeCatalog

/-!
# What a query does with any token

A query for a page may carry any text as its token.  A text that spells a token with the salt of the
listing starts the page at its number, no text at all leaves the page where it is, and every other
text is refused as a token.  Only digits beyond the number that are converted are noticed too late:
they are an unforeseen failure, whatever the salt is.
-/

/-- A query with a token starts where the token says, or else after the rows that it skips. -/
private theorem ListingSubject.exists_skip_of_startOf
    (listing : ListingSubject)
    {options : FilterOptions}
    {token : String}
    (passes : options.continuationToken? = some token) :
    ∃ skip? : Option Int,
      listing.startOf options =
          (ContinuationToken.resolveOffset skip? (some token) listing.salt).map Int.toNat ∧
        (skip?.getD 0).toNat = options.skip?.getD 0 := by
  refine ⟨_, by rw [startOf, passes], ?_⟩
  cases options.skip? <;> rfl

namespace Session

/-- A query for a page that starts its listing at an offset: it is answered as the query that skips
so many rows, and the page that it is answered with shows this offset. -/
structure StartsAt
    (session : Session)
    (modulePath : Value)
    (form : ListingForm)
    (given : Value)
    (options : FilterOptions)
    (listing : ListingSubject)
    (offset : Nat) : Prop where
  subject_eq :
    session.subject modulePath (form.query given) = .ok (.page listing offset)
  as_skipped :
    ∀ other,
      FilterOptions.checkOptional other =
          .ok { options with skip? := some offset, continuationToken? := none } →
        ∀ requestId noCache,
          session.answerQuery requestId ⟨modulePath, form.query given, noCache⟩ =
            session.answerQuery requestId ⟨modulePath, form.query other, noCache⟩
  offset_shown :
    ∀ requestId page,
      (session.answerQuery requestId ⟨modulePath, form.query given, true⟩).1.page? = some page →
        page.offset = offset

variable {session : Session} {modulePath given : Value} {form : ListingForm}
  {options : FilterOptions} {listing : ListingSubject}

theorem startsAt_of_startOf
    {offset : Nat}
    (checked : FilterOptions.checkOptional given = .ok options)
    (meant : session.listing modulePath form options = .ok listing)
    (starts : listing.startOf options = .ok offset) :
    session.StartsAt modulePath form given options listing offset := by
  have found := subject_of_listing checked meant starts
  have wellTyped := wellTyped_listing form given
  constructor
  · exact found
  · intro other otherChecked requestId noCache
    have otherFound :=
      subject_of_listing otherChecked meant (show listing.startOf _ = .ok offset from rfl)
    exact
      answerQuery_eq_of_subject_eq wellTyped (wellTyped_listing form other) found otherFound
        requestId noCache
  · intro requestId page shown
    simp only [answerQuery, plan_of_subject wellTyped found, ResponseCache.execute_noCache]
      at shown
    cases produced : (session.produce (QuerySubject.page listing offset).plan).1 with
    | error failure =>
        rw [produced] at shown
        cases shown
    | ok answer =>
        rw [produced] at shown
        obtain ⟨opened, data, answered, rfl⟩ := exists_data_of_produce produced
        obtain ⟨rows, head, cut, _, shows, rfl, distinct⟩ :=
          ListingSubject.exists_page_of_answer answered
        have isCut := (Envelope.page?_settled _ distinct shows.offset_eq).symm.trans shown
        rw [← Option.some.inj isCut, PageView.ofPage, shows.offset_eq, Int.toNat_natCast]

open ContinuationToken in
/-- Whatever text a query for a page carries as its token: no text starts the page after the skipped
rows; a text that spells a token of the listing starts it at the number of the token; and every
other text is refused as a token.  Too many digits are an unforeseen failure instead. -/
theorem classifies_every_token
    {token : String}
    (checked : FilterOptions.checkOptional given = .ok options)
    (passes : options.continuationToken? = some token)
    (meant : session.listing modulePath form options = .ok listing)
    (requestId : String)
    (noCache : Bool) :
    let answered :=
      (session.answerQuery requestId ⟨modulePath, form.query given, noCache⟩).1
    let fails (digits : List Char) : Prop :=
      answered =
        .failure
          (.internal (Crash.mk .invalidValue (Text.tooManyDigitsMessage digits.length)).message
            [("request_id", .text requestId)])
    (token = "" →
      session.StartsAt modulePath form given options listing (options.skip?.getD 0)) ∧
    (∀ digits, Spells token digits listing.salt →
      if digits.length ≤ Text.digitLimit then
        session.StartsAt modulePath form given options listing (Text.numberOfDigits digits)
      else fails digits) ∧
    (∀ digits salt, Spells token digits salt → salt ≠ listing.salt →
      if digits.length ≤ Text.digitLimit then answered = .failure (.invalidToken foreignReason)
      else fails digits) ∧
    (token ≠ "" → (∀ digits salt, ¬ Spells token digits salt) →
      ∃ fault : Fault, answered = .failure (.invalidToken fault.message)) := by
  intro answered fails
  obtain ⟨skip?, startIs, skipIs⟩ := listing.exists_skip_of_startOf passes
  have refuses
      {failure : Failure}
      (refused : resolveOffset skip? (some token) listing.salt = .error failure) :
      answered = conclude requestId (.error failure) := by
    refine answerQuery_of_startOf_error checked meant ?_ requestId noCache
    rw [startIs, refused]
    rfl
  refine ⟨?_, ?_, ?_, ?_⟩
  · rintro rfl
    apply startsAt_of_startOf checked meant
    rw [startIs, ← skipIs]
    rfl
  · intro digits spells
    split
    · next convertible =>
        apply startsAt_of_startOf checked meant
        rw [startIs, resolveOffset_of_own skip? spells convertible]
        rfl
    · next tooMany =>
        exact
          refuses
            (resolveOffset_of_too_many_digits skip? spells (Nat.lt_of_not_le tooMany) listing.salt)
  · intro digits salt spells foreign
    split
    · next convertible =>
        exact refuses (resolveOffset_of_foreign skip? spells convertible foreign)
    · next tooMany =>
        exact
          refuses
            (resolveOffset_of_too_many_digits skip? spells (Nat.lt_of_not_le tooMany) listing.salt)
  · intro notEmpty noToken
    obtain ⟨fault, refused⟩ := resolveOffset_of_no_token skip? notEmpty noToken listing.salt
    exact ⟨fault, refuses refused⟩

/-- A session over a module with two types. -/
def overTwoTypes : Session :=
  overModule "lib" (.ofTwoTypes "B")

private theorem listing_overTwoTypes (options : FilterOptions) :
    overTwoTypes.listing (.text "lib") .types options =
      .ok ⟨.types, ⟨"lib", "rev-1"⟩, overTwoTypes.resolvedOptions .typeList options⟩ := by
  have resolved : overTwoTypes.resolveModule (.text "lib") = .ok ⟨"lib", "rev-1"⟩ :=
    Failure.eq_ok_of_toOption_eq_some (by decide +kernel)
  simp only [listing, ListingForm.scope, resolved, bind, Except.bind]
  rfl

/-- The token of the second row is as good as skipping the first one. -/
theorem starts_at_second_row_by_token :
    let listing : ListingSubject :=
      ⟨.types, ⟨"lib", "rev-1"⟩, overTwoTypes.resolvedOptions .typeList .standard⟩
    let byToken : Value := .withOption "continuation_token" (.text (listing.tokenText 1)) .null
    let bySkip : Value := .withOption "skip" (.ofNat 1) .null
    overTwoTypes.answerQuery "1" ⟨.text "lib", .types byToken, false⟩ =
      overTwoTypes.answerQuery "1" ⟨.text "lib", .types bySkip, false⟩ := by
  intro listing byToken bySkip
  have standardChecked : FilterOptions.checkOptional .null = .ok .standard := by
    rfl
  have checked :=
    FilterOptions.checkOptional_withOption_token standardChecked (listing.tokenText 1)
  have classified :=
    @classifies_every_token _ _ _ .types _ _ _ checked rfl (listing_overTwoTypes _) "1" false
  have spells := ContinuationToken.spells_text 1 listing.readableSalt
  have starts := classified.2.1 (Nat.toDigits 10 1) spells
  rw [if_pos (by decide)] at starts
  exact starts.as_skipped bySkip
    (FilterOptions.checkOptional_withOption_skip standardChecked 1) "1" false

/-- A token with more digits than are converted is no token of the query, as its salt is another
one, and yet the query is not answered with an error about its token. -/
theorem internalError_for_token_of_many_digits :
    let token := ContinuationToken.text ⟨Text.leastTooLong, "x"⟩
    let given : Value := .withOption "continuation_token" (.text token) .null
    ∃ error,
      (overTwoTypes.answerQuery "1" ⟨.text "lib", .types given, false⟩).1 = .failure error ∧
        error.code = .internalError := by
  intro token given
  let options : FilterOptions := { FilterOptions.standard with continuationToken? := some token }
  have checked : FilterOptions.checkOptional given = .ok options :=
    FilterOptions.checkOptional_withOption_token rfl token
  have meant := listing_overTwoTypes options
  let failure := ContinuationToken.tooManyDigits (Nat.toDigits 10 Text.leastTooLong).length
  have refused (listing : ListingSubject) : listing.startOf options = .error failure := by
    rw [ListingSubject.startOf]
    exact
      congrArg (Except.map Int.toNat)
        (ContinuationToken.resolveOffset_long none listing.salt (Nat.le_refl _)
          ContinuationToken.readableSalt_x)
  have answered :
      (overTwoTypes.answerQuery "1" ⟨.text "lib", ListingForm.types.query given, false⟩).1 =
        conclude "1" (.error failure) :=
    answerQuery_of_startOf_error checked meant (refused _) "1" false
  exact ⟨failure.toError "1", answered, rfl⟩

end Session

end TypeCatalog
