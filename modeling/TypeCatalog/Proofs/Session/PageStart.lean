import TypeCatalog.Proofs.Paging.TokenSpelling
import TypeCatalog.Proofs.Query.OptionEntries
import TypeCatalog.Proofs.Session.ListingPage
import TypeCatalog.Proofs.Settings.RuntimeOptions

namespace TypeCatalog

/-!
# Where a query for a page starts

A query without a position starts at the first row, one that skips rows after them, and one with a
token of its own listing where the token says.  Which listing it means does not depend on that.
-/

/-- Options that say nothing about the position of the page. -/
structure FilterOptions.Unpositioned (options : FilterOptions) : Prop where
  noSkip : options.skip? = none
  noToken : options.continuationToken? = none

namespace ListingSubject

variable {options : FilterOptions}

/-- The salt of a listing can be read back. -/
theorem readableSalt (listing : ListingSubject) :
    ContinuationToken.ReadableSalt listing.salt :=
  ContinuationToken.readableSalt_saltOf listing.queryKey

/-- The text of the token that resumes a listing at an offset. -/
def tokenText
    (listing : ListingSubject)
    (offset : Nat) : String :=
  ContinuationToken.text ⟨offset, listing.salt⟩

theorem startOf_unpositioned
    (listing : ListingSubject)
    (unpositioned : options.Unpositioned) :
    listing.startOf options = .ok 0 := by
  rw [startOf, unpositioned.noSkip, unpositioned.noToken]
  rfl

theorem startOf_skip
    (listing : ListingSubject)
    (unpositioned : options.Unpositioned)
    (skip : Nat) :
    listing.startOf { options with skip? := some skip } = .ok skip := by
  rw [startOf, unpositioned.noToken]
  rfl

/-- A query with a token of its listing starts where the token says. -/
theorem startOf_token
    (listing : ListingSubject)
    (options : FilterOptions)
    {offset : Nat}
    (short : offset < Text.leastTooLong) :
    listing.startOf { options with continuationToken? := some (listing.tokenText offset) } =
      .ok offset := by
  rw [startOf, tokenText, ContinuationToken.resolveOffset_own _ short listing.readableSalt]
  rfl

/-- A query with a token of a listing with another salt is refused. -/
theorem startOf_foreign
    {listing issuer : ListingSubject}
    (options : FilterOptions)
    {offset : Nat}
    (short : offset < Text.leastTooLong)
    (foreign : issuer.salt ≠ listing.salt) :
    listing.startOf { options with continuationToken? := some (issuer.tokenText offset) } =
      .error (.reported (.invalidToken ContinuationToken.foreignReason)) := by
  rw [startOf, tokenText,
    ContinuationToken.resolveOffset_foreign _ short issuer.readableSalt foreign]
  rfl

end ListingSubject

namespace Session

/-- The query for a listing asks for a page of it. -/
theorem subject_query
    (session : Session)
    (modulePath : Value)
    (form : ListingForm)
    (given : Value) :
    session.subject modulePath (form.query given) =
      session.pageSubject modulePath form given := by
  cases form <;> rfl

/-- A query that means a listing and says where to start asks for the page there. -/
theorem subject_of_listing
    {session : Session}
    {modulePath given : Value}
    {form : ListingForm}
    {options : FilterOptions}
    {listing : ListingSubject}
    {offset : Nat}
    (checked : FilterOptions.checkOptional given = .ok options)
    (meant : session.listing modulePath form options = .ok listing)
    (starts : listing.startOf options = .ok offset) :
    session.subject modulePath (form.query given) = .ok (.page listing offset) := by
  rw [subject_query, pageSubject, checked]
  change (session.listing modulePath form options >>= _) = _
  rw [meant]
  change (listing.startOf options >>= _) = _
  rw [starts]
  rfl

/-- Every query for a page of a listing has arguments of the types that its operation declares. -/
theorem wellTyped_listing
    (form : ListingForm)
    (given : Value) :
    (form.query given).WellTyped := by
  cases form <;> trivial

/-- A query for a page that is answered without an error means a listing and says where to start. -/
theorem exists_start_of_answerQuery
    {session : Session}
    {modulePath given : Value}
    {form : ListingForm}
    {options : FilterOptions}
    {requestId : String}
    {noCache : Bool}
    (checked : FilterOptions.checkOptional given = .ok options)
    (noError :
      (session.answerQuery requestId
        ⟨modulePath, form.query given, noCache⟩).1.isError = false) :
    ∃ listing offset,
      session.listing modulePath form options = .ok listing ∧
      listing.startOf options = .ok offset := by
  cases planned : session.plan modulePath (form.query given) with
  | error failure =>
      rw [answerQuery, planned] at noError
      cases noError
  | ok plan =>
      obtain ⟨subject, found, _⟩ :=
        exists_subject_of_plan (wellTyped_listing form given) planned
      rw [subject_query] at found
      obtain ⟨_, listing, offset, passed, meant, starts, _⟩ :=
        exists_listing_of_pageSubject found
      rw [checked] at passed
      cases passed
      exact ⟨listing, offset, meant, starts⟩

/-- Queries with the same subject are answered in the same way. -/
theorem answerQuery_eq_of_subject_eq
    {session : Session}
    {modulePath : Value}
    {first second : Query}
    {subject : QuerySubject}
    (firstWellTyped : first.WellTyped)
    (secondWellTyped : second.WellTyped)
    (firstFound : session.subject modulePath first = .ok subject)
    (secondFound : session.subject modulePath second = .ok subject)
    (requestId : String)
    (noCache : Bool) :
    session.answerQuery requestId ⟨modulePath, first, noCache⟩ =
      session.answerQuery requestId ⟨modulePath, second, noCache⟩ := by
  simp only [answerQuery, plan_of_subject firstWellTyped firstFound,
    plan_of_subject secondWellTyped secondFound]

/-- Skipping rows and coming back with a token of the same offset ask for the same page. -/
theorem subject_skip_eq_subject_token
    {session : Session}
    {modulePath given : Value}
    {form : ListingForm}
    {options : FilterOptions}
    {listing : ListingSubject}
    {offset : Nat}
    (checked : FilterOptions.checkOptional given = .ok options)
    (unpositioned : options.Unpositioned)
    (meant : session.listing modulePath form options = .ok listing)
    (short : offset < Text.leastTooLong) :
    session.subject modulePath (form.query (.withOption "skip" (.ofNat offset) given)) =
        .ok (.page listing offset) ∧
      session.subject modulePath
          (form.query
            (.withOption "continuation_token" (.text (listing.tokenText offset)) given)) =
        .ok (.page listing offset) :=
  ⟨subject_of_listing (FilterOptions.checkOptional_withOption_skip checked offset) meant
      (listing.startOf_skip unpositioned offset),
    subject_of_listing (FilterOptions.checkOptional_withOption_token checked _) meant
      (listing.startOf_token options short)⟩

/-- The size of a page is the one that the query says, else the one in force. -/
theorem exists_take_eq_of_listing
    {session : Session}
    {modulePath : Value}
    {form : ListingForm}
    {options : FilterOptions}
    {listing : ListingSubject}
    (meant : session.listing modulePath form options = .ok listing) :
    ∃ kind, listing.options.take = session.takeFor kind options := by
  obtain ⟨scope, _, meant⟩ := Failure.exists_of_bind_eq_ok meant
  obtain ⟨stamp, _, meant⟩ := Failure.exists_of_bind_eq_ok meant
  cases meant
  exact ⟨scope.kind, rfl⟩

theorem take_pos_of_listing
    {session : Session}
    {modulePath given : Value}
    {form : ListingForm}
    {options : FilterOptions}
    {listing : ListingSubject}
    (valid : session.options.Valid)
    (checked : FilterOptions.checkOptional given = .ok options)
    (meant : session.listing modulePath form options = .ok listing) :
    0 < listing.options.take := by
  obtain ⟨kind, takeIs⟩ := exists_take_eq_of_listing meant
  rw [takeIs, takeFor]
  cases stated : options.maxItems? with
  | none =>
      have inForce := valid.pageSizeFor_pos kind.word
      rw [Option.getD_none]
      omega
  | some maxItems =>
      exact (FilterOptions.maxItems_bounds_of_checkOptional checked stated).1

/-- Under options within their bounds every page keeps to the bounds on pages. -/
theorem take_bounds_of_listing
    {session : Session}
    {modulePath given : Value}
    {form : ListingForm}
    {options : FilterOptions}
    {listing : ListingSubject}
    (inBounds : session.options.InBounds)
    (checked : FilterOptions.checkOptional given = .ok options)
    (meant : session.listing modulePath form options = .ok listing) :
    1 ≤ listing.options.take ∧ listing.options.take ≤ Limits.maximumPageSize := by
  obtain ⟨kind, takeIs⟩ := exists_take_eq_of_listing meant
  rw [takeIs, takeFor]
  cases stated : options.maxItems? with
  | none =>
      obtain ⟨least, greatest⟩ := inBounds.isPageSize_pageSizeFor kind.word
      rw [Option.getD_none]
      omega
  | some maxItems =>
      exact FilterOptions.maxItems_bounds_of_checkOptional checked stated

end Session

end TypeCatalog
