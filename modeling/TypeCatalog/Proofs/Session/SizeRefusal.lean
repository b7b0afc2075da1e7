import TypeCatalog.Proofs.Session.PageStart
import TypeCatalog.Proofs.Session.SizeCeiling

namespace TypeCatalog

/-!
# What is refused for its size

Only data that were computed are refused for their size: no check of an argument, no lookup and no
reading of a module fails for that reason.
-/

/-- A failure that is not about the size of an answer. -/
def Failure.NotOfSize : Failure → Prop
  | .reported error => error.code ≠ .responseTooLarge
  | .invalid _ | .crashed _ => True

theorem Failure.NotOfSize.code_toError
    {failure : Failure}
    (notOfSize : failure.NotOfSize)
    (requestId : String) :
    (failure.toError requestId).code ≠ .responseTooLarge := by
  cases failure with
  | reported error =>
      exact notOfSize
  | invalid issues =>
      exact nofun
  | crashed crash =>
      exact nofun

/-- A computation that never fails for the size of an answer. -/
def NeverOfSize {α : Type} (computed : Except Failure α) : Prop :=
  ∀ failure, computed = .error failure → failure.NotOfSize

namespace NeverOfSize

variable {α β : Type}

theorem ok (result : α) : NeverOfSize (.ok result) :=
  fun _ failed => by cases failed

theorem error
    {failure : Failure}
    (notOfSize : failure.NotOfSize) :
    NeverOfSize (.error failure : Except Failure α) :=
  fun _ failed => by
    cases failed
    exact notOfSize

theorem bind
    {first : Except Failure α}
    {second : α → Except Failure β}
    (firstNever : NeverOfSize first)
    (secondNever : ∀ between, NeverOfSize (second between)) :
    NeverOfSize (first >>= second) := by
  intro failure failed
  cases outcome : first with
  | error failureThere =>
      rw [outcome] at failed
      cases failed
      exact firstNever failure outcome
  | ok between =>
      rw [outcome] at failed
      exact secondNever between failure failed

theorem map
    {computed : Except Failure α}
    (never : NeverOfSize computed)
    (f : α → β) :
    NeverOfSize (computed.map f) := by
  intro failure failed
  cases outcome : computed with
  | error failureThere =>
      rw [outcome] at failed
      cases failed
      exact never failure outcome
  | ok result =>
      rw [outcome] at failed
      cases failed

end NeverOfSize

theorem Failure.neverOfSize_unlessCrash (fault : Option Crash) :
    NeverOfSize (Failure.unlessCrash fault) := by
  cases fault with
  | none =>
      exact .ok ()
  | some crash =>
      exact .error trivial

/-! ## Preparing a query -/

namespace Session

theorem neverOfSize_requireText
    (argument : String)
    (value : Value) :
    NeverOfSize (requireText argument value) := by
  unfold requireText
  split
  · exact .error nofun
  · split
    · exact .error nofun
    · exact .ok _
  · exact .error trivial

theorem neverOfSize_resolveModule
    (session : Session)
    (modulePath : Value) :
    NeverOfSize (session.resolveModule modulePath) := by
  apply NeverOfSize.bind (neverOfSize_requireText "module_path" modulePath)
  intro path
  dsimp only
  split
  · exact .error trivial
  · exact .ok _
  · exact .error nofun

/-- No listing is refused for its size before its module is opened. -/
theorem neverOfSize_listing
    (session : Session)
    (modulePath : Value)
    (form : ListingForm)
    (options : FilterOptions) :
    NeverOfSize (session.listing modulePath form options) := by
  have scopeNever : NeverOfSize form.scope := by
    cases form with
    | types =>
        exact .ok _
    | members selection typeName =>
        exact (neverOfSize_requireText "type_name" typeName).map _
  apply scopeNever.bind
  intro scope
  apply (session.neverOfSize_resolveModule modulePath).bind
  intro stamp
  exact .ok _

end Session

theorem ContinuationToken.neverOfSize_resolveOffset
    (skip? : Option Int)
    (token? : Option String)
    (salt : String) :
    NeverOfSize (resolveOffset skip? token? salt) := by
  unfold resolveOffset
  split
  · exact .ok _
  · split
    · exact .error nofun
    · exact .error trivial
    · split
      · exact .ok _
      · exact .error nofun

/-- No place to start is refused for a size. -/
theorem ListingSubject.neverOfSize_startOf
    (listing : ListingSubject)
    (options : FilterOptions) :
    NeverOfSize (listing.startOf options) :=
  (ContinuationToken.neverOfSize_resolveOffset _ _ _).map _

/-! ## Reading a module -/

namespace OpenModule

theorem neverOfSize_types (opened : OpenModule) : NeverOfSize opened.types := by
  unfold types
  split
  · exact .error trivial
  · exact .ok _

theorem neverOfSize_type
    (opened : OpenModule)
    (typeName : String)
    (caseSensitive : Bool) :
    NeverOfSize (opened.type typeName caseSensitive) := by
  apply opened.neverOfSize_types.bind
  intro types
  split
  · exact .ok _
  · exact .error nofun
  · exact .error nofun

end OpenModule

/-- A module that is opened fails for a size only where what is computed from it does. -/
theorem ModuleSource.notOfSize_or_exists_opened
    {α : Type}
    {source : ModuleSource}
    {files : FileTree}
    {stamp : ModuleStamp}
    {compute : OpenModule → Except Failure α}
    {failure : Failure}
    (failed : (source.withModule files stamp compute).1 = .error failure) :
    failure.NotOfSize ∨
      ∃ opened,
        (source.openModule files stamp.path).1 = .ok (some opened) ∧
          compute opened = .error failure := by
  rw [withModule_fst] at failed
  rcases opening : (source.openModule files stamp.path).1 with failureThere | _ | opened <;>
    rw [opening] at failed
  · cases failed
    left
    unfold openModule at opening
    dsimp only at opening
    split at opening <;> cases opening
    trivial
  · cases failed
    exact .inl nofun
  · exact .inr ⟨opened, rfl, failed⟩

/-! ## Computing a page -/

namespace Listing

theorem neverOfSize_sortItems
    {α : Type}
    [Listed α]
    (key : SortKey)
    (order : SortOrder)
    (supported : List SortKey)
    (items : List α) :
    NeverOfSize (sortItems key order supported items) := by
  unfold sortItems
  split
  · exact .error nofun
  · split
    · exact .error trivial
    · exact .ok _

end Listing

namespace Answer

theorem neverOfSize_arrangedTypes
    (opened : OpenModule)
    (options : FilterOptions)
    (visibility : Visibility) :
    NeverOfSize (arrangedTypes opened options visibility) := by
  apply opened.neverOfSize_types.bind
  intro types
  apply (Failure.neverOfSize_unlessCrash _).bind
  intro _
  exact Listing.neverOfSize_sortItems _ _ _ _

theorem neverOfSize_arrangedMembers
    (opened : OpenModule)
    (type : TypeDefinition)
    (selection : MemberSelection)
    (options : FilterOptions)
    (visibility : Visibility) :
    NeverOfSize (arrangedMembers opened type selection options visibility) := by
  apply (Failure.neverOfSize_unlessCrash _).bind
  intro _
  exact Listing.neverOfSize_sortItems _ _ _ _

theorem neverOfSize_pageOf
    {α : Type}
    (render : α → Value)
    (items : List α)
    (position : PagePosition) :
    NeverOfSize (pageOf render items position) :=
  (Failure.neverOfSize_unlessCrash _).map _

end Answer

/-- The data of a page are computed or fail for another reason than a size. -/
theorem ListingSubject.neverOfSize_answer
    (listing : ListingSubject)
    (offset : Nat)
    (opened : OpenModule) :
    NeverOfSize (listing.answer offset opened) := by
  cases scopeIs : listing.scope with
  | types =>
      simp only [answer, scopeIs]
      apply (Answer.neverOfSize_arrangedTypes opened _ _).bind
      intro items
      apply (Answer.neverOfSize_pageOf _ items _).bind
      intro page
      exact .ok _
  | members selection typeName =>
      simp only [answer, scopeIs]
      apply (opened.neverOfSize_type _ _).bind
      intro type
      apply (Answer.neverOfSize_arrangedMembers opened type _ _ _).bind
      intro items
      apply (Answer.neverOfSize_pageOf _ items _).bind
      intro page
      exact .ok _

/-! ## Answering a query for a page -/

namespace Session

/-- The page that a query asks for: of the listing that it means, from where it starts, and of the
module as it is opened now. -/
structure AsksFor
    (session : Session)
    (modulePath : Value)
    (form : ListingForm)
    (options : FilterOptions)
    (listing : ListingSubject)
    (offset : Nat)
    (opened : OpenModule) : Prop where
  meant : session.listing modulePath form options = .ok listing
  starts : listing.startOf options = .ok offset
  opens : (session.source.openModule session.files listing.stamp.path).1 = .ok (some opened)

theorem neverOfSize_lifetime (session : Session) : NeverOfSize session.lifetime := by
  intro failure unusable
  obtain ⟨crash, rfl⟩ := exists_crash_of_lifetime unusable
  trivial

theorem notOfSize_or_large_of_envelopeOf
    {kind : String}
    {data : Value}
    {failure : Failure}
    (failed : envelopeOf kind data = .error failure) :
    failure.NotOfSize ∨ Limits.maximumResponse < (Envelope.success kind data).size := by
  unfold envelopeOf at failed
  split at failed
  · cases failed
    exact .inl trivial
  · split at failed
    · next tooLarge =>
        unfold enforceCeiling at tooLarge
        split at tooLarge
        · next above =>
            exact .inr (Int.ofNat_lt.mp above)
        · cases tooLarge
    · cases failed

variable {session : Session} {modulePath given : Value} {form : ListingForm}
  {options : FilterOptions} {requestId : String} {noCache : Bool}

private theorem neverOfSize_plan
    (session : Session)
    (modulePath : Value)
    (form : ListingForm)
    (checked : FilterOptions.checkOptional given = .ok options) :
    NeverOfSize (session.plan modulePath (form.query given)) := by
  rw [session.plan_eq modulePath (wellTyped_listing form given), subject_query]
  apply NeverOfSize.map
  have passes : (FilterOptions.checkOptional given).toExcept = .ok options := by
    rw [checked]
    rfl
  rw [pageSubject, passes]
  apply (session.neverOfSize_listing modulePath form options).bind
  intro listing
  apply (listing.neverOfSize_startOf options).bind
  intro offset
  exact .ok _

/-- A prepared query for a page is refused for its size only if its data are above the ceiling. -/
private theorem exists_large_data_of_produce
    {plan : Plan}
    {failure : Failure}
    (checked : FilterOptions.checkOptional given = .ok options)
    (planned : session.plan modulePath (form.query given) = .ok plan)
    (failed : (session.produce plan).1 = .error failure) :
    failure.NotOfSize ∨
      ∃ listing offset opened data,
        session.AsksFor modulePath form options listing offset opened ∧
          listing.answer offset opened = .ok data ∧
            Limits.maximumResponse < (Envelope.success listing.scope.kind.word data).size := by
  obtain ⟨subject, found, rfl⟩ := exists_subject_of_plan (wellTyped_listing form given) planned
  rw [subject_query] at found
  obtain ⟨_, listing, offset, passed, meant, starts, rfl⟩ := exists_listing_of_pageSubject found
  rw [checked] at passed
  cases passed
  rcases ModuleSource.notOfSize_or_exists_opened failed with notOfSize | ⟨opened, opens, failed⟩
  · exact .inl notOfSize
  · cases computed : listing.answer offset opened with
    | error failureThere =>
        change (listing.answer offset opened >>= _) = _ at failed
        rw [computed] at failed
        cases failed
        exact .inl (listing.neverOfSize_answer offset opened failure computed)
    | ok data =>
        change (listing.answer offset opened >>= _) = _ at failed
        rw [computed] at failed
        dsimp only [bind, Except.bind] at failed
        rcases notOfSize_or_large_of_envelopeOf failed with notOfSize | large
        · exact .inl notOfSize
        · exact .inr ⟨listing, offset, opened, data, ⟨meant, starts, opens⟩, computed, large⟩

/-- In a session that can be reached, a query for a page is refused for its size only if the data
of the page that it asks for are above the ceiling. -/
theorem Reachable.exists_large_data
    {error : ReportedError}
    (reachable : session.Reachable)
    (checked : FilterOptions.checkOptional given = .ok options)
    (failed :
      (session.answerQuery requestId ⟨modulePath, form.query given, noCache⟩).1 = .failure error)
    (isSize : error.code = .responseTooLarge) :
    ∃ listing offset opened data,
      session.AsksFor modulePath form options listing offset opened ∧
        listing.answer offset opened = .ok data ∧
          Limits.maximumResponse < (Envelope.success listing.scope.kind.word data).size := by
  have notForSize
      {failure : Failure}
      (concluded : conclude requestId (.error failure) = .failure error) :
      ¬ failure.NotOfSize := by
    cases concluded
    exact fun notOfSize => notOfSize.code_toError requestId isSize
  unfold answerQuery at failed
  split at failed
  · next failure unplanned =>
      exact absurd (neverOfSize_plan session modulePath form checked failure unplanned)
        (notForSize failed)
  · next plan planned =>
      dsimp only at failed
      cases outcome :
          (session.cache.execute plan.cacheKey session.lifetime noCache
            (fun _ => session.produce plan) session.source).1 with
      | error failure =>
          rw [outcome] at failed
          rcases ResponseCache.failure_of_execute outcome with unproduced | unusable
          · exact
              (exists_large_data_of_produce checked planned unproduced).resolve_left
                (notForSize failed)
          · exact absurd (session.neverOfSize_lifetime failure unusable) (notForSize failed)
      | ok answer =>
          -- What is kept and what is made anew carries data, so it is no error.
          rw [outcome] at failed
          change answer = .failure error at failed
          have fits : answer.Fits := by
            rcases ResponseCache.exists_entry_or_produced_of_execute outcome with
              ⟨entry, member, rfl⟩ | produced
            · exact reachable.keepsFitting entry member
            · exact fits_of_produce produced
          rw [failed] at fits
          cases fits.noError

end Session

end TypeCatalog
