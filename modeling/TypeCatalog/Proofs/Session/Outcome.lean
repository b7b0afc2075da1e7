import TypeCatalog.Proofs.Session.CacheTransparency
import TypeCatalog.Proofs.Session.ListingPage
import TypeCatalog.Proofs.Session.SizeCeiling

namespace TypeCatalog

/-!
# What becomes of computed data

A query that can be prepared fails as its computation fails, whatever is in the cache.  Data that
were computed are handed out as they are read back, or withheld: they cannot be written below the
ceiling, or their answer cannot be kept.

When the rows of a listing are there, a page of them can only fail because it cannot be written or
is above the ceiling.  That is so for every page that starts at a row above the ceiling.
-/

/-- The computation that answers a query is its answer to the open module and the envelope made of
it. -/
theorem QuerySubject.envelope_eq
    (subject : QuerySubject)
    (definition : ModuleDefinition) :
    subject.envelope definition =
      (subject.answer ⟨subject.stamp.path, definition, .ordinary⟩).bind
        (Session.envelopeOf subject.kind.word) :=
  rfl

namespace Session

/-- What a query of a kind is answered with, with or without the cache, when data were computed for
it. -/
inductive Renders
    (session : Session)
    (requestId : String)
    (noCache : Bool)
    (kind : OperationKind)
    (data : Value) : Envelope → Prop where
  | handedOut {envelope : Envelope} :
      envelopeOf kind.word data = .ok envelope →
      Renders session requestId noCache kind data envelope
  | unwritten {failure : Failure} :
      envelopeOf kind.word data = .error failure →
      Renders session requestId noCache kind data (conclude requestId (.error failure))
  | unkept {failure : Failure} :
      noCache = false →
      session.lifetime = .error failure →
      Renders session requestId noCache kind data (conclude requestId (.error failure))

/-- A session over one module, in which an answer is to be kept for longer than a clock can tell. -/
def overModuleForGood
    (path : String)
    (definition : ModuleDefinition) : Session :=
  .start (.ofStore (.registry (Registry.empty.replace path definition)))
    (.empty (.ofText "/work") (.ofText "/home"))
    { RuntimeOptions.standard with cacheLifetime := .ofNat (Nat.pow 10 400) } (.zero false)

variable {session : Session} {modules : Registry} {texts : List String} {requestId : String}

namespace Renders

variable {noCache : Bool} {kind : OperationKind} {data : Value} {answer : Envelope}

/-- Data that are handed out are handed out as they are read back. -/
theorem eq_success
    (renders : session.Renders requestId noCache kind data answer)
    (noError : answer.isError = false) :
    answer = .success kind.word (Json.settled data) := by
  cases renders with
  | handedOut enveloped =>
      exact eq_success_of_envelopeOf enveloped
  | unwritten | unkept =>
      cases noError

/-- Data are withheld with one of two errors. -/
theorem code_of_failure
    {error : ReportedError}
    (renders : session.Renders requestId noCache kind data answer)
    (failed : answer = .failure error) :
    error.code = .responseTooLarge ∨ error.code = .internalError := by
  cases renders with
  | handedOut enveloped =>
      rw [eq_success_of_envelopeOf enveloped] at failed
      cases failed
  | unwritten refused =>
      cases failed
      exact (ofWriting_of_envelopeOf refused).code_toError requestId
  | unkept _ unusable =>
      cases failed
      obtain ⟨crash, rfl⟩ := exists_crash_of_lifetime unusable
      exact .inr rfl

end Renders

/-- A query that can be prepared is answered with the failure of its computation in the module of
now, or with what becomes of the computed data. -/
theorem Coherent.exists_outcome
    {call : QueryCall}
    {subject : QuerySubject}
    (coherent : session.Coherent modules texts)
    (apart : DigestsApart texts)
    (wellTyped : call.query.WellTyped)
    (found : session.subject call.modulePath call.query = .ok subject)
    (hashed : subject.keyText ∈ texts)
    (requestId : String) :
    ∃ definition,
      modules.module? subject.stamp.path = some definition ∧
        subject.stamp.fingerprint = modules.fingerprint subject.stamp.path ∧
          ((∃ failure,
              subject.answer ⟨subject.stamp.path, definition, .ordinary⟩ = .error failure ∧
                (session.answerQuery requestId call).1 = conclude requestId (.error failure)) ∨
            ∃ data,
              subject.answer ⟨subject.stamp.path, definition, .ordinary⟩ = .ok data ∧
                session.Renders requestId call.noCache subject.kind data
                  (session.answerQuery requestId call).1) := by
  obtain ⟨definition, present, fingerprintSame, produced, _⟩ :=
    produce_of_subject coherent.serves found
  refine ⟨definition, present, fingerprintSame, ?_⟩
  rw [QuerySubject.envelope_eq] at produced
  have answered :
      (session.answerQuery requestId call).1 =
        conclude requestId
          (session.cache.execute subject.cacheKey session.lifetime call.noCache
            (fun _ => session.produce subject.plan) session.source).1 := by
    rw [Session.answerQuery, plan_of_subject wellTyped found]
    rfl
  have holds :
      ∀ entry ∈ session.cache.entries, entry.key = subject.cacheKey →
        (session.produce subject.plan).1 = .ok entry.payload :=
    fun entry member keySame => coherent.produce_eq apart found hashed member keySame
  rw [answered]
  cases computed : subject.answer ⟨subject.stamp.path, definition, .ordinary⟩ with
  | error failure =>
      rw [computed] at produced
      refine .inl ⟨failure, rfl, congrArg (conclude requestId) ?_⟩
      apply ResponseCache.execute_eq_error _ _ _ produced
      intro entry member keySame
      cases produced.symm.trans (holds entry member keySame)
  | ok data =>
      rw [computed] at produced
      change _ = envelopeOf subject.kind.word data at produced
      refine .inr ⟨data, rfl, ?_⟩
      have handsOut
          {outcome : Except Failure Envelope}
          (asProduced : outcome = (session.produce subject.plan).1) :
          session.Renders requestId call.noCache subject.kind data
            (conclude requestId outcome) := by
        rw [asProduced, produced]
        cases enveloped : envelopeOf subject.kind.word data with
        | ok envelope =>
            exact .handedOut enveloped
        | error failure =>
            exact .unwritten enveloped
      cases cacheUse : call.noCache with
      | true =>
          rw [cacheUse] at handsOut
          exact handsOut (ResponseCache.execute_noCache _ _ _ _ _)
      | false =>
          rcases ResponseCache.execute_eq_produce_or_error session.lifetime false
              (fun _ => session.produce subject.plan) session.source holds with
            asProduced | ⟨failure, unusable, failed⟩
          · rw [cacheUse] at handsOut
            exact handsOut asProduced
          · rw [failed]
            exact .unkept rfl unusable

end Session

/-! ## Why a page is refused -/

private theorem Answer.ofWriting_of_pageOf
    {α : Type}
    {render : α → Value}
    {items : List α}
    {position : Answer.PagePosition}
    {failure : Failure}
    (failed : Answer.pageOf render items position = .error failure) :
    failure.OfWriting := by
  simp only [Answer.pageOf] at failed
  generalize (Page.build render items position.offset position.take position.salt
    Limits.pageTarget).measureFault?
    (Page.candidates render items position.offset position.take) = fault at failed
  cases fault with
  | none =>
      cases failed
  | some crash =>
      cases failed
      trivial

/-- If the rows of a listing are there, a page of them can only fail to be written. -/
theorem ListingSubject.ofWriting_of_answer
    {listing : ListingSubject}
    {opened : OpenModule}
    {rows : List Value}
    {offset : Nat}
    {failure : Failure}
    (rowsAre : listing.rows opened = .ok rows)
    (failed : listing.answer offset opened = .error failure) :
    failure.OfWriting := by
  cases scopeIs : listing.scope with
  | types =>
      simp only [ListingSubject.rows, scopeIs] at rowsAre
      obtain ⟨items, arranged, _⟩ := Failure.exists_of_map_eq_ok rowsAre
      simp only [answer, scopeIs, Answer.typeListing] at failed
      rw [arranged] at failed
      change (Answer.pageOf TypeDescriptor.toOwnValue items (listing.position offset) >>= _) = _
        at failed
      cases paged :
          Answer.pageOf TypeDescriptor.toOwnValue items (listing.position offset) with
      | error failureThere =>
          rw [paged] at failed
          cases failed
          exact Answer.ofWriting_of_pageOf paged
      | ok page =>
          rw [paged] at failed
          cases failed
  | members selection typeName =>
      simp only [ListingSubject.rows, scopeIs] at rowsAre
      obtain ⟨type, found, rowsAre⟩ := Failure.exists_of_bind_eq_ok rowsAre
      obtain ⟨items, arranged, _⟩ := Failure.exists_of_map_eq_ok rowsAre
      simp only [answer, scopeIs, Answer.memberListing] at failed
      change (opened.type typeName listing.options.caseSensitive >>= _) = _ at failed
      rw [found] at failed
      change (Answer.arrangedMembers _ _ _ _ _ >>= _) = _ at failed
      rw [arranged] at failed
      change (Answer.pageOf MemberDescriptor.toValue items (listing.position offset) >>= _) = _
        at failed
      cases paged :
          Answer.pageOf MemberDescriptor.toValue items (listing.position offset) with
      | error failureThere =>
          rw [paged] at failed
          cases failed
          exact Answer.ofWriting_of_pageOf paged
      | ok page =>
          rw [paged] at failed
          cases failed

namespace QuerySubject

private theorem envelope_of_answer
    {subject : QuerySubject}
    {definition : ModuleDefinition}
    {data : Value}
    (answered : subject.answer ⟨subject.stamp.path, definition, .ordinary⟩ = .ok data) :
    subject.envelope definition = Session.envelopeOf subject.kind.word data := by
  rw [envelope, answered]
  rfl

private theorem envelope_of_answer_error
    {subject : QuerySubject}
    {definition : ModuleDefinition}
    {failure : Failure}
    (failed : subject.answer ⟨subject.stamp.path, definition, .ordinary⟩ = .error failure) :
    subject.envelope definition = .error failure := by
  rw [envelope, failed]
  rfl

variable {listing : ListingSubject} {definition : ModuleDefinition} {rows : List Value}
  {offset : Nat}

/-- If the rows of a listing are there, the answer to a query for a page of them can only fail to
be written. -/
theorem ofWriting_of_envelope
    {failure : Failure}
    (rowsAre : listing.rows ⟨listing.stamp.path, definition, .ordinary⟩ = .ok rows)
    (failed : (page listing offset).envelope definition = .error failure) :
    failure.OfWriting := by
  cases computed :
      (page listing offset).answer
        ⟨(page listing offset).stamp.path, definition, .ordinary⟩ with
  | error failureThere =>
      rw [envelope_of_answer_error computed] at failed
      cases failed
      exact ListingSubject.ofWriting_of_answer rowsAre computed
  | ok data =>
      rw [envelope_of_answer computed] at failed
      exact Session.ofWriting_of_envelopeOf failed

/-- A page that starts at a row above the ceiling is refused. -/
theorem exists_failure_of_large_row
    {row : Value}
    (rowsAre : listing.rows ⟨listing.stamp.path, definition, .ordinary⟩ = .ok rows)
    (positive : 0 < listing.options.take)
    (atOffset : rows[offset]? = some row)
    (large : Limits.maximumResponse < (Json.characters .compact 3 row).length) :
    ∃ failure, (page listing offset).envelope definition = .error failure := by
  cases computed :
      (page listing offset).answer
        ⟨(page listing offset).stamp.path, definition, .ordinary⟩ with
  | error failure =>
      exact ⟨failure, envelope_of_answer_error computed⟩
  | ok data =>
      obtain ⟨rowsThere, head, shown, sameRows, shows, rfl, _⟩ :=
        ListingSubject.exists_page_of_answer computed
      have isRows : rowsThere = rows := Except.ok.inj (sameRows.symm.trans rowsAre)
      rw [isRows] at shows
      have inside : offset < rows.length := (List.getElem?_eq_some_iff.mp atOffset).1
      have someItem := shows.count_pos inside positive
      have member : row ∈ shown.items := by
        rw [shows.items_eq]
        apply List.mem_of_getElem? (i := 0)
        rw [List.getElem?_take_of_lt someItem, List.getElem?_drop]
        exact atOffset
      have rowWritten :
          (Json.characters .compact 3 row).length ≤
            (Json.characters .compact 2 (.list shown.items)).length :=
        Json.length_le_of_mem_list member
      have itemsWritten :
          (Json.characters .compact 2 (.list shown.items)).length ≤
            (Json.characters .compact 1 (.record (head ++ shown.toFields))).length :=
        Json.length_le_of_mem_record
          (show ("items", Value.list shown.items) ∈ head ++ shown.toFields from
            List.mem_append_right _ (by simp [Page.toFields]))
      rw [envelope_of_answer computed]
      exact Session.exists_failure_of_large
        (Nat.lt_of_lt_of_le large (Nat.le_trans rowWritten itemsWritten))

end QuerySubject

end TypeCatalog
