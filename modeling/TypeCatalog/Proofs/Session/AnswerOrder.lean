import TypeCatalog.Proofs.Session.NameQueryOrder
import TypeCatalog.Proofs.Session.PageStart
import TypeCatalog.Proofs.Session.ReadingAnswer

namespace TypeCatalog

/-!
# Answers in any order of reading

Listings and views of a type are the same in whatever order a module is read, if its types have
different full names and no two members of a type share token, signature and declaring type.  Only
where several types or members cannot be described, and fail differently, a listing fails for the
one that is read first.
-/

namespace ModuleSource

variable {source : ModuleSource} {files : FileTree}

theorem mode_of_openModule
    {path : String}
    {opened : OpenModule}
    (opens : (source.openModule files path).1 = .ok (some opened)) :
    opened.mode = source.mode := by
  have keepsMode : (source.beforeOpening path).mode = source.mode := by
    unfold beforeOpening without
    split
    · split <;> rfl
    · rfl
  unfold openModule at opens
  dsimp only at opens
  split at opens <;> cases opens
  exact keepsMode

/-- Computations that agree on the module that is opened agree on the module with a stamp. -/
theorem withModule_agree
    {α : Type}
    {faults : Crash → Prop}
    {stamp : ModuleStamp}
    {compute other : OpenModule → Except Failure α}
    (agrees : ∀ opened,
      (source.openModule files stamp.path).1 = .ok (some opened) →
        AgreeUpToFault faults (compute opened) (other opened)) :
    AgreeUpToFault faults
      (source.withModule files stamp compute).1 (source.withModule files stamp other).1 := by
  rw [withModule_fst, withModule_fst]
  rcases opening : (source.openModule files stamp.path).1 with _ | _ | opened
  · exact .agree _
  · exact .agree _
  · exact agrees opened opening

/-- A source that opens modules in another form computes from them in that form. -/
theorem withModule_of_opens
    {α : Type}
    {other : ModuleSource}
    {stamp : ModuleStamp}
    {changed : OpenModule → OpenModule}
    (opens :
      (other.openModule files stamp.path).1 =
        (source.openModule files stamp.path).1.map (Option.map changed))
    (compute : OpenModule → Except Failure α) :
    (other.withModule files stamp compute).1 =
      (source.withModule files stamp fun opened => compute (changed opened)).1 := by
  rw [withModule_fst, withModule_fst, opens]
  rcases (source.openModule files stamp.path).1 with _ | _ | opened <;> rfl

end ModuleSource

namespace Session

/-- Answers what a query asks, with every module read in a given way. -/
def produceAs
    (session : Session)
    (read : OpenModule → Reading)
    (subject : QuerySubject) : Except Failure Envelope × ModuleSource :=
  session.source.withModule session.files subject.stamp fun opened => do
    envelopeOf subject.kind.word (← (read opened).answer subject)

/-- The answer to a query, with every module read in a given way. -/
def answerAs
    (session : Session)
    (read : OpenModule → Reading)
    (requestId : String)
    (call : QueryCall) : Envelope :=
  conclude requestId (do
    let subject ← session.subject call.modulePath call.query
    (session.cache.execute subject.cacheKey session.lifetime call.noCache
      (fun _ => session.produceAs read subject) session.source).1)

/-- A session answers with every module read as it is. -/
theorem answerQuery_eq_answerAs
    {session : Session}
    {call : QueryCall}
    (readable : session.source.mode ≠ .failing)
    (wellTyped : call.query.WellTyped)
    (requestId : String) :
    (session.answerQuery requestId call).1 =
      session.answerAs OpenModule.reading requestId call := by
  rw [answerQuery, answerAs, session.plan_eq call.modulePath wellTyped]
  cases session.subject call.modulePath call.query with
  | error failure =>
      rfl
  | ok subject =>
      have producedAgree :
          AgreeUpToFault (fun _ => False)
            (session.produce subject.plan).1 (session.produceAs OpenModule.reading subject).1 := by
        apply ModuleSource.withModule_agree
        intro opened opens
        have openReadable : opened.mode ≠ .failing := by
          rw [ModuleSource.mode_of_openModule opens]
          exact readable
        exact (AgreeUpToFault.of_eq (OpenModule.answer_eq_reading openReadable subject)).bind _
      have sameProduced := producedAgree.eq_of_no_faults fun _ => id
      exact
        congrArg (conclude requestId)
          (ResponseCache.execute_fst_congr rfl sameProduced _ _)

end Session

/-! ## Reading backwards -/

namespace OpenModule

/-- An open module read backwards. -/
def backwards (opened : OpenModule) : OpenModule :=
  { opened with mode := .backwards }

theorem sameUpToOrder_backwards (opened : OpenModule) :
    opened.backwards.reading.SameUpToOrder opened.reading := by
  have samePerm {α : Type} (items : List α) :
      (opened.backwards.inReadingOrder items).Perm (opened.inReadingOrder items) :=
    (opened.backwards.inReadingOrder_perm items).trans (opened.inReadingOrder_perm items).symm
  exact ⟨rfl, rfl, samePerm _, fun _ _ => samePerm _⟩

end OpenModule

namespace Session

private theorem subject_readBackwards
    {session : Session}
    (ordinary : session.source.mode = .ordinary)
    (modulePath : Value)
    (query : Query) :
    session.readBackwards.subject modulePath query = session.subject modulePath query := by
  have same := (sameUpToOrder_readBackwards ordinary).resolveModule_eq
  cases query <;>
    simp only [subject, pageSubject, listing, typeSubject, namedSubject, same] <;>
    rfl

/-- A session that reads backwards answers as the session does with every module read backwards. -/
theorem answerAs_readBackwards
    {session : Session}
    (ordinary : session.source.mode = .ordinary)
    (requestId : String)
    (call : QueryCall) :
    session.readBackwards.answerAs OpenModule.reading requestId call =
      session.answerAs (fun opened => opened.backwards.reading) requestId call := by
  rw [answerAs, answerAs, subject_readBackwards ordinary]
  cases session.subject call.modulePath call.query with
  | error failure =>
      rfl
  | ok subject =>
      have opensBackwards (path : String) :
          (session.readBackwards.source.openModule session.files path).1 =
            (session.source.openModule session.files path).1.map
              (Option.map OpenModule.backwards) := by
        have stays := ModuleSource.beforeOpening_of_ordinary ordinary path
        have staysBackwards :
            session.readBackwards.source.beforeOpening path = session.readBackwards.source :=
          rfl
        have sameModule :
            session.readBackwards.source.module? session.files path =
              session.source.module? session.files path :=
          rfl
        simp only [ModuleSource.openModule, stays, staysBackwards, sameModule]
        split <;> rfl
      have sameProduced :
          (session.readBackwards.produceAs OpenModule.reading subject).1 =
            (session.produceAs (fun opened => opened.backwards.reading) subject).1 :=
        ModuleSource.withModule_of_opens (opensBackwards subject.stamp.path) fun opened =>
          opened.reading.answer subject >>= envelopeOf subject.kind.word
      exact
        congrArg (conclude requestId)
          (ResponseCache.execute_fst_congr rfl sameProduced _ _)

end Session

/-! ## Any order -/

namespace Session

/-- A failure of a type or of a member that a query comes across in a listing and that cannot be
described. -/
def MeetsFault
    (session : Session)
    (call : QueryCall)
    (crash : Crash) : Prop :=
  ∃ listing offset opened,
    session.subject call.modulePath call.query = .ok (.page listing offset) ∧
      (session.source.openModule session.files listing.stamp.path).1 = .ok (some opened) ∧
        opened.reading.MeetsFault listing crash

variable {session : Session} {call : QueryCall} {first second : OpenModule → Reading}

private theorem conclude_agree
    {faults : Crash → Prop}
    {outcome otherOutcome : Except Failure Envelope}
    (agrees : AgreeUpToFault faults outcome otherOutcome)
    (requestId : String) :
    conclude requestId outcome = conclude requestId otherOutcome ∨
      ∃ one other,
        faults one ∧ faults other ∧ one ≠ other ∧
          conclude requestId outcome = conclude requestId (.error (.crashed one)) ∧
            conclude requestId otherOutcome = conclude requestId (.error (.crashed other)) := by
  cases agrees with
  | agree =>
      exact .inl rfl
  | fail oneMet otherMet different =>
      exact .inr ⟨_, _, oneMet, otherMet, different, rfl, rfl⟩

/-- Answers that are made of agreeing data agree. -/
private theorem answerAs_agree
    {faults : Crash → Prop}
    (agrees : ∀ subject opened,
      session.subject call.modulePath call.query = .ok subject →
        (session.source.openModule session.files subject.stamp.path).1 = .ok (some opened) →
          AgreeUpToFault faults ((first opened).answer subject) ((second opened).answer subject))
    (requestId : String) :
    session.answerAs first requestId call = session.answerAs second requestId call ∨
      ∃ one other,
        faults one ∧ faults other ∧ one ≠ other ∧
          session.answerAs first requestId call = conclude requestId (.error (.crashed one)) ∧
            session.answerAs second requestId call =
              conclude requestId (.error (.crashed other)) := by
  unfold answerAs
  cases found : session.subject call.modulePath call.query with
  | error failure =>
      exact .inl rfl
  | ok subject =>
      -- Both look into the same cache, so they can differ only in what is made anew.
      have producedAgree :
          AgreeUpToFault faults
            (session.produceAs first subject).1 (session.produceAs second subject).1 :=
        ModuleSource.withModule_agree fun opened opens =>
          (agrees subject opened found opens).bind _
      have executedAgree :=
        AgreeUpToFault.execute (fun _ => session.produceAs first subject)
          (fun _ => session.produceAs second subject) producedAgree session.cache subject.cacheKey
          session.lifetime call.noCache session.source
      exact conclude_agree executedAgree requestId

/-- In whatever order modules are read that tell their parts apart, a query about a type is answered
alike, and so is a query for a page, unless the listing comes across several faults and both answers
are unforeseen failures for one of them. -/
theorem answer_same_in_any_order
    (apart : ∀ path opened,
      (session.source.openModule session.files path).1 = .ok (some opened) → opened.TellsApart)
    (firstReads : ∀ opened, (first opened).SameUpToOrder opened.reading)
    (secondReads : ∀ opened, (second opened).SameUpToOrder opened.reading)
    (requestId : String) :
    (session.source.mode ≠ .failing → call.query.WellTyped →
      (session.answerQuery requestId call).1 =
        session.answerAs OpenModule.reading requestId call) ∧
    (∀ view typeName caseSensitive, call.query = .type view typeName caseSensitive →
      session.answerAs first requestId call = session.answerAs second requestId call) ∧
    (∀ form given, call.query = ListingForm.query given form →
      session.answerAs first requestId call = session.answerAs second requestId call ∨
        ∃ one other,
          session.MeetsFault call one ∧ session.MeetsFault call other ∧ one ≠ other ∧
            session.answerAs first requestId call = conclude requestId (.error (.crashed one)) ∧
              session.answerAs second requestId call =
                conclude requestId (.error (.crashed other))) := by
  have sameReadings (opened : OpenModule) : (first opened).SameUpToOrder (second opened) :=
    (firstReads opened).trans (secondReads opened).symm
  refine ⟨fun readable wellTyped => answerQuery_eq_answerAs readable wellTyped requestId, ?_, ?_⟩
  · intro view typeName caseSensitive queryIs
    have agrees (subject : QuerySubject) (opened : OpenModule)
        (found : session.subject call.modulePath call.query = .ok subject)
        (opens :
          (session.source.openModule session.files subject.stamp.path).1 = .ok (some opened)) :
        AgreeUpToFault (fun _ => False)
          ((first opened).answer subject) ((second opened).answer subject) := by
      rw [queryIs] at found
      obtain ⟨name, _, found⟩ := Failure.exists_of_bind_eq_ok found
      obtain ⟨stamp, _, found⟩ := Failure.exists_of_bind_eq_ok found
      cases found
      have readingApart := (apart _ opened opens).of_sameUpToOrder (firstReads opened)
      exact .of_eq ((sameReadings opened).typeView_eq readingApart.namesDistinct view name _)
    rcases answerAs_agree agrees requestId with same | ⟨_, _, noFault, _⟩
    · exact same
    · exact noFault.elim
  · intro form given queryIs
    apply answerAs_agree
    intro subject opened found opens
    have pageFound := found
    rw [queryIs, subject_query] at pageFound
    obtain ⟨_, listing, offset, _, _, _, rfl⟩ := exists_listing_of_pageSubject pageFound
    have readingApart := (apart _ opened opens).of_sameUpToOrder (firstReads opened)
    have agrees := (sameReadings opened).answer_page_agree readingApart listing offset
    exact agrees.mono fun crash met =>
      ⟨listing, offset, opened, found, opens,
        met.of_sameUpToOrder (firstReads opened) readingApart⟩

/-- Two overloads with one signature are listed alike in both orders of reading. -/
theorem listing_readBackwards_of_tied_overloads :
    let session := overModule "lib" (.ofOverloads "P.X" "Q.X")
    let call : QueryCall :=
      ⟨.text "lib", .members (.ofKind .method) (.text "A") .null, false⟩
    (session.answerQuery "1" call).1 = (session.readBackwards.answerQuery "1" call).1 := by
  intro session call
  have definitionIs {path : String} {opened : OpenModule}
      (opens : (session.source.openModule session.files path).1 = .ok (some opened)) :
      opened.definition = (ModuleDefinition.ofOverloads "P.X" "Q.X").assignDeclarationOrder :=
    definition_of_openModule_overModule opens
  have apart (path : String) (opened : OpenModule)
      (opens : (session.source.openModule session.files path).1 = .ok (some opened)) :
      opened.TellsApart := by
    constructor
    · rw [definitionIs opens]
      decide +kernel
    · rw [definitionIs opens]
      decide +kernel
  obtain ⟨asRead, _, pagesSame⟩ :=
    @answer_same_in_any_order session call OpenModule.reading
      (fun opened => opened.backwards.reading) apart (fun _ => .refl _)
      OpenModule.sameUpToOrder_backwards "1"
  have asReadBackwards :
      (session.readBackwards.answerQuery "1" call).1 =
        session.answerAs (fun opened => opened.backwards.reading) "1" call :=
    (@answerQuery_eq_answerAs session.readBackwards call nofun trivial "1").trans
      (answerAs_readBackwards rfl "1" call)
  rw [asRead nofun trivial, asReadBackwards]
  rcases pagesSame (.members (.ofKind .method) (.text "A")) .null rfl with
    same | ⟨one, _, ⟨listing, _, opened, _, opens, met⟩, _⟩
  · exact same
  · have describable : opened.Describable := by
      constructor
      · rw [definitionIs opens]
        decide +kernel
      · rw [definitionIs opens]
        decide +kernel
    exact absurd met (describable.not_meetsFault listing one)

end Session

/-- A field whose type is an array of a rank. -/
def MemberFact.arrayField
    (token : Int)
    (name : String)
    (rank : Nat) : MemberFact :=
  { overload token "X" "" with
    kind := .field
    name := name
    typeRef? := some ⟨.array, "", some ⟨.named, "X", none, 1, []⟩, rank, []⟩
    docs? := none }

/-- A module of one type with two fields whose types have no text: one could not be asked for, the
other is too long for memory. -/
def ModuleDefinition.ofVastArrays : ModuleDefinition :=
  ⟨"Lib", "",
    [{ TypeDefinition.bare "A" with
        token := 1
        members := [.arrayField 1 "F" (Nat.pow 2 64), .arrayField 2 "G" (Nat.pow 2 62)] }]⟩

namespace Session

/-- The fields of the type of this module, as a session with the standard options lists them. -/
def vastArrayListing : ListingSubject :=
  ⟨.members (.ofKind .field) "A", ⟨"lib", "rev-1"⟩,
    (overModule "lib" .ofVastArrays).resolvedOptions (.members (.ofKind .field)) .standard⟩

private def vastArrays (mode : ReadingMode) : OpenModule :=
  ⟨"lib", ModuleDefinition.ofVastArrays.assignDeclarationOrder, mode⟩

private theorem answer_vastArrays
    {mode : ReadingMode}
    {type : TypeDefinition}
    {crash : Crash}
    (found : (vastArrays mode).type "A" true = .ok type)
    (isFault :
      MemberFact.firstFault? [.field] ((vastArrays mode).membersOf type .standard) = some crash) :
    vastArrayListing.answer 0 (vastArrays mode) = .error (.crashed crash) := by
  change ((vastArrays mode).type "A" true >>= _) = _
  rw [found]
  change
    ((Failure.unlessCrash
      (MemberFact.firstFault? [.field] ((vastArrays mode).membersOf type .standard)) >>= _) >>= _) =
      _
  rw [isFault]
  rfl

private theorem answerQuery_vastArrays
    {session : Session}
    {mode : ReadingMode}
    {failure : Failure}
    (found :
      session.subject (.text "lib") (.members (.ofKind .field) (.text "A") .null) =
        .ok (.page vastArrayListing 0))
    (opens : (session.source.openModule session.files "lib").1 = .ok (some (vastArrays mode)))
    (fails : vastArrayListing.answer 0 (vastArrays mode) = .error failure) :
    (session.answerQuery "1"
        ⟨.text "lib", .members (.ofKind .field) (.text "A") .null, true⟩).1 =
      conclude "1" (.error failure) := by
  have produced :
      (session.produce (QuerySubject.page vastArrayListing 0).plan).1 = .error failure := by
    rw [produce, ModuleSource.withModule_fst]
    change ((session.source.openModule session.files "lib").1.bind _) = _
    rw [opens]
    change (vastArrayListing.answer 0 (vastArrays mode) >>= _) = _
    rw [fails]
    rfl
  have planned :=
    plan_of_subject (wellTyped_listing (.members (.ofKind .field) (.text "A")) .null) found
  change session.plan _ (.members (.ofKind .field) (.text "A") .null) = _ at planned
  simp only [answerQuery, planned, ResponseCache.execute_noCache, produced]

/-- Two fields that cannot be described, each in its own way, are answered with an error for the
first one, whichever that is. -/
theorem listing_readBackwards_of_vast_arrays :
    let definition := ModuleDefinition.ofVastArrays
    let session := overModule "lib" definition
    let call : QueryCall :=
      ⟨.text "lib", .members (.ofKind .field) (.text "A") .null, true⟩
    session.SameUpToOrder session.readBackwards ∧
      (definition.allTypes.map TypeDefinition.fullName).Nodup ∧
        (∀ type ∈ definition.allTypes,
          (type.members.map fun member =>
            (member.token, (MemberDescriptor.describe member).signature,
              member.declaringType)).Nodup) ∧
          (session.answerQuery "1" call).1 ≠ (session.readBackwards.answerQuery "1" call).1 := by
  intro definition session call
  refine ⟨sameUpToOrder_readBackwards rfl, by decide +kernel, ?_, ?_⟩
  · intro type member
    rw [List.mem_singleton.mp member]
    apply List.Nodup.of_map Prod.fst
    decide +kernel
  · have meant :
        session.listing (.text "lib") (.members (.ofKind .field) (.text "A")) .standard =
          .ok vastArrayListing :=
      Failure.eq_ok_of_toOption_eq_some (by decide +kernel)
    have found :
        session.subject (.text "lib")
            (ListingForm.query .null (.members (.ofKind .field) (.text "A"))) =
          .ok (.page vastArrayListing 0) :=
      subject_of_listing rfl meant rfl
    have foundBackwards := (subject_readBackwards rfl _ _).trans found
    have overflows :
        vastArrayListing.answer 0 (vastArrays .ordinary) =
          .error (.crashed ⟨.overflow, "cannot fit 'int' into an index-sized integer"⟩) := by
      apply answer_vastArrays
      · with_unfolding_all rfl
      · rfl
    have outOfMemory :
        vastArrayListing.answer 0 (vastArrays .backwards) =
          .error (.crashed ⟨.outOfMemory, ""⟩) := by
      apply answer_vastArrays
      · with_unfolding_all rfl
      · rfl
    rw [answerQuery_vastArrays found rfl overflows,
      answerQuery_vastArrays foundBackwards rfl outOfMemory]
    intro same
    have sameMessage := congrArg ReportedError.message (Envelope.failure.inj same)
    exact absurd sameMessage (by decide)

end Session

end TypeCatalog
