import TypeCatalog.Proofs.Query.Selection
import TypeCatalog.Proofs.Session.KindListing
import TypeCatalog.Proofs.Session.Outcome
import TypeCatalog.Proofs.Session.SizeCeiling

namespace TypeCatalog

/-!
# Looking members up by name

A query for members by name finds the members with the name in the whole listing of all members
under the same visibility and the same regard to case.  The two views of members by name fail
alike and show the same members.  Options that arrange or cut a listing play no part.
-/

/-- The number of documented members that an answer shows. -/
def Envelope.documented? : Envelope → Option Nat
  | .success _ data => (data.field? "documented").bind Value.nat?
  | .failure _ => none

namespace Answer

variable {stamp : ModuleStamp} {memberName : String}
  {found : TypeDefinition × List MemberDescriptor}

private theorem settled_namedData (view : NameView) :
    Json.settled (namedData stamp view memberName found) =
      .record
        ([("module_path", .text stamp.path), ("type_name", .text found.1.fullName),
          ("member_name", .text memberName), ("count", .ofNat found.2.length)] ++
          (namedFields view found.2).map fun field => (field.1, Json.settled field.2)) := by
  rw [namedData, Json.settled_record, List.map_append]
  · rfl
  · cases view with
    | lookup =>
        exact (by decide : ["module_path", "type_name", "member_name", "count", "items"].Nodup)
    | documentation =>
        exact (by decide :
          ["module_path", "type_name", "member_name", "count", "documented", "items"].Nodup)

/-- A view shows the members that were found, one by one. -/
theorem items_namedData
    (view : NameView)
    (kind : String) :
    (Envelope.success kind (Json.settled (namedData stamp view memberName found))).items =
      (found.2.map (itemOf view)).map Json.settled := by
  have itemsShown :
      (Json.settled (namedData stamp view memberName found)).field? "items" =
        some (.list ((found.2.map (itemOf view)).map Json.settled)) := by
    rw [settled_namedData, Value.field?_record, ← Json.settledItems_eq_map]
    cases view <;> rfl
  simp only [Envelope.items, itemsShown]

theorem documented?_namedData (kind : String) :
    (Envelope.success kind
        (Json.settled (namedData stamp .documentation memberName found))).documented? =
      some (found.2.countP fun member => member.docs?.isSome) := by
  have numberShown :
      (Json.settled (namedData stamp .documentation memberName found)).field? "documented" =
        some (.ofNat (found.2.countP fun member => member.docs?.isSome)) := by
    rw [settled_namedData, Value.field?_record]
    rfl
  rw [Envelope.documented?, numberShown]
  rfl

end Answer

/-- Options under which a listing is not cut down by filters. -/
structure FilterOptions.Unfiltered (options : FilterOptions) : Prop where
  noNameFilter : Listing.filterText options.nameContains? = ""
  noAttributeFilter : Listing.filterText options.attributeContains? = ""

namespace Session

/-- Options under which the same members are seen in a session, with the same regard to case. -/
structure SeesSame
    (session : Session)
    (options other : FilterOptions) : Prop where
  visibility_eq : session.visibilityFor options = session.visibilityFor other
  caseSensitive_eq : options.caseSensitive = other.caseSensitive

variable {session later : Session} {modules laterModules : Registry} {texts : List String}
  {modulePath typeName memberName given laterGiven : Value} {options laterOptions : FilterOptions}
  {view laterView : NameView} {name requestId : String} {noCache laterNoCache : Bool}

/-- The names and the module of a query by name, as they are checked. -/
def namedTarget
    (session : Session)
    (modulePath typeName memberName : Value) :
    Except Failure (String × String × ModuleStamp) := do
  let name ← requireText "type_name" typeName
  let wanted ← requireText "member_name" memberName
  let stamp ← session.resolveModule modulePath
  return (name, wanted, stamp)

theorem namedTarget_eq
    (sameGround : session.SameGround later modulePath)
    (typeName memberName : Value) :
    later.namedTarget modulePath typeName memberName =
      session.namedTarget modulePath typeName memberName := by
  rw [namedTarget, namedTarget, sameGround.stamp_eq]

private theorem resolveModule_of_namedTarget
    {target : String × String × ModuleStamp}
    (found : session.namedTarget modulePath typeName memberName = .ok target) :
    session.resolveModule modulePath = .ok target.2.2 := by
  obtain ⟨name, _, found⟩ := Failure.exists_of_bind_eq_ok found
  obtain ⟨wanted, _, found⟩ := Failure.exists_of_bind_eq_ok found
  obtain ⟨stamp, resolved, found⟩ := Failure.exists_of_bind_eq_ok found
  cases found
  exact resolved

theorem SameGround.visibilityFor_eq
    (sameGround : session.SameGround later modulePath)
    (options : FilterOptions) :
    later.visibilityFor options = session.visibilityFor options := by
  rw [visibilityFor, visibilityFor, sameGround.options_eq]

/-- A query by name under options that pass their checks asks for the members of its target. -/
theorem subject_named
    (checked : FilterOptions.checkOptional given = .ok options) :
    session.subject modulePath (.named view typeName memberName given) =
      (session.namedTarget modulePath typeName memberName).map fun target =>
        .named view target.2.2 target.1 target.2.1
          (.resolve options (session.visibilityFor options) 0) := by
  change session.namedSubject modulePath view typeName memberName given = _
  rw [namedSubject, checked]
  change (requireText "type_name" typeName >>= _) = _
  rw [namedTarget]
  cases requireText "type_name" typeName with
  | error failure =>
      rfl
  | ok name =>
      change (requireText "member_name" memberName >>= _) = Except.map _ (_ >>= _)
      cases requireText "member_name" memberName with
      | error failure =>
          rfl
      | ok wanted =>
          change (session.resolveModule modulePath >>= _) = Except.map _ (_ >>= _)
          cases session.resolveModule modulePath <;> rfl

/-- A query that cannot be prepared is answered with the reason. -/
theorem answerQuery_of_subject_error
    {query : Query}
    {failure : Failure}
    (wellTyped : query.WellTyped)
    (refused : session.subject modulePath query = .error failure)
    (requestId : String)
    (noCache : Bool) :
    (session.answerQuery requestId ⟨modulePath, query, noCache⟩).1 =
      conclude requestId (.error failure) := by
  have noPlan := session.plan_eq modulePath wellTyped
  rw [refused] at noPlan
  rw [answerQuery, noPlan]
  rfl

/-- What a query by name finds: the module, the name that is wanted, and the type with its members
of that name. -/
structure NameFinding where
  stamp : ModuleStamp
  wanted : String
  found : TypeDefinition × List MemberDescriptor

namespace NameFinding

/-- The data of a view of what was found. -/
def data
    (finding : NameFinding)
    (view : NameView) : Value :=
  Answer.namedData finding.stamp view finding.wanted finding.found

/-- The items of a view of what was found, as they are read back. -/
def items
    (finding : NameFinding)
    (view : NameView) : List Value :=
  (finding.found.2.map (Answer.itemOf view)).map Json.settled

theorem items_data
    (finding : NameFinding)
    (view : NameView)
    (kind : String) :
    (Envelope.success kind (Json.settled (finding.data view))).items = finding.items view :=
  Answer.items_namedData view kind

theorem documented?_data
    (finding : NameFinding)
    (kind : String) :
    (Envelope.success kind (Json.settled (finding.data .documentation))).documented? =
      some (finding.found.2.countP fun member => member.docs?.isSome) :=
  Answer.documented?_namedData kind

end NameFinding

/-- What a query by name under checked options finds in the module that a session would open for it
now.  Neither the view nor the cache plays a part. -/
def finding
    (session : Session)
    (modulePath typeName memberName : Value)
    (options : FilterOptions) : Except Failure NameFinding := do
  let (name, wanted, stamp) ← session.namedTarget modulePath typeName memberName
  let found ←
    (session.source.withModule session.files stamp
      (Answer.foundMembers name wanted options.caseSensitive (session.visibilityFor options))).1
  return ⟨stamp, wanted, found⟩

private theorem finding_of_target_error
    {failure : Failure}
    (noTarget : session.namedTarget modulePath typeName memberName = .error failure)
    (options : FilterOptions) :
    session.finding modulePath typeName memberName options = .error failure := by
  rw [finding, noTarget]
  rfl

/-- What is found is found in the module of the registry. -/
theorem finding_of_present
    {name wanted : String}
    {stamp : ModuleStamp}
    {definition : ModuleDefinition}
    (serves : session.source.Serves modules)
    (target : session.namedTarget modulePath typeName memberName = .ok (name, wanted, stamp))
    (present : modules.module? stamp.path = some definition)
    (options : FilterOptions) :
    session.finding modulePath typeName memberName options =
      (Answer.foundMembers name wanted options.caseSensitive (session.visibilityFor options)
        ⟨stamp.path, definition, .ordinary⟩).map (NameFinding.mk stamp wanted) := by
  rw [finding, target]
  change (session.source.withModule session.files stamp _).1 >>= _ = _
  rw [(serves.withModule_of_present present session.files _).1]
  cases Answer.foundMembers name wanted options.caseSensitive (session.visibilityFor options)
      ⟨stamp.path, definition, .ordinary⟩ <;> rfl

/-- How a query by name is answered.  A failure to find something is the answer.  What was found is
shown, or its data cannot be written or kept. -/
inductive AnswersFinding
    (session : Session)
    (requestId : String)
    (noCache : Bool)
    (view : NameView) : Except Failure NameFinding → Envelope → Prop where
  | refused {failure : Failure} :
      AnswersFinding session requestId noCache view (.error failure)
        (conclude requestId (.error failure))
  | rendered {finding : NameFinding} {answer : Envelope} :
      session.Renders requestId noCache (.named view) (finding.data view) answer →
      AnswersFinding session requestId noCache view (.ok finding) answer

/-- A query by name is answered with what it finds in the module of now, whatever is in the
cache. -/
theorem Coherent.answersFinding
    (coherent : session.Coherent modules texts)
    (apart : DigestsApart texts)
    (checked : FilterOptions.checkOptional given = .ok options)
    (hashed :
      ∀ text ∈ session.textsOfStep
        (.ask requestId
          (.query ⟨modulePath, .named view typeName memberName given, noCache⟩)), text ∈ texts) :
    session.AnswersFinding requestId noCache view
      (session.finding modulePath typeName memberName options)
      (session.answerQuery requestId
        ⟨modulePath, .named view typeName memberName given, noCache⟩).1 := by
  have wellTyped : (Query.named view typeName memberName given).WellTyped := trivial
  have subjectIs :=
    @subject_named session modulePath typeName memberName given options view checked
  cases target : session.namedTarget modulePath typeName memberName with
  | error failure =>
      rw [target] at subjectIs
      rw [finding_of_target_error target, answerQuery_of_subject_error wellTyped subjectIs]
      exact .refused
  | ok meant =>
      obtain ⟨name, wanted, stamp⟩ := meant
      rw [target] at subjectIs
      obtain ⟨definition, present, _, outcome⟩ :=
        @exists_outcome session modules texts
          ⟨modulePath, .named view typeName memberName given, noCache⟩ _ coherent apart wellTyped
          subjectIs (hashed _ (keyText_mem_textsOfStep wellTyped subjectIs requestId)) requestId
      rw [finding_of_present coherent.serves target present]
      have computedIs :
          QuerySubject.answer
              (.named view stamp name wanted
                (.resolve options (session.visibilityFor options) 0))
              ⟨stamp.path, definition, .ordinary⟩ =
            (Answer.foundMembers name wanted options.caseSensitive
              (session.visibilityFor options) ⟨stamp.path, definition, .ordinary⟩).map
                (Answer.namedData stamp view wanted) :=
        Answer.named_eq stamp view name wanted _ _ _
      rcases outcome with ⟨failure, computed, answered⟩ | ⟨data, computed, renders⟩
      · rw [Failure.eq_error_of_map_eq_error (computedIs.symm.trans computed), answered]
        exact .refused
      · obtain ⟨found, foundIs, rfl⟩ :=
          Failure.exists_of_map_eq_ok (computedIs.symm.trans computed)
        rw [foundIs]
        exact .rendered renders

/-- While the module and the runtime options stay as they are, a query by name under options that
see the same finds the same. -/
theorem Coherent.finding_eq
    (coherent : session.Coherent modules texts)
    (laterCoherent : later.Coherent laterModules texts)
    (follows : laterModules.Follows modules)
    (sameGround : session.SameGround later modulePath)
    (seesSame : session.SeesSame options laterOptions)
    (typeName memberName : Value) :
    later.finding modulePath typeName memberName laterOptions =
      session.finding modulePath typeName memberName options := by
  have laterTargetIs := namedTarget_eq sameGround typeName memberName
  cases target : session.namedTarget modulePath typeName memberName with
  | error failure =>
      rw [finding_of_target_error target, finding_of_target_error (laterTargetIs.trans target)]
  | ok meant =>
      obtain ⟨name, wanted, stamp⟩ := meant
      have resolved := resolveModule_of_namedTarget target
      obtain ⟨⟨definition, present⟩, fingerprintSame⟩ :=
        module_of_resolveModule coherent.serves resolved
      obtain ⟨⟨laterDefinition, laterPresent⟩, laterFingerprintSame⟩ :=
        module_of_resolveModule laterCoherent.serves (sameGround.stamp_eq.trans resolved)
      cases follows.module?_eq_of_fingerprint_eq
        (laterFingerprintSame.symm.trans fingerprintSame) laterPresent present
      rw [finding_of_present coherent.serves target present,
        finding_of_present laterCoherent.serves (laterTargetIs.trans target) laterPresent,
        sameGround.visibilityFor_eq, seesSame.visibility_eq, seesSame.caseSensitive_eq]

/-- How a lookup by name in a session is answered when some items are those with the name.  That
there are none is said exactly if there are none.  Otherwise they are what was found, and the answer
shows them, or their data cannot be written or kept. -/
structure LooksUp
    (session : Session)
    (requestId : String)
    (noCache : Bool)
    (finding : Except Failure NameFinding)
    (named : List Value)
    (answer : Envelope) : Prop where
  answers : session.AnswersFinding requestId noCache .lookup finding answer
  notFound_iff :
    (∃ error, answer = .failure error ∧ error.code = .memberNotFound) ↔ named = []
  finds_of_ne_nil :
    named ≠ [] → ∃ found, finding = .ok found ∧ (found.items .lookup).Perm named
  items_perm : answer.isError = false → answer.items.Perm named

private theorem looksUp_of_not_found
    {answer : Envelope}
    {fullName : String}
    (answers :
      session.AnswersFinding requestId noCache .lookup
        (.error (.reported (.memberNotFound name fullName))) answer) :
    session.LooksUp requestId noCache (.error (.reported (.memberNotFound name fullName))) []
      answer := by
  cases answers with
  | refused =>
      refine ⟨.refused, ?_, fun someNamed => absurd rfl someNamed, ?_⟩
      · exact ⟨fun _ => rfl, fun _ => ⟨_, rfl, rfl⟩⟩
      · intro served
        cases served

private theorem looksUp_of_found
    {answer : Envelope}
    {finding : NameFinding}
    {named : List Value}
    (someNamed : named ≠ [])
    (sameItems : (finding.items .lookup).Perm named)
    (answers : session.AnswersFinding requestId noCache .lookup (.ok finding) answer) :
    session.LooksUp requestId noCache (.ok finding) named answer := by
  cases answers with
  | rendered renders =>
      refine ⟨.rendered renders, ?_, fun _ => ⟨finding, rfl, sameItems⟩, ?_⟩
      · constructor
        · rintro ⟨error, failed, notFound⟩
          rcases renders.code_of_failure failed with tooLarge | internal
          · cases notFound.symm.trans tooLarge
          · cases notFound.symm.trans internal
        · exact fun noneNamed => absurd noneNamed someNamed
      · intro served
        rw [renders.eq_success served, NameFinding.items_data]
        exact sameItems

private theorem filter_isNamed
    (caseSensitive : Bool)
    (members : List MemberDescriptor) :
    ((members.map MemberDescriptor.toValue).map Json.settled).filter
        (Value.isNamed name caseSensitive) =
      ((members.filter (Answer.hasName name caseSensitive)).map MemberDescriptor.toValue).map
        Json.settled := by
  rw [List.filter_map, List.filter_map]
  congr 2
  exact List.filter_congr fun member _ =>
    MemberDescriptor.isNamed_settled_toValue name caseSensitive member

/-- A lookup finds the items with the name in the whole listing of all members under options that
see the same. -/
theorem Coherent.looksUp
    {turns : List PageTurn}
    (coherent : session.Coherent modules texts)
    (laterCoherent : later.Coherent laterModules texts)
    (follows : laterModules.Follows modules)
    (sameGround : session.SameGround later modulePath)
    (seesSame : session.SeesSame options laterOptions)
    (apart : DigestsApart texts)
    (valid : session.options.Valid)
    (checked : FilterOptions.checkOptional given = .ok options)
    (laterChecked : FilterOptions.checkOptional laterGiven = .ok laterOptions)
    (unpositioned : options.Unpositioned)
    (unfiltered : options.Unfiltered)
    (trimmed : Text.Trimmed name.toList)
    (turned : session.TurnsAllPages modulePath (.members .all typeName) given turns)
    (hashed :
      ∀ text ∈ session.hashedTexts
        ((turnPages modulePath (.members .all typeName) given session none turns).flatMap
          PageVisit.steps),
        text ∈ texts)
    (laterHashed :
      ∀ text ∈ later.textsOfStep
        (.ask requestId
          (.query ⟨modulePath, .named .lookup typeName (.text name) laterGiven, noCache⟩)),
        text ∈ texts) :
    later.LooksUp requestId noCache
      (session.finding modulePath typeName (.text name) options)
      ((PageVisit.allItems
        (turnPages modulePath (.members .all typeName) given session none turns)).filter
          (Value.isNamed name options.caseSensitive))
      (later.answerQuery requestId
        ⟨modulePath, .named .lookup typeName (.text name) laterGiven, noCache⟩).1 := by
  obtain ⟨_, definition, _, has, itemsAre⟩ :=
    coherent.exists_rows_of_turnsAllPages apart valid checked unpositioned turned hashed
  obtain ⟨typeText, stamp, required, resolved, rfl⟩ := exists_name_of_listing has.meant
  obtain ⟨type, items, typeFound, arranged, rfl⟩ :=
    ListingSubject.exists_members_of_rows has.rows_eq
  obtain ⟨members, sameMembers, foundIs⟩ :=
    Answer.exists_members_of_arrangedMembers typeFound arranged unfiltered.noNameFilter
      unfiltered.noAttributeFilter name
  have target :
      session.namedTarget modulePath typeName (.text name) = .ok (typeText, name, stamp) := by
    rw [namedTarget, required, requireText_of_trimmed _ trimmed, resolved]
    rfl
  have findingIs := finding_of_present coherent.serves target has.present options
  have answers := laterCoherent.answersFinding apart laterChecked laterHashed
  rw [coherent.finding_eq laterCoherent follows sameGround seesSame] at answers
  change
    Answer.foundMembers typeText name options.caseSensitive (session.visibilityFor options)
      ⟨stamp.path, definition, .ordinary⟩ = _ at foundIs
  rw [foundIs] at findingIs
  rw [findingIs] at answers ⊢
  rw [itemsAre, filter_isNamed]
  cases members with
  | nil =>
      rw [List.perm_nil.mp sameMembers.symm]
      exact looksUp_of_not_found answers
  | cons member rest =>
      refine looksUp_of_found ?_ ((sameMembers.map _).map _) answers
      intro noneNamed
      rw [List.map_eq_nil_iff, List.map_eq_nil_iff] at noneNamed
      rw [noneNamed, List.perm_nil] at sameMembers
      cases sameMembers

/-- Where both views of one finding are handed out, they show the same members in the same order,
and the view with documentation counts the members that have one. -/
theorem AnswersFinding.views_agree
    {laterId : String}
    {finding : Except Failure NameFinding}
    {lookup docs : Envelope}
    (lookupAnswers : session.AnswersFinding requestId noCache .lookup finding lookup)
    (docsAnswers : later.AnswersFinding laterId laterNoCache .documentation finding docs)
    (lookupServed : lookup.isError = false)
    (docsServed : docs.isError = false) :
    lookup.items.map Value.identity = docs.items.map Value.identity ∧
      docs.documented? = some (docs.items.countP Value.isDocumented) := by
  cases lookupAnswers with
  | refused =>
      cases lookupServed
  | @rendered finding _ lookupRenders =>
      cases docsAnswers with
      | rendered docsRenders =>
          rw [lookupRenders.eq_success lookupServed, docsRenders.eq_success docsServed,
            NameFinding.items_data, NameFinding.items_data]
          constructor
          · simp only [NameFinding.items, List.map_map]
            exact List.map_congr_left fun member _ =>
              (MemberDescriptor.identity_documentedMember member).symm
          · rw [NameFinding.documented?_data, NameFinding.items, List.countP_map,
              List.countP_map]
            congr 1
            apply List.countP_congr
            intro member _
            exact iff_of_eq (congrArg (· = true)
              (MemberDescriptor.isDocumented_documentedMember member).symm)

/-- After any run over a registry, looking a member up by name agrees with the whole listing of all
members under options that see the same, and with the documentation of the members with the name.
The lookup does not find anything exactly if no item of the listing has the name, and what it finds
are the items with the name.  Both views, now and later, are answered with the one finding, whatever
the options say about filters, order and pages; where both are handed out they show the same
members.  Data are withheld only as they cannot be written or kept.  Between the calls
the session may go on in any way that leaves the module and the runtime options as they are.  The
digest is taken to tell the key texts of the calls apart. -/
theorem name_lookups_agree_after_run
    {modules : Registry}
    {files : FileTree}
    {runtimeOptions : RuntimeOptions}
    {clock : Binary64}
    {history between : List SessionStep}
    (valid : runtimeOptions.Valid)
    (historyWellTyped : ∀ step ∈ history, step.WellTyped)
    (betweenWellTyped : ∀ step ∈ between, step.WellTyped)
    (checked : FilterOptions.checkOptional given = .ok options)
    (laterChecked : FilterOptions.checkOptional laterGiven = .ok laterOptions)
    (trimmed : Text.Trimmed name.toList) :
    let started := start (.ofStore (.registry modules)) files runtimeOptions clock
    let session := started.run history
    let later := session.run between
    let query (view : NameView) (given : Value) : Query :=
      .named view typeName (.text name) given
    let finding := session.finding modulePath typeName (.text name) options
    session.SameGround later modulePath →
    session.SeesSame options laterOptions →
    (options.Unpositioned →
      options.Unfiltered →
      ∀ (turns : List PageTurn) (requestId : String) (noCache : Bool),
        let visits := turnPages modulePath (.members .all typeName) given session none turns
        let call : QueryCall := ⟨modulePath, query .lookup laterGiven, noCache⟩
        DigestsApart
          (started.hashedTexts (history ++ visits.flatMap PageVisit.steps) ++
            started.hashedTexts (history ++ (between ++ [.ask requestId (.query call)]))) →
        session.TurnsAllPages modulePath (.members .all typeName) given turns →
        later.LooksUp requestId noCache finding
          ((PageVisit.allItems visits).filter (Value.isNamed name options.caseSensitive))
          (later.answerQuery requestId call).1) ∧
    ∀ (view laterView : NameView) (requestId laterId : String) (noCache laterNoCache : Bool),
      let call : QueryCall := ⟨modulePath, query view given, noCache⟩
      let laterCall : QueryCall := ⟨modulePath, query laterView laterGiven, laterNoCache⟩
      let answer := (session.answerQuery requestId call).1
      let laterAnswer := (later.answerQuery laterId laterCall).1
      DigestsApart
        (started.hashedTexts (history ++ [.ask requestId (.query call)]) ++
          started.hashedTexts (history ++ (between ++ [.ask laterId (.query laterCall)]))) →
      session.AnswersFinding requestId noCache view finding answer ∧
        later.AnswersFinding laterId laterNoCache laterView finding laterAnswer ∧
          (view = .lookup →
            laterView = .documentation →
            answer.isError = false →
            laterAnswer.isError = false →
            answer.items.map Value.identity = laterAnswer.items.map Value.identity ∧
              laterAnswer.documented? =
                some (laterAnswer.items.countP Value.isDocumented)) := by
  intro started session later query finding sameGround seesSame
  constructor
  · intro unpositioned unfiltered turns requestId noCache visits call apart turned
    obtain ⟨now, afterwards, follows, coherent, laterCoherent, hashed, laterHashed⟩ :=
      exists_coherent_pair modules files runtimeOptions clock historyWellTyped betweenWellTyped
        (visits.flatMap PageVisit.steps) [.ask requestId (.query call)]
    exact coherent.looksUp laterCoherent follows sameGround seesSame apart
      (valid_run valid history) checked laterChecked unpositioned unfiltered trimmed turned hashed
      fun text member => laterHashed text (List.mem_append_left _ member)
  · intro view laterView requestId laterId noCache laterNoCache call laterCall answer laterAnswer
      apart
    obtain ⟨now, afterwards, follows, coherent, laterCoherent, hashed, laterHashed⟩ :=
      exists_coherent_pair modules files runtimeOptions clock historyWellTyped betweenWellTyped
        [.ask requestId (.query call)] [.ask laterId (.query laterCall)]
    have answers :=
      coherent.answersFinding apart checked
        fun text member => hashed text (List.mem_append_left _ member)
    have laterAnswers :=
      laterCoherent.answersFinding apart laterChecked
        fun text member => laterHashed text (List.mem_append_left _ member)
    rw [coherent.finding_eq laterCoherent follows sameGround seesSame] at laterAnswers
    refine ⟨answers, laterAnswers, ?_⟩
    rintro rfl rfl served laterServed
    exact answers.views_agree laterAnswers served laterServed

/-- A type with one method: its lookup agrees with the listing and with the documentation, also
under options that cut a listing to nothing. -/
theorem name_lookups_agree_of_one_method :
    let type : TypeDefinition := { TypeDefinition.bare "A" with members := [.overload 1 "X" "" ] }
    let session := overModule "lib" ⟨"Lib", "", [type]⟩
    let later := session.run [.advance (.zero false)]
    let visits :=
      turnPages (.text "lib") (.members .all (.text "A")) .null session none [⟨"1", false, []⟩]
    let cut : Value := .map [(.text "name_contains", .text "Z"), (.text "max_items", .int 1)]
    let query (view : NameView) (given : Value) : QueryCall :=
      ⟨.text "lib", .named view (.text "A") (.text "M") given, false⟩
    let lookup := (session.answerQuery "1" (query .lookup .null)).1
    let laterLookup := (later.answerQuery "1" (query .lookup cut)).1
    let docs := (later.answerQuery "1" (query .documentation cut)).1
    laterLookup.items.Perm ((PageVisit.allItems visits).filter (Value.isNamed "M" true)) ∧
      lookup.items.map Value.identity = docs.items.map Value.identity ∧
        docs.documented? = some (docs.items.countP Value.isDocumented) := by
  intro type session later visits cut query lookup laterLookup docs
  have cutChecked :
      FilterOptions.checkOptional cut =
        .ok { FilterOptions.standard with nameContains? := some "Z", maxItems? := some 1 } :=
    rfl
  obtain ⟨ofListing, ofViews⟩ :=
    @name_lookups_agree_after_run (.text "lib") (.text "A") .null cut .standard _ "M"
      (Registry.empty.replace "lib" ⟨"Lib", "", [type]⟩)
      (.empty (.ofText "/work") (.ofText "/home")) .standard (.zero false) []
      [.advance (.zero false)] RuntimeOptions.valid_standard
      (fun _ member => absurd member List.not_mem_nil)
      (List.forall_mem_singleton.mpr trivial) rfl cutChecked
      ⟨⟨'M', [], rfl, rfl⟩, ⟨[], 'M', rfl, rfl⟩⟩ ⟨rfl, rfl⟩ ⟨rfl, rfl⟩
  have listed :
      let answer :=
        (session.answerQuery "1" ⟨.text "lib", .members .all (.text "A") .null, false⟩).1
      answer.isError = false ∧ answer.nextToken? = none := by
    decide +kernel
  have served :
      lookup.isError = false ∧ laterLookup.isError = false ∧ docs.isError = false := by
    decide +kernel
  constructor
  · have apart :
        DigestsApart
          (session.hashedTexts
              [.ask "1" (.query ⟨.text "lib", .members .all (.text "A") .null, false⟩)] ++
            session.hashedTexts
              [.advance (.zero false), .ask "1" (.query (query .lookup cut))]) := by
      apply digestsApart_of_nodup
      decide +kernel
    have visitsAre : visits = _ :=
      @turnPages_of_one_page session (.text "lib") .null (.members .all (.text "A"))
        ⟨"1", false, []⟩ listed.2
    refine (ofListing ⟨rfl, rfl⟩ ⟨rfl, rfl⟩ [⟨"1", false, []⟩] "1" false ?_
      (turnsAllPages_of_one_page (fun _ member => absurd member List.not_mem_nil)
        listed)).items_perm served.2.1
    change
      DigestsApart
        (session.hashedTexts (visits.flatMap PageVisit.steps) ++
          session.hashedTexts [.advance (.zero false), .ask "1" (.query (query .lookup cut))])
    rw [visitsAre]
    exact apart
  · have apart :
        DigestsApart
          (session.hashedTexts [.ask "1" (.query (query .lookup .null))] ++
            session.hashedTexts
              [.advance (.zero false), .ask "1" (.query (query .documentation cut))]) := by
      apply digestsApart_of_nodup
      decide +kernel
    exact
      (ofViews .lookup .documentation "1" "1" false false apart).2.2 rfl rfl served.1 served.2.2

/-- Data of a view by name may be withheld although the other view is handed out or the member is
listed: they cannot be written, or their answer cannot be kept. -/
theorem named_views_withheld_apart :
    let type (member : MemberFact) : TypeDefinition :=
      { TypeDefinition.bare "A" with members := [member] }
    let overload := MemberFact.overload 1 "X" ""
    let unwritten : MemberFact :=
      { overload with
        kind := .field
        isLiteral := true
        constantValue := .map [(.bytes [], .null)] }
    let unwritable := overModule "lib" ⟨"Lib", "", [type unwritten]⟩
    let unkept := overModuleForGood "lib" ⟨"Lib", "", [type overload]⟩
    let answer (session : Session) (view : NameView) : Envelope :=
      (session.answerQuery "1"
        ⟨.text "lib", .named view (.text "A") (.text "M") .null, false⟩).1
    let listing (session : Session) : Envelope :=
      (session.answerQuery "1" ⟨.text "lib", .members .all (.text "A") .null, true⟩).1
    ((answer unwritable .lookup).isError = true ∧
        (answer unwritable .documentation).isError = false) ∧
      (answer unkept .lookup).isError = true ∧
        ((listing unkept).items.filter (Value.isNamed "M" true)).length = 1 := by
  decide +kernel

end Session

end TypeCatalog
