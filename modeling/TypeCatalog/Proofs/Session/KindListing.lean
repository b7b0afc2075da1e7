import TypeCatalog.Proofs.Query.Selection
import TypeCatalog.Proofs.Query.ShownMember
import TypeCatalog.Proofs.Session.WholeListing

namespace TypeCatalog

/-!
# Listing all members and listing one kind

A listing of all members of a type shows how many there are of each kind.  A listing of one kind,
under the same options, has as many rows, and they are the rows of that kind in the other listing.
-/

/-- The natural number that a value is. -/
def Value.nat? : Value → Option Nat
  | .int (.ofNat number) => some number
  | _ => none

/-- The number of members of a kind that an answer shows. -/
def Envelope.countOf?
    (answer : Envelope)
    (kind : MemberKind) : Option Nat :=
  match answer with
  | .success _ data => ((data.field? "counts").bind fun counts => counts.field? kind.word).bind
      Value.nat?
  | .failure _ => none

namespace ListingSubject

/-- The rows of a listing of members are members that were arranged. -/
theorem exists_members_of_rows
    {selection : MemberSelection}
    {name : String}
    {stamp : ModuleStamp}
    {options : ResolvedOptions}
    {opened : OpenModule}
    {rows : List Value}
    (rowsAre : (⟨.members selection name, stamp, options⟩ : ListingSubject).rows opened = .ok rows) :
    ∃ type items,
      opened.type name options.caseSensitive = .ok type ∧
        Answer.arrangedMembers opened type selection options.toFilter options.visibility =
          .ok items ∧
          rows = items.map MemberDescriptor.toValue := by
  obtain ⟨type, found, rendered⟩ := Failure.exists_of_bind_eq_ok rowsAre
  obtain ⟨items, arranged, rfl⟩ := Failure.exists_of_map_eq_ok rendered
  exact ⟨type, items, found, arranged, rfl⟩

/-- A listing of one kind has the rows of that kind in the listing of all members.  The size of a
page is no part of what is arranged. -/
theorem exists_members_of_rows_ofKind
    {kind : MemberKind}
    {name : String}
    {stamp : ModuleStamp}
    {options : ResolvedOptions}
    {take : Nat}
    {opened : OpenModule}
    {allRows kindRows : List Value}
    (allRowsAre :
      (⟨.members .all name, stamp, options⟩ : ListingSubject).rows opened = .ok allRows)
    (kindRowsAre :
      (⟨.members (.ofKind kind) name, stamp, { options with take := take }⟩ :
        ListingSubject).rows opened = .ok kindRows) :
    ∃ items : List MemberDescriptor,
      allRows = items.map MemberDescriptor.toValue ∧
        kindRows =
          (items.filter fun member => member.kind = kind).map MemberDescriptor.toValue := by
  obtain ⟨type, items, found, arranged, rfl⟩ := exists_members_of_rows allRowsAre
  obtain ⟨kindType, kindItems, kindFound, kindArranged, rfl⟩ :=
    exists_members_of_rows kindRowsAre
  cases found.symm.trans kindFound
  cases (Answer.arrangedMembers_ofKind arranged kind).symm.trans kindArranged
  exact ⟨items, rfl, rfl⟩

/-- The fields before a page of a listing of all members count the members of each kind. -/
theorem exists_members_of_answer
    {name : String}
    {stamp : ModuleStamp}
    {options : ResolvedOptions}
    {offset : Nat}
    {opened : OpenModule}
    {data : Value}
    (answered :
      (⟨.members .all name, stamp, options⟩ : ListingSubject).answer offset opened = .ok data) :
    ∃ (type : TypeDefinition) (items : List MemberDescriptor) (page : Page),
      (⟨.members .all name, stamp, options⟩ : ListingSubject).rows opened =
          .ok (items.map MemberDescriptor.toValue) ∧
        data =
          .record
            ([("module", .text opened.name), ("module_path", .text stamp.path),
              ("type_name", .text type.fullName)] ++
              Answer.countFields .all items ++ page.toFields) := by
  obtain ⟨type, found, answered⟩ := Failure.exists_of_bind_eq_ok answered
  obtain ⟨items, arranged, answered⟩ := Failure.exists_of_bind_eq_ok answered
  obtain ⟨page, _, answered⟩ := Failure.exists_of_bind_eq_ok answered
  cases answered
  refine ⟨type, items, page, ?_, rfl⟩
  change (opened.type name options.caseSensitive >>= _) = _
  rw [show opened.type name options.caseSensitive = .ok type from found]
  change Except.map _ (Answer.arrangedMembers _ _ _ _ _) = _
  rw [arranged]
  rfl

end ListingSubject

/-- An answer with a page of all members counts the members of each kind among the rows. -/
theorem QuerySubject.exists_counts_of_envelope
    {name : String}
    {stamp : ModuleStamp}
    {options : ResolvedOptions}
    {offset : Nat}
    {definition : ModuleDefinition}
    {envelope : Envelope}
    (answered :
      (QuerySubject.page ⟨.members .all name, stamp, options⟩ offset).envelope definition =
        .ok envelope) :
    ∃ items : List MemberDescriptor,
      (⟨.members .all name, stamp, options⟩ : ListingSubject).rows
          ⟨stamp.path, definition, .ordinary⟩ = .ok (items.map MemberDescriptor.toValue) ∧
        ∀ kind, envelope.countOf? kind = some (items.countP fun member => member.kind = kind) := by
  obtain ⟨data, computed, enveloped⟩ := Failure.exists_of_bind_eq_ok answered
  obtain ⟨type, items, page, rowsAre, rfl⟩ := ListingSubject.exists_members_of_answer computed
  refine ⟨items, rowsAre, fun kind => ?_⟩
  have heads := ListingSubject.headsPage_members definition.name stamp.path type.fullName .all items
  rw [Session.eq_success_of_envelopeOf enveloped]
  change Envelope.countOf? (.success _ (Json.settled (.record
    ([("module", Value.text definition.name), ("module_path", .text stamp.path),
      ("type_name", .text type.fullName)] ++ Answer.countFields .all items ++ page.toFields))))
    kind = _
  rw [heads.settled_eq page, Envelope.countOf?, Value.field?_record]
  cases kind <;> rfl

namespace Session

variable {session later : Session} {modules laterModules : Registry} {texts : List String}
  {modulePath typeName given : Value} {options : FilterOptions} {requestId : String}
  {noCache : Bool}

/-- A listing of members is of the type with the trimmed name, in the module that is meant, under
the options as the session resolves them. -/
theorem exists_name_of_listing
    {selection : MemberSelection}
    {listing : ListingSubject}
    (meant : session.listing modulePath (.members selection typeName) options = .ok listing) :
    ∃ name stamp,
      requireText "type_name" typeName = .ok name ∧
        session.resolveModule modulePath = .ok stamp ∧
          listing =
            ⟨.members selection name, stamp,
              session.resolvedOptions (.members selection) options⟩ := by
  obtain ⟨scope, scopeIs, meant⟩ := Failure.exists_of_bind_eq_ok meant
  obtain ⟨stamp, resolved, meant⟩ := Failure.exists_of_bind_eq_ok meant
  obtain ⟨name, required, rfl⟩ := Failure.exists_of_map_eq_ok scopeIs
  cases meant
  exact ⟨name, stamp, required, resolved, rfl⟩

/-- The rows of a listing of one kind are the rows of that kind in the listing of all members. -/
theorem HasRows.exists_members_ofKind
    {kind : MemberKind}
    {allListing kindListing : ListingSubject}
    {definition laterDefinition : ModuleDefinition}
    {allRows kindRows : List Value}
    (allHas :
      session.HasRows modules modulePath (.members .all typeName) options allListing definition
        allRows)
    (kindHas :
      later.HasRows laterModules modulePath (.members (.ofKind kind) typeName) options kindListing
        laterDefinition kindRows)
    (follows : laterModules.Follows modules)
    (sameGround : session.SameGround later modulePath) :
    ∃ items : List MemberDescriptor,
      allRows = items.map MemberDescriptor.toValue ∧
        kindRows =
          (items.filter fun member => member.kind = kind).map MemberDescriptor.toValue := by
  obtain ⟨name, stamp, required, resolved, rfl⟩ := exists_name_of_listing allHas.meant
  obtain ⟨kindName, kindStamp, kindRequired, kindResolved, rfl⟩ :=
    exists_name_of_listing kindHas.meant
  cases required.symm.trans kindRequired
  cases resolved.symm.trans (sameGround.stamp_eq.symm.trans kindResolved)
  cases allHas.definition_eq kindHas follows rfl
  have resolvedSame :
      later.resolvedOptions (.members (.ofKind kind)) options =
        { session.resolvedOptions (.members .all) options with
          take := later.takeFor (.members (.ofKind kind)) options } := by
    simp only [resolvedOptions, ResolvedOptions.resolve, visibilityFor, sameGround.options_eq]
  have kindRowsAre := kindHas.rows_eq
  rw [resolvedSame] at kindRowsAre
  exact ListingSubject.exists_members_of_rows_ofKind allHas.rows_eq kindRowsAre

namespace Coherent

/-- A page of all members that is answered without an error counts the members of each kind. -/
theorem exists_counts
    (coherent : session.Coherent modules texts)
    (apart : DigestsApart texts)
    (checked : FilterOptions.checkOptional given = .ok options)
    (hashed :
      ∀ text ∈ session.textsOfStep
        (.ask requestId (.query ⟨modulePath, .members .all typeName given, noCache⟩)),
        text ∈ texts)
    (noError :
      (session.answerQuery requestId
        ⟨modulePath, .members .all typeName given, noCache⟩).1.isError = false) :
    ∃ (listing : ListingSubject) (definition : ModuleDefinition) (items : List MemberDescriptor),
      session.HasRows modules modulePath (.members .all typeName) options listing definition
          (items.map MemberDescriptor.toValue) ∧
        ∀ kind,
          (session.answerQuery requestId
              ⟨modulePath, .members .all typeName given, noCache⟩).1.countOf? kind =
            some (items.countP fun member => member.kind = kind) := by
  let form : ListingForm := .members .all typeName
  obtain ⟨listing, offset, meant, starts⟩ :=
    @exists_start_of_answerQuery session modulePath given form options requestId noCache checked
      noError
  have found := subject_of_listing checked meant starts
  have wellTyped := wellTyped_listing form given
  obtain ⟨definition, present, fingerprintSame, enveloped⟩ :=
    @envelope_of_answerQuery session modules texts ⟨modulePath, form.query given, noCache⟩ _
      requestId coherent apart wellTyped found
      (hashed _ (keyText_mem_textsOfStep wellTyped found requestId)) noError
  obtain ⟨name, stamp, _, _, rfl⟩ := exists_name_of_listing meant
  obtain ⟨items, rowsAre, counted⟩ := QuerySubject.exists_counts_of_envelope enveloped
  exact ⟨_, definition, items, ⟨meant, present, fingerprintSame, rowsAre⟩, counted⟩

/-- Pages of all members and of the members of one kind agree in their totals. -/
theorem totals_agree
    {kind : MemberKind}
    {laterId : String}
    {laterNoCache : Bool}
    (coherent : session.Coherent modules texts)
    (laterCoherent : later.Coherent laterModules texts)
    (follows : laterModules.Follows modules)
    (sameGround : session.SameGround later modulePath)
    (apart : DigestsApart texts)
    (checked : FilterOptions.checkOptional given = .ok options)
    (hashed :
      ∀ text ∈ session.textsOfStep
        (.ask requestId (.query ⟨modulePath, .members .all typeName given, noCache⟩)),
        text ∈ texts)
    (laterHashed :
      ∀ text ∈ later.textsOfStep
        (.ask laterId
          (.query ⟨modulePath, .members (.ofKind kind) typeName given, laterNoCache⟩)),
        text ∈ texts) :
    let all :=
      (session.answerQuery requestId ⟨modulePath, .members .all typeName given, noCache⟩).1
    let ofKind :=
      (later.answerQuery laterId
        ⟨modulePath, .members (.ofKind kind) typeName given, laterNoCache⟩).1
    all.isError = false →
      ofKind.isError = false →
        ∃ allPage kindPage,
          all.page? = some allPage ∧
            ofKind.page? = some kindPage ∧
              all.countOf? kind = some kindPage.total ∧
                (MemberKind.all.mapM all.countOf?).map List.sum = some allPage.total := by
  intro all ofKind allServed kindServed
  obtain ⟨_, _, items, allHas, counted⟩ :=
    coherent.exists_counts apart checked hashed allServed
  obtain ⟨_, _, _, allPage, allHasRows, allShown, allTotal⟩ :=
    @exists_total session modules texts modulePath given (.members .all typeName) options requestId
      noCache coherent apart checked hashed allServed
  obtain ⟨_, _, _, kindPage, kindHas, kindShown, kindTotal⟩ :=
    @exists_total later laterModules texts modulePath given (.members (.ofKind kind) typeName)
      options laterId laterNoCache laterCoherent apart checked laterHashed kindServed
  cases allHasRows.rows_unique allHas
  obtain ⟨members, rowsAre, rfl⟩ := allHas.exists_members_ofKind kindHas follows sameGround
  refine ⟨allPage, kindPage, allShown, kindShown, ?_, ?_⟩
  · have sameCount :
        (items.countP fun member => member.kind = kind) =
          members.countP fun member => member.kind = kind := by
      rw [← MemberDescriptor.countP_isOfKind, rowsAre, MemberDescriptor.countP_isOfKind]
    rw [kindTotal, List.length_map, ← List.countP_eq_length_filter, ← sameCount]
    exact counted kind
  · have countsAre :
        all.countOf? = fun kind => some (items.countP fun member => member.kind = kind) :=
      funext counted
    rw [allTotal, List.length_map, ← MemberDescriptor.sum_countP_kind, countsAre]
    rfl

/-- All pages of the members of one kind have the items of that kind from all pages of all
members. -/
theorem items_agree
    {kind : MemberKind}
    {turns laterTurns : List PageTurn}
    (coherent : session.Coherent modules texts)
    (laterCoherent : later.Coherent laterModules texts)
    (follows : laterModules.Follows modules)
    (sameGround : session.SameGround later modulePath)
    (apart : DigestsApart texts)
    (valid : session.options.Valid)
    (checked : FilterOptions.checkOptional given = .ok options)
    (unpositioned : options.Unpositioned)
    (turned : session.TurnsAllPages modulePath (.members .all typeName) given turns)
    (laterTurned :
      later.TurnsAllPages modulePath (.members (.ofKind kind) typeName) given laterTurns)
    (hashed :
      ∀ text ∈ session.hashedTexts
        ((turnPages modulePath (.members .all typeName) given session none turns).flatMap
          PageVisit.steps),
        text ∈ texts)
    (laterHashed :
      ∀ text ∈ later.hashedTexts
        ((turnPages modulePath (.members (.ofKind kind) typeName) given later none
          laterTurns).flatMap PageVisit.steps),
        text ∈ texts) :
    (PageVisit.allItems
        (turnPages modulePath (.members .all typeName) given session none turns)).filter
          (Value.isOfKind kind) =
      PageVisit.allItems
        (turnPages modulePath (.members (.ofKind kind) typeName) given later none
          laterTurns) := by
  have laterValid : later.options.Valid := sameGround.options_eq ▸ valid
  obtain ⟨_, _, _, allHas, allItems⟩ :=
    coherent.exists_rows_of_turnsAllPages apart valid checked unpositioned turned hashed
  obtain ⟨_, _, _, kindHas, kindItems⟩ :=
    laterCoherent.exists_rows_of_turnsAllPages apart laterValid checked unpositioned laterTurned
      laterHashed
  obtain ⟨members, rfl, rfl⟩ := allHas.exists_members_ofKind kindHas follows sameGround
  rw [allItems, kindItems, List.map_map, List.map_map, List.filter_map]
  congr 1
  apply List.filter_congr
  intro member _
  exact MemberDescriptor.isOfKind_settled_toValue kind member

end Coherent

/-- After any run over a registry, a listing of all members counts the members of a kind as many as
a listing of that kind has in all, and its counts add up to its own total.  Whoever turns all pages
of both gets from the listing of one kind the items of that kind in the other, in their order.
Between the two the session may go on in any way that leaves the module and the runtime options as
they are.  The digest is taken to tell the key texts of the calls apart. -/
theorem kind_listings_agree_after_run
    {modules : Registry}
    {files : FileTree}
    {runtimeOptions : RuntimeOptions}
    {clock : Binary64}
    {history between : List SessionStep}
    {modulePath typeName given : Value}
    {options : FilterOptions}
    (valid : runtimeOptions.Valid)
    (historyWellTyped : ∀ step ∈ history, step.WellTyped)
    (betweenWellTyped : ∀ step ∈ between, step.WellTyped)
    (checked : FilterOptions.checkOptional given = .ok options)
    (kind : MemberKind) :
    let started := start (.ofStore (.registry modules)) files runtimeOptions clock
    let session := started.run history
    let later := session.run between
    let all : ListingForm := .members .all typeName
    let ofKind : ListingForm := .members (.ofKind kind) typeName
    session.SameGround later modulePath →
    (∀ (allId kindId : String) (allNoCache kindNoCache : Bool),
      let allCall : QueryCall := ⟨modulePath, all.query given, allNoCache⟩
      let kindCall : QueryCall := ⟨modulePath, ofKind.query given, kindNoCache⟩
      let allAnswer := (session.answerQuery allId allCall).1
      let kindAnswer := (later.answerQuery kindId kindCall).1
      DigestsApart
        (started.hashedTexts (history ++ [.ask allId (.query allCall)]) ++
          started.hashedTexts (history ++ (between ++ [.ask kindId (.query kindCall)]))) →
      allAnswer.isError = false →
      kindAnswer.isError = false →
      ∃ allPage kindPage,
        allAnswer.page? = some allPage ∧
          kindAnswer.page? = some kindPage ∧
            allAnswer.countOf? kind = some kindPage.total ∧
              (MemberKind.all.mapM allAnswer.countOf?).map List.sum = some allPage.total) ∧
    (options.Unpositioned →
      ∀ allTurns kindTurns : List PageTurn,
        let allVisits := turnPages modulePath all given session none allTurns
        let kindVisits := turnPages modulePath ofKind given later none kindTurns
        DigestsApart
          (started.hashedTexts (history ++ allVisits.flatMap PageVisit.steps) ++
            started.hashedTexts
              (history ++ (between ++ kindVisits.flatMap PageVisit.steps))) →
        session.TurnsAllPages modulePath all given allTurns →
        later.TurnsAllPages modulePath ofKind given kindTurns →
        (PageVisit.allItems allVisits).filter (Value.isOfKind kind) =
          PageVisit.allItems kindVisits) := by
  intro started session later all ofKind sameGround
  constructor
  · intro allId kindId allNoCache kindNoCache allCall kindCall allAnswer kindAnswer apart
    obtain ⟨now, afterwards, follows, coherent, laterCoherent, hashed, laterHashed⟩ :=
      exists_coherent_pair modules files runtimeOptions clock historyWellTyped betweenWellTyped
        [.ask allId (.query allCall)] [.ask kindId (.query kindCall)]
    exact coherent.totals_agree laterCoherent follows sameGround apart checked
      (fun text member => hashed text (List.mem_append_left _ member))
      fun text member => laterHashed text (List.mem_append_left _ member)
  · intro unpositioned allTurns kindTurns allVisits kindVisits apart allTurned kindTurned
    obtain ⟨now, afterwards, follows, coherent, laterCoherent, hashed, laterHashed⟩ :=
      exists_coherent_pair modules files runtimeOptions clock historyWellTyped betweenWellTyped
        (allVisits.flatMap PageVisit.steps) (kindVisits.flatMap PageVisit.steps)
    exact coherent.items_agree laterCoherent follows sameGround apart (valid_run valid history)
      checked unpositioned allTurned kindTurned hashed laterHashed

/-- A type with one method: its methods are listed after all its members. -/
theorem kind_listings_agree_of_one_method :
    let type : TypeDefinition := { TypeDefinition.bare "A" with members := [.overload 1 "X" "" ] }
    let session := overModule "lib" ⟨"Lib", "", [type]⟩
    let later := session.run [.advance (.zero false)]
    let turn : PageTurn := ⟨"1", false, []⟩
    let all := turnPages (.text "lib") (.members .all (.text "A")) .null session none [turn]
    let methods :=
      turnPages (.text "lib") (.members (.ofKind .method) (.text "A")) .null later none [turn]
    (PageVisit.allItems all).filter (Value.isOfKind .method) = PageVisit.allItems methods ∧
      ∃ allPage methodPage,
        (session.answerQuery "1"
            ⟨.text "lib", .members .all (.text "A") .null, false⟩).1.page? = some allPage ∧
          (later.answerQuery "1"
              ⟨.text "lib", .members (.ofKind .method) (.text "A") .null, false⟩).1.page? =
            some methodPage ∧
            (session.answerQuery "1"
                ⟨.text "lib", .members .all (.text "A") .null, false⟩).1.countOf? .method =
              some methodPage.total := by
  intro type session later turn all methods
  obtain ⟨totals, items⟩ :=
    @kind_listings_agree_after_run
      (Registry.empty.replace "lib" ⟨"Lib", "", [type]⟩)
      (.empty (.ofText "/work") (.ofText "/home")) .standard (.zero false) []
      [.advance (.zero false)] (.text "lib") (.text "A") .null _ RuntimeOptions.valid_standard
      (fun _ member => absurd member List.not_mem_nil)
      (List.forall_mem_singleton.mpr trivial) rfl .method ⟨rfl, rfl⟩
  have allServed :
      let answer :=
        (session.answerQuery "1" ⟨.text "lib", .members .all (.text "A") .null, false⟩).1
      answer.isError = false ∧ answer.nextToken? = none := by
    decide +kernel
  have methodsServed :
      let answer :=
        (later.answerQuery "1"
          ⟨.text "lib", .members (.ofKind .method) (.text "A") .null, false⟩).1
      answer.isError = false ∧ answer.nextToken? = none := by
    decide +kernel
  have apart :
      DigestsApart
        (session.hashedTexts
            [.ask "1" (.query ⟨.text "lib", .members .all (.text "A") .null, false⟩)] ++
          session.hashedTexts
            [.advance (.zero false),
              .ask "1"
                (.query ⟨.text "lib", .members (.ofKind .method) (.text "A") .null, false⟩)]) := by
    apply digestsApart_of_nodup
    decide +kernel
  constructor
  · refine items ⟨rfl, rfl⟩ [turn] [turn] ?_
      (turnsAllPages_of_one_page (fun _ member => absurd member List.not_mem_nil) allServed)
      (turnsAllPages_of_one_page (fun _ member => absurd member List.not_mem_nil) methodsServed)
    rw [turnPages_of_one_page allServed.2, turnPages_of_one_page methodsServed.2]
    exact apart
  · obtain ⟨allPage, methodPage, allShown, methodShown, counted, _⟩ :=
      totals "1" "1" false false apart allServed.1 methodsServed.1
    exact ⟨allPage, methodPage, allShown, methodShown, counted⟩

end Session

end TypeCatalog
