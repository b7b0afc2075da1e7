import TypeCatalog.Proofs.Query.ListedType
import TypeCatalog.Proofs.Session.NameLookup

namespace TypeCatalog

/-!
# Looking listed types up

Where full names tell the types of a module apart, every view under the full name of a listed type
is of that type.  Such a view is never refused for its name: its data are handed out, or they cannot
be made, written or kept.
-/

/-- The code of the error that an answer carries. -/
def Envelope.code? : Envelope → Option ErrorCode
  | .success .. => none
  | .failure error => some error.code

namespace Session

/-- The module that a path means in a session. -/
structure Opens
    (session : Session)
    (modulePath : Value)
    (stamp : ModuleStamp)
    (definition : ModuleDefinition) : Prop where
  resolved : session.resolveModule modulePath = .ok stamp
  present :
    session.source.module? session.files stamp.path = .ok (some (stamp.path, definition))

/-- Data that have no text are withheld as an unforeseen failure. -/
theorem Renders.code?_of_unwritable
    {session : Session}
    {requestId : String}
    {noCache : Bool}
    {kind : OperationKind}
    {data : Value}
    {answer : Envelope}
    {crash : Crash}
    (renders : session.Renders requestId noCache kind data answer)
    (unwritable : Json.unwritable? data = some crash) :
    answer.code? = some .internalError := by
  have notMade : envelopeOf kind.word data = .error (.crashed crash) := by
    rw [envelopeOf, unwritable]
  cases renders with
  | handedOut enveloped =>
      cases notMade.symm.trans enveloped
  | unwritten refused =>
      cases notMade.symm.trans refused
      rfl
  | unkept _ unusable =>
      obtain ⟨_, rfl⟩ := exists_crash_of_lifetime unusable
      rfl

/-- What a view of a type of a module is answered with.  Only a hierarchy fails before there are
data, if a base type that it shows cannot be described. -/
inductive AnswersView
    (session : Session)
    (requestId : String)
    (noCache : Bool)
    (view : TypeView)
    (path : String)
    (definition : ModuleDefinition)
    (type : TypeDefinition) : Envelope → Prop where
  | rendered {answer : Envelope} :
      (view = .hierarchy → Answer.baseFault? definition type = none) →
      session.Renders requestId noCache (.type view) (Answer.viewData view path definition type)
        answer →
      AnswersView session requestId noCache view path definition type answer
  | baseless {crash : Crash} :
      view = .hierarchy →
      Answer.baseFault? definition type = some crash →
      AnswersView session requestId noCache view path definition type
        (conclude requestId (.error (.crashed crash)))

namespace AnswersView

variable {session : Session} {requestId path : String} {noCache : Bool} {view : TypeView}
  {definition : ModuleDefinition} {type : TypeDefinition} {answer : Envelope}

/-- A view that is handed out shows the type as it is listed. -/
theorem showsListed
    (answers : session.AnswersView requestId noCache view path definition type answer)
    (served : answer.isError = false) :
    answer.ShowsListed view
      (Json.settled (TypeDescriptor.describe definition.name type).toOwnValue) := by
  cases answers with
  | rendered _ renders =>
      rw [renders.eq_success served]
      exact Answer.showsListed_viewData view _
  | baseless isHierarchy undescribed =>
      cases served

/-- A view is withheld with one of two errors. -/
theorem code_of_failure
    {error : ReportedError}
    (answers : session.AnswersView requestId noCache view path definition type answer)
    (failed : answer = .failure error) :
    error.code = .responseTooLarge ∨ error.code = .internalError := by
  cases answers with
  | rendered _ renders =>
      exact renders.code_of_failure failed
  | baseless isHierarchy undescribed =>
      cases failed
      exact .inr rfl

/-- A view whose data have no text is withheld as an unforeseen failure. -/
theorem code?_of_unwritable
    {crash : Crash}
    (answers : session.AnswersView requestId noCache view path definition type answer)
    (unwritable : Json.unwritable? (Answer.viewData view path definition type) = some crash) :
    answer.code? = some .internalError := by
  cases answers with
  | rendered _ renders =>
      exact renders.code?_of_unwritable unwritable
  | baseless isHierarchy undescribed =>
      rfl

/-- A hierarchy with a base type that cannot be described fails. -/
theorem code?_of_baseFault
    {crash : Crash}
    (answers : session.AnswersView requestId noCache .hierarchy path definition type answer)
    (undescribed : Answer.baseFault? definition type = some crash) :
    answer.code? = some .internalError := by
  cases answers with
  | rendered describable _ =>
      cases undescribed.symm.trans (describable rfl)
  | baseless _ _ =>
      rfl

end AnswersView

variable {session later : Session} {modules laterModules : Registry} {texts : List String}
  {modulePath given : Value} {options : FilterOptions} {stamp : ModuleStamp}
  {definition : ModuleDefinition} {type : TypeDefinition} {view : TypeView} {requestId : String}
  {noCache : Bool}

/-- A module that is opened is in the registry. -/
theorem Opens.module?_eq
    (opens : session.Opens modulePath stamp definition)
    (serves : session.source.Serves modules) :
    modules.module? stamp.path = some definition := by
  have present := opens.present
  rw [ModuleSource.module?, serves.store_eq] at present
  obtain ⟨other, inRegistry, same⟩ := Option.map_eq_some_iff.mp (Except.ok.inj present)
  cases same
  exact inRegistry

/-- What is opened later, while the module stays as it is, is the same module. -/
theorem Opens.later_module?_eq
    (opens : session.Opens modulePath stamp definition)
    (serves : session.source.Serves modules)
    (laterServes : later.source.Serves laterModules)
    (follows : laterModules.Follows modules)
    (sameGround : session.SameGround later modulePath) :
    laterModules.module? stamp.path = some definition := by
  obtain ⟨_, fingerprintSame⟩ := module_of_resolveModule serves opens.resolved
  obtain ⟨⟨laterDefinition, laterPresent⟩, laterFingerprintSame⟩ :=
    module_of_resolveModule laterServes (sameGround.stamp_eq.trans opens.resolved)
  cases follows.module?_eq_of_fingerprint_eq
    (laterFingerprintSame.symm.trans fingerprintSame) laterPresent (opens.module?_eq serves)
  exact laterPresent

/-- The items of a whole listing of types are types of the module, which can be described. -/
theorem Coherent.exists_types_of_turnsAllPages
    {turns : List PageTurn}
    (coherent : session.Coherent modules texts)
    (apart : DigestsApart texts)
    (valid : session.options.Valid)
    (checked : FilterOptions.checkOptional given = .ok options)
    (unpositioned : options.Unpositioned)
    (turned : session.TurnsAllPages modulePath .types given turns)
    (hashed :
      ∀ text ∈ session.hashedTexts
        ((turnPages modulePath .types given session none turns).flatMap PageVisit.steps),
        text ∈ texts) :
    ∃ stamp definition,
      session.Opens modulePath stamp definition ∧
        ∀ item ∈ PageVisit.allItems (turnPages modulePath .types given session none turns),
          ∃ type ∈ definition.allTypes,
            type.describeFault? = none ∧
              item = Json.settled (TypeDescriptor.describe definition.name type).toOwnValue := by
  obtain ⟨listing, definition, rows, has, itemsAre⟩ :=
    coherent.exists_rows_of_turnsAllPages apart valid checked unpositioned turned hashed
  obtain ⟨_, scopeIs, meant⟩ := Failure.exists_of_bind_eq_ok has.meant
  cases scopeIs
  obtain ⟨stamp, resolved, listingIs⟩ := Failure.exists_of_bind_eq_ok meant
  cases listingIs
  refine ⟨stamp, definition, ⟨resolved, ?_⟩, ?_⟩
  · rw [ModuleSource.module?, coherent.serves.store_eq]
    exact congrArg (fun found => Except.ok (found.map fun definition => (stamp.path, definition)))
      has.present
  · intro item member
    obtain ⟨items, arranged, rfl⟩ := Failure.exists_of_map_eq_ok has.rows_eq
    rw [itemsAre] at member
    obtain ⟨_, inRows, rfl⟩ := List.mem_map.mp member
    obtain ⟨descriptor, inItems, rfl⟩ := List.mem_map.mp inRows
    obtain ⟨type, isType, rfl, describable⟩ :=
      Answer.exists_type_of_arrangedTypes arranged inItems
    exact ⟨type, isType, describable, rfl⟩

/-- A view under the full name of a type that can be described is of that type. -/
theorem Coherent.answersView
    (coherent : session.Coherent modules texts)
    (apart : DigestsApart texts)
    (resolved : session.resolveModule modulePath = .ok stamp)
    (present : modules.module? stamp.path = some definition)
    (named : definition.Named)
    (member : type ∈ definition.allTypes)
    (describable : type.describeFault? = none)
    (hashed :
      ∀ text ∈ session.textsOfStep
        (.ask requestId
          (.query ⟨modulePath, .type view (.text type.fullName) (.bool true), noCache⟩)),
        text ∈ texts) :
    session.AnswersView requestId noCache view stamp.path definition type
      (session.answerQuery requestId
        ⟨modulePath, .type view (.text type.fullName) (.bool true), noCache⟩).1 := by
  have wellTyped : (Query.type view (.text type.fullName) (.bool true)).WellTyped := ⟨true, rfl⟩
  have meant :
      session.subject modulePath (.type view (.text type.fullName) (.bool true)) =
        .ok (.type view stamp type.fullName true) := by
    change session.typeSubject modulePath view (.text type.fullName) (.bool true) = _
    rw [typeSubject, requireText_of_trimmed _ (named.trimmed type member), resolved]
    rfl
  obtain ⟨other, presentNow, _, outcome⟩ :=
    @Coherent.exists_outcome session modules texts
      ⟨modulePath, .type view (.text type.fullName) (.bool true), noCache⟩ _ coherent apart
      wellTyped meant (hashed _ (keyText_mem_textsOfStep wellTyped meant requestId)) requestId
  cases present.symm.trans presentNow
  have answerIs :
      QuerySubject.answer (.type view stamp type.fullName true)
          ⟨stamp.path, definition, .ordinary⟩ =
        (Failure.unlessCrash (Answer.viewFault? view definition.allTypes type)).map fun _ =>
          Answer.viewData view stamp.path definition type :=
    Answer.typeView_fullName named member view
  rw [Answer.viewFault?_of_describable describable view] at answerIs
  rcases outcome with ⟨failure, computed, answered⟩ | ⟨data, computed, renders⟩
  · have refused := answerIs.symm.trans computed
    cases view with
    | hierarchy =>
        cases fault : Answer.baseFault? definition type with
        | none =>
            rw [fault] at refused
            cases refused
        | some crash =>
            rw [fault] at refused
            cases refused
            rw [answered]
            exact .baseless rfl fault
    | info | generics | attributes | nested | documentation =>
        cases refused
  · obtain ⟨_, passed, rfl⟩ := Failure.exists_of_map_eq_ok (answerIs.symm.trans computed)
    refine .rendered ?_ renders
    rintro rfl
    exact Failure.eq_none_of_unlessCrash passed

/-- After any run over a registry, if full names tell the types of the module apart, then every item
of a whole listing of types under any options is a type of the module, and every view under its full
name is of that type: handed out, it shows the type as it is listed.  A view is withheld only as its
data cannot be made, written or kept, and never because there is no such type.  Between the calls
the session may go on in any way that leaves the module and the runtime options as they are.  The
digest is taken to tell the key texts of the calls apart. -/
theorem listed_types_found_after_run
    {modules : Registry}
    {files : FileTree}
    {runtimeOptions : RuntimeOptions}
    {clock : Binary64}
    {history between : List SessionStep}
    {turns : List PageTurn}
    (valid : runtimeOptions.Valid)
    (historyWellTyped : ∀ step ∈ history, step.WellTyped)
    (betweenWellTyped : ∀ step ∈ between, step.WellTyped)
    (checked : FilterOptions.checkOptional given = .ok options)
    (unpositioned : options.Unpositioned) :
    let started := start (.ofStore (.registry modules)) files runtimeOptions clock
    let session := started.run history
    let later := session.run between
    let visits := turnPages modulePath .types given session none turns
    let walked := started.hashedTexts (history ++ visits.flatMap PageVisit.steps)
    session.SameGround later modulePath →
    session.TurnsAllPages modulePath .types given turns →
    DigestsApart walked →
    ∃ stamp definition,
      session.Opens modulePath stamp definition ∧
        (definition.Named →
          ∀ item ∈ PageVisit.allItems visits,
            ∃ type ∈ definition.allTypes,
              item = Json.settled (TypeDescriptor.describe definition.name type).toOwnValue ∧
                item.field? "full_name" = some (.text type.fullName) ∧
                  ∀ (view : TypeView) (requestId : String) (noCache : Bool),
                    let call : QueryCall :=
                      ⟨modulePath, .type view (.text type.fullName) (.bool true), noCache⟩
                    let answer := (later.answerQuery requestId call).1
                    DigestsApart
                      (walked ++
                        started.hashedTexts
                          (history ++ (between ++ [.ask requestId (.query call)]))) →
                    later.AnswersView requestId noCache view stamp.path definition type answer ∧
                      (answer.isError = false → answer.ShowsListed view item) ∧
                        ∀ error, answer = .failure error →
                          error.code = .responseTooLarge ∨ error.code = .internalError) := by
  intro started session later visits walked sameGround turned apart
  obtain ⟨now, coherent, hashed⟩ :=
    exists_coherent_run modules files runtimeOptions clock historyWellTyped
      (visits.flatMap PageVisit.steps)
  obtain ⟨stamp, definition, opens, itemsAre⟩ :=
    coherent.exists_types_of_turnsAllPages apart (valid_run valid history) checked unpositioned
      turned hashed
  refine ⟨stamp, definition, opens, ?_⟩
  intro named item member
  obtain ⟨type, isType, describable, rfl⟩ := itemsAre item member
  refine ⟨type, isType, rfl, ?_, ?_⟩
  · rw [TypeDescriptor.field?_settled_toOwnValue, ← TypeDescriptor.fullName_describe]
    rfl
  · intro view requestId noCache call answer allApart
    obtain ⟨earlier, afterwards, follows, earlierCoherent, laterCoherent, _, hashed⟩ :=
      exists_coherent_pair modules files runtimeOptions clock historyWellTyped betweenWellTyped
        (visits.flatMap PageVisit.steps) [.ask requestId (.query call)]
    have answers :=
      laterCoherent.answersView allApart (sameGround.stamp_eq.trans opens.resolved)
        (opens.later_module?_eq earlierCoherent.serves laterCoherent.serves follows sameGround)
        named isType describable
        fun text member => hashed text (List.mem_append_left _ member)
    exact ⟨answers, answers.showsListed, fun _ => answers.code_of_failure⟩

/-- A module with one class: the class is listed, and it is shown as it is listed. -/
theorem listed_types_found_of_one_class :
    let definition : ModuleDefinition := ⟨"Lib", "", [{ TypeDefinition.bare "A" with token := 1 }]⟩
    let session := overModule "lib" definition
    let later := session.run [.advance (.zero false)]
    let visits := turnPages (.text "lib") .types .null session none [⟨"1", false, []⟩]
    let info :=
      (later.answerQuery "1"
        ⟨.text "lib", .type .info (.text "A") (.bool true), false⟩).1
    (PageVisit.allItems visits).length = 1 ∧
      ∀ item ∈ PageVisit.allItems visits, info.ShowsListed .info item := by
  intro definition session later visits info
  have listed :
      let answer := (session.answerQuery "1" ⟨.text "lib", .types .null, false⟩).1
      answer.isError = false ∧ answer.nextToken? = none ∧ answer.items.length = 1 := by
    decide +kernel
  have served : info.isError = false := by
    decide +kernel
  have visitsAre : visits = _ :=
    @turnPages_of_one_page session (.text "lib") .null .types ⟨"1", false, []⟩ listed.2.1
  have apart :
      DigestsApart
        (session.hashedTexts [.ask "1" (.query ⟨.text "lib", .types .null, false⟩)] ++
          session.hashedTexts
            [.advance (.zero false),
              .ask "1"
                (.query ⟨.text "lib", .type .info (.text "A") (.bool true), false⟩)]) := by
    apply digestsApart_of_nodup
    decide +kernel
  have walkedApart :
      DigestsApart (session.hashedTexts (visits.flatMap PageVisit.steps)) := by
    rw [visitsAre]
    intro first firstHashed second secondHashed
    exact apart first (List.mem_append_left _ firstHashed) second
      (List.mem_append_left _ secondHashed)
  obtain ⟨stamp, opened, opens, found⟩ :=
    @listed_types_found_after_run (.text "lib") .null .standard
      (Registry.empty.replace "lib" definition) (.empty (.ofText "/work") (.ofText "/home"))
      .standard (.zero false) [] [.advance (.zero false)] [⟨"1", false, []⟩]
      RuntimeOptions.valid_standard (fun _ member => absurd member List.not_mem_nil)
      (List.forall_mem_singleton.mpr trivial) rfl ⟨rfl, rfl⟩ ⟨rfl, rfl⟩
      (turnsAllPages_of_one_page (fun _ member => absurd member List.not_mem_nil)
        ⟨listed.1, listed.2.1⟩) walkedApart
  have resolved : session.resolveModule (.text "lib") = .ok ⟨"lib", "rev-1"⟩ :=
    Failure.eq_ok_of_toOption_eq_some (by decide +kernel)
  cases resolved.symm.trans opens.resolved
  cases @Opens.module?_eq session (Registry.empty.replace "lib" definition) _ _ _ opens ⟨rfl, rfl⟩
  have named : definition.Named := by
    constructor
    · exact List.nodup_singleton _
    · exact List.forall_mem_singleton.mpr ⟨⟨'A', [], rfl, rfl⟩, ⟨[], 'A', rfl, rfl⟩⟩
  constructor
  · rw [visitsAre, PageVisit.allItems, List.flatMap_singleton]
    exact listed.2.2
  · intro item member
    obtain ⟨type, isType, _, _, views⟩ := found named item member
    cases List.mem_singleton.mp isType
    have allApart :
        DigestsApart
          (session.hashedTexts (visits.flatMap PageVisit.steps) ++
            session.hashedTexts
              [.advance (.zero false),
                .ask "1"
                  (.query ⟨.text "lib", .type .info (.text "A") (.bool true), false⟩)]) := by
      rw [visitsAre]
      exact apart
    exact (views .info "1" false allApart).2.1 served

/-! ## Views that are withheld -/

private theorem digestsApart_textsOfStep
    (session : Session)
    (step : SessionStep) :
    DigestsApart (session.textsOfStep step) := by
  intro first firstHashed second secondHashed _
  cases step with
  | ask requestId call =>
      cases call with
      | query call =>
          rw [textsOfStep, Option.mem_toList] at firstHashed secondHashed
          exact Option.some.inj (firstHashed.symm.trans secondHashed)
      | showOptions | updateOptions _ | describeErrors _ =>
          cases firstHashed
  | replace | remove | advance =>
      cases firstHashed

private theorem answersView_overModule
    (resolved :
      (overModule "lib" definition).resolveModule (.text "lib") = .ok ⟨"lib", "rev-1"⟩)
    (ordered : definition.assignDeclarationOrder = definition)
    (named : definition.Named)
    (member : type ∈ definition.allTypes)
    (describable : type.describeFault? = none)
    (view : TypeView) :
    (overModule "lib" definition).AnswersView "1" false view "lib" definition type
      ((overModule "lib" definition).answerQuery "1"
        ⟨.text "lib", .type view (.text type.fullName) (.bool true), false⟩).1 :=
  (coherent_start (Registry.empty.replace "lib" definition) _ _ _ _).answersView
    (digestsApart_textsOfStep _ _) resolved (congrArg some ordered) named member describable
    fun _ hashed => hashed

end Session

private theorem named_of_two
    {definition : ModuleDefinition}
    {first second : TypeDefinition}
    (typesAre : definition.allTypes = [first, second])
    (differ : first.fullName ≠ second.fullName)
    (firstTrimmed : Text.Trimmed first.fullName.toList)
    (secondTrimmed : Text.Trimmed second.fullName.toList) :
    definition.Named := by
  constructor
  · rw [typesAre]
    exact List.nodup_cons.mpr
      ⟨fun member => differ (List.mem_singleton.mp member), List.nodup_singleton _⟩
  · intro type member
    rw [typesAre] at member
    rcases List.mem_pair.mp member with rfl | rfl
    · exact firstTrimmed
    · exact secondTrimmed

/-- An internal class in a class, with an attribute that cannot be written. -/
def TypeDefinition.unwritable : TypeDefinition :=
  { bare "A+B" with
    accessibility := .internal
    token := 1
    attributes := [⟨"N", [.map [(.bytes [], .null)]], [], none⟩] }

/-- A class around an internal one that cannot be written. -/
def TypeDefinition.aroundUnwritable : TypeDefinition :=
  { bare "A" with token := 1, nestedTypes := [.unwritable] }

/-- An internal class that is based on an array of a rank that no text can show. -/
def TypeDefinition.undescribed : TypeDefinition :=
  { bare "B" with
    accessibility := .internal
    token := 2
    baseType? := some ⟨.array, "", some ⟨.named, "X", none, 1, []⟩, Nat.pow 2 64, []⟩ }

/-- A class that is based on a class that cannot be described. -/
def TypeDefinition.onUndescribed : TypeDefinition :=
  { bare "A" with token := 1, baseType? := some ⟨.named, "B", none, 1, []⟩ }

namespace Session

private theorem code?_aroundUnwritable :
    ((overModule "lib" ⟨"Lib", "", [.aroundUnwritable]⟩).answerQuery "1"
      ⟨.text "lib", .type .info (.text "A") (.bool true), false⟩).1.code? =
        some .internalError := by
  have unwritable :
      Json.unwritable?
          (Answer.viewData .info "lib" ⟨"Lib", "", [.aroundUnwritable]⟩ .aroundUnwritable) =
        some (Json.badNameCrash (.bytes [])) := by
    decide +kernel
  exact
    (@answersView_overModule ⟨"Lib", "", [.aroundUnwritable]⟩ .aroundUnwritable
      (Failure.eq_ok_of_toOption_eq_some (by decide +kernel)) rfl
      (named_of_two rfl (by decide) ⟨⟨'A', [], rfl, rfl⟩, ⟨[], 'A', rfl, rfl⟩⟩
        ⟨⟨'A', ['+', 'B'], rfl, rfl⟩, ⟨['A', '+'], 'B', rfl, rfl⟩⟩)
      List.mem_cons_self (by decide +kernel) .info).code?_of_unwritable unwritable

private theorem code?_onUndescribed :
    ((overModule "lib" ⟨"Lib", "", [.onUndescribed, .undescribed]⟩).answerQuery "1"
      ⟨.text "lib", .type .hierarchy (.text "A") (.bool true), false⟩).1.code? =
        some .internalError := by
  have undescribed :
      Answer.baseFault? ⟨"Lib", "", [.onUndescribed, .undescribed]⟩ .onUndescribed =
        TypeRef.rankFault? (Nat.pow 2 64) := by
    decide +kernel
  exact
    (@answersView_overModule ⟨"Lib", "", [.onUndescribed, .undescribed]⟩ .onUndescribed
      (Failure.eq_ok_of_toOption_eq_some (by decide +kernel)) rfl
      (named_of_two rfl (by decide) ⟨⟨'A', [], rfl, rfl⟩, ⟨[], 'A', rfl, rfl⟩⟩
        ⟨⟨'B', [], rfl, rfl⟩, ⟨[], 'B', rfl, rfl⟩⟩)
      List.mem_cons_self (by decide +kernel) .hierarchy).code?_of_baseFault undescribed

/-- A view of a type may be withheld as an unforeseen failure although the type is listed: what it
shows besides cannot be written or described, or its answer cannot be kept. -/
theorem views_of_listed_type_withheld :
    let unkept := overModuleForGood "lib" ⟨"Lib", "", [.bare "A"]⟩
    let aroundUnwritable := overModule "lib" ⟨"Lib", "", [.aroundUnwritable]⟩
    let onUndescribed := overModule "lib" ⟨"Lib", "", [.onUndescribed, .undescribed]⟩
    let listed (session : Session) : List (Option String) :=
      (session.answerQuery "1" ⟨.text "lib", .types .null, true⟩).1.items.map fun item =>
        (item.field? "full_name").bind Value.text?
    let code? (session : Session) (view : TypeView) : Option ErrorCode :=
      (session.answerQuery "1"
        ⟨.text "lib", .type view (.text "A") (.bool true), false⟩).1.code?
    (listed unkept = [some "A"] ∧ code? unkept .info = some .internalError) ∧
      (listed aroundUnwritable = [some "A"] ∧
          code? aroundUnwritable .info = some .internalError) ∧
        listed onUndescribed = [some "A"] ∧
          code? onUndescribed .hierarchy = some .internalError := by
  intro unkept aroundUnwritable onUndescribed listed code?
  have listedAlike :
      listed unkept = [some "A"] ∧
        listed aroundUnwritable = [some "A"] ∧ listed onUndescribed = [some "A"] := by
    decide +kernel
  have notKept : code? unkept .info = some .internalError := by
    decide +kernel
  exact ⟨⟨listedAlike.1, notKept⟩, ⟨listedAlike.2.1, code?_aroundUnwritable⟩,
    listedAlike.2.2, code?_onUndescribed⟩

end Session

end TypeCatalog
