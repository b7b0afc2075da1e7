import TypeCatalog.Proofs.Cache.KeyText
import TypeCatalog.Session.Query

namespace TypeCatalog

/-!
# What a query asks

The subject of a query is everything that its answer depends on besides the content of the module:
the kind, the module with its fingerprint, the trimmed names, the options with the runtime defaults
applied, and the place where the page starts.  Preparing a query is finding its subject; the key
and the answer are functions of the subject alone.
-/

namespace Failure

variable {α β : Type}

/-- What a computation gives can be seen in its result as an option. -/
theorem eq_ok_of_toOption_eq_some
    {computed : Except Failure α}
    {result : α}
    (given : computed.toOption = some result) :
    computed = .ok result := by
  cases computed with
  | error failure =>
      cases given
  | ok value =>
      cases given
      rfl

/-- A computation in two parts gives a result when both parts do. -/
theorem exists_of_bind_eq_ok
    {first : Except Failure α}
    {second : α → Except Failure β}
    {result : β}
    (given : first >>= second = .ok result) :
    ∃ between, first = .ok between ∧ second between = .ok result := by
  cases first with
  | error failure =>
      cases given
  | ok between =>
      exact ⟨between, rfl, given⟩

/-- What is made of a computation's result, with the laws of monads at hand. -/
theorem map_eq_functor_map
    (f : α → β)
    (computed : Except Failure α) :
    computed.map f = f <$> computed :=
  rfl

/-- What is made of a computation's result is there when the result is. -/
theorem exists_of_map_eq_ok
    {computed : Except Failure α}
    {f : α → β}
    {result : β}
    (given : computed.map f = .ok result) :
    ∃ value, computed = .ok value ∧ f value = result := by
  cases computed with
  | error failure =>
      cases given
  | ok value =>
      cases given
      exact ⟨value, rfl, rfl⟩

/-- Where nothing can be made of a computation's result, the computation failed. -/
theorem eq_error_of_map_eq_error
    {computed : Except Failure α}
    {f : α → β}
    {failure : Failure}
    (failed : computed.map f = .error failure) :
    computed = .error failure := by
  cases computed with
  | error other =>
      cases failed
      rfl
  | ok value =>
      cases failed

end Failure

/-- What a check hands on has passed it. -/
theorem Schema.Checked.eq_ok_of_toExcept
    {α : Type}
    {checked : Schema.Checked α}
    {result : α}
    (given : checked.toExcept = .ok result) :
    checked = .ok result := by
  cases checked with
  | rejected | crashed =>
      cases given
  | ok value =>
      cases given
      rfl

/-- The options of a query with the runtime defaults applied.  An absent filter is an empty one,
and the place where the page starts is left out. -/
structure ResolvedOptions where
  visibility : Visibility
  caseSensitive : Bool
  nameFilter : String
  attributeFilter : String
  sortBy : SortKey
  sortOrder : SortOrder
  take : Nat
deriving Repr, DecidableEq

namespace ResolvedOptions

/-- Options under a visibility and a page size. -/
def resolve
    (options : FilterOptions)
    (visibility : Visibility)
    (take : Nat) : ResolvedOptions :=
  ⟨visibility, options.caseSensitive, Listing.filterText options.nameContains?,
    Listing.filterText options.attributeContains?, options.sortBy, options.sortOrder, take⟩

/-- Resolved options as options of a query that says everything. -/
def toFilter (options : ResolvedOptions) : FilterOptions :=
  ⟨options.visibility.publicMembers, some options.visibility.nonPublicMembers,
    options.visibility.staticMembers, options.visibility.instanceMembers,
    options.visibility.inheritedMembers, options.visibility.declaredOnly,
    options.caseSensitive, some options.nameFilter, some options.attributeFilter,
    options.sortBy, options.sortOrder, none, some options.take, none⟩

/-- The parts of a key that stand for resolved options. -/
def keyParts (options : ResolvedOptions) : List Value :=
  options.toFilter.keyParts options.visibility.nonPublicMembers options.take

end ResolvedOptions

/-- What a listing goes through: the types of a module, or members of the type with a name. -/
inductive ListingScope where
  | types
  | members (selection : MemberSelection) (typeName : String)
deriving Repr, DecidableEq

namespace ListingScope

/-- The kind of a listing. -/
def kind : ListingScope → OperationKind
  | .types => .typeList
  | .members selection _ => .members selection

/-- The parts of a key that stand for the name of the type. -/
def nameParts : ListingScope → List Value
  | .types => []
  | .members _ typeName => [.text typeName]

end ListingScope

/-- A listing, whatever page of it is asked for. -/
structure ListingSubject where
  scope : ListingScope
  stamp : ModuleStamp
  options : ResolvedOptions
deriving Repr, DecidableEq

namespace ListingSubject

/-- The parts of the key of a listing that its tokens are bound to. -/
def queryParts (listing : ListingSubject) : List Value :=
  .text listing.stamp.path :: .text listing.stamp.fingerprint ::
    (listing.scope.nameParts ++ listing.options.keyParts)

/-- The text whose digest the tokens of a listing are bound to. -/
def queryText (listing : ListingSubject) : String :=
  CacheKey.fullText listing.scope.kind.word Limits.contractVersion listing.queryParts

/-- The key of a listing that its tokens are bound to. -/
def queryKey (listing : ListingSubject) : String :=
  CacheKey.build listing.scope.kind.word Limits.contractVersion listing.queryParts

/-- The salt of the tokens of a listing. -/
def salt (listing : ListingSubject) : String :=
  ContinuationToken.saltOf listing.queryKey

/-- The page of a listing that starts at an offset. -/
def position
    (listing : ListingSubject)
    (offset : Nat) : Answer.PagePosition :=
  ⟨offset, listing.options.take, listing.salt⟩

/-- The data of the page that starts at an offset. -/
def answer
    (listing : ListingSubject)
    (offset : Nat) : OpenModule → Except Failure Value :=
  match listing.scope with
  | .types =>
    Answer.typeListing listing.stamp listing.options.toFilter listing.options.visibility
      (listing.position offset)
  | .members selection typeName =>
    Answer.memberListing listing.stamp selection typeName listing.options.toFilter
      listing.options.visibility (listing.position offset)

/-- Where a query starts in a listing. -/
def startOf
    (listing : ListingSubject)
    (options : FilterOptions) : Except Failure Nat :=
  (ContinuationToken.resolveOffset (options.skip?.map fun skip => (skip : Int))
    options.continuationToken? listing.salt).map Int.toNat

end ListingSubject

/-- What a query asks. -/
inductive QuerySubject where
  | page (listing : ListingSubject) (offset : Nat)
  | type (view : TypeView) (stamp : ModuleStamp) (typeName : String) (caseSensitive : Bool)
  | named (view : NameView) (stamp : ModuleStamp) (typeName memberName : String)
    (options : ResolvedOptions)
deriving Repr, DecidableEq

namespace QuerySubject

/-- The kind of a query. -/
def kind : QuerySubject → OperationKind
  | .page listing _ => listing.scope.kind
  | .type view .. => .type view
  | .named view .. => .named view

/-- The module that is asked about. -/
def stamp : QuerySubject → ModuleStamp
  | .page listing _ => listing.stamp
  | .type _ stamp .. => stamp
  | .named _ stamp .. => stamp

/-- The parts of the key of the answer. -/
def keyParts : QuerySubject → List Value
  | .page listing offset =>
    listing.queryParts ++ [.text "offset", .ofNat offset]
  | .type _ stamp typeName caseSensitive =>
    [.text stamp.path, .text stamp.fingerprint, .text typeName, .bool caseSensitive]
  | .named _ stamp typeName memberName options =>
    .text stamp.path :: .text stamp.fingerprint :: .text typeName :: .text memberName ::
      (options.keyParts ++ [.text "offset", .ofNat 0])

/-- The whole text of the key of the answer. -/
def keyText (subject : QuerySubject) : String :=
  CacheKey.fullText subject.kind.word Limits.contractVersion subject.keyParts

/-- The key of the answer. -/
def cacheKey (subject : QuerySubject) : String :=
  CacheKey.build subject.kind.word Limits.contractVersion subject.keyParts

/-- The data of the answer. -/
def answer : QuerySubject → OpenModule → Except Failure Value
  | .page listing offset => listing.answer offset
  | .type view _ typeName caseSensitive => Answer.typeView view typeName caseSensitive
  | .named view stamp typeName memberName options =>
    Answer.named stamp view typeName memberName options.toFilter options.visibility

/-- The prepared query. -/
def plan (subject : QuerySubject) : Plan :=
  ⟨subject.kind, subject.stamp, subject.cacheKey, subject.answer⟩

end QuerySubject

/-- Which listing is asked for, before the name of the type is checked. -/
inductive ListingForm where
  | types
  | members (selection : MemberSelection) (typeName : Value)
deriving Repr

namespace ListingForm

/-- The query for a listing under options. -/
def query
    (options : Value) : ListingForm → Query
  | .types => .types options
  | .members selection typeName => .members selection typeName options

/-- What a listing goes through, if the name of its type can be used. -/
def scope : ListingForm → Except Failure ListingScope
  | .types => .ok .types
  | .members selection typeName =>
    (Session.requireText "type_name" typeName).map (ListingScope.members selection)

end ListingForm

/-- Whether the arguments of a query have the types that its operation declares.  Names, paths and
options are checked when a query is prepared; only the regard to case is taken as it is. -/
def Query.WellTyped : Query → Prop
  | .type _ _ caseSensitive => ∃ truth, caseSensitive = .bool truth
  | .types _ | .members .. | .named .. => True

/-- A public class with a name and nothing else. -/
def TypeDefinition.bare (fullName : String) : TypeDefinition :=
  ⟨fullName, .classType, .public, 0, false, false, false, none, none, [], [], [], [], none, []⟩

namespace Session

/-- A session over one module, with the standard options and a clock at zero. -/
def overModule
    (path : String)
    (definition : ModuleDefinition) : Session :=
  .start (.ofStore (.registry (Registry.empty.replace path definition)))
    (.empty (.ofText "/work") (.ofText "/home")) .standard (.zero false)

/-- The options of a query as a session resolves them. -/
def resolvedOptions
    (session : Session)
    (kind : OperationKind)
    (options : FilterOptions) : ResolvedOptions :=
  .resolve options (session.visibilityFor options) (session.takeFor kind options)

/-- The listing that a query means. -/
def listing
    (session : Session)
    (modulePath : Value)
    (form : ListingForm)
    (options : FilterOptions) : Except Failure ListingSubject := do
  let scope ← form.scope
  let stamp ← session.resolveModule modulePath
  return ⟨scope, stamp, session.resolvedOptions scope.kind options⟩

/-- The page that a query means. -/
def pageSubject
    (session : Session)
    (modulePath : Value)
    (form : ListingForm)
    (given : Value) : Except Failure QuerySubject := do
  let options ← (FilterOptions.checkOptional given).toExcept
  let listing ← session.listing modulePath form options
  let offset ← listing.startOf options
  return .page listing offset

/-- The view of a type that a query means. -/
def typeSubject
    (session : Session)
    (modulePath : Value)
    (view : TypeView)
    (typeName caseSensitive : Value) : Except Failure QuerySubject := do
  let name ← requireText "type_name" typeName
  let stamp ← session.resolveModule modulePath
  return .type view stamp name caseSensitive.isSomething

/-- The members by name that a query means. -/
def namedSubject
    (session : Session)
    (modulePath : Value)
    (view : NameView)
    (typeName memberName given : Value) : Except Failure QuerySubject := do
  let options ← (FilterOptions.checkOptional given).toExcept
  let name ← requireText "type_name" typeName
  let wanted ← requireText "member_name" memberName
  let stamp ← session.resolveModule modulePath
  return .named view stamp name wanted
    (.resolve options (session.visibilityFor options) 0)

/-- The subject of a query, unless its arguments are refused. -/
def subject
    (session : Session)
    (modulePath : Value) : Query → Except Failure QuerySubject
  | .types options => session.pageSubject modulePath .types options
  | .members selection typeName options =>
    session.pageSubject modulePath (.members selection typeName) options
  | .type view typeName caseSensitive =>
    session.typeSubject modulePath view typeName caseSensitive
  | .named view typeName memberName options =>
    session.namedSubject modulePath view typeName memberName options

end Session

/-- The offset of a token that was read is never below zero. -/
theorem ContinuationToken.decode_offset_nonneg
    {content : String}
    {token : ContinuationToken}
    (read : decode content = .token token) :
    0 ≤ token.offset := by
  unfold decode at read
  split at read
  · cases read
  · split at read
    · cases read
    · split at read
      · cases read
      · unfold ofFields at read
        split at read
        · split at read
          · cases read
          · split at read
            · cases read
            · split at read
              · cases read
              · cases read
                exact Int.natCast_nonneg _
        · cases read

/-- A page never starts below zero. -/
theorem ContinuationToken.resolveOffset_nonneg
    {skip? : Option Nat}
    {token? : Option String}
    {salt : String}
    {offset : Int}
    (resolved :
      resolveOffset (skip?.map fun skip => (skip : Int)) token? salt = .ok offset) :
    0 ≤ offset := by
  unfold resolveOffset at resolved
  split at resolved
  · cases resolved
    cases skip? <;> simp
  · split at resolved
    · cases resolved
    · cases resolved
    · next read =>
        split at resolved
        · cases resolved
          exact decode_offset_nonneg read
        · cases resolved

namespace ResolvedOptions

/-- The parts for options have the same texts as the parts for what the options resolve to. -/
theorem map_partText_keyParts_resolve
    (options : FilterOptions)
    (nonPublicDefault : Bool)
    (take : Nat) :
    (resolve options (options.visibility nonPublicDefault) take).keyParts.map
        CacheKey.partText =
      (options.keyParts (options.visibility nonPublicDefault).nonPublicMembers take).map
        CacheKey.partText := by
  simp [resolve, keyParts, toFilter, FilterOptions.keyParts, FilterOptions.visibility,
    Listing.filterText]

end ResolvedOptions

namespace ListingSubject

/-- The salt of a listing may be made of any parts with the same texts. -/
theorem salt_eq_of_texts
    (listing : ListingSubject)
    {parts : List Value}
    (same :
      (listing.scope.nameParts ++ listing.options.keyParts).map CacheKey.partText =
        parts.map CacheKey.partText) :
    listing.salt =
      ContinuationToken.saltOf
        (CacheKey.build listing.scope.kind.word Limits.contractVersion
          (.text listing.stamp.path :: .text listing.stamp.fingerprint :: parts)) := by
  have textsSame :
      listing.queryParts.map CacheKey.partText =
        (.text listing.stamp.path :: .text listing.stamp.fingerprint :: parts).map
          CacheKey.partText := by
    simp [queryParts, ← same]
  exact congrArg ContinuationToken.saltOf (CacheKey.build_congr textsSame)

/-- The text of the key of a page may be made of any parts with the same texts. -/
theorem keyText_page_of_texts
    (listing : ListingSubject)
    {parts : List Value}
    {offset : Int}
    (same :
      (listing.scope.nameParts ++ listing.options.keyParts).map CacheKey.partText =
        parts.map CacheKey.partText)
    (notNegative : 0 ≤ offset) :
    (QuerySubject.page listing offset.toNat).keyText =
      CacheKey.fullText listing.scope.kind.word Limits.contractVersion
        (.text listing.stamp.path :: .text listing.stamp.fingerprint :: parts ++
          [.text "offset", .int offset]) := by
  apply CacheKey.fullText_congr
  simp [QuerySubject.keyParts, queryParts, Value.ofNat, ← same,
    Int.toNat_of_nonneg notNegative]

end ListingSubject

namespace Session

/-- What options resolve to stands in a key as the options do. -/
theorem map_partText_optionParts
    (session : Session)
    (kind : OperationKind)
    (options : FilterOptions) :
    (session.resolvedOptions kind options).keyParts.map CacheKey.partText =
      (session.optionParts options (session.takeFor kind options)).map CacheKey.partText :=
  ResolvedOptions.map_partText_keyParts_resolve options session.options.includeNonPublic
    (session.takeFor kind options)

/-- The keys of a query for a page are those of its listing, whatever parts they are made of. -/
theorem make_eq_startOf
    (listing : ListingSubject)
    (options : FilterOptions)
    {parts : List Value}
    (same :
      (listing.scope.nameParts ++ listing.options.keyParts).map CacheKey.partText =
        parts.map CacheKey.partText) :
    QueryKeys.make listing.scope.kind listing.stamp parts options.skip?
        options.continuationToken? =
      (listing.startOf options).map fun offset =>
        ⟨listing.salt, offset, (QuerySubject.page listing offset).cacheKey⟩ := by
  simp only [QueryKeys.make, ListingSubject.startOf, ← listing.salt_eq_of_texts same]
  cases resolved :
      ContinuationToken.resolveOffset (options.skip?.map fun skip => (skip : Int))
        options.continuationToken? listing.salt with
  | error failure =>
      rfl
  | ok offset =>
      have keySame :
          (QuerySubject.page listing offset.toNat).cacheKey =
            CacheKey.build listing.scope.kind.word Limits.contractVersion
              (.text listing.stamp.path :: .text listing.stamp.fingerprint :: parts ++
                [.text "offset", .int offset]) :=
        congrArg CacheKey.ofText
          (listing.keyText_page_of_texts same
            (ContinuationToken.resolveOffset_nonneg resolved))
      simp [bind, Except.bind, Except.map, pure, Except.pure, keySame]

/-- What is prepared with the keys of a query for a page is what the page needs. -/
private theorem make_bind_eq
    (listing : ListingSubject)
    (options : FilterOptions)
    {parts : List Value}
    (same :
      (listing.scope.nameParts ++ listing.options.keyParts).map CacheKey.partText =
        parts.map CacheKey.partText)
    {planOf : QueryKeys → Plan}
    (plans : ∀ offset,
      planOf ⟨listing.salt, offset, (QuerySubject.page listing offset).cacheKey⟩ =
        (QuerySubject.page listing offset).plan) :
    (QueryKeys.make listing.scope.kind listing.stamp parts options.skip?
        options.continuationToken? >>= fun keys => pure (planOf keys)) =
      listing.startOf options >>= fun offset => pure (QuerySubject.page listing offset).plan := by
  rw [make_eq_startOf listing options same]
  cases listing.startOf options with
  | error failure =>
      rfl
  | ok offset =>
      exact congrArg Except.ok (plans offset)

theorem planTypes_eq
    (session : Session)
    (modulePath given : Value) :
    session.planTypes modulePath given =
      (session.pageSubject modulePath .types given).map QuerySubject.plan := by
  simp only [planTypes, pageSubject, listing, ListingForm.scope, Failure.map_eq_functor_map,
    map_bind, map_pure, bind_assoc, pure_bind]
  refine bind_congr fun options => bind_congr fun stamp => ?_
  exact make_bind_eq ⟨.types, stamp, session.resolvedOptions .typeList options⟩ options
    (map_partText_optionParts session .typeList options) fun _ => rfl

theorem planMembers_eq
    (session : Session)
    (modulePath : Value)
    (selection : MemberSelection)
    (typeName given : Value) :
    session.planMembers modulePath selection typeName given =
      (session.pageSubject modulePath (.members selection typeName) given).map
        QuerySubject.plan := by
  simp only [planMembers, pageSubject, listing, ListingForm.scope, Failure.map_eq_functor_map,
    map_bind, map_pure, bind_assoc, pure_bind, bind_map_left]
  refine bind_congr fun options => bind_congr fun name => bind_congr fun stamp => ?_
  refine make_bind_eq
    ⟨.members selection name, stamp, session.resolvedOptions (.members selection) options⟩ options
    ?_ fun _ => rfl
  exact congrArg (CacheKey.partText (.text name) :: ·)
    (map_partText_optionParts session (.members selection) options)

theorem planType_eq
    (session : Session)
    (modulePath : Value)
    (view : TypeView)
    (typeName : Value)
    (caseSensitive : Bool) :
    session.planType modulePath view typeName (.bool caseSensitive) =
      (session.typeSubject modulePath view typeName (.bool caseSensitive)).map
        QuerySubject.plan := by
  simp only [planType, typeSubject, Failure.map_eq_functor_map, map_bind]
  exact bind_congr fun name => bind_congr fun stamp => rfl

theorem planNamed_eq
    (session : Session)
    (modulePath : Value)
    (view : NameView)
    (typeName memberName given : Value) :
    session.planNamed modulePath view typeName memberName given =
      (session.namedSubject modulePath view typeName memberName given).map
        QuerySubject.plan := by
  simp only [planNamed, namedSubject, Failure.map_eq_functor_map, map_bind]
  refine bind_congr fun options => bind_congr fun name => bind_congr fun wanted =>
    bind_congr fun stamp => ?_
  let subject : QuerySubject :=
    .named view stamp name wanted (.resolve options (session.visibilityFor options) 0)
  have keySame :
      CacheKey.build (OperationKind.named view).word Limits.contractVersion
          (.text stamp.path :: .text stamp.fingerprint :: .text name ::
            .text wanted :: session.optionParts options 0 ++ [.text "offset", .int 0]) =
        subject.cacheKey := by
    apply CacheKey.build_congr
    simp [subject, QuerySubject.keyParts, optionParts, visibilityFor, Value.ofNat,
      ResolvedOptions.map_partText_keyParts_resolve]
  change Except.ok (Plan.mk _ _ (CacheKey.build _ _ _) _) =
    Except.ok (Plan.mk _ _ subject.cacheKey _)
  rw [← keySame]
  rfl

/-- Preparing a query is finding its subject: the key and the answer follow from that alone. -/
theorem plan_eq
    (session : Session)
    (modulePath : Value)
    {query : Query}
    (wellTyped : query.WellTyped) :
    session.plan modulePath query =
      (session.subject modulePath query).map QuerySubject.plan := by
  cases query with
  | types options =>
      exact session.planTypes_eq modulePath options
  | members selection typeName options =>
      exact session.planMembers_eq modulePath selection typeName options
  | type view typeName caseSensitive =>
      obtain ⟨truth, rfl⟩ := wellTyped
      exact session.planType_eq modulePath view typeName truth
  | named view typeName memberName options =>
      exact session.planNamed_eq modulePath view typeName memberName options

theorem plan_of_subject
    {session : Session}
    {modulePath : Value}
    {query : Query}
    {subject : QuerySubject}
    (wellTyped : query.WellTyped)
    (found : session.subject modulePath query = .ok subject) :
    session.plan modulePath query = .ok subject.plan := by
  rw [session.plan_eq modulePath wellTyped, found]
  rfl

theorem exists_subject_of_plan
    {session : Session}
    {modulePath : Value}
    {query : Query}
    {plan : Plan}
    (wellTyped : query.WellTyped)
    (planned : session.plan modulePath query = .ok plan) :
    ∃ subject, session.subject modulePath query = .ok subject ∧ plan = subject.plan := by
  rw [session.plan_eq modulePath wellTyped] at planned
  cases found : session.subject modulePath query with
  | error failure =>
      rw [found] at planned
      cases planned
  | ok subject =>
      rw [found] at planned
      cases planned
      exact ⟨subject, rfl, rfl⟩

/-- A listing is of the module that its path means. -/
theorem resolveModule_of_listing
    {session : Session}
    {modulePath : Value}
    {form : ListingForm}
    {options : FilterOptions}
    {subject : ListingSubject}
    (found : session.listing modulePath form options = .ok subject) :
    session.resolveModule modulePath = .ok subject.stamp := by
  obtain ⟨scope, _, found⟩ := Failure.exists_of_bind_eq_ok found
  obtain ⟨stamp, resolved, found⟩ := Failure.exists_of_bind_eq_ok found
  cases found
  exact resolved

/-- A query for a page asks for a page of the listing that it means. -/
theorem exists_listing_of_pageSubject
    {session : Session}
    {modulePath : Value}
    {form : ListingForm}
    {given : Value}
    {subject : QuerySubject}
    (found : session.pageSubject modulePath form given = .ok subject) :
    ∃ options listing offset,
      (FilterOptions.checkOptional given).toExcept = .ok options ∧
      session.listing modulePath form options = .ok listing ∧
      listing.startOf options = .ok offset ∧
      subject = .page listing offset := by
  obtain ⟨options, checked, found⟩ := Failure.exists_of_bind_eq_ok found
  obtain ⟨listing, meant, found⟩ := Failure.exists_of_bind_eq_ok found
  obtain ⟨offset, starts, found⟩ := Failure.exists_of_bind_eq_ok found
  cases found
  exact ⟨options, listing, offset, checked, meant, starts, rfl⟩

/-- A query is about the module that its path means. -/
theorem resolveModule_of_subject
    {session : Session}
    {modulePath : Value}
    {query : Query}
    {subject : QuerySubject}
    (found : session.subject modulePath query = .ok subject) :
    session.resolveModule modulePath = .ok subject.stamp := by
  cases query with
  | types given | members selection typeName given =>
      obtain ⟨_, _, _, _, meant, _, rfl⟩ := exists_listing_of_pageSubject found
      exact resolveModule_of_listing meant
  | type view typeName caseSensitive =>
      obtain ⟨_, _, found⟩ := Failure.exists_of_bind_eq_ok found
      obtain ⟨stamp, resolved, found⟩ := Failure.exists_of_bind_eq_ok found
      cases found
      exact resolved
  | named view typeName memberName given =>
      obtain ⟨_, _, found⟩ := Failure.exists_of_bind_eq_ok found
      obtain ⟨_, _, found⟩ := Failure.exists_of_bind_eq_ok found
      obtain ⟨_, _, found⟩ := Failure.exists_of_bind_eq_ok found
      obtain ⟨stamp, resolved, found⟩ := Failure.exists_of_bind_eq_ok found
      cases found
      exact resolved

end Session

end TypeCatalog
