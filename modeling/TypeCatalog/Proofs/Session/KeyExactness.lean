import TypeCatalog.Proofs.Session.Subject

namespace TypeCatalog

/-!
# Cache keys are exact

The text of a key says what a query asks and nothing else: two queries have the same text exactly
when they have the same subject.  A key ends with the digest of its text, so as far as the digest
tells texts apart, no entry of the cache is shared by two different queries.
-/

namespace OperationKind

/-- All kinds. -/
def all : List OperationKind :=
  [.typeList, .named .lookup, .named .documentation, .runtimeOptions, .errorCatalog] ++
    TypeView.all.map .type ++ MemberSelection.every.map .members

/-- The kind with a word. -/
def ofWord? (word : String) : Option OperationKind :=
  all.find? fun kind => kind.word == word

/-- The word of a kind is read back as that kind. -/
theorem ofWord?_word (kind : OperationKind) : ofWord? kind.word = some kind := by
  cases kind with
  | type view =>
      cases view <;> decide
  | members selection =>
      cases selection with
      | ofKind memberKind =>
          cases memberKind <;> decide
      | all =>
          decide
  | named view =>
      cases view <;> decide
  | typeList | runtimeOptions | errorCatalog =>
      decide

theorem word_injective
    {first second : OperationKind}
    (same : first.word = second.word) :
    first = second := by
  have readBack := ofWord?_word first
  rw [same, ofWord?_word second] at readBack
  exact (Option.some.inj readBack).symm

/-- The word of a kind holds no bar. -/
theorem bar_not_mem_word (kind : OperationKind) : '|' ∉ kind.word.toList := by
  cases kind with
  | type view =>
      cases view <;> decide
  | members selection =>
      cases selection with
      | ofKind memberKind =>
          cases memberKind <;> decide
      | all =>
          decide
  | named view =>
      cases view <;> decide
  | typeList | runtimeOptions | errorCatalog =>
      decide

end OperationKind

/-- The text of a key of the program determines the kind and the texts of the parts. -/
theorem CacheKey.kind_and_parts_of_fullText_eq
    {firstKind secondKind : OperationKind}
    {firstParts secondParts : List Value}
    (same :
      fullText firstKind.word Limits.contractVersion firstParts =
        fullText secondKind.word Limits.contractVersion secondParts) :
    firstKind = secondKind ∧ firstParts.map partText = secondParts.map partText := by
  have versionFree : '|' ∉ Limits.contractVersion.toList := by
    decide
  obtain ⟨wordSame, _, partsSame⟩ :=
    fullText_injective firstKind.bar_not_mem_word secondKind.bar_not_mem_word versionFree
      versionFree same
  rw [partTexts_eq_map, partTexts_eq_map] at partsSame
  exact ⟨OperationKind.word_injective wordSame, partsSame⟩

theorem SortKey.word_injective
    {first second : SortKey}
    (same : first.word = second.word) :
    first = second := by
  cases first <;> cases second <;> first | rfl | exact absurd same (by decide)

theorem SortOrder.word_injective
    {first second : SortOrder}
    (same : first.word = second.word) :
    first = second := by
  cases first <;> cases second <;> first | rfl | exact absurd same (by decide)

/-- The parts for resolved options determine the options. -/
theorem ResolvedOptions.eq_of_keyParts
    {first second : ResolvedOptions}
    (same :
      first.keyParts.map CacheKey.partText = second.keyParts.map CacheKey.partText) :
    first = second := by
  obtain ⟨⟨_, _, _, _, _, _⟩, _, _, _, _, _, _⟩ := first
  obtain ⟨⟨_, _, _, _, _, _⟩, _, _, _, _, _, _⟩ := second
  simp only [keyParts, toFilter, FilterOptions.keyParts, List.map_cons, List.map_nil,
    CacheKey.partText_bool_eq_iff, CacheKey.partText_ofText?, CacheKey.partText_text,
    CacheKey.partText_ofNat_eq_iff, CacheKey.escape_eq_iff, Option.getD_some,
    List.cons.injEq, and_true] at same
  obtain ⟨publicSame, nonPublicSame, staticSame, instanceSame, inheritedSame, declaredSame,
    caseSame, nameSame, attributeSame, keySame, orderSame, takeSame⟩ := same
  subst publicSame nonPublicSame staticSame instanceSame inheritedSame declaredSame caseSame
    nameSame attributeSame takeSame
  rw [SortKey.word_injective keySame, SortOrder.word_injective orderSame]

private theorem stamp_eq_of_texts
    {first second : ModuleStamp}
    (pathSame :
      CacheKey.partText (.text first.path) = CacheKey.partText (.text second.path))
    (fingerprintSame :
      CacheKey.partText (.text first.fingerprint) =
        CacheKey.partText (.text second.fingerprint)) :
    first = second := by
  simp only [CacheKey.partText_text, CacheKey.escape_eq_iff] at pathSame fingerprintSame
  cases first
  cases second
  subst pathSame fingerprintSame
  rfl

namespace ListingSubject

/-- The parts that the tokens of a listing are bound to determine the listing. -/
theorem eq_of_queryParts
    {first second : ListingSubject}
    (kindSame : first.scope.kind = second.scope.kind)
    (partsSame :
      first.queryParts.map CacheKey.partText = second.queryParts.map CacheKey.partText) :
    first = second := by
  obtain ⟨firstScope, firstStamp, firstOptions⟩ := first
  obtain ⟨secondScope, secondStamp, secondOptions⟩ := second
  simp only [queryParts, List.map_cons, List.map_append, List.cons.injEq] at partsSame
  obtain ⟨pathSame, fingerprintSame, restSame⟩ := partsSame
  have stampSame := stamp_eq_of_texts pathSame fingerprintSame
  cases firstScope with
  | types =>
      cases secondScope with
      | types =>
          rw [stampSame, ResolvedOptions.eq_of_keyParts restSame]
      | members selection typeName =>
          cases kindSame
  | members firstSelection firstName =>
      cases secondScope with
      | types =>
          cases kindSame
      | members secondSelection secondName =>
          simp only [ListingScope.kind, OperationKind.members.injEq] at kindSame
          simp only [ListingScope.nameParts, List.map_cons, List.map_nil, List.cons_append,
            List.nil_append, List.cons.injEq, CacheKey.partText_text,
            CacheKey.escape_eq_iff] at restSame
          rw [stampSame, kindSame, restSame.1, ResolvedOptions.eq_of_keyParts restSame.2]

/-- The text that the tokens of a listing are bound to determines the listing. -/
theorem eq_of_queryText
    {first second : ListingSubject}
    (same : first.queryText = second.queryText) :
    first = second :=
  eq_of_queryParts (CacheKey.kind_and_parts_of_fullText_eq same).1
    (CacheKey.kind_and_parts_of_fullText_eq same).2

end ListingSubject

private theorem ListingScope.kind_ne
    (scope : ListingScope)
    (typeView : TypeView)
    (nameView : NameView) :
    scope.kind ≠ .type typeView ∧ scope.kind ≠ .named nameView := by
  cases scope <;> simp [kind]

namespace QuerySubject

/-- The text of a key determines what the query asks. -/
theorem eq_of_keyText
    {first second : QuerySubject}
    (same : first.keyText = second.keyText) :
    first = second := by
  obtain ⟨kindSame, partsSame⟩ := CacheKey.kind_and_parts_of_fullText_eq same
  cases first with
  | page firstListing firstOffset =>
      cases second with
      | page secondListing secondOffset =>
          simp only [keyParts, List.map_append] at partsSame
          obtain ⟨querySame, startSame⟩ := List.append_inj' partsSame (by simp)
          simp only [List.map_cons, List.map_nil, List.cons.injEq, and_true, true_and,
            CacheKey.partText_ofNat_eq_iff] at startSame
          rw [ListingSubject.eq_of_queryParts kindSame querySame, startSame]
      | type view stamp typeName caseSensitive =>
          exact absurd kindSame (firstListing.scope.kind_ne view .lookup).1
      | named view stamp typeName memberName options =>
          exact absurd kindSame (firstListing.scope.kind_ne .info view).2
  | type firstView firstStamp firstName firstCase =>
      cases second with
      | page secondListing secondOffset =>
          exact absurd kindSame.symm (secondListing.scope.kind_ne firstView .lookup).1
      | type secondView secondStamp secondName secondCase =>
          simp only [kind, OperationKind.type.injEq] at kindSame
          simp only [keyParts, List.map_cons, List.map_nil, List.cons.injEq, and_true] at partsSame
          obtain ⟨pathSame, fingerprintSame, nameSame, caseSame⟩ := partsSame
          rw [CacheKey.partText_text, CacheKey.partText_text, CacheKey.escape_eq_iff] at nameSame
          rw [CacheKey.partText_bool_eq_iff] at caseSame
          rw [kindSame, stamp_eq_of_texts pathSame fingerprintSame, nameSame, caseSame]
      | named view stamp typeName memberName options =>
          cases kindSame
  | named firstView firstStamp firstName firstMember firstOptions =>
      cases second with
      | page secondListing secondOffset =>
          exact absurd kindSame.symm (secondListing.scope.kind_ne .info firstView).2
      | type view stamp typeName caseSensitive =>
          cases kindSame
      | named secondView secondStamp secondName secondMember secondOptions =>
          simp only [kind, OperationKind.named.injEq] at kindSame
          simp only [keyParts, List.map_cons, List.map_append, List.cons.injEq] at partsSame
          obtain ⟨pathSame, fingerprintSame, nameSame, memberSame, restSame⟩ := partsSame
          obtain ⟨optionsSame, _⟩ := List.append_inj' restSame (by simp)
          rw [CacheKey.partText_text, CacheKey.partText_text, CacheKey.escape_eq_iff]
            at nameSame memberSame
          rw [kindSame, stamp_eq_of_texts pathSame fingerprintSame, nameSame, memberSame,
            ResolvedOptions.eq_of_keyParts optionsSame]

/-- Two queries with the same key ask the same, if the digest tells their key texts apart. -/
theorem eq_of_cacheKey
    {first second : QuerySubject}
    (apart :
      Digest.sha256Text first.keyText = Digest.sha256Text second.keyText →
        first.keyText = second.keyText)
    (same : first.cacheKey = second.cacheKey) :
    first = second :=
  eq_of_keyText (apart (CacheKey.sha256Text_eq_of_ofText_eq same))

end QuerySubject

namespace Session

/-- The parts of the key of a page, as preparing the query hands them over. -/
def pageKeyParts
    (session : Session)
    (kind : OperationKind)
    (stamp : ModuleStamp)
    (nameParts : List Value)
    (options : FilterOptions) : Except Failure (List Value) := do
  let base :=
    .text stamp.path :: .text stamp.fingerprint ::
      (nameParts ++ session.optionParts options (session.takeFor kind options))
  let offset ←
    ContinuationToken.resolveOffset (options.skip?.map fun skip => (skip : Int))
      options.continuationToken?
      (ContinuationToken.saltOf (CacheKey.build kind.word Limits.contractVersion base))
  return base ++ [.text "offset", .int offset]

/-- The parts of the key of a query, as preparing the query hands them over: options in the form
in which they were given, absent filters as nothing. -/
def keyPartsOf
    (session : Session)
    (modulePath : Value) : Query → Except Failure (List Value)
  | .types given => do
    let options ← (FilterOptions.checkOptional given).toExcept
    let stamp ← session.resolveModule modulePath
    session.pageKeyParts .typeList stamp [] options
  | .members selection typeName given => do
    let options ← (FilterOptions.checkOptional given).toExcept
    let name ← requireText "type_name" typeName
    let stamp ← session.resolveModule modulePath
    session.pageKeyParts (.members selection) stamp [.text name] options
  | .type _ typeName caseSensitive => do
    let name ← requireText "type_name" typeName
    let stamp ← session.resolveModule modulePath
    return [.text stamp.path, .text stamp.fingerprint, .text name, caseSensitive]
  | .named _ typeName memberName given => do
    let options ← (FilterOptions.checkOptional given).toExcept
    let name ← requireText "type_name" typeName
    let wanted ← requireText "member_name" memberName
    let stamp ← session.resolveModule modulePath
    return .text stamp.path :: .text stamp.fingerprint :: .text name :: .text wanted ::
      (session.optionParts options 0 ++ [.text "offset", .int 0])

/-- The whole text that is hashed for the key of a query. -/
def keyText
    (session : Session)
    (modulePath : Value)
    (query : Query) : Except Failure String :=
  (session.keyPartsOf modulePath query).map
    (CacheKey.fullText query.kind.word Limits.contractVersion)

private theorem map_fullText_pageKeyParts
    (session : Session)
    (scope : ListingScope)
    (stamp : ModuleStamp)
    (options : FilterOptions) :
    let listing : ListingSubject :=
      ⟨scope, stamp, session.resolvedOptions scope.kind options⟩
    (session.pageKeyParts scope.kind stamp scope.nameParts options).map
        (CacheKey.fullText scope.kind.word Limits.contractVersion) =
      (listing.startOf options).map fun offset => (QuerySubject.page listing offset).keyText := by
  intro listing
  have same :
      (listing.scope.nameParts ++ listing.options.keyParts).map CacheKey.partText =
        (scope.nameParts ++
          session.optionParts options (session.takeFor scope.kind options)).map
            CacheKey.partText := by
    rw [List.map_append, List.map_append, ← map_partText_optionParts]
  simp only [pageKeyParts, ListingSubject.startOf]
  have saltSame := listing.salt_eq_of_texts same
  simp only [listing] at saltSame
  rw [← saltSame]
  cases resolved :
      ContinuationToken.resolveOffset (options.skip?.map fun skip => (skip : Int))
        options.continuationToken? listing.salt with
  | error failure =>
      rfl
  | ok offset =>
      exact congrArg Except.ok
        (listing.keyText_page_of_texts same
          (ContinuationToken.resolveOffset_nonneg resolved)).symm

/-- The text that is hashed for the key of a query is the key text of its subject. -/
theorem keyText_eq
    (session : Session)
    (modulePath : Value)
    {query : Query}
    (wellTyped : query.WellTyped) :
    session.keyText modulePath query =
      (session.subject modulePath query).map QuerySubject.keyText := by
  cases query with
  | types given =>
      simp only [keyText, keyPartsOf, subject, pageSubject, listing, ListingForm.scope,
        Failure.map_eq_functor_map, map_bind, map_pure, bind_assoc, pure_bind]
      refine bind_congr fun options => bind_congr fun stamp => ?_
      rw [bind_pure_comp]
      exact session.map_fullText_pageKeyParts .types stamp options
  | members selection typeName given =>
      simp only [keyText, keyPartsOf, subject, pageSubject, listing, ListingForm.scope,
        Failure.map_eq_functor_map, map_bind, map_pure, bind_assoc, pure_bind, bind_map_left]
      refine bind_congr fun options => bind_congr fun name => bind_congr fun stamp => ?_
      rw [bind_pure_comp]
      exact session.map_fullText_pageKeyParts (.members selection name) stamp options
  | type view typeName caseSensitive =>
      obtain ⟨truth, rfl⟩ := wellTyped
      simp only [keyText, keyPartsOf, subject, typeSubject, Failure.map_eq_functor_map, map_bind]
      exact bind_congr fun name => bind_congr fun stamp => rfl
  | named view typeName memberName given =>
      simp only [keyText, keyPartsOf, subject, namedSubject, Failure.map_eq_functor_map, map_bind]
      refine bind_congr fun options => bind_congr fun name => bind_congr fun wanted =>
        bind_congr fun stamp => ?_
      refine congrArg Except.ok (CacheKey.fullText_congr ?_)
      simp [QuerySubject.keyParts, optionParts, visibilityFor, Value.ofNat,
        ResolvedOptions.map_partText_keyParts_resolve]

/-- Two prepared queries hash the same text exactly when they ask the same, and unless the digest
mixes up their two texts they share a key only then. -/
theorem keyText_eq_iff_subject_eq
    {first second : Session}
    {firstPath secondPath : Value}
    {firstQuery secondQuery : Query}
    {firstPlan secondPlan : Plan}
    (firstWellTyped : firstQuery.WellTyped)
    (secondWellTyped : secondQuery.WellTyped)
    (firstPlanned : first.plan firstPath firstQuery = .ok firstPlan)
    (secondPlanned : second.plan secondPath secondQuery = .ok secondPlan) :
    ∃ firstSubject secondSubject firstText secondText,
      first.subject firstPath firstQuery = .ok firstSubject ∧
      second.subject secondPath secondQuery = .ok secondSubject ∧
      first.keyText firstPath firstQuery = .ok firstText ∧
      second.keyText secondPath secondQuery = .ok secondText ∧
      firstPlan.cacheKey = CacheKey.ofText firstText ∧
      secondPlan.cacheKey = CacheKey.ofText secondText ∧
      (firstText = secondText ↔ firstSubject = secondSubject) ∧
      ((Digest.sha256Text firstText = Digest.sha256Text secondText →
          firstText = secondText) →
        (firstPlan.cacheKey = secondPlan.cacheKey ↔ firstSubject = secondSubject)) := by
  obtain ⟨firstSubject, firstFound, rfl⟩ :=
    exists_subject_of_plan firstWellTyped firstPlanned
  obtain ⟨secondSubject, secondFound, rfl⟩ :=
    exists_subject_of_plan secondWellTyped secondPlanned
  have firstText := first.keyText_eq firstPath firstWellTyped
  have secondText := second.keyText_eq secondPath secondWellTyped
  rw [firstFound] at firstText
  rw [secondFound] at secondText
  refine ⟨firstSubject, secondSubject, firstSubject.keyText, secondSubject.keyText, firstFound,
    secondFound, firstText, secondText, CacheKey.build_eq_ofText _ _ _,
    CacheKey.build_eq_ofText _ _ _, ?_, ?_⟩
  · exact ⟨QuerySubject.eq_of_keyText, congrArg QuerySubject.keyText⟩
  · intro apart
    exact ⟨QuerySubject.eq_of_cacheKey apart, congrArg QuerySubject.cacheKey⟩

/-- A bar in a name and its escape in another name make two texts. -/
theorem keyText_eq_iff_subject_eq_of_escapes :
    let session := overModule "lib|1,2" ⟨"Lib", "", []⟩
    ∃ firstText secondText,
      session.keyText (.text "lib|1,2") (.type .info (.text " A|B ") (.bool true)) =
        .ok firstText ∧
      session.keyText (.text "lib|1,2") (.type .info (.text "A%7CB") (.bool true)) =
        .ok secondText ∧
      firstText ≠ secondText := by
  intro session
  let stamp : ModuleStamp := ⟨"lib|1,2", "rev-1"⟩
  have wellTyped (name : String) :
      (Query.type .info (.text name) (.bool true)).WellTyped :=
    ⟨true, rfl⟩
  have firstFound :
      session.subject (.text "lib|1,2") (.type .info (.text " A|B ") (.bool true)) =
        .ok (.type .info stamp "A|B" true) :=
    Failure.eq_ok_of_toOption_eq_some (by decide +kernel)
  have secondFound :
      session.subject (.text "lib|1,2") (.type .info (.text "A%7CB") (.bool true)) =
        .ok (.type .info stamp "A%7CB" true) :=
    Failure.eq_ok_of_toOption_eq_some (by decide +kernel)
  obtain ⟨firstSubject, secondSubject, firstText, secondText, firstIs, secondIs, firstHashed,
    secondHashed, _, _, textsSame, _⟩ :=
    keyText_eq_iff_subject_eq (wellTyped " A|B ") (wellTyped "A%7CB")
      (plan_of_subject (wellTyped " A|B ") firstFound)
      (plan_of_subject (wellTyped "A%7CB") secondFound)
  refine ⟨firstText, secondText, firstHashed, secondHashed, fun same => ?_⟩
  have subjectsSame := textsSame.mp same
  rw [firstFound] at firstIs
  rw [secondFound] at secondIs
  cases firstIs
  cases secondIs
  exact absurd subjectsSame (by decide)

end Session

end TypeCatalog
