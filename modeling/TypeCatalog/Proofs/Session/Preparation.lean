import TypeCatalog.Proofs.Session.Subject
import TypeCatalog.Proofs.Source.RedactedSource

namespace TypeCatalog.Session

/-!
# What is found out when a query is prepared

A query can be prepared when its options and names pass their checks, its path means a module, and
its page can be found.  What it is prepared as follows from these.

Two sessions with the same options, over sources that differ only in what a redaction leaves out,
prepare every query in the same way.  They answer a query alike when its answer can be computed from
what is left of the module.
-/

/-- What is prepared depends on the options and on the module that the path means. -/
theorem plan_congr
    {first second : Session}
    {modulePath : Value}
    (sameOptions : first.options = second.options)
    (sameModule : first.resolveModule modulePath = second.resolveModule modulePath)
    (query : Query) :
    first.plan modulePath query = second.plan modulePath query := by
  cases query with
  | types =>
      simp only [plan, planTypes, takeFor, optionParts, visibilityFor, sameModule, sameOptions]
  | members =>
      simp only [plan, planMembers, takeFor, optionParts, visibilityFor, sameModule, sameOptions]
  | type =>
      simp only [plan, planType, sameModule]
  | named =>
      simp only [plan, planNamed, optionParts, visibilityFor, sameModule, sameOptions]

/-- A query is prepared as a plan, with everything that is found out on the way. -/
inductive Prepares
    (session : Session)
    (modulePath : Value) : Query → Plan → Prop where
  | types
      {given : Value}
      {options : FilterOptions}
      {stamp : ModuleStamp}
      {keys : QueryKeys}
      (checked : (FilterOptions.checkOptional given).toExcept = .ok options)
      (resolved : session.resolveModule modulePath = .ok stamp)
      (keyed :
        QueryKeys.make .typeList stamp
          (session.optionParts options (session.takeFor .typeList options)) options.skip?
          options.continuationToken? = .ok keys) :
      Prepares session modulePath (.types given)
        ⟨.typeList, stamp, keys.cacheKey,
          Answer.typeListing stamp options (session.visibilityFor options)
            ⟨keys.offset, session.takeFor .typeList options, keys.salt⟩⟩
  | members
      {selection : MemberSelection}
      {typeName given : Value}
      {options : FilterOptions}
      {name : String}
      {stamp : ModuleStamp}
      {keys : QueryKeys}
      (checked : (FilterOptions.checkOptional given).toExcept = .ok options)
      (named : requireText "type_name" typeName = .ok name)
      (resolved : session.resolveModule modulePath = .ok stamp)
      (keyed :
        QueryKeys.make (.members selection) stamp
          (.text name ::
            session.optionParts options (session.takeFor (.members selection) options))
          options.skip? options.continuationToken? = .ok keys) :
      Prepares session modulePath (.members selection typeName given)
        ⟨.members selection, stamp, keys.cacheKey,
          Answer.memberListing stamp selection name options (session.visibilityFor options)
            ⟨keys.offset, session.takeFor (.members selection) options, keys.salt⟩⟩
  | type
      {view : TypeView}
      {typeName caseSensitive : Value}
      {name : String}
      {stamp : ModuleStamp}
      (named : requireText "type_name" typeName = .ok name)
      (resolved : session.resolveModule modulePath = .ok stamp) :
      Prepares session modulePath (.type view typeName caseSensitive)
        ⟨.type view, stamp,
          CacheKey.build (OperationKind.type view).word Limits.contractVersion
            [.text stamp.path, .text stamp.fingerprint, .text name, caseSensitive],
          Answer.typeView view name caseSensitive.isSomething⟩
  | named
      {view : NameView}
      {typeName memberName given : Value}
      {options : FilterOptions}
      {name wanted : String}
      {stamp : ModuleStamp}
      {keys : QueryKeys}
      (checked : (FilterOptions.checkOptional given).toExcept = .ok options)
      (named : requireText "type_name" typeName = .ok name)
      (memberNamed : requireText "member_name" memberName = .ok wanted)
      (resolved : session.resolveModule modulePath = .ok stamp)
      (keyed :
        QueryKeys.make (.named view) stamp
          (.text name :: .text wanted :: session.optionParts options 0) none none = .ok keys) :
      Prepares session modulePath (.named view typeName memberName given)
        ⟨.named view, stamp, keys.cacheKey,
          Answer.named stamp view name wanted options (session.visibilityFor options)⟩

/-- A query that can be prepared passes every stage of the preparation. -/
theorem prepares_of_plan
    {session : Session}
    {modulePath : Value}
    {query : Query}
    {plan : Plan}
    (planned : session.plan modulePath query = .ok plan) :
    session.Prepares modulePath query plan := by
  cases query with
  | types given =>
      obtain ⟨options, checked, planned⟩ := Failure.exists_of_bind_eq_ok planned
      obtain ⟨stamp, resolved, planned⟩ := Failure.exists_of_bind_eq_ok planned
      obtain ⟨keys, keyed, planned⟩ := Failure.exists_of_bind_eq_ok planned
      cases planned
      exact .types checked resolved keyed
  | members selection typeName given =>
      obtain ⟨options, checked, planned⟩ := Failure.exists_of_bind_eq_ok planned
      obtain ⟨name, named, planned⟩ := Failure.exists_of_bind_eq_ok planned
      obtain ⟨stamp, resolved, planned⟩ := Failure.exists_of_bind_eq_ok planned
      obtain ⟨keys, keyed, planned⟩ := Failure.exists_of_bind_eq_ok planned
      cases planned
      exact .members checked named resolved keyed
  | type view typeName caseSensitive =>
      obtain ⟨name, named, planned⟩ := Failure.exists_of_bind_eq_ok planned
      obtain ⟨stamp, resolved, planned⟩ := Failure.exists_of_bind_eq_ok planned
      cases planned
      exact .type named resolved
  | named view typeName memberName given =>
      obtain ⟨options, checked, planned⟩ := Failure.exists_of_bind_eq_ok planned
      obtain ⟨name, named, planned⟩ := Failure.exists_of_bind_eq_ok planned
      obtain ⟨wanted, memberNamed, planned⟩ := Failure.exists_of_bind_eq_ok planned
      obtain ⟨stamp, resolved, planned⟩ := Failure.exists_of_bind_eq_ok planned
      obtain ⟨keys, keyed, planned⟩ := Failure.exists_of_bind_eq_ok planned
      cases planned
      exact .named checked named memberNamed resolved keyed

/-! ## Sessions over alike sources -/

/-- Two sessions with the same options over sources that differ only in what a redaction leaves
out. -/
structure AlikeThrough
    (redaction : Redaction)
    (first second : Session) : Prop where
  source : first.source.AlikeThrough redaction second.source
  options_eq : first.options = second.options

namespace AlikeThrough

variable {redaction : Redaction} {first second : Session}

/-- Two sessions that start over one module each are alike if the modules are. -/
theorem overModule
    {definition other : ModuleDefinition}
    (sameModule :
      redaction.module definition.assignDeclarationOrder =
        redaction.module other.assignDeclarationOrder)
    (path : String) :
    (overModule path definition).AlikeThrough redaction (overModule path other) :=
  ⟨⟨⟨_, _, rfl, rfl, (Registry.AlikeThrough.refl redaction _).replace sameModule path⟩, rfl⟩, rfl⟩

/-- A path means the same module, with the same fingerprint. -/
theorem resolveModule_eq
    (alike : first.AlikeThrough redaction second)
    (modulePath : Value) :
    first.resolveModule modulePath = second.resolveModule modulePath := by
  simp only [resolveModule, alike.options_eq,
    alike.source.firstStamp?_eq first.files second.files]

/-- A query is prepared in the same way. -/
theorem plan_eq
    (alike : first.AlikeThrough redaction second)
    (modulePath : Value)
    (query : Query) :
    first.plan modulePath query = second.plan modulePath query :=
  plan_congr alike.options_eq (alike.resolveModule_eq modulePath) query

theorem lifetime_eq
    (alike : first.AlikeThrough redaction second) :
    first.lifetime = second.lifetime := by
  rw [lifetime, lifetime, alike.options_eq]

/-- An answer that is computed from what is left of the module is made alike. -/
theorem produce_eq
    {plan : Plan}
    (alike : first.AlikeThrough redaction second)
    (fromRedaction : ∀ opened, plan.compute (redaction.opened opened) = plan.compute opened) :
    (first.produce plan).1 = (second.produce plan).1 := by
  apply alike.source.withModule_eq
  intro opened
  rw [fromRedaction]

end AlikeThrough

end TypeCatalog.Session
