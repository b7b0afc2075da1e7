import TypeCatalog.Answer.Listing
import TypeCatalog.Answer.TypeView
import TypeCatalog.Cache.Key
import TypeCatalog.Session.Basic
import TypeCatalog.Value.Quantity

namespace TypeCatalog

/-!
# Queries

A query is prepared without opening a module: its arguments are checked, the module is found, and a
key is made of everything that the answer depends on.  The module is opened only when there is no
answer under that key.
-/

/-- What is asked about a module.  Names and options are checked when the query is prepared. -/
inductive Query where
  | types (options : Value)
  | members (selection : MemberSelection) (typeName options : Value)
  | type (view : TypeView) (typeName caseSensitive : Value)
  | named (view : NameView) (typeName memberName options : Value)
deriving Repr

/-- The kind of a query. -/
def Query.kind : Query → OperationKind
  | .types _ => .typeList
  | .members selection .. => .members selection
  | .type view .. => .type view
  | .named view .. => .named view

/-- A query about the module at a path, with or without the cache. -/
structure QueryCall where
  modulePath : Value
  query : Query
  noCache : Bool
deriving Repr

/-- A prepared query: the module, the key of the answer, and how the answer follows from the open
module. -/
structure Plan where
  kind : OperationKind
  stamp : ModuleStamp
  cacheKey : String
  compute : OpenModule → Except Failure Value

/-- Where the page of a query starts, and the keys of the query with and without this start. -/
structure QueryKeys where
  salt : String
  offset : Nat
  cacheKey : String
deriving Repr, DecidableEq

namespace QueryKeys

/-- The keys of a query whose answer depends on the given parts, on the module and on the place
where the page starts. -/
def make
    (kind : OperationKind)
    (stamp : ModuleStamp)
    (parts : List Value)
    (skip? : Option Nat)
    (token? : Option String) : Except Failure QueryKeys := do
  let base := .text stamp.path :: .text stamp.fingerprint :: parts
  let salt :=
    ContinuationToken.saltOf (CacheKey.build kind.word Limits.contractVersion base)
  let offset ← ContinuationToken.resolveOffset (skip?.map fun skip => (skip : Int)) token? salt
  return ⟨salt, offset.toNat,
    CacheKey.build kind.word Limits.contractVersion (base ++ [.text "offset", .int offset])⟩

end QueryKeys

namespace Session

/-- What a query with options sees. -/
def visibilityFor
    (session : Session)
    (options : FilterOptions) : Visibility :=
  options.visibility session.options.includeNonPublic

/-- The number of items on a page of a query with options. -/
def takeFor
    (session : Session)
    (kind : OperationKind)
    (options : FilterOptions) : Nat :=
  options.maxItems?.getD (session.options.pageSizeFor kind.word).toNat

/-- The parts of a key that stand for the options of a query. -/
def optionParts
    (session : Session)
    (options : FilterOptions)
    (take : Nat) : List Value :=
  options.keyParts (session.visibilityFor options).nonPublicMembers take

/-- Prepares a listing of types. -/
def planTypes
    (session : Session)
    (modulePath given : Value) : Except Failure Plan := do
  let options ← (FilterOptions.checkOptional given).toExcept
  let stamp ← session.resolveModule modulePath
  let take := session.takeFor .typeList options
  let keys ←
    QueryKeys.make .typeList stamp (session.optionParts options take) options.skip?
      options.continuationToken?
  return ⟨.typeList, stamp, keys.cacheKey,
    Answer.typeListing stamp options (session.visibilityFor options)
      ⟨keys.offset, take, keys.salt⟩⟩

/-- Prepares a listing of members. -/
def planMembers
    (session : Session)
    (modulePath : Value)
    (selection : MemberSelection)
    (typeName given : Value) : Except Failure Plan := do
  let options ← (FilterOptions.checkOptional given).toExcept
  let name ← requireText "type_name" typeName
  let stamp ← session.resolveModule modulePath
  let take := session.takeFor (.members selection) options
  let keys ←
    QueryKeys.make (.members selection) stamp (.text name :: session.optionParts options take)
      options.skip? options.continuationToken?
  return ⟨.members selection, stamp, keys.cacheKey,
    Answer.memberListing stamp selection name options (session.visibilityFor options)
      ⟨keys.offset, take, keys.salt⟩⟩

/-- Prepares a view of a type. -/
def planType
    (session : Session)
    (modulePath : Value)
    (view : TypeView)
    (typeName caseSensitive : Value) : Except Failure Plan := do
  let name ← requireText "type_name" typeName
  let stamp ← session.resolveModule modulePath
  return ⟨.type view, stamp,
    CacheKey.build (OperationKind.type view).word Limits.contractVersion
      [.text stamp.path, .text stamp.fingerprint, .text name, caseSensitive],
    Answer.typeView view name caseSensitive.isSomething⟩

/-- Prepares a query for members by name.  It has no pages, so options about them do not matter. -/
def planNamed
    (session : Session)
    (modulePath : Value)
    (view : NameView)
    (typeName memberName given : Value) : Except Failure Plan := do
  let options ← (FilterOptions.checkOptional given).toExcept
  let name ← requireText "type_name" typeName
  let wanted ← requireText "member_name" memberName
  let stamp ← session.resolveModule modulePath
  let keys ←
    QueryKeys.make (.named view) stamp
      (.text name :: .text wanted :: session.optionParts options 0) none none
  return ⟨.named view, stamp, keys.cacheKey,
    Answer.named stamp view name wanted options (session.visibilityFor options)⟩

/-- Prepares a query. -/
def plan
    (session : Session)
    (modulePath : Value) : Query → Except Failure Plan
  | .types options => session.planTypes modulePath options
  | .members selection typeName options =>
    session.planMembers modulePath selection typeName options
  | .type view typeName caseSensitive => session.planType modulePath view typeName caseSensitive
  | .named view typeName memberName options =>
    session.planNamed modulePath view typeName memberName options

/-- Opens the module of a prepared query and makes the answer. -/
def produce
    (session : Session)
    (plan : Plan) : Except Failure Envelope × ModuleSource :=
  session.source.withModule session.files plan.stamp fun opened => do
    envelopeOf plan.kind.word (← plan.compute opened)

/-- The lifetime of an answer in the cache, unless it is too long for the clock. -/
def lifetime (session : Session) : Except Failure Binary64 :=
  (Quantity.whole session.options.effectiveLifetime).toDouble.mapError .crashed

/-- Answers a query, from the cache if it may and can. -/
def answerQuery
    (session : Session)
    (requestId : String)
    (call : QueryCall) : Envelope × Session :=
  match session.plan call.modulePath call.query with
  | .error failure => (conclude requestId (.error failure), session)
  | .ok plan =>
    let executed :=
      session.cache.execute plan.cacheKey session.lifetime call.noCache
        (fun _ => session.produce plan) session.source
    (conclude requestId executed.1,
      { session with cache := executed.2.1, source := executed.2.2 })

end Session

end TypeCatalog
