import TypeCatalog.Answer.Kind
import TypeCatalog.Session.Basic

namespace TypeCatalog

/-!
# Changing runtime options

A change names the settings that it touches and leaves the others alone.  Page sizes are merged into
those in force, search roots are added and taken out.
-/

/-- Changes of runtime options.  A setting without a value stays as it is. -/
structure OptionChanges where
  defaultPageSize : Value
  pageSizeOverrides : Value
  cacheLifetime : Value
  includeNonPublic : Value
  addedRoots : Value
  removedRoots : Value
deriving Repr

namespace OptionChanges

/-- No changes. -/
def none : OptionChanges :=
  ⟨.null, .null, .null, .null, .null, .null⟩

/-- Whether a value is the number zero. -/
def isZero : Value → Bool
  | .int number => number = 0
  | .bool truth => !truth
  | .float number => number.equal (Binary64.zero false)
  | _ => false

/-- Merges page sizes; the size zero takes out the page size of a kind. -/
def mergeOverrides
    (current changes : List (Key × Value)) : List (Key × Value) :=
  changes.foldl
    (fun overrides change =>
      if isZero change.2 then
        overrides.filter fun entry => !entry.1.same change.1
      else
        Value.insert overrides change.1 change.2)
    current

/-- Adds search roots that are not there yet, then takes out others. -/
def mergeRoots (current added removed : List String) : List String :=
  (added.foldl (fun roots root => if roots.contains root then roots else roots ++ [root])
    current).filter fun root => !removed.contains root

/-- The entry for a setting, if it has a value. -/
def setting
    (name : String)
    (value : Value) : List (Key × Value) :=
  match value with
  | .null => []
  | _ => [(.text name, value)]

/-- The page sizes in force, as entries. -/
def currentOverrides (options : RuntimeOptions) : List (Key × Value) :=
  options.pageSizeOverrides.map fun entry => (.text entry.1, .int entry.2)

/-- The page sizes that a value asks for; what counts as nothing asks for none. -/
def requestedOverrides (value : Value) : Except Failure (List (Key × Value)) :=
  match value with
  | .map entries => .ok entries
  | other =>
    if other.isSomething then .error (.crashed (.lacking other.formWord "items")) else .ok []

/-- The entries that changes set, with resolved search roots. -/
def toEntries
    (changes : OptionChanges)
    (current : RuntimeOptions)
    (added removed : List String) : Except Failure (List (Key × Value)) := do
  let overrides ← requestedOverrides changes.pageSizeOverrides
  return setting "default_page_size" changes.defaultPageSize ++
    setting "cache_ttl_seconds" changes.cacheLifetime ++
    setting "include_non_public_by_default" changes.includeNonPublic ++
    (if overrides.isEmpty then []
    else
      [(.text "page_size_overrides",
        .map (mergeOverrides (currentOverrides current) overrides))]) ++
    (if added.isEmpty && removed.isEmpty then []
    else
      [(.text "search_roots", .ofTexts (mergeRoots current.searchRoots added removed))])

/-- The names of changed settings, in order. -/
def changedNames (entries : List (Key × Value)) : List String :=
  (entries.map fun entry => Json.keyName entry.1).mergeSort Text.atMost

end OptionChanges

namespace Session

/-- The items of a value that should be a list of paths.  What counts as nothing has none, a text
has its characters and a mapping its keys. -/
def pathItems (value : Value) : Except Crash (List Value) :=
  match value with
  | .list items => .ok items
  | .map entries => .ok (entries.map fun entry => entry.1.toValue)
  | .text content => .ok (content.toList.map fun c => .text (String.singleton c))
  | other =>
    if other.isSomething then
      .error ⟨.wrongType, "'" ++ other.formWord ++ "' object is not iterable"⟩
    else
      .ok []

/-- A search root with the home directory in the place of a tilde. -/
def expandRoot
    (session : Session)
    (root : Value) : Except Crash FilePath :=
  match root with
  | .text content => session.files.expandHome (.ofText content)
  | other =>
    .error ⟨.wrongType,
      "expected str, bytes or os.PathLike object, not " ++ other.formWord⟩

/-- The place of a search root that must be a directory. -/
def checkedRoot
    (session : Session)
    (root : Value) : Except Failure String := do
  let found := do
    let path ← session.expandRoot root
    return (path, ← session.files.isDirectory path)
  match found with
  | .error crash => throw (.crashed crash)
  | .ok (path, true) => return (session.files.resolve path).text
  | .ok (_, false) =>
    throw
      (.reported
        (.invalidArgument "add_search_roots" ("not a directory: " ++ root.display) []))

/-- The place of a search root that is taken out. -/
def resolvedRoot
    (session : Session)
    (root : Value) : Except Failure String :=
  match session.expandRoot root with
  | .error crash => .error (.crashed crash)
  | .ok path =>
    if path.hasNull then .error (.crashed FileTree.nullCrash)
    else .ok (session.files.resolve path).text

/-- The places that a change names, each found in the same way. -/
def rootsOf
    (value : Value)
    (place : Value → Except Failure String) : Except Failure (List String) :=
  match pathItems value with
  | .error crash => .error (.crashed crash)
  | .ok items => items.mapM place

/-- Changed options and the names of the changed settings. -/
def changedOptions
    (session : Session)
    (changes : OptionChanges) : Except Failure (RuntimeOptions × List String) := do
  let added ← rootsOf changes.addedRoots session.checkedRoot
  let removed ← rootsOf changes.removedRoots session.resolvedRoot
  let entries ← changes.toEntries session.options added removed
  let options ← (session.options.update entries).toExcept
  return (options, OptionChanges.changedNames entries)

/-- Changes the runtime options.  They are in force before the answer is made. -/
def updateOptions
    (session : Session)
    (requestId : String)
    (changes : OptionChanges) : Envelope × Session :=
  match session.changedOptions changes with
  | .error failure => (conclude requestId (.error failure), session)
  | .ok (options, changed) =>
    (conclude requestId
        (envelopeOf OperationKind.runtimeOptions.word
          (.record [("options", options.toValue), ("changed", .ofTexts changed)])),
      { session with options := options })

/-- Shows the runtime options. -/
def showOptions
    (session : Session)
    (requestId : String) : Envelope :=
  conclude requestId
    (envelopeOf OperationKind.runtimeOptions.word
      (.record [("options", session.options.toValue)]))

end Session

end TypeCatalog
