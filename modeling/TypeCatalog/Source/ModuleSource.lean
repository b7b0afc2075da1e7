import TypeCatalog.Files.Tree
import TypeCatalog.Metadata.TypeDefinition
import TypeCatalog.Query.Lookup
import TypeCatalog.Report.Error
import TypeCatalog.Source.Manifest

namespace TypeCatalog

/-!
# Where modules come from

A registry of modules in memory, and sources that open modules.
-/

/-!
## Registry

Modules that are held in memory under their paths.  Every registration under a path gets a new
revision, also after the path was free for a while, so no two contents share one.
-/

/-- Modules and the number of registrations of each path. -/
structure Registry where
  modules : List (String × ModuleDefinition)
  revisions : List (String × Nat)
deriving Repr

namespace Registry

/-- A registry without modules. -/
def empty : Registry :=
  ⟨[], []⟩

/-- The module under a path. -/
def module?
    (registry : Registry)
    (path : String) : Option ModuleDefinition :=
  registry.modules.lookup path

/-- The number of registrations of a path. -/
def revision
    (registry : Registry)
    (path : String) : Nat :=
  (registry.revisions.lookup path).getD 0

/-- Registers a module under a path, in the place of an earlier one. -/
def replace
    (registry : Registry)
    (path : String)
    (definition : ModuleDefinition) : Registry :=
  ⟨(path, definition.assignDeclarationOrder) ::
      registry.modules.filter fun entry => entry.1 != path,
    (path, registry.revision path + 1) ::
      registry.revisions.filter fun entry => entry.1 != path⟩

/-- Removes the module under a path. -/
def remove
    (registry : Registry)
    (path : String) : Registry :=
  { registry with modules := registry.modules.filter fun entry => entry.1 != path }

/-- A registry of several modules. -/
def ofList (modules : List (String × ModuleDefinition)) : Registry :=
  modules.foldl (fun registry entry => registry.replace entry.1 entry.2) empty

end Registry

/-!
## Sources of modules

A source says which modules there are and opens them.  A module is looked at before it is opened,
so it can be gone by then, and reading what is in it can fail.  The source counts how often modules
were opened and closed.
-/

/-- The identity of a module and of its content.  The fingerprint changes with the content. -/
structure ModuleStamp where
  path : String
  fingerprint : String
deriving Repr, DecidableEq

/-- Where modules come from: a registry, or manifests among the files. -/
inductive ModuleStore where
  | registry (modules : Registry)
  | manifests
deriving Repr

/-- How modules are read: in order, backwards, gone when they are opened, or unreadable. -/
inductive ReadingMode where
  | ordinary
  | backwards
  | vanishing
  | failing
deriving Repr, DecidableEq

/-- A source of modules. -/
structure ModuleSource where
  store : ModuleStore
  mode : ReadingMode
  opened : Nat
  closed : Nat
deriving Repr

/-- A module that is open. -/
structure OpenModule where
  path : String
  definition : ModuleDefinition
  mode : ReadingMode
deriving Repr

namespace OpenModule

/-- The name of the module. -/
def name (opened : OpenModule) : String :=
  opened.definition.name

/-- Items in the order in which the module is read. -/
def inReadingOrder
    {α : Type}
    (opened : OpenModule)
    (items : List α) : List α :=
  if opened.mode = .backwards then items.reverse else items

/-- All types of the module, nested ones included. -/
def types (opened : OpenModule) : Except Failure (List TypeDefinition) :=
  if opened.mode = .failing then
    .error (.crashed ⟨.notPossible, "enumeration failed"⟩)
  else
    .ok (opened.inReadingOrder opened.definition.allTypes)

/-- The members of a type that a query sees. -/
def membersOf
    (opened : OpenModule)
    (type : TypeDefinition)
    (visibility : Visibility) : List MemberFact :=
  opened.inReadingOrder (visibility.membersOf type)

/-- The type that a name means. -/
def type
    (opened : OpenModule)
    (typeName : String)
    (caseSensitive : Bool) : Except Failure TypeDefinition := do
  match TypeDefinition.find (← opened.types) typeName caseSensitive with
  | .found type => return type
  | .notFound _ => throw (.reported (.typeNotFound typeName opened.path))
  | .invalid reason => throw (.reported (.invalidArgument "type_name" reason []))

end OpenModule

namespace ModuleSource

/-- A source that nothing was opened from yet. -/
def ofStore (store : ModuleStore) : ModuleSource :=
  ⟨store, .ordinary, 0, 0⟩

/-- The number of modules that are open. -/
def openHandles (source : ModuleSource) : Int :=
  source.opened - source.closed

/-- The identity of the module at a path, if there is one. -/
def stamp?
    (source : ModuleSource)
    (files : FileTree)
    (path : String) : Except Crash (Option ModuleStamp) :=
  match source.store with
  | .registry modules =>
    .ok
      ((modules.module? path).map fun _ =>
        ⟨path, "rev-" ++ Text.decimal (modules.revision path)⟩)
  | .manifests =>
    (files.file? (.ofText path)).map fun found =>
      found.map fun file =>
        ⟨(files.resolve (.ofText path)).text,
          Text.decimal file.1.length ++ "-" ++ Text.decimal file.2⟩

/-- The identity of the module at the first of some paths that has one. -/
def firstStamp?
    (source : ModuleSource)
    (files : FileTree) : List String → Except Crash (Option ModuleStamp)
  | [] => .ok none
  | path :: rest => do
    match ← source.stamp? files path with
    | some stamp => return some stamp
    | none => source.firstStamp? files rest

/-- The module at a path, if there is one. -/
def module?
    (source : ModuleSource)
    (files : FileTree)
    (path : String) : Except Crash (Option (String × ModuleDefinition)) :=
  match source.store with
  | .registry modules => .ok ((modules.module? path).map fun definition => (path, definition))
  | .manifests => do
    match ← files.file? (.ofText path) with
    | none => return none
    | some file =>
      let definition ← Manifest.load (.ofText path) file.1
      return some ((files.resolve (.ofText path)).text, definition)

/-- A source whose registry no longer has a module. -/
def without
    (source : ModuleSource)
    (path : String) : ModuleSource :=
  match source.store with
  | .registry modules => { source with store := .registry (modules.remove path) }
  | .manifests => source

/-- The source at the moment of opening: a vanishing module goes. -/
def beforeOpening
    (source : ModuleSource)
    (path : String) : ModuleSource :=
  if source.mode = .vanishing then source.without path else source

/-- No module goes while modules are read in order. -/
theorem beforeOpening_of_ordinary
    {source : ModuleSource}
    (ordinary : source.mode = .ordinary)
    (path : String) :
    source.beforeOpening path = source := by
  rw [beforeOpening, ordinary, if_neg (by decide)]

/-- Opens the module at a path, if there is one. -/
def openModule
    (source : ModuleSource)
    (files : FileTree)
    (path : String) : Except Failure (Option OpenModule) × ModuleSource :=
  let source := source.beforeOpening path
  match source.module? files path with
  | .error crash => (.error (.crashed crash), source)
  | .ok none => (.ok none, source)
  | .ok (some (openPath, definition)) =>
    (.ok (some ⟨openPath, definition, source.mode⟩), { source with opened := source.opened + 1 })

/-- Closes a module. -/
def close (source : ModuleSource) : ModuleSource :=
  { source with closed := source.closed + 1 }

/-- Opens the module with a stamp, computes something from it and closes it again.  A module that is
gone by now is not found. -/
def withModule
    {α : Type}
    (source : ModuleSource)
    (files : FileTree)
    (stamp : ModuleStamp)
    (compute : OpenModule → Except Failure α) : Except Failure α × ModuleSource :=
  match source.openModule files stamp.path with
  | (.error failure, after) => (.error failure, after)
  | (.ok none, after) => (.error (.reported (.moduleNotFound stamp.path)), after)
  | (.ok (some opened), after) => (compute opened, after.close)

/-- Sources that know each path alike find the same path first. -/
theorem firstStamp?_congr
    {first second : ModuleSource}
    {files otherFiles : FileTree}
    (sameStamp : ∀ path, first.stamp? files path = second.stamp? otherFiles path)
    (paths : List String) :
    first.firstStamp? files paths = second.firstStamp? otherFiles paths := by
  induction paths with
  | nil =>
      rfl
  | cons path rest inductionHypothesis =>
      rw [firstStamp?, firstStamp?, inductionHypothesis, sameStamp]

/-- What is computed depends on what is opened alone. -/
theorem withModule_fst
    {α : Type}
    (source : ModuleSource)
    (files : FileTree)
    (stamp : ModuleStamp)
    (compute : OpenModule → Except Failure α) :
    (source.withModule files stamp compute).1 =
      (source.openModule files stamp.path).1.bind fun
        | none => .error (.reported (.moduleNotFound stamp.path))
        | some opened => compute opened := by
  unfold withModule
  rcases source.openModule files stamp.path with ⟨_ | _ | opened, after⟩ <;> rfl

end ModuleSource

end TypeCatalog
