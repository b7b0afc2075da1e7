import TypeCatalog.Proofs.Text.Numeral
import TypeCatalog.Source.ModuleSource

namespace TypeCatalog

/-!
# Fingerprints in a registry

A registry follows an earlier one when no revision went back and a path at the revision of then
holds the module of then, if any.  Replacing and removing modules leads to registries that follow,
so a fingerprint never comes back for another module, also after the path was free for a while.
-/

namespace Registry

/-- The fingerprint of the module under a path. -/
def fingerprint
    (registry : Registry)
    (path : String) : String :=
  "rev-" ++ Text.decimal (registry.revision path)

/-- Two fingerprints are the same exactly when the revisions are. -/
theorem revision_eq_of_fingerprint_eq
    {first second : Registry}
    {path : String}
    (same : first.fingerprint path = second.fingerprint path) :
    first.revision path = second.revision path := by
  have charactersSame := congrArg String.toList same
  simp only [fingerprint, String.toList_append] at charactersSame
  exact Text.decimal_injective
    (String.toList_injective (List.append_cancel_left charactersSame))

private theorem lookup_filter_ne
    {α : Type}
    {path other : String}
    (entries : List (String × α))
    (different : other ≠ path) :
    (entries.filter fun entry => entry.1 != path).lookup other = entries.lookup other := by
  induction entries with
  | nil =>
      rfl
  | cons entry rest inductionHypothesis =>
      obtain ⟨name, value⟩ := entry
      by_cases isPath : name = path
      · have notOther : (other == name) = false := by
          rw [isPath]
          exact beq_eq_false_iff_ne.mpr different
        simp only [List.filter_cons, isPath, bne_self_eq_false, Bool.false_eq_true, if_false,
          inductionHypothesis]
        rw [List.lookup_cons, ← isPath, notOther]
      · simp only [List.filter_cons, bne_iff_ne, ne_eq, isPath, not_false_eq_true, if_true,
          List.lookup_cons, inductionHypothesis]

private theorem lookup_filter_self
    {α : Type}
    (entries : List (String × α))
    (path : String) :
    (entries.filter fun entry => entry.1 != path).lookup path = none := by
  rw [List.lookup_eq_none_iff]
  intro entry member
  have kept : entry.1 ≠ path := bne_iff_ne.mp (List.mem_filter.mp member).2
  exact bne_iff_ne.mpr (Ne.symm kept)

theorem revision_replace_self
    (registry : Registry)
    (path : String)
    (definition : ModuleDefinition) :
    (registry.replace path definition).revision path = registry.revision path + 1 := by
  simp [revision, replace]

theorem revision_replace_of_ne
    {path other : String}
    (registry : Registry)
    (definition : ModuleDefinition)
    (different : other ≠ path) :
    (registry.replace path definition).revision other = registry.revision other := by
  have notPath : (other == path) = false := beq_eq_false_iff_ne.mpr different
  simp only [revision, replace, List.lookup_cons, notPath]
  rw [lookup_filter_ne registry.revisions different]

theorem module?_replace_of_ne
    {path other : String}
    (registry : Registry)
    (definition : ModuleDefinition)
    (different : other ≠ path) :
    (registry.replace path definition).module? other = registry.module? other := by
  have notPath : (other == path) = false := beq_eq_false_iff_ne.mpr different
  simp only [module?, replace, List.lookup_cons, notPath]
  rw [lookup_filter_ne registry.modules different]

theorem module?_replace_self
    (registry : Registry)
    (path : String)
    (definition : ModuleDefinition) :
    (registry.replace path definition).module? path =
      some definition.assignDeclarationOrder := by
  simp [module?, replace]

theorem module?_remove_self
    (registry : Registry)
    (path : String) :
    (registry.remove path).module? path = none :=
  lookup_filter_self registry.modules path

theorem module?_remove_of_ne
    {path other : String}
    (registry : Registry)
    (different : other ≠ path) :
    (registry.remove path).module? other = registry.module? other :=
  lookup_filter_ne registry.modules different

/-- A registry that an earlier one can have become. -/
structure Follows (later earlier : Registry) : Prop where
  revision_le : ∀ path, earlier.revision path ≤ later.revision path
  module_eq :
    ∀ {path definition},
      later.revision path = earlier.revision path →
        later.module? path = some definition →
          earlier.module? path = some definition

namespace Follows

theorem refl (registry : Registry) : registry.Follows registry :=
  ⟨fun _ => Nat.le_refl _, fun _ present => present⟩

theorem trans
    {latest later earlier : Registry}
    (second : latest.Follows later)
    (first : later.Follows earlier) :
    latest.Follows earlier := by
  refine ⟨fun path => Nat.le_trans (first.revision_le path) (second.revision_le path), ?_⟩
  intro path definition sameRevision present
  have firstBound := first.revision_le path
  have secondBound := second.revision_le path
  exact first.module_eq (by omega) (second.module_eq (by omega) present)

theorem replace
    (registry : Registry)
    (path : String)
    (definition : ModuleDefinition) :
    (registry.replace path definition).Follows registry := by
  constructor
  · intro other
    by_cases isPath : other = path
    · rw [isPath, revision_replace_self]
      exact Nat.le_succ _
    · exact Nat.le_of_eq (revision_replace_of_ne registry definition isPath).symm
  · intro other present sameRevision found
    by_cases isPath : other = path
    · rw [isPath, revision_replace_self] at sameRevision
      omega
    · rw [module?_replace_of_ne registry definition isPath] at found
      exact found

theorem remove
    (registry : Registry)
    (path : String) :
    (registry.remove path).Follows registry := by
  refine ⟨fun _ => Nat.le_refl _, ?_⟩
  intro other definition _ found
  by_cases isPath : other = path
  · rw [isPath, module?_remove_self] at found
    cases found
  · rw [module?_remove_of_ne registry isPath] at found
    exact found

/-- Under the fingerprint of then stands the module of then. -/
theorem module?_eq_of_fingerprint_eq
    {later earlier : Registry}
    {path : String}
    {now before : ModuleDefinition}
    (follows : later.Follows earlier)
    (sameFingerprint : later.fingerprint path = earlier.fingerprint path)
    (presentNow : later.module? path = some now)
    (presentBefore : earlier.module? path = some before) :
    now = before := by
  have stillThere :=
    follows.module_eq (revision_eq_of_fingerprint_eq sameFingerprint) presentNow
  rw [presentBefore] at stillThere
  exact (Option.some.inj stillThere).symm

end Follows

end Registry

namespace ModuleSource

/-- A source that looks up modules in a registry and reads them in order. -/
structure Serves
    (source : ModuleSource)
    (modules : Registry) : Prop where
  store_eq : source.store = .registry modules
  mode_eq : source.mode = .ordinary

/-- A source whose registry has a module under a path, in the place of an earlier one. -/
def having
    (source : ModuleSource)
    (path : String)
    (definition : ModuleDefinition) : ModuleSource :=
  match source.store with
  | .registry modules => { source with store := .registry (modules.replace path definition) }
  | .manifests => source

namespace Serves

variable {source : ModuleSource} {modules : Registry}

theorem having
    (serves : source.Serves modules)
    (path : String)
    (definition : ModuleDefinition) :
    (source.having path definition).Serves (modules.replace path definition) := by
  unfold ModuleSource.having
  rw [serves.store_eq]
  exact ⟨rfl, serves.mode_eq⟩

theorem without
    (serves : source.Serves modules)
    (path : String) :
    (source.without path).Serves (modules.remove path) := by
  unfold ModuleSource.without
  rw [serves.store_eq]
  exact ⟨rfl, serves.mode_eq⟩

/-- A module that is found is in the registry, and its stamp has the fingerprint of now. -/
theorem module_of_firstStamp?
    {files : FileTree}
    {paths : List String}
    {stamp : ModuleStamp}
    (serves : source.Serves modules)
    (found : source.firstStamp? files paths = .ok (some stamp)) :
    (∃ definition, modules.module? stamp.path = some definition) ∧
      stamp.fingerprint = modules.fingerprint stamp.path := by
  induction paths with
  | nil =>
      cases found
  | cons path rest inductionHypothesis =>
      simp only [firstStamp?, stamp?, serves.store_eq] at found
      cases present : modules.module? path with
      | none =>
          rw [present] at found
          exact inductionHypothesis found
      | some definition =>
          rw [present] at found
          cases found
          exact ⟨⟨definition, present⟩, rfl⟩

/-- Opening a module that is in the registry gives that module. -/
theorem openModule_of_present
    {path : String}
    {definition : ModuleDefinition}
    (serves : source.Serves modules)
    (present : modules.module? path = some definition)
    (files : FileTree) :
    source.openModule files path =
      (.ok (some ⟨path, definition, .ordinary⟩), { source with opened := source.opened + 1 }) := by
  simp only [openModule, beforeOpening_of_ordinary serves.mode_eq, module?, serves.store_eq,
    present, Option.map_some, serves.mode_eq]

/-- Working with a module that is in the registry opens that module and leaves the registry
alone. -/
theorem withModule_of_present
    {α : Type}
    {stamp : ModuleStamp}
    {definition : ModuleDefinition}
    (serves : source.Serves modules)
    (present : modules.module? stamp.path = some definition)
    (files : FileTree)
    (compute : OpenModule → Except Failure α) :
    (source.withModule files stamp compute).1 =
        compute ⟨stamp.path, definition, .ordinary⟩ ∧
      (source.withModule files stamp compute).2.Serves modules := by
  rw [withModule, serves.openModule_of_present present files]
  exact ⟨rfl, ⟨serves.store_eq, serves.mode_eq⟩⟩

/-- Working with a module leaves the registry alone, whether the module is in it or not. -/
theorem serves_withModule
    {α : Type}
    (serves : source.Serves modules)
    (files : FileTree)
    (stamp : ModuleStamp)
    (compute : OpenModule → Except Failure α) :
    (source.withModule files stamp compute).2.Serves modules := by
  cases present : modules.module? stamp.path with
  | some definition =>
      exact (serves.withModule_of_present present files compute).2
  | none =>
      simp only [withModule, openModule, beforeOpening_of_ordinary serves.mode_eq, module?,
        serves.store_eq, present, Option.map_none]
      exact serves

end Serves

end ModuleSource

end TypeCatalog
