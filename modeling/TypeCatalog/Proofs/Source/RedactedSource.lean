import TypeCatalog.Proofs.Metadata.Redaction
import TypeCatalog.Proofs.Source.ReadingOrder
import TypeCatalog.Proofs.Source.Registry

namespace TypeCatalog

/-!
# Sources that differ in what is left out

Two registries may hold modules that differ only in what a redaction leaves out.  Then the same
paths are found with the same fingerprints, and whatever is computed from the redaction of a module
alone is computed alike from both.
-/

namespace Redaction

variable (redaction : Redaction)

/-- What is left of a module that is open. -/
def opened (module : OpenModule) : OpenModule :=
  { module with definition := redaction.module module.definition }

/-- Changed items are read in the order in which the items are read. -/
theorem inReadingOrder_opened_map
    {α β : Type}
    (module : OpenModule)
    (change : α → β)
    (items : List α) :
    (redaction.opened module).inReadingOrder (items.map change) =
      (module.inReadingOrder items).map change := by
  have sameMode : (redaction.opened module).mode = module.mode := rfl
  rw [OpenModule.inReadingOrder, OpenModule.inReadingOrder, sameMode]
  split
  · exact List.map_reverse.symm
  · rfl

theorem types_opened (module : OpenModule) :
    (redaction.opened module).types = module.types.map (List.map redaction.type) := by
  have sameMode : (redaction.opened module).mode = module.mode := rfl
  have inOrder :=
    redaction.inReadingOrder_opened_map module redaction.type module.definition.allTypes
  rw [← allTypes_module] at inOrder
  rw [OpenModule.types, OpenModule.types, sameMode]
  split
  · rfl
  · exact congrArg Except.ok inOrder

/-- A name means what is left of the type that it meant, or nothing as before. -/
theorem type_opened
    (module : OpenModule)
    (typeName : String)
    (caseSensitive : Bool) :
    (redaction.opened module).type typeName caseSensitive =
      (module.type typeName caseSensitive).map redaction.type := by
  unfold OpenModule.type
  rw [types_opened]
  rcases module.types with failure | types
  · rfl
  · simp only [Except.map, bind, Except.bind]
    rw [find_map]
    cases TypeDefinition.find types typeName caseSensitive <;> rfl

end Redaction

/-- Two registries with modules under the same paths, at the same revisions, that differ only in
what a redaction leaves out. -/
structure Registry.AlikeThrough
    (redaction : Redaction)
    (first second : Registry) : Prop where
  module?_eq :
    ∀ path,
      (first.module? path).map redaction.module = (second.module? path).map redaction.module
  revision_eq : ∀ path, first.revision path = second.revision path

namespace Registry.AlikeThrough

variable {redaction : Redaction} {first second : Registry}

theorem refl
    (redaction : Redaction)
    (modules : Registry) :
    modules.AlikeThrough redaction modules :=
  ⟨fun _ => rfl, fun _ => rfl⟩

/-- Modules that are replaced by alike modules leave alike registries. -/
theorem replace
    {definition other : ModuleDefinition}
    (alike : first.AlikeThrough redaction second)
    (sameModule :
      redaction.module definition.assignDeclarationOrder =
        redaction.module other.assignDeclarationOrder)
    (path : String) :
    (first.replace path definition).AlikeThrough redaction (second.replace path other) := by
  constructor
  · intro place
    by_cases isPath : place = path
    · rw [isPath, module?_replace_self, module?_replace_self, Option.map_some, Option.map_some,
        sameModule]
    · rw [module?_replace_of_ne _ _ isPath, module?_replace_of_ne _ _ isPath]
      exact alike.module?_eq place
  · intro place
    by_cases isPath : place = path
    · rw [isPath, revision_replace_self, revision_replace_self, alike.revision_eq]
    · rw [revision_replace_of_ne _ _ isPath, revision_replace_of_ne _ _ isPath]
      exact alike.revision_eq place

theorem remove
    (alike : first.AlikeThrough redaction second)
    (path : String) :
    (first.remove path).AlikeThrough redaction (second.remove path) := by
  refine ⟨fun place => ?_, alike.revision_eq⟩
  by_cases isPath : place = path
  · rw [isPath, module?_remove_self, module?_remove_self]
  · rw [module?_remove_of_ne _ isPath, module?_remove_of_ne _ isPath]
    exact alike.module?_eq place

end Registry.AlikeThrough

namespace ModuleSource

/-- Two sources over registries that differ only in what a redaction leaves out, and that read their
modules in the same way. -/
structure AlikeThrough
    (redaction : Redaction)
    (first second : ModuleSource) : Prop where
  overRegistries :
    ∃ modules others : Registry,
      first.store = .registry modules ∧
        second.store = .registry others ∧ modules.AlikeThrough redaction others
  mode_eq : first.mode = second.mode

namespace AlikeThrough

variable {redaction : Redaction} {first second : ModuleSource}

theorem stamp?_eq
    (alike : first.AlikeThrough redaction second)
    (files otherFiles : FileTree)
    (path : String) :
    first.stamp? files path = second.stamp? otherFiles path := by
  obtain ⟨modules, others, firstStore, secondStore, registriesAlike⟩ := alike.overRegistries
  have sameModule := registriesAlike.module?_eq path
  simp only [stamp?, firstStore, secondStore, registriesAlike.revision_eq path]
  cases here : modules.module? path <;> cases there : others.module? path <;>
    simp [here, there] at sameModule ⊢

/-- The same paths are found, with the same fingerprints. -/
theorem firstStamp?_eq
    (alike : first.AlikeThrough redaction second)
    (files otherFiles : FileTree)
    (paths : List String) :
    first.firstStamp? files paths = second.firstStamp? otherFiles paths :=
  firstStamp?_congr (alike.stamp?_eq files otherFiles) paths

theorem without
    (alike : first.AlikeThrough redaction second)
    (path : String) :
    (first.without path).AlikeThrough redaction (second.without path) := by
  obtain ⟨⟨modules, others, firstStore, secondStore, registriesAlike⟩, sameMode⟩ := alike
  simp only [ModuleSource.without, firstStore, secondStore]
  exact ⟨⟨_, _, rfl, rfl, registriesAlike.remove path⟩, sameMode⟩

theorem having
    {definition other : ModuleDefinition}
    (alike : first.AlikeThrough redaction second)
    (sameModule :
      redaction.module definition.assignDeclarationOrder =
        redaction.module other.assignDeclarationOrder)
    (path : String) :
    (first.having path definition).AlikeThrough redaction (second.having path other) := by
  obtain ⟨⟨modules, others, firstStore, secondStore, registriesAlike⟩, sameMode⟩ := alike
  simp only [ModuleSource.having, firstStore, secondStore]
  exact ⟨⟨_, _, rfl, rfl, registriesAlike.replace sameModule path⟩, sameMode⟩

/-- Opening gives modules that differ only in what is left out, or nothing in both. -/
theorem openModule_eq
    (alike : first.AlikeThrough redaction second)
    (files otherFiles : FileTree)
    (path : String) :
    (first.openModule files path).1.map (Option.map redaction.opened) =
      (second.openModule otherFiles path).1.map (Option.map redaction.opened) := by
  have readyAlike :
      (first.beforeOpening path).AlikeThrough redaction (second.beforeOpening path) := by
    unfold beforeOpening
    rw [alike.mode_eq]
    split
    · exact alike.without path
    · exact alike
  unfold openModule
  generalize first.beforeOpening path = one at readyAlike ⊢
  generalize second.beforeOpening path = other at readyAlike ⊢
  obtain ⟨⟨modules, others, firstStore, secondStore, registriesAlike⟩, sameMode⟩ := readyAlike
  have sameModule := registriesAlike.module?_eq path
  simp only [module?, firstStore, secondStore]
  cases here : modules.module? path <;> cases there : others.module? path <;>
    simp [here, there] at sameModule ⊢
  simp [Except.map, Redaction.opened, sameModule, sameMode]

/-- What is computed from the redaction of a module alone is computed alike from both. -/
theorem withModule_eq
    {α : Type}
    {compute : OpenModule → Except Failure α}
    (alike : first.AlikeThrough redaction second)
    (fromRedaction : ∀ module, compute (redaction.opened module) = compute module)
    (files otherFiles : FileTree)
    (stamp : ModuleStamp) :
    (first.withModule files stamp compute).1 = (second.withModule otherFiles stamp compute).1 := by
  have opens := alike.openModule_eq files otherFiles stamp.path
  rw [withModule_fst, withModule_fst]
  generalize (first.openModule files stamp.path).1 = firstOpens at opens ⊢
  generalize (second.openModule otherFiles stamp.path).1 = secondOpens at opens ⊢
  rcases firstOpens with failure | _ | one <;> rcases secondOpens with otherFailure | _ | other <;>
    simp [Except.map] at opens
  · rw [opens]
  · rfl
  · change compute one = compute other
    rw [← fromRedaction one, opens, fromRedaction other]

end AlikeThrough

end ModuleSource

end TypeCatalog
