import Mathlib.Data.List.Find
import TypeCatalog.Proofs.Settings.EnvironmentSettings
import TypeCatalog.Proofs.Settings.LoadFailure
import TypeCatalog.Proofs.Settings.Merging
import TypeCatalog.Proofs.Yaml.UniqueKeys

namespace TypeCatalog

/-!
# Which source decides about a setting

Every setting of a loaded configuration is what the highest source that gives it gives, and so is
every page size for a kind.
-/

namespace Settings

/-- What entries say about a section, whose name may be in any case. -/
def Section.said?
    (part : Section)
    (entries : List (Key × Value)) : Option Value :=
  (entries.find? fun entry => namesSection part entry.1).map Prod.snd

/-- Whether entries name a section in one way only. -/
def Section.IsSpelledAlike
    (part : Section)
    (entries : List (Key × Value)) : Prop :=
  ∃ spelling, lower spelling = part.name ∧
    ∀ entry ∈ entries, namesSection part entry.1 = true → entry.1 = .text spelling

/-- What each source says about a setting. -/
def everySource
    (assignments : List (String × String))
    (global project overrides : List (Key × Value))
    (part : Section)
    (name : String) : Sources :=
  ⟨under? (part.said? overrides) name, assigned? (loweredVariables assignments) part name,
    under? (part.said? project) name, under? (part.said? global) name⟩

/-- What the sources say about a setting that are heard: a project that gives something other than a
mapping for the section keeps the global file from being heard. -/
def heardSources
    (assignments : List (String × String))
    (global project overrides : List (Key × Value))
    (part : Section)
    (name : String) : Sources :=
  if isOther (part.said? project) then
    { everySource assignments global project overrides part name with global := none }
  else
    everySource assignments global project overrides part name

/-- Whether all keys that are read as a kind are the kind itself, and not its bytes. -/
def Sources.NameInText
    (sources : Sources)
    (kind : String) : Prop :=
  ∀ value, sources.Say value → value.HasKeys fun key =>
    Schema.text key.toValue = .ok kind → key = .text kind

end Settings

namespace Setting

variable {α : Type}

/-- Whether a configuration holds for a setting what the first source says that gives it. -/
def HoldsFirst
    (setting : Setting α)
    (files : FileTree)
    (sourcesOf : Settings.Section → String → Settings.Sources)
    (configuration : Configuration) : Prop :=
  ∃ part ∈ Settings.sections, part.name = setting.sectionName ∧
    match (sourcesOf part setting.name).first with
    | some value => setting.check files value = .ok (setting.valueIn configuration)
    | none => setting.valueIn configuration = setting.standard

/-- Whether a configuration holds for each kind of a setting with page sizes what the first source
says that gives this kind. -/
def HoldsFirstOfKinds
    (setting : Setting (List (String × Int)))
    (sourcesOf : Settings.Section → String → Settings.Sources)
    (configuration : Configuration) : Prop :=
  ∃ part ∈ Settings.sections, part.name = setting.sectionName ∧
    ∀ kind, (sourcesOf part setting.name).NameInText kind →
      match ((sourcesOf part setting.name).under kind).first with
      | some value =>
        ∃ size, Schema.whole value = .ok size ∧
          (setting.valueIn configuration).lookup kind = some size
      | none => (setting.valueIn configuration).lookup kind = none

end Setting

/-- Whether every setting of a configuration is what the first source says that gives it. -/
structure Configuration.FollowsSources
    (configuration : Configuration)
    (files : FileTree)
    (sourcesOf : Settings.Section → String → Settings.Sources) : Prop where
  logLevel : Setting.logLevel.HoldsFirst files sourcesOf configuration
  logOutputs : Setting.logOutputs.HoldsFirst files sourcesOf configuration
  transport : Setting.transport.HoldsFirst files sourcesOf configuration
  host : Setting.host.HoldsFirst files sourcesOf configuration
  port : Setting.port.HoldsFirst files sourcesOf configuration
  defaultPageSize : Setting.defaultPageSize.HoldsFirst files sourcesOf configuration
  pageSizeOverrides : Setting.pageSizeOverrides.HoldsFirstOfKinds sourcesOf configuration
  cacheLifetime : Setting.cacheLifetime.HoldsFirst files sourcesOf configuration
  includeNonPublic : Setting.includeNonPublic.HoldsFirst files sourcesOf configuration
  searchRoots : Setting.searchRoots.HoldsFirst files sourcesOf configuration

namespace Settings

/-! ## Sections of the files -/

private theorem said?_eq_lookup?
    {part : Section}
    {entries : List (Key × Value)}
    {spelling : String}
    (isName : lower spelling = part.name)
    (alike : ∀ entry ∈ entries, namesSection part entry.1 = true → entry.1 = .text spelling) :
    part.said? entries = Value.lookup? entries spelling := by
  unfold Section.said? Value.lookup?
  congr 1
  refine List.find?_congr fun entry member => ?_
  rw [Bool.eq_iff_iff, beq_iff_eq]
  refine ⟨alike entry member, fun isSpelling => ?_⟩
  rw [isSpelling]
  simpa [namesSection] using isName

/-- What merged files say about a section is what each of them says, merged. -/
private theorem said?_merge
    {part : Section}
    {global project : List (Key × Value)}
    (alike : part.IsSpelledAlike (global ++ project))
    (globalUnique : (Value.map global).HasUniqueKeys)
    (projectUnique : (Value.map project).HasUniqueKeys) :
    part.said? (merge (merge [] global) project) =
      laidOver (part.said? global) (part.said? project) := by
  obtain ⟨spelling, isName, areAlike⟩ := alike
  have mergedAlike : ∀ entry ∈ merge (merge [] global) project,
      namesSection part entry.1 = true → entry.1 = .text spelling := by
    intro entry member
    obtain ⟨before, wasThere, isSame⟩ := key_of_mem_merge member
    rw [← isSame]
    rcases List.mem_append.mp wasThere with inGlobal | inProject
    · obtain ⟨earlier, wasEarlier, isEarlier⟩ := key_of_mem_merge inGlobal
      rw [← isEarlier]
      exact areAlike earlier (List.mem_append_left _ (by simpa using wasEarlier))
    · exact areAlike before (List.mem_append_right _ inProject)
  rw [said?_eq_lookup? isName mergedAlike,
    said?_eq_lookup? isName fun entry member => areAlike entry (List.mem_append_left _ member),
    said?_eq_lookup? isName fun entry member => areAlike entry (List.mem_append_right _ member),
    lookup?_merge projectUnique.entries.1, lookup?_merge globalUnique.entries.1]
  exact congrArg (laidOver · _) (laidOver_none_left _)

private theorem sectionsAmong_eq
    (entries : List (Key × Value)) :
    sectionsAmong entries = entriesOfSections fun part => part.said? entries := by
  unfold sectionsAmong entriesOfSections Section.said?
  simp only [Option.map_map]
  rfl

/-! ## Merged settings -/

/-- What the sources say about a section. -/
private def sectionSources
    (fromEnvironment global project overrides : List (Key × Value))
    (part : Section) : Sources :=
  ⟨part.said? overrides, Value.lookup? fromEnvironment part.name, part.said? project,
    part.said? global⟩

private theorem hasUniqueKeys_said?
    {entries : List (Key × Value)}
    (unique : (Value.map entries).HasUniqueKeys)
    {part : Section}
    {value : Value}
    (isSaid : part.said? entries = some value) :
    value.HasUniqueKeys := by
  obtain ⟨entry, isFirst, rfl⟩ := Option.map_eq_some_iff.mp isSaid
  exact unique.entries.2 entry (List.mem_of_find?_eq_some isFirst)

private theorem hasUniqueKeys_sectionsAmong
    {entries : List (Key × Value)}
    (unique : (Value.map entries).HasUniqueKeys) :
    (Value.map (sectionsAmong entries)).HasUniqueKeys := by
  rw [sectionsAmong_eq]
  exact hasUniqueKeys_entriesOfSections fun part _ value isSaid => hasUniqueKeys_said? unique isSaid

/-- Four sources with unique keys, the names of sections in the files spelled in one way. -/
private structure Settled
    (fromEnvironment global project overrides : List (Key × Value)) : Prop where
  environmentUnique : (Value.map fromEnvironment).HasUniqueKeys
  globalUnique : (Value.map global).HasUniqueKeys
  projectUnique : (Value.map project).HasUniqueKeys
  overridesUnique : (Value.map overrides).HasUniqueKeys
  alike : ∀ part ∈ sections, part.IsSpelledAlike (global ++ project)

section Settled

variable {fromEnvironment global project overrides : List (Key × Value)}

private theorem Settled.haveUniqueKeys
    (settled : Settled fromEnvironment global project overrides)
    (part : Section) :
    (sectionSources fromEnvironment global project overrides part).HaveUniqueKeys := by
  rintro value (isSaid | isSaid | isSaid | isSaid)
  · exact hasUniqueKeys_said? settled.overridesUnique isSaid
  · exact .of_lookup? settled.environmentUnique.entries.2 isSaid
  · exact hasUniqueKeys_said? settled.projectUnique isSaid
  · exact hasUniqueKeys_said? settled.globalUnique isSaid

/-- Merged settings hold for a section what the sources say about it, merged. -/
private theorem Settled.lookup?_eq_merged
    (settled : Settled fromEnvironment global project overrides)
    {part : Section}
    (isSection : part ∈ sections) :
    Value.lookup?
        (merge (sectionsAmong (merge (merge [] global) project))
          (merge fromEnvironment (sectionsAmong overrides)))
        part.name =
      (sectionSources fromEnvironment global project overrides part).merged := by
  have overridesAmong := (hasUniqueKeys_sectionsAmong settled.overridesUnique).entries
  have above := hasUniqueKeys_merge settled.environmentUnique overridesAmong.2
  rw [lookup?_merge above.entries.1, lookup?_merge overridesAmong.1, sectionsAmong_eq,
    sectionsAmong_eq, lookup?_entriesOfSections _ isSection, lookup?_entriesOfSections _ isSection,
    said?_merge (settled.alike part isSection) settled.globalUnique settled.projectUnique]
  rfl

end Settled

/-- A section that passed its check is a mapping, if it is given. -/
private theorem isOther_of_passed
    {α : Type}
    {entries : List (Key × Value)}
    {name model : String}
    {standard settings : α}
    {read : List (Key × Value) → Schema.Checked α}
    (passed :
      Schema.optional entries name standard (Schema.recordOf model read) = .ok settings) :
    isOther (Value.lookup? entries name) = false := by
  rw [Schema.optional_eq_ok_iff] at passed
  cases given : Value.lookup? entries name with
  | none => rfl
  | some value =>
      rw [given] at passed
      obtain ⟨held, rfl | rfl, -⟩ := Schema.recordOf_eq_ok_iff.mp passed
      · rfl
      · rfl

private theorem isOther_of_ofEntries
    {files : FileTree}
    {entries : List (Key × Value)}
    {configuration : Configuration}
    (passed : Configuration.ofEntries files entries = .ok configuration)
    {part : Section}
    (isSection : part ∈ sections) :
    isOther (Value.lookup? entries part.name) = false := by
  simp only [Configuration.ofEntries, Schema.Checked.seq_eq_ok_iff,
    Schema.Checked.functor_map_eq_ok_iff] at passed
  obtain ⟨_, _, ⟨_, _, ⟨_, _, ⟨_, _, ⟨_, logging, rfl⟩, server, rfl⟩, limits, rfl⟩, cache, rfl⟩,
    inspection, rfl⟩ := passed
  simp only [sections, List.mem_cons, List.not_mem_nil, or_false] at isSection
  rcases isSection with rfl | rfl | rfl | rfl | rfl
  · exact isOther_of_passed logging
  · exact isOther_of_passed server
  · exact isOther_of_passed limits
  · exact isOther_of_passed cache
  · exact isOther_of_passed inspection

/-! ## One setting -/

/-- Whether a check refuses all mappings. -/
private def RefusesMappings
    {α : Type}
    (check : Schema.Check α) : Prop :=
  ∀ entries result, check (.map entries) ≠ .ok result ∧
    check (.again (.map entries)) ≠ .ok result

private theorem RefusesMappings.noEntries
    {α : Type}
    {check : Schema.Check α}
    (refuses : RefusesMappings check)
    {value : Value}
    {result : α}
    (passed : check value = .ok result) :
    value.entries? = none := by
  cases areEntries : value.entries? with
  | none => rfl
  | some entries =>
      rcases Value.eq_of_entries? areEntries with rfl | rfl
      · exact ((refuses entries result).1 passed).elim
      · exact ((refuses entries result).2 passed).elim

private theorem refusesMappings_whole : RefusesMappings Schema.whole :=
  fun _ _ => ⟨nofun, nofun⟩

/-- A setting is read from what stands under its name in its section. -/
private theorem isRead_iff
    {α : Type}
    {setting : Setting α}
    {files : FileTree}
    {entries : List (Key × Value)}
    {configuration : Configuration} :
    setting.IsRead files entries configuration ↔
      match under? (Value.lookup? entries setting.sectionName) setting.name with
      | some value => setting.check files value = .ok (setting.valueIn configuration)
      | none => setting.valueIn configuration = setting.standard := by
  have sameEntry :
      Value.lookup? (sectionEntries entries setting.sectionName) setting.name =
        under? (Value.lookup? entries setting.sectionName) setting.name := by
    unfold sectionEntries under?
    cases Value.lookup? entries setting.sectionName with
    | none => rfl
    | some value =>
        cases value with
        | again container => cases container <;> rfl
        | _ => rfl
  unfold Setting.IsRead Schema.optional
  rw [sameEntry]
  cases under? (Value.lookup? entries setting.sectionName) setting.name with
  | none => simp [eq_comm]
  | some value => exact Schema.Checked.under_eq_ok_iff

/-- Sizes that are read from what the sources say, merged, are found under each kind as the first
source says that says something about the kind. -/
private theorem first_of_sizesRead
    {sources : Sources}
    {sizes : List (String × Int)}
    {kind : String}
    (unique : sources.HaveUniqueKeys)
    (read :
      match sources.merged with
      | some value => RuntimeOptions.checkOverrides value = .ok sizes
      | none => sizes = [])
    (inText : sources.NameInText kind) :
    match (sources.under kind).first with
    | some value => ∃ size, Schema.whole value = .ok size ∧ sizes.lookup kind = some size
    | none => sizes.lookup kind = none := by
  have isMapping : isOther sources.merged = false := by
    cases isMerged : sources.merged with
    | none => rfl
    | some value =>
        rw [isMerged] at read
        obtain ⟨entries, _, areEntries, -⟩ := Schema.checkEntries_of_mappingOf
          (RuntimeOptions.checkOverrides_eq_ok_iff.mp read).1
        simp [isOther, areEntries]
  have found : (sizes.lookup kind).map .ok = (sources.under kind).merged.map Schema.whole := by
    rw [← Sources.under?_merged unique isMapping]
    cases isMerged : sources.merged with
    | none =>
        rw [isMerged] at read
        rw [read]
        rfl
    | some value =>
        rw [isMerged] at read
        have passed := (RuntimeOptions.checkOverrides_eq_ok_iff.mp read).1
        obtain ⟨entries, _, areEntries, -⟩ := Schema.checkEntries_of_mappingOf passed
        have different := ((unique.merged value isMerged).of_entries? areEntries).entries.1
        have keysInText := Sources.keys_merged inText value isMerged entries areEntries
        rw [Schema.lookup_of_mappingOf areEntries different keysInText passed, under?,
          Option.bind_some, areEntries, Option.bind_some]
  have noEntries : (sources.under kind).merged.bind Value.entries? = none := by
    cases isMerged : (sources.under kind).merged with
    | none => rfl
    | some value =>
        rw [isMerged] at found
        obtain ⟨size, -, passed⟩ := Option.map_eq_some_iff.mp found
        exact refusesMappings_whole.noEntries passed.symm
  rw [Sources.merged_eq_first noEntries] at found
  cases isFirst : (sources.under kind).first with
  | none =>
      rw [isFirst] at found
      exact Option.map_eq_none_iff.mp found
  | some value =>
      rw [isFirst] at found
      obtain ⟨size, isSize, passed⟩ := Option.map_eq_some_iff.mp found
      exact ⟨size, passed.symm, isSize⟩

section FromSources

variable {files : FileTree} {entries : List (Key × Value)} {configuration : Configuration}
  {sourcesOf : Section → String → Sources}
  (said : ∀ part ∈ sections, ∀ name,
    under? (Value.lookup? entries part.name) name = (sourcesOf part name).merged)

include said

private theorem holdsFirst_of_isRead
    {α : Type}
    {setting : Setting α}
    (isNamed : setting.sectionName ∈ sections.map Section.name)
    (refuses : RefusesMappings (setting.check files))
    (isRead : setting.IsRead files entries configuration) :
    setting.HoldsFirst files sourcesOf configuration := by
  obtain ⟨part, isSection, isName⟩ := List.mem_map.mp isNamed
  refine ⟨part, isSection, isName, ?_⟩
  have read := isRead_iff.mp isRead
  rw [← isName, said part isSection] at read
  have noEntries : (sourcesOf part setting.name).merged.bind Value.entries? = none := by
    cases isMerged : (sourcesOf part setting.name).merged with
    | none => rfl
    | some value =>
        rw [isMerged] at read
        exact refuses.noEntries read
  rw [← Sources.merged_eq_first noEntries]
  exact read

private theorem holdsFirstOfKinds_of_isRead
    (unique : ∀ part ∈ sections, ∀ name, (sourcesOf part name).HaveUniqueKeys)
    (isRead : Setting.pageSizeOverrides.IsRead files entries configuration) :
    Setting.pageSizeOverrides.HoldsFirstOfKinds sourcesOf configuration := by
  obtain ⟨part, isSection, isName⟩ :=
    List.mem_map.mp
      (show Setting.pageSizeOverrides.sectionName ∈ sections.map Section.name by decide)
  have read := isRead_iff.mp isRead
  rw [← isName, said part isSection] at read
  exact ⟨part, isSection, isName, fun kind inText =>
    first_of_sizesRead (unique part isSection _) read inText⟩

end FromSources

/-! ## Files -/

private theorem hasUniqueKeys_of_readFile
    {files : FileTree}
    {path : FilePath}
    {entries : List (Key × Value)}
    (isRead : readFile files path = .ok entries) :
    (Value.map entries).HasUniqueKeys := by
  have nothing : (Value.map []).HasUniqueKeys := .map .nil (by simp)
  unfold readFile at isRead
  split at isRead
  · cases isRead
  · cases isRead
    exact nothing
  · split at isRead
    · cases isRead
    · unfold readText at isRead
      split at isRead
      · cases isRead
      · cases isRead
      · cases isRead
        exact nothing
      · next read =>
          cases isRead
          exact Yaml.hasUniqueKeys_of_read read
      · cases isRead

/-- Every setting of a loaded configuration is what the first of the caller, the environment, the
file of the project and the global file gives that gives it, and its standard if none does. -/
theorem followsSources_of_load
    {files : FileTree}
    {assignments : List (String × String)}
    {globalPath? : Option FilePath}
    {root : FilePath}
    {global project overrides : List (Key × Value)}
    {configuration : Configuration}
    (globalRead : readFile files (globalPath?.getD (files.home.join globalFile)) = .ok global)
    (projectRead : readFile files (root.join projectFile) = .ok project)
    (alike : ∀ part ∈ sections, part.IsSpelledAlike (global ++ project))
    (nameSettings : NameSettings assignments)
    (overridesUnique : (Value.map overrides).HasUniqueKeys)
    (loaded : load files assignments globalPath? root overrides = .ok configuration) :
    configuration.FollowsSources files (heardSources assignments global project overrides) := by
  obtain ⟨entries, ⟨fromFiles, fromEnvironment, filesRead, environmentRead, rfl⟩, passed⟩ :=
    ofEntries_of_load loaded
  have areFromFiles : fromFiles = merge (merge [] global) project := by
    unfold fileSettings at filesRead
    rw [globalRead, projectRead] at filesRead
    cases filesRead
    rfl
  subst areFromFiles
  have settled : Settled fromEnvironment global project overrides :=
    ⟨hasUniqueKeys_ofEnvironment nameSettings environmentRead,
      hasUniqueKeys_of_readFile globalRead, hasUniqueKeys_of_readFile projectRead,
      overridesUnique, alike⟩
  have sameSources : ∀ part ∈ sections, ∀ name,
      (sectionSources fromEnvironment global project overrides part).under name =
        heardSources assignments global project overrides part name := by
    intro part isSection name
    unfold Sources.under heardSources everySource
    rw [← under?_ofEnvironment nameSettings environmentRead isSection]
    cases isNoMapping : isOther (part.said? project) <;> simp [sectionSources, isNoMapping]
  have unique : ∀ part ∈ sections, ∀ name,
      (heardSources assignments global project overrides part name).HaveUniqueKeys := by
    intro part isSection name
    rw [← sameSources part isSection]
    exact (settled.haveUniqueKeys part).under name
  have said : ∀ part ∈ sections, ∀ name,
      under?
          (Value.lookup?
            (merge (sectionsAmong (merge (merge [] global) project))
              (merge fromEnvironment (sectionsAmong overrides)))
            part.name)
          name =
        (heardSources assignments global project overrides part name).merged := by
    intro part isSection name
    have isMapping := isOther_of_ofEntries passed isSection
    rw [settled.lookup?_eq_merged isSection] at isMapping ⊢
    rw [Sources.under?_merged (settled.haveUniqueKeys part) isMapping, sameSources part isSection]
  have read := Configuration.isRead_of_ofEntries passed
  exact
    { logLevel := holdsFirst_of_isRead said (by decide) (fun _ _ => ⟨nofun, nofun⟩) read.logLevel
      logOutputs :=
        holdsFirst_of_isRead said (by decide) (fun _ _ => ⟨nofun, nofun⟩) read.logOutputs
      transport := holdsFirst_of_isRead said (by decide) (fun _ _ => ⟨nofun, nofun⟩) read.transport
      host := holdsFirst_of_isRead said (by decide) (fun _ _ => ⟨nofun, nofun⟩) read.host
      port := holdsFirst_of_isRead said (by decide) (fun _ _ => ⟨nofun, nofun⟩) read.port
      defaultPageSize :=
        holdsFirst_of_isRead said (by decide) (fun _ _ => ⟨nofun, nofun⟩) read.defaultPageSize
      pageSizeOverrides := holdsFirstOfKinds_of_isRead said unique read.pageSizeOverrides
      cacheLifetime :=
        holdsFirst_of_isRead said (by decide) (fun _ _ => ⟨nofun, nofun⟩) read.cacheLifetime
      includeNonPublic :=
        holdsFirst_of_isRead said (by decide) (fun _ _ => ⟨nofun, nofun⟩) read.includeNonPublic
      searchRoots :=
        holdsFirst_of_isRead said (by decide) (fun _ _ => ⟨nofun, nofun⟩) read.searchRoots }

/-! ## Small files -/

private theorem eq_ok_of_toOption
    {ε α : Type}
    {outcome : Except ε α}
    {result : α}
    (isSome : outcome.toOption = some result) :
    outcome = .ok result := by
  cases outcome with
  | error failure => cases isSome
  | ok found =>
      cases isSome
      rfl

/-- Files in the two places for settings. -/
def filesWith
    (global project : String) : FileTree :=
  ((FileTree.empty (.ofText "/work") (.ofText "/home")).write
    ((FilePath.ofText "/home").join globalFile) (global.toList.map Char.toNat)).write
    ((FilePath.ofText "/work").join projectFile) (project.toList.map Char.toNat)

/-- The entries of a file that is read without failure. -/
def entriesIn
    (files : FileTree)
    (path : FilePath) : List (Key × Value) :=
  (readFile files path).toOption.getD []

private theorem readFile_eq_entriesIn
    {files : FileTree}
    {path : FilePath}
    (isRead : (readFile files path).toOption.isSome = true) :
    readFile files path = .ok (entriesIn files path) := by
  obtain ⟨entries, isSome⟩ := Option.isSome_iff_exists.mp isRead
  rw [entriesIn, isSome]
  exact eq_ok_of_toOption isSome

/-- Sections that are named in lower case only are spelled in one way. -/
private theorem isSpelledAlike_of_lower
    {entries : List (Key × Value)}
    (inLower : ∀ part ∈ sections, ∀ entry ∈ entries, namesSection part entry.1 = true →
      entry.1 = .text part.name) :
    ∀ part ∈ sections, part.IsSpelledAlike entries := by
  have areLower : ∀ part ∈ sections, lower part.name = part.name := by
    decide +kernel
  exact fun part isSection => ⟨part.name, areLower part isSection, inLower part isSection⟩

/-- The global file gives a page size, and the file of the project a lifetime. -/
def separateFiles : FileTree :=
  filesWith "limits: \x7bdefault_page_size: 3\x7d" "cache: \x7bttl_seconds: 4\x7d"

/-- The environment gives the size for one kind. -/
def oneSize : List (String × String) :=
  [("TYPELENS__LIMITS__PAGE_SIZE_OVERRIDES", "\x7b\"a\": 8\x7d")]

/-- The caller gives a lifetime. -/
def oneLifetime : List (Key × Value) :=
  [(.text "cache", .map [(.text "ttl_seconds", .int 9)])]

/-- The size for a kind from the environment stands beside the page size from the global file, and
the caller decides about the lifetime. -/
theorem followsSources_of_separate_files :
    ∃ configuration,
      load separateFiles oneSize none (.ofText "/work") oneLifetime = .ok configuration ∧
        configuration.limits = ⟨3, [("a", 8)]⟩ ∧ configuration.cacheLifetime = 9 ∧
        configuration.FollowsSources separateFiles
          (heardSources oneSize
            (entriesIn separateFiles (separateFiles.home.join globalFile))
            (entriesIn separateFiles ((FilePath.ofText "/work").join projectFile))
            oneLifetime) := by
  have isLoaded :
      ((load separateFiles oneSize none (.ofText "/work") oneLifetime).toOption.map
        fun configuration => (configuration.limits, configuration.cacheLifetime)) =
        some (⟨3, [("a", 8)]⟩, 9) := by
    decide +kernel
  obtain ⟨configuration, isSome, isConfiguration⟩ := Option.map_eq_some_iff.mp isLoaded
  have loaded := eq_ok_of_toOption isSome
  have alike := isSpelledAlike_of_lower
    (show ∀ part ∈ sections,
        ∀ entry ∈ entriesIn separateFiles (separateFiles.home.join globalFile) ++
          entriesIn separateFiles ((FilePath.ofText "/work").join projectFile),
        namesSection part entry.1 = true → entry.1 = .text part.name by decide +kernel)
  have overridesUnique : (Value.map oneLifetime).HasUniqueKeys := by
    simp only [oneLifetime]
    refine .map (List.pairwise_singleton _ _) fun entry member => ?_
    rw [List.mem_singleton.mp member]
    refine .map (List.pairwise_singleton _ _) fun entry member => ?_
    rw [List.mem_singleton.mp member]
    exact .single trivial
  obtain ⟨isLimits, isLifetime⟩ := Prod.ext_iff.mp isConfiguration
  have globalRead := readFile_eq_entriesIn
    (show (readFile separateFiles (separateFiles.home.join globalFile)).toOption.isSome = true by
      decide +kernel)
  have projectRead := readFile_eq_entriesIn
    (show
      (readFile separateFiles ((FilePath.ofText "/work").join projectFile)).toOption.isSome = true by
        decide +kernel)
  have nameSettings : NameSettings oneSize := by
    decide +kernel
  exact ⟨configuration, loaded, isLimits, isLifetime,
    @followsSources_of_load separateFiles oneSize none (.ofText "/work") _ _ oneLifetime
      configuration globalRead projectRead alike nameSettings overridesUnique loaded⟩

/-- The whole number that is given, if a whole number is. -/
def wholeNumber? : Option Value → Option Int
  | some (.int number) => some number
  | _ => none

private theorem eq_int_of_wholeNumber?
    {value? : Option Value}
    {number : Int}
    (isNumber : wholeNumber? value? = some number) :
    value? = some (.int number) := by
  unfold wholeNumber? at isNumber
  split at isNumber <;> cases isNumber
  rfl

/-- The global file gives a page size, and the file of the project nothing for its section. -/
def nullSection : FileTree :=
  filesWith "limits: \x7bdefault_page_size: 3\x7d" "limits:"

/-- A section that the file of the project gives as nothing hides the page size that the global file
gives, and the environment does not bring it back. -/
theorem not_followsSources_of_null_section :
    ∃ configuration,
      load nullSection oneSize none (.ofText "/work") [] = .ok configuration ∧
        ¬ configuration.FollowsSources nullSection
          (everySource oneSize
            (entriesIn nullSection (nullSection.home.join globalFile))
            (entriesIn nullSection ((FilePath.ofText "/work").join projectFile)) []) := by
  have isLoaded :
      ((load nullSection oneSize none (.ofText "/work") []).toOption.map fun configuration =>
        configuration.limits.defaultPageSize) = some 50 := by
    decide +kernel
  obtain ⟨configuration, isSome, isSize⟩ := Option.map_eq_some_iff.mp isLoaded
  refine ⟨configuration, eq_ok_of_toOption isSome, fun follows => ?_⟩
  obtain ⟨part, isSection, isName, holds⟩ := follows.defaultPageSize
  have isThree :
      ∀ part ∈ sections, part.name = Setting.defaultPageSize.sectionName →
        wholeNumber?
            (everySource oneSize (entriesIn nullSection (nullSection.home.join globalFile))
              (entriesIn nullSection ((FilePath.ofText "/work").join projectFile)) [] part
              Setting.defaultPageSize.name).first = some 3 := by
    decide +kernel
  rw [eq_int_of_wholeNumber? (isThree part isSection isName)] at holds
  change RuntimeOptions.checkDefaultSize (.int 3) = .ok configuration.limits.defaultPageSize at holds
  have passed := (RuntimeOptions.checkDefaultSize_eq_ok_iff.mp holds).1
  change configuration.limits.defaultPageSize = 50 at isSize
  change Schema.Checked.ok 3 = .ok (configuration.limits.defaultPageSize : Int) at passed
  rw [isSize] at passed
  cases passed

end Settings

end TypeCatalog
