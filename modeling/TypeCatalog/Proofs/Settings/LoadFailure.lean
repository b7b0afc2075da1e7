import TypeCatalog.Proofs.Settings.UnreadableEnvironment
import TypeCatalog.Proofs.Settings.ValidConfiguration
import TypeCatalog.Settings.Load

namespace TypeCatalog.Settings

/-!
# How loading the configuration fails

A file that is no mapping and a setting that does not pass its check are reported.  What is beyond
the readers of files and variables, and what crashes in a check, comes through as it is.
-/

/-- What makes reading a file fail without a report. -/
inductive FileEscapes (files : FileTree) (path : FilePath) : Prop
  | unreachable {crash : Crash}
      (noFile : files.file? path = .error crash)
  | undecodable {bytes : List Nat} {mark : Nat} {fault : Text.CodingFault}
      (isFile : files.file? path = .ok (some (bytes, mark)))
      (noText : Text.decodeUtf8 bytes = .error fault)
  | beyondYaml {bytes : List Nat} {mark : Nat} {text : String} {crash : Crash}
      (isFile : files.file? path = .ok (some (bytes, mark)))
      (decoded : Text.decodeUtf8 bytes = .ok text)
      (crashed : Yaml.read (Text.normalizeLineEnds text) = .error (.crashed crash))

/-- The settings of all sources, laid over one another. -/
def MergesTo
    (files : FileTree)
    (assignments : List (String × String))
    (globalPath root : FilePath)
    (overrides entries : List (Key × Value)) : Prop :=
  ∃ fromFiles fromEnvironment,
    fileSettings files globalPath root = .ok fromFiles ∧
      ofEnvironment assignments = .ok fromEnvironment ∧
      entries =
        merge (sectionsAmong fromFiles) (merge fromEnvironment (sectionsAmong overrides))

/-- What makes loading the configuration fail without a report. -/
inductive Escapes
    (files : FileTree)
    (assignments : List (String × String))
    (globalPath root : FilePath)
    (overrides : List (Key × Value)) : Prop
  | globalFile (escapes : FileEscapes files globalPath)
  | projectFile {global : List (Key × Value)}
      (globalRead : readFile files globalPath = .ok global)
      (escapes : FileEscapes files (root.join projectFile))
  | sectionName {fromFiles : List (Key × Value)} {entry : Key × Value}
      (filesRead : fileSettings files globalPath root = .ok fromFiles)
      (isEntry : entry ∈ fromFiles)
      (noName : ¬ entry.1.IsName)
  | environment {fromFiles : List (Key × Value)} {part : Section}
      (filesRead : fileSettings files globalPath root = .ok fromFiles)
      (isSection : part ∈ sections)
      (isUnreadable : part.IsUnreadable (loweredVariables assignments))
  | unknownHome {entries : List (Key × Value)}
      (isMerged : MergesTo files assignments globalPath root overrides entries)
      (lacksHome : Configuration.LacksHome files entries)
  | longNumber {entries : List (Key × Value)} {issue : Schema.Issue} {issues : List Schema.Issue}
      (isMerged : MergesTo files assignments globalPath root overrides entries)
      (refused : Configuration.ofEntries files entries = .rejected (issue :: issues))
      (isLong : issue.input.hasLongNumber = true)

/-- Whether a computation ends with a crash. -/
private def Crashes
    {α : Type}
    (outcome : Except Failure α) : Prop :=
  ∃ crash, outcome = .error (.crashed crash)

private theorem crashes_bind_iff
    {α β : Type}
    {outcome : Except Failure α}
    {next : α → Except Failure β} :
    Crashes (outcome >>= next) ↔
      Crashes outcome ∨ ∃ result, outcome = .ok result ∧ Crashes (next result) := by
  cases outcome <;> simp [Crashes, bind, Except.bind]

/-! ## Files -/

private theorem nameFault?_eq_none_iff
    {key : Key} :
    nameFault? key = none ∧ key.toValue.formWord ≠ (Value.bytes []).formWord ↔ key.IsName := by
  cases key with
  | timestamp time =>
      cases time <;> simp [nameFault?, Key.IsName]
  | null | bool _ | int _ | float _ | text _ | unpaired _ | bytes _ =>
      simp [nameFault?, Key.IsName, Key.toValue, Value.formWord]

/-- All names of sections are texts or written like texts, or loading goes no further. -/
private theorem names_iff
    {entries : List (Key × Value)} :
    (entries.findSome? fun entry => nameFault? entry.1) = none ∧ requireTexts entries = .ok () ↔
      ∀ entry ∈ entries, entry.1.IsName := by
  have texts_iff : requireTexts entries = .ok () ↔
      ∀ entry ∈ entries, entry.1.toValue.formWord ≠ (Value.bytes []).formWord := by
    rw [requireTexts, ite_eq_right_iff]
    simp only [List.any_eq_true, beq_iff_eq, reduceCtorEq, imp_false, not_exists, not_and]
  rw [List.findSome?_eq_none_iff, texts_iff, ← forall₂_and]
  exact forall₂_congr fun entry _ => nameFault?_eq_none_iff

private theorem requireTexts_eq_or
    (entries : List (Key × Value)) :
    requireTexts entries = .ok () ∨ Crashes (requireTexts entries) := by
  unfold requireTexts
  split
  · exact .inr ⟨_, rfl⟩
  · exact .inl rfl

/-! ## Merged settings -/

/-- Loading, once the files are read. -/
private def loadFrom
    (files : FileTree)
    (assignments : List (String × String))
    (fromFiles overrides : List (Key × Value)) : Except Failure Configuration :=
  match fromFiles.findSome? fun entry => nameFault? entry.1 with
  | some crash => throw (.crashed crash)
  | none =>
    match ofEnvironment assignments with
    | .error crash => throw (.crashed crash)
    | .ok fromEnvironment => do
      requireTexts fromFiles
      conclude files
        (merge (sectionsAmong fromFiles) (merge fromEnvironment (sectionsAmong overrides)))

private theorem load_eq
    (files : FileTree)
    (assignments : List (String × String))
    (globalPath? : Option FilePath)
    (root : FilePath)
    (overrides : List (Key × Value)) :
    load files assignments globalPath? root overrides =
      (do
        let fromFiles ← fileSettings files (globalPath?.getD (files.home.join globalFile)) root
        loadFrom files assignments fromFiles overrides) :=
  rfl

private theorem loadFrom_of_names
    {files : FileTree}
    {assignments : List (String × String)}
    {fromFiles fromEnvironment : List (Key × Value)}
    (overrides : List (Key × Value))
    (areNames : ∀ entry ∈ fromFiles, entry.1.IsName)
    (environmentRead : ofEnvironment assignments = .ok fromEnvironment) :
    loadFrom files assignments fromFiles overrides =
      conclude files
        (merge (sectionsAmong fromFiles) (merge fromEnvironment (sectionsAmong overrides))) := by
  obtain ⟨noFault, areTexts⟩ := names_iff.mpr areNames
  simp only [loadFrom, noFault, environmentRead, areTexts]
  rfl

private theorem crashes_loadFrom_of_noName
    {files : FileTree}
    {assignments : List (String × String)}
    {fromFiles overrides : List (Key × Value)}
    {entry : Key × Value}
    (isEntry : entry ∈ fromFiles)
    (noName : ¬ entry.1.IsName) :
    Crashes (loadFrom files assignments fromFiles overrides) := by
  unfold loadFrom
  split
  · exact ⟨_, rfl⟩
  · next noFault =>
      split
      · exact ⟨_, rfl⟩
      · rw [crashes_bind_iff]
        rcases requireTexts_eq_or fromFiles with areTexts | crashes
        · exact (noName (names_iff.mp ⟨noFault, areTexts⟩ entry isEntry)).elim
        · exact .inl crashes

private theorem crashes_loadFrom_of_environment
    {files : FileTree}
    {assignments : List (String × String)}
    {fromFiles overrides : List (Key × Value)}
    {crash : Crash}
    (notRead : ofEnvironment assignments = .error crash) :
    Crashes (loadFrom files assignments fromFiles overrides) := by
  unfold loadFrom
  split
  · exact ⟨_, rfl⟩
  · rw [notRead]
    exact ⟨_, rfl⟩

/-- After the files are read, loading crashes exactly if a name, a variable or the merged settings
make it do so. -/
private theorem crashes_loadFrom_iff
    {files : FileTree}
    {assignments : List (String × String)}
    {fromFiles overrides : List (Key × Value)} :
    Crashes (loadFrom files assignments fromFiles overrides) ↔
      (∃ entry ∈ fromFiles, ¬ entry.1.IsName) ∨
        (∃ crash, ofEnvironment assignments = .error crash) ∨
        ∃ fromEnvironment, ofEnvironment assignments = .ok fromEnvironment ∧
          Crashes (conclude files
            (merge (sectionsAmong fromFiles)
              (merge fromEnvironment (sectionsAmong overrides)))) := by
  by_cases areNames : ∀ entry ∈ fromFiles, entry.1.IsName
  · have noneOther : ¬ ∃ entry ∈ fromFiles, ¬ entry.1.IsName := by
      push Not
      exact areNames
    cases environment : ofEnvironment assignments with
    | error crash =>
        exact iff_of_true (crashes_loadFrom_of_environment environment) (.inr (.inl ⟨crash, rfl⟩))
    | ok fromEnvironment =>
        rw [loadFrom_of_names overrides areNames environment]
        simp [noneOther]
  · have someOther : ∃ entry ∈ fromFiles, ¬ entry.1.IsName := by
      push Not at areNames
      exact areNames
    obtain ⟨entry, isEntry, noName⟩ := someOther
    exact iff_of_true (crashes_loadFrom_of_noName isEntry noName)
      (.inl ⟨entry, isEntry, noName⟩)

/-- A configuration that was loaded passed its check as the merged settings. -/
theorem ofEntries_of_load
    {files : FileTree}
    {assignments : List (String × String)}
    {globalPath? : Option FilePath}
    {root : FilePath}
    {overrides : List (Key × Value)}
    {configuration : Configuration}
    (loaded : load files assignments globalPath? root overrides = .ok configuration) :
    ∃ entries,
      MergesTo files assignments (globalPath?.getD (files.home.join globalFile)) root overrides
          entries ∧
        Configuration.ofEntries files entries = .ok configuration := by
  rw [load_eq] at loaded
  cases filesRead : fileSettings files (globalPath?.getD (files.home.join globalFile)) root with
  | error failure =>
      rw [filesRead] at loaded
      cases loaded
  | ok fromFiles =>
      rw [filesRead] at loaded
      change loadFrom files assignments fromFiles overrides = _ at loaded
      have noCrash : ¬ Crashes (loadFrom files assignments fromFiles overrides) := by
        simp [loaded, Crashes]
      have causes := crashes_loadFrom_iff.not.mp noCrash
      push Not at causes
      obtain ⟨areNames, noCrashInEnvironment, -⟩ := causes
      cases environment : ofEnvironment assignments with
      | error crash => exact (noCrashInEnvironment crash environment).elim
      | ok fromEnvironment =>
          rw [loadFrom_of_names overrides areNames environment] at loaded
          refine ⟨_, ⟨fromFiles, fromEnvironment, filesRead, environment, rfl⟩, ?_⟩
          unfold conclude at loaded
          split at loaded
          · next passed =>
              cases loaded
              exact passed
          · cases loaded
          · cases loaded

end TypeCatalog.Settings
