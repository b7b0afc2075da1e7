import TypeCatalog.Proofs.Schema.Crashing
import TypeCatalog.Proofs.Settings.RuntimeOptions
import TypeCatalog.Settings.Configuration

namespace TypeCatalog

/-!
# Valid configurations

A configuration that passed its check satisfies the constraints on all its settings.
-/

/-!
## The settings of a configuration

Every setting has its section, its name there, a value for when it is not given and a check.  A
configuration that passed its check holds for each setting what was checked or that value.
-/

/-- A setting: where it is given, how it is checked and where a configuration holds it. -/
structure Setting (α : Type) where
  sectionName : String
  name : String
  standard : α
  check : FileTree → Schema.Check α
  valueIn : Configuration → α

/-- The entries of a section; a section that is not given has none. -/
def sectionEntries
    (entries : List (Key × Value))
    (name : String) : List (Key × Value) :=
  (Value.lookup? entries name).elim [] Schema.modelEntries

namespace Setting

variable {α : Type}

/-- Whether a configuration holds a setting as it is read from entries. -/
def IsRead
    (setting : Setting α)
    (files : FileTree)
    (entries : List (Key × Value))
    (configuration : Configuration) : Prop :=
  Schema.optional (sectionEntries entries setting.sectionName) setting.name setting.standard
      (setting.check files) =
    .ok (setting.valueIn configuration)

def logLevel : Setting LogLevel :=
  ⟨"logging", "level", .info, fun _ => LogOutput.checkLevel, fun held => held.logging.level⟩

def logOutputs : Setting (List LogOutput) :=
  ⟨"logging", "outputs", [.standard], fun files => Schema.listOf "list" (LogOutput.check files),
    fun held => held.logging.outputs⟩

def transport : Setting Transport :=
  ⟨"server", "transport", .stdio,
    fun _ => Schema.literal (Transport.all.map fun transport => (transport.word, transport)),
    fun held => held.server.transport⟩

def host : Setting String :=
  ⟨"server", "host", ServerSettings.standard.host, fun _ => Schema.text,
    fun held => held.server.host⟩

def port : Setting Int :=
  ⟨"server", "port", ServerSettings.standard.port, fun _ => ServerSettings.checkPort,
    fun held => held.server.port⟩

def defaultPageSize : Setting Nat :=
  ⟨"limits", "default_page_size", Limits.defaultPageSize,
    fun _ => RuntimeOptions.checkDefaultSize, fun held => held.limits.defaultPageSize⟩

def pageSizeOverrides : Setting (List (String × Int)) :=
  ⟨"limits", "page_size_overrides", [], fun _ => RuntimeOptions.checkOverrides,
    fun held => held.limits.pageSizeOverrides⟩

def cacheLifetime : Setting Int :=
  ⟨"cache", "ttl_seconds", Limits.defaultLifetime, fun _ => Schema.whole,
    fun held => held.cacheLifetime⟩

def includeNonPublic : Setting Bool :=
  ⟨"inspection", "include_non_public_by_default", false, fun _ => Schema.truth,
    fun held => held.inspection.includeNonPublic⟩

def searchRoots : Setting (List String) :=
  ⟨"inspection", "search_roots", [], fun _ => Schema.listOf "list" Schema.text,
    fun held => held.inspection.searchRoots⟩

end Setting

namespace Configuration

/-- Whether a configuration holds every setting as it is read from entries. -/
structure IsRead
    (configuration : Configuration)
    (files : FileTree)
    (entries : List (Key × Value)) : Prop where
  logLevel : Setting.logLevel.IsRead files entries configuration
  logOutputs : Setting.logOutputs.IsRead files entries configuration
  transport : Setting.transport.IsRead files entries configuration
  host : Setting.host.IsRead files entries configuration
  port : Setting.port.IsRead files entries configuration
  defaultPageSize : Setting.defaultPageSize.IsRead files entries configuration
  pageSizeOverrides : Setting.pageSizeOverrides.IsRead files entries configuration
  cacheLifetime : Setting.cacheLifetime.IsRead files entries configuration
  includeNonPublic : Setting.includeNonPublic.IsRead files entries configuration
  searchRoots : Setting.searchRoots.IsRead files entries configuration

/-- A section that passed its check was read from its entries, or from none if it is not given. -/
private theorem read_sectionEntries
    {α : Type}
    {entries : List (Key × Value)}
    {name model : String}
    {standard settings : α}
    {read : List (Key × Value) → Schema.Checked α}
    (passed : Schema.optional entries name standard (Schema.recordOf model read) = .ok settings)
    (standardRead : read [] = .ok standard) :
    read (sectionEntries entries name) = .ok settings := by
  rw [Schema.optional_eq_ok_iff] at passed
  unfold sectionEntries
  cases given : Value.lookup? entries name with
  | none =>
      rw [given] at passed
      rw [passed]
      exact standardRead
  | some value =>
      rw [given] at passed
      obtain ⟨held, rfl | rfl, isRead⟩ := Schema.recordOf_eq_ok_iff.mp passed
      · exact isRead
      · exact isRead

/-- Settings that passed their check were read one by one. -/
theorem isRead_of_ofEntries
    {files : FileTree}
    {entries : List (Key × Value)}
    {configuration : Configuration}
    (passed : ofEntries files entries = .ok configuration) :
    configuration.IsRead files entries := by
  simp only [ofEntries, Schema.Checked.seq_eq_ok_iff, Schema.Checked.functor_map_eq_ok_iff]
    at passed
  obtain ⟨_, _, ⟨_, _, ⟨_, _, ⟨_, _, ⟨logging, loggingPassed, rfl⟩, serverPassed, rfl⟩,
    limitsPassed, rfl⟩, cachePassed, rfl⟩, inspectionPassed, rfl⟩ := passed
  have logging := read_sectionEntries loggingPassed rfl
  have server := read_sectionEntries serverPassed rfl
  have limits := read_sectionEntries limitsPassed rfl
  have cache := read_sectionEntries cachePassed rfl
  have inspection := read_sectionEntries inspectionPassed rfl
  simp only [Schema.Checked.seq_eq_ok_iff, Schema.Checked.functor_map_eq_ok_iff]
    at logging server limits inspection
  obtain ⟨_, _, ⟨_, logLevel, rfl⟩, logOutputs, rfl⟩ := logging
  obtain ⟨_, _, ⟨_, _, ⟨_, transport, rfl⟩, host, rfl⟩, port, rfl⟩ := server
  obtain ⟨_, _, ⟨_, defaultPageSize, rfl⟩, pageSizeOverrides, rfl⟩ := limits
  obtain ⟨_, _, ⟨_, includeNonPublic, rfl⟩, searchRoots, rfl⟩ := inspection
  exact ⟨logLevel, logOutputs, transport, host, port, defaultPageSize, pageSizeOverrides, cache,
    includeNonPublic, searchRoots⟩

end Configuration

/-!
## Constraints on settings

A configuration that passed its check satisfies them.  The check crashes only at the destination of
an output below a home directory that is not known.
-/

/-- The constraints on the settings of a configuration that their types do not carry. -/
structure Configuration.IsValid (configuration : Configuration) : Prop where
  destinations : ∀ output ∈ configuration.logging.outputs,
    output.destination ∈ LogOutput.streams ∨
      ∃ path : FilePath, path.isAbsolute = true ∧ output.destination = path.text
  port_bounds : 0 ≤ configuration.server.port ∧
    configuration.server.port ≤ ServerSettings.greatestPort
  default_bounds : RuntimeOptions.IsPageSize configuration.limits.defaultPageSize
  override_bounds : ∀ entry ∈ configuration.limits.pageSizeOverrides,
    RuntimeOptions.IsPageSize entry.2
  oneSizeEach : (configuration.limits.pageSizeOverrides.map Prod.fst).Nodup

/-- A value from whose destination no path can be made, since the home directory is not known. -/
def Value.LacksHome
    (files : FileTree)
    (value : Value) : Prop :=
  ∃ destination crash, Schema.text value = .ok destination ∧
    destination ∉ LogOutput.streams ∧
    files.expandHome (.ofText destination) = .error crash

namespace LogOutput

private theorem destination_of_checkDestination
    {files : FileTree}
    {value : Value}
    {destination : String}
    (passed : checkDestination files value = .ok destination) :
    destination ∈ streams ∨
      ∃ path : FilePath, path.isAbsolute = true ∧ destination = path.text := by
  unfold checkDestination at passed
  obtain ⟨given, _, passed⟩ := Schema.Checked.andThen_eq_ok_iff.mp passed
  split at passed
  · next isStream =>
      cases passed
      exact .inl (List.contains_iff_mem.mp isStream)
  · split at passed
    · cases passed
    · next path _ =>
        split at passed
        · next isAbsolute =>
            cases passed
            exact .inr ⟨path, isAbsolute, rfl⟩
        · cases passed

private theorem destination_of_check
    {files : FileTree}
    {value : Value}
    {output : LogOutput}
    (passed : check files value = .ok output) :
    output.destination ∈ streams ∨
      ∃ path : FilePath, path.isAbsolute = true ∧ output.destination = path.text := by
  obtain ⟨entries, -, isRead⟩ := Schema.recordOf_eq_ok_iff.mp passed
  simp only [Schema.Checked.seq_eq_ok_iff, Schema.Checked.functor_map_eq_ok_iff] at isRead
  obtain ⟨_, _, ⟨_, _, ⟨_, _, rfl⟩, destinationPassed, rfl⟩, _, rfl⟩ := isRead
  rcases Schema.eq_or_checked_of_optional destinationPassed with isDefault | ⟨_, checked⟩
  · exact .inl (by simp [isDefault, streams])
  · exact destination_of_checkDestination checked

theorem crashes_checkDestination_iff
    {files : FileTree}
    {value : Value} :
    (checkDestination files value).Crashes ↔ value.LacksHome files := by
  simp only [checkDestination, Schema.Checked.crashes_andThen_iff, Schema.neverCrashes_text value,
    false_or, Value.LacksHome]
  refine exists_congr fun destination => ?_
  rw [exists_and_left]
  refine and_congr_right fun _ => ?_
  split
  · next isStream =>
      simp [List.contains_iff_mem.mp isStream]
  · next noStream =>
      rw [List.contains_iff_mem] at noStream
      simp only [noStream, not_false_eq_true, true_and]
      split
      · next crash noHome =>
          simp [noHome]
      · next path isPath =>
          split <;> simp [isPath, Schema.Checked.rejectRule]

theorem neverCrashes_checkLevel : Schema.NeverCrashes checkLevel :=
  Schema.neverCrashes_literal _

theorem crashes_check_iff
    {files : FileTree}
    {value : Value} :
    (check files value).Crashes ↔
      Schema.HasField "destination" (Value.LacksHome files) value := by
  unfold check
  rw [Schema.crashes_recordOf_iff]
  · simp only [Schema.Checked.crashes_seq_iff, Schema.Checked.crashes_functor_map_iff,
      (Schema.neverCrashes_literal _).not_crashes_optional,
      neverCrashes_checkLevel.nullable.not_crashes_optional, false_or, or_false,
      Schema.crashes_optional_iff, crashes_checkDestination_iff]
    rfl
  · simp [(Schema.neverCrashes_literal _).not_crashes_optional,
      neverCrashes_checkLevel.nullable.not_crashes_optional, Schema.crashes_optional_iff,
      Value.lookup?]

end LogOutput

namespace Configuration

private theorem bounds_of_checkPort
    {value : Value}
    {port : Int}
    (passed : ServerSettings.checkPort value = .ok port) :
    0 ≤ port ∧ port ≤ ServerSettings.greatestPort := by
  unfold ServerSettings.checkPort at passed
  obtain ⟨given, _, passed⟩ := Schema.Checked.andThen_eq_ok_iff.mp passed
  split at passed
  · next inBounds =>
      cases passed
      simpa using inBounds
  · cases passed

/-- A configuration that passed its check is valid. -/
theorem isValid_of_ofEntries
    {files : FileTree}
    {entries : List (Key × Value)}
    {configuration : Configuration}
    (passed : ofEntries files entries = .ok configuration) :
    configuration.IsValid := by
  have isRead := isRead_of_ofEntries passed
  constructor
  · intro output isOutput
    rcases Schema.eq_or_checked_of_optional isRead.logOutputs with isDefault | ⟨_, checked⟩
    · change configuration.logging.outputs = [.standard] at isDefault
      rw [isDefault, List.mem_singleton] at isOutput
      exact .inl (by simp [isOutput, LogOutput.standard, LogOutput.streams])
    · obtain ⟨_, passed⟩ := Schema.exists_checked_of_listOf checked output isOutput
      exact LogOutput.destination_of_check passed
  · rcases Schema.eq_or_checked_of_optional isRead.port with isDefault | ⟨_, checked⟩
    · change configuration.server.port = _ at isDefault
      rw [isDefault]
      decide
    · exact bounds_of_checkPort checked
  · rcases Schema.eq_or_checked_of_optional isRead.defaultPageSize with isDefault | ⟨_, checked⟩
    · change configuration.limits.defaultPageSize = _ at isDefault
      rw [isDefault]
      exact RuntimeOptions.inBounds_standard.default_bounds
    · exact (RuntimeOptions.checkDefaultSize_eq_ok_iff.mp checked).2
  · rcases Schema.eq_or_checked_of_optional isRead.pageSizeOverrides with
      isDefault | ⟨_, checked⟩
    · change configuration.limits.pageSizeOverrides = [] at isDefault
      simp [isDefault]
    · exact (RuntimeOptions.checkOverrides_eq_ok_iff.mp checked).2
  · rcases Schema.eq_or_checked_of_optional isRead.pageSizeOverrides with
      isDefault | ⟨_, checked⟩
    · change configuration.limits.pageSizeOverrides = [] at isDefault
      simp [isDefault]
    · exact Schema.nodup_of_mappingOf (RuntimeOptions.checkOverrides_eq_ok_iff.mp checked).1

/-- A destination among the settings whose home directory is not known. -/
def LacksHome
    (files : FileTree)
    (entries : List (Key × Value)) : Prop :=
  Schema.HasField "logging"
    (Schema.HasField "outputs"
      (Schema.HasItem (Schema.HasField "destination" (Value.LacksHome files))))
    (.map entries)

private theorem neverCrashes_checkPort : Schema.NeverCrashes ServerSettings.checkPort := by
  intro value
  simp only [ServerSettings.checkPort, Schema.Checked.crashes_andThen_iff,
    Schema.neverCrashes_whole value, false_or]
  rintro ⟨port, _, crashes⟩
  split at crashes <;> simp [Schema.Checked.rejectRule] at crashes

private theorem neverCrashes_checkDefaultSize :
    Schema.NeverCrashes RuntimeOptions.checkDefaultSize := by
  intro value
  simp only [RuntimeOptions.checkDefaultSize, Schema.Checked.crashes_map_iff,
    Schema.wholeBetween, Schema.Checked.crashes_andThen_iff, Schema.neverCrashes_wholeFrom 1 value,
    false_or]
  rintro ⟨size, _, crashes⟩
  split at crashes <;> simp at crashes

private theorem neverCrashes_checkOverrides :
    Schema.NeverCrashes RuntimeOptions.checkOverrides := by
  intro value
  simp only [RuntimeOptions.checkOverrides, Schema.Checked.crashes_andThen_iff,
    Schema.neverCrashes_whole.mappingOf value, false_or]
  rintro ⟨overrides, _, crashes⟩
  split at crashes <;> simp [Schema.Checked.rejectRule] at crashes

private theorem neverCrashes_server : Schema.NeverCrashes ServerSettings.check := by
  intro value
  unfold ServerSettings.check
  rw [Schema.crashes_recordOf_iff] <;>
    simp [(Schema.neverCrashes_literal _).not_crashes_optional,
      Schema.neverCrashes_text.not_crashes_optional, neverCrashes_checkPort.not_crashes_optional]

private theorem neverCrashes_limits : Schema.NeverCrashes LimitSettings.check := by
  intro value
  have size := neverCrashes_checkDefaultSize.not_crashes_optional
  unfold RuntimeOptions.checkDefaultSize at size
  unfold LimitSettings.check
  rw [Schema.crashes_recordOf_iff] <;>
    simp [size, neverCrashes_checkOverrides.not_crashes_optional]

private theorem neverCrashes_cache : Schema.NeverCrashes checkCache := by
  intro value
  unfold checkCache
  rw [Schema.crashes_recordOf_iff] <;>
    simp [Schema.neverCrashes_whole.not_crashes_optional]

private theorem neverCrashes_inspection : Schema.NeverCrashes InspectionSettings.check := by
  intro value
  unfold InspectionSettings.check
  rw [Schema.crashes_recordOf_iff] <;>
    simp [Schema.neverCrashes_truth.not_crashes_optional,
      (Schema.neverCrashes_text.listOf "list").not_crashes_optional]

private theorem crashes_logging_iff
    {files : FileTree}
    {value : Value} :
    (LogSettings.check files value).Crashes ↔
      Schema.HasField "outputs"
        (Schema.HasItem (Schema.HasField "destination" (Value.LacksHome files))) value := by
  unfold LogSettings.check
  rw [Schema.crashes_recordOf_iff]
  · simp only [Schema.Checked.crashes_seq_iff, Schema.Checked.crashes_functor_map_iff,
      LogOutput.neverCrashes_checkLevel.not_crashes_optional, false_or,
      Schema.crashes_optional_iff, Schema.crashes_listOf_iff, LogOutput.crashes_check_iff]
    rfl
  · simp [LogOutput.neverCrashes_checkLevel.not_crashes_optional, Schema.crashes_optional_iff,
      Value.lookup?]

/-- Checking settings crashes exactly if a destination among them lacks its home directory. -/
theorem crashes_ofEntries_iff
    {files : FileTree}
    {entries : List (Key × Value)} :
    (ofEntries files entries).Crashes ↔ LacksHome files entries := by
  simp only [ofEntries, Schema.Checked.crashes_seq_iff, Schema.Checked.crashes_functor_map_iff,
    neverCrashes_server.not_crashes_optional, neverCrashes_limits.not_crashes_optional,
    neverCrashes_cache.not_crashes_optional, neverCrashes_inspection.not_crashes_optional,
    or_false, Schema.crashes_optional_iff, crashes_logging_iff]
  rfl

end Configuration

end TypeCatalog
