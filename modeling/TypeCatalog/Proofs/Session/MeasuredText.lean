import TypeCatalog.Proofs.Json.ReadBack
import TypeCatalog.Proofs.Json.ReadValues
import TypeCatalog.Proofs.Metadata.Genuine
import TypeCatalog.Proofs.Session.AnswerContents
import TypeCatalog.Proofs.Yaml.UniqueKeys
import TypeCatalog.Source.ModuleSource

namespace TypeCatalog

/-!
# Measured texts as JSON documents

The text of an envelope is measured before the envelope becomes an answer.  It is a JSON document
that stands for the data exactly if all numbers in the data are finite and no mapping in them has
two entries with one name.
-/

/-!
## Modules from manifests are genuine

Whatever stands in a manifest, the module that it describes has only integers, doubles and texts of
code points in it.
-/

private theorem exists_of_bind_eq_ok
    {α β : Type}
    {first : Except Crash α}
    {second : α → Except Crash β}
    {result : β}
    (given : first >>= second = .ok result) :
    ∃ between, first = .ok between ∧ second between = .ok result := by
  cases first with
  | error crash => cases given
  | ok between => exact ⟨between, rfl, given⟩

namespace Manifest

/-- A value that a manifest writes is genuine, be it YAML or JSON. -/
theorem isGenuine_of_parse
    {path : FilePath}
    {text : String}
    {value : Value}
    (parsed : parse path text = .ok value) :
    value.IsGenuine := by
  unfold parse at parsed
  split at parsed
  · split at parsed
    · next isRead =>
        cases parsed
        exact (Yaml.soundValue_of_read isRead).genuine
    · cases parsed
    · cases parsed
  · split at parsed
    · next isRead =>
        cases parsed
        exact Json.isGenuine_of_read isRead
    · cases parsed

theorem isGenuine_of_load
    {path : FilePath}
    {bytes : List Nat}
    {definition : ModuleDefinition}
    (loaded : load path bytes = .ok definition) :
    definition.toValue.IsGenuine := by
  obtain ⟨text, _, loaded⟩ := exists_of_bind_eq_ok loaded
  obtain ⟨value, parsed, loaded⟩ := exists_of_bind_eq_ok loaded
  split at loaded
  · next checked =>
      cases loaded
      exact ModuleDefinition.findsInGenuine_check (isGenuine_of_parse parsed) checked
  · cases loaded
  · cases loaded

end Manifest

namespace ModuleSource

theorem isGenuine_of_openModule
    {source : ModuleSource}
    {files : FileTree}
    {path : String}
    {opened : OpenModule}
    (readsManifests : source.store = .manifests)
    (opens : (source.openModule files path).1 = .ok (some opened)) :
    opened.definition.toValue.IsGenuine := by
  have stays : (source.beforeOpening path).store = .manifests := by
    unfold beforeOpening without
    split
    · rw [readsManifests]
      exact readsManifests
    · exact readsManifests
  unfold openModule at opens
  dsimp only at opens
  split at opens
  · cases opens
  · cases opens
  · next openPath definition found =>
      cases opens
      rw [module?, stays] at found
      obtain ⟨file?, _, found⟩ := exists_of_bind_eq_ok found
      cases file? with
      | none => cases found
      | some file =>
          obtain ⟨_, loaded, found⟩ := exists_of_bind_eq_ok found
          cases found
          exact Manifest.isGenuine_of_load loaded

end ModuleSource

/-! ## Texts of envelopes -/

namespace Envelope

/-- The text of an envelope with data stands for the envelope exactly if the numbers in the data are
finite and the names in them apart. -/
theorem renders_success_iff
    {kind : String}
    {data : Value}
    (genuine : data.IsGenuine)
    (writable : Json.unwritable? data = none) :
    Json.Renders (success kind data).toValue ↔
      data.IsFinite ∧ (Json.replaced data).HasUniqueKeys := by
  have isGenuine : (success kind data).toValue.IsGenuine := by
    simp [toValue, Value.IsGenuine, Value.consistsOf_record_iff, successFields, Key.IsGenuine,
      Value.ConsistsOf, Value.IsGenuineSingle]
    exact genuine
  have isWritable : Json.unwritable? (success kind data).toValue = none := by
    simp [toValue, Json.unwritable?_record_eq_none_iff, successFields, Json.unwritable?, writable]
  have isFinite : (success kind data).toValue.IsFinite ↔ data.IsFinite := by
    simp [toValue, Value.IsFinite, Value.consistsOf_record_iff, successFields, Value.ConsistsOf,
      Value.IsFiniteSingle]
  have isUnique : (Json.replaced (success kind data).toValue).HasUniqueKeys ↔
      (Json.replaced data).HasUniqueKeys := by
    rw [toValue, Json.replaced_record, Json.hasUniqueKeys_record_iff (by simp [successFields])]
    have ofText : ∀ content, (Value.text content).HasUniqueKeys := fun _ => .single trivial
    simp [successFields, Json.replaced, ofText]
  rw [Json.renders_iff isGenuine isWritable, isFinite, isUnique]

end Envelope

namespace Session

/-- Data that become an envelope can be written. -/
theorem unwritable?_of_envelopeOf
    {kind : String}
    {data : Value}
    {envelope : Envelope}
    (made : envelopeOf kind data = .ok envelope) :
    Json.unwritable? data = none := by
  unfold envelopeOf at made
  split at made
  · cases made
  · next writable => exact writable

/-- What is measured is genuine where modules come from manifests. -/
theorem Measures.isGenuine
    {session : Session}
    {call : Call}
    {kind : String}
    {data : Value}
    (measures : session.Measures call kind data)
    (readsManifests : session.source.store = .manifests) :
    data.IsGenuine :=
  measures.consistsOf Value.takesPlain_isGenuine fun _ _ opens =>
    ModuleSource.isGenuine_of_openModule readsManifests opens

/-- Where modules come from manifests, the text that is measured for any call is a document that
stands for the data exactly if all numbers in the data are finite and no mapping in them has two
entries with one name. -/
theorem renders_measured_iff
    {session : Session}
    {call : Call}
    {kind : String}
    {data : Value}
    {envelope : Envelope}
    (readsManifests : session.source.store = .manifests)
    (measures : session.Measures call kind data)
    (made : envelopeOf kind data = .ok envelope) :
    Json.Renders (Envelope.success kind data).toValue ↔
      data.IsFinite ∧ (Json.replaced data).HasUniqueKeys :=
  Envelope.renders_success_iff (measures.isGenuine readsManifests) (unwritable?_of_envelopeOf made)

/-! ### A constant -/

/-- A session over one manifest. -/
def overManifest (text : String) : Session :=
  start (.ofStore .manifests)
    ((FileTree.empty (.ofText "/work") (.ofText "/home")).write (.ofText "/work/m.json")
      (text.toList.map Char.toNat))
    .standard (.zero false)

/-- A manifest of a constant. -/
def manifestOfConstant (constant : String) : String :=
  "\x7b\"name\": \"M\", \"types\": [\x7b\"full_name\": \"A\", \"members\": [" ++
    "\x7b\"kind\": \"field\", \"name\": \"F\", \"type\": \"int\", \"is_literal\": true, " ++
    "\"constant_value\": " ++ constant ++ "\x7d]\x7d]\x7d"

/-- The call that asks for the constant. -/
def constantCall : QueryCall :=
  ⟨.text "m.json", .named .lookup (.text "A") (.text "F") .null, false⟩

/-- The data that are measured for a query. -/
def measured?
    (session : Session)
    (call : QueryCall) : Option Value :=
  (session.plan call.modulePath call.query).toOption.bind fun plan =>
    (session.source.openModule session.files plan.stamp.path).1.toOption.join.bind fun opened =>
      (plan.compute opened).toOption

private theorem eq_ok_of_toOption
    {α : Type}
    {computed : Except Failure α}
    {result : α}
    (isSome : computed.toOption = some result) :
    computed = .ok result := by
  cases computed with
  | error failure => cases isSome
  | ok value => exact congrArg Except.ok (Option.some.inj isSome)

theorem measures_of_measured?
    {session : Session}
    {call : QueryCall}
    {data : Value}
    (isMeasured : session.measured? call = some data) :
    session.Measures (.query call) call.query.kind.word data := by
  obtain ⟨plan, planned, isMeasured⟩ := Option.bind_eq_some_iff.mp isMeasured
  obtain ⟨opened, opens, computed⟩ := Option.bind_eq_some_iff.mp isMeasured
  have planned := eq_ok_of_toOption planned
  rw [← (preparedAs_of_plan planned).kind_eq]
  exact .query planned (eq_ok_of_toOption (Option.join_eq_some_iff.mp opens))
    (eq_ok_of_toOption computed)

/-- What evaluating a query says about the data that are measured for it. -/
private theorem exists_measured_of_evaluated
    {session : Session}
    {call : QueryCall}
    {holds : Value → Bool}
    (evaluated : (session.measured? call).any (fun data =>
      holds data && (envelopeOf call.query.kind.word data).toOption.isSome) = true) :
    ∃ data envelope, session.Measures (.query call) call.query.kind.word data ∧
      envelopeOf call.query.kind.word data = .ok envelope ∧ holds data = true := by
  obtain ⟨data, isMeasured, evaluated⟩ := (Option.any_eq_true _ _).mp evaluated
  obtain ⟨holdsData, isMade⟩ := Bool.and_eq_true_iff.mp evaluated
  obtain ⟨envelope, made⟩ := Option.isSome_iff_exists.mp isMade
  exact ⟨data, envelope, measures_of_measured? isMeasured, eq_ok_of_toOption made, holdsData⟩

/-- A constant that is a fraction. -/
theorem renders_measured_fraction :
    let session := overManifest (manifestOfConstant "1.5")
    ∃ data envelope, session.source.store = .manifests ∧
      session.Measures (.query constantCall) "member.lookup" data ∧
      envelopeOf "member.lookup" data = .ok envelope ∧
      (Json.Renders (Envelope.success "member.lookup" data).toValue ↔
        data.IsFinite ∧ (Json.replaced data).HasUniqueKeys) := by
  intro session
  obtain ⟨data, envelope, measures, made, _⟩ :=
    @exists_measured_of_evaluated session constantCall (fun _ => true) (by decide +kernel)
  exact ⟨data, envelope, rfl, measures, made, renders_measured_iff rfl measures made⟩

/-- A constant that is no number is no JSON document. -/
theorem not_renders_nan_constant :
    let session := overManifest (manifestOfConstant "NaN")
    ∃ data envelope, session.source.store = .manifests ∧
      session.Measures (.query constantCall) "member.lookup" data ∧
      envelopeOf "member.lookup" data = .ok envelope ∧
      ¬ Json.Renders (Envelope.success "member.lookup" data).toValue := by
  intro session
  obtain ⟨data, envelope, measures, made, notFinite⟩ :=
    @exists_measured_of_evaluated session constantCall (fun data => !decide data.IsFinite)
      (by decide +kernel)
  have genuine := measures.isGenuine rfl
  refine ⟨data, envelope, rfl, measures, made, fun renders => ?_⟩
  have finite := ((Envelope.renders_success_iff genuine (unwritable?_of_envelopeOf made)).mp renders).1
  simp [finite] at notFinite

end Session

end TypeCatalog
