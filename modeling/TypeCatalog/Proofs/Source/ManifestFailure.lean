import TypeCatalog.Proofs.Json.ReadValues
import TypeCatalog.Proofs.Metadata.Stumbling
import TypeCatalog.Proofs.Yaml.UniqueKeys
import TypeCatalog.Source.Manifest

namespace TypeCatalog

/-!
# How loading a manifest fails

A manifest that breaks a rule of its format or describes no module is reported as broken.  Bytes that
are no text, texts that go beyond a bound of their reader and modules that cannot be checked are not:
their crashes come through as they are.
-/

/-!
## The crashes of checks

A check of a module that crashes does so with a crash of one of two kinds, neither of which says that
the module is broken.
-/

section

open Schema

/-- The kinds of crashes with which the check of a module can end. -/
def CrashKind.EndsCheck (kind : CrashKind) : Prop :=
  kind = .wrongType ∨ kind = .tooDeep

/-- Whether a check ends, if it crashes, with a crash of such a kind. -/
abbrev Schema.Checked.CrashesInCheck
    {α : Type}
    (checked : Checked α) : Prop :=
  checked.CrashesAs CrashKind.EndsCheck

theorem Schema.crashesInCheck_completeItems
    (name : String)
    (defaults : Nat → List (Key × Value))
    (entries : List (Key × Value)) :
    (completeItems name defaults entries).CrashesInCheck := by
  have ofItems : ∀ value, (itemsOf value).CrashesInCheck := by
    intro value
    unfold itemsOf
    split
    case h_10 =>
        rintro _ ⟨⟩
        exact .inl rfl
    all_goals rintro _ ⟨⟩
  unfold completeItems
  split
  · exact Checked.crashesAs_of_not_crashes (by simp)
  · split
    · exact (ofItems _).map
    · exact Checked.crashesAs_of_not_crashes (by simp)

theorem TypeRef.crashesInCheck_checkWithin
    (room : Nat)
    (value : Value) :
    (checkWithin room value).CrashesInCheck := by
  have ofText : ∀ room content, (ofText room content).CrashesInCheck := by
    intro room content
    unfold TypeRef.ofText
    split
    · exact Checked.crashesAs_of_not_crashes (not_crashes_ofShorthand _ _)
    · next fault _ =>
        cases fault with
        | tooDeep =>
            rintro _ ⟨⟩
            exact .inr rfl
        | empty | malformedArray _ | missingBracket =>
            rintro _ ⟨⟩
  induction room generalizing value with
  | zero =>
      exact Checked.crashesAs_of_not_crashes (by simp [checkWithin])
  | succ room inductionHypothesis =>
      unfold checkWithin
      split
      · contradiction
      · exact ofText _ _
      · exact (ofText _ _).andThen fun _ => Checked.crashesAs_of_not_crashes (by simp)
      · next same _ _ =>
          cases same
          split
          · exact Checked.crashesAs_of_not_crashes (by simp)
          · refine (crashesAs_recordOf (fun entries => ?_) _).andThen fun reference =>
              Checked.crashesAs_of_not_crashes (not_crashes_checkShape _ reference)
            have rank : ∀ value, ((wholeFrom 1 value).map Int.toNat).CrashesInCheck :=
              fun value => ((neverCrashes_wholeFrom 1).crashesAs value).map
            exact .seq (.seq (.seq (.seq (.functorMap
              (crashesAs_optional (neverCrashes_choice _).crashesAs _ _ _))
              (crashesAs_optional neverCrashes_text.crashesAs _ _ _))
              (crashesAs_optional (crashesAs_nullable inductionHypothesis) _ _ _))
              (crashesAs_optional rank _ _ _))
              (crashesAs_optional (crashesAs_sequenceOf inductionHypothesis) _ _ _)

theorem GenericParameterFact.crashesInCheck_check
    (room : Nat)
    (value : Value) :
    (check room value).CrashesInCheck :=
  crashesAs_recordOf
    (fun _ =>
      .seq (.seq (.seq (.seq (.seq (.seq (.functorMap
        (crashesAs_required neverCrashes_text.crashesAs _ _))
        (crashesAs_optional neverCrashes_whole.crashesAs _ _ _))
        (crashesAs_optional
          (crashesAs_sequenceOf (TypeRef.crashesInCheck_checkWithin (room - 1))) _ _ _))
        (crashesAs_optional neverCrashes_truth.crashesAs _ _ _))
        (crashesAs_optional neverCrashes_truth.crashesAs _ _ _))
        (crashesAs_optional neverCrashes_truth.crashesAs _ _ _))
        (crashesAs_optional (neverCrashes_choice _).crashesAs _ _ _))
    value

theorem ParameterFact.crashesInCheck_check
    (room : Nat)
    (value : Value) :
    (check room value).CrashesInCheck := by
  refine crashesAs_recordOf (fun entries => ?_) value
  unfold ofEntries
  repeat' apply Checked.CrashesAs.seq
  · exact .functorMap (crashesAs_required neverCrashes_text.crashesAs _ _)
  · exact crashesAs_required (TypeRef.crashesInCheck_checkWithin (room - 1)) _ _
  all_goals
    refine crashesAs_optional ?_ _ _ _
    first
      | exact neverCrashes_whole.crashesAs
      | exact neverCrashes_truth.crashesAs
      | exact neverCrashes_anything.crashesAs
      | exact AttributeFact.neverCrashes_check.sequenceOf.crashesAs

theorem MemberFact.crashesInCheck_checkWithin
    (room : Nat)
    (value : Value) :
    (checkWithin room value).CrashesInCheck := by
  refine crashesAs_recordOf (fun entries => ?_) value
  refine .andThen (.andThen (crashesInCheck_completeItems _ _ _) fun _ =>
    crashesInCheck_completeItems _ _ _) fun completed => ?_
  unfold ofEntries
  repeat' apply Checked.CrashesAs.seq
  · exact .functorMap (crashesAs_required (neverCrashes_choice _).crashesAs _ _)
  all_goals first
    | exact crashesAs_required neverCrashes_text.crashesAs _ _
    | refine crashesAs_optional ?_ _ _ _
  all_goals first
    | exact crashesAs_nullable (TypeRef.crashesInCheck_checkWithin (room - 1))
    | exact crashesAs_sequenceOf (ParameterFact.crashesInCheck_check room)
    | exact crashesAs_sequenceOf (GenericParameterFact.crashesInCheck_check room)
    | exact neverCrashes_truth.crashesAs
    | exact neverCrashes_whole.crashesAs
    | exact neverCrashes_anything.crashesAs
    | exact neverCrashes_checkAccessibility.crashesAs
    | exact neverCrashes_checkAccessibility.nullable.crashesAs
    | exact neverCrashes_text.nullable.crashesAs
    | exact AttributeFact.neverCrashes_check.sequenceOf.crashesAs
    | exact DocBlock.neverCrashes_check.nullable.crashesAs

theorem TypeDefinition.crashesInCheck_checkWithin
    (room : Nat)
    (value : Value) :
    (checkWithin room value).CrashesInCheck := by
  induction room generalizing value with
  | zero =>
      exact Checked.crashesAs_of_not_crashes (by simp [checkWithin])
  | succ room inductionHypothesis =>
      unfold checkWithin
      split
      · exact Checked.crashesAs_of_not_crashes (by simp)
      · refine crashesAs_recordOf (fun entries => ?_) value
        refine .andThen (.andThen (.andThen (crashesInCheck_completeItems _ _ _) fun _ =>
          crashesInCheck_completeItems _ _ _) fun _ => crashesInCheck_completeItems _ _ _)
            fun completed => ?_
        repeat' apply Checked.CrashesAs.seq
        · exact .functorMap (crashesAs_required neverCrashes_text.crashesAs _ _)
        all_goals
          refine crashesAs_optional ?_ _ _ _
          first
            | exact crashesAs_nullable (TypeRef.crashesInCheck_checkWithin (room - 1))
            | exact crashesAs_sequenceOf (TypeRef.crashesInCheck_checkWithin (room - 1))
            | exact crashesAs_sequenceOf (GenericParameterFact.crashesInCheck_check room)
            | exact crashesAs_sequenceOf (MemberFact.crashesInCheck_checkWithin room)
            | exact crashesAs_sequenceOf inductionHypothesis
            | exact neverCrashes_truth.crashesAs
            | exact neverCrashes_whole.crashesAs
            | exact (neverCrashes_choice _).crashesAs
            | exact MemberFact.neverCrashes_checkAccessibility.crashesAs
            | exact neverCrashes_text.nullable.crashesAs
            | exact AttributeFact.neverCrashes_check.sequenceOf.crashesAs
            | exact DocBlock.neverCrashes_check.nullable.crashesAs

/-- The check of a module that crashes does so in one of two ways. -/
theorem ModuleDefinition.crashesInCheck_check
    (value : Value) :
    (check value).CrashesInCheck :=
  crashesAs_recordOf
    (fun _ =>
      .seq (.seq (.functorMap (crashesAs_required neverCrashes_text.crashesAs _ _))
        (crashesAs_optional neverCrashes_text.crashesAs _ _ _))
        (crashesAs_optional
          (crashesAs_sequenceOf (TypeDefinition.crashesInCheck_checkWithin _)) _ _ _))
    value

end

/-! ## Loading -/

namespace Manifest

/-- What makes loading a manifest fail in another way than as a broken manifest. -/
inductive Escapes (path : FilePath) (bytes : List Nat) : Prop
  | undecodable {fault : Text.CodingFault}
      (noText : Text.decodeUtf8 bytes = .error fault)
  | beyondJson {text : String} {failure : Json.Failure} {crash : Crash}
      (isJson : isYaml path = false)
      (decoded : textOf bytes = .ok text)
      (stopped : Json.read text.toList = .error failure)
      (isBeyond : failure.crash? = some crash)
  | beyondYaml {text : String} {crash : Crash}
      (isYaml : isYaml path = true)
      (decoded : textOf bytes = .ok text)
      (crashed : Yaml.read text = .error (.crashed crash))
      (isOther : crash.kind ≠ .brokenManifest)
  | uncheckable {text : String} {value : Value}
      (decoded : textOf bytes = .ok text)
      (parsed : parse path text = .ok value)
      (stumbles : ModuleDefinition.Stumbles value)

/-- Whether loading a manifest gives a module or reports a broken manifest. -/
def EndsAsForeseen (outcome : Except Crash ModuleDefinition) : Prop :=
  (∃ definition, outcome = .ok definition) ∨ ∃ reason, outcome = .error ⟨.brokenManifest, reason⟩

private theorem endsAsForeseen_error_iff
    {crash : Crash} :
    EndsAsForeseen (.error crash) ↔ crash.kind = .brokenManifest := by
  constructor
  · rintro (⟨_, ⟨⟩⟩ | ⟨_, ⟨⟩⟩)
    rfl
  · intro isBroken
    exact .inr ⟨crash.text, by rw [← isBroken]⟩

private theorem textOf_of_decodeUtf8
    {bytes : List Nat}
    {fault : Text.CodingFault}
    (noText : Text.decodeUtf8 bytes = .error fault) :
    textOf bytes = .error ⟨.undecodable, fault.message⟩ := by
  simp only [textOf, noText]

/-- A value that a manifest writes has unique keys. -/
theorem hasUniqueKeys_of_parse
    {path : FilePath}
    {text : String}
    {value : Value}
    (parsed : parse path text = .ok value) :
    value.HasUniqueKeys := by
  unfold parse at parsed
  split at parsed
  · split at parsed
    · next isRead =>
        cases parsed
        exact Yaml.hasUniqueKeys_of_read isRead
    · cases parsed
    · cases parsed
  · split at parsed
    · next isRead =>
        cases parsed
        exact Json.hasUniqueKeys_of_read isRead
    · cases parsed

private theorem kind_ne_of_beyond
    {failure : Json.Failure}
    {crash : Crash}
    (isBeyond : failure.crash? = some crash) :
    crash.kind ≠ .brokenManifest := by
  cases failure <;> cases isBeyond <;> simp [Crash.tooDeep]

/-- A text that is not parsed is reported as broken unless it is beyond its reader. -/
private theorem escapes_iff_of_not_parsed
    {path : FilePath}
    {bytes : List Nat}
    {text : String}
    {crash : Crash}
    (decoded : textOf bytes = .ok text)
    (notParsed : parse path text = .error crash) :
    Escapes path bytes ↔ crash.kind ≠ .brokenManifest := by
  have sameText : ∀ {other}, textOf bytes = .ok other → other = text :=
    fun isOther => Except.ok.inj (isOther.symm.trans decoded)
  have outcome := notParsed
  unfold parse at outcome
  constructor
  · rintro (noText | ⟨isJson, isText, stopped, isBeyond⟩ | ⟨isYaml, isText, crashed, isOther⟩ |
      ⟨isText, parsed, _⟩)
    · rw [textOf_of_decodeUtf8 noText] at decoded
      cases decoded
    · cases sameText isText
      simp only [isJson, stopped, isBeyond, Option.getD_some] at outcome
      cases outcome
      exact kind_ne_of_beyond isBeyond
    · cases sameText isText
      simp only [isYaml, crashed] at outcome
      cases outcome
      exact isOther
    · cases sameText isText
      rw [notParsed] at parsed
      cases parsed
  · intro isOther
    split at outcome
    · next isYaml =>
        split at outcome
        · cases outcome
        · cases outcome
          exact absurd rfl isOther
        · next crashed =>
            cases outcome
            exact .beyondYaml isYaml decoded crashed isOther
    · next isJson =>
        split at outcome
        · cases outcome
        · next failure stopped =>
            cases isBeyond : failure.crash? with
            | some beyond =>
                exact .beyondJson (by simpa using isJson) decoded stopped isBeyond
            | none =>
                rw [isBeyond] at outcome
                cases outcome
                exact absurd rfl isOther

/-- A value that is parsed escapes exactly if it cannot be checked. -/
private theorem escapes_iff_of_parsed
    {path : FilePath}
    {bytes : List Nat}
    {text : String}
    {value : Value}
    (decoded : textOf bytes = .ok text)
    (parsed : parse path text = .ok value) :
    Escapes path bytes ↔ ModuleDefinition.Stumbles value := by
  have sameText : ∀ {other}, textOf bytes = .ok other → other = text :=
    fun isOther => Except.ok.inj (isOther.symm.trans decoded)
  constructor
  · rintro (noText | ⟨isJson, isText, stopped, _⟩ | ⟨isYaml, isText, crashed, _⟩ |
      ⟨isText, isParsed, stumbles⟩)
    · rw [textOf_of_decodeUtf8 noText] at decoded
      cases decoded
    · cases sameText isText
      simp [parse, isJson, stopped] at parsed
    · cases sameText isText
      simp [parse, isYaml, crashed] at parsed
    · cases sameText isText
      cases parsed.symm.trans isParsed
      exact stumbles
  · exact .uncheckable decoded parsed

/-- Loading a manifest gives a module or reports a broken manifest, whatever its name and its bytes
are, unless the bytes are no text, the text is beyond its reader or the module cannot be checked; in
these cases it never does. -/
theorem endsAsForeseen_load_iff
    (path : FilePath)
    (bytes : List Nat) :
    EndsAsForeseen (load path bytes) ↔ ¬ Escapes path bytes := by
  cases decoded : textOf bytes with
  | error crash =>
      have fails : load path bytes = .error crash := by
        simp only [load, decoded]
        rfl
      rw [fails, endsAsForeseen_error_iff]
      cases noText : Text.decodeUtf8 bytes with
      | ok text =>
          simp [textOf, noText] at decoded
      | error fault =>
          rw [textOf_of_decodeUtf8 noText] at decoded
          cases decoded
          exact iff_of_false (by simp) (not_not.mpr (.undecodable noText))
  | ok text =>
      cases parsed : parse path text with
      | error crash =>
          have fails : load path bytes = .error crash := by
            simp only [load, decoded, parsed, bind, Except.bind]
          rw [fails, endsAsForeseen_error_iff, escapes_iff_of_not_parsed decoded parsed, not_not]
      | ok value =>
          rw [escapes_iff_of_parsed decoded parsed,
            ← ModuleDefinition.crashes_check_iff (hasUniqueKeys_of_parse parsed)]
          cases checked : ModuleDefinition.check value with
          | ok definition =>
              have loads : load path bytes = .ok definition.assignDeclarationOrder := by
                simp only [load, decoded, parsed, checked, bind, Except.bind]
                rfl
              exact iff_of_true (.inl ⟨_, loads⟩) (by simp)
          | rejected issues =>
              have fails : load path bytes = .error (invalid path issues) := by
                simp only [load, decoded, parsed, checked, bind, Except.bind]
                rfl
              exact iff_of_true (.inr ⟨_, fails⟩) (by simp)
          | crashed crash =>
              have fails : load path bytes = .error crash := by
                simp only [load, decoded, parsed, checked, bind, Except.bind]
                rfl
              rw [fails, endsAsForeseen_error_iff]
              have ends := ModuleDefinition.crashesInCheck_check value crash checked
              refine iff_of_false (fun isBroken => ?_) (by simp)
              simp [isBroken, CrashKind.EndsCheck] at ends

/-- A module with one type whose members are given as a number. -/
def numberAsMembers : List Nat :=
  "\x7b\"name\":\"M\",\"types\":[\x7b\"full_name\":\"A\",\"members\":5\x7d]\x7d".toList.map Char.toNat

/-- The number of members is run through before it is checked. -/
theorem not_endsAsForeseen_of_number_as_members :
    ¬ EndsAsForeseen (load (.ofText "m.json") numberAsMembers) := by
  have isWrongType :
      (match load (.ofText "m.json") numberAsMembers with
        | .error crash => some crash.kind
        | .ok _ => none) = some .wrongType := by
    decide +kernel
  rintro (⟨definition, loaded⟩ | ⟨reason, isBroken⟩)
  · rw [loaded] at isWrongType
    cases isWrongType
  · rw [isBroken] at isWrongType
    cases isWrongType

end Manifest

end TypeCatalog
