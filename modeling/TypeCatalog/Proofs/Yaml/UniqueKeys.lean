import Mathlib.Data.List.Forall2
import TypeCatalog.Proofs.Yaml.SoundParts

namespace TypeCatalog.Yaml

/-!
# YAML texts write genuine values with unique keys

Values are put together from sound parts, so that no mapping in them has the same key twice and all
numbers and texts in them are such.
-/

/-- Whether a value has unique keys and is genuine. -/
structure SoundValue (value : Value) : Prop where
  unique : value.HasUniqueKeys
  genuine : value.IsGenuine

namespace SoundValue

theorem single
    {value : Value}
    (isSingle : value.IsSingle)
    (genuine : value.IsGenuineSingle) :
    SoundValue value := by
  refine ⟨.single isSingle, ?_⟩
  cases value with
  | pair | list | map | again => exact isSingle.elim
  | null | bool | int | float | text | unpaired | bytes | timestamp | set => exact genuine

theorem list
    {items : List Value}
    (sound : ∀ item ∈ items, SoundValue item) :
    SoundValue (.list items) :=
  ⟨.list fun item member => (sound item member).unique,
    Value.isGenuine_list_iff.mpr fun item member => (sound item member).genuine⟩

theorem map
    {entries : List (Key × Value)}
    (different : DifferentKeys entries)
    (sound : ∀ entry ∈ entries, entry.1.IsGenuine ∧ SoundValue entry.2) :
    SoundValue (.map entries) :=
  ⟨.map different fun entry member => (sound entry member).2.unique,
    Value.isGenuine_map_iff.mpr fun entry member =>
      ⟨(sound entry member).1, (sound entry member).2.genuine⟩⟩

theorem pair
    {first second : Value}
    (sound : SoundValue first)
    (otherSound : SoundValue second) :
    SoundValue (.pair first second) :=
  ⟨.pair sound.unique otherSound.unique, sound.genuine, otherSound.genuine⟩

theorem again
    {container : Value}
    (sound : SoundValue container) :
    SoundValue (.again container) :=
  ⟨.again sound.unique, sound.genuine⟩

end SoundValue

/-- Whether the values that are known are sound. -/
def Known.IsSound (known : Known) : Prop :=
  ∀ place value, known.getD place none = some value → SoundValue value

/-- Steps that keep known values sound and give a result of some sort. -/
def FindsSound
    {α : Type}
    (steps : StateM Known α)
    (sort : α → Prop) : Prop :=
  ∀ known, known.IsSound → (steps.run known).2.IsSound ∧ sort (steps.run known).1

namespace FindsSound

variable {α β : Type}

theorem ofPure
    {result : α}
    {sort : α → Prop}
    (isSo : sort result) :
    FindsSound (pure result) sort :=
  fun _ sound => ⟨sound, isSo⟩

theorem ofModify
    {change : Known → Known}
    (keeps : ∀ known, known.IsSound → (change known).IsSound) :
    FindsSound (modify change : StateM Known PUnit) fun _ => True :=
  fun known sound => ⟨keeps known sound, trivial⟩

theorem ofGet : FindsSound (get : StateM Known Known) Known.IsSound :=
  fun _ sound => ⟨sound, sound⟩

theorem bind
    {steps : StateM Known α}
    {next : α → StateM Known β}
    {middle : α → Prop}
    {sort : β → Prop}
    (first : FindsSound steps middle)
    (second : ∀ result, middle result → FindsSound (next result) sort) :
    FindsSound (steps >>= next) sort := by
  intro known sound
  obtain ⟨soundBetween, isSo⟩ := first known sound
  exact second _ isSo _ soundBetween

theorem mapM
    {step : α → StateM Known β}
    (relation : α → β → Prop)
    (items : List α)
    (each : ∀ item, FindsSound (step item) (relation item)) :
    FindsSound (items.mapM step) (List.Forall₂ relation items) := by
  induction items with
  | nil =>
      rw [List.mapM_nil]
      exact ofPure .nil
  | cons item rest inductionHypothesis =>
      rw [List.mapM_cons]
      exact (each item).bind fun first isFirst =>
        inductionHypothesis.bind fun others areOthers => ofPure (.cons isFirst areOthers)

end FindsSound

private theorem isSound_getD
    {parts : Array (Option Part)}
    (sound : ∀ place part, parts.getD place none = some part → part.IsSound)
    (place : Nat) :
    ((parts.getD place none).getD default).IsSound := by
  cases isPart : parts.getD place none with
  | none => exact ⟨trivial, trivial⟩
  | some part => exact sound place part isPart

private theorem soundValue_emptied
    {part : Part}
    (sound : part.IsSound) :
    SoundValue part.emptied := by
  cases part with
  | leaf value => exact .single sound.1 sound.2
  | map entries => exact .map .nil (List.forall_mem_nil _)
  | list _ | pairs _ | set _ => exact .list (List.forall_mem_nil _)

private theorem isSound_set
    {known : Known}
    (sound : known.IsSound)
    (place : Nat)
    {value : Value}
    (isSound : SoundValue value) :
    Known.IsSound (known.set! place (some value)) := by
  intro other found isFound
  simp only [Array.set!_eq_setIfInBounds, Array.getD_eq_getD_getElem?,
    Array.getElem?_setIfInBounds] at isFound
  split at isFound
  · split at isFound
    · cases isFound
      exact isSound
    · cases isFound
  · exact sound other found (by simpa [Array.getD_eq_getD_getElem?] using isFound)

private theorem forall_map_fst
    {α : Type}
    {items : List α}
    {found : List (Value × List Nat)}
    (areFound : List.Forall₂ (fun _ each => SoundValue each.1) items found) :
    ∀ value ∈ found.map Prod.fst, SoundValue value := by
  induction areFound with
  | nil => simp
  | cons isFound _ inductionHypothesis =>
      exact List.forall_mem_cons.mpr ⟨isFound, inductionHypothesis⟩

/-- The values of entries are found in their order, so the keys stay different. -/
private theorem soundValue_of_found
    {entries : List (Key × Nat)}
    {found : List ((Key × Value) × List Nat)}
    (sound : (Part.map entries).IsSound)
    (areFound :
      List.Forall₂ (fun entry each => each.1.1 = entry.1 ∧ SoundValue each.1.2) entries found) :
    SoundValue (Value.map (found.map Prod.fst)) := by
  have sameKeys : (found.map Prod.fst).map Prod.fst = entries.map Prod.fst := by
    clear sound
    induction areFound with
    | nil => rfl
    | cons isFound _ inductionHypothesis =>
        simp only [List.map_cons, isFound.1, inductionHypothesis]
  have keysDiffer :
      ((found.map Prod.fst).map Prod.fst).Pairwise fun first second => first.same second = false := by
    rw [sameKeys, List.pairwise_map]
    exact sound.1
  refine .map (List.pairwise_map.mp keysDiffer) ?_
  have keysGenuine := sound.2
  clear sound sameKeys keysDiffer
  induction areFound with
  | nil => exact List.forall_mem_nil _
  | cons isFound _ inductionHypothesis =>
      obtain ⟨keyGenuine, othersGenuine⟩ := List.forall_mem_cons.mp keysGenuine
      exact List.forall_mem_cons.mpr
        ⟨⟨isFound.1 ▸ keyGenuine, isFound.2⟩, inductionHypothesis othersGenuine⟩

private theorem findsSound_wholeValue
    {parts : Array (Option Part)}
    (sound : ∀ place part, parts.getD place none = some part → part.IsSound)
    (fuel : Nat)
    (around : List Nat)
    (place : Nat) :
    FindsSound (wholeValue parts fuel around place) fun found => SoundValue found.1 := by
  induction fuel generalizing around place with
  | zero =>
      exact .ofPure (.single trivial trivial)
  | succ fuel inductionHypothesis =>
      unfold wholeValue
      refine FindsSound.ofGet.bind fun known knownSound => ?_
      split
      · next value isKnown =>
          exact .ofPure (knownSound place value isKnown)
      · have partSound := isSound_getD sound place
        extract_lets part turns
        change part.IsSound at partSound
        split
        · exact .ofPure (.again (soundValue_emptied partSound))
        · rename_i inside finish _
          have insideSound :
              ∀ place, FindsSound (inside place) fun found => SoundValue found.1 :=
            inductionHypothesis (place :: around)
          -- What is left to do with the value of the part keeps it as it is or marks it.
          have finishSound :
              ∀ found : Value × List Nat, SoundValue found.1 →
                FindsSound (finish found) fun found => SoundValue found.1 := by
            rintro ⟨value, again⟩ unique
            change FindsSound (ite _ _ _) _
            split
            · exact .ofPure (.again unique)
            · dsimp only
              split
              · exact (FindsSound.ofModify fun known knownSound =>
                  isSound_set knownSound place unique).bind fun _ _ => .ofPure unique
              · exact .ofPure unique
          clear_value finish inside
          cases partIs : part with
          | leaf value =>
              rw [partIs] at partSound
              exact finishSound (value, []) (.single partSound.1 partSound.2)
          | set members =>
              rw [partIs] at partSound
              exact finishSound (.set members, []) (.single trivial partSound)
          | list items =>
              exact (FindsSound.mapM _ items insideSound).bind fun found areFound =>
                finishSound (.list (found.map Prod.fst), _) (.list (forall_map_fst areFound))
          | pairs items =>
              refine (FindsSound.mapM (fun _ each => SoundValue each.1) items
                fun item => ?_).bind fun found areFound =>
                  finishSound (.list (found.map Prod.fst), _) (.list (forall_map_fst areFound))
              exact (insideSound item.1).bind fun first firstUnique =>
                (insideSound item.2).bind fun second secondUnique =>
                  .ofPure (.pair firstUnique secondUnique)
          | map entries =>
              rw [partIs] at partSound
              refine (FindsSound.mapM
                (fun entry each => each.1.1 = entry.1 ∧ SoundValue each.1.2)
                entries fun entry => ?_).bind fun found areFound =>
                  finishSound (.map (found.map Prod.fst), _)
                    (soundValue_of_found partSound areFound)
              exact (insideSound entry.2).bind fun value valueUnique =>
                .ofPure ⟨rfl, valueUnique⟩

private theorem getD_replicate_none
    {α : Type}
    (size place : Nat) :
    (Array.replicate size (none : Option α)).getD place none = none := by
  simp only [Array.getD_eq_getD_getElem?, Array.getElem?_replicate]
  split <;> rfl

/-- The value of a document with genuine nodes is sound. -/
theorem Document.soundValue_of_value
    {document : Document}
    {value : Value}
    (genuine : Graph.IsGenuine document.graph)
    (isValue : document.value = .ok value) :
    SoundValue value := by
  simp only [Document.value] at isValue
  cases ran : StateT.run
      (do
        let _ ← Build.partAt document.root
        Build.completeAll (document.graph.size + 1))
      (Builder.mk document.graph (Array.replicate document.graph.size none) []) with
  | error fault =>
      rw [ran] at isValue
      cases isValue
  | ok found =>
      rw [ran] at isValue
      cases isValue
      have startSound :
          (Builder.mk document.graph (Array.replicate document.graph.size none) []).IsSound := by
        refine ⟨fun place part isPart => ?_, genuine⟩
        rw [getD_replicate_none] at isPart
        cases isPart
      have knownSound :
          Known.IsSound (Array.replicate document.graph.size none) := by
        intro place value isKnown
        rw [getD_replicate_none] at isKnown
        cases isKnown
      have partsSound :=
        ((Build.keepsSound_partAt document.root).bind fun _ => Build.keepsSound_completeAll _)
          _ _ _ startSound ran
      exact (findsSound_wholeValue partsSound.1.parts _ [] document.root _ knownSound).2

/-- A value that a YAML text writes is sound. -/
theorem soundValue_of_read
    {text : String}
    {value : Value}
    (isRead : read text = .ok value) :
    SoundValue value := by
  unfold read at isRead
  cases isDocument : readDocument text with
  | error fault =>
      rw [isDocument] at isRead
      cases isRead
  | ok document? =>
      rw [isDocument] at isRead
      cases document? with
      | none =>
          cases isRead
          exact .single trivial trivial
      | some document =>
          exact document.soundValue_of_value (isGenuine_of_readDocument isDocument) isRead

/-- A value that a YAML text writes has unique keys. -/
theorem hasUniqueKeys_of_read
    {text : String}
    {value : Value}
    (isRead : read text = .ok value) :
    value.HasUniqueKeys :=
  (soundValue_of_read isRead).unique

end TypeCatalog.Yaml
