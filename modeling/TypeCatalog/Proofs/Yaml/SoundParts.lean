import TypeCatalog.Proofs.Yaml.GenuineNodes
import TypeCatalog.Yaml.Document

namespace TypeCatalog.Yaml

/-!
# The parts of values stay sound

Finding the values of nodes keeps this invariant: a part that is known as a leaf holds no other
values, the entries of a mapping, which are set one after the other, have different keys, and all
keys and leaves are genuine.
-/

/-- Whether a part holds no other values unless it says where they stand, has different keys, and is
genuine. -/
def Part.IsSound : Part → Prop
  | .leaf value => value.IsSingle ∧ value.IsGenuineSingle
  | .map entries => DifferentKeys entries ∧ ∀ entry ∈ entries, entry.1.IsGenuine
  | .set members => ∀ member ∈ members, member.IsGenuine
  | .list _ | .pairs _ => True

/-- Whether all parts that were found so far are sound, and all nodes genuine. -/
structure Builder.IsSound (builder : Builder) : Prop where
  parts : ∀ place part, builder.parts.getD place none = some part → part.IsSound
  graph : Graph.IsGenuine builder.graph

namespace Build

/-! ## Steps that keep the parts sound -/

/-- Steps that keep the parts sound and give a result of some sort, if they succeed. -/
def Gives
    {α : Type}
    (steps : Build α)
    (sort : α → Prop) : Prop :=
  ∀ before result after,
    before.IsSound → steps.run before = .ok (result, after) → after.IsSound ∧ sort result

/-- Steps that keep the parts sound, if they succeed. -/
def KeepsSound
    {α : Type}
    (steps : Build α) : Prop :=
  steps.Gives fun _ => True

variable {α β : Type}

theorem gives_pure
    {result : α}
    {sort : α → Prop}
    (isSo : sort result) :
    (pure result : Build α).Gives sort := by
  rintro before _ _ sound ⟨⟩
  exact ⟨sound, isSo⟩

theorem keepsSound_pure
    (result : α) :
    (pure result : Build α).KeepsSound :=
  gives_pure trivial

theorem gives_throw
    (fault : Fault)
    (sort : α → Prop) :
    (throw fault : Build α).Gives sort := by
  rintro before _ _ _ ⟨⟩

theorem Gives.bind
    {steps : Build α}
    {next : α → Build β}
    {middle : α → Prop}
    {sort : β → Prop}
    (first : steps.Gives middle)
    (second : ∀ result, middle result → (next result).Gives sort) :
    (steps >>= next).Gives sort := by
  intro before result after sound ran
  change (steps.run before >>= fun found => (next found.1).run found.2) = _ at ran
  cases firstRan : steps.run before with
  | error fault =>
      rw [firstRan] at ran
      cases ran
  | ok found =>
      rw [firstRan] at ran
      obtain ⟨soundBetween, isSo⟩ := first before found.1 found.2 sound firstRan
      exact second found.1 isSo found.2 result after soundBetween ran

theorem KeepsSound.bind
    {steps : Build α}
    {next : α → Build β}
    {sort : β → Prop}
    (first : steps.KeepsSound)
    (second : ∀ result, (next result).Gives sort) :
    (steps >>= next).Gives sort :=
  Gives.bind first fun result _ => second result

theorem gives_get : (get : Build Builder).Gives Builder.IsSound := by
  rintro before _ _ sound ⟨⟩
  exact ⟨sound, sound⟩

theorem keepsSound_modify
    {change : Builder → Builder}
    (keeps : ∀ builder, builder.IsSound → (change builder).IsSound) :
    (modify change : Build Unit).KeepsSound := by
  rintro before _ _ sound ⟨⟩
  exact ⟨keeps before sound, trivial⟩

theorem gives_foldlM
    {step : β → α → Build β}
    {sort : β → Prop}
    (items : List α)
    (keeps : ∀ done item, sort done → (step done item).Gives sort)
    {start : β}
    (isSo : sort start) :
    (items.foldlM step start).Gives sort := by
  induction items generalizing start with
  | nil =>
      exact gives_pure isSo
  | cons item rest inductionHypothesis =>
      rw [List.foldlM_cons]
      exact (keeps start item isSo).bind fun done isDone => inductionHypothesis isDone

theorem keepsSound_mapM
    {step : α → Build β}
    (items : List α)
    (keeps : ∀ item, (step item).KeepsSound) :
    (items.mapM step).KeepsSound := by
  induction items with
  | nil =>
      rw [List.mapM_nil]
      exact keepsSound_pure []
  | cons item rest inductionHypothesis =>
      rw [List.mapM_cons]
      exact (keeps item).bind fun _ => inductionHypothesis.bind fun _ => gives_pure trivial

theorem keepsSound_forM
    {step : α → Build PUnit}
    (items : List α)
    (keeps : ∀ item, (step item).KeepsSound) :
    (items.forM step).KeepsSound := by
  induction items with
  | nil =>
      exact keepsSound_pure _
  | cons item rest inductionHypothesis =>
      exact (keeps item).bind fun _ => inductionHypothesis

theorem keepsSound_forIn
    {step : α → Build β}
    (items : List α)
    (keeps : ∀ item, (step item).KeepsSound) :
    (forIn items PUnit.unit fun item _ => do
      let _ ← step item
      pure (ForInStep.yield PUnit.unit) : Build PUnit).KeepsSound := by
  induction items with
  | nil =>
      exact keepsSound_pure _
  | cons item rest inductionHypothesis =>
      rw [List.forIn_cons, bind_assoc]
      exact (keeps item).bind fun _ => inductionHypothesis

theorem keepsSound_anyM
    {test : α → Build Bool}
    (items : List α)
    (keeps : ∀ item, (test item).KeepsSound) :
    (items.anyM test).KeepsSound := by
  induction items with
  | nil =>
      exact keepsSound_pure _
  | cons item rest inductionHypothesis =>
      refine (keeps item).bind fun found => ?_
      cases found with
      | true => exact keepsSound_pure _
      | false => exact inductionHypothesis

/-! ## The steps of building -/

theorem gives_nodeAt
    (place : Nat) :
    (nodeAt place).Gives fun node => node.content.IsGenuine :=
  gives_get.bind fun _ sound => gives_pure (sound.graph.getD place)

theorem keepsSound_tagAt
    (place : Nat) :
    (tagAt place).KeepsSound :=
  (gives_nodeAt place).bind fun _ _ => gives_pure trivial

theorem keepsSound_entriesAt
    (place : Nat) :
    (entriesAt place).KeepsSound := by
  refine (gives_nodeAt place).bind fun node _ => ?_
  split
  · exact gives_pure trivial
  · exact gives_throw _ _

theorem keepsSound_changeNode
    (place : Nat)
    {change : Node → Node}
    (keeps : ∀ node : Node, node.content.IsGenuine → (change node).content.IsGenuine) :
    (changeNode place change).KeepsSound :=
  keepsSound_modify fun _ sound => ⟨sound.parts, sound.graph.modify keeps place⟩

theorem keepsSound_setEntries
    (place : Nat)
    (entries : List (Nat × Nat)) :
    (setEntries place entries).KeepsSound :=
  keepsSound_changeNode place fun _ _ => trivial

theorem keepsSound_setPart
    (place : Nat)
    (part : Part)
    (isSound : part.IsSound) :
    (setPart place part).KeepsSound := by
  rintro before _ _ sound ⟨⟩
  refine ⟨⟨fun other found isFound => ?_, sound.graph⟩, trivial⟩
  simp only [Array.set!_eq_setIfInBounds, Array.getD_eq_getD_getElem?,
    Array.getElem?_setIfInBounds] at isFound
  split at isFound
  · split at isFound
    · cases isFound
      exact isSound
    · cases isFound
  · exact sound.parts other found (by simpa [Array.getD_eq_getD_getElem?] using isFound)

theorem keepsSound_findDefault
    (entries : List (Nat × Nat)) :
    Build.KeepsSound <| defaultEntry? entries := by
  induction entries with
  | nil =>
      exact keepsSound_pure _
  | cons entry rest inductionHypothesis =>
      refine (keepsSound_tagAt entry.1).bind fun tag => ?_
      split
      · exact gives_pure trivial
      · exact inductionHypothesis

theorem gives_textAt
    (place fuel : Nat) :
    (textAt place fuel).Gives Text.Written.IsGenuine := by
  induction fuel generalizing place with
  | zero =>
      exact gives_throw _ _
  | succ fuel inductionHypothesis =>
      refine (gives_nodeAt place).bind fun node genuine => ?_
      split
      · next written isScalar =>
          rw [isScalar] at genuine
          exact gives_pure genuine
      · exact gives_throw _ _
      · refine (keepsSound_findDefault _).bind fun found => ?_
        split
        · exact inductionHypothesis _
        · exact gives_throw _ _

theorem gives_scalarAt
    (place : Nat)
    (node : Node) :
    (scalarAt place node).Gives fun value => value.IsSingle ∧ value.IsGenuineSingle := by
  refine gives_get.bind fun builder _ => (gives_textAt place _).bind fun written genuine => ?_
  split
  · exact gives_throw _ _
  · split
    · next made =>
        exact gives_pure ⟨ScalarValue.isSingle_of_ofScalar made,
          ScalarValue.isGenuineSingle_of_ofScalar genuine made⟩
    · exact gives_throw _ _

theorem gives_postpone
    (place : Nat)
    {part : Part}
    (isSound : part.IsSound) :
    (postpone place part).Gives Part.IsSound := by
  refine (keepsSound_setPart place part isSound).bind fun _ => ?_
  exact KeepsSound.bind (keepsSound_modify fun _ sound => ⟨sound.parts, sound.graph⟩)
    fun _ => gives_pure isSound

theorem gives_partAt
    (place : Nat) :
    (partAt place).Gives Part.IsSound := by
  refine gives_get.bind fun builder sound => ?_
  split
  · next part isPart => exact gives_pure (sound.parts place part isPart)
  · refine (gives_nodeAt place).bind fun node _ => ?_
    split
    · exact gives_postpone place trivial
    · exact gives_postpone place trivial
    · exact gives_postpone place trivial
    · exact gives_postpone place ⟨.nil, List.forall_mem_nil _⟩
    · exact gives_postpone place (List.forall_mem_nil _)
    · exact gives_throw _ _
    · exact gives_throw _ _
    · exact gives_throw _ _
    · refine (gives_scalarAt place node).bind fun value isSound => ?_
      exact KeepsSound.bind (keepsSound_setPart place (.leaf value) isSound)
        fun _ => gives_pure isSound

theorem keepsSound_partAt
    (place : Nat) :
    (partAt place).KeepsSound :=
  fun before result after sound ran =>
    ⟨(gives_partAt place before result after sound ran).1, trivial⟩

theorem gives_keyAt
    (place : Nat) :
    (keyAt place).Gives Key.IsGenuine := by
  refine (gives_partAt place).bind fun part sound => ?_
  split
  · unfold keyOf
    split
    all_goals first
      | exact gives_pure sound.2
      | exact gives_throw _ _
  · exact gives_throw _ _

/-- Merging mappings moves entries between nodes only. -/
private theorem keepsSound_merging
    (fuel : Nat) :
    (∀ place, (flatten place fuel).KeepsSound) ∧
      (∀ place seen rest, (mergedEntries place seen rest fuel).KeepsSound) ∧
      (∀ place, (entriesFrom place fuel).KeepsSound) ∧
      ∀ items, (entriesFromItems items fuel).KeepsSound := by
  induction fuel with
  | zero =>
      refine ⟨fun _ => ?_, fun _ _ _ => ?_, fun _ => ?_, fun _ => ?_⟩
      · unfold flatten
        exact gives_throw _ _
      · unfold mergedEntries
        exact gives_throw _ _
      · unfold entriesFrom
        exact gives_throw _ _
      · unfold entriesFromItems
        exact gives_throw _ _
  | succ fuel inductionHypothesis =>
      obtain ⟨ofFlatten, ofMerged, ofNode, ofItems⟩ := inductionHypothesis
      refine ⟨fun place => ?_, fun place seen rest => ?_, fun place => ?_, fun items => ?_⟩
      · unfold flatten
        refine (keepsSound_entriesAt place).bind fun entries =>
          (ofMerged place [] entries).bind fun merged => ?_
        split
        · exact (keepsSound_entriesAt place).bind fun _ => keepsSound_setEntries place _
        · exact gives_pure trivial
      · unfold mergedEntries
        split
        · exact gives_pure trivial
        · next key value others =>
            refine (keepsSound_tagAt key).bind fun tag => ?_
            split
            · exact (keepsSound_setEntries place _).bind fun _ =>
                (ofNode value).bind fun _ => (keepsSound_entriesAt place).bind fun _ =>
                  (ofMerged place _ _).bind fun _ => gives_pure trivial
            · split
              · refine KeepsSound.bind (keepsSound_changeNode key ?_) fun _ => ofMerged place _ others
                exact fun _ genuine => genuine
              · exact ofMerged place _ others
      · unfold entriesFrom
        refine (gives_nodeAt place).bind fun node _ => ?_
        split
        · exact gives_throw _ _
        · exact (ofFlatten place).bind fun _ => keepsSound_entriesAt place
        · exact ofItems _
      · unfold entriesFromItems
        split
        · exact gives_pure trivial
        · next item rest =>
            refine (gives_nodeAt item).bind fun node _ => ?_
            split
            · exact (ofFlatten item).bind fun _ => (keepsSound_entriesAt item).bind fun _ =>
                (ofItems rest).bind fun _ => gives_pure trivial
            · exact gives_throw _ _

/-- Setting an entry under a genuine key keeps different keys different and genuine. -/
private theorem isSound_insert
    {done : List (Key × Nat)}
    (sound : (Part.map done).IsSound)
    {key : Key}
    (genuine : key.IsGenuine)
    (place : Nat) :
    (Part.map (Key.insert done key place)).IsSound := by
  refine ⟨sound.1.insert key place, fun entry member => ?_⟩
  rcases Key.eq_or_exists_of_mem_insert member with rfl | ⟨before, wasThere, isSame⟩
  · exact genuine
  · exact isSame ▸ sound.2 before wasThere

theorem gives_mapAt
    (place : Nat) :
    (mapAt place).Gives fun entries => (Part.map entries).IsSound := by
  have entriesSet :
      ((do
        (← entriesAt place).foldlM
          (fun done entry => do
            let key ← keyAt entry.1
            let _ ← partAt entry.2
            return Key.insert done key entry.2) []) : Build (List (Key × Nat))).Gives
        fun entries => (Part.map entries).IsSound := by
    refine (keepsSound_entriesAt place).bind fun entries =>
      gives_foldlM entries ?_ ⟨.nil, List.forall_mem_nil _⟩
    intro done entry sound
    exact (gives_keyAt entry.1).bind fun key genuine => (keepsSound_partAt entry.2).bind fun _ =>
      gives_pure (isSound_insert sound genuine entry.2)
  refine (keepsSound_entriesAt place).bind fun entries => ?_
  refine (keepsSound_anyM entries fun entry =>
    (keepsSound_tagAt entry.1).bind fun _ => gives_pure trivial).bind fun merges => ?_
  split
  · exact KeepsSound.bind (gives_get.bind fun _ _ => keepsSound_pure _) fun bound =>
      ((keepsSound_merging bound).1 place).bind fun _ => entriesSet
  · exact entriesSet

theorem keepsSound_itemsAt
    (place : Nat) :
    (itemsAt place).KeepsSound := by
  refine (gives_nodeAt place).bind fun node _ => ?_
  split
  · exact gives_pure trivial
  · exact gives_throw _ _

theorem keepsSound_pairAt
    (place : Nat) :
    (pairAt place).KeepsSound := by
  refine (keepsSound_entriesAt place).bind fun entries => ?_
  split
  · exact (keepsSound_partAt _).bind fun _ => (keepsSound_partAt _).bind fun _ =>
      gives_pure trivial
  · exact gives_throw _ _

theorem keepsSound_complete
    (place : Nat) :
    (complete place).KeepsSound := by
  refine (keepsSound_tagAt place).bind fun tag => ?_
  split
  · refine (keepsSound_itemsAt place).bind fun items => ?_
    exact (keepsSound_forIn items keepsSound_partAt).bind fun _ =>
      keepsSound_setPart place (.list items) trivial
  · refine (keepsSound_itemsAt place).bind fun items => ?_
    exact (keepsSound_mapM items keepsSound_pairAt).bind fun pairs =>
      keepsSound_setPart place (.pairs pairs) trivial
  · refine (keepsSound_itemsAt place).bind fun items => ?_
    exact (keepsSound_mapM items keepsSound_pairAt).bind fun pairs =>
      keepsSound_setPart place (.pairs pairs) trivial
  · exact (gives_mapAt place).bind fun entries sound =>
      keepsSound_setPart place (.set (entries.map Prod.fst)) (List.forall_mem_map.mpr sound.2)
  · exact (gives_mapAt place).bind fun entries sound =>
      keepsSound_setPart place (.map entries) sound

theorem keepsSound_completeAll
    (fuel : Nat) :
    (completeAll fuel).KeepsSound := by
  induction fuel with
  | zero =>
      exact keepsSound_pure _
  | succ fuel inductionHypothesis =>
      refine gives_get.bind fun builder _ => ?_
      split
      · exact gives_pure trivial
      · exact KeepsSound.bind (keepsSound_modify fun _ sound => ⟨sound.parts, sound.graph⟩) fun _ =>
          (keepsSound_forM _ keepsSound_complete).bind fun _ => inductionHypothesis

end Build

end TypeCatalog.Yaml
