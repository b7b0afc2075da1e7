import TypeCatalog.Describe.Parts
import TypeCatalog.Proofs.Metadata.TopLevelPieces

namespace TypeCatalog

/-!
# Full texts of references

The full text of a reference made of plain names starts with a character of a name and ends with a
name or a mark, and its angle brackets are balanced.  A comma in it stands outside all angle
brackets only as a mark of an array with several dimensions.

Arguments of a constructed type are found again by cutting their text at the commas outside all
angle brackets.  That works unless an argument shows such a comma itself, being an array of several
dimensions: then one of the pieces starts with a closing bracket.
-/

namespace TypeRef

/-- The characters with a meaning of their own in shorthand. -/
def marks : List Char :=
  ['&', '*', '[', ']', '<', '>', ',', '!']

/-- Whether a character can stand in a plain name. -/
def isPlain (c : Char) : Bool :=
  !Text.isBlank c && !marks.contains c

/-- A name of plain characters. -/
structure PlainName (name : String) : Prop where
  nonempty : name.toList ≠ []
  plain : ∀ c ∈ name.toList, isPlain c = true

/-- A reference made of plain names by arrays, pointers, references to places and arguments. -/
inductive Plain : TypeRef → Prop where
  | named {name : String} :
      PlainName name →
      Plain ⟨.named, name, none, 1, []⟩
  | array {element : TypeRef} {rank : Nat} :
      Plain element →
      1 ≤ rank →
      Plain ⟨.array, "", some element, rank, []⟩
  | pointer {element : TypeRef} :
      Plain element →
      Plain ⟨.pointer, "", some element, 1, []⟩
  | byReference {element : TypeRef} :
      Plain element →
      Plain ⟨.byReference, "", some element, 1, []⟩
  | constructed {name : String} {arguments : List TypeRef} :
      PlainName name →
      arguments ≠ [] →
      (∀ argument ∈ arguments, Plain argument) →
      Plain ⟨.named, name, none, 1, arguments⟩

mutual

/-- Whether the text of a reference shows a comma outside all angle brackets: one of the arrays
around the innermost reference has several dimensions. -/
def showsComma : TypeRef → Bool
  | ⟨kind, _, element?, rank, _⟩ =>
    match kind with
    | .array => elementShowsComma element? || decide (1 < rank)
    | .pointer | .byReference => elementShowsComma element?
    | .named | .genericParameter => false

/-- Whether the text of an element shows a comma outside all angle brackets. -/
def elementShowsComma : Option TypeRef → Bool
  | none => false
  | some element => showsComma element

end

/-- The texts of arguments with commas between them. -/
def argumentCharacters (arguments : List TypeRef) : List Char :=
  List.intercalate [',', ' '] (arguments.map fun argument => argument.fullText.toList)

theorem argumentCharacters_cons_cons
    (first second : TypeRef)
    (rest : List TypeRef) :
    argumentCharacters (first :: second :: rest) =
      first.fullText.toList ++ ',' :: ' ' :: argumentCharacters (second :: rest) := by
  simp [argumentCharacters, List.intercalate_cons_cons]

theorem argumentCharacters_singleton (argument : TypeRef) :
    argumentCharacters [argument] = argument.fullText.toList := by
  simp [argumentCharacters]

/-! ## The text of each form -/

private theorem argumentFullTexts_eq_map (arguments : List TypeRef) :
    argumentFullTexts arguments = arguments.map fullText := by
  induction arguments with
  | nil =>
      rfl
  | cons argument rest inductionHypothesis =>
      rw [argumentFullTexts, inductionHypothesis, List.map_cons]

theorem fullText_named (name : String) :
    fullText ⟨.named, name, none, 1, []⟩ = name := by
  simp [fullText, argumentFullTexts]

theorem toList_arrayMarks (rank : Nat) :
    (arrayMarks rank).toList = '[' :: (List.replicate (rank - 1) ',' ++ [']']) := by
  simp [arrayMarks]

theorem toList_fullText_array
    (element : TypeRef)
    (rank : Nat) :
    (fullText ⟨.array, "", some element, rank, []⟩).toList =
      element.fullText.toList ++ (arrayMarks rank).toList := by
  simp [fullText, elementFullText]

theorem toList_fullText_pointer (element : TypeRef) :
    (fullText ⟨.pointer, "", some element, 1, []⟩).toList = element.fullText.toList ++ ['*'] := by
  simp [fullText, elementFullText]

theorem toList_fullText_byReference (element : TypeRef) :
    (fullText ⟨.byReference, "", some element, 1, []⟩).toList =
      element.fullText.toList ++ ['&'] := by
  simp [fullText, elementFullText]

theorem toList_fullText_constructed
    {arguments : List TypeRef}
    (name : String)
    (nonempty : arguments ≠ []) :
    (fullText ⟨.named, name, none, 1, arguments⟩).toList =
      name.toList ++ '<' :: (argumentCharacters arguments ++ ['>']) := by
  obtain ⟨first, rest, rfl⟩ := List.exists_cons_of_ne_nil nonempty
  simp [fullText, argumentFullTexts, argumentFullTexts_eq_map, argumentCharacters,
    String.toList_intercalate, Function.comp_def]

/-! ## The ends of a text -/

theorem isBlank_of_isPlain
    {c : Char}
    (plain : isPlain c = true) :
    Text.isBlank c = false := by
  simp only [isPlain, Bool.and_eq_true, Bool.not_eq_true'] at plain
  exact plain.1

theorem PlainName.of_all
    {name : String}
    (nonempty : name.toList ≠ [])
    (allPlain : name.toList.all isPlain = true) :
    PlainName name :=
  ⟨nonempty, List.all_eq_true.mp allPlain⟩

/-- No character of a plain name is a mark. -/
theorem PlainName.ne_of_mem
    {name : String}
    {c mark : Char}
    (plainName : PlainName name)
    (member : c ∈ name.toList)
    (isMark : mark ∈ marks) :
    c ≠ mark := by
  have plain := plainName.plain c member
  simp only [isPlain, Bool.and_eq_true, Bool.not_eq_true', List.contains_eq_mem,
    decide_eq_false_iff_not] at plain
  rintro rfl
  exact plain.2 isMark

theorem PlainName.trimmed
    {name : String}
    (plainName : PlainName name) :
    Text.Trimmed name.toList := by
  constructor
  · obtain ⟨c, rest, shape⟩ := List.exists_cons_of_ne_nil plainName.nonempty
    exact ⟨c, rest, shape, isBlank_of_isPlain (plainName.plain c (by simp [shape]))⟩
  · refine ⟨name.toList.dropLast, name.toList.getLast plainName.nonempty,
      (List.dropLast_concat_getLast plainName.nonempty).symm, ?_⟩
    exact isBlank_of_isPlain (plainName.plain _ (List.getLast_mem plainName.nonempty))

theorem Plain.trimmed_fullText
    {reference : TypeRef}
    (plain : reference.Plain) :
    Text.Trimmed reference.fullText.toList := by
  induction plain with
  | named plainName =>
      rw [fullText_named]
      exact plainName.trimmed
  | array _ _ trimmed =>
      rw [toList_fullText_array, toList_arrayMarks, ← List.cons_append, ← List.append_assoc]
      exact trimmed.append _ (by decide)
  | pointer _ trimmed =>
      rw [toList_fullText_pointer]
      simpa using trimmed.append [] (c := '*') (by decide)
  | byReference _ trimmed =>
      rw [toList_fullText_byReference]
      simpa using trimmed.append [] (c := '&') (by decide)
  | constructed plainName nonempty _ _ =>
      rw [toList_fullText_constructed _ nonempty, ← List.cons_append, ← List.append_assoc]
      exact plainName.trimmed.append _ (by decide)

end TypeRef

namespace Shorthand

open TypeRef

/-! ## Brackets and commas of a text -/

theorem balance_name
    {name : String}
    (plainName : PlainName name) :
    balance name.toList = 0 :=
  balance_eq_zero fun _ member =>
    tilt_eq_zero (plainName.ne_of_mem member (by decide)) (plainName.ne_of_mem member (by decide))

theorem tilt_of_mem_arrayMarks
    {rank : Nat}
    {c : Char}
    (member : c ∈ (arrayMarks rank).toList) :
    tilt c = 0 := by
  simp only [toList_arrayMarks, List.mem_cons, List.mem_append, List.mem_replicate,
    List.not_mem_nil, or_false] at member
  rcases member with rfl | ⟨_, rfl⟩ | rfl <;> rfl

theorem balance_arrayMarks (rank : Nat) : balance (arrayMarks rank).toList = 0 :=
  balance_eq_zero fun _ => tilt_of_mem_arrayMarks

theorem balance_argumentCharacters
    {arguments : List TypeRef}
    (balanced : ∀ argument ∈ arguments, balance argument.fullText.toList = 0) :
    balance (argumentCharacters arguments) = 0 := by
  induction arguments with
  | nil =>
      rfl
  | cons first others inductionHypothesis =>
      obtain ⟨firstBalanced, othersBalanced⟩ := List.forall_mem_cons.mp balanced
      cases others with
      | nil => rw [argumentCharacters_singleton, firstBalanced]
      | cons second others =>
          rw [argumentCharacters_cons_cons, balance_append, balance_cons, balance_cons,
            firstBalanced, inductionHypothesis othersBalanced]
          rfl

theorem balance_fullText
    {reference : TypeRef}
    (plain : reference.Plain) :
    balance reference.fullText.toList = 0 := by
  induction plain with
  | named plainName =>
      rw [fullText_named, balance_name plainName]
  | array _ _ balanced =>
      rw [toList_fullText_array, balance_append, balanced, balance_arrayMarks]
      rfl
  | pointer _ balanced =>
      rw [toList_fullText_pointer, balance_append, balanced]
      rfl
  | byReference _ balanced =>
      rw [toList_fullText_byReference, balance_append, balanced]
      rfl
  | constructed plainName nonempty _ balanced =>
      rw [toList_fullText_constructed _ nonempty, balance_append, balance_cons, balance_append,
        balance_name plainName, balance_argumentCharacters balanced]
      rfl

theorem commasEnclosed_name
    {name : String}
    (plainName : PlainName name)
    (depth : Int) :
    CommasEnclosed depth name.toList :=
  commasEnclosed_of_not_mem
    (fun isComma => plainName.ne_of_mem isComma (show ',' ∈ marks by decide) rfl) depth

theorem commasEnclosed_arrayMarks
    {rank : Nat}
    {depth : Int}
    (noCut : rank ≤ 1 ∨ depth ≠ 0) :
    CommasEnclosed depth (arrayMarks rank).toList := by
  rcases noCut with single | nested
  · refine commasEnclosed_of_not_mem ?_ depth
    have noCommas : rank - 1 = 0 := by omega
    simp [toList_arrayMarks, noCommas]
  · exact commasEnclosed_of_level nested fun _ => tilt_of_mem_arrayMarks

theorem commasEnclosed_argumentCharacters
    {arguments : List TypeRef}
    {depth : Int}
    (nested : depth ≠ 0)
    (plain : ∀ argument ∈ arguments, argument.Plain)
    (enclosed : ∀ argument ∈ arguments, CommasEnclosed depth argument.fullText.toList) :
    CommasEnclosed depth (argumentCharacters arguments) := by
  induction arguments with
  | nil =>
      exact commasEnclosed_nil depth
  | cons first others inductionHypothesis =>
      obtain ⟨firstPlain, othersPlain⟩ := List.forall_mem_cons.mp plain
      obtain ⟨firstEnclosed, othersEnclosed⟩ := List.forall_mem_cons.mp enclosed
      cases others with
      | nil =>
          rwa [argumentCharacters_singleton]
      | cons second others =>
          have divider : CommasEnclosed depth [',', ' '] :=
            commasEnclosed_of_level nested
              (List.forall_mem_cons.mpr ⟨rfl, List.forall_mem_singleton.mpr rfl⟩)
          have rest := inductionHypothesis othersPlain othersEnclosed
          have dividerAndRest :
              CommasEnclosed depth ([',', ' '] ++ argumentCharacters (second :: others)) :=
            commasEnclosed_append_iff.mpr ⟨divider, (Int.add_zero depth).symm ▸ rest⟩
          rw [argumentCharacters_cons_cons, commasEnclosed_append_iff, balance_fullText firstPlain,
            Int.add_zero]
          exact ⟨firstEnclosed, dividerAndRest⟩

/-- Inside angle brackets, or where the text of a reference shows no comma, all commas in the text
are enclosed. -/
theorem commasEnclosed_fullText
    {reference : TypeRef}
    {depth : Int}
    (plain : reference.Plain)
    (inside : 0 ≤ depth)
    (noCut : reference.showsComma = false ∨ depth ≠ 0) :
    CommasEnclosed depth reference.fullText.toList := by
  induction plain generalizing depth with
  | named plainName =>
      rw [fullText_named]
      exact commasEnclosed_name plainName depth
  | @array element rank plainElement _ elementEnclosed =>
      simp only [showsComma, elementShowsComma, Bool.or_eq_false_iff, decide_eq_false_iff_not,
        Nat.not_lt] at noCut
      rw [toList_fullText_array, commasEnclosed_append_iff, balance_fullText plainElement,
        Int.add_zero]
      exact ⟨elementEnclosed inside (noCut.imp_left And.left),
        commasEnclosed_arrayMarks (noCut.imp_left And.right)⟩
  | pointer _ elementEnclosed =>
      rw [toList_fullText_pointer, commasEnclosed_append_iff]
      exact ⟨elementEnclosed inside noCut, commasEnclosed_of_not_mem (by decide) _⟩
  | byReference _ elementEnclosed =>
      rw [toList_fullText_byReference, commasEnclosed_append_iff]
      exact ⟨elementEnclosed inside noCut, commasEnclosed_of_not_mem (by decide) _⟩
  | @constructed name arguments plainName nonempty plainArguments argumentsEnclosed =>
      have nested : depth + 1 ≠ 0 := by omega
      have insideEnclosed : CommasEnclosed (depth + 1) (argumentCharacters arguments) :=
        commasEnclosed_argumentCharacters nested plainArguments fun argument member =>
          argumentsEnclosed argument member (by omega) (.inr nested)
      rw [toList_fullText_constructed _ nonempty, commasEnclosed_append_iff,
        balance_name plainName, Int.add_zero, commasEnclosed_cons_iff, commasEnclosed_append_iff]
      exact ⟨commasEnclosed_name plainName depth, by simp, insideEnclosed,
        commasEnclosed_of_not_mem (by decide) _⟩

variable {depth : Int} {piece rest : List Char}

/-- Inside angle brackets, or where the text of a reference shows no comma, the text is passed over
as a whole. -/
theorem cutTopLevel_fullText
    {reference : TypeRef}
    (plain : reference.Plain)
    (inside : 0 ≤ depth)
    (noCut : reference.showsComma = false ∨ depth ≠ 0) :
    cutTopLevel depth piece (reference.fullText.toList ++ rest) =
      cutTopLevel depth (reference.fullText.toList.reverse ++ piece) rest := by
  rw [cutTopLevel_append (commasEnclosed_fullText plain inside noCut), balance_fullText plain,
    Int.add_zero]

/-! ## Arguments cut apart -/

/-- The texts of arguments stand between commas, with a blank in front of each but the first. -/
private theorem exists_padded_arguments
    {blanks : List Char}
    (allBlank : Text.AllBlank blanks)
    (first : TypeRef)
    (others : List TypeRef) :
    ∃ paddeds,
      blanks ++ argumentCharacters (first :: others) = [','].intercalate paddeds ∧
        List.Forall₂ Pads paddeds
          ((first :: others).map fun argument => argument.fullText.toList) := by
  have padsFirst : Pads (blanks ++ first.fullText.toList) first.fullText.toList :=
    ⟨blanks, [], allBlank, Text.allBlank_nil, (List.append_nil _).symm⟩
  induction others generalizing first blanks with
  | nil =>
      refine ⟨[blanks ++ first.fullText.toList], ?_, .cons padsFirst .nil⟩
      rw [argumentCharacters_singleton, List.intercalate_singleton]
  | cons second others inductionHypothesis =>
      have spaceBlank : Text.AllBlank [' '] :=
        List.forall_mem_singleton.mpr (by decide)
      obtain ⟨paddeds, restIs, restPads⟩ := inductionHypothesis spaceBlank second
        ⟨[' '], [], spaceBlank, Text.allBlank_nil, (List.append_nil _).symm⟩
      refine ⟨(blanks ++ first.fullText.toList) :: paddeds, ?_, .cons padsFirst restPads⟩
      obtain ⟨_, _, _, _, rfl⟩ := List.forall₂_cons_right_iff.mp restPads
      rw [argumentCharacters_cons_cons, List.intercalate_cons_cons, ← restIs]
      simp

/-- Arguments that show no comma are found again between the commas. -/
theorem splitTopLevel_arguments
    {arguments : List TypeRef}
    (nonempty : arguments ≠ [])
    (plain : ∀ argument ∈ arguments, argument.Plain)
    (hidden : ∀ argument ∈ arguments, argument.showsComma = false) :
    splitTopLevel (argumentCharacters arguments) =
      arguments.map fun argument => argument.fullText.toList := by
  obtain ⟨first, others, rfl⟩ := List.exists_cons_of_ne_nil nonempty
  obtain ⟨paddeds, textIs, pads⟩ := exists_padded_arguments Text.allBlank_nil first others
  rw [List.nil_append] at textIs
  rw [textIs]
  refine splitTopLevel_of_pads (List.forall_mem_map.mpr fun argument member => ?_) pads
  have isPlain := plain argument member
  exact ⟨isPlain.trimmed_fullText, balance_fullText isPlain,
    commasEnclosed_fullText isPlain (Int.le_refl 0) (.inl (hidden argument member))⟩

private theorem cutTopLevel_blank :
    cutTopLevel 0 piece (' ' :: rest) = cutTopLevel 0 (' ' :: piece) rest := by
  simp [cutTopLevel]

/-- What a cut leaves behind the last comma of an array of several dimensions: its closing bracket
and the marks that follow it. -/
inductive Remnant : List Char → Prop where
  | bracket : Remnant [']']
  | pointer {text : List Char} : Remnant text → Remnant (text ++ ['*'])
  | byReference {text : List Char} : Remnant text → Remnant (text ++ ['&'])
  | array {text : List Char} : Remnant text → Remnant (text ++ ['[', ']'])

theorem Remnant.trimmed
    {text : List Char}
    (remnant : Remnant text) :
    Text.Trimmed text := by
  induction remnant with
  | bracket =>
      exact ⟨⟨']', [], rfl, by decide⟩, ⟨[], ']', rfl, by decide⟩⟩
  | pointer _ trimmed =>
      simpa using trimmed.append [] (c := '*') (by decide)
  | byReference _ trimmed =>
      simpa using trimmed.append [] (c := '&') (by decide)
  | array _ trimmed =>
      simpa using trimmed.append ['['] (c := ']') (by decide)

private theorem cutTopLevel_bracket_subset (count : Nat) :
    cutTopLevel 0 [']'] rest ⊆
      cutTopLevel 0 [] (List.replicate count ',' ++ ']' :: rest) := by
  induction count with
  | zero =>
      simp [cutTopLevel]
  | succ count inductionHypothesis =>
      rw [List.replicate_succ, List.cons_append, cutTopLevel_comma]
      exact fun _ member => List.mem_cons_of_mem _ (inductionHypothesis member)

/-- The last comma among the marks of an array of several dimensions cuts, and leaves its bracket. -/
private theorem cutTopLevel_arrayMarks_subset
    {rank : Nat}
    (several : 1 < rank)
    (inside rest : List Char) :
    cutTopLevel 0 [']'] rest ⊆ cutTopLevel 0 inside ((arrayMarks rank).toList ++ rest) := by
  obtain ⟨more, rfl⟩ : ∃ more, rank = more + 2 := ⟨rank - 2, by omega⟩
  have marksAre :
      (arrayMarks (more + 2)).toList ++ rest =
        '[' :: ',' :: (List.replicate more ',' ++ ']' :: rest) := by
    simp [toList_arrayMarks, List.replicate_succ]
  have opened :
      cutTopLevel 0 inside ('[' :: ',' :: (List.replicate more ',' ++ ']' :: rest)) =
        ('[' :: inside).reverse :: cutTopLevel 0 [] (List.replicate more ',' ++ ']' :: rest) := by
    simp [cutTopLevel]
  rw [marksAre, opened]
  exact fun _ member => List.mem_cons_of_mem _ (cutTopLevel_bracket_subset more member)

/-- A reference that shows a comma is cut inside its text, and a remnant starts the piece that goes
on behind it. -/
private theorem exists_remnant
    {reference : TypeRef}
    (plain : reference.Plain)
    (shows : reference.showsComma = true)
    (piece rest : List Char) :
    ∃ remnant, Remnant remnant ∧
      cutTopLevel 0 remnant.reverse rest ⊆
        cutTopLevel 0 piece (reference.fullText.toList ++ rest) := by
  induction plain generalizing piece rest with
  | named | constructed =>
      cases shows
  | @array element rank plainElement _ remains =>
      rw [toList_fullText_array, List.append_assoc]
      by_cases several : 1 < rank
      · -- The marks cut wherever the element was cut before.
        obtain ⟨inside, cutBefore⟩ :
            ∃ inside,
              cutTopLevel 0 inside ((arrayMarks rank).toList ++ rest) ⊆
                cutTopLevel 0 piece
                  (element.fullText.toList ++ ((arrayMarks rank).toList ++ rest)) := by
          cases elementShows : element.showsComma with
          | false =>
              refine ⟨element.fullText.toList.reverse ++ piece, ?_⟩
              rw [cutTopLevel_fullText plainElement (by decide) (.inl elementShows)]
              exact List.Subset.refl _
          | true =>
              obtain ⟨remnant, _, cutInside⟩ := remains elementShows piece _
              exact ⟨_, cutInside⟩
        exact ⟨[']'], .bracket,
          List.Subset.trans (cutTopLevel_arrayMarks_subset several inside rest) cutBefore⟩
      · have elementShows : element.showsComma = true := by
          simpa [showsComma, elementShowsComma, several] using shows
        obtain ⟨remnant, isRemnant, cutInside⟩ :=
          remains elementShows piece ((arrayMarks rank).toList ++ rest)
        refine ⟨remnant ++ ['[', ']'], isRemnant.array, List.Subset.trans ?_ cutInside⟩
        have flat : rank - 1 = 0 := by omega
        simp [toList_arrayMarks, flat, cutTopLevel]
  | pointer _ remains =>
      obtain ⟨remnant, isRemnant, cutInside⟩ := remains shows piece ('*' :: rest)
      refine ⟨remnant ++ ['*'], isRemnant.pointer, ?_⟩
      rw [toList_fullText_pointer, List.append_assoc]
      refine List.Subset.trans ?_ cutInside
      simp [cutTopLevel]
  | byReference _ remains =>
      obtain ⟨remnant, isRemnant, cutInside⟩ := remains shows piece ('&' :: rest)
      refine ⟨remnant ++ ['&'], isRemnant.byReference, ?_⟩
      rw [toList_fullText_byReference, List.append_assoc]
      refine List.Subset.trans ?_ cutInside
      simp [cutTopLevel]

private theorem exists_remnant_of_arguments
    {arguments : List TypeRef}
    (plain : ∀ argument ∈ arguments, argument.Plain)
    (shows : ∃ argument ∈ arguments, argument.showsComma = true)
    (piece : List Char) :
    ∃ remnant, Remnant remnant ∧
      remnant ∈ cutTopLevel 0 piece (argumentCharacters arguments) := by
  induction arguments generalizing piece with
  | nil =>
      obtain ⟨_, member, _⟩ := shows
      cases member
  | cons first others inductionHypothesis =>
      cases firstShows : first.showsComma with
      | true =>
          cases others with
          | nil =>
              obtain ⟨remnant, isRemnant, cutInside⟩ :=
                exists_remnant (plain first (by simp)) firstShows piece []
              refine ⟨remnant, isRemnant, ?_⟩
              rw [argumentCharacters_singleton, ← List.append_nil first.fullText.toList]
              exact cutInside (by simp [cutTopLevel])
          | cons second others =>
              obtain ⟨remnant, isRemnant, cutInside⟩ :=
                exists_remnant (plain first (by simp)) firstShows piece
                  (',' :: ' ' :: argumentCharacters (second :: others))
              refine ⟨remnant, isRemnant, ?_⟩
              rw [argumentCharacters_cons_cons]
              exact cutInside (by simp [cutTopLevel_comma])
      | false =>
          have showsLater : ∃ argument ∈ others, argument.showsComma = true := by
            obtain ⟨argument, member, argumentShows⟩ := shows
            rcases List.mem_cons.mp member with rfl | inOthers
            · rw [firstShows] at argumentShows
              cases argumentShows
            · exact ⟨argument, inOthers, argumentShows⟩
          obtain ⟨second, others, rfl⟩ :=
            List.exists_cons_of_ne_nil (List.ne_nil_of_mem showsLater.choose_spec.1)
          obtain ⟨remnant, isRemnant, member⟩ :=
            inductionHypothesis
              (fun argument member => plain argument (List.mem_cons_of_mem first member))
              showsLater [' ']
          refine ⟨remnant, isRemnant, ?_⟩
          rw [argumentCharacters_cons_cons,
            cutTopLevel_fullText (plain first (by simp)) (by decide) (.inl firstShows),
            cutTopLevel_comma, cutTopLevel_blank]
          exact List.mem_cons_of_mem _ member

/-- If an argument shows a comma, one of the pieces is a remnant. -/
theorem exists_remnant_of_showsComma
    {arguments : List TypeRef}
    (plain : ∀ argument ∈ arguments, argument.Plain)
    (shows : ∃ argument ∈ arguments, argument.showsComma = true) :
    ∃ remnant ∈ splitTopLevel (argumentCharacters arguments), Remnant remnant := by
  obtain ⟨remnant, isRemnant, member⟩ := exists_remnant_of_arguments plain shows []
  refine ⟨remnant, List.mem_filter.mpr ⟨?_, by simpa using isRemnant.trimmed.ne_nil⟩, isRemnant⟩
  exact List.mem_map.mpr ⟨remnant, member, isRemnant.trimmed.trimList_eq⟩

end Shorthand

end TypeCatalog
