import Mathlib.Data.List.TakeWhile
import TypeCatalog.Text.CharacterClass

namespace TypeCatalog.Text

/-!
# Blanks and words

Trimming leaves a text alone that has no blank at either end, and takes blanks away that were put
in front of such a text.  Nothing is left only of a text of blanks.  Every other text reads as a
first word and further words, each with the blanks in front of it, between blanks at both ends that
do not count.
-/

/-! ## Trimmed texts -/

/-- Characters with something at both ends that is no blank. -/
structure Trimmed (characters : List Char) : Prop where
  first : ∃ c rest, characters = c :: rest ∧ isBlank c = false
  last : ∃ front c, characters = front ++ [c] ∧ isBlank c = false

namespace Trimmed

variable {characters : List Char}

theorem ne_nil (trimmed : Trimmed characters) : characters ≠ [] := by
  obtain ⟨c, rest, rfl, _⟩ := trimmed.first
  exact List.cons_ne_nil c rest

/-- What is put between a text and its new last character does not matter. -/
theorem append
    {c : Char}
    (trimmed : Trimmed characters)
    (between : List Char)
    (noBlank : isBlank c = false) :
    Trimmed (characters ++ between ++ [c]) := by
  obtain ⟨first, rest, rfl, firstNoBlank⟩ := trimmed.first
  exact ⟨⟨first, rest ++ between ++ [c], by simp, firstNoBlank⟩,
    ⟨first :: rest ++ between, c, rfl, noBlank⟩⟩

private theorem reverse_eq_cons
    {front : List Char}
    {c : Char}
    (ends : characters = front ++ [c]) :
    characters.reverse = c :: front.reverse := by
  rw [ends, List.reverse_append]
  rfl

/-- Blanks in front and behind are taken away. -/
theorem trimList_between
    {before after : List Char}
    (trimmed : Trimmed characters)
    (beforeBlank : ∀ c ∈ before, isBlank c = true)
    (afterBlank : ∀ c ∈ after, isBlank c = true) :
    trimList (before ++ characters ++ after) = characters := by
  obtain ⟨first, rest, starts, firstNoBlank⟩ := trimmed.first
  obtain ⟨front, last, ends, lastNoBlank⟩ := trimmed.last
  have fromLeft : (before ++ characters ++ after).dropWhile isBlank = characters ++ after := by
    rw [List.append_assoc, List.dropWhile_append_of_pos beforeBlank, starts, List.cons_append,
      List.dropWhile_cons_of_neg (by simp [firstNoBlank])]
  have fromRight : (characters ++ after).reverse.dropWhile isBlank = characters.reverse := by
    rw [List.reverse_append, List.dropWhile_append_of_pos fun c member =>
      afterBlank c (List.mem_reverse.mp member), reverse_eq_cons ends,
      List.dropWhile_cons_of_neg (by simp [lastNoBlank])]
  rw [trimList, trimBy, fromLeft, fromRight, List.reverse_reverse]

theorem trimList_eq (trimmed : Trimmed characters) : trimList characters = characters := by
  simpa using trimmed.trimList_between (List.forall_mem_nil _) (List.forall_mem_nil _)

/-- A trimmed text is not blank. -/
theorem isBlankText_eq_false
    {text : String}
    (trimmed : Trimmed text.toList) :
    isBlankText text = false := by
  obtain ⟨c, rest, charactersAre, noBlank⟩ := trimmed.first
  rw [isBlankText, charactersAre, List.all_cons, noBlank, Bool.false_and]

theorem trim_eq
    {text : String}
    (trimmed : Trimmed text.toList) :
    trim text = text := by
  rw [trim, trimmed.trimList_eq, String.ofList_toList]

end Trimmed

/-- What trimming takes away stands in front and behind, and is blank. -/
theorem exists_blanks_around (characters : List Char) :
    ∃ before after,
      (∀ c ∈ before, isBlank c = true) ∧ (∀ c ∈ after, isBlank c = true) ∧
        characters = before ++ trimList characters ++ after := by
  let rest := characters.dropWhile isBlank
  refine
    ⟨characters.takeWhile isBlank, (rest.reverse.takeWhile isBlank).reverse,
      fun c member => List.mem_takeWhile_imp member,
      fun c member => List.mem_takeWhile_imp (List.mem_reverse.mp member), ?_⟩
  have restIs : rest = trimList characters ++ (rest.reverse.takeWhile isBlank).reverse := by
    rw [trimList, trimBy, ← List.reverse_append, List.takeWhile_append_dropWhile,
      List.reverse_reverse]
  rw [List.append_assoc, ← restIs, List.takeWhile_append_dropWhile]

/-- What is left after trimming is trimmed. -/
theorem trimmed_trimList
    {characters : List Char}
    (someLeft : trimList characters ≠ []) :
    Trimmed (trimList characters) := by
  let rest := characters.dropWhile isBlank
  have lastLeft : rest.reverse.dropWhile isBlank ≠ [] := fun nothing =>
    someLeft (by rw [trimList, trimBy, nothing, List.reverse_nil])
  constructor
  · have restLeft : rest ≠ [] := by
      intro nothing
      apply lastLeft
      rw [nothing]
      rfl
    obtain ⟨c, others, charactersAre⟩ := List.exists_cons_of_ne_nil someLeft
    refine ⟨c, others, charactersAre, ?_⟩
    have starts : trimList characters <+: rest := by
      rw [trimList, trimBy, ← List.reverse_suffix, List.reverse_reverse]
      exact List.dropWhile_suffix _
    rw [charactersAre] at starts
    obtain ⟨behind, restIs⟩ := starts
    have headIs : rest.head restLeft = c := by
      simp [← restIs]
    rw [← headIs]
    exact List.head_dropWhile_not isBlank restLeft
  · refine ⟨(rest.reverse.dropWhile isBlank).tail.reverse, _, ?_,
      List.head_dropWhile_not isBlank lastLeft⟩
    rw [← List.reverse_singleton, ← List.reverse_append, List.singleton_append,
      List.cons_head_tail]
    rfl

theorem trimmed_iff (characters : List Char) :
    Trimmed characters ↔ characters ≠ [] ∧ trimList characters = characters := by
  constructor
  · exact fun trimmed => ⟨trimmed.ne_nil, trimmed.trimList_eq⟩
  · rintro ⟨someText, unchanged⟩
    rw [← unchanged]
    exact trimmed_trimList (unchanged.symm ▸ someText)

instance (characters : List Char) : Decidable (Trimmed characters) :=
  decidable_of_iff _ (trimmed_iff characters).symm

/-- Nothing is left of a text after trimming exactly when it is blank. -/
theorem isEmpty_trim_iff (text : String) :
    (trim text).isEmpty = true ↔ isBlankText text = true := by
  rw [String.isEmpty_iff, isBlankText, List.all_eq_true, trim, trimList, trimBy,
    String.ofList_eq_empty_iff, List.reverse_eq_nil_iff, List.dropWhile_eq_nil_iff]
  constructor
  · intro restBlank
    by_contra notAll
    have notDropped : text.toList.dropWhile isBlank ≠ [] :=
      fun dropped => notAll (List.dropWhile_eq_nil_iff.mp dropped)
    have headBlank :=
      restBlank _ (List.mem_reverse.mpr (List.head_mem notDropped))
    cases headBlank.symm.trans (List.head_dropWhile_not isBlank notDropped)
  · intro allBlank c member
    rw [List.dropWhile_eq_nil_iff.mpr allBlank] at member
    cases member

/-! ## Words and the blanks between them -/

/-- A word: at least one character, and no blank among them. -/
structure IsWord (characters : List Char) : Prop where
  ne_nil : characters ≠ []
  noBlank : ∀ c ∈ characters, isBlank c = false

instance (characters : List Char) : Decidable (IsWord characters) :=
  decidable_of_iff (characters ≠ [] ∧ characters.all (fun c => !isBlank c) = true)
    ⟨fun ⟨ne_nil, noBlank⟩ => ⟨ne_nil, by simpa using noBlank⟩,
      fun isWord => ⟨isWord.ne_nil, by simpa using isWord.noBlank⟩⟩

/-- Whether characters are blanks alone, if there are any. -/
def AllBlank (characters : List Char) : Prop :=
  ∀ c ∈ characters, isBlank c = true

instance (characters : List Char) : Decidable (AllBlank characters) :=
  decidable_of_iff (characters.all isBlank = true) List.all_eq_true

theorem allBlank_nil : AllBlank [] :=
  List.forall_mem_nil _

theorem allBlank_cons
    {c : Char}
    {rest : List Char} :
    AllBlank (c :: rest) ↔ isBlank c = true ∧ AllBlank rest :=
  List.forall_mem_cons

/-- A word with the blanks in front of it. -/
structure SpacedWord where
  gap : List Char
  word : List Char
  gap_ne_nil : gap ≠ []
  gap_blank : AllBlank gap
  isWord : IsWord word

/-- A text does not start with a blank if it starts with a word. -/
theorem IsWord.takeWhile_append
    {word : List Char}
    (isWord : IsWord word)
    (rest : List Char) :
    (word ++ rest).takeWhile isBlank = [] := by
  obtain ⟨c, word, rfl⟩ := List.exists_cons_of_ne_nil isWord.ne_nil
  have noBlank : isBlank c = false := isWord.noBlank c List.mem_cons_self
  rw [List.cons_append, List.takeWhile_cons_of_neg (by simp [noBlank])]

namespace SpacedWord

/-- The blanks and the word after them. -/
def characters (spaced : SpacedWord) : List Char :=
  spaced.gap ++ spaced.word

end SpacedWord

/-- A text that reads as a first word and further words, whatever blanks stand around them all. -/
structure ReadsAs
    (text first : List Char)
    (others : List SpacedWord) : Prop where
  isWord : IsWord first
  framed :
    ∃ before after,
      AllBlank before ∧ AllBlank after ∧
        text = before ++ first ++ others.flatMap SpacedWord.characters ++ after

/-- Every text is blank or reads as words. -/
theorem allBlank_or_readsAs (text : List Char) :
    AllBlank text ∨ ∃ first others, ReadsAs text first others := by
  induction text with
  | nil =>
      exact .inl allBlank_nil
  | cons c rest inductionHypothesis =>
      cases blank : isBlank c with
      | true =>
          rcases inductionHypothesis with allBlank | ⟨first, others, reads⟩
          · exact .inl (allBlank_cons.mpr ⟨blank, allBlank⟩)
          · obtain ⟨before, after, beforeBlank, afterBlank, rfl⟩ := reads.framed
            refine .inr ⟨first, others, reads.isWord, c :: before, after, ?_, afterBlank, by simp⟩
            exact allBlank_cons.mpr ⟨blank, beforeBlank⟩
      | false =>
          right
          rcases inductionHypothesis with allBlank | ⟨first, others, reads⟩
          · exact ⟨[c], [], ⟨List.cons_ne_nil c [], by simpa using blank⟩, [], rest, allBlank_nil,
              allBlank, by simp⟩
          · obtain ⟨before, after, beforeBlank, afterBlank, rfl⟩ := reads.framed
            -- Without blanks in between, the character belongs to the word that follows.
            cases before with
            | nil =>
                refine ⟨c :: first, others, ⟨List.cons_ne_nil c first, ?_⟩, [], after,
                  allBlank_nil, afterBlank, by simp⟩
                exact List.forall_mem_cons.mpr ⟨blank, reads.isWord.noBlank⟩
            | cons gapFirst gapRest =>
                let spaced : SpacedWord :=
                  ⟨gapFirst :: gapRest, first, List.cons_ne_nil _ _, beforeBlank, reads.isWord⟩
                refine ⟨[c], spaced :: others, ⟨List.cons_ne_nil c [], by simpa using blank⟩, [],
                  after, allBlank_nil, afterBlank, ?_⟩
                simp [spaced, SpacedWord.characters]

/-! ## The words of a text -/

/-- The words are what is left between the blanks. -/
theorem words_eq_splitOnP (text : List Char) :
    words text = (text.splitOnP isBlank).filter fun word => !word.isEmpty := by
  rw [words]
  congr 1
  induction text with
  | nil =>
      rfl
  | cons c rest inductionHypothesis =>
      rw [List.foldr_cons, inductionHypothesis, List.splitOnP_cons_eq_if_modifyHead]
      obtain ⟨word, others, pieces⟩ :=
        List.exists_cons_of_ne_nil (List.splitOnP_ne_nil isBlank rest)
      rw [pieces]
      rfl

/-- A blank ends one word and comes before the next. -/
theorem words_append_cons
    {c : Char}
    (blank : isBlank c = true)
    (text rest : List Char) :
    words (text ++ c :: rest) = words text ++ words rest := by
  simp only [words_eq_splitOnP]
  rw [List.splitOnP_append_cons text rest blank, List.filter_append]

theorem words_nil : words [] = [] :=
  rfl

/-- Blanks in front of a text make no difference to its words. -/
theorem words_blanks_append
    {blanks : List Char}
    (allBlank : AllBlank blanks)
    (text : List Char) :
    words (blanks ++ text) = words text := by
  induction blanks with
  | nil =>
      rfl
  | cons c rest inductionHypothesis =>
      obtain ⟨blank, restBlank⟩ := allBlank_cons.mp allBlank
      calc
        words (c :: rest ++ text) = words [] ++ words (rest ++ text) :=
          words_append_cons blank [] (rest ++ text)
        _ = words text := inductionHypothesis restBlank

theorem AllBlank.words_eq_nil
    {blanks : List Char}
    (allBlank : AllBlank blanks) :
    words blanks = [] := by
  rw [← List.append_nil blanks, words_blanks_append allBlank, words_nil]

/-- Blanks after a text make no difference to its words. -/
theorem words_append_blanks
    {blanks : List Char}
    (allBlank : AllBlank blanks)
    (text : List Char) :
    words (text ++ blanks) = words text := by
  cases blanks with
  | nil =>
      rw [List.append_nil]
  | cons c rest =>
      obtain ⟨blank, restBlank⟩ := allBlank_cons.mp allBlank
      rw [words_append_cons blank, restBlank.words_eq_nil, List.append_nil]

theorem IsWord.words_eq
    {word : List Char}
    (isWord : IsWord word) :
    words word = [word] := by
  rw [words_eq_splitOnP, List.splitOnP_eq_singleton isWord.noBlank]
  simp [isWord.ne_nil]

/-- A word after blanks is one more word. -/
theorem words_append_spaced
    (text : List Char)
    (spaced : SpacedWord) :
    words (text ++ spaced.characters) = words text ++ [spaced.word] := by
  obtain ⟨gap, word, gap_ne_nil, gap_blank, isWord⟩ := spaced
  cases gap with
  | nil =>
      exact absurd rfl gap_ne_nil
  | cons c rest =>
      obtain ⟨blank, restBlank⟩ := allBlank_cons.mp gap_blank
      rw [SpacedWord.characters, List.cons_append, words_append_cons blank,
        words_blanks_append restBlank, isWord.words_eq]

end TypeCatalog.Text
