import TypeCatalog.Describe.Documentation
import TypeCatalog.Proofs.Text.Words

namespace TypeCatalog.Documentation

/-!
# Tidied texts

A tidied text has the words of the text in their order.  Between two of them there is an empty line
where the text had two line feeds or more between them, and one space elsewhere.  A text without
words has nothing that could be shown, and tidying a tidied text changes nothing.
-/

open Text (AllBlank IsWord ReadsAs SpacedWord allBlank_cons allBlank_nil isBlank words)

/-- What stands between two words after tidying, in place of the blanks between them. -/
def divider (gap : List Char) : List Char :=
  if 2 ≤ gap.count '\n' then ['\n', '\n'] else [' ']

theorem divider_ne_nil (gap : List Char) : divider gap ≠ [] := by
  rw [divider]
  split <;> exact List.cons_ne_nil _ _

theorem allBlank_divider (gap : List Char) : AllBlank (divider gap) := by
  rw [divider]
  split <;> decide

theorem divider_divider (gap : List Char) : divider (divider gap) = divider gap := by
  by_cases ends : 2 ≤ gap.count '\n'
  · rw [divider.eq_def gap, if_pos ends]
    rfl
  · rw [divider.eq_def gap, if_neg ends]
    rfl

/-- A word with what stands in front of it after tidying. -/
def tidySpaced (spaced : SpacedWord) : SpacedWord :=
  { spaced with
    gap := divider spaced.gap
    gap_ne_nil := divider_ne_nil spaced.gap
    gap_blank := allBlank_divider spaced.gap }

theorem tidySpaced_tidySpaced (spaced : SpacedWord) :
    tidySpaced (tidySpaced spaced) = tidySpaced spaced := by
  simp only [tidySpaced, divider_divider]

/-! ## Paragraphs -/

/-- A word continues the paragraph. -/
theorem paragraphs_word
    {word : List Char}
    (isWord : IsWord word)
    (piece rest : List Char) :
    paragraphs piece (word ++ rest) = paragraphs (word.reverse ++ piece) rest := by
  have noLineFeed : ∀ c ∈ word, c ≠ '\n' := by
    rintro c member rfl
    cases isWord.noBlank '\n' member
  clear isWord
  induction word generalizing piece with
  | nil =>
      rfl
  | cons c word inductionHypothesis =>
      obtain ⟨notHere, notLater⟩ := List.forall_mem_cons.mp noLineFeed
      rw [List.cons_append, paragraphs, if_neg (by simp [notHere]),
        inductionHypothesis (c :: piece) notLater, List.reverse_cons, List.append_assoc]
      rfl

section Gap

variable {gap tail : List Char}

/-- Blanks with one line feed at most continue the paragraph. -/
theorem paragraphs_gap_of_count_lt
    (gapBlank : AllBlank gap)
    (tailReads : tail.takeWhile isBlank = [])
    (few : gap.count '\n' < 2)
    (piece : List Char) :
    paragraphs piece (gap ++ tail) = paragraphs (gap.reverse ++ piece) tail := by
  induction gap generalizing piece with
  | nil =>
      rfl
  | cons c gap inductionHypothesis =>
      have restBlank : AllBlank gap := (allBlank_cons.mp gapBlank).2
      have blanksAhead : (gap ++ tail).takeWhile isBlank = gap := by
        rw [List.takeWhile_append_of_pos restBlank, tailReads, List.append_nil]
      have restFew : gap.count '\n' < 2 :=
        Nat.lt_of_le_of_lt List.count_le_count_cons few
      have noEnd : ¬ (c = '\n' && gap.contains '\n') = true := by
        rw [Bool.and_eq_true, decide_eq_true_eq, List.contains_iff_mem]
        rintro ⟨rfl, another⟩
        rw [List.count_cons_self] at few
        exact absurd (List.count_pos_iff.mpr another) (by omega)
      rw [List.cons_append, paragraphs, blanksAhead, if_neg noEnd,
        inductionHypothesis restBlank restFew, List.reverse_cons, List.append_assoc]
      rfl

/-- Blanks with two line feeds end the paragraph.  Those in front of the first line feed stay in
it. -/
theorem exists_paragraphs_gap_of_le_count
    (gapBlank : AllBlank gap)
    (tailReads : tail.takeWhile isBlank = [])
    (many : 2 ≤ gap.count '\n')
    (piece : List Char) :
    ∃ blanks, AllBlank blanks ∧
      paragraphs piece (gap ++ tail) = (piece.reverse ++ blanks) :: paragraphs [] tail := by
  induction gap generalizing piece with
  | nil =>
      cases many
  | cons c gap inductionHypothesis =>
      obtain ⟨blank, restBlank⟩ := allBlank_cons.mp gapBlank
      have blanksAhead : (gap ++ tail).takeWhile isBlank = gap := by
        rw [List.takeWhile_append_of_pos restBlank, tailReads, List.append_nil]
      have afterBlanks : (gap ++ tail).dropWhile isBlank = tail := by
        rw [List.dropWhile_append_of_pos restBlank]
        have whole := tail.takeWhile_append_dropWhile (p := isBlank)
        rwa [tailReads, List.nil_append] at whole
      rw [List.cons_append, paragraphs, blanksAhead, afterBlanks]
      by_cases lineFeed : c = '\n'
      · subst lineFeed
        rw [List.count_cons_self] at many
        have another : '\n' ∈ gap := List.count_pos_iff.mp (by omega)
        exact ⟨[], allBlank_nil, by simp [another]⟩
      · rw [List.count_cons_of_ne lineFeed] at many
        obtain ⟨blanks, allBlank, paragraphsAre⟩ :=
          inductionHypothesis restBlank many (c :: piece)
        refine ⟨c :: blanks, allBlank_cons.mpr ⟨blank, allBlank⟩, ?_⟩
        rw [if_neg (by simp [lineFeed]), paragraphsAre]
        simp

end Gap

/-! ## The paragraphs that are shown -/

private theorem intercalate_cons_of_ne_nil
    {pieces : List (List Char)}
    (between piece : List Char)
    (notLast : pieces ≠ []) :
    between.intercalate (piece :: pieces) = piece ++ between ++ between.intercalate pieces := by
  obtain ⟨next, others, rfl⟩ := List.exists_cons_of_ne_nil notLast
  exact List.intercalate_cons_cons

private theorem intercalate_concat
    {pieces : List (List Char)}
    (between piece : List Char)
    (notFirst : pieces ≠ []) :
    between.intercalate (pieces ++ [piece]) = between.intercalate pieces ++ between ++ piece := by
  induction pieces with
  | nil =>
      exact absurd rfl notFirst
  | cons first others inductionHypothesis =>
      rw [List.cons_append, intercalate_cons_of_ne_nil _ _ (List.concat_ne_nil piece others)]
      by_cases noOthers : others = []
      · rw [noOthers, List.nil_append, List.intercalate_singleton, List.intercalate_singleton]
      · rw [inductionHypothesis noOthers, intercalate_cons_of_ne_nil _ _ noOthers]
        simp only [List.append_assoc]

/-- The paragraphs with words, tidied. -/
def shownParagraphs
    (piece text : List Char) : List (List Char) :=
  ((paragraphs piece text).map tidyParagraph).filter fun paragraph => !paragraph.isEmpty

theorem tidyParagraph_nil : tidyParagraph [] = [] :=
  rfl

theorem tidyParagraph_append_blanks
    {blanks : List Char}
    (allBlank : AllBlank blanks)
    (text : List Char) :
    tidyParagraph (text ++ blanks) = tidyParagraph text := by
  rw [tidyParagraph, Text.words_append_blanks allBlank, tidyParagraph]

theorem tidyParagraph_blanks_append
    {blanks : List Char}
    (allBlank : AllBlank blanks)
    (text : List Char) :
    tidyParagraph (blanks ++ text) = tidyParagraph text := by
  rw [tidyParagraph, Text.words_blanks_append allBlank, tidyParagraph]

theorem tidyParagraph_word
    {word : List Char}
    (isWord : IsWord word) :
    tidyParagraph word = word := by
  rw [tidyParagraph, isWord.words_eq, List.intercalate_singleton]

/-- A further word in a paragraph comes after a space. -/
theorem tidyParagraph_append_spaced
    {text : List Char}
    (hasWords : tidyParagraph text ≠ [])
    (spaced : SpacedWord) :
    tidyParagraph (text ++ spaced.characters) = tidyParagraph text ++ ' ' :: spaced.word := by
  have wordsBefore : words text ≠ [] := by
    intro noWords
    rw [tidyParagraph, noWords] at hasWords
    exact hasWords rfl
  rw [tidyParagraph, Text.words_append_spaced, intercalate_concat _ _ wordsBefore,
    List.append_assoc, tidyParagraph]
  rfl

/-- Blanks end the paragraph or belong to it. -/
theorem shownParagraphs_gap
    {gap tail : List Char}
    (gapBlank : AllBlank gap)
    (tailReads : tail.takeWhile isBlank = [])
    (piece : List Char) :
    shownParagraphs piece (gap ++ tail) =
      if 2 ≤ gap.count '\n' then
        ([tidyParagraph piece.reverse].filter fun paragraph => !paragraph.isEmpty) ++
          shownParagraphs [] tail
      else
        shownParagraphs (gap.reverse ++ piece) tail := by
  split
  · next many =>
      obtain ⟨blanks, allBlank, paragraphsAre⟩ :=
        exists_paragraphs_gap_of_le_count gapBlank tailReads many piece
      rw [shownParagraphs, paragraphsAre, List.map_cons, tidyParagraph_append_blanks allBlank,
        ← List.singleton_append, List.filter_append, shownParagraphs]
  · next few =>
      rw [shownParagraphs,
        paragraphs_gap_of_count_lt gapBlank tailReads (Nat.lt_of_not_le few), shownParagraphs]

theorem shownParagraphs_nil (piece : List Char) :
    shownParagraphs piece [] =
      [tidyParagraph piece.reverse].filter fun paragraph => !paragraph.isEmpty := by
  rw [shownParagraphs, paragraphs, List.map_singleton]

/-- Blanks at the end of a text make no difference. -/
theorem shownParagraphs_blanks
    {blanks : List Char}
    (allBlank : AllBlank blanks)
    (piece : List Char) :
    shownParagraphs piece blanks = shownParagraphs piece [] := by
  have ends := @shownParagraphs_gap blanks [] allBlank rfl piece
  rw [List.append_nil] at ends
  rw [ends]
  split
  · rw [shownParagraphs_nil [], List.reverse_nil, tidyParagraph_nil, shownParagraphs_nil]
    exact List.append_nil _
  · rw [shownParagraphs_nil, shownParagraphs_nil, List.reverse_append, List.reverse_reverse,
      tidyParagraph_append_blanks allBlank]

theorem shownParagraphs_word
    {word : List Char}
    (isWord : IsWord word)
    (piece rest : List Char) :
    shownParagraphs piece (word ++ rest) = shownParagraphs (word.reverse ++ piece) rest := by
  rw [shownParagraphs, paragraphs_word isWord, shownParagraphs]

/-- From a paragraph with words on, each word that follows comes after its divider. -/
theorem intercalate_shownParagraphs
    {after : List Char}
    (afterBlank : AllBlank after)
    (others : List SpacedWord)
    (piece : List Char)
    (hasWords : tidyParagraph piece.reverse ≠ []) :
    ['\n', '\n'].intercalate
        (shownParagraphs piece (others.flatMap SpacedWord.characters ++ after)) =
      tidyParagraph piece.reverse ++
        (others.map tidySpaced).flatMap SpacedWord.characters := by
  induction others generalizing piece with
  | nil =>
      rw [List.flatMap_nil, List.nil_append, shownParagraphs_blanks afterBlank,
        shownParagraphs_nil, List.filter_cons_of_pos (by simpa using hasWords)]
      simp
  | cons spaced others inductionHypothesis =>
      have isWord := spaced.isWord
      have continues :=
        shownParagraphs_gap spaced.gap_blank
          (isWord.takeWhile_append (others.flatMap SpacedWord.characters ++ after)) piece
      rw [List.flatMap_cons, SpacedWord.characters, List.append_assoc, List.append_assoc,
        continues, shownParagraphs_word isWord, shownParagraphs_word isWord, List.map_cons,
        List.flatMap_cons]
      by_cases ends : 2 ≤ spaced.gap.count '\n'
      · have rest := inductionHypothesis (spaced.word.reverse ++ [])
        rw [List.append_nil, List.reverse_reverse, tidyParagraph_word isWord] at rest
        have notLast :
            shownParagraphs spaced.word.reverse
              (others.flatMap SpacedWord.characters ++ after) ≠ [] := by
          intro noneShown
          have nothing := rest isWord.ne_nil
          rw [noneShown, List.intercalate_nil] at nothing
          exact isWord.ne_nil (List.append_eq_nil_iff.mp nothing.symm).1
        rw [if_pos ends, List.append_nil, List.filter_cons_of_pos (by simpa using hasWords),
          List.filter_nil, List.singleton_append, intercalate_cons_of_ne_nil _ _ notLast,
          rest isWord.ne_nil]
        simp [tidySpaced, SpacedWord.characters, divider, ends]
      · have sameParagraph :
            (spaced.word.reverse ++ (spaced.gap.reverse ++ piece)).reverse =
              piece.reverse ++ spaced.characters := by
          simp [SpacedWord.characters]
        rw [if_neg ends, inductionHypothesis, sameParagraph,
          tidyParagraph_append_spaced hasWords]
        · simp [tidySpaced, SpacedWord.characters, divider, ends]
        · rw [sameParagraph, tidyParagraph_append_spaced hasWords]
          simp

/-! ## Tidying -/

/-- A text that reads as words is tidied to these words, each after its divider. -/
theorem tidy_eq_of_readsAs
    {text first : List Char}
    {others : List SpacedWord}
    (reads : ReadsAs text first others) :
    tidy text = first ++ (others.map tidySpaced).flatMap SpacedWord.characters := by
  obtain ⟨before, after, beforeBlank, afterBlank, rfl⟩ := reads.framed
  have isWord := reads.isWord
  have startingWith
      (piece : List Char)
      (startsWith : tidyParagraph piece.reverse = first) :
      ['\n', '\n'].intercalate
          (shownParagraphs piece (others.flatMap SpacedWord.characters ++ after)) =
        first ++ (others.map tidySpaced).flatMap SpacedWord.characters := by
    rw [intercalate_shownParagraphs afterBlank others piece (startsWith ▸ isWord.ne_nil),
      startsWith]
  change ['\n', '\n'].intercalate (shownParagraphs [] _) = _
  rw [List.append_assoc, List.append_assoc, shownParagraphs_gap beforeBlank
    (isWord.takeWhile_append _), shownParagraphs_word isWord, shownParagraphs_word isWord]
  -- Blanks in front of the first word make a paragraph of their own, which is not shown, or none.
  split
  · exact startingWith (first.reverse ++ []) (by simp [tidyParagraph_word isWord])
  · refine startingWith (first.reverse ++ (before.reverse ++ [])) ?_
    rw [List.append_nil, ← List.reverse_append, List.reverse_reverse,
      tidyParagraph_blanks_append beforeBlank, tidyParagraph_word isWord]

theorem tidy_eq_nil_of_allBlank
    {text : List Char}
    (allBlank : AllBlank text) :
    tidy text = [] := by
  change ['\n', '\n'].intercalate (shownParagraphs [] text) = []
  rw [shownParagraphs_blanks allBlank, shownParagraphs_nil, List.reverse_nil, tidyParagraph_nil]
  rfl

/-- A tidied text reads as the same words. -/
theorem readsAs_tidy
    {text first : List Char}
    {others : List SpacedWord}
    (reads : ReadsAs text first others) :
    ReadsAs (tidy text) first (others.map tidySpaced) :=
  ⟨reads.isWord, [], [], allBlank_nil, allBlank_nil, by rw [tidy_eq_of_readsAs reads]; simp⟩

theorem tidy_tidy (text : List Char) : tidy (tidy text) = tidy text := by
  rcases Text.allBlank_or_readsAs text with allBlank | ⟨first, others, reads⟩
  · rw [tidy_eq_nil_of_allBlank allBlank, tidy_eq_nil_of_allBlank allBlank_nil]
  · have sameDividers : (others.map tidySpaced).map tidySpaced = others.map tidySpaced := by
      rw [List.map_map]
      exact List.map_congr_left fun spaced _ => tidySpaced_tidySpaced spaced
    rw [tidy_eq_of_readsAs (readsAs_tidy reads), sameDividers, tidy_eq_of_readsAs reads]

theorem tidy_eq_nil_iff (text : List Char) : tidy text = [] ↔ AllBlank text := by
  refine ⟨fun nothing => ?_, tidy_eq_nil_of_allBlank⟩
  rcases Text.allBlank_or_readsAs text with allBlank | ⟨first, others, reads⟩
  · exact allBlank
  · rw [tidy_eq_of_readsAs reads] at nothing
    exact absurd (List.append_eq_nil_iff.mp nothing).1 reads.isWord.ne_nil

theorem clean?_eq_none_iff (text : String) :
    clean? (some text) = none ↔ AllBlank text.toList := by
  rw [← tidy_eq_nil_iff, clean?]
  cases tidy text.toList <;> simp

/-- A cleaned text is the tidied one. -/
theorem clean?_eq_some
    {text : String}
    (notBlank : ¬ AllBlank text.toList) :
    clean? (some text) = some (String.ofList (tidy text.toList)) := by
  rw [← tidy_eq_nil_iff] at notBlank
  obtain ⟨c, rest, tidied⟩ := List.exists_cons_of_ne_nil notBlank
  rw [clean?, tidied]

theorem clean?_clean? (text? : Option String) : clean? (clean? text?) = clean? text? := by
  cases text? with
  | none =>
      rfl
  | some text =>
      by_cases allBlank : AllBlank text.toList
      · rw [(clean?_eq_none_iff text).mpr allBlank]
        rfl
      · have stillNotBlank : ¬ AllBlank (String.ofList (tidy text.toList)).toList := by
          rw [String.toList_ofList, ← tidy_eq_nil_iff, tidy_tidy, tidy_eq_nil_iff]
          exact allBlank
        rw [clean?_eq_some allBlank, clean?_eq_some stillNotBlank, String.toList_ofList, tidy_tidy]

/-- Nothing is left of a text exactly if it is blank.  Any other text reads as words, and what is
left of it are these words, one after the other: after an empty line where there were two line feeds
or more in front of the word, and after one space elsewhere.  Cleaning what is left changes nothing.
-/
theorem clean?_reads_words (text : String) :
    (clean? (some text) = none ↔ AllBlank text.toList) ∧
    (¬ AllBlank text.toList → ∃ first others, ReadsAs text.toList first others) ∧
    (∀ first others, ReadsAs text.toList first others →
      clean? (some text) =
        some (String.ofList
          (first ++ others.flatMap fun spaced => divider spaced.gap ++ spaced.word))) ∧
    clean? (clean? (some text)) = clean? (some text) := by
  refine ⟨clean?_eq_none_iff text, ?_, fun first others reads => ?_, clean?_clean? (some text)⟩
  · exact (Text.allBlank_or_readsAs text.toList).resolve_left
  · have notBlank : ¬ AllBlank text.toList := by
      rw [← tidy_eq_nil_iff, tidy_eq_of_readsAs reads, List.append_eq_nil_iff]
      exact fun nothing => reads.isWord.ne_nil nothing.1
    rw [clean?_eq_some notBlank, tidy_eq_of_readsAs reads, List.flatMap_map]
    rfl

/-- Of several stretches of blanks, one alone has two line feeds in it. -/
theorem clean?_reads_words_of_mixed_blanks :
    let text := "\r\n\n\u00a0Opens\r\n\tthe\n\x0b \nwidget.\u2028\nTwice.\n\n"
    clean? (some text) = some "Opens the\n\nwidget. Twice." := by
  intro text
  let others : List SpacedWord :=
    [⟨['\r', '\n', '\t'], "the".toList, by decide, by decide, by decide⟩,
      ⟨['\n', '\x0b', ' ', '\n'], "widget.".toList, by decide, by decide, by decide⟩,
      ⟨['\u2028', '\n'], "Twice.".toList, by decide, by decide, by decide⟩]
  have reads : ReadsAs text.toList "Opens".toList others :=
    ⟨by decide, ['\r', '\n', '\n', '\u00a0'], ['\n', '\n'], by decide, by decide, by decide⟩
  rw [(clean?_reads_words text).2.2.1 _ others reads]
  rfl

end TypeCatalog.Documentation
