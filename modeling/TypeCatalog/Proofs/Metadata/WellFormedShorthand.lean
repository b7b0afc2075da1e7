import TypeCatalog.Proofs.Metadata.ShorthandRoundTrip

namespace TypeCatalog

/-!
# Well-formed shorthand

The grammar of shorthand: a name, or a reference with a mark behind it, or a name with arguments in
angle brackets, with blanks between any two of them.  A text is accepted as a reference all of whose
names are free of marks exactly if it is well-formed and not too deep.  Other texts are accepted as
well, and their marks end up in the names.
-/

namespace Shorthand

open TypeRef

/-! ## Characters that names are free of -/

/-- The marks that the shorthand keeps for itself: brackets, and the marks behind a reference. -/
def reservedMarks : List Char :=
  ['<', '>', '[', ']', '&', '*']

/-- Characters with no mark among them. -/
def IsFree (characters : List Char) : Prop :=
  ∀ c ∈ characters, c ∉ reservedMarks

theorem IsFree.balance_eq
    {name : List Char}
    (isFree : IsFree name) :
    balance name = 0 := by
  refine balance_eq_zero fun c member => tilt_eq_zero ?_ ?_
  · rintro rfl
    exact isFree _ member (by decide)
  · rintro rfl
    exact isFree _ member (by decide)

/-! ## The grammar -/

/-- The name of a type: characters that are no marks, and no exclamation mark first. -/
structure IsTypeName (name : List Char) : Prop where
  ne_nil : name ≠ []
  isFree : IsFree name
  noMarkAtStart : name.head? ≠ some '!'

/-- Pieces of an argument list between commas, none of them with a comma outside all brackets, and
the texts that are left of them without blanks; a blank piece is no argument. -/
structure CutInto (pieces texts : List (List Char)) : Prop where
  somePiece : pieces ≠ []
  enclosed : ∀ piece ∈ pieces, CommasEnclosed 0 piece
  texts_eq : (pieces.map Text.trimList).filter (fun piece => !piece.isEmpty) = texts

/-- A text is well-formed shorthand for a draft.  Blanks may stand around it, around each part that
is shorthand itself, and around names. -/
inductive Spells : List Char → Shorthand → Prop where
  | named {text name : List Char} :
      Text.trimList text = name →
      IsTypeName name →
      Spells text (.named (String.ofList name))
  | genericParameter {text name : List Char} :
      Text.trimList text = '!' :: name →
      name ≠ [] →
      IsFree name →
      Spells text (.genericParameter (String.ofList name))
  | array {text front : List Char} {element : Shorthand} {commas : Nat} :
      Text.trimList text = front ++ '[' :: (List.replicate commas ',' ++ [']']) →
      Spells front element →
      Spells text (.array element (commas + 1))
  | pointer {text front : List Char} {element : Shorthand} :
      Text.trimList text = front ++ ['*'] →
      Spells front element →
      Spells text (.pointer element)
  | byReference {text front : List Char} {element : Shorthand} :
      Text.trimList text = front ++ ['&'] →
      Spells front element →
      Spells text (.byReference element)
  | constructed
      {text front name : List Char}
      {pieces : List (List Char)}
      {arguments : List (List Char × Shorthand)} :
      Text.trimList text = front ++ '<' :: ([','].intercalate pieces ++ ['>']) →
      Text.trimList front = name →
      IsTypeName name →
      CutInto pieces (arguments.map Prod.fst) →
      (∀ argument ∈ arguments, Spells argument.1 argument.2) →
      Spells text (.constructed (String.ofList name) (arguments.map Prod.snd))

/-- Each piece is blank, or one of the texts is left of it. -/
theorem CutInto.trimList_mem
    {pieces texts : List (List Char)}
    {piece : List Char}
    (cut : CutInto pieces texts)
    (member : piece ∈ pieces) :
    Text.trimList piece = [] ∨ Text.trimList piece ∈ texts := by
  by_cases blank : Text.trimList piece = []
  · exact .inl blank
  · right
    rw [← cut.texts_eq]
    exact List.mem_filter.mpr ⟨List.mem_map_of_mem member, by simpa using blank⟩

theorem CutInto.balance_eq
    {pieces texts : List (List Char)}
    (cut : CutInto pieces texts)
    (balanced : ∀ text ∈ texts, balance text = 0) :
    ∀ piece ∈ pieces, balance piece = 0 := by
  intro piece member
  rw [← balance_trimList]
  rcases cut.trimList_mem member with blank | isText
  · rw [blank, balance_nil]
  · exact balanced _ isText

/-- Cutting an argument list gives its texts again. -/
theorem CutInto.splitTopLevel_eq
    {pieces texts : List (List Char)}
    (cut : CutInto pieces texts)
    (balanced : ∀ text ∈ texts, balance text = 0) :
    splitTopLevel ([','].intercalate pieces) = texts := by
  have atCommas :=
    cutAtCommas_intercalate cut.somePiece cut.enclosed (cut.balance_eq balanced)
  rw [atCommas.splitTopLevel_eq, cut.texts_eq]

theorem exists_cutInto (inside : List Char) :
    ∃ pieces, [','].intercalate pieces = inside ∧ CutInto pieces (splitTopLevel inside) := by
  obtain ⟨pieces, cut⟩ := CutAtCommas.exists_pieces 0 inside
  exact ⟨pieces, cut.intercalate_eq, cut.ne_nil, cut.enclosed rfl, cut.splitTopLevel_eq.symm⟩

theorem balance_intercalate
    {pieces : List (List Char)}
    (balanced : ∀ piece ∈ pieces, balance piece = 0) :
    balance ([','].intercalate pieces) = 0 := by
  induction pieces with
  | nil =>
      rfl
  | cons first others inductionHypothesis =>
      obtain ⟨firstBalanced, othersBalanced⟩ := List.forall_mem_cons.mp balanced
      cases others with
      | nil => simpa using firstBalanced
      | cons second others =>
          rw [List.intercalate_cons_cons, balance_append, balance_append, firstBalanced,
            inductionHypothesis othersBalanced]
          rfl

/-- The angle brackets of well-formed shorthand are balanced. -/
theorem Spells.balance_eq
    {text : List Char}
    {draft : Shorthand}
    (spells : Spells text draft) :
    balance text = 0 := by
  induction spells with
  | named trims isName =>
      rw [← balance_trimList, trims, isName.isFree.balance_eq]
  | genericParameter trims _ isFree =>
      rw [← balance_trimList, trims, balance_cons, isFree.balance_eq]
      rfl
  | @array text front element commas trims _ frontBalanced =>
      have commasBalanced : balance (List.replicate commas ',') = 0 :=
        balance_eq_zero fun c member => by rw [List.eq_of_mem_replicate member]; rfl
      rw [← balance_trimList, trims, balance_append, frontBalanced, balance_cons, balance_append,
        commasBalanced]
      rfl
  | pointer trims _ frontBalanced | byReference trims _ frontBalanced =>
      rw [← balance_trimList, trims, balance_append, frontBalanced]
      rfl
  | @constructed text front name pieces arguments trims nameIs isName cut _ argumentsBalanced =>
      have frontBalanced : balance front = 0 := by
        rw [← balance_trimList, nameIs, isName.isFree.balance_eq]
      have insideBalanced : balance ([','].intercalate pieces) = 0 := by
        refine balance_intercalate (cut.balance_eq fun argument member => ?_)
        obtain ⟨pair, inArguments, rfl⟩ := List.mem_map.mp member
        exact argumentsBalanced pair inArguments
      rw [← balance_trimList, trims, balance_append, frontBalanced, balance_cons, balance_append,
        insideBalanced]
      rfl

/-! ## The reference that a draft stands for -/

mutual

/-- The reference that a draft stands for. -/
def reference : Shorthand → TypeRef
  | .named name => ⟨.named, name, none, 1, []⟩
  | .constructed name arguments => ⟨.named, name, none, 1, references arguments⟩
  | .genericParameter name => ⟨.genericParameter, name, none, 1, []⟩
  | .array element rank => ⟨.array, "", some (reference element), rank, []⟩
  | .pointer element => ⟨.pointer, "", some (reference element), 1, []⟩
  | .byReference element => ⟨.byReference, "", some (reference element), 1, []⟩

/-- The references that drafts stand for. -/
def references : List Shorthand → List TypeRef
  | [] => []
  | draft :: rest => reference draft :: references rest

end

theorem references_eq_map (drafts : List Shorthand) : references drafts = drafts.map reference := by
  induction drafts with
  | nil =>
      rfl
  | cons draft rest inductionHypothesis =>
      rw [references, inductionHypothesis, List.map_cons]

/-! ## Well-formed shorthand is read -/

theorem IsFree.getLast?_ne
    {characters : List Char}
    {mark : Char}
    (isFree : IsFree characters)
    (isReserved : mark ∈ reservedMarks) :
    characters.getLast? ≠ some mark := fun isLast =>
  isFree mark (List.mem_of_getLast? isLast) isReserved

theorem read_genericParameter
    {text name : List Char}
    (trims : Text.trimList text = '!' :: name)
    (noMarkAtEnd : ∀ mark ∈ ['&', '*', ']'], ('!' :: name).getLast? ≠ some mark)
    (calls : Nat) :
    read (calls + 1) text = .ok (.genericParameter (String.ofList name)) := by
  rw [read]
  simp only [trims, noMarkAtEnd '&' (by decide), noMarkAtEnd '*' (by decide),
    noMarkAtEnd ']' (by decide)]
  simp

theorem Spells.ne_nil
    {text : List Char}
    {draft : Shorthand}
    (spells : Spells text draft) :
    text ≠ [] := by
  rintro rfl
  cases spells with
  | named trims isName => exact isName.ne_nil trims.symm
  | genericParameter trims | array trims | pointer trims | byReference trims
    | constructed trims =>
      simp [Text.trimList, Text.trimBy] at trims

/-- What stands before a mark starts as the whole does, so no blank is trimmed in front of it. -/
theorem head?_trimList_front
    {text front rest : List Char}
    (trims : Text.trimList text = front ++ rest) :
    (Text.trimList front).head? = front.head? := by
  cases frontIs : front with
  | nil => rfl
  | cons c others =>
      have someLeft : Text.trimList text ≠ [] := by
        simp [trims, frontIs]
      obtain ⟨first, behind, wholeIs, noBlank⟩ := (Text.trimmed_trimList someLeft).first
      rw [trims, frontIs, List.cons_append, List.cons.injEq] at wholeIs
      obtain ⟨rfl, _⟩ := wholeIs
      obtain ⟨before, after, beforeBlank, afterBlank, frontSplits⟩ :=
        Text.exists_blanks_around (c :: others)
      have notBlank {blanks : List Char} (allBlank : ∀ d ∈ blanks, Text.isBlank d = true) :
          blanks.head? ≠ some c := by
        intro isFirst
        have blank := allBlank c (List.mem_of_head? isFirst)
        rw [noBlank] at blank
        cases blank
      have startsWith := congrArg List.head? frontSplits
      cases before with
      | nil =>
          cases leftIs : Text.trimList (c :: others) with
          | nil =>
              rw [leftIs, List.nil_append, List.nil_append] at startsWith
              exact absurd startsWith.symm (notBlank afterBlank)
          | cons d left =>
              rw [leftIs] at startsWith
              exact startsWith.symm
      | cons d before =>
          have isFirst : (d :: before).head? = some c :=
            startsWith.symm
          exact absurd isFirst (notBlank beforeBlank)

theorem bracket_not_mem_front
    {front : List Char}
    (isFree : IsFree (Text.trimList front)) :
    '<' ∉ front := by
  intro member
  obtain ⟨before, after, beforeBlank, afterBlank, frontIs⟩ := Text.exists_blanks_around front
  rw [frontIs, List.mem_append, List.mem_append] at member
  rcases member with (inBefore | inName) | inAfter
  · exact absurd (beforeBlank _ inBefore) (by decide)
  · exact isFree _ inName (by decide)
  · exact absurd (afterBlank _ inAfter) (by decide)

theorem depth_le_depth_constructed
    (name : String)
    {arguments : List (List Char × Shorthand)}
    {argument : List Char × Shorthand}
    (member : argument ∈ arguments) :
    argument.2.reference.depth + 1 ≤
      (reference (.constructed name (arguments.map Prod.snd))).depth := by
  rw [reference, depth_constructed, references_eq_map, Nat.succ_le_succ_iff]
  exact depth_le_argumentDepth (List.mem_map_of_mem (List.mem_map_of_mem member))

/-- Well-formed shorthand is read, where there is room for two calls for each reference inside
another. -/
theorem Spells.readsWithin
    {text : List Char}
    {draft : Shorthand}
    (spells : Spells text draft)
    (calls : Nat) :
    ReadsWithin calls (2 * draft.reference.depth) text draft := by
  induction spells generalizing calls with
  | named trims isName =>
      refine .of_succ (fun calls => .inl ?_) calls
      refine read_named trims isName.ne_nil (fun mark isMark => ?_) isName.noMarkAtStart calls
      exact isName.isFree.getLast?_ne
        ((by decide : ['&', '*', ']', '>'] ⊆ reservedMarks) isMark)
  | genericParameter trims someName isFree =>
      refine .of_succ (fun calls => .inl ?_) calls
      refine read_genericParameter trims (fun mark isMark => ?_) calls
      rw [List.getLast?_cons_of_ne_nil someName]
      exact isFree.getLast?_ne
        ((by decide : ['&', '*', ']'] ⊆ reservedMarks) isMark)
  | array trims spellsFront readFront =>
      refine .of_succ (fun calls => ?_) calls
      rw [reference, depth_wrapped, Nat.mul_add]
      exact (readFront calls).wrap (read_array trims spellsFront.ne_nil calls)
  | pointer trims _ readFront =>
      refine .of_succ (fun calls => ?_) calls
      rw [reference, depth_wrapped, Nat.mul_add]
      exact (readFront calls).wrap (read_pointer trims calls)
  | byReference trims _ readFront =>
      refine .of_succ (fun calls => ?_) calls
      rw [reference, depth_wrapped, Nat.mul_add]
      exact (readFront calls).wrap (read_byReference trims calls)
  | @constructed text front name pieces arguments trims nameIs isName cut spellsEach readEach =>
      refine .of_succ (fun calls => ?_) calls
      have noMarkAtStart : front.head? ≠ some '!' := by
        rw [← head?_trimList_front trims, nameIs]
        exact isName.noMarkAtStart
      have noBracket : '<' ∉ front :=
        bracket_not_mem_front (nameIs ▸ isName.isFree)
      have split : splitTopLevel ([','].intercalate pieces) = arguments.map Prod.fst := by
        refine cut.splitTopLevel_eq fun argument member => ?_
        obtain ⟨pair, inArguments, rfl⟩ := List.mem_map.mp member
        exact (spellsEach pair inArguments).balance_eq
      let room :=
        2 * (reference (.constructed (String.ofList name) (arguments.map Prod.snd))).depth
      -- An argument list takes a call of its own, so arguments are read with one call less.
      have each : ∀ argument ∈ arguments,
          ReadsWithin (calls - 1) (room - 2) argument.1 argument.2 := by
        intro argument member
        have bound := depth_le_depth_constructed (String.ofList name) member
        exact (readEach argument member (calls - 1)).imp_right
          (And.imp_left fun tooFew => by omega)
      rw [ReadsWithin, read_constructed trims noBracket noMarkAtStart, nameIs, split]
      rcases mapM_readsWithin each with passes | ⟨tooFew, fails⟩
      · exact .inl (by rw [passes]; rfl)
      · exact .inr ⟨by omega, by rw [fails]; rfl⟩

/-! ## What is read is well-formed if its names are free of marks -/

mutual

/-- The names in a draft. -/
def names : Shorthand → List String
  | .named name | .genericParameter name => [name]
  | .constructed name arguments => name :: namesAmong arguments
  | .array element _ | .pointer element | .byReference element => names element

/-- The names in drafts. -/
def namesAmong : List Shorthand → List String
  | [] => []
  | draft :: rest => names draft ++ namesAmong rest

end

theorem namesAmong_eq_flatMap (drafts : List Shorthand) : namesAmong drafts = drafts.flatMap names := by
  induction drafts with
  | nil =>
      rfl
  | cons draft rest inductionHypothesis =>
      rw [namesAmong, inductionHypothesis, List.flatMap_cons]

theorem forall_names_constructed_iff
    {holds : String → Prop}
    {name : String}
    {arguments : List Shorthand} :
    (∀ other ∈ names (.constructed name arguments), holds other) ↔
      holds name ∧ ∀ argument ∈ arguments, ∀ other ∈ argument.names, holds other := by
  rw [names, List.forall_mem_cons, namesAmong_eq_flatMap, List.forall_mem_flatMap]

/-- Whether each name in a draft has characters, and no mark among them. -/
def WellNamed (draft : Shorthand) : Prop :=
  ∀ name ∈ draft.names, name ≠ "" ∧ IsFree name.toList

private theorem Except.zip_of_mapM_eq_ok
    {α β ε : Type}
    {f : α → Except ε β}
    {items : List α}
    {results : List β}
    (passed : items.mapM f = .ok results) :
    items.length = results.length ∧ ∀ pair ∈ items.zip results, f pair.1 = .ok pair.2 := by
  induction items generalizing results with
  | nil =>
      cases passed
      simp
  | cons item rest inductionHypothesis =>
      rw [List.mapM_cons] at passed
      cases first : f item with
      | error failure =>
          rw [first] at passed
          cases passed
      | ok result =>
          cases others : rest.mapM f with
          | error failure =>
              rw [first, others] at passed
              cases passed
          | ok othersRead =>
              rw [first, others] at passed
              cases passed
              obtain ⟨sameLength, each⟩ := inductionHypothesis others
              refine ⟨congrArg Nat.succ sameLength, ?_⟩
              rw [List.zip_cons_cons]
              exact List.forall_mem_cons.mpr ⟨first, each⟩

/-- What reading finds in a trimmed text, with its parts read in turn. -/
inductive Finds
    (calls : Nat)
    (trimmed : List Char) : Shorthand → Prop where
  | byReference {front : List Char} {element : Shorthand} :
      trimmed = front ++ ['&'] →
      read calls front = .ok element →
      Finds calls trimmed (.byReference element)
  | pointer {front : List Char} {element : Shorthand} :
      trimmed = front ++ ['*'] →
      read calls front = .ok element →
      Finds calls trimmed (.pointer element)
  | array {front : List Char} {element : Shorthand} {commas : Nat} :
      trimmed = front ++ '[' :: (List.replicate commas ',' ++ [']']) →
      read calls front = .ok element →
      Finds calls trimmed (.array element (commas + 1))
  | genericParameter {name : List Char} :
      trimmed = '!' :: name →
      Finds calls trimmed (.genericParameter (String.ofList name))
  | constructed {front inside : List Char} {arguments : List Shorthand} :
      trimmed = front ++ '<' :: (inside ++ ['>']) →
      trimmed.head? ≠ some '!' →
      (splitTopLevel inside).mapM (read (calls - 1)) = .ok arguments →
      Finds calls trimmed (.constructed (String.ofList (Text.trimList front)) arguments)
  | named :
      trimmed ≠ [] →
      trimmed.head? ≠ some '!' →
      Finds calls trimmed (.named (String.ofList trimmed))

private theorem eq_of_dropWhile_eq_cons
    {mark c : Char}
    {text rest : List Char}
    (stops : text.dropWhile (· != mark) = c :: rest) :
    c = mark := by
  have isMark := List.head?_dropWhile_not (· != mark) text
  rw [stops] at isMark
  simpa using isMark

/-- The last square brackets of a text that ends with one are opened behind what stands in front of
them. -/
private theorem eq_of_lastBrackets
    {text : List Char}
    (isLast : text.getLast? = some ']')
    (someElement : (lastBrackets text).1 ≠ []) :
    text = (lastBrackets text).1 ++ '[' :: ((lastBrackets text).2 ++ [']']) := by
  obtain ⟨body, rfl⟩ := List.getLast?_eq_some_iff.mp isLast
  let inside := body.reverse.takeWhile (· != '[')
  let opened := body.reverse.dropWhile (· != '[')
  have bodyIs : inside ++ opened = body.reverse :=
    List.takeWhile_append_dropWhile
  have bracketsAre : lastBrackets (body ++ [']']) = ((opened.drop 1).reverse, inside.reverse) := by
    rw [lastBrackets, List.dropLast_concat]
    change ((body.reverse.drop (inside.length + 1)).reverse, inside.reverse) = _
    rw [← bodyIs, List.drop_length_add_append]
  rw [bracketsAre] at someElement ⊢
  cases openedIs : opened with
  | nil =>
      simp [openedIs] at someElement
  | cons c rest =>
      have isBracket : c = '[' :=
        eq_of_dropWhile_eq_cons openedIs
      have bodyAgain := congrArg List.reverse bodyIs
      rw [openedIs, isBracket, List.reverse_append, List.reverse_reverse] at bodyAgain
      simp [← bodyAgain]

private theorem exists_inside
    {text : List Char}
    (isLast : text.getLast? = some '>')
    (hasBracket : '<' ∈ text) :
    ∃ inside, text.dropWhile (· != '<') = '<' :: (inside ++ ['>']) := by
  have textIs : text.takeWhile (· != '<') ++ text.dropWhile (· != '<') = text :=
    List.takeWhile_append_dropWhile
  cases opened : text.dropWhile (· != '<') with
  | nil =>
      simpa using List.dropWhile_eq_nil_iff.mp opened '<' hasBracket
  | cons c rest =>
      obtain rfl := eq_of_dropWhile_eq_cons opened
      rw [opened] at textIs
      rw [← textIs, List.getLast?_append] at isLast
      cases rest with
      | nil => simp at isLast
      | cons d others =>
          have restEnds : (d :: others).getLast? = some '>' := by
            simpa [List.getLast?_cons] using isLast
          obtain ⟨inside, insideIs⟩ := List.getLast?_eq_some_iff.mp restEnds
          exact ⟨inside, by rw [insideIs]⟩

theorem finds_of_read
    {calls : Nat}
    {text : List Char}
    {draft : Shorthand}
    (passed : read (calls + 1) text = .ok draft) :
    Finds calls (Text.trimList text) draft := by
  rw [read] at passed
  simp only [Nat.add_one_ne_zero, if_false, Nat.add_sub_cancel] at passed
  split at passed
  · cases passed
  · next someText =>
      split at passed
      · next isLast =>
          obtain ⟨front, trims⟩ := List.getLast?_eq_some_iff.mp isLast
          rw [trims, List.dropLast_concat] at passed
          obtain ⟨element, readFront, rfl⟩ := Except.exists_of_map_eq_ok passed
          exact .byReference trims readFront
      · split at passed
        · next isLast =>
            obtain ⟨front, trims⟩ := List.getLast?_eq_some_iff.mp isLast
            rw [trims, List.dropLast_concat] at passed
            obtain ⟨element, readFront, rfl⟩ := Except.exists_of_map_eq_ok passed
            exact .pointer trims readFront
        · split at passed
          · next isLast =>
              split at passed
              · cases passed
              · next wellBracketed =>
                  obtain ⟨element, readFront, rfl⟩ := Except.exists_of_map_eq_ok passed
                  simp only [Bool.or_eq_true, not_or, List.isEmpty_iff, List.any_eq_true,
                    bne_iff_ne, not_exists, not_and, not_not] at wellBracketed
                  obtain ⟨someElement, onlyCommas⟩ := wellBracketed
                  refine .array ?_ readFront
                  rw [← List.eq_replicate_of_mem onlyCommas]
                  exact eq_of_lastBrackets isLast someElement
          · split at passed
            · next isFirst =>
                cases passed
                obtain ⟨name, trims⟩ := List.head?_eq_some_iff.mp isFirst
                rw [trims]
                exact .genericParameter rfl
            · next notFirst =>
                split at passed
                · next isLast =>
                    split at passed
                    · next hasBracket =>
                        obtain ⟨inside, opened⟩ :=
                          exists_inside isLast (by simpa using hasBracket)
                        obtain ⟨arguments, readEach, rfl⟩ := Except.exists_of_map_eq_ok passed
                        rw [opened] at readEach
                        have trims :
                            Text.trimList text =
                              (Text.trimList text).takeWhile (· != '<') ++
                                '<' :: (inside ++ ['>']) := by
                          rw [← opened, List.takeWhile_append_dropWhile]
                        exact .constructed trims notFirst (by simpa using readEach)
                    · cases passed
                · cases passed
                  exact .named someText notFirst

/-- What is read with names that have no marks in them is well-formed. -/
theorem spells_of_read
    {calls : Nat}
    {text : List Char}
    {draft : Shorthand}
    (passed : read calls text = .ok draft)
    (wellNamed : draft.WellNamed) :
    Spells text draft := by
  induction calls using Nat.strong_induction_on generalizing text draft with
  | h calls inductionHypothesis =>
      cases calls with
      | zero =>
          rw [read_zero] at passed
          cases passed
      | succ calls =>
          have spellsFront
              {front : List Char}
              {element : Shorthand}
              (readFront : read calls front = .ok element)
              (frontNamed : element.WellNamed) :
              Spells front element :=
            inductionHypothesis calls (Nat.lt_succ_self calls) readFront frontNamed
          cases finds_of_read passed with
          | byReference trims readFront =>
              exact .byReference trims (spellsFront readFront wellNamed)
          | pointer trims readFront =>
              exact .pointer trims (spellsFront readFront wellNamed)
          | array trims readFront =>
              exact .array trims (spellsFront readFront wellNamed)
          | genericParameter trims =>
              obtain ⟨someName, isFree⟩ := wellNamed _ (List.mem_singleton.mpr rfl)
              rw [String.toList_ofList] at isFree
              exact .genericParameter trims (by simpa using someName) isFree
          | named someName notFirst =>
              obtain ⟨_, isFree⟩ := wellNamed _ (List.mem_singleton.mpr rfl)
              rw [String.toList_ofList] at isFree
              exact .named rfl ⟨someName, isFree, notFirst⟩
          | @constructed front inside arguments trims notFirst readEach =>
              obtain ⟨⟨someName, isFree⟩, argumentsNamed⟩ :=
                forall_names_constructed_iff.mp wellNamed
              rw [String.toList_ofList] at isFree
              obtain ⟨sameLength, each⟩ := Except.zip_of_mapM_eq_ok readEach
              obtain ⟨pieces, rfl, cut⟩ := exists_cutInto inside
              have isName : IsTypeName (Text.trimList front) := by
                refine ⟨by simpa using someName, isFree, fun isFirst => notFirst ?_⟩
                rw [head?_trimList_front trims] at isFirst
                rw [trims, List.head?_append, isFirst]
                rfl
              have firsts :
                  ((splitTopLevel ([','].intercalate pieces)).zip arguments).map Prod.fst =
                    splitTopLevel ([','].intercalate pieces) :=
                List.map_fst_zip sameLength.le
              have seconds :
                  ((splitTopLevel ([','].intercalate pieces)).zip arguments).map Prod.snd =
                    arguments :=
                List.map_snd_zip sameLength.ge
              rw [← firsts] at cut
              rw [← seconds]
              refine .constructed trims rfl isName cut fun argument member => ?_
              refine inductionHypothesis (calls - 1) (by omega) (each argument member) ?_
              exact argumentsNamed _ (List.of_mem_zip member).2

/-! ## The names of a reference -/

theorem inductionOn
    {motive : Shorthand → Prop}
    (draft : Shorthand)
    (named : ∀ name, motive (.named name))
    (constructed : ∀ name arguments,
      (∀ argument ∈ arguments, motive argument) → motive (.constructed name arguments))
    (genericParameter : ∀ name, motive (.genericParameter name))
    (array : ∀ element rank, motive element → motive (.array element rank))
    (pointer : ∀ element, motive element → motive (.pointer element))
    (byReference : ∀ element, motive element → motive (.byReference element)) :
    motive draft :=
  @Shorthand.rec motive (fun drafts => ∀ argument ∈ drafts, motive argument) named constructed
    genericParameter array pointer byReference (List.forall_mem_nil _)
    (fun _ _ first others => List.forall_mem_cons.mpr ⟨first, others⟩) draft

end Shorthand

namespace TypeRef

mutual

/-- The names in a reference; one that wraps another has an empty name of its own. -/
def names : TypeRef → List String
  | ⟨_, fullName, element?, _, arguments⟩ =>
    fullName :: (elementNames element? ++ argumentNames arguments)

/-- The names in an element. -/
def elementNames : Option TypeRef → List String
  | none => []
  | some element => names element

/-- The names in arguments. -/
def argumentNames : List TypeRef → List String
  | [] => []
  | argument :: rest => names argument ++ argumentNames rest

end

theorem argumentNames_eq_flatMap (arguments : List TypeRef) :
    argumentNames arguments = arguments.flatMap names := by
  induction arguments with
  | nil =>
      rfl
  | cons argument rest inductionHypothesis =>
      rw [argumentNames, inductionHypothesis, List.flatMap_cons]

/-- Whether every name anywhere in a reference is free of the marks of the shorthand. -/
def NamesFree (reference : TypeRef) : Prop :=
  ∀ name ∈ reference.names, Shorthand.IsFree name.toList

end TypeRef

namespace Shorthand

open TypeRef

/-- A draft and its reference have the same names, but for the empty ones. -/
theorem namesFree_reference_iff (draft : Shorthand) :
    draft.reference.NamesFree ↔ ∀ name ∈ draft.names, IsFree name.toList := by
  have emptyFree : IsFree [] :=
    List.forall_mem_nil _
  induction draft using inductionOn with
  | named name | genericParameter name =>
      simp [NamesFree, reference, names, TypeRef.names, elementNames, argumentNames]
  | array element _ inElement | pointer element inElement | byReference element inElement =>
      refine Iff.trans ?_ inElement
      simp [NamesFree, reference, TypeRef.names, elementNames, argumentNames, emptyFree]
  | constructed name arguments inArguments =>
      rw [forall_names_constructed_iff]
      simp only [NamesFree, reference, TypeRef.names, elementNames, List.nil_append,
        List.forall_mem_cons, argumentNames_eq_flatMap, references_eq_map, List.forall_mem_flatMap,
        List.forall_mem_map]
      exact and_congr_right fun _ => forall₂_congr inArguments

/-! ## Checking a draft -/

/-- Whether each name in a draft has characters. -/
def NamesGiven (draft : Shorthand) : Prop :=
  ∀ name ∈ draft.names, name ≠ ""

theorem wellNamed_iff (draft : Shorthand) :
    draft.WellNamed ↔ draft.NamesGiven ∧ draft.reference.NamesFree := by
  rw [namesFree_reference_iff]
  exact forall₂_and

private theorem wellNamed_ofList
    {name : List Char}
    (someName : name ≠ [])
    (isFree : IsFree name) :
    String.ofList name ≠ "" ∧ IsFree (String.ofList name).toList := by
  refine ⟨fun isEmpty => someName ?_, by rwa [String.toList_ofList]⟩
  simpa using congrArg String.toList isEmpty

/-- The grammar gives every name, and none of them has a mark in it. -/
theorem Spells.wellNamed
    {text : List Char}
    {draft : Shorthand}
    (spells : Spells text draft) :
    draft.WellNamed := by
  induction spells with
  | named _ isName =>
      exact List.forall_mem_singleton.mpr (wellNamed_ofList isName.ne_nil isName.isFree)
  | genericParameter _ someName isFree =>
      exact List.forall_mem_singleton.mpr (wellNamed_ofList someName isFree)
  | array _ _ elementNamed | pointer _ _ elementNamed | byReference _ _ elementNamed =>
      exact elementNamed
  | constructed _ _ isName _ _ argumentsNamed =>
      refine forall_names_constructed_iff.mpr ⟨wellNamed_ofList isName.ne_nil isName.isFree, ?_⟩
      exact List.forall_mem_map.mpr argumentsNamed

end Shorthand

namespace TypeRef

private theorem checkShape_eq_ok_iff
    {kind : ReferenceKind}
    {name : String}
    {arguments : List TypeRef}
    {reference : TypeRef}
    (isLeaf : kind.wraps = false)
    (input : Value) :
    checkShape input ⟨kind, name, none, 1, arguments⟩ = .ok reference ↔
      name ≠ "" ∧ reference = ⟨kind, name, none, 1, arguments⟩ := by
  by_cases isEmpty : name = ""
  · simp [checkShape, shapeFault?, isLeaf, isEmpty, Schema.Checked.rejectRule,
      Schema.Checked.reject]
  · have passes :
        checkShape input ⟨kind, name, none, 1, arguments⟩ =
          .ok ⟨kind, name, none, 1, arguments⟩ := by
      simp [checkShape, shapeFault?, isLeaf, isEmpty]
    rw [passes, Schema.Checked.ok.injEq, eq_comm, and_iff_right isEmpty]

private theorem ofShorthands_eq_ok_iff
    {room : Nat}
    {drafts : List Shorthand}
    {holds : Shorthand → Prop}
    (each : ∀ draft ∈ drafts, ∀ reference,
      ofShorthand room draft = .ok reference ↔ holds draft ∧ reference = draft.reference)
    (index : Nat)
    (checked : List TypeRef) :
    ofShorthands room index drafts = .ok checked ↔
      (∀ draft ∈ drafts, holds draft) ∧ checked = Shorthand.references drafts := by
  induction drafts generalizing index checked with
  | nil =>
      simp [ofShorthands, Shorthand.references, eq_comm]
  | cons draft rest inductionHypothesis =>
      have first := each draft List.mem_cons_self
      have others :=
        inductionHypothesis fun other member => each other (List.mem_cons_of_mem draft member)
      simp only [ofShorthands, Shorthand.references, Schema.Checked.combine_eq_ok_iff,
        Schema.Checked.under_eq_ok_iff, first, others, List.forall_mem_cons]
      constructor
      · rintro ⟨_, _, ⟨firstHolds, rfl⟩, ⟨othersHold, rfl⟩, rfl⟩
        exact ⟨⟨firstHolds, othersHold⟩, rfl⟩
      · rintro ⟨⟨firstHolds, othersHold⟩, rfl⟩
        exact ⟨_, _, ⟨firstHolds, rfl⟩, ⟨othersHold, rfl⟩, rfl⟩

private theorem argumentDepth_references_le_iff
    {drafts : List Shorthand}
    {room : Nat} :
    argumentDepth (Shorthand.references drafts) ≤ room ↔
      ∀ draft ∈ drafts, draft.reference.depth ≤ room := by
  induction drafts with
  | nil =>
      simp [Shorthand.references, argumentDepth]
  | cons draft rest inductionHypothesis =>
      rw [Shorthand.references, argumentDepth, Nat.max_le, inductionHypothesis,
        List.forall_mem_cons]

/-- A draft passes its check as its reference where all its names are given and there is room for
its depth. -/
theorem ofShorthand_eq_ok_iff
    (draft : Shorthand)
    (room : Nat)
    (reference : TypeRef) :
    ofShorthand room draft = .ok reference ↔
      (draft.NamesGiven ∧ draft.reference.depth ≤ room) ∧ reference = draft.reference := by
  have noRoom
      (draft : Shorthand)
      (reference : TypeRef) :
      ofShorthand 0 draft = .ok reference ↔
        (draft.NamesGiven ∧ draft.reference.depth ≤ 0) ∧ reference = draft.reference := by
    simp only [ofShorthand_zero_ne, false_iff]
    rintro ⟨⟨_, fits⟩, _⟩
    exact absurd fits (Nat.not_le_of_lt draft.reference.depth_pos)
  induction draft using Shorthand.inductionOn generalizing room reference with
  | named name | genericParameter name =>
      cases room with
      | zero => exact noRoom _ reference
      | succ room =>
          rw [ofShorthand, leafOf, checkShape_eq_ok_iff rfl]
          simp [Shorthand.NamesGiven, Shorthand.names, Shorthand.reference, depth, elementDepth,
            argumentDepth]
  | array element _ checkElement | pointer element checkElement
    | byReference element checkElement =>
      cases room with
      | zero => exact noRoom _ reference
      | succ room =>
          simp only [ofShorthand, Schema.Checked.map_eq_ok_iff, Schema.Checked.under_eq_ok_iff,
            checkElement room, Shorthand.reference, depth_wrapped, Nat.succ_le_succ_iff]
          constructor
          · rintro ⟨_, ⟨holds, rfl⟩, rfl⟩
            exact ⟨holds, rfl⟩
          · rintro ⟨holds, rfl⟩
            exact ⟨_, ⟨holds, rfl⟩, rfl⟩
  | constructed name arguments checkArguments =>
      cases room with
      | zero => exact noRoom _ reference
      | succ room =>
          have checkEach :=
            ofShorthands_eq_ok_iff
              (fun argument member => checkArguments argument member room) 0
          simp only [ofShorthand, Schema.Checked.andThen_eq_ok_iff, checkEach,
            checkShape_eq_ok_iff (by rfl : ReferenceKind.named.wraps = false),
            Shorthand.reference, depth_constructed, Nat.succ_le_succ_iff,
            argumentDepth_references_le_iff, Shorthand.NamesGiven,
            Shorthand.forall_names_constructed_iff]
          constructor
          · rintro ⟨_, ⟨holds, rfl⟩, someName, rfl⟩
            exact ⟨⟨⟨someName, fun argument member => (holds argument member).1⟩,
              fun argument member => (holds argument member).2⟩, rfl⟩
          · rintro ⟨⟨⟨someName, given⟩, fits⟩, rfl⟩
            exact ⟨_, ⟨fun argument member => ⟨given argument member, fits argument member⟩, rfl⟩,
              someName, rfl⟩

/-- A text is accepted as a reference if it is read as a draft that passes its check. -/
theorem check_text_eq_ok_iff
    (content : String)
    (reference : TypeRef) :
    check (.text content) = .ok reference ↔
      ∃ draft, Shorthand.parse content = .ok draft ∧
        ofShorthand Limits.checkedDepth draft = .ok reference := by
  rw [check_text, ofText]
  cases parsed : Shorthand.parse content with
  | ok draft =>
      simp
  | error fault =>
      cases fault <;> simp [ShorthandFault.reason?, Schema.Checked.rejectRule, Schema.Checked.reject]

/-- A text is accepted as a reference whose names are free of marks exactly if it is well-formed
shorthand for that reference and the reference is not too deep. -/
theorem check_text_namesFree_iff
    (content : String)
    (reference : TypeRef) :
    check (.text content) = .ok reference ∧ reference.NamesFree ↔
      ∃ draft, Shorthand.Spells content.toList draft ∧ draft.reference = reference ∧
        reference.depth ≤ Limits.checkedDepth := by
  rw [check_text_eq_ok_iff]
  constructor
  · rintro ⟨⟨draft, parsed, passed⟩, namesFree⟩
    obtain ⟨⟨given, fits⟩, rfl⟩ := (ofShorthand_eq_ok_iff _ _ _).mp passed
    have wellNamed : draft.WellNamed :=
      draft.wellNamed_iff.mpr ⟨given, namesFree⟩
    exact ⟨draft, Shorthand.spells_of_read parsed wellNamed, rfl, fits⟩
  · rintro ⟨draft, spells, rfl, fits⟩
    obtain ⟨given, namesFree⟩ := draft.wellNamed_iff.mp spells.wellNamed
    refine ⟨⟨draft, ?_, (ofShorthand_eq_ok_iff _ _ _).mpr ⟨⟨given, fits⟩, rfl⟩⟩, namesFree⟩
    rcases spells.readsWithin Limits.shorthandDepth with parsed | ⟨tooFew, _⟩
    · exact parsed
    · -- What is shallow enough to be checked is shallow enough to be read.
      simp only [Limits.shorthandDepth, Limits.checkedDepth] at tooFew fits
      omega

/-- A bracket that is never closed becomes part of a name. -/
theorem check_text_of_unclosed_bracket :
    check (.text "A[B") = .ok ⟨.named, "A[B", none, 1, []⟩ ∧
      ¬ NamesFree ⟨.named, "A[B", none, 1, []⟩ := by
  constructor
  · have parsed : Shorthand.parse "A[B" = .ok (.named "A[B") :=
      Shorthand.read_named (by decide) (by decide) (by simp) (by decide) 984
    refine (check_text_eq_ok_iff _ _).mpr ⟨.named "A[B", parsed, ?_⟩
    have given : (Shorthand.named "A[B").NamesGiven :=
      List.forall_mem_singleton.mpr (by decide)
    exact (ofShorthand_eq_ok_iff _ _ _).mpr ⟨⟨given, by decide⟩, rfl⟩
  · exact fun namesFree => namesFree "A[B" (by decide) '[' (by decide) (by decide)

end TypeRef

end TypeCatalog
