import Mathlib.Data.List.Forall2
import Mathlib.Data.List.Infix
import TypeCatalog.Metadata.Shorthand
import TypeCatalog.Proofs.Text.Words

namespace TypeCatalog.Shorthand

/-!
# Pieces between top-level commas

An argument list is cut at the commas outside all angle brackets, and blanks around a piece do not
count.  Pieces that have no such comma themselves and close their brackets are found again between
the commas, whatever blanks are put around them.  A list that closes its brackets is cut into pieces
that do.
-/

/-! ## Angle brackets and commas -/

/-- How much deeper inside angle brackets a character leads. -/
def tilt (c : Char) : Int :=
  if c = '<' then 1 else if c = '>' then -1 else 0

/-- How many more angle brackets are opened in a text than closed. -/
def balance : List Char → Int
  | [] => 0
  | c :: rest => tilt c + balance rest

/-- Whether no comma of a text that starts at a depth stands outside all angle brackets. -/
def CommasEnclosed
    (depth : Int)
    (text : List Char) : Prop :=
  ∀ before after, text = before ++ ',' :: after → depth + balance before ≠ 0

/-- A text that starts at a depth and closes all angle brackets, none before it is opened. -/
structure Closes
    (depth : Int)
    (text : List Char) : Prop where
  balance_eq : depth + balance text = 0
  neverNegative : ∀ start, start <+: text → 0 ≤ depth + balance start

@[simp] theorem balance_nil : balance [] = 0 :=
  rfl

@[simp] theorem balance_cons
    (c : Char)
    (rest : List Char) :
    balance (c :: rest) = tilt c + balance rest :=
  rfl

@[simp] theorem balance_append (first second : List Char) :
    balance (first ++ second) = balance first + balance second := by
  induction first with
  | nil =>
      rw [List.nil_append, balance_nil, Int.zero_add]
  | cons c rest inductionHypothesis =>
      rw [List.cons_append, balance_cons, balance_cons, inductionHypothesis, Int.add_assoc]

theorem balance_eq_zero
    {text : List Char}
    (level : ∀ c ∈ text, tilt c = 0) :
    balance text = 0 := by
  induction text with
  | nil =>
      rfl
  | cons c rest inductionHypothesis =>
      obtain ⟨first, others⟩ := List.forall_mem_cons.mp level
      rw [balance_cons, first, inductionHypothesis others, Int.add_zero]

theorem tilt_eq_zero
    {c : Char}
    (notOpening : c ≠ '<')
    (notClosing : c ≠ '>') :
    tilt c = 0 := by
  rw [tilt, if_neg notOpening, if_neg notClosing]

theorem balance_of_allBlank
    {blanks : List Char}
    (allBlank : Text.AllBlank blanks) :
    balance blanks = 0 := by
  refine balance_eq_zero fun c member => tilt_eq_zero ?_ ?_
  · rintro rfl
    exact absurd (allBlank _ member) (by decide)
  · rintro rfl
    exact absurd (allBlank _ member) (by decide)

theorem balance_trimList (text : List Char) :
    balance (Text.trimList text) = balance text := by
  obtain ⟨before, after, beforeBlank, afterBlank, textIs⟩ := Text.exists_blanks_around text
  have balanceIs := congrArg balance textIs
  rw [balance_append, balance_append, balance_of_allBlank beforeBlank,
    balance_of_allBlank afterBlank] at balanceIs
  omega

theorem commasEnclosed_nil (depth : Int) : CommasEnclosed depth [] := by
  intro before after isEmpty
  simp at isEmpty

theorem commasEnclosed_cons_iff
    {depth : Int}
    {c : Char}
    {rest : List Char} :
    CommasEnclosed depth (c :: rest) ↔
      ¬ (c = ',' ∧ depth = 0) ∧ CommasEnclosed (depth + tilt c) rest := by
  constructor
  · intro enclosed
    constructor
    · rintro ⟨rfl, rfl⟩
      exact enclosed [] rest rfl rfl
    · intro before after restIs
      have atComma := enclosed (c :: before) after (by rw [restIs, List.cons_append])
      rw [balance_cons] at atComma
      omega
  · rintro ⟨notOpen, enclosed⟩ before after textIs
    cases before with
    | nil =>
        obtain ⟨rfl, _⟩ := List.cons.inj textIs
        rw [balance_nil, Int.add_zero]
        exact fun isZero => notOpen ⟨rfl, isZero⟩
    | cons first before =>
        obtain ⟨rfl, restIs⟩ := List.cons.inj textIs
        have atComma := enclosed before after restIs
        rw [balance_cons]
        omega

instance decidableCommasEnclosed :
    (depth : Int) →
    (text : List Char) →
    Decidable (CommasEnclosed depth text)
  | depth, [] => .isTrue (commasEnclosed_nil depth)
  | depth, c :: rest =>
    have := decidableCommasEnclosed (depth + tilt c) rest
    decidable_of_iff _ commasEnclosed_cons_iff.symm

theorem commasEnclosed_append_iff
    {depth : Int}
    {first second : List Char} :
    CommasEnclosed depth (first ++ second) ↔
      CommasEnclosed depth first ∧ CommasEnclosed (depth + balance first) second := by
  induction first generalizing depth with
  | nil =>
      simp [commasEnclosed_nil]
  | cons c rest inductionHypothesis =>
      rw [List.cons_append, commasEnclosed_cons_iff, commasEnclosed_cons_iff, inductionHypothesis,
        balance_cons, and_assoc, Int.add_assoc]

theorem commasEnclosed_of_not_mem
    {text : List Char}
    (noComma : ',' ∉ text)
    (depth : Int) :
    CommasEnclosed depth text := by
  rintro before after rfl
  exact absurd (by simp) noComma

/-- Inside brackets the commas of a text without brackets are enclosed. -/
theorem commasEnclosed_of_level
    {depth : Int}
    {text : List Char}
    (nested : depth ≠ 0)
    (level : ∀ c ∈ text, tilt c = 0) :
    CommasEnclosed depth text := by
  rintro before after rfl
  rw [balance_eq_zero fun c member => level c (List.mem_append_left _ member), Int.add_zero]
  exact nested

theorem commasEnclosed_of_allBlank
    {blanks : List Char}
    (allBlank : Text.AllBlank blanks)
    (depth : Int) :
    CommasEnclosed depth blanks :=
  commasEnclosed_of_not_mem (fun isComma => absurd (allBlank _ isComma) (by decide)) depth

instance (depth : Int) (text : List Char) : Decidable (Closes depth text) :=
  decidable_of_iff
    (depth + balance text = 0 ∧ ∀ start ∈ text.inits, 0 ≤ depth + balance start)
    ⟨fun ⟨balanceIs, neverNegative⟩ =>
      ⟨balanceIs, fun start isStart =>
        neverNegative start ((List.mem_inits start text).mpr isStart)⟩,
      fun ⟨balanceIs, neverNegative⟩ =>
        ⟨balanceIs, fun start isStart =>
          neverNegative start ((List.mem_inits start text).mp isStart)⟩⟩

/-! ## Cutting at the commas outside all brackets -/

theorem cutTopLevel_comma {piece rest : List Char} :
    cutTopLevel 0 piece (',' :: rest) = piece.reverse :: cutTopLevel 0 [] rest := by
  simp [cutTopLevel]

/-- A character that is no comma outside all brackets goes on with the piece. -/
theorem cutTopLevel_cons
    {depth : Int}
    {c : Char}
    (notOpen : ¬ (c = ',' ∧ depth = 0))
    (piece rest : List Char) :
    cutTopLevel depth piece (c :: rest) = cutTopLevel (depth + tilt c) (c :: piece) rest := by
  rw [cutTopLevel, tilt]
  split_ifs with opening closing cuts
  · rfl
  · rfl
  · simp only [Bool.and_eq_true, decide_eq_true_iff] at cuts
    exact absurd cuts notOpen
  · rw [Int.add_zero]

/-- What has no comma outside all brackets stays in one piece. -/
theorem cutTopLevel_append
    {depth : Int}
    {text : List Char}
    (enclosed : CommasEnclosed depth text)
    (piece rest : List Char) :
    cutTopLevel depth piece (text ++ rest) =
      cutTopLevel (depth + balance text) (text.reverse ++ piece) rest := by
  induction text generalizing depth piece with
  | nil =>
      simp
  | cons c text inductionHypothesis =>
      obtain ⟨notOpen, restEnclosed⟩ := commasEnclosed_cons_iff.mp enclosed
      rw [List.cons_append, cutTopLevel_cons notOpen, inductionHypothesis restEnclosed,
        balance_cons, Int.add_assoc, List.reverse_cons, List.append_assoc, List.singleton_append]

/-- A text that starts at a depth, cut at its commas outside all angle brackets. -/
inductive CutAtCommas : Int → List Char → List (List Char) → Prop where
  | last {depth : Int} {piece : List Char} :
      CommasEnclosed depth piece →
      CutAtCommas depth piece [piece]
  | comma {depth : Int} {piece rest : List Char} {pieces : List (List Char)} :
      CommasEnclosed depth piece →
      depth + balance piece = 0 →
      CutAtCommas 0 rest pieces →
      CutAtCommas depth (piece ++ ',' :: rest) (piece :: pieces)

namespace CutAtCommas

variable {depth : Int} {text : List Char} {pieces : List (List Char)}

/-- Every text can be cut. -/
theorem exists_pieces
    (depth : Int)
    (text : List Char) :
    ∃ pieces, CutAtCommas depth text pieces := by
  induction text generalizing depth with
  | nil =>
      exact ⟨[[]], .last (commasEnclosed_nil depth)⟩
  | cons c rest inductionHypothesis =>
      by_cases isOpen : c = ',' ∧ depth = 0
      · obtain ⟨rfl, rfl⟩ := isOpen
        obtain ⟨pieces, cut⟩ := inductionHypothesis 0
        exact ⟨[] :: pieces, .comma (commasEnclosed_nil 0) rfl cut⟩
      · obtain ⟨pieces, cut⟩ := inductionHypothesis (depth + tilt c)
        cases cut with
        | last enclosed =>
            exact ⟨[c :: rest], .last (commasEnclosed_cons_iff.mpr ⟨isOpen, enclosed⟩)⟩
        | @comma _ piece behind pieces enclosed atTop cut =>
            refine ⟨(c :: piece) :: pieces, .comma (commasEnclosed_cons_iff.mpr ⟨isOpen, enclosed⟩)
              ?_ cut⟩
            rw [balance_cons, ← Int.add_assoc]
            exact atTop

/-- Cutting gives these pieces, the first with what was passed over before. -/
theorem cutTopLevel_eq
    (cut : CutAtCommas depth text pieces)
    (passed : List Char) :
    cutTopLevel depth passed text = pieces.modifyHead (passed.reverse ++ ·) := by
  induction cut generalizing passed with
  | @last depth piece enclosed =>
      have whole := cutTopLevel_append enclosed passed []
      rw [List.append_nil] at whole
      rw [whole, cutTopLevel, List.reverse_append, List.reverse_reverse]
      rfl
  | @comma depth piece rest pieces enclosed atTop _ inductionHypothesis =>
      rw [cutTopLevel_append enclosed, atTop, cutTopLevel_comma, inductionHypothesis,
        List.reverse_append, List.reverse_reverse, List.reverse_nil]
      exact congrArg _ (congrFun List.modifyHead_id pieces)

theorem splitTopLevel_eq
    (cut : CutAtCommas 0 text pieces) :
    splitTopLevel text = (pieces.map Text.trimList).filter fun piece => !piece.isEmpty := by
  rw [splitTopLevel, cut.cutTopLevel_eq]
  exact congrArg _ (congrArg _ (congrFun List.modifyHead_id pieces))

theorem ne_nil (cut : CutAtCommas depth text pieces) : pieces ≠ [] := by
  cases cut <;> exact List.cons_ne_nil _ _

/-- A text is its pieces with commas between them. -/
theorem intercalate_eq
    (cut : CutAtCommas depth text pieces) :
    [','].intercalate pieces = text := by
  induction cut with
  | last _ =>
      exact List.intercalate_singleton
  | @comma depth piece rest pieces _ _ cut inductionHypothesis =>
      obtain ⟨second, others, rfl⟩ := List.exists_cons_of_ne_nil cut.ne_nil
      rw [List.intercalate_cons_cons, inductionHypothesis, List.append_assoc, List.singleton_append]

theorem enclosed
    (cut : CutAtCommas depth text pieces)
    (atTop : depth = 0) :
    ∀ piece ∈ pieces, CommasEnclosed 0 piece := by
  induction cut with
  | last enclosed =>
      exact List.forall_mem_singleton.mpr (atTop ▸ enclosed)
  | comma enclosed _ _ inductionHypothesis =>
      exact List.forall_mem_cons.mpr ⟨atTop ▸ enclosed, inductionHypothesis rfl⟩

/-- The pieces of a text that closes its brackets close theirs: at each cut none is open. -/
theorem closes
    (cut : CutAtCommas depth text pieces)
    (textCloses : Closes depth text)
    (atTop : depth = 0) :
    ∀ piece ∈ pieces, Closes 0 piece := by
  induction cut with
  | last _ =>
      exact List.forall_mem_singleton.mpr (atTop ▸ textCloses)
  | @comma depth piece rest pieces _ atComma _ inductionHypothesis =>
      subst atTop
      obtain ⟨balanceIs, neverNegative⟩ := textCloses
      rw [balance_append, balance_cons, tilt_eq_zero (by decide) (by decide)] at balanceIs
      refine List.forall_mem_cons.mpr ⟨⟨atComma, fun start isStart => ?_⟩,
        inductionHypothesis ⟨by omega, fun start isStart => ?_⟩ rfl⟩
      · exact neverNegative start (isStart.trans (List.prefix_append piece _))
      · have longer : piece ++ ',' :: start <+: piece ++ ',' :: rest :=
          (List.prefix_append_right_inj piece).mpr ((List.prefix_cons_inj ',').mpr isStart)
        have upToStart := neverNegative _ longer
        rw [balance_append, balance_cons, tilt_eq_zero (by decide) (by decide)] at upToStart
        omega

end CutAtCommas

/-- Pieces whose commas are enclosed and whose brackets are balanced are found again between the
commas. -/
theorem cutAtCommas_intercalate
    {pieces : List (List Char)}
    (somePiece : pieces ≠ [])
    (enclosed : ∀ piece ∈ pieces, CommasEnclosed 0 piece)
    (balanced : ∀ piece ∈ pieces, balance piece = 0) :
    CutAtCommas 0 ([','].intercalate pieces) pieces := by
  induction pieces with
  | nil => exact absurd rfl somePiece
  | cons first others inductionHypothesis =>
      obtain ⟨firstEnclosed, othersEnclosed⟩ := List.forall_mem_cons.mp enclosed
      obtain ⟨firstBalanced, othersBalanced⟩ := List.forall_mem_cons.mp balanced
      cases others with
      | nil =>
          rw [List.intercalate_singleton]
          exact .last firstEnclosed
      | cons second others =>
          have rest :=
            inductionHypothesis (List.cons_ne_nil second others) othersEnclosed othersBalanced
          rw [List.intercalate_cons_cons, List.append_assoc, List.singleton_append]
          exact .comma firstEnclosed (by rw [firstBalanced, Int.add_zero]) rest

/-! ## Pieces and joining -/

/-- A text that is found again between commas: it has something at both ends that is no blank, opens
as many angle brackets as it closes, and has no comma outside all of them. -/
structure IsUncut (piece : List Char) : Prop where
  trimmed : Text.Trimmed piece
  balance_eq : balance piece = 0
  enclosed : CommasEnclosed 0 piece

/-- A piece of an argument list: it has something at both ends that is no blank, closes its
brackets, and has no comma outside all of them. -/
structure IsPiece (piece : List Char) : Prop where
  trimmed : Text.Trimmed piece
  closes : Closes 0 piece
  enclosed : CommasEnclosed 0 piece

instance (piece : List Char) : Decidable (IsPiece piece) :=
  decidable_of_iff (Text.Trimmed piece ∧ Closes 0 piece ∧ CommasEnclosed 0 piece)
    ⟨fun ⟨trimmed, closes, enclosed⟩ => ⟨trimmed, closes, enclosed⟩,
      fun ⟨trimmed, closes, enclosed⟩ => ⟨trimmed, closes, enclosed⟩⟩

theorem IsPiece.isUncut
    {piece : List Char}
    (isPiece : IsPiece piece) :
    IsUncut piece where
  trimmed := isPiece.trimmed
  balance_eq := by simpa using isPiece.closes.balance_eq
  enclosed := isPiece.enclosed

/-- Whether a text is another one with blanks around it, if any. -/
def Pads (padded piece : List Char) : Prop :=
  ∃ before after, Text.AllBlank before ∧ Text.AllBlank after ∧ padded = before ++ piece ++ after

namespace Pads

variable {padded piece : List Char}

theorem trimList_eq
    (pads : Pads padded piece)
    (trimmed : Text.Trimmed piece) :
    Text.trimList padded = piece := by
  obtain ⟨before, after, beforeBlank, afterBlank, rfl⟩ := pads
  exact trimmed.trimList_between beforeBlank afterBlank

theorem balance_eq
    (pads : Pads padded piece) :
    balance padded = balance piece := by
  obtain ⟨before, after, beforeBlank, afterBlank, rfl⟩ := pads
  rw [balance_append, balance_append, balance_of_allBlank beforeBlank,
    balance_of_allBlank afterBlank, Int.zero_add, Int.add_zero]

theorem commasEnclosed_iff
    (pads : Pads padded piece)
    {depth : Int} :
    CommasEnclosed depth padded ↔ CommasEnclosed depth piece := by
  obtain ⟨before, after, beforeBlank, afterBlank, rfl⟩ := pads
  rw [commasEnclosed_append_iff, commasEnclosed_append_iff, balance_of_allBlank beforeBlank,
    Int.add_zero]
  exact ⟨fun all => all.1.2, fun enclosed =>
    ⟨⟨commasEnclosed_of_allBlank beforeBlank depth, enclosed⟩,
      commasEnclosed_of_allBlank afterBlank _⟩⟩

theorem closes
    (pads : Pads padded piece)
    (paddedCloses : Closes 0 padded) :
    Closes 0 piece := by
  have balanceIs := pads.balance_eq
  obtain ⟨before, after, beforeBlank, _, rfl⟩ := pads
  refine ⟨balanceIs ▸ paddedCloses.balance_eq, fun start isStart => ?_⟩
  have longer : before ++ start <+: before ++ piece ++ after :=
    ((List.prefix_append_right_inj before).mpr isStart).trans (List.prefix_append _ _)
  have upToStart := paddedCloses.neverNegative _ longer
  rwa [balance_append, balance_of_allBlank beforeBlank, Int.zero_add] at upToStart

end Pads

theorem pads_trimList (text : List Char) : Pads text (Text.trimList text) := by
  obtain ⟨before, after, beforeBlank, afterBlank, textIs⟩ := Text.exists_blanks_around text
  exact ⟨before, after, beforeBlank, afterBlank, textIs⟩

/-- Texts with blanks around them are not cut either, and trimming takes the blanks away. -/
theorem uncut_and_trimmed_of_pads
    {paddeds pieces : List (List Char)}
    (uncut : ∀ piece ∈ pieces, IsUncut piece)
    (pads : List.Forall₂ Pads paddeds pieces) :
    (∀ padded ∈ paddeds, CommasEnclosed 0 padded ∧ balance padded = 0) ∧
      paddeds.map Text.trimList = pieces := by
  induction pads with
  | nil =>
      exact ⟨List.forall_mem_nil _, rfl⟩
  | cons first _ inductionHypothesis =>
      obtain ⟨firstUncut, othersUncut⟩ := List.forall_mem_cons.mp uncut
      obtain ⟨paddedsUncut, trimmed⟩ := inductionHypothesis othersUncut
      refine ⟨List.forall_mem_cons.mpr ⟨⟨first.commasEnclosed_iff.mpr firstUncut.enclosed,
        first.balance_eq.trans firstUncut.balance_eq⟩, paddedsUncut⟩, ?_⟩
      rw [List.map_cons, first.trimList_eq firstUncut.trimmed, trimmed]

/-- Texts that are not cut are found again between commas and blanks. -/
theorem splitTopLevel_of_pads
    {paddeds pieces : List (List Char)}
    (uncut : ∀ piece ∈ pieces, IsUncut piece)
    (pads : List.Forall₂ Pads paddeds pieces) :
    splitTopLevel ([','].intercalate paddeds) = pieces := by
  obtain ⟨paddedsUncut, trimmed⟩ := uncut_and_trimmed_of_pads uncut pads
  by_cases nothing : paddeds = []
  · subst nothing
    exact trimmed
  · have enclosed := fun padded member => (paddedsUncut padded member).1
    have balanced := fun padded member => (paddedsUncut padded member).2
    have cut := cutAtCommas_intercalate nothing enclosed balanced
    rw [cut.splitTopLevel_eq, trimmed, List.filter_eq_self]
    intro piece member
    simpa using (uncut piece member).trimmed.ne_nil

/-- Cutting is the inverse of joining: pieces that are joined by commas, with any blanks around each
of them, are cut apart again.  And what a text that closes its brackets is cut into are pieces. -/
theorem splitTopLevel_inverts_joining :
    (∀ paddeds pieces : List (List Char),
      (∀ piece ∈ pieces, IsPiece piece) →
      List.Forall₂ Pads paddeds pieces →
      splitTopLevel ([','].intercalate paddeds) = pieces) ∧
    ∀ text : List Char, Closes 0 text → ∀ piece ∈ splitTopLevel text, IsPiece piece := by
  refine ⟨fun paddeds pieces arePieces => ?_, fun text closes piece member => ?_⟩
  · exact splitTopLevel_of_pads fun piece member => (arePieces piece member).isUncut
  · obtain ⟨pieces, cut⟩ := CutAtCommas.exists_pieces 0 text
    rw [cut.splitTopLevel_eq, List.mem_filter, List.mem_map] at member
    obtain ⟨⟨padded, isCut, rfl⟩, someLeft⟩ := member
    have pads := pads_trimList padded
    exact ⟨Text.trimmed_trimList (by simpa using someLeft),
      pads.closes (cut.closes closes rfl padded isCut),
      pads.commasEnclosed_iff.mp (cut.enclosed rfl padded isCut)⟩

theorem splitTopLevel_inverts_joining_of_nested_arguments :
    (∀ piece ∈ ["Map<A, B[,]>".toList, "C".toList], IsPiece piece) ∧
      List.Forall₂ Pads [" Map<A, B[,]>".toList, " C\t".toList]
        ["Map<A, B[,]>".toList, "C".toList] ∧
      splitTopLevel " Map<A, B[,]>, C\t".toList = ["Map<A, B[,]>".toList, "C".toList] ∧
      Closes 0 "A, <,B>,".toList ∧
      ∀ piece ∈ splitTopLevel "A, <,B>,".toList, IsPiece piece := by
  have arePieces : ∀ piece ∈ ["Map<A, B[,]>".toList, "C".toList], IsPiece piece := by
    decide +kernel
  have pads :
      List.Forall₂ Pads [" Map<A, B[,]>".toList, " C\t".toList]
        ["Map<A, B[,]>".toList, "C".toList] :=
    .cons ⟨[' '], [], by decide, by decide, by decide +kernel⟩
      (.cons ⟨[' '], ['\t'], by decide, by decide, by decide +kernel⟩ .nil)
  have closes : Closes 0 "A, <,B>,".toList := by
    decide +kernel
  exact ⟨arePieces, pads, splitTopLevel_inverts_joining.1 _ _ arePieces pads, closes,
    splitTopLevel_inverts_joining.2 _ closes⟩

end TypeCatalog.Shorthand
