import TypeCatalog.Proofs.Value.Contents
import TypeCatalog.Yaml.TokenStream

namespace TypeCatalog.Yaml

/-!
# The texts of tokens are genuine

A scalar in double quotes may hold escapes of code points, all others are made of characters.  So the
text of each token that is read is a sequence of code points.
-/

/-- Whether the text of a token, if it has one, is a text. -/
def Token.IsGenuine : Token → Prop
  | .scalar content _ => content.IsGenuine
  | _ => True

/-- Whether all tokens that were read so far are genuine. -/
def Reader.IsGenuine (reader : Reader) : Prop :=
  ∀ token ∈ reader.tokens, token.IsGenuine

namespace Read

/-! ## Steps that read genuine tokens -/

/-- Steps after which the tokens are still genuine, and whose result is of some sort, if there is
one. -/
def Gives
    {α : Type}
    (steps : Read α)
    (sort : α → Prop) : Prop :=
  ∀ before : Reader, before.IsGenuine →
    (steps.run.run before).2.IsGenuine ∧
      ∀ result, (steps.run.run before).1 = .ok result → sort result

/-- Steps after which the tokens are still genuine. -/
def Keeps
    {α : Type}
    (steps : Read α) : Prop :=
  steps.Gives fun _ => True

variable {α β : Type}

theorem gives_pure
    {result : α}
    {sort : α → Prop}
    (isSo : sort result) :
    (pure result : Read α).Gives sort := by
  intro before genuine
  refine ⟨genuine, ?_⟩
  rintro _ ⟨⟩
  exact isSo

theorem keeps_pure
    (result : α) :
    (pure result : Read α).Keeps :=
  gives_pure trivial

theorem gives_throw
    (fault : Fault)
    (sort : α → Prop) :
    (throw fault : Read α).Gives sort := by
  intro before genuine
  refine ⟨genuine, ?_⟩
  rintro _ ⟨⟩

theorem gives_malformed
    (sort : α → Prop) :
    (malformed : Read α).Gives sort :=
  gives_throw _ _

theorem Gives.bind
    {steps : Read α}
    {next : α → Read β}
    {middle : α → Prop}
    {sort : β → Prop}
    (first : steps.Gives middle)
    (second : ∀ result, middle result → (next result).Gives sort) :
    (steps >>= next).Gives sort := by
  intro before genuine
  rcases ran : steps.run.run before with ⟨outcome, after⟩
  have between := first before genuine
  rw [ran] at between
  have isRun : (steps >>= next).run.run before = (ExceptT.bindCont next outcome).run after := by
    change StateT.run (steps.run >>= ExceptT.bindCont next) before = _
    rw [StateT.run_bind, ran]
    rfl
  rw [isRun]
  cases outcome with
  | error fault =>
      exact ⟨between.1, by rintro _ ⟨⟩⟩
  | ok result =>
      exact second result (between.2 result rfl) after between.1

theorem Keeps.bind
    {steps : Read α}
    {next : α → Read β}
    {sort : β → Prop}
    (first : steps.Keeps)
    (second : ∀ result, (next result).Gives sort) :
    (steps >>= next).Gives sort :=
  Gives.bind first fun result _ => second result

theorem Gives.ite
    {condition : Prop}
    [Decidable condition]
    {first second : Read α}
    {sort : α → Prop}
    (one : first.Gives sort)
    (other : second.Gives sort) :
    (if condition then first else second).Gives sort := by
  split
  · exact one
  · exact other

theorem gives_get : (get : Read Reader).Gives Reader.IsGenuine := by
  intro before genuine
  refine ⟨genuine, ?_⟩
  rintro _ ⟨⟩
  exact genuine

theorem keeps_set
    {reader : Reader}
    (genuine : reader.IsGenuine) :
    (set reader : Read PUnit).Keeps :=
  fun _ _ => ⟨genuine, fun _ _ => trivial⟩

theorem keeps_modify
    {change : Reader → Reader}
    (keeps : ∀ reader, reader.IsGenuine → (change reader).IsGenuine) :
    (modify change : Read PUnit).Keeps :=
  fun before genuine => ⟨keeps before genuine, fun _ _ => trivial⟩

/-! ## Moving forward -/

private theorem tokens_step (reader : Reader) : reader.step.tokens = reader.tokens := by
  unfold Reader.step
  split
  · rfl
  · split
    · rfl
    · split <;> rfl

private theorem tokens_steps (count : Nat) (reader : Reader) :
    (Reader.steps count reader).tokens = reader.tokens := by
  induction count generalizing reader with
  | zero => rfl
  | succ count inductionHypothesis =>
      rw [Reader.steps, inductionHypothesis, tokens_step]

theorem keeps_peek (distance : Nat) : (peek distance).Keeps :=
  gives_get.bind fun _ _ => keeps_pure _

theorem keeps_nextThree : nextThree.Keeps :=
  gives_get.bind fun _ _ => keeps_pure _

theorem keeps_forward (count : Nat) : (forward count).Keeps :=
  keeps_modify fun reader genuine token member =>
    genuine token (tokens_steps count reader ▸ member)

theorem keeps_takeWhile (accepts : Char → Bool) : (takeWhile accepts).Keeps :=
  gives_get.bind fun _ _ => (keeps_forward _).bind fun _ => keeps_pure _

theorem keeps_skipWhile (accepts : Char → Bool) : (skipWhile accepts).Keeps :=
  (keeps_takeWhile accepts).bind fun _ => keeps_pure _

theorem keeps_take (count : Nat) : (take count).Keeps :=
  gives_get.bind fun _ _ => (keeps_forward _).bind fun _ => keeps_pure _

theorem keeps_bound : bound.Keeps :=
  gives_get.bind fun _ _ => keeps_pure _

theorem keeps_emit
    {token : Token}
    (isGenuine : token.IsGenuine) :
    (emit token).Keeps :=
  keeps_modify fun _ genuine other member => by
    rcases Array.mem_push.mp member with wasThere | rfl
    · exact genuine other wasThere
    · exact isGenuine

theorem keeps_lineBreak : lineBreak.Keeps :=
  (keeps_peek 0).bind fun _ => (keeps_peek 1).bind fun _ =>
    .ite ((keeps_forward 2).bind fun _ => keeps_pure _)
      (.ite ((keeps_forward 1).bind fun _ => keeps_pure _)
        (.ite ((keeps_forward 1).bind fun _ => keeps_pure _) (keeps_pure _)))

theorem keeps_restOfLine : restOfLine.Keeps := by
  refine (keeps_skipWhile _).bind fun _ => (keeps_peek 0).bind fun c => ?_
  have ends : ∀ _ : Unit, (do
      if endsLine (← peek 0) then
        let _ ← lineBreak
      else
        malformed : Read Unit).Keeps :=
    fun _ => (keeps_peek 0).bind fun _ =>
      .ite (keeps_lineBreak.bind fun _ => keeps_pure _) (gives_malformed _)
  exact .ite ((keeps_skipWhile _).bind ends) (ends ())

theorem keeps_atMarker : atMarker.Keeps :=
  keeps_nextThree.bind fun _ => (keeps_peek 3).bind fun _ => keeps_pure _

/-! ## Keys and indentation -/

theorem keeps_dropCandidate : dropCandidate.Keeps := by
  refine gives_get.bind fun reader genuine => ?_
  split
  · exact keeps_pure _
  · exact .ite (gives_malformed _) (keeps_set genuine)

theorem keeps_dropStaleCandidates : dropStaleCandidates.Keeps :=
  gives_get.bind fun _ genuine => .ite (gives_malformed _) (keeps_set genuine)

theorem keeps_saveCandidate : saveCandidate.Keeps :=
  gives_get.bind fun _ _ => .ite
    (keeps_dropCandidate.bind fun _ => keeps_modify fun _ genuine => genuine)
    (keeps_pure _)

theorem keeps_setMayStartKey (truth : Bool) : (setMayStartKey truth).Keeps :=
  keeps_modify fun _ genuine => genuine

theorem keeps_closeBlocks (column : Int) (fuel : Nat) : (closeBlocks column fuel).Keeps := by
  induction fuel with
  | zero => exact keeps_pure _
  | succ fuel inductionHypothesis =>
      refine gives_get.bind fun reader genuine => .ite ?_ (keeps_pure _)
      refine Keeps.bind (keeps_set ?_) fun _ => inductionHypothesis
      intro token member
      rcases Array.mem_push.mp member with wasThere | rfl
      · exact genuine token wasThere
      · trivial

theorem keeps_unwind (column : Int) : (unwind column).Keeps :=
  gives_get.bind fun _ _ => keeps_closeBlocks column _

theorem keeps_addIndent (column : Nat) : (addIndent column).Keeps :=
  gives_get.bind fun _ genuine => .ite
    (Keeps.bind (keeps_set genuine) fun _ => keeps_pure _)
    (keeps_pure _)

/-! ## Scalars in quotes -/

/-- Whether numbers are code points. -/
def ArePoints (points : List Nat) : Prop :=
  ∀ point ∈ points, point ≤ 0x10FFFF

private theorem arePoints_pointsOf (characters : List Char) : ArePoints (pointsOf characters) :=
  List.forall_mem_map.mpr fun c _ => Text.toNat_le_lastPoint c

private theorem arePoints_singleton
    {point : Nat}
    (isPoint : point ≤ 0x10FFFF) :
    ArePoints [point] :=
  List.forall_mem_singleton.mpr isPoint

theorem gives_pointOf (number : Nat) : (pointOf number).Gives fun point => point ≤ 0x10FFFF := by
  unfold pointOf
  split
  · next isPoint => exact gives_pure (Nat.le_of_lt_succ isPoint)
  · exact .ite (gives_throw _ _) (gives_throw _ _)

theorem keeps_quotedBreaks (done : List Char) (fuel : Nat) : (quotedBreaks done fuel).Keeps := by
  induction fuel generalizing done with
  | zero => exact gives_malformed _
  | succ fuel inductionHypothesis =>
      exact keeps_atMarker.bind fun _ => .ite (gives_malformed _)
        ((keeps_skipWhile _).bind fun _ => (keeps_peek 0).bind fun _ =>
          .ite (keeps_lineBreak.bind fun _ => inductionHypothesis _) (keeps_pure _))

theorem keeps_quotedBlanks : quotedBlanks.Keeps :=
  (keeps_takeWhile _).bind fun _ => (keeps_peek 0).bind fun _ => .ite (gives_malformed _)
    (.ite
      (keeps_lineBreak.bind fun _ => keeps_bound.bind fun _ => (keeps_quotedBreaks [] _).bind
        fun _ => .ite (keeps_pure _) (.ite (keeps_pure _) (keeps_pure _)))
      (keeps_pure _))

theorem gives_escaped : escaped.Gives ArePoints := by
  refine (keeps_peek 0).bind fun c => ?_
  split
  · next character _ =>
      exact (keeps_forward 1).bind fun _ =>
        gives_pure (arePoints_singleton (Text.toNat_le_lastPoint character))
  · next width _ _ =>
      exact (keeps_forward 1).bind fun _ => gives_get.bind fun _ _ => .ite
        ((gives_pointOf _).bind fun point isPoint => (keeps_forward width).bind fun _ =>
          gives_pure (arePoints_singleton isPoint))
        (gives_malformed _)
  · exact .ite
      (keeps_lineBreak.bind fun _ => keeps_bound.bind fun _ => (keeps_quotedBreaks [] _).bind
        fun characters => gives_pure (arePoints_pointsOf characters))
      (gives_malformed _)

private theorem arePoints_flatten
    {done : List (List Nat)}
    (arePoints : ∀ piece ∈ done, ArePoints piece) :
    ArePoints done.reverse.flatten := by
  intro point member
  obtain ⟨piece, isPiece, isPoint⟩ := List.mem_flatten.mp member
  exact arePoints piece (List.mem_reverse.mp isPiece) point isPoint

theorem gives_quotedWord
    (isDouble : Bool)
    (done : List (List Nat))
    (fuel : Nat)
    (arePoints : ∀ piece ∈ done, ArePoints piece) :
    (quotedWord isDouble done fuel).Gives ArePoints := by
  induction fuel generalizing done with
  | zero => exact gives_malformed _
  | succ fuel inductionHypothesis =>
      refine (keeps_takeWhile _).bind fun word => (keeps_peek 0).bind fun c => ?_
      have withWord : ∀ piece ∈ pointsOf word :: done, ArePoints piece :=
        List.forall_mem_cons.mpr ⟨arePoints_pointsOf word, arePoints⟩
      have goesOn : ∀ piece, ArePoints piece →
          (quotedWord isDouble (piece :: pointsOf word :: done) fuel).Gives ArePoints :=
        fun piece isSo => inductionHypothesis _ (List.forall_mem_cons.mpr ⟨isSo, withWord⟩)
      exact (keeps_peek 1).bind fun _ => .ite
        ((keeps_forward 2).bind fun _ => goesOn _ (arePoints_pointsOf _))
        (.ite
          ((keeps_forward 1).bind fun _ => goesOn _ (arePoints_pointsOf _))
          (.ite
            ((keeps_forward 1).bind fun _ => gives_escaped.bind goesOn)
            (gives_pure (arePoints_flatten withWord))))

theorem gives_quotedRest
    (quote : Char)
    (done : List (List Nat))
    (fuel : Nat)
    (arePoints : ∀ piece ∈ done, ArePoints piece) :
    (quotedRest quote done fuel).Gives ArePoints := by
  induction fuel generalizing done with
  | zero => exact gives_malformed _
  | succ fuel inductionHypothesis =>
      refine (keeps_peek 0).bind fun _ => .ite
        ((keeps_forward 1).bind fun _ => gives_pure (arePoints_flatten arePoints)) ?_
      refine keeps_quotedBlanks.bind fun blanks => keeps_bound.bind fun bound =>
        (gives_quotedWord _ [] bound (List.forall_mem_nil _)).bind fun word isWord => ?_
      exact inductionHypothesis _ (List.forall_mem_cons.mpr ⟨isWord,
        List.forall_mem_cons.mpr ⟨arePoints_pointsOf blanks, arePoints⟩⟩)

/-- A quoted scalar is a sequence of code points. -/
theorem gives_quotedScalar (quote : Char) : (quotedScalar quote).Gives Token.IsGenuine :=
  (keeps_forward 1).bind fun _ => keeps_bound.bind fun bound =>
    (gives_quotedWord _ [] bound (List.forall_mem_nil _)).bind fun first isFirst =>
      keeps_bound.bind fun bound =>
        (gives_quotedRest quote [first] bound (List.forall_mem_singleton.mpr isFirst)).bind
          fun _ arePoints => gives_pure (Text.Written.isGenuine_ofPoints arePoints)

/-! ## Other scalars -/

theorem keeps_indentDigit : indentDigit.Keeps :=
  (keeps_peek 0).bind fun _ => .ite (gives_malformed _)
    ((keeps_forward 1).bind fun _ => keeps_pure _)

theorem keeps_blockHeader : blockHeader.Keeps := by
  refine (keeps_peek 0).bind fun c => ?_
  extract_lets finish
  have finishes : ∀ header, (finish header).Keeps := fun header =>
    (keeps_peek 0).bind fun _ => .ite (keeps_pure _) (gives_malformed _)
  clear_value finish
  refine .ite ?_ (.ite ?_ (finishes _))
  · exact (keeps_forward 1).bind fun _ => (keeps_peek 0).bind fun _ => .ite
      (keeps_indentDigit.bind fun _ => finishes _) (finishes _)
  · exact keeps_indentDigit.bind fun _ => (keeps_peek 0).bind fun _ => .ite
      ((keeps_forward 1).bind fun _ => finishes _) (finishes _)

theorem keeps_leadingLines
    (done : List Char)
    (deepest fuel : Nat) :
    (leadingLines done deepest fuel).Keeps := by
  induction fuel generalizing done deepest with
  | zero => exact keeps_pure _
  | succ fuel inductionHypothesis =>
      exact (keeps_peek 0).bind fun _ => .ite
        ((keeps_forward 1).bind fun _ => gives_get.bind fun _ _ => inductionHypothesis _ _)
        (.ite (keeps_lineBreak.bind fun _ => inductionHypothesis _ _) (keeps_pure _))

theorem keeps_skipIndent (column fuel : Nat) : (skipIndent column fuel).Keeps := by
  induction fuel with
  | zero => exact keeps_pure _
  | succ fuel inductionHypothesis =>
      exact gives_get.bind fun _ _ => (keeps_peek 0).bind fun _ => .ite
        ((keeps_forward 1).bind fun _ => inductionHypothesis) (keeps_pure _)

theorem keeps_blockBreaks
    (column : Nat)
    (done : List Char)
    (fuel : Nat) :
    (blockBreaks column done fuel).Keeps := by
  induction fuel generalizing done with
  | zero => exact keeps_pure _
  | succ fuel inductionHypothesis =>
      exact keeps_bound.bind fun bound => (keeps_skipIndent column bound).bind fun _ =>
        (keeps_peek 0).bind fun _ =>
          .ite (keeps_lineBreak.bind fun _ => inductionHypothesis _) (keeps_pure _)

theorem keeps_blockLines
    (isFolded : Bool)
    (column : Nat)
    (breaks : List Char)
    (done : List (List Char))
    (fuel : Nat) :
    (blockLines isFolded column breaks done fuel).Keeps := by
  induction fuel generalizing breaks done with
  | zero => exact keeps_pure _
  | succ fuel inductionHypothesis =>
      refine (keeps_peek 0).bind fun _ => (keeps_peek 0).bind fun _ =>
        (keeps_takeWhile _).bind fun _ => keeps_lineBreak.bind fun _ => keeps_bound.bind fun bound =>
          (keeps_blockBreaks column [] bound).bind fun _ => (keeps_peek 0).bind fun _ =>
            gives_get.bind fun _ _ => ?_
      exact .ite (.ite (inductionHypothesis _ _) (inductionHypothesis _ _)) (keeps_pure _)

theorem gives_blockScalar (isFolded : Bool) : (blockScalar isFolded).Gives Token.IsGenuine := by
  refine (keeps_forward 1).bind fun _ => keeps_blockHeader.bind fun header =>
    keeps_restOfLine.bind fun _ => gives_get.bind fun reader _ => ?_
  extract_lets least finish onward
  have finishes : ∀ found, (finish found).Gives Token.IsGenuine := fun _ => gives_pure trivial
  have goesOn : ∀ found, (onward found).Gives Token.IsGenuine := fun _ =>
    gives_get.bind fun _ _ => (keeps_peek 0).bind fun _ => .ite
      (keeps_bound.bind fun bound => (keeps_blockLines _ _ _ [] bound).bind finishes)
      ((keeps_pure _).bind finishes)
  clear_value onward
  split
  · exact keeps_bound.bind fun bound => (keeps_leadingLines [] 0 bound).bind fun found =>
      goesOn (found.1, max least found.2)
  · next increment _ =>
      exact keeps_bound.bind fun bound =>
        (keeps_blockBreaks (least + increment - 1) [] bound).bind fun breaks =>
          goesOn (breaks, least + increment - 1)

theorem keeps_plainBreaks
    (done : List Char)
    (fuel : Nat) :
    (plainBreaks done fuel).Keeps := by
  induction fuel generalizing done with
  | zero => exact keeps_pure _
  | succ fuel inductionHypothesis =>
      exact (keeps_peek 0).bind fun _ => .ite
        ((keeps_forward 1).bind fun _ => inductionHypothesis _)
        (.ite
          (keeps_lineBreak.bind fun _ => keeps_atMarker.bind fun _ =>
            .ite (keeps_pure _) (inductionHypothesis _))
          (keeps_pure _))

theorem keeps_plainBlanks : plainBlanks.Keeps := by
  refine (keeps_takeWhile _).bind fun _ => (keeps_peek 0).bind fun _ => .ite ?_ (keeps_pure _)
  refine keeps_lineBreak.bind fun _ => (keeps_setMayStartKey true).bind fun _ =>
    keeps_atMarker.bind fun _ => .ite (keeps_pure _) ?_
  refine keeps_bound.bind fun bound => (keeps_plainBreaks [] bound).bind fun breaks? => ?_
  cases breaks? with
  | none => exact keeps_pure _
  | some breaks => exact .ite (keeps_pure _) (.ite (keeps_pure _) (keeps_pure _))

theorem keeps_plainWords
    (column : Int)
    (blanks : List Char)
    (done : List (List Char))
    (fuel : Nat) :
    (plainWords column blanks done fuel).Keeps := by
  induction fuel generalizing blanks done with
  | zero => exact keeps_pure _
  | succ fuel inductionHypothesis =>
      refine gives_get.bind fun reader _ => (keeps_peek 0).bind fun _ => .ite (keeps_pure _) ?_
      refine .ite (keeps_pure _) ?_
      exact (keeps_setMayStartKey false).bind fun _ => (keeps_forward _).bind fun _ =>
        keeps_plainBlanks.bind fun _ => (keeps_peek 0).bind fun _ => gives_get.bind fun _ _ =>
          .ite (keeps_pure _) (inductionHypothesis _ _)

theorem gives_plainScalar : plainScalar.Gives Token.IsGenuine :=
  gives_get.bind fun _ _ => keeps_bound.bind fun bound =>
    (keeps_plainWords _ [] [] bound).bind fun _ => gives_pure trivial

/-! ## Directives, anchors and tags -/

theorem keeps_versionNumber : versionNumber.Keeps :=
  (keeps_takeWhile _).bind fun _ =>
    .ite (gives_malformed _) (.ite (gives_throw _ _) (keeps_pure _))

theorem gives_versionDirective : versionDirective.Gives Token.IsGenuine :=
  (keeps_skipWhile _).bind fun _ => keeps_versionNumber.bind fun _ => (keeps_peek 0).bind fun _ =>
    .ite
      ((keeps_forward 1).bind fun _ => keeps_versionNumber.bind fun _ => (keeps_peek 0).bind
        fun _ => .ite (gives_pure trivial) (gives_malformed _))
      (gives_malformed _)

theorem keeps_handle : handle.Keeps :=
  (keeps_peek 0).bind fun _ => .ite (gives_malformed _)
    (gives_get.bind fun _ _ => (keeps_peek 1).bind fun _ => .ite
      ((keeps_forward 1).bind fun _ => keeps_pure _)
      ((keeps_peek _).bind fun _ => .ite
        ((keeps_take _).bind fun _ => keeps_pure _) (gives_malformed _)))

theorem keeps_percentBytes
    (done : List Nat)
    (fuel : Nat) :
    (percentBytes done fuel).Keeps := by
  induction fuel generalizing done with
  | zero => exact gives_malformed _
  | succ fuel inductionHypothesis =>
      exact (keeps_peek 0).bind fun _ => .ite
        ((keeps_forward 1).bind fun _ => (keeps_take 2).bind fun _ =>
          .ite (inductionHypothesis _) (gives_malformed _))
        (keeps_pure _)

theorem keeps_tagPieces
    (done : List String)
    (fuel : Nat) :
    (tagPieces done fuel).Keeps := by
  induction fuel generalizing done with
  | zero => exact gives_malformed _
  | succ fuel inductionHypothesis =>
      refine (keeps_peek 0).bind fun _ => .ite ?_ (.ite ?_ (keeps_pure _))
      · refine keeps_bound.bind fun bound => (keeps_percentBytes [] bound).bind fun bytes => ?_
        split
        · exact inductionHypothesis _
        · exact gives_malformed _
      · exact (keeps_takeWhile _).bind fun _ => inductionHypothesis _

theorem keeps_tagText : tagText.Keeps :=
  keeps_bound.bind fun bound => (keeps_tagPieces [] bound).bind fun _ =>
    .ite (gives_malformed _) (keeps_pure _)

theorem gives_handleDirective : handleDirective.Gives Token.IsGenuine :=
  (keeps_skipWhile _).bind fun _ => keeps_handle.bind fun _ => (keeps_peek 0).bind fun _ =>
    .ite (gives_malformed _)
      ((keeps_skipWhile _).bind fun _ => keeps_tagText.bind fun _ => (keeps_peek 0).bind fun _ =>
        .ite (gives_pure trivial) (gives_malformed _))

theorem gives_directive : directive.Gives Token.IsGenuine := by
  refine (keeps_forward 1).bind fun _ => (keeps_takeWhile _).bind fun name =>
    (keeps_peek 0).bind fun _ => .ite (gives_malformed _) ?_
  have finishes : ∀ token : Token, token.IsGenuine →
      (do restOfLine; return token : Read Token).Gives Token.IsGenuine :=
    fun token isGenuine => keeps_restOfLine.bind fun _ => gives_pure isGenuine
  exact .ite (gives_versionDirective.bind finishes)
    (.ite (gives_handleDirective.bind finishes)
      ((keeps_skipWhile _).bind fun _ => finishes _ trivial))

theorem keeps_anchorName : anchorName.Keeps :=
  (keeps_forward 1).bind fun _ => (keeps_takeWhile _).bind fun _ => (keeps_peek 0).bind fun _ =>
    .ite (gives_malformed _) (keeps_pure _)

theorem gives_tagToken : tagToken.Gives Token.IsGenuine := by
  refine (keeps_peek 1).bind fun next => ?_
  have finishes : ∀ token : Token, token.IsGenuine →
      (do if endsWord (← peek 0) then return token else malformed : Read Token).Gives
        Token.IsGenuine :=
    fun token isGenuine => (keeps_peek 0).bind fun _ =>
      .ite (gives_pure isGenuine) (gives_malformed _)
  refine .ite ?_ (.ite ?_ ?_)
  · exact (keeps_forward 2).bind fun _ => keeps_tagText.bind fun _ => (keeps_peek 0).bind fun _ =>
      .ite ((keeps_forward 1).bind fun _ => finishes _ trivial) (gives_malformed _)
  · exact (keeps_forward 1).bind fun _ => finishes _ trivial
  · exact gives_get.bind fun _ _ => .ite
      (keeps_handle.bind fun _ => keeps_tagText.bind fun _ => finishes _ trivial)
      ((keeps_forward 1).bind fun _ => keeps_tagText.bind fun _ => finishes _ trivial)

/-! ## One token -/

theorem keeps_toNextToken (fuel : Nat) : (toNextToken fuel).Keeps := by
  induction fuel with
  | zero => exact keeps_pure _
  | succ fuel inductionHypothesis =>
      refine (keeps_skipWhile _).bind fun _ => (keeps_peek 0).bind fun _ => ?_
      extract_lets goOn finish
      have finishes : ∀ done, (finish done).Keeps := fun _ => keeps_lineBreak.bind fun _ => .ite
        (gives_get.bind fun _ _ => .ite
          ((keeps_setMayStartKey true).bind fun _ => inductionHypothesis) inductionHypothesis)
        (keeps_pure _)
      exact .ite ((keeps_skipWhile _).bind finishes) (finishes ())

theorem keeps_closeDocument : closeDocument.Keeps :=
  (keeps_unwind _).bind fun _ => keeps_dropCandidate.bind fun _ => keeps_setMayStartKey false

theorem keeps_marker
    (token : Token)
    (isGenuine : token.IsGenuine) :
    (marker token).Keeps :=
  keeps_closeDocument.bind fun _ => (keeps_forward 3).bind fun _ => keeps_emit isGenuine

theorem keeps_openFlow
    (token : Token)
    (isGenuine : token.IsGenuine) :
    (openFlow token).Keeps :=
  keeps_saveCandidate.bind fun _ =>
    Keeps.bind (keeps_modify fun _ genuine => genuine) fun _ =>
      (keeps_forward 1).bind fun _ => keeps_emit isGenuine

theorem keeps_closeFlow
    (token : Token)
    (isGenuine : token.IsGenuine) :
    (closeFlow token).Keeps :=
  keeps_dropCandidate.bind fun _ =>
    Keeps.bind (keeps_modify fun _ genuine => genuine) fun _ =>
      (keeps_forward 1).bind fun _ => keeps_emit isGenuine

theorem keeps_separator : separator.Keeps :=
  (keeps_setMayStartKey true).bind fun _ => keeps_dropCandidate.bind fun _ =>
    (keeps_forward 1).bind fun _ => keeps_emit trivial

theorem keeps_openBlock
    (token : Token)
    (isGenuine : token.IsGenuine) :
    (openBlock token).Keeps :=
  gives_get.bind fun _ _ => .ite
    (.ite (gives_malformed _)
      ((keeps_addIndent _).bind fun _ => .ite (keeps_emit isGenuine) (keeps_pure _)))
    (keeps_pure _)

theorem keeps_entryMark : entryMark.Keeps :=
  (keeps_openBlock .blockSequenceStart trivial).bind fun _ => (keeps_setMayStartKey true).bind fun _ =>
    keeps_dropCandidate.bind fun _ => (keeps_forward 1).bind fun _ => keeps_emit trivial

theorem keeps_keyMark : keyMark.Keeps :=
  (keeps_openBlock .blockMappingStart trivial).bind fun _ => gives_get.bind fun _ _ =>
    (keeps_setMayStartKey _).bind fun _ => keeps_dropCandidate.bind fun _ =>
      (keeps_forward 1).bind fun _ => keeps_emit trivial

private theorem mem_of_mem_insertIdxIfInBounds
    {tokens : Array Token}
    {index : Nat}
    {added token : Token}
    (member : token ∈ tokens.insertIdxIfInBounds index added) :
    token = added ∨ token ∈ tokens := by
  unfold Array.insertIdxIfInBounds at member
  split at member
  · exact Array.mem_insertIdx.mp member
  · exact .inr member

theorem keeps_valueMark : valueMark.Keeps := by
  refine gives_get.bind fun reader genuine => ?_
  extract_lets finish
  have finishes : ∀ done, (finish done).Keeps := fun _ =>
    (keeps_forward 1).bind fun _ => keeps_emit trivial
  clear_value finish
  split
  · refine Keeps.bind (keeps_set ?_) fun _ => ?_
    · intro token member
      rcases mem_of_mem_insertIdxIfInBounds member with rfl | wasThere
      · trivial
      · exact genuine token wasThere
    · have startsKey : ∀ done : Unit, (do
          let _ ← setMayStartKey false
          finish done : Read Unit).Keeps :=
        fun _ => (keeps_setMayStartKey false).bind fun _ => finishes _
      refine .ite ((keeps_addIndent _).bind fun _ => .ite ?_ (startsKey ())) (startsKey ())
      refine Keeps.bind (keeps_modify fun reader genuine token member => ?_) startsKey
      rcases mem_of_mem_insertIdxIfInBounds member with rfl | wasThere
      · trivial
      · exact genuine token wasThere
  · exact (keeps_openBlock .blockMappingStart trivial).bind fun _ => gives_get.bind fun _ _ =>
      (keeps_setMayStartKey _).bind fun _ => keeps_dropCandidate.bind finishes

theorem keeps_possibleKey
    {read : Read Token}
    (gives : read.Gives Token.IsGenuine) :
    (possibleKey read).Keeps :=
  keeps_saveCandidate.bind fun _ => (keeps_setMayStartKey false).bind fun _ =>
    gives.bind fun _ isGenuine => keeps_emit isGenuine

theorem keeps_blockScalarToken (isFolded : Bool) : (blockScalarToken isFolded).Keeps :=
  (keeps_setMayStartKey true).bind fun _ => keeps_dropCandidate.bind fun _ =>
    (gives_blockScalar isFolded).bind fun _ isGenuine => keeps_emit isGenuine

theorem keeps_next : next.Keeps := by
  refine keeps_bound.bind fun bound => (keeps_toNextToken bound).bind fun _ =>
    keeps_dropStaleCandidates.bind fun _ => gives_get.bind fun reader _ =>
      (keeps_unwind _).bind fun _ => (keeps_peek 0).bind fun c => (keeps_peek 1).bind fun _ =>
        keeps_nextThree.bind fun _ => (keeps_peek 3).bind fun _ =>
          .ite (keeps_closeDocument.bind fun _ => keeps_pure _) ?_
  have finishes : ∀ _ : Unit, (pure true : Read Bool).Keeps := fun _ => keeps_pure _
  refine .ite (keeps_closeDocument.bind fun _ => gives_directive.bind fun _ isGenuine =>
    (keeps_emit isGenuine).bind finishes) ?_
  refine .ite ((keeps_marker .documentStart trivial).bind finishes)
    (.ite ((keeps_marker .documentEnd trivial).bind finishes) ?_)
  refine .ite ((keeps_openFlow .sequenceStart trivial).bind finishes)
    (.ite ((keeps_openFlow .mappingStart trivial).bind finishes) ?_)
  refine .ite ((keeps_closeFlow .sequenceEnd trivial).bind finishes)
    (.ite ((keeps_closeFlow .mappingEnd trivial).bind finishes) ?_)
  refine .ite (keeps_separator.bind finishes) (.ite (keeps_entryMark.bind finishes) ?_)
  refine .ite (keeps_keyMark.bind finishes) (.ite (keeps_valueMark.bind finishes) ?_)
  have named : ∀ make : String → Token, (∀ name, (make name).IsGenuine) →
      (possibleKey (do return make (← anchorName))).Keeps :=
    fun make isGenuine => keeps_possibleKey (keeps_anchorName.bind fun name =>
      gives_pure (isGenuine name))
  refine .ite ((named .alias fun _ => trivial).bind finishes)
    (.ite ((named .anchor fun _ => trivial).bind finishes) ?_)
  refine .ite ((keeps_possibleKey gives_tagToken).bind finishes) ?_
  refine .ite ((keeps_blockScalarToken false).bind finishes)
    (.ite ((keeps_blockScalarToken true).bind finishes) ?_)
  exact .ite ((keeps_possibleKey (gives_quotedScalar c)).bind finishes)
    (.ite ((keeps_possibleKey gives_plainScalar).bind finishes) (gives_malformed _))

end Read

namespace TokenStream

private theorem isGenuine_readFrom
    {reader : Reader}
    (genuine : reader.IsGenuine)
    (fuel : Nat) :
    ∀ token ∈ (readFrom fuel reader).tokens, token.IsGenuine := by
  induction fuel generalizing reader with
  | zero =>
      exact fun token member => genuine token (Array.mem_toList_iff.mp member)
  | succ fuel inductionHypothesis =>
      have genuineAfter := (Read.keeps_next reader genuine).1
      rw [readFrom]
      split
      · next ran =>
          rw [ran] at genuineAfter
          exact inductionHypothesis genuineAfter
      · next ran =>
          rw [ran] at genuineAfter
          exact fun token member => genuineAfter token (Array.mem_toList_iff.mp member)
      · next ran =>
          rw [ran] at genuineAfter
          exact fun token member =>
            genuineAfter token (Array.mem_toList_iff.mp (List.mem_of_mem_take member))

/-- The tokens of a text are genuine. -/
theorem isGenuine_ofText (text : String) :
    ∀ token ∈ (ofText text).tokens, token.IsGenuine := by
  unfold ofText
  split
  · refine isGenuine_readFrom (fun token member => ?_) _
    have isEmpty : (Reader.start text).afterMark.tokens = #[] := by
      unfold Reader.afterMark
      split
      · exact Read.tokens_step _
      · rfl
    rw [isEmpty] at member
    exact absurd member (Array.not_mem_empty token)
  · exact List.forall_mem_nil _

end TokenStream

end TypeCatalog.Yaml
