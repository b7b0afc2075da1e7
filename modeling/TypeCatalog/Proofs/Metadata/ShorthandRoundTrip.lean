import TypeCatalog.Proofs.Metadata.FullText
import TypeCatalog.Proofs.Schema.Checked

namespace TypeCatalog

/-!
# The full text of a reference read as shorthand

Arguments of a constructed type are found again by cutting at the commas outside all angle
brackets.  That works unless an argument shows such a comma itself, being an array of several
dimensions: then a piece starts with a closing bracket and cannot be read.
-/

namespace Except

variable {α β ε : Type}

private theorem mapM_eq_ok
    {f : α → Except ε β}
    {g : α → β}
    {items : List α}
    (each : ∀ item ∈ items, f item = .ok (g item)) :
    items.mapM f = .ok (items.map g) := by
  induction items with
  | nil =>
      rfl
  | cons item rest inductionHypothesis =>
      rw [List.mapM_cons, each item (by simp),
        inductionHypothesis fun other member => each other (List.mem_cons_of_mem item member)]
      rfl

private theorem mapM_eq_error
    {f : α → Except ε β}
    {g : α → β}
    {failure : ε}
    {items : List α}
    (each : ∀ item ∈ items, f item = .ok (g item) ∨ f item = .error failure)
    (some_fails : ∃ item ∈ items, f item = .error failure) :
    items.mapM f = .error failure := by
  induction items with
  | nil =>
      obtain ⟨_, member, _⟩ := some_fails
      cases member
  | cons item rest inductionHypothesis =>
      rw [List.mapM_cons]
      rcases each item (by simp) with passes | fails
      · have failsInRest : ∃ other ∈ rest, f other = .error failure := by
          obtain ⟨other, member, fails⟩ := some_fails
          rcases List.mem_cons.mp member with rfl | inRest
          · rw [passes] at fails
            cases fails
          · exact ⟨other, inRest, fails⟩
        rw [passes,
          inductionHypothesis (fun other member => each other (List.mem_cons_of_mem item member))
            failsInRest]
        rfl
      · rw [fails]
        rfl

private theorem exists_error_of_mapM
    {f : α → Except ε β}
    {items : List α}
    {item : α}
    (member : item ∈ items)
    (fails : ∃ failure, f item = .error failure) :
    ∃ failure, items.mapM f = .error failure := by
  induction items with
  | nil =>
      cases member
  | cons first rest inductionHypothesis =>
      rw [List.mapM_cons]
      cases outcome : f first with
      | error failure =>
          exact ⟨failure, rfl⟩
      | ok result =>
          have inRest : item ∈ rest := by
            rcases List.mem_cons.mp member with rfl | inRest
            · obtain ⟨failure, fails⟩ := fails
              rw [fails] at outcome
              cases outcome
            · exact inRest
          obtain ⟨failure, failed⟩ := inductionHypothesis inRest
          exact ⟨failure, by rw [failed]; rfl⟩

end Except

namespace TypeRef

mutual

/-- How many references stand inside one another at most. -/
def depth : TypeRef → Nat
  | ⟨_, _, element?, _, arguments⟩ => max (elementDepth element?) (argumentDepth arguments) + 1

/-- The depth of an element. -/
def elementDepth : Option TypeRef → Nat
  | none => 0
  | some element => depth element

/-- The greatest depth of some arguments. -/
def argumentDepth : List TypeRef → Nat
  | [] => 0
  | argument :: rest => max (depth argument) (argumentDepth rest)

end

mutual

/-- Whether no argument of a constructed type in a reference shows a comma. -/
def hidesCommas : TypeRef → Bool
  | ⟨_, _, element?, _, arguments⟩ => elementHidesCommas element? && argumentsHideCommas arguments

/-- Whether no argument of a constructed type in an element shows a comma. -/
def elementHidesCommas : Option TypeRef → Bool
  | none => true
  | some element => hidesCommas element

/-- Whether none of some arguments shows a comma, nor any argument inside them. -/
def argumentsHideCommas : List TypeRef → Bool
  | [] => true
  | argument :: rest =>
    !argument.showsComma && hidesCommas argument && argumentsHideCommas rest

end

mutual

/-- What the text of a reference says. -/
def shorthand : TypeRef → Shorthand
  | ⟨kind, fullName, element?, rank, arguments⟩ =>
    match kind with
    | .array => .array (elementShorthand element?) rank
    | .pointer => .pointer (elementShorthand element?)
    | .byReference => .byReference (elementShorthand element?)
    | .genericParameter => .genericParameter fullName
    | .named =>
      match argumentShorthands arguments with
      | [] => .named fullName
      | drafts => .constructed fullName drafts

/-- What the text of an element says. -/
def elementShorthand : Option TypeRef → Shorthand
  | none => .named ""
  | some element => shorthand element

/-- What the texts of arguments say. -/
def argumentShorthands : List TypeRef → List Shorthand
  | [] => []
  | argument :: rest => shorthand argument :: argumentShorthands rest

end

theorem argumentShorthands_eq_map (arguments : List TypeRef) :
    argumentShorthands arguments = arguments.map shorthand := by
  induction arguments with
  | nil =>
      rfl
  | cons argument rest inductionHypothesis =>
      rw [argumentShorthands, inductionHypothesis, List.map_cons]

theorem shorthand_constructed
    {arguments : List TypeRef}
    (name : String)
    (nonempty : arguments ≠ []) :
    shorthand ⟨.named, name, none, 1, arguments⟩ =
      .constructed name (argumentShorthands arguments) := by
  obtain ⟨first, rest, rfl⟩ := List.exists_cons_of_ne_nil nonempty
  rfl

theorem depth_pos (reference : TypeRef) : 1 ≤ reference.depth := by
  cases reference
  simp [depth]

theorem depth_wrapped
    (kind : ReferenceKind)
    (element : TypeRef)
    (rank : Nat) :
    depth ⟨kind, "", some element, rank, []⟩ = element.depth + 1 := by
  simp [depth, elementDepth, argumentDepth]

theorem hidesCommas_wrapped
    (kind : ReferenceKind)
    (element : TypeRef)
    (rank : Nat) :
    hidesCommas ⟨kind, "", some element, rank, []⟩ = element.hidesCommas := by
  simp [hidesCommas, elementHidesCommas, argumentsHideCommas]

theorem depth_constructed
    (name : String)
    (arguments : List TypeRef) :
    depth ⟨.named, name, none, 1, arguments⟩ = argumentDepth arguments + 1 := by
  simp [depth, elementDepth]

theorem hidesCommas_constructed
    (name : String)
    (arguments : List TypeRef) :
    hidesCommas ⟨.named, name, none, 1, arguments⟩ = argumentsHideCommas arguments := by
  simp [hidesCommas, elementHidesCommas]

theorem depth_le_argumentDepth
    {arguments : List TypeRef}
    {argument : TypeRef}
    (member : argument ∈ arguments) :
    argument.depth ≤ argumentDepth arguments := by
  induction arguments with
  | nil =>
      cases member
  | cons first rest inductionHypothesis =>
      rw [argumentDepth]
      rcases List.mem_cons.mp member with rfl | inRest
      · exact Nat.le_max_left _ _
      · exact Nat.le_trans (inductionHypothesis inRest) (Nat.le_max_right _ _)

theorem argumentsHideCommas_iff {arguments : List TypeRef} :
    argumentsHideCommas arguments = true ↔
      ∀ argument ∈ arguments, argument.showsComma = false ∧ argument.hidesCommas = true := by
  induction arguments with
  | nil =>
      simp [argumentsHideCommas]
  | cons first rest inductionHypothesis =>
      simp [argumentsHideCommas, inductionHypothesis]

theorem exists_of_argumentsHideCommas_eq_false
    {arguments : List TypeRef}
    (shown : argumentsHideCommas arguments = false) :
    ∃ argument ∈ arguments, argument.showsComma = true ∨ argument.hidesCommas = false := by
  induction arguments with
  | nil =>
      cases shown
  | cons first rest inductionHypothesis =>
      simp only [argumentsHideCommas, Bool.and_eq_false_iff, Bool.not_eq_false'] at shown
      rcases shown with shownFirst | shownInRest
      · exact ⟨first, by simp, shownFirst⟩
      · obtain ⟨argument, member, shownThere⟩ := inductionHypothesis shownInRest
        exact ⟨argument, List.mem_cons_of_mem first member, shownThere⟩

end TypeRef

namespace Shorthand

open TypeRef

/-! ## Reading each form -/

variable {text front name inside : List Char}

theorem read_zero (text : List Char) : read 0 text = .error .tooDeep := by
  rw [read]
  rfl

theorem read_pointer
    (trims : Text.trimList text = front ++ ['*'])
    (calls : Nat) :
    read (calls + 1) text = (read calls front).map .pointer := by
  rw [read]
  simp [trims]

theorem read_byReference
    (trims : Text.trimList text = front ++ ['&'])
    (calls : Nat) :
    read (calls + 1) text = (read calls front).map .byReference := by
  rw [read]
  simp [trims]

private theorem lastBrackets_append
    (front : List Char)
    (commas : Nat) :
    lastBrackets (front ++ '[' :: (List.replicate commas ',' ++ [']'])) =
      (front, List.replicate commas ',') := by
  have reversed :
      (front ++ '[' :: (List.replicate commas ',' ++ [']'])).dropLast.reverse =
        List.replicate commas ',' ++ '[' :: front.reverse := by
    rw [← List.cons_append, ← List.append_assoc, List.dropLast_concat]
    simp
  have inside :
      (List.replicate commas ',' ++ '[' :: front.reverse).takeWhile (· != '[') =
        List.replicate commas ',' := by
    rw [List.takeWhile_append_of_pos (by simp)]
    simp
  have before :
      (List.replicate commas ',' ++ '[' :: front.reverse).drop (commas + 1) = front.reverse := by
    rw [← List.singleton_append, ← List.append_assoc]
    exact List.drop_left' (by simp)
  simp only [lastBrackets, reversed, inside, List.length_replicate, before, List.reverse_reverse,
    List.reverse_replicate]

theorem read_array
    {commas : Nat}
    (trims : Text.trimList text = front ++ '[' :: (List.replicate commas ',' ++ [']']))
    (someElement : front ≠ [])
    (calls : Nat) :
    read (calls + 1) text = (read calls front).map fun element => .array element (commas + 1) := by
  have lastMark : (front ++ '[' :: (List.replicate commas ',' ++ [']'])).getLast? = some ']' := by
    rw [← List.cons_append, ← List.append_assoc, List.getLast?_concat]
  rw [read]
  simp only [trims, lastMark, lastBrackets_append]
  simp [someElement]

/-- A text without marks at its ends is a name. -/
theorem read_named
    (trims : Text.trimList text = name)
    (someName : name ≠ [])
    (noMarkAtEnd : ∀ mark ∈ ['&', '*', ']', '>'], name.getLast? ≠ some mark)
    (noMarkAtStart : name.head? ≠ some '!')
    (calls : Nat) :
    read (calls + 1) text = .ok (.named (String.ofList name)) := by
  rw [read]
  simp only [trims, noMarkAtEnd '&' (by decide), noMarkAtEnd '*' (by decide),
    noMarkAtEnd ']' (by decide), noMarkAtEnd '>' (by decide), noMarkAtStart, someName]
  simp

theorem read_constructed
    (trims : Text.trimList text = front ++ '<' :: (inside ++ ['>']))
    (noBracket : '<' ∉ front)
    (noMarkAtStart : front.head? ≠ some '!')
    (calls : Nat) :
    read (calls + 1) text =
      ((splitTopLevel inside).mapM (read (calls - 1))).map
        (.constructed (String.ofList (Text.trimList front))) := by
  have lastMark : (front ++ '<' :: (inside ++ ['>'])).getLast? = some '>' := by
    rw [← List.cons_append, ← List.append_assoc, List.getLast?_concat]
  have firstMark : front.head?.getD '<' ≠ '!' := by
    cases front with
    | nil => decide
    | cons c others => simpa using noMarkAtStart
  have noneBracket : ∀ c ∈ front, (c != '<') = true := by
    intro c member
    rw [bne_iff_ne]
    rintro rfl
    exact noBracket member
  have nameBefore : (front ++ '<' :: (inside ++ ['>'])).takeWhile (· != '<') = front := by
    rw [List.takeWhile_append_of_pos noneBracket]
    simp
  have insideAfter :
      (front ++ '<' :: (inside ++ ['>'])).dropWhile (· != '<') = '<' :: (inside ++ ['>']) := by
    rw [List.dropWhile_append_of_pos noneBracket]
    simp
  rw [read]
  simp [trims, lastMark, firstMark, nameBefore, insideAfter]

/-! ## Reading a full text -/

private theorem read_plainName
    {name : String}
    (plainName : PlainName name)
    (calls : Nat) :
    read (calls + 1) name.toList = .ok (.named name) := by
  have noMark {c : Char} (member : c ∈ name.toList) : c ∉ marks := fun isMark =>
    plainName.ne_of_mem member isMark rfl
  rw [read_named plainName.trimmed.trimList_eq plainName.nonempty ?_ ?_, String.ofList_toList]
  · intro mark isMark isLast
    refine noMark (List.mem_of_getLast? isLast) ?_
    exact (by decide : ['&', '*', ']', '>'] ⊆ marks) isMark
  · intro isFirst
    exact noMark (List.mem_of_head? isFirst) (by decide)

private theorem read_plainConstructed
    {name : String}
    (plainName : PlainName name)
    (inside : List Char)
    (calls : Nat) :
    read (calls + 1) (name.toList ++ '<' :: (inside ++ ['>'])) =
      ((splitTopLevel inside).mapM (read (calls - 1))).map (.constructed name) := by
  have noMark {c : Char} (member : c ∈ name.toList) : c ∉ marks := fun isMark =>
    plainName.ne_of_mem member isMark rfl
  have trimmed : Text.Trimmed (name.toList ++ '<' :: (inside ++ ['>'])) := by
    rw [← List.cons_append, ← List.append_assoc]
    exact plainName.trimmed.append _ (by decide)
  rw [read_constructed trimmed.trimList_eq, plainName.trimmed.trimList_eq, String.ofList_toList]
  · exact fun member => noMark member (by decide)
  · exact fun isFirst => noMark (List.mem_of_head? isFirst) (by decide)

private theorem read_fullText_array
    {element : TypeRef}
    {rank : Nat}
    (plain : element.Plain)
    (positive : 1 ≤ rank)
    (calls : Nat) :
    read (calls + 1) (fullText ⟨.array, "", some element, rank, []⟩).toList =
      (read calls element.fullText.toList).map fun element => .array element rank := by
  have trims := (plain.array positive).trimmed_fullText.trimList_eq
  rw [toList_fullText_array, toList_arrayMarks] at trims
  rw [toList_fullText_array, toList_arrayMarks,
    read_array trims plain.trimmed_fullText.ne_nil, Nat.sub_add_cancel positive]

private theorem read_fullText_pointer
    {element : TypeRef}
    (plain : element.Plain)
    (calls : Nat) :
    read (calls + 1) (fullText ⟨.pointer, "", some element, 1, []⟩).toList =
      (read calls element.fullText.toList).map .pointer := by
  have trimmed := plain.pointer.trimmed_fullText
  rw [toList_fullText_pointer] at trimmed ⊢
  exact read_pointer trimmed.trimList_eq calls

private theorem read_fullText_byReference
    {element : TypeRef}
    (plain : element.Plain)
    (calls : Nat) :
    read (calls + 1) (fullText ⟨.byReference, "", some element, 1, []⟩).toList =
      (read calls element.fullText.toList).map .byReference := by
  have trimmed := plain.byReference.trimmed_fullText
  rw [toList_fullText_byReference] at trimmed ⊢
  exact read_byReference trimmed.trimList_eq calls

/-- Reading a text within so many calls gives a draft, unless there is no room for it. -/
def ReadsWithin
    (calls room : Nat)
    (text : List Char)
    (draft : Shorthand) : Prop :=
  read calls text = .ok draft ∨ (calls < room ∧ read calls text = .error .tooDeep)

theorem ReadsWithin.of_succ
    {reference : TypeRef}
    {text : List Char}
    {draft : Shorthand}
    (reads : ∀ calls, ReadsWithin (calls + 1) (2 * reference.depth) text draft)
    (calls : Nat) :
    ReadsWithin calls (2 * reference.depth) text draft := by
  cases calls with
  | zero =>
      have someDepth := reference.depth_pos
      exact .inr ⟨by omega, read_zero text⟩
  | succ calls =>
      exact reads calls

theorem ReadsWithin.wrap
    {calls room : Nat}
    {text wrapped : List Char}
    {draft : Shorthand}
    {form : Shorthand → Shorthand}
    (reads : ReadsWithin calls room text draft)
    (readWrapped : read (calls + 1) wrapped = (read calls text).map form) :
    ReadsWithin (calls + 1) (room + 2) wrapped (form draft) := by
  rcases reads with passes | ⟨tooFew, fails⟩
  · refine .inl ?_
    rw [readWrapped, passes]
    rfl
  · refine .inr ⟨by omega, ?_⟩
    rw [readWrapped, fails]
    rfl

/-- If each of some texts is read as a draft unless there is no room for it, then so are they all. -/
theorem mapM_readsWithin
    {α : Type}
    {items : List α}
    {characters : α → List Char}
    {draft : α → Shorthand}
    {calls room : Nat}
    (each : ∀ item ∈ items, ReadsWithin calls room (characters item) (draft item)) :
    (items.map characters).mapM (read calls) = .ok (items.map draft) ∨
      (calls < room ∧ (items.map characters).mapM (read calls) = .error .tooDeep) := by
  rw [List.mapM_map]
  by_cases fails : ∃ item ∈ items, read calls (characters item) = .error .tooDeep
  · obtain ⟨item, member, failsThere⟩ := fails
    have tooFew : calls < room := by
      rcases each item member with passes | ⟨tooFew, _⟩
      · rw [failsThere] at passes
        cases passes
      · exact tooFew
    exact .inr ⟨tooFew,
      Except.mapM_eq_error (fun other inItems => (each other inItems).imp_right And.right)
        ⟨item, member, failsThere⟩⟩
  · refine .inl (Except.mapM_eq_ok fun item member => ?_)
    rcases each item member with passes | ⟨_, failsThere⟩
    · exact passes
    · exact absurd ⟨item, member, failsThere⟩ fails

/-- Reading the text of a reference whose commas are hidden gives what the text says, where there
is room for two calls for each reference inside another. -/
theorem readsWithin_fullText
    {reference : TypeRef}
    (plain : reference.Plain)
    (hidden : reference.hidesCommas = true)
    (calls : Nat) :
    ReadsWithin calls (2 * reference.depth) reference.fullText.toList reference.shorthand := by
  induction plain generalizing calls with
  | named plainName =>
      refine .of_succ (fun calls => .inl ?_) calls
      rw [fullText_named]
      exact read_plainName plainName calls
  | @array element rank plainElement positive readElement =>
      refine .of_succ (fun calls => ?_) calls
      rw [hidesCommas_wrapped] at hidden
      rw [depth_wrapped, Nat.mul_add]
      exact (readElement hidden calls).wrap (read_fullText_array plainElement positive calls)
  | @pointer element plainElement readElement =>
      refine .of_succ (fun calls => ?_) calls
      rw [hidesCommas_wrapped] at hidden
      rw [depth_wrapped, Nat.mul_add]
      exact (readElement hidden calls).wrap (read_fullText_pointer plainElement calls)
  | @byReference element plainElement readElement =>
      refine .of_succ (fun calls => ?_) calls
      rw [hidesCommas_wrapped] at hidden
      rw [depth_wrapped, Nat.mul_add]
      exact (readElement hidden calls).wrap (read_fullText_byReference plainElement calls)
  | @constructed name arguments plainName nonempty plainArguments readArguments =>
      refine .of_succ (fun calls => ?_) calls
      rw [hidesCommas_constructed, argumentsHideCommas_iff] at hidden
      have pieces :=
        splitTopLevel_arguments nonempty plainArguments fun argument member =>
          (hidden argument member).1
      -- An argument list takes a call of its own, so arguments are read with one call less.
      have each :
          ∀ argument ∈ arguments,
            ReadsWithin (calls - 1) (2 * argumentDepth arguments)
              argument.fullText.toList argument.shorthand := by
        intro argument member
        have bound := depth_le_argumentDepth member
        exact (readArguments argument member (hidden argument member).2 _).imp_right
          (And.imp_left fun tooFew => by omega)
      rw [depth_constructed, toList_fullText_constructed _ nonempty,
        shorthand_constructed _ nonempty, ReadsWithin, read_plainConstructed plainName, pieces,
        argumentShorthands_eq_map]
      rcases mapM_readsWithin each with passes | ⟨tooFew, fails⟩
      · exact .inl (by rw [passes]; rfl)
      · exact .inr ⟨by omega, by rw [fails]; rfl⟩

private theorem exists_error_of_map
    {outcome : Except ShorthandFault Shorthand}
    {form : Shorthand → Shorthand}
    (fails : ∃ fault, outcome = .error fault) :
    ∃ fault, outcome.map form = .error fault := by
  obtain ⟨fault, rfl⟩ := fails
  exact ⟨fault, rfl⟩

private theorem exists_fault_of_succ
    {text : List Char}
    (fails : ∀ calls, ∃ fault, read (calls + 1) text = .error fault)
    (calls : Nat) :
    ∃ fault, read calls text = .error fault := by
  cases calls with
  | zero =>
      exact ⟨_, read_zero _⟩
  | succ calls =>
      exact fails calls

/-- A remnant cannot be read: without its marks it is a lone closing bracket. -/
theorem Remnant.exists_fault
    {text : List Char}
    (remnant : Remnant text)
    (calls : Nat) :
    ∃ fault, read calls text = .error fault := by
  induction remnant generalizing calls with
  | bracket =>
      refine exists_fault_of_succ (fun calls => ⟨.malformedArray "]", ?_⟩) calls
      rw [read]
      rfl
  | pointer inner inductionHypothesis =>
      refine exists_fault_of_succ (fun calls => ?_) calls
      rw [read_pointer inner.pointer.trimmed.trimList_eq]
      exact exists_error_of_map (inductionHypothesis calls)
  | byReference inner inductionHypothesis =>
      refine exists_fault_of_succ (fun calls => ?_) calls
      rw [read_byReference inner.byReference.trimmed.trimList_eq]
      exact exists_error_of_map (inductionHypothesis calls)
  | array inner inductionHypothesis =>
      refine exists_fault_of_succ (fun calls => ?_) calls
      rw [@read_array _ _ 0 inner.array.trimmed.trimList_eq inner.trimmed.ne_nil]
      exact exists_error_of_map (inductionHypothesis calls)

/-- The text of a reference that shows a comma inside an argument cannot be read. -/
theorem exists_fault_of_not_hidesCommas
    {reference : TypeRef}
    (plain : reference.Plain)
    (shown : reference.hidesCommas = false)
    (calls : Nat) :
    ∃ fault, read calls reference.fullText.toList = .error fault := by
  induction plain generalizing calls with
  | named =>
      cases shown
  | @array element rank plainElement positive readElement =>
      refine exists_fault_of_succ (fun calls => ?_) calls
      rw [hidesCommas_wrapped] at shown
      rw [read_fullText_array plainElement positive]
      exact exists_error_of_map (readElement shown calls)
  | @pointer element plainElement readElement =>
      refine exists_fault_of_succ (fun calls => ?_) calls
      rw [hidesCommas_wrapped] at shown
      rw [read_fullText_pointer plainElement]
      exact exists_error_of_map (readElement shown calls)
  | @byReference element plainElement readElement =>
      refine exists_fault_of_succ (fun calls => ?_) calls
      rw [hidesCommas_wrapped] at shown
      rw [read_fullText_byReference plainElement]
      exact exists_error_of_map (readElement shown calls)
  | @constructed name arguments plainName nonempty plainArguments readArguments =>
      refine exists_fault_of_succ (fun calls => ?_) calls
      rw [toList_fullText_constructed _ nonempty, read_plainConstructed plainName]
      suffices fails : ∃ fault,
          (splitTopLevel (argumentCharacters arguments)).mapM (read (calls - 1)) =
            .error fault by
        obtain ⟨fault, fails⟩ := fails
        exact ⟨fault, by rw [fails]; rfl⟩
      -- The list is cut inside an argument, or each argument stands alone and one of them fails.
      by_cases shows : ∃ argument ∈ arguments, argument.showsComma = true
      · obtain ⟨remnant, member, isRemnant⟩ :=
          exists_remnant_of_showsComma plainArguments shows
        exact Except.exists_error_of_mapM member (isRemnant.exists_fault _)
      · have hidden : ∀ argument ∈ arguments, argument.showsComma = false :=
          fun argument member => by
            simpa using fun showsThere => shows ⟨argument, member, showsThere⟩
        rw [hidesCommas_constructed] at shown
        obtain ⟨argument, member, showsThere | shownInside⟩ :=
          exists_of_argumentsHideCommas_eq_false shown
        · exact absurd ⟨argument, member, showsThere⟩ shows
        · rw [splitTopLevel_arguments nonempty plainArguments hidden]
          exact Except.exists_error_of_mapM (List.mem_map_of_mem member)
            (readArguments argument member shownInside _)

end Shorthand

namespace TypeRef

/-! ## Checking what a full text says -/

private theorem checkShape_named
    {name : String}
    (plainName : PlainName name)
    (input : Value)
    (arguments : List TypeRef) :
    checkShape input ⟨.named, name, none, 1, arguments⟩ =
      .ok ⟨.named, name, none, 1, arguments⟩ := by
  have someName : name.isEmpty = false := by
    rw [← Bool.not_eq_true, String.isEmpty_iff]
    rintro rfl
    exact plainName.nonempty rfl
  simp [checkShape, shapeFault?, ReferenceKind.wraps, someName]

theorem ofShorthand_zero_ne
    (draft : Shorthand)
    (reference : TypeRef) :
    ofShorthand 0 draft ≠ .ok reference := by
  simp [ofShorthand, Schema.Checked.reject]

private theorem ofShorthands_iff
    {arguments : List TypeRef}
    {room : Nat}
    (each : ∀ argument ∈ arguments,
      ofShorthand room argument.shorthand = .ok argument ↔ argument.depth ≤ room)
    (index : Nat) :
    ofShorthands room index (argumentShorthands arguments) = .ok arguments ↔
      argumentDepth arguments ≤ room := by
  induction arguments generalizing index with
  | nil =>
      simp [ofShorthands, argumentShorthands, argumentDepth]
  | cons argument rest inductionHypothesis =>
      have eachInRest :=
        inductionHypothesis (fun other member => each other (List.mem_cons_of_mem argument member))
          (index + 1)
      simp only [ofShorthands, argumentShorthands, argumentDepth, Nat.max_le,
        Schema.Checked.combine_eq_ok_iff, Schema.Checked.under_eq_ok_iff, List.cons.injEq]
      rw [← each argument (by simp), ← eachInRest]
      constructor
      · rintro ⟨_, _, first, others, rfl, rfl⟩
        exact ⟨first, others⟩
      · rintro ⟨first, others⟩
        exact ⟨_, _, first, others, rfl, rfl⟩

/-- What the text of a reference says stands for this reference, where there is room for its
depth. -/
theorem ofShorthand_shorthand_iff
    {reference : TypeRef}
    (plain : reference.Plain)
    (room : Nat) :
    ofShorthand room reference.shorthand = .ok reference ↔ reference.depth ≤ room := by
  induction plain generalizing room with
  | @named name plainName =>
      cases room with
      | zero =>
          have someDepth := depth_pos ⟨.named, name, none, 1, []⟩
          simp only [ofShorthand_zero_ne, false_iff]
          omega
      | succ room =>
          rw [depth_constructed]
          simpa [shorthand, argumentShorthands, ofShorthand, leafOf, argumentDepth]
            using checkShape_named plainName .null []
  | @array element rank _ _ checkElement | @pointer element _ checkElement
    | @byReference element _ checkElement =>
      cases room with
      | zero =>
          simp only [ofShorthand_zero_ne, depth_wrapped, false_iff]
          omega
      | succ room =>
          rw [depth_wrapped, Nat.succ_le_succ_iff, ← checkElement room]
          simp [shorthand, elementShorthand, ofShorthand, Schema.Checked.map_eq_ok_iff,
            Schema.Checked.under_eq_ok_iff]
  | @constructed name arguments plainName nonempty _ checkArguments =>
      cases room with
      | zero =>
          simp only [ofShorthand_zero_ne, depth_constructed, false_iff]
          omega
      | succ room =>
          rw [shorthand_constructed _ nonempty, depth_constructed, Nat.succ_le_succ_iff,
            ← ofShorthands_iff (fun argument member => checkArguments argument member room) 0]
          simp only [ofShorthand, Schema.Checked.andThen_eq_ok_iff]
          constructor
          · rintro ⟨checked, passed, shaped⟩
            rw [checkShape_named plainName] at shaped
            cases shaped
            exact passed
          · intro passed
            exact ⟨arguments, passed, checkShape_named plainName .null arguments⟩

theorem check_text (content : String) :
    check (.text content) = ofText Limits.checkedDepth content :=
  rfl

/-- A reference to an array of several dimensions as the argument of a constructed type has a text
that is no shorthand at all. -/
theorem check_fullText_ne_ok_of_not_hidesCommas
    {reference : TypeRef}
    (plain : reference.Plain)
    (shown : reference.hidesCommas = false)
    (other : TypeRef) :
    check (.text reference.fullText) ≠ .ok other := by
  obtain ⟨fault, fails⟩ :=
    Shorthand.exists_fault_of_not_hidesCommas plain shown Limits.shorthandDepth
  rw [check_text, ofText, Shorthand.parse, fails]
  cases fault <;> simp [ShorthandFault.reason?, Schema.Checked.rejectRule, Schema.Checked.reject]

/-- The text of a reference made of plain names gives the reference back exactly when no argument
in it shows a comma and it is not deeper than what is checked. -/
theorem check_fullText_eq_ok_iff
    {reference : TypeRef}
    (plain : reference.Plain) :
    check (.text reference.fullText) = .ok reference ↔
      reference.hidesCommas = true ∧ reference.depth ≤ Limits.checkedDepth := by
  cases hidden : reference.hidesCommas with
  | false =>
      simpa using check_fullText_ne_ok_of_not_hidesCommas plain hidden reference
  | true =>
      rw [check_text, ofText, Shorthand.parse, ← ofShorthand_shorthand_iff plain]
      rcases Shorthand.readsWithin_fullText plain hidden Limits.shorthandDepth with
        passes | ⟨tooFew, fails⟩
      · rw [passes]
        simp
      · -- Where the calls do not suffice, there is no room for a check either.
        have tooDeep : ¬reference.depth ≤ Limits.checkedDepth := by
          simp only [Limits.shorthandDepth, Limits.checkedDepth] at tooFew ⊢
          omega
        rw [← ofShorthand_shorthand_iff plain] at tooDeep
        rw [fails]
        simp [ShorthandFault.reason?, tooDeep]

/-- Arguments of one dimension inside an array of two. -/
theorem check_fullText_of_table :
    let key : TypeRef := ⟨.array, "", some ⟨.named, "N.A", none, 1, []⟩, 1, []⟩
    let entry : TypeRef := ⟨.byReference, "", some ⟨.named, "B", none, 1, []⟩, 1, []⟩
    let table : TypeRef :=
      ⟨.array, "", some ⟨.named, "D", none, 1, [key, entry]⟩, 2, []⟩
    table.Plain ∧ table.fullText = "D<N.A[], B&>[,]" ∧ check (.text table.fullText) = .ok table := by
  intro key entry table
  have plain : table.Plain := by
    refine .array (.constructed (.of_all (by decide) (by decide)) (by simp) ?_) (by decide)
    intro argument member
    simp only [List.mem_cons, List.not_mem_nil, or_false] at member
    rcases member with rfl | rfl
    · exact .array (.named (.of_all (by decide) (by decide))) (by decide)
    · exact .byReference (.named (.of_all (by decide) (by decide)))
  exact ⟨plain, by decide, (check_fullText_eq_ok_iff plain).mpr ⟨by decide, by decide⟩⟩

/-- An array of two dimensions as an argument is not found again. -/
theorem check_fullText_of_matrix_argument :
    let reference : TypeRef :=
      ⟨.named, "L", none, 1, [⟨.array, "", some ⟨.named, "A", none, 1, []⟩, 2, []⟩]⟩
    reference.Plain ∧ reference.fullText = "L<A[,]>" ∧
      check (.text reference.fullText) ≠ .ok reference := by
  intro reference
  have plain : reference.Plain := by
    refine .constructed (.of_all (by decide) (by decide)) (by simp) ?_
    intro argument member
    simp only [List.mem_cons, List.not_mem_nil, or_false] at member
    subst member
    exact .array (.named (.of_all (by decide) (by decide))) (by decide)
  exact ⟨plain, by decide,
    check_fullText_ne_ok_of_not_hidesCommas plain (by decide) reference⟩

end TypeRef

end TypeCatalog
