import Mathlib.Data.List.Basic
import TypeCatalog.Answer.Listing
import TypeCatalog.Paging.Page
import TypeCatalog.Proofs.Paging.PageSize
import TypeCatalog.Proofs.Paging.TokenSpelling

namespace TypeCatalog

/-!
# Where a page ends

However the size target trims a page, it holds the rows from its offset on up to its end, at least
one if there is any, and its token resumes right after them while rows remain.
-/

namespace PageBuilder

private theorem items_tryAdd
    {builder : PageBuilder}
    {item : Value}
    (accepted : builder.accepts item = true) :
    (builder.tryAdd item).2.items = builder.items ++ [item] := by
  rw [tryAdd, if_pos accepted]

private theorem reduced_tryAdd
    {builder : PageBuilder}
    {item : Value}
    (accepted : builder.accepts item = true) :
    (builder.tryAdd item).2.reduced = builder.reduced := by
  rw [tryAdd, if_pos accepted]

private theorem items_tryAdd_of_turned_away
    {builder : PageBuilder}
    {item : Value}
    (turnedAway : ¬ builder.accepts item = true) :
    (builder.tryAdd item).2.items = builder.items := by
  rw [tryAdd, if_neg turnedAway]

private theorem accepts_of_isEmpty
    {builder : PageBuilder}
    (item : Value)
    (isEmpty : builder.items = []) :
    builder.accepts item = true := by
  simp [accepts, isEmpty]

/-- Filling a page adds the first few of the items, at least one to an empty page, and all of them
unless the next one is turned away. -/
theorem exists_taken_of_fill
    (builder : PageBuilder)
    (items : List Value) :
    ∃ taken,
      (builder.fill items).items = builder.items ++ items.take taken ∧
      taken ≤ items.length ∧
      (builder.items = [] → items ≠ [] → 0 < taken) ∧
      ((taken = items.length ∧ (builder.fill items).reduced = builder.reduced) ∨
        ∃ next,
          items[taken]? = some next ∧
          (builder.fill items).accepts next = false ∧
          (builder.fill items).reduced = true) := by
  induction items generalizing builder with
  | nil =>
      exact ⟨0, by simp [fill], Nat.le_refl _, fun _ someItem => absurd rfl someItem,
        .inl ⟨rfl, rfl⟩⟩
  | cons item rest inductionHypothesis =>
      by_cases accepted : builder.accepts item = true
      · obtain ⟨taken, filled, bound, _, ended⟩ := inductionHypothesis (builder.tryAdd item).2
        rw [fill, if_pos accepted]
        refine ⟨taken + 1, ?_, Nat.succ_le_succ bound, fun _ _ => Nat.succ_pos taken, ?_⟩
        · rw [filled, items_tryAdd accepted, List.take_succ_cons, List.append_assoc]
          rfl
        · rw [List.getElem?_cons_succ, List.length_cons, Nat.add_right_cancel_iff]
          exact ended.imp_left (And.imp_right fun same => same.trans (reduced_tryAdd accepted))
      · rw [fill, if_neg accepted]
        refine ⟨0, ?_, Nat.zero_le _, fun isEmpty _ => ?_, .inr ⟨item, rfl, ?_⟩⟩
        · rw [items_tryAdd_of_turned_away accepted]
          simp
        · exact absurd (accepts_of_isEmpty item isEmpty) accepted
        · rw [tryAdd, if_neg accepted]
          exact ⟨Bool.eq_false_iff.mpr accepted, rfl⟩

end PageBuilder

namespace Page

/-- A page that shows some rows from an offset on. -/
structure Shows
    (page : Page)
    (rows : List Value)
    (offset take : Nat)
    (salt : String) : Prop where
  total_eq : page.total = rows.length
  offset_eq : page.offset = offset
  items_eq : page.items = (rows.drop offset).take page.count
  count_pos : offset < rows.length → 0 < take → 0 < page.count
  nextToken_eq :
    page.nextToken? =
      if offset + page.count < rows.length then some ⟨(offset + page.count : Nat), salt⟩
      else none

theorem candidates_natCast
    {α : Type}
    (render : α → Value)
    (items : List α)
    (offset take : Nat) :
    candidates render items offset take = ((items.map render).drop offset).take take := by
  rw [candidates, ← Int.natCast_add, slice_natCast, List.map_take, List.map_drop]

/-- The page that is built at an offset shows the rendered items from there on. -/
theorem shows_build
    {α : Type}
    (render : α → Value)
    (items : List α)
    (offset take : Nat)
    (salt : String)
    (target : Int) :
    (build render items offset take salt target).Shows (items.map render) offset take salt := by
  obtain ⟨taken, filled, bound, someTaken, _⟩ :=
    (PageBuilder.empty target).exists_taken_of_fill (candidates render items offset take)
  have itemsAre :
      (build render items offset take salt target).items =
        (((items.map render).drop offset).take take).take taken := by
    rw [← candidates_natCast]
    exact filled
  rw [candidates_natCast] at bound someTaken
  have countIs : (build render items offset take salt target).count = taken := by
    rw [count, itemsAre, List.length_take, Nat.min_eq_left bound]
  have takenLe : taken ≤ take := by
    rw [List.length_take] at bound
    exact Nat.le_trans bound (Nat.min_le_left _ _)
  constructor
  · rw [List.length_map]
    rfl
  · rfl
  · rw [itemsAre, countIs, List.take_take, Nat.min_eq_left takenLe]
  · intro inside positive
    rw [countIs]
    refine someTaken rfl fun none => ?_
    have noLength := congrArg List.length none
    rw [List.length_take, List.length_drop, List.length_nil] at noLength
    omega
  · have lengthIs :
        ((PageBuilder.empty target).fill (candidates render items offset take)).items.length =
          taken :=
      countIs
    simp only [build, lengthIs, ← Int.natCast_add, Int.ofNat_lt]
    rw [List.length_map]
    exact congrArg
      (fun count => if offset + count < items.length then
        some (ContinuationToken.mk (offset + count : Nat) salt) else none) countIs.symm

/-- Rendering the items of a page one by one gives the page of the rendered items. -/
theorem build_eq_build_id
    {α : Type}
    (render : α → Value)
    (items : List α)
    (offset take : Nat)
    (salt : String)
    (target : Int) :
    build render items offset take salt target =
      build id (items.map render) offset take salt target := by
  have sameCandidates :
      candidates render items offset take = candidates id (items.map render) offset take := by
    rw [candidates_natCast, candidates_natCast, List.map_id]
  simp only [build, sameCandidates, List.length_map]

end Page

/-!
## The longest run that fits

A page holds as many rows as its size target and its limit allow.  It ends at its limit, at the end
of the rows, or in front of the first row that would bring it above the target; only then it is
reduced.  It has a token exactly if rows remain, and the token leads to the first of them.
-/

namespace Page

/-- A page that shows the longest run of rows that starts at an offset and fits. -/
structure IsLongestRun
    (page : Page)
    (rows : List Value)
    (offset take : Nat)
    (salt : String)
    (target : Int) : Prop where
  total_eq : page.total = rows.length
  offset_eq : page.offset = offset
  items_eq : page.items = (rows.drop offset).take page.count
  count_le : page.count ≤ take
  count_pos : offset < rows.length → 0 < page.count
  /-- The count is exact but for the two brackets of the list. -/
  measured_items : Json.measured (.list page.items) = .ok (page.usedChars + 2)
  within_target : page.count ≤ 1 ∨ page.usedChars ≤ target
  maximal :
    page.count = take ∨ rows.length ≤ offset + page.count ∨
      ∃ next size,
        rows[offset + page.count]? = some next ∧
        Json.measured (.list (page.items ++ [next])) = .ok (size + 2) ∧
        target < size
  reduced_iff : page.reduced = true ↔ page.count < take ∧ offset + page.count < rows.length
  token_of_reduced : page.reduced = true → page.nextToken?.isSome = true
  no_token_iff : page.nextToken? = none ↔ rows.length ≤ offset + page.count
  token_eq : ∀ token ∈ page.nextToken?, token = ⟨(offset + page.count : Nat), salt⟩
  /-- The token is read back as it was.  Only an offset with more digits than are converted would
  not be, and no list in memory has so many rows. -/
  token_read_back :
    ∀ token ∈ page.nextToken?, offset + page.count < Text.leastTooLong →
      ∃ text, token.encode = .ok text ∧ ContinuationToken.decode text = .token token

/-! ### The end of a page -/

/-- Where a page ends among the rows that it may take, and whether it is reduced. -/
structure EndsIn
    (page : Page)
    (candidates : List Value)
    (target : Int) : Prop where
  items_eq : page.items = candidates.take page.count
  count_le : page.count ≤ candidates.length
  ended :
    (page.count = candidates.length ∧ page.reduced = false) ∨
      ∃ next,
        candidates[page.count]? = some next ∧
        target < (Json.itemsLength (page.items ++ [next]) : Nat) ∧
        page.reduced = true

variable {α : Type}

/-- A page that is built ends behind the last candidate or in front of one that is too much. -/
theorem endsIn_build
    (render : α → Value)
    (items : List α)
    (offset take : Int)
    (salt : String)
    (target : Int) :
    (build render items offset take salt target).EndsIn
      (candidates render items offset take) target := by
  obtain ⟨taken, filled, bound, _, ended⟩ :=
    (PageBuilder.empty target).exists_taken_of_fill (candidates render items offset take)
  have accounts :=
    (PageBuilder.accounts_empty target).fill (candidates render items offset take)
  have sameTarget :=
    (PageBuilder.empty target).target_fill (candidates render items offset take)
  have itemsAre :
      (build render items offset take salt target).items =
        (candidates render items offset take).take taken :=
    filled
  have countIs : (build render items offset take salt target).count = taken := by
    rw [count, itemsAre, List.length_take, Nat.min_eq_left bound]
  refine ⟨by rw [countIs, itemsAre], countIs ▸ bound, ?_⟩
  rw [countIs]
  rcases ended with ⟨isAll, reduced⟩ | ⟨next, isNext, turnedAway, reduced⟩
  · exact .inl ⟨isAll, reduced⟩
  · refine .inr ⟨next, isNext, ?_, reduced⟩
    -- What is turned away does not fit behind the items that were counted before it.
    rw [PageBuilder.accepts, Bool.or_eq_false_iff, decide_eq_false_iff_not, accounts.used_eq,
      PageBuilder.cost, ← Json.itemsLength_append_singleton, Int.not_le, sameTarget]
      at turnedAway
    exact turnedAway.2

/-- A page is there unless an item that is measured for it cannot be written. -/
theorem measured_cases
    (render : α → Value)
    (items : List α)
    (offset take : Int)
    (salt : String)
    (target : Int) :
    (measured render items offset take salt target =
        .ok (build render items offset take salt target) ∧
      ∀ candidate ∈
          (candidates render items offset take).take
            ((build render items offset take salt target).count + 1),
        Json.unwritable? candidate = none) ∨
    ∃ crash,
      measured render items offset take salt target = .error crash ∧
      ∃ candidate ∈ candidates render items offset take,
        Json.unwritable? candidate = some crash := by
  cases fault :
      (build render items offset take salt target).measureFault?
        (candidates render items offset take) with
  | none =>
      exact .inl ⟨by simp only [measured, fault], List.findSome?_eq_none_iff.mp fault⟩
  | some crash =>
      obtain ⟨candidate, isMeasured, unwritable⟩ := List.exists_of_findSome?_eq_some fault
      exact .inr
        ⟨crash, by simp only [measured, fault], candidate, List.mem_of_mem_take isMeasured,
          unwritable⟩

/-! ### Pages of rows -/

section

variable {page : Page} {rows : List Value} {offset take : Nat} {salt : String} {target : Int}

/-- Among rows, a page that is reduced ends before its limit and before the last row. -/
private theorem EndsIn.reduced_iff
    (ends : page.EndsIn ((rows.drop offset).take take) target) :
    page.reduced = true ↔ page.count < take ∧ offset + page.count < rows.length := by
  have countLe := ends.count_le
  rcases ends.ended with ⟨isAll, reduced⟩ | ⟨next, isNext, _, reduced⟩
  · rw [List.length_take, List.length_drop] at isAll
    rw [reduced]
    simp only [Bool.false_eq_true, false_iff]
    omega
  · obtain ⟨inside, _⟩ := List.getElem?_eq_some_iff.mp isNext
    rw [List.length_take, List.length_drop] at inside
    rw [reduced]
    simp only [true_iff]
    omega

/-- What a page holds can be written together with the row that it ends in front of. -/
private theorem EndsIn.measured_append
    (ends : page.EndsIn ((rows.drop offset).take take) target)
    (writable :
      ∀ candidate ∈ ((rows.drop offset).take take).take (page.count + 1),
        Json.unwritable? candidate = none)
    {more : List Value}
    (fewMore : more.Sublist (((rows.drop offset).take take)[page.count]?.toList)) :
    Json.measured (.list (page.items ++ more)) =
      .ok (Json.itemsLength (page.items ++ more) + 2) := by
  rw [Json.measured_eq_ok_iff, Json.unwritable?_list_eq_none_iff]
  refine ⟨fun item member => writable item ?_, Json.measure_list _⟩
  rw [List.take_add_one, ← ends.items_eq]
  exact (fewMore.append_left page.items).subset member

private theorem EndsIn.maximal
    (ends : page.EndsIn ((rows.drop offset).take take) target)
    (writable :
      ∀ candidate ∈ ((rows.drop offset).take take).take (page.count + 1),
        Json.unwritable? candidate = none) :
    page.count = take ∨ rows.length ≤ offset + page.count ∨
      ∃ next size,
        rows[offset + page.count]? = some next ∧
        Json.measured (.list (page.items ++ [next])) = .ok (size + 2) ∧
        target < size := by
  rcases ends.ended with ⟨isAll, _⟩ | ⟨next, isNext, tooMuch, _⟩
  · rw [List.length_take, List.length_drop] at isAll
    omega
  · refine .inr (.inr ⟨next, _, ?_, ends.measured_append writable ?_, tooMuch⟩)
    · obtain ⟨inside, _⟩ := List.getElem?_eq_some_iff.mp isNext
      rw [List.length_take] at inside
      rw [List.getElem?_take_of_lt (by omega), List.getElem?_drop] at isNext
      exact isNext
    · rw [isNext]
      exact .refl [next]

/-- A page of rows whose measured rows can be written is the longest run that fits. -/
private theorem EndsIn.isLongestRun
    (ends : page.EndsIn ((rows.drop offset).take take) target)
    (shows : page.Shows rows offset take salt)
    (counted : page.usedChars = Json.itemsLength page.items)
    (within : page.count ≤ 1 ∨ page.usedChars ≤ target)
    (writable :
      ∀ candidate ∈ ((rows.drop offset).take take).take (page.count + 1),
        Json.unwritable? candidate = none)
    (positive : 0 < take)
    (readable : ContinuationToken.ReadableSalt salt) :
    page.IsLongestRun rows offset take salt target := by
  have tokenIs := shows.nextToken_eq
  have noToken : page.nextToken? = none ↔ rows.length ≤ offset + page.count := by
    rw [tokenIs]
    split <;> simp <;> omega
  have tokenEq : ∀ token ∈ page.nextToken?, token = ⟨(offset + page.count : Nat), salt⟩ := by
    intro token member
    rw [tokenIs] at member
    split at member
    · exact (Option.mem_some_iff.mp member).symm
    · cases member
  exact {
    total_eq := shows.total_eq
    offset_eq := shows.offset_eq
    items_eq := shows.items_eq
    count_le := by
      have countLe := ends.count_le
      rw [List.length_take] at countLe
      omega
    count_pos := fun inside => shows.count_pos inside positive
    measured_items := by
      have appended := ends.measured_append writable (List.nil_sublist _)
      rwa [List.append_nil, ← counted] at appended
    within_target := within
    maximal := ends.maximal writable
    reduced_iff := ends.reduced_iff
    token_of_reduced := by
      intro reduced
      rw [Option.isSome_iff_ne_none, Ne, noToken, Nat.not_le]
      exact (ends.reduced_iff.mp reduced).2
    no_token_iff := noToken
    token_eq := tokenEq
    token_read_back := by
      intro token member short
      rw [tokenEq token member]
      exact ContinuationToken.exists_encode_eq_ok short readable }

end

/-- A page is the longest run of rendered items that starts at its offset and fits, unless an item
that is measured for it cannot be written. -/
theorem isLongestRun_or_unwritable
    (render : α → Value)
    (items : List α)
    (offset : Nat)
    {take : Nat}
    {salt : String}
    (target : Int)
    (positive : 0 < take)
    (readable : ContinuationToken.ReadableSalt salt) :
    (∃ page,
      measured render items offset take salt target = .ok page ∧
      page.IsLongestRun (items.map render) offset take salt target) ∨
    ∃ crash,
      measured render items offset take salt target = .error crash ∧
      ∃ row ∈ ((items.map render).drop offset).take take, Json.unwritable? row = some crash := by
  have ends := endsIn_build render items offset take salt target
  rcases measured_cases render items offset take salt target with ⟨cut, writable⟩ | unwritable
  · rw [candidates_natCast] at ends writable
    exact .inl ⟨_, cut, ends.isLongestRun (shows_build render items offset take salt target)
      (usedChars_build target) (count_le_one_or_usedChars_le target) writable positive readable⟩
  · rw [candidates_natCast] at unwritable
    exact .inr unwritable

/-- Of three truth values the second would bring the page to ten characters, so the page is reduced
to the first. -/
theorem isLongestRun_of_truths :
    0 < 3 ∧ ContinuationToken.ReadableSalt "x" ∧
      ∃ page,
        measured Value.bool [true, false, true] (0 : Nat) (3 : Nat) "x" 9 = .ok page ∧
        page.IsLongestRun [.bool true, .bool false, .bool true] 0 3 "x" 9 ∧
        page.reduced = true := by
  refine ⟨by decide, ContinuationToken.readableSalt_x, ?_⟩
  rcases isLongestRun_or_unwritable Value.bool [true, false, true] 0 9 (by decide : 0 < 3)
    ContinuationToken.readableSalt_x with ⟨page, cut, isLongest⟩ | ⟨crash, _, row, member, unwritable⟩
  · refine ⟨page, cut, isLongest, ?_⟩
    have isPage : page = ⟨[.bool true], 3, 0, some ⟨1, "x"⟩, true, 4⟩ :=
      Except.ok.inj (cut.symm.trans rfl)
    rw [isPage]
  · have isTruth : row = .bool true ∨ row = .bool false ∨ row = .bool true := by
      simpa using member
    rcases isTruth with rfl | rfl | rfl <;> cases unwritable

end Page

/-- The pages of listings are cut in this way. -/
theorem Answer.pageOf_eq_measured
    {α : Type}
    (render : α → Value)
    (items : List α)
    (position : PagePosition) :
    pageOf render items position =
      (Page.measured render items position.offset position.take position.salt
        Limits.pageTarget).mapError .crashed := by
  unfold pageOf Page.measured
  generalize Page.build render items position.offset position.take position.salt
    Limits.pageTarget = page
  cases fault :
      page.measureFault? (Page.candidates render items position.offset position.take) with
  | none => simp only [fault]; rfl
  | some crash => simp only [fault]; rfl

end TypeCatalog
