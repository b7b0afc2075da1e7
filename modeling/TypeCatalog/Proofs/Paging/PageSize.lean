import TypeCatalog.Paging.Budget
import TypeCatalog.Paging.Page
import TypeCatalog.Proofs.Json.Length

namespace TypeCatalog

/-!
# What a page counts

While a page is filled it counts the characters of its items.  The count is exact: it is the length
of the items as they are written, commas included.  Only a page of a single item can be above its
target.
-/

/-- A page that counts its items exactly and keeps to its target, a single item apart. -/
structure PageBuilder.Accounts (builder : PageBuilder) : Prop where
  used_eq : builder.used = Json.itemsLength builder.items
  within : builder.items.length ≤ 1 ∨ (builder.used : Int) ≤ builder.target

namespace PageBuilder

theorem accounts_empty (target : Int) : (empty target).Accounts :=
  ⟨rfl, .inl (Nat.zero_le 1)⟩

theorem target_tryAdd
    (builder : PageBuilder)
    (item : Value) :
    (builder.tryAdd item).2.target = builder.target := by
  unfold tryAdd
  split <;> rfl

/-- An item is counted with the comma before it, and only the first one may miss the target. -/
theorem Accounts.tryAdd
    {builder : PageBuilder}
    (accounts : builder.Accounts)
    (item : Value) :
    (builder.tryAdd item).2.Accounts := by
  unfold PageBuilder.tryAdd
  split
  · next accepted =>
      constructor
      · change builder.used + builder.cost item = _
        rw [Json.itemsLength_append_singleton, accounts.used_eq, cost]
      · simp only [accepts, Bool.or_eq_true, decide_eq_true_eq] at accepted
        rcases accepted with isFirst | fits
        · left
          rw [List.isEmpty_iff.mp isFirst]
          exact Nat.le_refl 1
        · exact .inr fits
  · exact ⟨accounts.used_eq, accounts.within⟩

theorem Accounts.fill
    {builder : PageBuilder}
    (accounts : builder.Accounts)
    (items : List Value) :
    (builder.fill items).Accounts := by
  induction items generalizing builder with
  | nil =>
      exact accounts
  | cons item rest inductionHypothesis =>
      unfold PageBuilder.fill
      split
      · exact inductionHypothesis (accounts.tryAdd item)
      · exact accounts.tryAdd item

theorem target_fill
    (builder : PageBuilder)
    (items : List Value) :
    (builder.fill items).target = builder.target := by
  induction items generalizing builder with
  | nil =>
      rfl
  | cons item rest inductionHypothesis =>
      unfold fill
      split
      · rw [inductionHypothesis, target_tryAdd]
      · exact target_tryAdd builder item

end PageBuilder

namespace Page

variable {α : Type} {render : α → Value} {items : List α} {offset take : Int} {salt : String}

/-- A page counts the characters of its items as they are written. -/
theorem usedChars_build
    (target : Int) :
    (build render items offset take salt target).usedChars =
      Json.itemsLength (build render items offset take salt target).items :=
  ((PageBuilder.accounts_empty target).fill (candidates render items offset take)).used_eq

/-- Only a page of a single item is above its target. -/
theorem count_le_one_or_usedChars_le (target : Int) :
    (build render items offset take salt target).count ≤ 1 ∨
      (build render items offset take salt target).usedChars ≤ target := by
  have within :=
    ((PageBuilder.accounts_empty target).fill (candidates render items offset take)).within
  rw [PageBuilder.target_fill] at within
  exact within

/-- A page whose items are each within the target is within the target. -/
theorem usedChars_build_le
    {target : Nat}
    (small :
      ∀ item ∈ (build render items offset take salt target).items, Json.measure item ≤ target) :
    (build render items offset take salt target).usedChars ≤ target := by
  rcases count_le_one_or_usedChars_le (target : Int) with single | within
  · -- The first item is taken whatever its size, so the bound on it is needed here.
    rw [usedChars_build]
    rw [count] at single
    generalize (build render items offset take salt target).items = shown at single small ⊢
    cases shown with
    | nil =>
        exact Nat.zero_le target
    | cons item rest =>
        have onlyOne : rest = [] := by
          simpa using single
        have itemSmall := small item List.mem_cons_self
        rw [onlyOne, Json.itemsLength]
        simpa using itemSmall
  · exact Int.ofNat_le.mp within

end Page

/-!
## Items offered to a page one by one

A page may be offered further items after it has turned one away: a smaller one may still fit.
Whatever it is offered, the page holds the accepted items in their order and counts exactly the
characters of their list.
-/

namespace PageBuilder

/-- Whether a page accepts an item, and the page afterwards. -/
def afterOffer
    (page : PageBuilder)
    (item : Value) : Except Crash Bool × PageBuilder :=
  match page.offer item with
  | .error crash => (.error crash, page)
  | .ok (accepted, offered) => (.ok accepted, offered)

/-- Whether a page accepts items that it is offered one after the other, and the page afterwards. -/
def afterOffers
    (page : PageBuilder) : List Value → List (Except Crash Bool) × PageBuilder
  | [] => ([], page)
  | item :: rest =>
    let first := page.afterOffer item
    let others := first.2.afterOffers rest
    (first.1 :: others.1, others.2)

/-- An offered item, if it was accepted. -/
def accepted? : Value × Except Crash Bool → Option Value
  | (item, .ok true) => some item
  | _ => none

/-- The items that were accepted, in the order in which they were offered. -/
def acceptedAmong
    (candidates : List Value)
    (outcomes : List (Except Crash Bool)) : List Value :=
  (candidates.zip outcomes).filterMap accepted?

/-- What a page with a target is after it was offered items with some outcomes. -/
structure Offered
    (target : Nat)
    (candidates : List Value)
    (outcomes : List (Except Crash Bool))
    (page : PageBuilder) : Prop where
  target_eq : page.target = target
  /-- An offer fails exactly if the item cannot be written. -/
  outcome_of_each :
    List.Forall₂
      (fun candidate outcome =>
        ∀ crash, outcome = .error crash ↔ Json.unwritable? candidate = some crash)
      candidates outcomes
  items_eq : page.items = acceptedAmong candidates outcomes
  in_order : page.items.Sublist candidates
  /-- The count is exact but for the two brackets of the list. -/
  measured_items : Json.measured (.list page.items) = .ok (page.used + 2)
  within_target : page.used ≤ target ∨ page.items.length = 1
  reduced_iff : page.reduced = true ↔ .ok false ∈ outcomes
  first_accepted :
    outcomes.head? = candidates.head?.map fun first => (Json.measured first).map fun _ => true
  /-- An item is turned away only if what was accepted before it leaves too little room. -/
  turned_away :
    ∀ earlier item later,
      candidates = earlier ++ item :: later →
      outcomes[earlier.length]? = some (.ok false) →
      acceptedAmong earlier outcomes ≠ [] ∧
        ∃ size,
          Json.measured (.list (acceptedAmong earlier outcomes ++ [item])) = .ok (size + 2) ∧
          target < size

theorem offered_empty (target : Nat) : Offered target [] [] (empty target) where
  target_eq := rfl
  outcome_of_each := .nil
  items_eq := rfl
  in_order := .slnil
  measured_items := rfl
  within_target := .inl (Nat.zero_le target)
  reduced_iff := by simp [empty]
  first_accepted := rfl
  turned_away := by simp

/-! ### One offer -/

/-- An offer fails and leaves the page as it is, or puts the item onto the page, or notes that the
item was turned away. -/
theorem afterOffer_cases
    (page : PageBuilder)
    (item : Value) :
    (∃ crash, Json.unwritable? item = some crash ∧ page.afterOffer item = (.error crash, page)) ∨
    (Json.unwritable? item = none ∧ page.accepts item = true ∧
      page.afterOffer item =
        (.ok true,
          { page with items := page.items ++ [item], used := page.used + page.cost item })) ∨
    (Json.unwritable? item = none ∧ page.accepts item = false ∧
      page.afterOffer item = (.ok false, { page with reduced := true })) := by
  unfold afterOffer offer Json.measured
  cases writable : Json.unwritable? item with
  | some crash =>
      exact .inl ⟨crash, rfl, rfl⟩
  | none =>
      cases accepts : page.accepts item with
      | true => exact .inr (.inl ⟨rfl, rfl, by simp [Except.map, tryAdd, accepts]⟩)
      | false => exact .inr (.inr ⟨rfl, rfl, by simp [Except.map, tryAdd, accepts]⟩)

section

variable {target : Nat} {candidates : List Value} {outcomes : List (Except Crash Bool)}
variable {page : PageBuilder} {item : Value}

/-- Later outcomes say nothing about earlier items. -/
private theorem acceptedAmong_append
    {earlier : List Value}
    (shorter : earlier.length ≤ outcomes.length)
    (more : List (Except Crash Bool)) :
    acceptedAmong earlier (outcomes ++ more) = acceptedAmong earlier outcomes := by
  have sameZip : earlier.zip (outcomes ++ more) = earlier.zip outcomes := by
    have longEnough : (outcomes ++ more).take earlier.length = outcomes.take earlier.length :=
      List.take_append_of_le_length shorter
    rw [List.zip_eq_zip_take_min, @List.zip_eq_zip_take_min _ _ earlier outcomes,
      List.length_append, Nat.min_eq_left shorter, Nat.min_eq_left (by omega), longEnough]
  rw [acceptedAmong, acceptedAmong, sameZip]

/-- One more candidate stands last, with its outcome. -/
private theorem Offered.items_append
    (offered : Offered target candidates outcomes page)
    (outcome : Except Crash Bool) :
    acceptedAmong (candidates ++ [item]) (outcomes ++ [outcome]) =
      page.items ++ (accepted? (item, outcome)).toList := by
  rw [acceptedAmong, List.zip_append offered.outcome_of_each.length_eq, List.filterMap_append,
    ← acceptedAmong, ← offered.items_eq, List.zip_cons_cons, List.zip_nil_left,
    List.filterMap_cons]
  cases accepted? (item, outcome) <;> rfl

private theorem Offered.outcome_append
    (offered : Offered target candidates outcomes page)
    {outcome : Except Crash Bool}
    (outcomeIs : ∀ crash, outcome = .error crash ↔ Json.unwritable? item = some crash) :
    List.Forall₂
      (fun candidate outcome =>
        ∀ crash, outcome = .error crash ↔ Json.unwritable? candidate = some crash)
      (candidates ++ [item]) (outcomes ++ [outcome]) :=
  List.rel_append offered.outcome_of_each (.cons outcomeIs .nil)

/-- The first outcome stays the first; a page that was offered nothing accepts what has a size. -/
private theorem Offered.first_append
    (offered : Offered target candidates outcomes page)
    {outcome : Except Crash Bool}
    (outcomeIs : page.items = [] → outcome = (Json.measured item).map fun _ => true) :
    (outcomes ++ [outcome]).head? =
      (candidates ++ [item]).head?.map fun first => (Json.measured first).map fun _ => true := by
  have sameLength := offered.outcome_of_each.length_eq
  cases candidates with
  | nil =>
      have noOutcome : outcomes = [] :=
        List.eq_nil_of_length_eq_zero sameLength.symm
      have noItem : page.items = [] := by
        rw [offered.items_eq, noOutcome]
        rfl
      rw [noOutcome, outcomeIs noItem]
      rfl
  | cons first rest =>
      obtain ⟨outcome, others, rfl⟩ :=
        List.exists_cons_of_length_eq_add_one sameLength.symm
      exact offered.first_accepted

/-- Earlier items were turned away for want of room, so only the last one is left to look at. -/
private theorem Offered.turned_away_append
    (offered : Offered target candidates outcomes page)
    {outcome : Except Crash Bool}
    (outcomeIs :
      outcome = .ok false →
        page.items ≠ [] ∧
          ∃ size, Json.measured (.list (page.items ++ [item])) = .ok (size + 2) ∧ target < size) :
    ∀ earlier other later,
      candidates ++ [item] = earlier ++ other :: later →
      (outcomes ++ [outcome])[earlier.length]? = some (.ok false) →
      acceptedAmong earlier (outcomes ++ [outcome]) ≠ [] ∧
        ∃ size,
          Json.measured (.list (acceptedAmong earlier (outcomes ++ [outcome]) ++ [other])) =
            .ok (size + 2) ∧
          target < size := by
  intro earlier other later isSplit turnedAway
  have sameLength := offered.outcome_of_each.length_eq
  rcases List.eq_nil_or_concat' later with rfl | ⟨rest, last, rfl⟩
  · obtain ⟨rfl, isItem⟩ := List.append_inj' isSplit rfl
    rw [sameLength, List.getElem?_concat_length] at turnedAway
    rw [acceptedAmong_append (Nat.le_of_eq sameLength), ← offered.items_eq,
      ← List.singleton_inj.mp isItem]
    exact outcomeIs (Option.some.inj turnedAway)
  · rw [← List.cons_append, ← List.append_assoc] at isSplit
    obtain ⟨rfl, _⟩ := List.append_inj' isSplit rfl
    have earlierShorter : earlier.length < outcomes.length := by
      rw [← sameLength, List.length_append, List.length_cons]
      omega
    rw [List.getElem?_append_left earlierShorter] at turnedAway
    rw [acceptedAmong_append (Nat.le_of_lt earlierShorter)]
    exact offered.turned_away earlier other rest rfl turnedAway

/-- What a page is after its offers it is after one offer more. -/
theorem Offered.afterOffer
    (offered : Offered target candidates outcomes page)
    (item : Value) :
    Offered target (candidates ++ [item]) (outcomes ++ [(page.afterOffer item).1])
      (page.afterOffer item).2 := by
  rcases afterOffer_cases page item with
    ⟨crash, unwritable, after⟩ | ⟨writable, accepts, after⟩ | ⟨writable, accepts, after⟩
  · -- The offer fails.
    rw [after]
    exact {
      target_eq := offered.target_eq
      outcome_of_each := offered.outcome_append (by simp [unwritable])
      items_eq := by simp [offered.items_append, accepted?]
      in_order := offered.in_order.trans (List.sublist_append_left _ _)
      measured_items := offered.measured_items
      within_target := offered.within_target
      reduced_iff := by simp [offered.reduced_iff]
      first_accepted := offered.first_append (by simp [Json.measured, unwritable, Except.map])
      turned_away := offered.turned_away_append (by simp) }
  · -- The item is accepted.
    rw [after]
    exact {
      target_eq := offered.target_eq
      outcome_of_each := offered.outcome_append (by simp [writable])
      items_eq := by simp [offered.items_append, accepted?]
      in_order := offered.in_order.append (.refl [item])
      measured_items := by
        have appended := Json.measured_list_append_singleton offered.measured_items writable
        simpa only [cost, Nat.add_right_comm] using appended
      within_target := by
        simp only [PageBuilder.accepts, Bool.or_eq_true, decide_eq_true_eq, List.isEmpty_iff,
          offered.target_eq, Int.ofNat_le] at accepts
        exact accepts.symm.imp id fun isFirst => by simp [isFirst]
      reduced_iff := by simp [offered.reduced_iff]
      first_accepted := offered.first_append (by simp [Json.measured, writable, Except.map])
      turned_away := offered.turned_away_append (by simp) }
  · -- The item is turned away, so it is not the first that can be written and does not fit.
    have someItem : page.items ≠ [] := by
      intro isEmpty
      simp [PageBuilder.accepts, isEmpty] at accepts
    have appended := Json.measured_list_append_singleton offered.measured_items writable
    rw [Nat.add_right_comm, ← cost] at appended
    have tooMuch : target < page.used + page.cost item := by
      simp only [PageBuilder.accepts, Bool.or_eq_false_iff, decide_eq_false_iff_not,
        offered.target_eq, Int.ofNat_le, Nat.not_le] at accepts
      exact accepts.2
    rw [after]
    exact {
      target_eq := offered.target_eq
      outcome_of_each := offered.outcome_append (by simp [writable])
      items_eq := by simp [offered.items_append, accepted?]
      in_order := offered.in_order.trans (List.sublist_append_left _ _)
      measured_items := offered.measured_items
      within_target := offered.within_target
      reduced_iff := by simp
      first_accepted := offered.first_append fun isEmpty => absurd isEmpty someItem
      turned_away := offered.turned_away_append fun _ => ⟨someItem, _, appended, tooMuch⟩ }

/-! ### Any number of offers -/

theorem Offered.afterOffers
    (offered : Offered target candidates outcomes page)
    (items : List Value) :
    Offered target (candidates ++ items) (outcomes ++ (page.afterOffers items).1)
      (page.afterOffers items).2 := by
  induction items generalizing candidates outcomes page with
  | nil =>
      simpa only [PageBuilder.afterOffers, List.append_nil] using offered
  | cons item rest inductionHypothesis =>
      have further := inductionHypothesis (offered.afterOffer item)
      simpa only [PageBuilder.afterOffers, List.append_assoc, List.singleton_append] using further

end

/-- Whatever a new page is offered, it holds the accepted items in their order and counts exactly
the characters of their list; it is within its target or holds a single item; it accepts the first
candidate, if that can be written, and turns none away that would fit. -/
theorem offered_afterOffers
    (target : Nat)
    (candidates : List Value) :
    Offered target candidates ((empty target).afterOffers candidates).1
      ((empty target).afterOffers candidates).2 :=
  (offered_empty target).afterOffers candidates

/-- A page goes on taking what fits after it has turned something away. -/
example :
    ((empty 9).afterOffers [.null, .list [.null, .null], .null]) =
      ([.ok true, .ok false, .ok true], ⟨9, [.null, .null], 9, true⟩) :=
  rfl

end PageBuilder

end TypeCatalog
