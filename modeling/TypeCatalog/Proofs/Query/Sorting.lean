import Mathlib.Data.List.Nodup
import Mathlib.Data.List.Perm.Basic
import Mathlib.Data.Prod.Lex
import Mathlib.Data.String.Basic
import TypeCatalog.Answer.Listing
import TypeCatalog.Text.Order

namespace TypeCatalog

/-!
# Sorting in another order

Sorting a permuted list gives a list that differs from the sorted one only where elements tie.  So
it shows the same wherever elements that tie are shown alike, and it is the same where none tie.
-/

namespace Text

theorem atMost_trans
    (first second third : String)
    (firstAtMost : atMost first second = true)
    (secondAtMost : atMost second third = true) :
    atMost first third = true :=
  decide_eq_true (le_trans (of_decide_eq_true firstAtMost) (of_decide_eq_true secondAtMost))

theorem atMost_total (first second : String) :
    (atMost first second || atMost second first) = true := by
  rcases le_total first second with atMostSecond | atMostFirst
  · simp [atMost, atMostSecond]
  · simp [atMost, atMostFirst]

theorem atMost_antisymm
    {first second : String}
    (firstAtMost : atMost first second = true)
    (secondAtMost : atMost second first = true) :
    first = second :=
  le_antisymm (of_decide_eq_true firstAtMost) (of_decide_eq_true secondAtMost)

/-- Sorted texts do not depend on the order before. -/
theorem mergeSort_eq_of_perm
    {first second : List String}
    (perm : first.Perm second) :
    first.mergeSort atMost = second.mergeSort atMost := by
  have sameTexts : (first.mergeSort atMost).Perm (second.mergeSort atMost) :=
    (List.mergeSort_perm first _).trans (perm.trans (List.mergeSort_perm second _).symm)
  exact sameTexts.eq_of_pairwise (fun _ _ _ _ => atMost_antisymm)
    (List.pairwise_mergeSort atMost_trans atMost_total first)
    (List.pairwise_mergeSort atMost_trans atMost_total second)

end Text

namespace Sorting

variable {α β : Type}

/-- Comparing by one key first and by others where it ties is comparing lexicographically. -/
theorem ite_lt_iff
    {κ : Type}
    [LinearOrder κ]
    (one other : κ)
    (further : Bool) :
    (if one < other then true else if other < one then false else further) = true ↔
      one < other ∨ one = other ∧ further = true := by
  rcases lt_trichotomy one other with less | rfl | greater
  · simp [less]
  · simp
  · simp [greater, greater.not_gt, greater.ne']

/-- Two sorted lists of the same elements show the same if elements that tie are shown alike. -/
theorem map_eq_of_perm
    {le : α → α → Prop}
    {shows : α → β}
    {first second : List α}
    (perm : first.Perm second)
    (firstSorted : first.Pairwise le)
    (secondSorted : second.Pairwise le)
    (tiesAlike : ∀ one ∈ first, ∀ other ∈ first, le one other → le other one →
      shows one = shows other) :
    first.map shows = second.map shows := by
  induction first generalizing second with
  | nil =>
      rw [List.nil_perm.mp perm]
  | cons least rest inductionHypothesis =>
      obtain ⟨leastFirst, restSorted⟩ := List.pairwise_cons.mp firstSorted
      obtain ⟨before, after, rfl⟩ := List.append_of_mem (perm.mem_iff.mp List.mem_cons_self)
      have restPerm : rest.Perm (before ++ after) :=
        (perm.trans List.perm_middle).cons_inv
      -- What stands before the least element in the other list ties with it.
      have beforeAlike : ∀ other ∈ before, shows other = shows least := by
        intro other member
        have inRest : other ∈ rest :=
          restPerm.mem_iff.mpr (List.mem_append_left after member)
        have atMostLeast : le other least :=
          (List.pairwise_append.mp secondSorted).2.2 other member least List.mem_cons_self
        exact tiesAlike other (List.mem_cons_of_mem least inRest) least List.mem_cons_self
          atMostLeast (leastFirst other inRest)
      have shownAsFirst :
          (before ++ least :: after).map shows = shows least :: (before ++ after).map shows := by
        have allAlike : before.map shows = List.replicate before.length (shows least) :=
          List.map_eq_replicate_iff.mpr beforeAlike
        rw [List.map_append, List.map_append, List.map_cons, allAlike, ← List.cons_append,
          ← List.replicate_succ, List.replicate_succ', List.append_assoc]
        rfl
      have othersSorted : (before ++ after).Pairwise le :=
        secondSorted.sublist
          ((List.Sublist.refl before).append (List.sublist_cons_self least after))
      rw [shownAsFirst, List.map_cons,
        inductionHypothesis restPerm restSorted othersSorted fun one oneInRest other otherInRest =>
          tiesAlike one (List.mem_cons_of_mem least oneInRest) other
            (List.mem_cons_of_mem least otherInRest)]

/-- Sorting a permuted list shows the same if elements that tie are shown alike. -/
theorem map_mergeSort_eq_of_perm
    {le : α → α → Bool}
    {shows : α → β}
    {first second : List α}
    (transitive : ∀ one two three, le one two = true → le two three = true → le one three = true)
    (total : ∀ one other, (le one other || le other one) = true)
    (perm : first.Perm second)
    (tiesAlike : ∀ one ∈ first, ∀ other ∈ first, le one other = true → le other one = true →
      shows one = shows other) :
    (first.mergeSort le).map shows = (second.mergeSort le).map shows := by
  have sameElements : (first.mergeSort le).Perm (second.mergeSort le) :=
    (List.mergeSort_perm first le).trans (perm.trans (List.mergeSort_perm second le).symm)
  refine map_eq_of_perm sameElements (List.pairwise_mergeSort transitive total first)
    (List.pairwise_mergeSort transitive total second) ?_
  intro one oneMember other otherMember
  exact tiesAlike one (List.mem_mergeSort.mp oneMember) other (List.mem_mergeSort.mp otherMember)

/-- Sorting a permuted list by a rank that no two elements share gives the same list. -/
theorem mergeSort_eq_of_perm
    {κ : Type}
    [LinearOrder κ]
    {rank : α → κ}
    {le : α → α → Bool}
    {first second : List α}
    (ranks : ∀ one other, le one other = true ↔ rank one ≤ rank other)
    (perm : first.Perm second)
    (distinct : (first.map rank).Nodup) :
    first.mergeSort le = second.mergeSort le := by
  have shownSame :
      (first.mergeSort le).map id = (second.mergeSort le).map id := by
    apply map_mergeSort_eq_of_perm _ _ perm
    · intro one oneMember other otherMember oneAtMost otherAtMost
      rw [ranks] at oneAtMost otherAtMost
      exact List.inj_on_of_nodup_map distinct oneMember otherMember
        (le_antisymm oneAtMost otherAtMost)
    · intro one two three oneAtMost twoAtMost
      rw [ranks] at oneAtMost twoAtMost ⊢
      exact le_trans oneAtMost twoAtMost
    · intro one other
      rw [Bool.or_eq_true, ranks, ranks]
      exact le_total _ _
  rwa [List.map_id, List.map_id] at shownSame

/-- The first result in a list does not depend on its order if all results are the same. -/
theorem findSome?_eq_of_perm
    {f : α → Option β}
    {first second : List α}
    (perm : first.Perm second)
    (alike : ∀ one ∈ first, ∀ other ∈ first, ∀ result another,
      f one = some result → f other = some another → result = another) :
    first.findSome? f = second.findSome? f := by
  cases found : first.findSome? f with
  | none =>
      rw [List.findSome?_eq_none_iff] at found
      exact (List.findSome?_eq_none_iff.mpr fun one member =>
        found one (perm.mem_iff.mpr member)).symm
  | some result =>
      obtain ⟨one, member, isResult⟩ := List.exists_of_findSome?_eq_some found
      cases foundThere : second.findSome? f with
      | none =>
          rw [List.findSome?_eq_none_iff] at foundThere
          rw [foundThere one (perm.mem_iff.mp member)] at isResult
          cases isResult
      | some another =>
          obtain ⟨other, otherMember, isAnother⟩ := List.exists_of_findSome?_eq_some foundThere
          rw [alike one member other (perm.mem_iff.mpr otherMember) result another isResult
            isAnother]

/-- In another order the first result in a list is the same, or there are several. -/
theorem findSome?_eq_or_exists_of_perm
    (f : α → Option β)
    {first second : List α}
    (perm : first.Perm second) :
    first.findSome? f = second.findSome? f ∨
      ∃ result another,
        result ≠ another ∧
          first.findSome? f = some result ∧ second.findSome? f = some another := by
  by_cases alike : first.findSome? f = second.findSome? f
  · exact .inl alike
  · right
    have noneSame : first.findSome? f = none ↔ second.findSome? f = none := by
      simp only [List.findSome?_eq_none_iff, perm.mem_iff]
    cases found : first.findSome? f with
    | none =>
        exact absurd (found.trans (noneSame.mp found).symm) alike
    | some result =>
        cases foundThere : second.findSome? f with
        | none =>
            exact absurd ((noneSame.mpr foundThere).trans foundThere.symm) alike
        | some another =>
            refine ⟨result, another, ?_, rfl, rfl⟩
            rintro rfl
            exact alike (found.trans foundThere.symm)

end Sorting

/-!
## Arranging descriptors in another order

A listing sorts its descriptors by the key that breaks ties before it sorts them by the key that is
asked for.  Where no two descriptors share the first key, the order before does not matter.
-/

namespace Text.RankKey

/-- A key as what it is compared by, one part after the other. -/
def parts (key : RankKey) : Int ×ₗ String ×ₗ String :=
  toLex (key.rank, toLex (key.first, key.second))

theorem parts_injective : Function.Injective parts := by
  intro one other same
  obtain ⟨sameRank, sameTexts⟩ := Prod.mk.inj (toLex.injective same)
  obtain ⟨sameFirst, sameSecond⟩ := Prod.mk.inj (toLex.injective sameTexts)
  cases one
  cases other
  cases sameRank
  cases sameFirst
  cases sameSecond
  rfl

theorem atMost_iff
    (one other : RankKey) :
    one.atMost other = true ↔ one.parts ≤ other.parts := by
  simp only [atMost, parts, Prod.Lex.toLex_le_toLex, Text.atMost, Sorting.ite_lt_iff,
    decide_eq_true_eq]

end Text.RankKey

namespace Listing

variable {α : Type} [Listed α]

/-- The key that breaks ties puts descriptors in one order, whatever order they had before. -/
theorem sortByTie_eq_of_perm
    {first second : List α}
    (perm : first.Perm second)
    (distinct : (first.map Listed.tieKey).Nodup) :
    sortByTie first = sortByTie second := by
  have partsDistinct : (first.map fun item => (Listed.tieKey item).parts).Nodup := by
    have mapped := distinct.map Text.RankKey.parts_injective
    rwa [List.map_map] at mapped
  exact
    Sorting.mergeSort_eq_of_perm
      (fun one other => Text.RankKey.atMost_iff (Listed.tieKey one) (Listed.tieKey other)) perm
      partsDistinct

theorem sortItems_eq_of_perm
    {first second : List α}
    (perm : first.Perm second)
    (distinct : (first.map Listed.tieKey).Nodup)
    (key : SortKey)
    (order : SortOrder)
    (supported : List SortKey) :
    sortItems key order supported first = sortItems key order supported second := by
  simp only [sortItems, perm.any_eq, sortByTie_eq_of_perm perm distinct]

theorem filterItems_sublist
    (nameContains? attributeContains? : Option String)
    (caseSensitive : Bool)
    (items : List α) :
    (filterItems nameContains? attributeContains? caseSensitive items).Sublist items :=
  List.filter_sublist.trans List.filter_sublist

end Listing

/-- Descriptors no two of which share the key that breaks ties are arranged alike from every order.
-/
theorem Answer.arrange_eq_of_perm
    {α : Type}
    [Listed α]
    {first second : List α}
    (perm : first.Perm second)
    (distinct : (first.map Listed.tieKey).Nodup)
    (options : FilterOptions)
    (supported : List SortKey) :
    arrange options supported first = arrange options supported second := by
  apply Listing.sortItems_eq_of_perm
  · exact (perm.filter _).filter _
  · exact distinct.sublist ((Listing.filterItems_sublist _ _ _ first).map _)

end TypeCatalog
