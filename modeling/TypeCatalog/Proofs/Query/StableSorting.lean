import Mathlib.Data.List.Basic
import TypeCatalog.Proofs.Query.Sorting

namespace TypeCatalog

/-!
# Stable sorting

Sorting keeps elements that tie in the order they had.  A listing sorts by the key that breaks ties
before it sorts by the key that is asked for, so descriptors with equal sort values stand in the
order of the first key whichever way the others run, and the order before does not show.
-/

namespace Sorting

variable {α : Type} {le : α → α → Bool}

/-- Sorting puts an element behind those that it is not at most, and before all others. -/
theorem mergeSort_cons_eq
    (transitive : ∀ one two three, le one two = true → le two three = true → le one three = true)
    (total : ∀ one other, (le one other || le other one) = true)
    (first : α)
    (rest : List α) :
    (first :: rest).mergeSort le =
      (rest.mergeSort le).filter (fun other => !le first other) ++
        first :: (rest.mergeSort le).filter (le first) := by
  obtain ⟨before, after, whole, others, beforeFirst⟩ :=
    List.mergeSort_cons transitive total first rest
  have sorted := List.pairwise_mergeSort transitive total (first :: rest)
  rw [whole, List.pairwise_append, List.pairwise_cons] at sorted
  obtain ⟨_, ⟨afterFirst, _⟩, _⟩ := sorted
  have beforeKept : before.filter (fun other => !le first other) = before :=
    List.filter_eq_self.mpr beforeFirst
  have afterDropped : after.filter (fun other => !le first other) = [] :=
    List.filter_eq_nil_iff.mpr fun other member => by
      simp [afterFirst other member]
  have beforeDropped : before.filter (le first) = [] :=
    List.filter_eq_nil_iff.mpr fun other member => by
      simpa using beforeFirst other member
  have afterKept : after.filter (le first) = after :=
    List.filter_eq_self.mpr afterFirst
  rw [whole, others, List.filter_append, List.filter_append, beforeKept, afterDropped,
    beforeDropped, afterKept, List.append_nil, List.nil_append]

/-- Sorting and then keeping some elements is keeping them and then sorting. -/
theorem filter_mergeSort
    (transitive : ∀ one two three, le one two = true → le two three = true → le one three = true)
    (total : ∀ one other, (le one other || le other one) = true)
    (keeps : α → Bool)
    (items : List α) :
    (items.mergeSort le).filter keeps = (items.filter keeps).mergeSort le := by
  induction items with
  | nil =>
      simp
  | cons first rest inductionHypothesis =>
      by_cases kept : keeps first = true
      · rw [mergeSort_cons_eq transitive total, List.filter_append, List.filter_cons_of_pos kept,
          List.filter_comm, List.filter_comm keeps (le first), inductionHypothesis,
          List.filter_cons_of_pos kept, mergeSort_cons_eq transitive total]
      · obtain ⟨before, after, whole, others, _⟩ :=
          List.mergeSort_cons transitive total first rest
        rw [whole, List.filter_append, List.filter_cons_of_neg kept, ← List.filter_append,
          ← others, inductionHypothesis, List.filter_cons_of_neg kept]

/-- Sorting moves elements that tie no further apart than to put others between them: what holds of
any two of them in the order before holds in the order after. -/
theorem pairwise_mergeSort_of_ties
    {holds : α → α → Prop}
    {items : List α}
    (transitive : ∀ one two three, le one two = true → le two three = true → le one three = true)
    (total : ∀ one other, (le one other || le other one) = true)
    (before : items.Pairwise holds) :
    (items.mergeSort le).Pairwise fun one other =>
      le one other = true → le other one = true → holds one other := by
  rw [List.pairwise_iff_forall_sublist]
  intro one other inSorted oneAtMost otherAtMost
  let ties (element : α) : Bool := le one element && le element one
  have oneTies : ties one = true := by
    simpa [ties] using total one one
  have otherTies : ties other = true := by
    simp [ties, oneAtMost, otherAtMost]
  have tiesAtMost : (items.filter ties).Pairwise fun first second => le first second = true := by
    refine List.pairwise_of_forall_mem_list fun first firstMember second secondMember => ?_
    have firstTies := (List.mem_filter.mp firstMember).2
    have secondTies := (List.mem_filter.mp secondMember).2
    simp only [ties, Bool.and_eq_true] at firstTies secondTies
    exact transitive first one second firstTies.2 secondTies.1
  -- The elements that tie with the first one stand in the sorted list as they stood before.
  have sameTies : (items.mergeSort le).filter ties = items.filter ties := by
    rw [filter_mergeSort transitive total, List.mergeSort_of_pairwise tiesAtMost]
  have bothTie : [one, other].filter ties = [one, other] := by
    simp [oneTies, otherTies]
  have inTies : [one, other].Sublist (items.filter ties) := by
    rw [← sameTies, ← bothTie]
    exact inSorted.filter ties
  exact List.pairwise_iff_forall_sublist.mp before (inTies.trans List.filter_sublist)

end Sorting

theorem SortValue.atMost_trans
    (first second third : SortValue)
    (firstAtMost : first.atMost second = true)
    (secondAtMost : second.atMost third = true) :
    first.atMost third = true := by
  cases first with
  | text one =>
      cases second with
      | text two =>
          cases third with
          | text three =>
              exact Text.atMost_trans one two three firstAtMost secondAtMost
          | number three =>
              cases secondAtMost
      | number two =>
          cases firstAtMost
  | number one =>
      cases second with
      | text two =>
          cases third with
          | text three =>
              rfl
          | number three =>
              cases secondAtMost
      | number two =>
          cases third with
          | text three =>
              rfl
          | number three =>
              exact decide_eq_true
                (Int.le_trans (of_decide_eq_true firstAtMost) (of_decide_eq_true secondAtMost))

theorem SortValue.atMost_total (first second : SortValue) :
    (first.atMost second || second.atMost first) = true := by
  cases first with
  | text one =>
      cases second with
      | text two =>
          exact Text.atMost_total one two
      | number two =>
          rfl
  | number one =>
      cases second with
      | text two =>
          rfl
      | number two =>
          rcases Int.le_total one two with atMostTwo | atMostOne
          · simp [atMost, atMostTwo]
          · simp [atMost, atMostOne]

namespace Text.RankKey

theorem atMost_trans
    {first second third : RankKey}
    (firstAtMost : first.atMost second = true)
    (secondAtMost : second.atMost third = true) :
    first.atMost third = true := by
  rw [atMost_iff] at firstAtMost secondAtMost ⊢
  exact le_trans firstAtMost secondAtMost

theorem atMost_total (first second : RankKey) :
    (first.atMost second || second.atMost first) = true := by
  rw [Bool.or_eq_true, atMost_iff, atMost_iff]
  exact le_total _ _

end Text.RankKey

namespace Listing

variable {α : Type} [Listed α]

theorem inOrder_trans
    (key : SortKey)
    (order : SortOrder)
    (first second third : α)
    (firstBefore : inOrder key order first second = true)
    (secondBefore : inOrder key order second third = true) :
    inOrder key order first third = true := by
  cases order with
  | ascending =>
      exact SortValue.atMost_trans _ _ _ firstBefore secondBefore
  | descending =>
      exact SortValue.atMost_trans _ _ _ secondBefore firstBefore

theorem inOrder_total
    (key : SortKey)
    (order : SortOrder)
    (first second : α) :
    (inOrder key order first second || inOrder key order second first) = true := by
  cases order with
  | ascending =>
      exact SortValue.atMost_total _ _
  | descending =>
      exact SortValue.atMost_total _ _

/-- Equal sort values are in order in both directions. -/
theorem inOrder_of_sortValue_eq
    {key : SortKey}
    {first second : α}
    (order : SortOrder)
    (same : sortValue key first = sortValue key second) :
    inOrder key order first second = true := by
  have reflexive : (sortValue key second).atMost (sortValue key second) = true := by
    simpa using SortValue.atMost_total (sortValue key second) (sortValue key second)
  cases order with
  | ascending => rwa [inOrder, same]
  | descending => rwa [inOrder, same]

/-- The key that breaks ties orders what is kept as it orders everything. -/
theorem sortByTie_filter
    (keeps : α → Bool)
    (items : List α) :
    sortByTie (items.filter keeps) = (sortByTie items).filter keeps := by
  symm
  apply Sorting.filter_mergeSort
  · exact fun _ _ _ => Text.RankKey.atMost_trans
  · exact fun _ _ => Text.RankKey.atMost_total _ _

theorem pairwise_sortByTie (items : List α) :
    (sortByTie items).Pairwise fun first second =>
      (Listed.tieKey first).parts ≤ (Listed.tieKey second).parts := by
  simp only [← Text.RankKey.atMost_iff]
  apply List.pairwise_mergeSort
  · exact fun _ _ _ => Text.RankKey.atMost_trans
  · exact fun _ _ => Text.RankKey.atMost_total _ _

/-- What is kept of a list is sorted as it stands in the sorted list. -/
theorem sortItems_filter
    {key : SortKey}
    {order : SortOrder}
    {supported : List SortKey}
    {items sorted : List α}
    (isSorted : sortItems key order supported items = .ok sorted)
    (keeps : α → Bool) :
    sortItems key order supported (items.filter keeps) = .ok (sorted.filter keeps) := by
  unfold sortItems at isSorted ⊢
  split at isSorted
  · cases isSorted
  · next keySupported =>
      split at isSorted
      · cases isSorted
      · next allValued =>
          cases isSorted
          have keptValued :
              ¬((items.filter keeps).any fun item =>
                (Listed.sortValue? key item).isNone) = true := by
            intro someMissing
            obtain ⟨item, member, missing⟩ := List.any_eq_true.mp someMissing
            exact allValued
              (List.any_eq_true.mpr ⟨item, List.mem_of_mem_filter member, missing⟩)
          rw [if_neg keySupported, if_neg keptValued, sortByTie_filter,
            Sorting.filter_mergeSort (inOrder_trans key order) (inOrder_total key order)]

end Listing

/-!
## What sorting by a key gives

A key that a listing has gives every descriptor a value, and all values of one key are texts or all
are numbers.
-/

/-- A sort value that does not come after another: texts are compared by their code points and
numbers by their size.  A text and a number are in no order. -/
inductive SortValue.NotAfter : SortValue → SortValue → Prop where
  | text
    {first second : String}
    (atMost : first ≤ second) :
    NotAfter (.text first) (.text second)
  | number
    {first second : Int}
    (atMost : first ≤ second) :
    NotAfter (.number first) (.number second)

theorem SortValue.NotAfter.antisymm
    {first second : SortValue}
    (firstNotAfter : first.NotAfter second)
    (secondNotAfter : second.NotAfter first) :
    first = second := by
  cases firstNotAfter with
  | text atMost =>
      cases secondNotAfter with
      | text atLeast => exact congrArg SortValue.text (le_antisymm atMost atLeast)
  | number atMost =>
      cases secondNotAfter with
      | number atLeast => exact congrArg SortValue.number (le_antisymm atMost atLeast)

namespace Listing

variable {α : Type} [Listed α]

/-- A key by which all descriptors have a value of one form. -/
inductive Keyed (α : Type) [Listed α] (key : SortKey) : Prop where
  | byText
    (content : α → String)
    (values : ∀ item : α, Listed.sortValue? key item = some (.text (content item)))
  | byNumber
    (rank : α → Int)
    (values : ∀ item : α, Listed.sortValue? key item = some (.number (rank item)))

theorem Keyed.sortValue?_eq
    {key : SortKey}
    (keyed : Keyed α key)
    (item : α) :
    Listed.sortValue? key item = some (sortValue key item) := by
  cases keyed with
  | byText content values => rw [sortValue, values, Option.getD_some]
  | byNumber rank values => rw [sortValue, values, Option.getD_some]

theorem Keyed.notAfter_of_atMost
    {key : SortKey}
    {first second : α}
    (keyed : Keyed α key)
    (atMost : (sortValue key first).atMost (sortValue key second) = true) :
    (sortValue key first).NotAfter (sortValue key second) := by
  cases keyed with
  | byText content values =>
      simp only [sortValue, values, Option.getD_some] at atMost ⊢
      exact .text (of_decide_eq_true atMost)
  | byNumber rank values =>
      simp only [sortValue, values, Option.getD_some] at atMost ⊢
      exact .number (of_decide_eq_true atMost)

/-- Whether the sort values of two descriptors may follow one another in a direction. -/
def ValuesInOrder
    (key : SortKey)
    (order : SortOrder)
    (first second : α) : Prop :=
  match order with
  | .ascending => (sortValue key first).NotAfter (sortValue key second)
  | .descending => (sortValue key second).NotAfter (sortValue key first)

/-- Whether the keys that break ties are in order where two sort values are equal.  The direction
of sorting does not matter to them. -/
def TiesInOrder
    (key : SortKey)
    (first second : α) : Prop :=
  sortValue key first = sortValue key second →
    (Listed.tieKey first).parts ≤ (Listed.tieKey second).parts

/-- What decides where a descriptor stands in a sorted list. -/
def rank
    (key : SortKey)
    (item : α) : SortValue × Text.RankKey :=
  (sortValue key item, Listed.tieKey item)

/-- A list that is sorted by a key in a direction, with a value for every descriptor. -/
structure Sorts
    (key : SortKey)
    (order : SortOrder)
    (items sorted : List α) : Prop where
  perm : sorted.Perm items
  values_present : ∀ item ∈ sorted, (Listed.sortValue? key item).isSome = true
  values_inOrder : sorted.Pairwise (ValuesInOrder key order)
  ties_inOrder : sorted.Pairwise (TiesInOrder key)

/-- Descriptors that may stand on either side of one another have the same rank. -/
theorem rank_eq_of_inOrder
    {key : SortKey}
    {order : SortOrder}
    {first second : α}
    (forth : ValuesInOrder key order first second ∧ TiesInOrder key first second)
    (back : ValuesInOrder key order second first ∧ TiesInOrder key second first) :
    rank key first = rank key second := by
  have sameValue : sortValue key first = sortValue key second := by
    cases order with
    | ascending => exact forth.1.antisymm back.1
    | descending => exact back.1.antisymm forth.1
  have sameTie : Listed.tieKey first = Listed.tieKey second :=
    Text.RankKey.parts_injective (le_antisymm (forth.2 sameValue) (back.2 sameValue.symm))
  rw [rank, rank, sameValue, sameTie]

/-- Two sorted lists of the same descriptors show the same ranks, one after the other. -/
theorem Sorts.map_rank_eq
    {key : SortKey}
    {order : SortOrder}
    {items permuted sorted again : List α}
    (sorts : Sorts key order items sorted)
    (sortsAgain : Sorts key order permuted again)
    (perm : permuted.Perm items) :
    again.map (rank key) = sorted.map (rank key) :=
  Sorting.map_eq_of_perm (sortsAgain.perm.trans (perm.trans sorts.perm.symm))
    (sortsAgain.values_inOrder.and sortsAgain.ties_inOrder)
    (sorts.values_inOrder.and sorts.ties_inOrder)
    fun _ _ _ _ forth back => rank_eq_of_inOrder forth back

/-- Descriptors no two of which tie are in one order only. -/
theorem Sorts.eq
    {key : SortKey}
    {order : SortOrder}
    {items permuted sorted again : List α}
    (sorts : Sorts key order items sorted)
    (sortsAgain : Sorts key order permuted again)
    (perm : permuted.Perm items)
    (distinct : (items.map Listed.tieKey).Nodup) :
    again = sorted := by
  have againDistinct : (again.map Listed.tieKey).Nodup :=
    ((sortsAgain.perm.trans perm).map Listed.tieKey).nodup_iff.mpr distinct
  have shownSame : again.map id = sorted.map id := by
    refine Sorting.map_eq_of_perm (sortsAgain.perm.trans (perm.trans sorts.perm.symm))
      (sortsAgain.values_inOrder.and sortsAgain.ties_inOrder)
      (sorts.values_inOrder.and sorts.ties_inOrder) ?_
    intro one oneMember other otherMember forth back
    have sameTie : Listed.tieKey one = Listed.tieKey other :=
      congrArg Prod.snd (rank_eq_of_inOrder forth back)
    exact List.inj_on_of_nodup_map againDistinct oneMember otherMember sameTie
  rwa [List.map_id, List.map_id] at shownSame

/-- Sorting by a key that a listing has succeeds, and the direction turns the values round but not
the ties. -/
theorem exists_sorts_of_keyed
    {key : SortKey}
    {supported : List SortKey}
    (keyed : Keyed α key)
    (isSupported : key ∈ supported)
    (order : SortOrder)
    (items : List α) :
    ∃ sorted, sortItems key order supported items = .ok sorted ∧ Sorts key order items sorted := by
  have contained : (!supported.contains key) = false := by
    simpa using isSupported
  have noneMissing : (items.any fun item => (Listed.sortValue? key item).isNone) = false := by
    simp [keyed.sortValue?_eq]
  have transitive := inOrder_trans (α := α) key order
  have total := inOrder_total (α := α) key order
  refine ⟨_, by rw [sortItems, contained, noneMissing]; rfl, ?_, ?_, ?_, ?_⟩
  · exact (List.mergeSort_perm _ _).trans (List.mergeSort_perm _ _)
  · intro item _
    rw [keyed.sortValue?_eq, Option.isSome_some]
  · refine (List.pairwise_mergeSort transitive total _).imp fun {first second} before => ?_
    cases order with
    | ascending => exact keyed.notAfter_of_atMost before
    | descending => exact keyed.notAfter_of_atMost before
  · refine
      (Sorting.pairwise_mergeSort_of_ties transitive total (pairwise_sortByTie items)).imp ?_
    intro first second inTieOrder same
    exact inTieOrder (inOrder_of_sortValue_eq order same) (inOrder_of_sortValue_eq order same.symm)

/-- Descriptors are sorted in one order, which their sort values and the keys that break ties
decide, whatever order they had before. -/
def ArrangesStably
    (key : SortKey)
    (order : SortOrder)
    (supported : List SortKey)
    (items : List α) : Prop :=
  ∃ sorted,
    sortItems key order supported items = .ok sorted ∧
      Sorts key order items sorted ∧
      ∀ permuted : List α, permuted.Perm items →
        ∃ again,
          sortItems key order supported permuted = .ok again ∧
            again.map (rank key) = sorted.map (rank key) ∧
            ((items.map Listed.tieKey).Nodup → again = sorted)

theorem Keyed.arrangesStably
    {key : SortKey}
    {supported : List SortKey}
    (keyed : Keyed α key)
    (isSupported : key ∈ supported)
    (order : SortOrder)
    (items : List α) :
    ArrangesStably key order supported items := by
  obtain ⟨sorted, isSorted, sorts⟩ := exists_sorts_of_keyed keyed isSupported order items
  refine ⟨sorted, isSorted, sorts, fun permuted perm => ?_⟩
  obtain ⟨again, isAgain, sortsAgain⟩ := exists_sorts_of_keyed keyed isSupported order permuted
  exact ⟨again, isAgain, sorts.map_rank_eq sortsAgain perm, sorts.eq sortsAgain perm⟩

theorem keyed_member
    {key : SortKey}
    (isSupported : key ∈ SortKey.forMembers) :
    Keyed MemberDescriptor key := by
  cases key with
  | name | kind | accessibility | signature => exact .byText _ fun _ => rfl
  | declaration => exact .byNumber _ fun _ => rfl
  | fullName | namespaceName => simp [SortKey.forMembers] at isSupported

theorem keyed_type
    {key : SortKey}
    (isSupported : key ∈ SortKey.forTypes) :
    Keyed TypeDescriptor key := by
  cases key with
  | name | fullName | namespaceName | kind | accessibility => exact .byText _ fun _ => rfl
  | declaration => exact .byNumber _ fun _ => rfl
  | signature => simp [SortKey.forTypes] at isSupported

/-- Members and types are sorted by every key that their listings have, in both directions: nothing
is lost or added, the sort values run in the direction that is asked for, those that are equal
follow the key that breaks ties whatever the direction, and the order before decides nothing but
which of two descriptors that agree in both comes first. -/
theorem sortItems_arranges_stably :
    (∀ key ∈ SortKey.forMembers, ∀ (order : SortOrder) (members : List MemberDescriptor),
      ArrangesStably key order SortKey.forMembers members) ∧
    ∀ key ∈ SortKey.forTypes, ∀ (order : SortOrder) (types : List TypeDescriptor),
      ArrangesStably key order SortKey.forTypes types :=
  ⟨fun _ isSupported order members =>
      (keyed_member isSupported).arrangesStably isSupported order members,
    fun _ isSupported order types =>
      (keyed_type isSupported).arrangesStably isSupported order types⟩

/-- An event with a name, declared at a position. -/
private def eventAt
    (name : String)
    (position : Int) : MemberDescriptor :=
  ⟨.event none none, name, "X", .public, "event X " ++ name, "T", position, false, false, false,
    false, false, [], none⟩

/-- Two events of one name stand behind a third one in the descending order of names, but the first
of them that is declared still comes first. -/
theorem sortItems_arranges_events_stably :
    SortKey.name ∈ SortKey.forMembers ∧
      ArrangesStably .name .descending SortKey.forMembers
        [eventAt "A" 2, eventAt "B" 3, eventAt "A" 1] ∧
      sortItems .name .descending SortKey.forMembers
          [eventAt "A" 2, eventAt "B" 3, eventAt "A" 1] =
        .ok [eventAt "B" 3, eventAt "A" 1, eventAt "A" 2] := by
  have isSupported : SortKey.name ∈ SortKey.forMembers := by
    decide
  have arranges :=
    sortItems_arranges_stably.1 .name isSupported .descending
      [eventAt "A" 2, eventAt "B" 3, eventAt "A" 1]
  have value (name : String) (position : Int) :
      sortValue .name (eventAt name position) = .text name :=
    rfl
  have tie
      {first second : Int}
      (earlier : first < second) :
      TiesInOrder .name (eventAt "A" first) (eventAt "A" second) := fun _ =>
    Prod.Lex.left _ _ earlier
  have apart (first second : Int) : TiesInOrder .name (eventAt "B" first) (eventAt "A" second) := by
    intro same
    simp [value] at same
  have aBeforeB : "A" ≤ "B" := by
    decide
  have expected :
      Sorts .name .descending [eventAt "A" 2, eventAt "B" 3, eventAt "A" 1]
        [eventAt "B" 3, eventAt "A" 1, eventAt "A" 2] := by
    refine ⟨@List.perm_append_comm _ [eventAt "B" 3, eventAt "A" 1] [eventAt "A" 2], ?_, ?_, ?_⟩
    · intro item _
      rfl
    · simp [ValuesInOrder, value, SortValue.NotAfter.text, aBeforeB]
    · simp [apart, tie]
  have ⟨sorted, isSorted, sorts, _⟩ := arranges
  refine ⟨isSupported, arranges, ?_⟩
  rw [isSorted, expected.eq sorts (List.Perm.refl _) ?_]
  simp [Listed.tieKey, eventAt]

end Listing

end TypeCatalog
