import TypeCatalog.Json.Printer
import TypeCatalog.Paging.Budget
import TypeCatalog.Paging.Token

namespace TypeCatalog

/-!
# Pages

A page is a run of items of a sorted result: it starts at an offset, holds at most so many items and
ends early when it reaches its size target.  Its token resumes right after it.
-/

/-- The place in a list that an index means; a negative one is counted from the end. -/
def placeOf
    (length : Nat)
    (index : Int) : Nat :=
  if index < 0 then (index + length).toNat else index.toNat

/-- The items between two indices. -/
def slice
    {α : Type}
    (items : List α)
    (start stop : Int) : List α :=
  (items.take (placeOf items.length stop)).drop (placeOf items.length start)

theorem placeOf_natCast (length index : Nat) : placeOf length index = index := by
  simp [placeOf, show ¬ (index : Int) < 0 by omega]

theorem slice_natCast
    {α : Type}
    (items : List α)
    (offset take : Nat) :
    slice items offset (offset + take : Nat) = (items.drop offset).take take := by
  rw [slice, placeOf_natCast, placeOf_natCast, List.take_drop]

/-- A page of a result. -/
structure Page where
  items : List Value
  total : Nat
  offset : Int
  nextToken? : Option ContinuationToken
  reduced : Bool
  usedChars : Nat
deriving Repr

namespace Page

/-- The number of items on the page. -/
def count (page : Page) : Nat :=
  page.items.length

/-- The items that a page may take, rendered. -/
def candidates
    {α : Type}
    (render : α → Value)
    (items : List α)
    (offset take : Int) : List Value :=
  (slice items offset (offset + take)).map render

/-- The page of a result that starts at an offset.  Items are rendered one by one. -/
def build
    {α : Type}
    (render : α → Value)
    (items : List α)
    (offset take : Int)
    (salt : String)
    (target : Int) : Page :=
  let builder := (PageBuilder.empty target).fill (candidates render items offset take)
  let end_ := offset + builder.items.length
  ⟨builder.items,
    items.length,
    offset,
    if end_ < items.length then some ⟨end_, salt⟩ else none,
    builder.reduced,
    builder.used⟩

/-- Why the items of a page cannot be measured.  The items are measured up to the first one that is
turned away. -/
def measureFault?
    (page : Page)
    (candidates : List Value) : Option Crash :=
  (candidates.take (page.count + 1)).findSome? Json.unwritable?

/-- The page of a result that starts at an offset, unless an item that is measured for it cannot be
written. -/
def measured
    {α : Type}
    (render : α → Value)
    (items : List α)
    (offset take : Int)
    (salt : String)
    (target : Int) : Except Crash Page :=
  let page := build render items offset take salt target
  match page.measureFault? (candidates render items offset take) with
  | some crash => .error crash
  | none => .ok page

end Page

/-- Advice on paging. -/
structure PagingAdvice where
  hasMore : Bool
  currentPageChars : Int
  estimatedTotalChars : Int
  advised : Bool
  recommendedPageSize : Int
deriving Repr, DecidableEq

namespace PagingAdvice

/-- Estimates the size of the whole result from one page.  When it is above the threshold, half as
many items are recommended, but not fewer than the least size. -/
def forPage
    (total count currentPageChars : Int)
    (hasMore : Bool)
    (threshold : Int) : PagingAdvice :=
  let estimated := if count > 0 then Int.fdiv currentPageChars count * total else 0
  let advised := decide (estimated > threshold)
  let least : Int := Limits.leastRecommendedPage
  let recommended :=
    if advised && decide (count > least) then max least (Int.fdiv count 2) else count
  ⟨hasMore, currentPageChars, estimated, advised, recommended⟩

/-- Advice as a value. -/
def toValue (advice : PagingAdvice) : Value :=
  .record
    [("has_more", .bool advice.hasMore), ("current_page_chars", .int advice.currentPageChars),
      ("estimated_total_chars", .int advice.estimatedTotalChars),
      ("pagination_advised", .bool advice.advised),
      ("recommended_page_size", .int advice.recommendedPageSize)]

end PagingAdvice

namespace Page

/-- The advice that goes with a page. -/
def advice (page : Page) : PagingAdvice :=
  .forPage page.total page.count page.usedChars page.nextToken?.isSome Limits.pageTarget

/-- The fields of a page in an answer. -/
def toFields (page : Page) : List (String × Value) :=
  [("total", .ofNat page.total), ("count", .ofNat page.count), ("offset", .int page.offset),
    ("next_token", .ofText? (page.nextToken?.map ContinuationToken.text)),
    ("reduced", .bool page.reduced), ("items", .list page.items),
    ("pagination", page.advice.toValue)]

end Page

end TypeCatalog
