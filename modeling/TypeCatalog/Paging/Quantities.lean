import TypeCatalog.Paging.Page
import TypeCatalog.Report.Maker

namespace TypeCatalog

/-!
# Sizes from outside

A caller may ask for advice on paging, or for a maximum to be kept, with quantities of any kind.
Of whole numbers the advice is the same as for a page.
-/

/-- Refuses a size above a maximum. -/
def enforceMaximum
    (actual : Nat)
    (maximum : Value) : Except Failure Unit :=
  match Quantity.ofValue maximum with
  | .error crash => .error (.crashed crash)
  | .ok limit =>
    if limit.below (.whole actual) then
      match ErrorMaker.tooLarge (.ofNat actual) maximum with
      | .error crash => .error (.crashed crash)
      | .ok error => .error (.reported error)
    else
      .ok ()

/-- Whether a size on a page stays within a target. -/
def isWithin
    (target : Quantity)
    (size : Nat) : Bool :=
  !target.below (.whole size)

/-- The greatest whole target that lets through the same sizes, none of which is above a bound. -/
def wholeTarget
    (target : Quantity)
    (bound : Nat) : Int :=
  match target with
  | .whole number => number
  | target =>
    match target.ratio? with
    | some (numerator, denominator) => numerator.fdiv denominator
    | none => if isWithin target bound then bound else -1

namespace PagingAdvice

/-- The estimated size of the whole result. -/
def estimate (total count currentPageChars : Value) : Except Crash Quantity := do
  let size ← Quantity.ofValue count
  if (Quantity.whole 0).below size then
    let average ← (← Quantity.ofValue currentPageChars).floorDivide size
    average.times (← Quantity.ofValue total)
  else
    return .whole 0

/-- The number of items that is recommended instead of too many. -/
def reducedCount (count : Quantity) : Except Crash Value := do
  let half ← count.floorDivide (.whole 2)
  if (Quantity.whole Limits.leastRecommendedPage).below half then
    return half.toValue
  else
    return .ofNat Limits.leastRecommendedPage

/-- Advice on quantities, as a value.  What is not computed is handed back as it was given. -/
def ofValues
    (total count currentPageChars hasMore threshold : Value) : Except Crash Value := do
  let estimated ← estimate total count currentPageChars
  let advised := (← Quantity.ofValue threshold).below estimated
  let size ← Quantity.ofValue count
  let recommended ←
    if advised && (Quantity.whole Limits.leastRecommendedPage).below size then
      reducedCount size
    else
      pure count
  return .record
    [("has_more", hasMore), ("current_page_chars", currentPageChars),
      ("estimated_total_chars", estimated.toValue), ("pagination_advised", .bool advised),
      ("recommended_page_size", recommended)]

end PagingAdvice

end TypeCatalog
