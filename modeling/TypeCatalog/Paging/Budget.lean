import TypeCatalog.Json.Printer
import TypeCatalog.Limits
import TypeCatalog.Report.Error

namespace TypeCatalog

/-!
# Size budget

The size of an answer is the number of characters of its compact text.  A page is filled item by
item and stops before the first item that would bring it above its target; an answer above the
ceiling is refused as a whole.
-/

/-- A page that is being filled. -/
structure PageBuilder where
  target : Int
  items : List Value
  used : Nat
  reduced : Bool
deriving Repr

namespace PageBuilder

/-- A page without items. -/
def empty (target : Int) : PageBuilder :=
  ⟨target, [], 0, false⟩

/-- The size of an item on the page; every item but the first has a comma before it. -/
def cost
    (builder : PageBuilder)
    (item : Value) : Nat :=
  Json.measure item + (if builder.items.isEmpty then 0 else 1)

/-- Whether an item may go onto the page.  The first one always may. -/
def accepts
    (builder : PageBuilder)
    (item : Value) : Bool :=
  builder.items.isEmpty || decide ((builder.used + builder.cost item : Nat) ≤ builder.target)

/-- Puts an item onto the page, or notes that one was turned away. -/
def tryAdd
    (builder : PageBuilder)
    (item : Value) : Bool × PageBuilder :=
  if builder.accepts item then
    (true,
      { builder with
        items := builder.items ++ [item]
        used := builder.used + builder.cost item })
  else
    (false, { builder with reduced := true })

/-- Measures an item and puts it onto the page, or notes that it was turned away.  An item that
cannot be written has no size, and the page stays as it is. -/
def offer
    (builder : PageBuilder)
    (item : Value) : Except Crash (Bool × PageBuilder) :=
  (Json.measured item).map fun _ => builder.tryAdd item

/-- Puts items onto the page up to the first one that is turned away. -/
def fill
    (builder : PageBuilder) : List Value → PageBuilder
  | [] => builder
  | item :: rest =>
    if builder.accepts item then fill (builder.tryAdd item).2 rest else (builder.tryAdd item).2

end PageBuilder

/-- Accepts a size that is not above a maximum. -/
def enforceCeiling (actual maximum : Int) : Except ReportedError Unit :=
  if actual > maximum then .error (.responseTooLarge actual maximum) else .ok ()

end TypeCatalog
