import TypeCatalog.Number.Binary64
import TypeCatalog.Text.Written
import TypeCatalog.Value.Timestamp

namespace TypeCatalog

/-!
# Values

A value is what a structured document, a configuration file or the arguments of a call hold
before they are checked, and what an answer is made of.  A mapping keeps its entries in the order
in which their keys were first set, and a set its members.

A document may let a container stand inside itself.  Its value then holds the container once more,
marked as standing there again, and inside that an empty one for all further turns.
-/

/-- The key of a mapping. -/
inductive Key where
  | null
  | bool (truth : Bool)
  | int (number : Int)
  | float (number : Binary64)
  | text (content : String)
  | unpaired (points : List Nat)
  | bytes (octets : List Nat)
  | timestamp (time : Timestamp)
deriving Repr, DecidableEq

/-- A value. -/
inductive Value where
  | null
  | bool (truth : Bool)
  | int (number : Int)
  | float (number : Binary64)
  | text (content : String)
  | unpaired (points : List Nat)
  | bytes (octets : List Nat)
  | timestamp (time : Timestamp)
  | pair (first second : Value)
  | list (items : List Value)
  | set (members : List Key)
  | map (entries : List (Key × Value))
  | again (container : Value)
deriving Repr

instance : Inhabited Value := ⟨.null⟩

namespace Key

/-- A key with numbers that are equal brought to one form: truth values and whole doubles become
integers. -/
def normalized : Key → Key
  | .bool truth => .int (if truth then 1 else 0)
  | .float number =>
    match number.toInt? with
    | some whole => .int whole
    | none => .float number
  | key => key

/-- Whether two keys name the same entry. -/
def same (first second : Key) : Bool :=
  match first, second with
  | .timestamp left, .timestamp right => left.same right
  | _, _ => first.normalized = second.normalized

/-- Whether a key is a whole number with too many digits to be written. -/
def hasLongNumber : Key → Bool
  | .int number => Text.isTooLong number
  | _ => false

/-- A text as a key. -/
def ofWritten : Text.Written → Key
  | .whole content => .text content
  | .unpaired points => .unpaired points

/-- The key as a value. -/
def toValue : Key → Value
  | .null => .null
  | .bool truth => .bool truth
  | .int number => .int number
  | .float number => .float number
  | .text content => .text content
  | .unpaired points => .unpaired points
  | .bytes octets => .bytes octets
  | .timestamp time => .timestamp time

/-- Sets an entry: an existing key keeps its place and its form, a new one goes to the end. -/
def insert
    {α : Type}
    (entries : List (Key × α))
    (key : Key)
    (value : α) : List (Key × α) :=
  if entries.any fun entry => entry.1.same key then
    entries.map fun entry => if entry.1.same key then (entry.1, value) else entry
  else
    entries ++ [(key, value)]

end Key

namespace Value

/-- A text as a value. -/
def ofWritten : Text.Written → Value
  | .whole content => .text content
  | .unpaired points => .unpaired points

/-- The value that stands under a name in a list of entries. -/
def lookup?
    (entries : List (Key × Value))
    (name : String) : Option Value :=
  (entries.find? fun entry => entry.1 == Key.text name).map Prod.snd

/-- Sets an entry of a mapping. -/
def insert
    (entries : List (Key × Value))
    (key : Key)
    (value : Value) : List (Key × Value) :=
  Key.insert entries key value

/-- Sets entries one after the other. -/
def insertAll
    (entries added : List (Key × Value)) : List (Key × Value) :=
  added.foldl (fun entries entry => insert entries entry.1 entry.2) entries

/-- The entries that a list of keys and values leaves, a later one for the same key winning. -/
def collect (entries : List (Key × Value)) : List (Key × Value) :=
  insertAll [] entries

/-- A mapping with names as keys. -/
def record (fields : List (String × Value)) : Value :=
  .map (fields.map fun field => (Key.text field.1, field.2))

/-- A text, or nothing. -/
def ofText? : Option String → Value
  | some content => .text content
  | none => .null

/-- A list of texts. -/
def ofTexts (contents : List String) : Value :=
  .list (contents.map .text)

/-- A natural number. -/
def ofNat (number : Nat) : Value :=
  .int number

/-- The entry of a mapping under a name. -/
def field?
    (value : Value)
    (name : String) : Option Value :=
  match value with
  | .map entries => lookup? entries name
  | _ => none

/-- Whether a value counts as something: not nothing, false, zero or empty. -/
def isSomething : Value → Bool
  | .null => false
  | .bool truth => truth
  | .int number => number != 0
  | .float number => !number.equal (Binary64.zero false)
  | .text content => !content.isEmpty
  | .unpaired points => !points.isEmpty
  | .bytes octets => !octets.isEmpty
  | .timestamp _ => true
  | .pair .. => true
  | .list items => !items.isEmpty
  | .set members => !members.isEmpty
  | .map entries => !entries.isEmpty
  | .again _ => true

mutual

/-- How many values stand inside one another at most. -/
def depth : Value → Nat
  | .pair first second => max (depth first) (depth second) + 1
  | .again container => depth container + 1
  | .list items => depthOfItems items + 1
  | .map entries => depthOfEntries entries + 1
  | _ => 1

/-- The greatest depth of the items of a list. -/
def depthOfItems : List Value → Nat
  | [] => 0
  | item :: rest => max (depth item) (depthOfItems rest)

/-- The greatest depth of the values in a mapping. -/
def depthOfEntries : List (Key × Value) → Nat
  | [] => 0
  | (_, value) :: rest => max (depth value) (depthOfEntries rest)

end

mutual

/-- Whether a whole number with too many digits to be written stands in a value. -/
def hasLongNumber : Value → Bool
  | .int number => Text.isTooLong number
  | .pair first second => hasLongNumber first || hasLongNumber second
  | .list items => hasLongNumberIn items
  | .set members => members.any Key.hasLongNumber
  | .map entries => hasLongNumberAmong entries
  | _ => false

/-- Whether such a number stands in one of some items. -/
def hasLongNumberIn : List Value → Bool
  | [] => false
  | item :: rest => hasLongNumber item || hasLongNumberIn rest

/-- Whether such a number stands in one of some entries. -/
def hasLongNumberAmong : List (Key × Value) → Bool
  | [] => false
  | (key, value) :: rest => key.hasLongNumber || hasLongNumber value || hasLongNumberAmong rest

end

mutual

/-- Whether a container stands inside itself somewhere in a value. -/
def hasCycle : Value → Bool
  | .again _ => true
  | .pair first second => hasCycle first || hasCycle second
  | .list items => hasCycleIn items
  | .map entries => hasCycleAmong entries
  | _ => false

/-- Whether a container stands inside itself in one of some items. -/
def hasCycleIn : List Value → Bool
  | [] => false
  | item :: rest => hasCycle item || hasCycleIn rest

/-- Whether a container stands inside itself in one of some entries. -/
def hasCycleAmong : List (Key × Value) → Bool
  | [] => false
  | (_, value) :: rest => hasCycle value || hasCycleAmong rest

end

/-- A container that stands inside itself as the container alone, all other values as they are. -/
def unwrapped : Value → Value
  | .again container => unwrapped container
  | value => value

/-- Whether a container stands here for all further turns inside itself. -/
def isEndless : Value → Bool
  | .again (.map []) | .again (.list []) => true
  | _ => false

end Value

end TypeCatalog
