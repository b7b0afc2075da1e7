import TypeCatalog.Value.Basic

namespace TypeCatalog.Settings

/-!
# Merging settings

Settings of a higher source are laid over those of a lower one: mappings are merged key by key, and
anything else takes the place of what was there.  A mapping that stands inside itself is merged with
the entries of its first turn.
-/

/-- The value under a key. -/
def valueAt?
    (entries : List (Key × Value))
    (key : Key) : Option Value :=
  (entries.find? fun entry => entry.1.same key).map Prod.snd

mutual

/-- A value laid over another, if there is one. -/
def overlay
    (current? : Option Value) : Value → Value
  | .map entries =>
    match current? with
    | some (.map current) | some (.again (.map current)) => .map (merge current entries)
    | _ => .map entries
  | .again (.map entries) =>
    match current? with
    | some (.map current) | some (.again (.map current)) => .map (merge current entries)
    | _ => .again (.map entries)
  | value => value

/-- Entries laid over others. -/
def merge
    (base : List (Key × Value)) : List (Key × Value) → List (Key × Value)
  | [] => base
  | (key, value) :: rest =>
    merge (Value.insert base key (overlay (valueAt? base key) value)) rest

end

end TypeCatalog.Settings
