import TypeCatalog.Proofs.Value.Entries
import TypeCatalog.Settings.Environment

namespace TypeCatalog.Settings

/-!
# Environments that cannot be read

The settings in the environment cannot be read exactly if a variable that must be JSON is not: the
variable of a whole section, or the variable of a setting with several values, as long as nothing
but a mapping is given for the whole section.
-/

/-- The names that a variable gives below a section, if it is one of that section. -/
def Section.namesIn?
    (part : Section)
    (label : String) : Option (List String) :=
  let start := (variableMark ++ part.name ++ "__").toList
  if start.isPrefixOf label.toList then
    some (nameParts [] (label.toList.drop start.length))
  else
    none

/-- Whether the variables of single settings are looked at: the section is not given as a whole, or
it is given as a mapping. -/
def Section.ReadsEach
    (part : Section)
    (bindings : List (Key × Value)) : Prop :=
  ∀ content, Value.lookup? bindings (variableMark ++ part.name) = some (.text content) →
    ∃ entries, Json.read content.toList = .ok (.map entries)

/-- A section with a variable that must be JSON and is not. -/
inductive Section.IsUnreadable
    (part : Section)
    (bindings : List (Key × Value)) : Prop
  | whole {content : String} {failure : Json.Failure}
      (isGiven : Value.lookup? bindings (variableMark ++ part.name) = some (.text content))
      (noJson : Json.read content.toList = .error failure)
  | separate {label content name : String} {failure : Json.Failure}
      (readsEach : part.ReadsEach bindings)
      (isGiven : (Key.text label, Value.text content) ∈ bindings)
      (isNamed : part.namesIn? label = some [name])
      (isComposite : name ∈ part.composite)
      (isSomething : content ≠ "")
      (noJson : Json.read content.toList = .error failure)

end TypeCatalog.Settings
