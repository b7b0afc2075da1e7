import TypeCatalog.Describe.Member
import TypeCatalog.Describe.Type
import TypeCatalog.Json.Printer

namespace TypeCatalog

/-!
# What cannot be described

The text of an array has a mark for every dimension, so an array of a vast rank has no text that
memory could hold.  A default value has no text if a number in it has too many digits.  The first
such part that a description comes to decides how it fails.
-/

namespace TypeRef

/-- The greatest length of a text that can be asked for at all. -/
def greatestLength : Nat := Nat.pow 2 63 - 1

/-- The greatest length of a text that memory could hold. -/
def memoryLength : Nat := Nat.pow 10 10

/-- Why the marks of an array of a rank cannot be written. -/
def rankFault? (rank : Nat) : Option Crash :=
  if rank - 1 > greatestLength then
    some ⟨.overflow, "cannot fit 'int' into an index-sized integer"⟩
  else if rank - 1 > memoryLength then
    some ⟨.outOfMemory, ""⟩
  else
    none

mutual

/-- Why a reference has no text. -/
def textFault? : TypeRef → Option Crash
  | ⟨kind, _, element?, rank, arguments⟩ =>
    match kind with
    | .byReference | .pointer => elementFault? element?
    | .array => (elementFault? element?).or (rankFault? rank)
    | .genericParameter | .named => argumentFault? arguments

/-- Why the element of a reference has no text. -/
def elementFault? : Option TypeRef → Option Crash
  | none => none
  | some element => textFault? element

/-- Why one of some arguments has no text. -/
def argumentFault? : List TypeRef → Option Crash
  | [] => none
  | argument :: rest => (textFault? argument).or (argumentFault? rest)

end

end TypeRef

namespace ParameterFact

/-- Why a parameter cannot be described. -/
def describeFault? (fact : ParameterFact) : Option Crash :=
  fact.typeRef.textFault?.or
    (if fact.hasDefault && fact.defaultValue.hasLongNumber then some Json.tooLongCrash else none)

/-- Why one of some parameters cannot be described. -/
def firstFault? (facts : List ParameterFact) : Option Crash :=
  (facts.mergeSort fun first second => decide (first.position ≤ second.position)).findSome?
    describeFault?

end ParameterFact

namespace MemberFact

/-- Why a member cannot be described. -/
def describeFault? (member : MemberFact) : Option Crash :=
  (TypeRef.elementFault? member.typeRef?).or
    (match member.kind with
    | .method | .property | .constructor => ParameterFact.firstFault? member.parameters
    | .field | .event => none)

/-- Why one of the members of certain kinds in a list cannot be described. -/
def firstFault?
    (kinds : List MemberKind)
    (members : List MemberFact) : Option Crash :=
  (members.filter fun member => kinds.contains member.kind && !member.isAccessor).findSome?
    describeFault?

end MemberFact

namespace TypeDefinition

/-- Why the references of a type itself cannot be described. -/
def referenceFault?
    (baseType? : Option TypeRef)
    (interfaces : List TypeRef)
    (genericParameters : List GenericParameterFact) : Option Crash :=
  ((TypeRef.elementFault? baseType?).or (TypeRef.argumentFault? interfaces)).or
    ((GenericParameterDescriptor.inOrder genericParameters).findSome? fun fact =>
      TypeRef.argumentFault? fact.constraints)

/-- The key by which siblings are described one after the other: the token, then the full name. -/
def siblingKey (type : TypeDefinition) : Text.RankKey :=
  ⟨type.token, type.fullName, ""⟩

/-- The first failure among siblings, each with its key. -/
def firstSiblingFault? (faults : List (Text.RankKey × Option Crash)) : Option Crash :=
  (faults.mergeSort fun one other => one.1.atMost other.1).findSome? Prod.snd

mutual

/-- Why a type inside types with the given names cannot be described.  The types nested in it come
first. -/
def faultWithin?
    (outer : List String) : TypeDefinition → Option Crash
  | ⟨fullName, _, _, _, _, _, _, _, baseType?, interfaces, _, genericParameters, _, _,
      nestedTypes⟩ =>
    (firstSiblingFault? (nestedFaults (fullName :: outer) nestedTypes)).or
      (referenceFault? baseType? interfaces genericParameters)

/-- Why each of those types of a list that do not bear a name of a type around them cannot be
described, if it cannot. -/
def nestedFaults
    (outer : List String) : List TypeDefinition → List (Text.RankKey × Option Crash)
  | [] => []
  | type :: rest =>
    if outer.contains type.fullName then
      nestedFaults outer rest
    else
      (type.siblingKey, faultWithin? outer type) :: nestedFaults outer rest

end

/-- Why a type cannot be described. -/
def describeFault? (type : TypeDefinition) : Option Crash :=
  type.faultWithin? []

end TypeDefinition

end TypeCatalog
