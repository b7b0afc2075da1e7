import Mathlib.Data.List.TakeWhile
import TypeCatalog.Describe.Member

namespace TypeCatalog

/-!
# The parts of a full name

A full name is put together from a namespace, if there is one, and the names of the enclosing types
and of the type itself.  Namespace and simple name are found again in it, whichever of its two
separators stand in the namespace.  A constructor is shown under the simple name of its type up to
the tick.
-/

namespace Text

/-! ## Cutting at one character -/

variable {mark : Char} {text : String} {front rest : List Char}

private theorem ne_mark_of_not_mem
    {characters : List Char}
    (absent : mark ∉ characters) :
    ∀ c ∈ characters, (c != mark) = true := by
  intro c member
  rw [bne_iff_ne]
  rintro rfl
  exact absent member

theorem afterLast_of_not_mem (absent : mark ∉ text.toList) : afterLast mark text = text := by
  have noMark := ne_mark_of_not_mem (mt List.mem_reverse.mp absent)
  rw [afterLast, List.takeWhile_eq_self_iff.mpr noMark, List.reverse_reverse, String.ofList_toList]

theorem afterLast_eq
    (textIs : text.toList = front ++ mark :: rest)
    (absent : mark ∉ rest) :
    afterLast mark text = String.ofList rest := by
  have noMark := ne_mark_of_not_mem (mt List.mem_reverse.mp absent)
  have reversed : text.toList.reverse = rest.reverse ++ mark :: front.reverse := by
    rw [textIs, List.reverse_append, List.reverse_cons, List.append_assoc, List.singleton_append]
  rw [afterLast, reversed, List.takeWhile_append_of_pos noMark,
    List.takeWhile_cons_of_neg (by simp), List.append_nil, List.reverse_reverse]

theorem beforeFirst_of_not_mem (absent : mark ∉ text.toList) : beforeFirst mark text = text := by
  rw [beforeFirst, List.takeWhile_eq_self_iff.mpr (ne_mark_of_not_mem absent), String.ofList_toList]

theorem beforeFirst_eq
    (textIs : text.toList = front ++ mark :: rest)
    (absent : mark ∉ front) :
    beforeFirst mark text = String.ofList front := by
  rw [beforeFirst, textIs, List.takeWhile_append_of_pos (ne_mark_of_not_mem absent),
    List.takeWhile_cons_of_neg (by simp), List.append_nil]

theorem beforeLast?_of_not_mem (absent : mark ∉ text.toList) : beforeLast? mark text = none := by
  rw [beforeLast?, if_neg]
  simpa using absent

theorem beforeLast?_eq
    (textIs : text.toList = front ++ mark :: rest)
    (absent : mark ∉ rest) :
    beforeLast? mark text = some (String.ofList front) := by
  have noMark := ne_mark_of_not_mem (mt List.mem_reverse.mp absent)
  have reversed : text.toList.reverse = rest.reverse ++ mark :: front.reverse := by
    rw [textIs, List.reverse_append, List.reverse_cons, List.append_assoc, List.singleton_append]
  have occurs : text.toList.contains mark = true := by
    simp [textIs]
  rw [beforeLast?, if_pos occurs, reversed, List.dropWhile_append_of_pos noMark,
    List.dropWhile_cons_of_neg (by simp), List.tail_cons, List.reverse_reverse]

theorem not_mem_afterLast
    (mark : Char)
    (text : String) :
    mark ∉ (afterLast mark text).toList := by
  simp only [afterLast, String.toList_ofList, List.mem_reverse]
  intro member
  simpa using List.mem_takeWhile_imp member

theorem afterLast_suffix
    (mark : Char)
    (text : String) :
    (afterLast mark text).toList <:+ text.toList := by
  rw [afterLast, String.toList_ofList, ← List.reverse_prefix, List.reverse_reverse]
  exact List.takeWhile_prefix _

end Text

namespace QualifiedName

/-! ## Full names and their parts -/

/-- Whether a name has a separator. -/
def Separated (name : String) : Prop :=
  '.' ∈ name.toList ∨ '+' ∈ name.toList

instance (name : String) : Decidable (Separated name) :=
  inferInstanceAs (Decidable (_ ∨ _))

/-- The full name of a type in a namespace, if any, from the names of the types around it, the
outermost first, and its own. -/
def compose
    (namespaceName? : Option String)
    (segments : List String) : String :=
  namespaceName?.elim "" (· ++ ".") ++ "+".intercalate segments

/-- What is shown of a name with a tick: all that stands before the first one.  A name without a
tick is shown as it is. -/
structure ShownBeforeTick (name shown : String) : Prop where
  noTick : '`' ∉ shown.toList
  ends : name = shown ∨ ∃ rest, name.toList = shown.toList ++ '`' :: rest

theorem toList_intercalate_cons
    (first : String)
    {rest : List String}
    (nonempty : rest ≠ []) :
    ("+".intercalate (first :: rest)).toList =
      first.toList ++ '+' :: ("+".intercalate rest).toList := by
  obtain ⟨second, others, rfl⟩ := List.exists_cons_of_ne_nil nonempty
  rw [String.toList_intercalate, String.toList_intercalate, List.map_cons, List.map_cons,
    List.intercalate_cons_cons, List.append_assoc]
  rfl

theorem toList_intercalate_concat
    {outer : List String}
    (own : String)
    (nonempty : outer ≠ []) :
    ("+".intercalate (outer ++ [own])).toList =
      ("+".intercalate outer).toList ++ '+' :: own.toList := by
  induction outer with
  | nil => exact absurd rfl nonempty
  | cons first rest inductionHypothesis =>
      by_cases isLast : rest = []
      · subst isLast
        simp
      · rw [List.cons_append, toList_intercalate_cons first (by simp), inductionHypothesis isLast,
          toList_intercalate_cons first isLast, List.append_assoc, List.cons_append]

/-- No dot comes in between the names of types. -/
theorem dot_not_mem_intercalate
    {segments : List String}
    (noDot : ∀ segment ∈ segments, '.' ∉ segment.toList) :
    '.' ∉ ("+".intercalate segments).toList := by
  induction segments with
  | nil => simp
  | cons first rest inductionHypothesis =>
      obtain ⟨firstHasNone, restHasNone⟩ := List.forall_mem_cons.mp noDot
      by_cases isLast : rest = []
      · subst isLast
        simpa using firstHasNone
      · rw [toList_intercalate_cons first isLast, List.mem_append, List.mem_cons, not_or, not_or]
        exact ⟨firstHasNone, by decide, inductionHypothesis restHasNone⟩

theorem toList_compose_some
    (namespaceName : String)
    (segments : List String) :
    (compose (some namespaceName) segments).toList =
      namespaceName.toList ++ '.' :: ("+".intercalate segments).toList := by
  simp [compose]

theorem compose_none (segments : List String) :
    compose none segments = "+".intercalate segments := by
  simp [compose]

/-- What follows the last dot of a full name is the names of types. -/
theorem afterLast_compose
    (namespaceName? : Option String)
    {segments : List String}
    (noDot : ∀ segment ∈ segments, '.' ∉ segment.toList) :
    Text.afterLast '.' (compose namespaceName? segments) = "+".intercalate segments := by
  have absent := dot_not_mem_intercalate noDot
  cases namespaceName? with
  | none =>
      rw [compose_none, Text.afterLast_of_not_mem absent]
  | some namespaceName =>
      rw [Text.afterLast_eq (toList_compose_some namespaceName segments) absent,
        String.ofList_toList]

theorem simpleName_compose
    (namespaceName? : Option String)
    {outer : List String}
    {own : String}
    (noSeparator : ∀ segment ∈ outer ++ [own], ¬ Separated segment) :
    simpleName (compose namespaceName? (outer ++ [own])) = own := by
  have noPlus : '+' ∉ own.toList := fun member => noSeparator own (by simp) (.inr member)
  have noDot : ∀ segment ∈ outer ++ [own], '.' ∉ segment.toList :=
    fun segment member dot => noSeparator segment member (.inl dot)
  rw [simpleName, afterLast_compose _ noDot]
  by_cases isOutermost : outer = []
  · subst isOutermost
    rw [List.nil_append, String.intercalate_singleton, Text.afterLast_of_not_mem noPlus]
  · rw [Text.afterLast_eq (toList_intercalate_concat own isOutermost) noPlus, String.ofList_toList]

/-- What precedes the first `+` of a full name is the full name of the outermost type. -/
theorem beforeFirst_compose
    {namespaceName? : Option String}
    (noPlus : ∀ namespaceName ∈ namespaceName?, '+' ∉ namespaceName.toList)
    {outermost : String}
    (noSeparator : ¬ Separated outermost)
    (inner : List String) :
    Text.beforeFirst '+' (compose namespaceName? (outermost :: inner)) =
      compose namespaceName? [outermost] := by
  have absent : '+' ∉ (compose namespaceName? [outermost]).toList := by
    have notInName : '+' ∉ outermost.toList := fun member => noSeparator (.inr member)
    cases namespaceName? with
    | none =>
        simpa [compose_none] using notInName
    | some namespaceName =>
        simpa [toList_compose_some] using ⟨noPlus namespaceName rfl, notInName⟩
  by_cases isInnermost : inner = []
  · rw [isInnermost, Text.beforeFirst_of_not_mem absent]
  · have splits :
        (compose namespaceName? (outermost :: inner)).toList =
          (compose namespaceName? [outermost]).toList ++
            '+' :: ("+".intercalate inner).toList := by
      simp [compose, toList_intercalate_cons outermost isInnermost]
    rw [Text.beforeFirst_eq splits absent, String.ofList_toList]

theorem namespaceOf_compose
    {namespaceName? : Option String}
    (noPlus : ∀ namespaceName ∈ namespaceName?, '+' ∉ namespaceName.toList)
    {outermost : String}
    (noSeparator : ¬ Separated outermost)
    (inner : List String) :
    namespaceOf (compose namespaceName? (outermost :: inner)) = namespaceName?.getD "" := by
  have noDot : '.' ∉ outermost.toList := fun member => noSeparator (.inl member)
  rw [namespaceOf, beforeFirst_compose noPlus noSeparator]
  cases namespaceName? with
  | none =>
      rw [compose_none, String.intercalate_singleton, Text.beforeLast?_of_not_mem noDot,
        Option.getD_none]
  | some namespaceName =>
      have splits := toList_compose_some namespaceName [outermost]
      rw [String.intercalate_singleton] at splits
      rw [Text.beforeLast?_eq splits noDot, String.ofList_toList, Option.getD_some]

theorem not_separated_simpleName (fullName : String) : ¬ Separated (simpleName fullName) := by
  rintro (dot | plus)
  · have inLast := (Text.afterLast_suffix '+' _).subset dot
    exact Text.not_mem_afterLast '.' fullName inLast
  · exact Text.not_mem_afterLast '+' _ plus

theorem simpleName_suffix (fullName : String) :
    (simpleName fullName).toList <:+ fullName.toList :=
  (Text.afterLast_suffix '+' _).trans (Text.afterLast_suffix '.' fullName)

theorem shownBeforeTick_stripArity (name : String) : ShownBeforeTick name (stripArity name) := by
  by_cases ticked : '`' ∈ name.toList
  · obtain ⟨front, rest, nameIs, absent⟩ := List.eq_append_cons_of_mem ticked
    rw [stripArity, Text.beforeFirst_eq nameIs absent]
    exact ⟨by rwa [String.toList_ofList], .inr ⟨rest, by rwa [String.toList_ofList]⟩⟩
  · rw [stripArity, Text.beforeFirst_of_not_mem ticked]
    exact ⟨ticked, .inl rfl⟩

theorem ShownBeforeTick.eq_stripArity
    {name shown : String}
    (isShown : ShownBeforeTick name shown) :
    shown = stripArity name := by
  rcases isShown.ends with rfl | ⟨rest, nameIs⟩
  · rw [stripArity, Text.beforeFirst_of_not_mem isShown.noTick]
  · rw [stripArity, Text.beforeFirst_eq nameIs isShown.noTick, String.ofList_toList]

end QualifiedName

open QualifiedName (Separated compose ShownBeforeTick)

/-- A type or a reference with a full name that is put together from a namespace, if there is one,
and the names of the enclosing types and its own has this namespace and this simple name.  No simple
name has a separator, and each one ends its full name.  A constructor of a type is shown under what
stands before the first tick in the simple name of the type. -/
theorem QualifiedName.compose_taken_apart :
    (∀ (namespaceName? : Option String) (segments : List String) (own : String),
      (∀ namespaceName ∈ namespaceName?, '+' ∉ namespaceName.toList) →
      (∀ segment ∈ segments, ¬ Separated segment) →
      segments.getLast? = some own →
      (∀ type : TypeDefinition, type.fullName = compose namespaceName? segments →
        type.namespaceOf = namespaceName?.getD "" ∧ type.simpleName = own) ∧
      ∀ reference : TypeRef, reference.fullName = compose namespaceName? segments →
        reference.namespaceOf = namespaceName?.getD "" ∧ reference.simpleName = own) ∧
    (∀ type : TypeDefinition,
      ¬ Separated type.simpleName ∧ type.simpleName.toList <:+ type.fullName.toList) ∧
    (∀ reference : TypeRef,
      ¬ Separated reference.simpleName ∧
        reference.simpleName.toList <:+ reference.fullName.toList) ∧
    ∀ (type : TypeDefinition) (member : MemberFact),
      member.kind = .constructor →
      member.declaringType = type.fullName →
      ∃ shown, ShownBeforeTick type.simpleName shown ∧
        (MemberDescriptor.describe member).signature =
          " ".intercalate
            (member.leadingWords member.isStatic none ++
              [shown ++ "(" ++
                ParameterDescriptor.signatureTexts
                  (ParameterDescriptor.describeAll member.parameters) ++ ")"]) := by
  refine ⟨fun namespaceName? segments own noPlus noSeparator isLast => ?_,
    fun type => ⟨not_separated_simpleName _, simpleName_suffix _⟩,
    fun reference => ⟨not_separated_simpleName _, simpleName_suffix _⟩,
    fun type member isConstructor isOwner => ?_⟩
  · have namespaceIs :
        namespaceOf (compose namespaceName? segments) = namespaceName?.getD "" := by
      cases segments with
      | nil => cases isLast
      | cons outermost inner =>
          exact namespaceOf_compose noPlus (noSeparator outermost List.mem_cons_self) inner
    have nameIs : simpleName (compose namespaceName? segments) = own := by
      obtain ⟨outer, rfl⟩ := List.getLast?_eq_some_iff.mp isLast
      exact simpleName_compose namespaceName? noSeparator
    refine ⟨fun type fullNameIs => ?_, fun reference fullNameIs => ?_⟩
    · rw [TypeDefinition.namespaceOf, TypeDefinition.simpleName, fullNameIs]
      exact ⟨namespaceIs, nameIs⟩
    · rw [TypeRef.namespaceOf, TypeRef.simpleName, fullNameIs]
      exact ⟨namespaceIs, nameIs⟩
  · refine ⟨stripArity type.simpleName, shownBeforeTick_stripArity _, ?_⟩
    rw [TypeDefinition.simpleName, ← isOwner]
    simp only [MemberDescriptor.describe, MemberDescriptor.partOf, isConstructor,
      MemberDescriptor.signatureOf, MemberFact.constructorSignature]

/-- A type nested in a generic type, in a namespace with a dot, and its constructor. -/
theorem QualifiedName.compose_taken_apart_of_nested_type :
    let fullName := "Acme.Widgets.Widget`1+Part`2"
    let type : TypeDefinition :=
      ⟨fullName, .classType, .public, 0, false, false, true, none, none, [], [], [], [], none, []⟩
    let reference : TypeRef := ⟨.named, fullName, none, 1, []⟩
    let member : MemberFact :=
      ⟨.constructor, ".ctor", fullName, .public, 0, none, [], [], [], none, false, false, false,
        false, true, none, false, false, false, none, none, false, false, false, .null, none, none⟩
    (type.namespaceOf = "Acme.Widgets" ∧ type.simpleName = "Part`2") ∧
      (reference.namespaceOf = "Acme.Widgets" ∧ reference.simpleName = "Part`2") ∧
      (MemberDescriptor.describe member).signature = "public Part()" := by
  intro fullName type reference member
  obtain ⟨takenApart, -, -, showsConstructor⟩ := compose_taken_apart
  obtain ⟨ofType, ofReference⟩ :=
    takenApart (some "Acme.Widgets") ["Widget`1", "Part`2"] "Part`2"
      (by rintro _ ⟨⟩; decide) (by decide) rfl
  refine ⟨ofType type (by decide), ofReference reference (by decide), ?_⟩
  obtain ⟨shown, isShown, signatureIs⟩ := showsConstructor type member rfl rfl
  have noParameters : ParameterDescriptor.describeAll member.parameters = [] := by
    simp [ParameterDescriptor.describeAll, member]
  rw [signatureIs, isShown.eq_stripArity, (ofType type (by decide)).2, noParameters]
  decide

end TypeCatalog
