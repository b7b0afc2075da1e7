import TypeCatalog.Json.Printer

namespace TypeCatalog

/-!
# Code points of JSON texts

What the code points of the text of a value are: one for each character that a reader sees, with a
half of a surrogate pair wherever the value holds one.
-/

namespace Text

theorem isHalf_toNat (c : Char) : isHalf c.toNat = false := by
  have valid : c.toNat < 0xD800 ∨ (0xDFFF < c.toNat ∧ c.toNat < 0x110000) := c.valid
  rw [isHalf, Bool.and_eq_false_iff, decide_eq_false_iff_not, decide_eq_false_iff_not]
  omega

theorem any_isHalf_map_toNat (characters : List Char) :
    (characters.map Char.toNat).any isHalf = false := by
  simp [isHalf_toNat]

@[simp] theorem characterOf_toNat (c : Char) : characterOf c.toNat = c := by
  simp [characterOf, isHalf_toNat, Char.ofNat_toNat]

@[simp] theorem map_characterOf_toNat (characters : List Char) :
    (characters.map Char.toNat).map characterOf = characters := by
  rw [List.map_map]
  exact (List.map_congr_left fun c _ => characterOf_toNat c).trans (List.map_id _)

end Text

/-! ## Halves of pairs -/

/-- Whether the name of an entry holds a half of a surrogate pair. -/
def Key.holdsHalf : Key → Bool
  | .unpaired points => points.any Text.isHalf
  | _ => false

namespace Value

mutual

/-- Whether a half of a surrogate pair stands somewhere in a value. -/
def holdsHalf : Value → Bool
  | .unpaired points => points.any Text.isHalf
  | .pair first second => first.holdsHalf || second.holdsHalf
  | .list items => itemsHoldHalf items
  | .map entries => entriesHoldHalf entries
  | _ => false

/-- Whether a half of a surrogate pair stands somewhere in items. -/
def itemsHoldHalf : List Value → Bool
  | [] => false
  | item :: rest => item.holdsHalf || itemsHoldHalf rest

/-- Whether a half of a surrogate pair stands somewhere in entries. -/
def entriesHoldHalf : List (Key × Value) → Bool
  | [] => false
  | (key, value) :: rest => key.holdsHalf || value.holdsHalf || entriesHoldHalf rest

end

end Value

namespace Json

private theorem any_isHalf_escapePoint (point : Nat) :
    (escapePoint point).any Text.isHalf = Text.isHalf point := by
  unfold escapePoint
  split
  · simp
  · next noHalf =>
      rw [Text.any_isHalf_map_toNat, Bool.not_eq_true _ |>.mp noHalf]

private theorem any_isHalf_stringPoints (content : List Nat) :
    (stringPoints content).any Text.isHalf = content.any Text.isHalf := by
  simp only [stringPoints, List.any_cons, List.any_append, List.any_nil, List.any_flatMap,
    any_isHalf_escapePoint, Text.isHalf_toNat, Bool.false_or, Bool.or_false]

private theorem any_isHalf_namePoints (key : Key) :
    (namePoints key).any Text.isHalf = key.holdsHalf := by
  cases key with
  | unpaired points => rfl
  | _ => rw [namePoints, Text.any_isHalf_map_toNat, Key.holdsHalf] <;> simp

mutual

/-- However a value is laid out, there is a half of a pair in its text exactly if one is in it. -/
theorem any_isHalf_points
    (layout : Layout)
    (depth : Nat) : (value : Value) →
    (points layout depth value).any Text.isHalf = value.holdsHalf
  | .null | .bool _ | .int _ | .float _ | .text _ | .bytes _ | .timestamp _ | .set _ | .again _
  | .list [] | .map [] => Text.any_isHalf_map_toNat _
  | .unpaired content => any_isHalf_stringPoints content
  | .pair first second => by
      simp only [points, Value.holdsHalf, List.any_cons, List.any_append, List.any_nil,
        Text.any_isHalf_map_toNat, Text.isHalf_toNat, Bool.false_or, Bool.or_false,
        any_isHalf_points layout (depth + 1) first, any_isHalf_points layout (depth + 1) second]
  | .list (first :: rest) => by
      simp only [points, Value.holdsHalf, Value.itemsHoldHalf, List.any_cons, List.any_append,
        List.any_nil, Text.any_isHalf_map_toNat, Text.isHalf_toNat, Bool.false_or, Bool.or_false,
        any_isHalf_points layout (depth + 1) first, any_isHalf_itemPoints layout (depth + 1) rest]
  | .map ((key, value) :: rest) => by
      simp only [points, Value.holdsHalf, Value.entriesHoldHalf, List.any_cons, List.any_append,
        List.any_nil, Text.any_isHalf_map_toNat, Text.isHalf_toNat, Bool.false_or, Bool.or_false,
        any_isHalf_stringPoints, any_isHalf_namePoints,
        any_isHalf_points layout (depth + 1) value, any_isHalf_entryPoints layout (depth + 1) rest]

private theorem any_isHalf_itemPoints
    (layout : Layout)
    (depth : Nat) : (items : List Value) →
    (itemPoints layout depth items).any Text.isHalf = Value.itemsHoldHalf items
  | [] => rfl
  | item :: rest => by
      simp only [itemPoints, Value.itemsHoldHalf, List.any_cons, List.any_append,
        Text.any_isHalf_map_toNat, Text.isHalf_toNat, Bool.false_or,
        any_isHalf_points layout depth item, any_isHalf_itemPoints layout depth rest]

private theorem any_isHalf_entryPoints
    (layout : Layout)
    (depth : Nat) : (entries : List (Key × Value)) →
    (entryPoints layout depth entries).any Text.isHalf = Value.entriesHoldHalf entries
  | [] => rfl
  | (key, value) :: rest => by
      simp only [entryPoints, Value.entriesHoldHalf, List.any_cons, List.any_append,
        Text.any_isHalf_map_toNat, Text.isHalf_toNat, Bool.false_or, Bool.or_false,
        any_isHalf_stringPoints, any_isHalf_namePoints, any_isHalf_points layout depth value,
        any_isHalf_entryPoints layout depth rest]

end

/-! ## What a reader sees -/

private theorem map_characterOf_escapePoint (point : Nat) :
    (escapePoint point).map Text.characterOf = escape (Text.characterOf point) := by
  unfold escapePoint
  split
  · next isHalf =>
      rw [List.map_singleton, Text.characterOf, if_pos isHalf]
      decide
  · next noHalf =>
      rw [Text.map_characterOf_toNat, Text.characterOf, if_neg noHalf]

private theorem map_characterOf_stringPoints (content : List Nat) :
    (stringPoints content).map Text.characterOf = stringCharacters (Text.ofPoints content) := by
  have sameParts : (content.flatMap escapePoint).map Text.characterOf =
      (content.map Text.characterOf).flatMap escape := by
    rw [List.map_flatMap, List.flatMap_map]
    simp only [map_characterOf_escapePoint]
  rw [stringPoints, stringCharacters, Text.ofPoints, String.toList_ofList, List.map_cons,
    List.map_append, sameParts]
  rfl

private theorem map_characterOf_namePoints (key : Key) :
    Text.ofPoints (namePoints key) = keyName key := by
  cases key with
  | unpaired points => rfl
  | _ =>
      rw [namePoints, Text.ofPoints, Text.map_characterOf_toNat, String.ofList_toList]
      simp

mutual

/-- The text of a value has one code point for each character that a reader sees. -/
theorem map_characterOf_points
    (layout : Layout)
    (depth : Nat) : (value : Value) →
    (points layout depth value).map Text.characterOf = characters layout depth value
  | .null | .bool _ | .int _ | .float _ | .text _ | .bytes _ | .timestamp _ | .set _ | .again _
  | .list [] | .map [] => Text.map_characterOf_toNat _
  | .unpaired content => map_characterOf_stringPoints content
  | .pair first second => by
      simp only [points, characters, List.map_cons, List.map_append, List.map_nil,
        Text.map_characterOf_toNat, Text.characterOf_toNat,
        map_characterOf_points layout (depth + 1) first,
        map_characterOf_points layout (depth + 1) second]
  | .list (first :: rest) => by
      simp only [points, characters, List.map_cons, List.map_append, List.map_nil,
        Text.map_characterOf_toNat, Text.characterOf_toNat,
        map_characterOf_points layout (depth + 1) first,
        map_characterOf_itemPoints layout (depth + 1) rest]
  | .map ((key, value) :: rest) => by
      simp only [points, characters, List.map_cons, List.map_append, List.map_nil,
        Text.map_characterOf_toNat, Text.characterOf_toNat, map_characterOf_stringPoints,
        map_characterOf_namePoints, map_characterOf_points layout (depth + 1) value,
        map_characterOf_entryPoints layout (depth + 1) rest]

private theorem map_characterOf_itemPoints
    (layout : Layout)
    (depth : Nat) : (items : List Value) →
    (itemPoints layout depth items).map Text.characterOf = itemCharacters layout depth items
  | [] => rfl
  | item :: rest => by
      simp only [itemPoints, itemCharacters, List.map_cons, List.map_append,
        Text.map_characterOf_toNat, Text.characterOf_toNat,
        map_characterOf_points layout depth item, map_characterOf_itemPoints layout depth rest]

private theorem map_characterOf_entryPoints
    (layout : Layout)
    (depth : Nat) : (entries : List (Key × Value)) →
    (entryPoints layout depth entries).map Text.characterOf = entryCharacters layout depth entries
  | [] => rfl
  | (key, value) :: rest => by
      simp only [entryPoints, entryCharacters, List.map_cons, List.map_append,
        Text.map_characterOf_toNat, Text.characterOf_toNat, map_characterOf_stringPoints,
        map_characterOf_namePoints, map_characterOf_points layout depth value,
        map_characterOf_entryPoints layout depth rest]

end

end Json

end TypeCatalog
