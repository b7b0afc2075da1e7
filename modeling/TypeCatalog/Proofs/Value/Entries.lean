import Mathlib.Algebra.Ring.Nat
import TypeCatalog.Value.Basic

namespace TypeCatalog

/-!
# Entries of mappings

Entries with different keys, and looking up what was set.
-/

/-!
## Entries with different keys

Setting entries keeps the keys of a mapping different, and among keys that are names an entry is
set in at most one place.
-/

/-- Entries of which no two have the same key. -/
def DifferentKeys
    {α : Type}
    (entries : List (Key × α)) : Prop :=
  entries.Pairwise fun first second => first.1.same second.1 = false

instance
    {α : Type}
    (entries : List (Key × α)) :
    Decidable (DifferentKeys entries) :=
  inferInstanceAs (Decidable (entries.Pairwise fun first second => first.1.same second.1 = false))

namespace DifferentKeys

variable {α : Type} {entries : List (Key × α)}

theorem nil : DifferentKeys ([] : List (Key × α)) :=
  List.Pairwise.nil

theorem insert
    (different : DifferentKeys entries)
    (key : Key)
    (value : α) :
    DifferentKeys (Key.insert entries key value) := by
  unfold Key.insert
  split
  · -- The keys stay as they are.
    refine List.pairwise_map.mpr (different.imp fun {first second} differ => ?_)
    split <;> split <;> exact differ
  · next noneSame =>
      refine List.pairwise_append.mpr ⟨different, List.pairwise_singleton _ _, ?_⟩
      intro entry member added isAdded
      rw [List.mem_singleton.mp isAdded]
      simp only [List.any_eq_true, not_exists, not_and, Bool.not_eq_true] at noneSame
      exact noneSame entry member

end DifferentKeys

namespace Key

/-- Whether a key is a name: a text, or something written that is no text. -/
def IsName : Key → Prop
  | .text _ | .unpaired _ => True
  | _ => False

theorem same_iff_eq_of_isName
    {first second : Key}
    (firstIsName : first.IsName)
    (secondIsName : second.IsName) :
    first.same second = true ↔ first = second := by
  cases first <;> cases second <;>
    first
    | exact firstIsName.elim
    | exact secondIsName.elim
    | simp [same, normalized]

private theorem sum_replace_le
    {α : Type}
    {entries : List (Key × α)}
    {key : Key}
    (cost : Key × α → Nat)
    (different : DifferentKeys entries)
    (areNames : ∀ entry ∈ entries, entry.1.IsName)
    (isName : key.IsName)
    (value : α) :
    ((entries.map fun entry => if entry.1.same key then (entry.1, value) else entry).map
        cost).sum ≤
      (entries.map cost).sum + cost (key, value) := by
  induction entries with
  | nil =>
      simp
  | cons first rest inductionHypothesis =>
      obtain ⟨differHere, differInRest⟩ := List.pairwise_cons.mp different
      have firstIsName := areNames first (by simp)
      have areNamesInRest : ∀ entry ∈ rest, entry.1.IsName :=
        fun entry member => areNames entry (List.mem_cons_of_mem first member)
      by_cases sameFirst : first.1.same key = true
      · have isKey : first.1 = key := (same_iff_eq_of_isName firstIsName isName).mp sameFirst
        -- All other keys differ from this one, so the rest stays as it is.
        have restStays :
            (rest.map fun entry => if entry.1.same key then (entry.1, value) else entry) =
              rest := by
          refine (List.map_congr_left fun entry member => ?_).trans (List.map_id rest)
          have differs : entry.1.same key ≠ true := by
            intro sameThere
            have isKeyToo :=
              (same_iff_eq_of_isName (areNamesInRest entry member) isName).mp sameThere
            have sameAsFirst :=
              (same_iff_eq_of_isName firstIsName (areNamesInRest entry member)).mpr
                (isKey.trans isKeyToo.symm)
            rw [differHere entry member] at sameAsFirst
            cases sameAsFirst
          rw [if_neg differs]
          rfl
        rw [List.map_cons, if_pos sameFirst, restStays, isKey]
        simp only [List.map_cons, List.sum_cons]
        omega
      · rw [List.map_cons, if_neg sameFirst]
        simp only [List.map_cons, List.sum_cons]
        have inRest := inductionHypothesis differInRest areNamesInRest
        omega

/-- Setting an entry adds at most what the entry itself costs. -/
theorem sum_insert_le
    {α : Type}
    {entries : List (Key × α)}
    {key : Key}
    (cost : Key × α → Nat)
    (different : DifferentKeys entries)
    (areNames : ∀ entry ∈ entries, entry.1.IsName)
    (isName : key.IsName)
    (value : α) :
    ((insert entries key value).map cost).sum ≤ (entries.map cost).sum + cost (key, value) := by
  unfold insert
  split
  · exact sum_replace_le cost different areNames isName value
  · simp

/-- An entry whose key is a name only adds a name. -/
theorem isName_of_mem_insert
    {α : Type}
    {entries : List (Key × α)}
    {key : Key}
    {value : α}
    (areNames : ∀ entry ∈ entries, entry.1.IsName)
    (isName : key.IsName) :
    ∀ entry ∈ insert entries key value, entry.1.IsName := by
  intro entry member
  unfold insert at member
  split at member
  · obtain ⟨earlier, wasThere, rfl⟩ := List.mem_map.mp member
    split <;> exact areNames earlier wasThere
  · rcases List.mem_append.mp member with wasThere | added
    · exact areNames entry wasThere
    · rw [List.mem_singleton.mp added]
      exact isName

/-- Setting an entry adds no key but its own. -/
theorem eq_or_exists_of_mem_insert
    {α : Type}
    {entries : List (Key × α)}
    {key : Key}
    {value : α}
    {entry : Key × α}
    (member : entry ∈ insert entries key value) :
    entry.1 = key ∨ ∃ before ∈ entries, before.1 = entry.1 := by
  unfold insert at member
  split at member
  · obtain ⟨before, wasThere, rfl⟩ := List.mem_map.mp member
    refine .inr ⟨before, wasThere, ?_⟩
    split <;> rfl
  · rcases List.mem_append.mp member with wasThere | isNew
    · exact .inr ⟨entry, wasThere, rfl⟩
    · rw [List.mem_singleton.mp isNew]
      exact .inl rfl

end Key

/-!
## Keys that name the same entry

A key names an entry by what it means: a number in whatever form, a moment by its place in universal
time, anything else by itself.
-/

namespace Key

/-- What a key means. -/
def meaning : Key → Key ⊕ Int
  | .timestamp time => time.instant?.elim (.inl (.timestamp time)) .inr
  | key => .inl key.normalized

theorem meaning_of_noTimestamp
    {key : Key}
    (noTimestamp : ∀ time, key ≠ .timestamp time) :
    key.meaning = .inl key.normalized := by
  unfold meaning
  split
  · exact absurd rfl (noTimestamp _)
  · rfl

private theorem normalized_ne_timestamp
    {key : Key}
    (noTimestamp : ∀ time, key ≠ .timestamp time)
    (time : Timestamp) :
    key.normalized ≠ .timestamp time := by
  cases key with
  | timestamp other => exact absurd rfl (noTimestamp other)
  | float number => cases whole : number.toInt? <;> simp [normalized, whole]
  | null | bool _ | int _ | text _ | unpaired _ | bytes _ => simp [normalized]

private theorem meaning_ne_timestamp
    {key : Key}
    (noTimestamp : ∀ time, key ≠ .timestamp time)
    (time : Timestamp) :
    key.meaning ≠ (Key.timestamp time).meaning := by
  rw [meaning_of_noTimestamp noTimestamp]
  cases instantIs : time.instant? with
  | none => simpa [meaning, instantIs] using normalized_ne_timestamp noTimestamp time
  | some instant => simp [meaning, instantIs]

private theorem timestamp_same_iff (left right : Timestamp) :
    left.same right = true ↔ (Key.timestamp left).meaning = (Key.timestamp right).meaning := by
  cases ofLeft : left.instant? <;> cases ofRight : right.instant? <;>
    simp [Timestamp.same, meaning, ofLeft, ofRight]

private theorem timestamp_or_other (key : Key) :
    (∃ time, key = .timestamp time) ∨ ∀ time, key ≠ .timestamp time := by
  cases key <;> simp

/-- Keys name the same entry exactly if they mean the same. -/
theorem same_iff_meaning_eq (first second : Key) :
    first.same second = true ↔ first.meaning = second.meaning := by
  unfold same
  split
  · exact timestamp_same_iff _ _
  · next notBoth =>
      rw [decide_eq_true_iff]
      rcases timestamp_or_other first with ⟨left, rfl⟩ | firstOther
      · have secondOther : ∀ time, second ≠ .timestamp time :=
          fun right isTime => notBoth left right rfl isTime
        exact iff_of_false (normalized_ne_timestamp secondOther left).symm
          (meaning_ne_timestamp secondOther left).symm
      · rcases timestamp_or_other second with ⟨right, rfl⟩ | secondOther
        · exact iff_of_false (normalized_ne_timestamp firstOther right)
            (meaning_ne_timestamp firstOther right)
        · rw [meaning_of_noTimestamp firstOther, meaning_of_noTimestamp secondOther,
            Sum.inl.injEq]

theorem same_self (key : Key) : key.same key = true :=
  (same_iff_meaning_eq key key).mpr rfl

/-- Keys that name the same entry are the same to all keys. -/
theorem same_congr
    {first second : Key}
    (areSame : first.same second = true)
    (other : Key) :
    other.same first = other.same second := by
  rw [Bool.eq_iff_iff, same_iff_meaning_eq, same_iff_meaning_eq,
    (same_iff_meaning_eq first second).mp areSame]

theorem same_comm (first second : Key) : first.same second = second.same first := by
  rw [Bool.eq_iff_iff, same_iff_meaning_eq, same_iff_meaning_eq, eq_comm]

private theorem map_find?_set
    {α : Type}
    (entries : List (Key × α))
    (key : Key)
    (value : α)
    (other : Key) :
    ((entries.map fun entry => if entry.1.same key then (entry.1, value) else entry).find?
        fun entry => entry.1.same other).map Prod.snd =
      if key.same other = true then
        (entries.find? fun entry => entry.1.same other).map fun _ => value
      else
        (entries.find? fun entry => entry.1.same other).map Prod.snd := by
  induction entries with
  | nil =>
      simp
  | cons entry rest inductionHypothesis =>
      by_cases isKey : entry.1.same key = true
      · have sameOther : entry.1.same other = key.same other := by
          rw [same_comm entry.1, same_comm key, same_congr isKey]
        rw [List.map_cons, if_pos isKey, List.find?_cons, List.find?_cons, sameOther]
        cases isOtherKey : key.same other with
        | true => rfl
        | false => rw [isOtherKey] at inductionHypothesis; exact inductionHypothesis
      · rw [List.map_cons, if_neg isKey, List.find?_cons, List.find?_cons]
        cases isOtherKey : entry.1.same other with
        | true =>
            have notKey : ¬ key.same other = true := by
              rw [← same_congr isOtherKey, same_comm]
              exact isKey
            rw [if_neg notKey]
        | false => exact inductionHypothesis

/-- Setting an entry changes what stands under its key, and nothing else. -/
theorem map_find?_insert
    {α : Type}
    (entries : List (Key × α))
    (key : Key)
    (value : α)
    (other : Key) :
    ((insert entries key value).find? fun entry => entry.1.same other).map Prod.snd =
      if key.same other = true then some value
      else (entries.find? fun entry => entry.1.same other).map Prod.snd := by
  unfold insert
  split
  · next someSame =>
      rw [map_find?_set]
      by_cases isKey : key.same other = true
      · obtain ⟨entry, member, sameKey⟩ := List.any_eq_true.mp someSame
        have isThere : (entries.find? fun entry => entry.1.same other).isSome = true :=
          List.find?_isSome.mpr ⟨entry, member, by rw [← same_congr isKey, sameKey]⟩
        obtain ⟨held, isHeld⟩ := Option.isSome_iff_exists.mp isThere
        rw [if_pos isKey, if_pos isKey, isHeld, Option.map_some]
      · rw [if_neg isKey, if_neg isKey]
  · next noneSame =>
      rw [List.find?_append, Option.map_or, List.find?_singleton]
      by_cases isKey : key.same other = true
      · have notThere : (entries.find? fun entry => entry.1.same other) = none := by
          refine List.find?_eq_none.mpr fun entry member sameOther => noneSame ?_
          exact List.any_eq_true.mpr ⟨entry, member, by rw [same_congr isKey, sameOther]⟩
        rw [notThere, if_pos isKey, if_pos isKey]
        rfl
      · rw [if_neg isKey, if_neg isKey]
        exact Option.or_none

end Key

/-!
## Looking up what was set

What stands under a name is what was last set there; setting other keys leaves it alone.
-/

namespace Key

theorem same_text_iff
    (key : Key)
    (name : String) :
    key.same (.text name) = true ↔ key = .text name := by
  cases key with
  | float number =>
      cases whole : number.toInt? <;> simp [same, normalized, whole]
  | bool truth =>
      cases truth <;> simp [same, normalized]
  | null | int _ | text _ | unpaired _ | bytes _ | timestamp _ =>
      simp [same, normalized]

end Key

namespace Value

/-- The entries of a mapping, also of one that stands inside itself. -/
def entries? : Value → Option (List (Key × Value))
  | .map entries | .again (.map entries) => some entries
  | _ => none

theorem eq_of_entries?
    {value : Value}
    {entries : List (Key × Value)}
    (areEntries : value.entries? = some entries) :
    value = .map entries ∨ value = .again (.map entries) := by
  unfold entries? at areEntries
  split at areEntries <;> simp_all

/-- What stands under a name stands under the name as a key. -/
theorem lookup?_eq_map_find?
    (entries : List (Key × Value))
    (name : String) :
    lookup? entries name =
      (entries.find? fun entry => entry.1.same (.text name)).map Prod.snd := by
  have sameTest :
      (fun entry : Key × Value => entry.1 == Key.text name) =
        fun entry => entry.1.same (.text name) := by
    funext entry
    rw [Bool.eq_iff_iff, Key.same_text_iff, beq_iff_eq]
  rw [lookup?, sameTest]

theorem lookup?_cons
    (entry : Key × Value)
    (rest : List (Key × Value))
    (name : String) :
    lookup? (entry :: rest) name =
      if entry.1 = .text name then some entry.2 else lookup? rest name := by
  by_cases isName : entry.1 = .text name
  · simp [lookup?, isName]
  · simp [lookup?, isName]

/-- What is found under a name stands in an entry with that name. -/
theorem mem_of_lookup?
    {entries : List (Key × Value)}
    {name : String}
    {value : Value}
    (found : lookup? entries name = some value) :
    (Key.text name, value) ∈ entries := by
  obtain ⟨⟨key, held⟩, isFirst, rfl⟩ := Option.map_eq_some_iff.mp found
  have isName := List.find?_some isFirst
  simp only [beq_iff_eq] at isName
  rw [← isName]
  exact List.mem_of_find?_eq_some isFirst

/-- Among different keys, every entry with a name is found under it. -/
theorem lookup?_of_mem
    {entries : List (Key × Value)}
    {name : String}
    {value : Value}
    (different : DifferentKeys entries)
    (member : (Key.text name, value) ∈ entries) :
    lookup? entries name = some value := by
  induction entries with
  | nil =>
      cases member
  | cons entry rest inductionHypothesis =>
      obtain ⟨differHere, differInRest⟩ := List.pairwise_cons.mp different
      rw [lookup?_cons]
      rcases List.mem_cons.mp member with rfl | member
      · simp
      · rw [if_neg, inductionHypothesis differInRest member]
        intro isName
        have differs := differHere _ member
        rw [isName, (Key.same_text_iff _ name).mpr rfl] at differs
        cases differs

theorem key_of_mem_insert
    {entries : List (Key × Value)}
    {key : Key}
    {value : Value}
    {entry : Key × Value}
    (member : entry ∈ insert entries key value) :
    entry.1 = key ∨ ∃ before ∈ entries, before.1 = entry.1 :=
  Key.eq_or_exists_of_mem_insert member

theorem lookup?_insert_self
    (entries : List (Key × Value))
    (name : String)
    (value : Value) :
    lookup? (insert entries (.text name) value) name = some value := by
  rw [lookup?_eq_map_find?, insert, Key.map_find?_insert, if_pos (Key.same_self _)]

/-- Setting another key leaves alone what stands under a name. -/
theorem lookup?_insert_of_key_ne
    {key : Key}
    {name : String}
    (entries : List (Key × Value))
    (value : Value)
    (different : key ≠ .text name) :
    lookup? (insert entries key value) name = lookup? entries name := by
  rw [lookup?_eq_map_find?, lookup?_eq_map_find?, insert, Key.map_find?_insert, if_neg]
  exact fun sameKey => different ((Key.same_text_iff key name).mp sameKey)

theorem lookup?_insert_of_ne
    {name other : String}
    (entries : List (Key × Value))
    (value : Value)
    (different : other ≠ name) :
    lookup? (insert entries (.text name) value) other = lookup? entries other :=
  lookup?_insert_of_key_ne entries value fun sameKey => different (Key.text.inj sameKey).symm

/-- Entries with other keys hold nothing under a name. -/
theorem lookup?_eq_none_of_different
    {entries : List (Key × Value)}
    {name : String}
    (different : ∀ entry ∈ entries, (Key.text name).same entry.1 = false) :
    lookup? entries name = none := by
  refine Option.eq_none_iff_forall_not_mem.mpr fun value found => ?_
  have differs := different _ (mem_of_lookup? found)
  rw [(Key.same_text_iff _ name).mpr rfl] at differs
  cases differs

/-- Entries with different keys that are set take the place of what stood under their names. -/
theorem lookup?_insertAll
    {added : List (Key × Value)}
    (different : DifferentKeys added)
    (entries : List (Key × Value))
    (name : String) :
    lookup? (insertAll entries added) name =
      (lookup? added name).or (lookup? entries name) := by
  induction added generalizing entries with
  | nil =>
      rfl
  | cons entry rest inductionHypothesis =>
      obtain ⟨differHere, differInRest⟩ := List.pairwise_cons.mp different
      change lookup? (insertAll (insert entries entry.1 entry.2) rest) name = _
      rw [inductionHypothesis differInRest, lookup?_cons]
      split
      · next isName =>
          rw [isName] at differHere
          rw [lookup?_eq_none_of_different differHere, isName, lookup?_insert_self]
          rfl
      · next notName =>
          rw [lookup?_insert_of_key_ne entries entry.2 notName]

/-- Entries whose keys differ from each other and from those that stand are set behind them. -/
theorem insertAll_eq_append
    {entries added : List (Key × Value)}
    (different : DifferentKeys (entries ++ added)) :
    insertAll entries added = entries ++ added := by
  induction added generalizing entries with
  | nil =>
      exact (List.append_nil entries).symm
  | cons entry rest inductionHypothesis =>
      have isNew : ¬ (entries.any fun other => other.1.same entry.1) = true := by
        simp only [List.any_eq_true, not_exists, not_and, Bool.not_eq_true]
        exact fun other member =>
          (List.pairwise_append.mp different).2.2 other member entry List.mem_cons_self
      have inserted : insert entries entry.1 entry.2 = entries ++ [entry] := if_neg isNew
      change insertAll (insert entries entry.1 entry.2) rest = _
      rw [inserted, inductionHypothesis (by simpa using different), List.append_assoc,
        List.singleton_append]

end Value

end TypeCatalog
