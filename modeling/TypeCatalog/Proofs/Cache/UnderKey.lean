import TypeCatalog.Proofs.Cache.Entries

namespace TypeCatalog.ResponseCache

/-!
# What happens under one key

A cache works on the entry under one key at a time.  The entries under all other keys stay as they
are, and what a call answers and leaves under its own key depends on the entry there, on the clock
and on what is produced.
-/

variable {α ε σ : Type}

section Writing

variable (cache : ResponseCache α) (key : String)

@[simp]
theorem entry?_erase_self : entry? (cache.erase key) key = none := by
  unfold entry? erase
  simp

theorem entry?_erase_of_ne
    {other : String}
    (different : other ≠ key) :
    entry? (cache.erase key) other = cache.entry? other := by
  unfold entry? erase
  rw [List.find?_filter]
  congr 1
  funext entry
  by_cases isOther : entry.key = other
  · simp [isOther, different]
  · simp [isOther]

@[simp]
theorem entry?_set_self
    (payload : α)
    (lifetime : Binary64) :
    entry? (cache.set key payload lifetime) key =
      some ⟨key, payload, cache.clock.add lifetime⟩ := by
  have nothingLeft := cache.entry?_erase_self key
  unfold entry? at nothingLeft ⊢
  simp [set, List.find?_append, nothingLeft]

theorem entry?_set_of_ne
    {other : String}
    (different : other ≠ key)
    (payload : α)
    (lifetime : Binary64) :
    entry? (cache.set key payload lifetime) other = cache.entry? other := by
  have untouched := cache.entry?_erase_of_ne key different
  unfold entry? at untouched ⊢
  simp [set, List.find?_append, untouched, different.symm]

end Writing

section Reading

variable (cache : ResponseCache α) (key : String)

/-- A read drops an expired entry and gives the payload of any other. -/
theorem get_fst :
    (cache.get key).1 =
      ((cache.entry? key).filter fun entry => !cache.isExpired entry).map CacheEntry.payload := by
  unfold get
  cases cache.entry? key with
  | none =>
      rfl
  | some entry =>
      cases expired : cache.isExpired entry <;> simp [expired, Option.filter_some]

@[simp]
theorem clock_get : (cache.get key).2.clock = cache.clock := by
  unfold get
  split
  · rfl
  · split <;> rfl

theorem entry?_get_self :
    entry? (cache.get key).2 key =
      (cache.entry? key).filter fun entry => !cache.isExpired entry := by
  unfold get
  cases found : cache.entry? key with
  | none =>
      exact found
  | some entry =>
      cases expired : cache.isExpired entry with
      | true =>
          simp [expired, Option.filter_some]
      | false =>
          simp [expired, found, Option.filter_some]

theorem entry?_get_of_ne
    {other : String}
    (different : other ≠ key) :
    entry? (cache.get key).2 other = cache.entry? other := by
  unfold get
  split
  · rfl
  · split
    · exact cache.entry?_erase_of_ne key different
    · rfl

end Reading

section Executing

variable
  (cache : ResponseCache α)
  (key : String)
  (lifetime : Except ε Binary64)
  (noCache : Bool)
  (produce : Unit → Except ε α × σ)
  (untouched : σ)

@[simp]
theorem clock_execute :
    (cache.execute key lifetime noCache produce untouched).2.1.clock = cache.clock := by
  have clockRead := cache.clock_get key
  unfold execute
  split
  · rfl
  · split
    · next read =>
        rw [read] at clockRead
        exact clockRead
    · next read =>
        rw [read] at clockRead
        dsimp only at clockRead ⊢
        split <;> exact clockRead

/-- A call leaves the entries under all other keys alone. -/
theorem entry?_execute_of_ne
    {other : String}
    (different : other ≠ key) :
    entry? (cache.execute key lifetime noCache produce untouched).2.1 other =
      cache.entry? other := by
  have afterRead := cache.entry?_get_of_ne key different
  unfold execute
  split
  · rfl
  · split
    · next read =>
        rw [read] at afterRead
        exact afterRead
    · next after read =>
        rw [read] at afterRead
        dsimp only at afterRead ⊢
        split
        · rw [after.entry?_set_of_ne key different]
          exact afterRead
        · exact afterRead
        · exact afterRead

/-- A call that reads nothing produces a payload, and keeps it when its lifetime can be used. -/
theorem execute_of_miss
    (missed : (cache.get key).1 = none) :
    cache.execute key lifetime false produce untouched =
      match (produce ()).1, lifetime with
      | .ok payload, .ok seconds =>
        (.ok payload, (cache.get key).2.set key payload seconds, (produce ()).2)
      | .ok _, .error failure | .error failure, _ =>
        (.error failure, (cache.get key).2, (produce ()).2) := by
  unfold execute
  rw [if_neg Bool.false_ne_true]
  split
  · next read =>
      rw [read] at missed
      cases missed
  · next after read =>
      obtain rfl : (cache.get key).2 = after := congrArg Prod.snd read
      rfl

/-- Calls that produce alike leave the same cache. -/
theorem cache_execute_eq_of_produce_eq
    {τ : Type}
    {otherProduce : Unit → Except ε α × τ}
    (same : (produce ()).1 = (otherProduce ()).1)
    (otherUntouched : τ) :
    (cache.execute key lifetime noCache produce untouched).2.1 =
      (cache.execute key lifetime noCache otherProduce otherUntouched).2.1 := by
  unfold execute
  split
  · rfl
  · split
    · rfl
    · dsimp only
      rw [← same]
      split <;> rfl

end Executing

section Alike

variable
  {τ : Type}
  {first second : ResponseCache α}
  {key : String}
  {lifetime : Except ε Binary64}
  {noCache : Bool}
  {produce : Unit → Except ε α × σ}
  {otherProduce : Unit → Except ε α × τ}

/-- Calls that read and produce alike answer alike. -/
theorem execute_fst_congr
    (sameRead : (first.get key).1 = (second.get key).1)
    (sameProduce : (produce ()).1 = (otherProduce ()).1)
    (untouched : σ)
    (otherUntouched : τ) :
    (first.execute key lifetime noCache produce untouched).1 =
      (second.execute key lifetime noCache otherProduce otherUntouched).1 := by
  cases noCache with
  | true =>
      exact sameProduce
  | false =>
      cases read : (second.get key).1 with
      | some payload =>
          rw [execute_of_get lifetime produce untouched (sameRead.trans read),
            execute_of_get lifetime otherProduce otherUntouched read]
      | none =>
          rw [execute_of_miss _ _ _ _ _ (sameRead.trans read), execute_of_miss _ _ _ _ _ read,
            sameProduce]
          cases (otherProduce ()).1 <;> cases lifetime <;> rfl

variable
  (sameClock : first.clock = second.clock)
  (sameEntry : first.entry? key = second.entry? key)

include sameClock sameEntry

/-- At one time, the same entry is read alike. -/
theorem get_fst_congr : (first.get key).1 = (second.get key).1 := by
  simp only [get_fst, isExpired, sameClock, sameEntry]

/-- At one time, calls that find the same entry and produce alike leave the same entry. -/
theorem entry?_execute_congr
    (sameProduce : (produce ()).1 = (otherProduce ()).1)
    (untouched : σ)
    (otherUntouched : τ) :
    entry? (first.execute key lifetime noCache produce untouched).2.1 key =
      entry? (second.execute key lifetime noCache otherProduce otherUntouched).2.1 key := by
  have sameRead := get_fst_congr sameClock sameEntry
  have sameLeft : entry? (first.get key).2 key = entry? (second.get key).2 key := by
    simp only [entry?_get_self, isExpired, sameClock, sameEntry]
  cases noCache with
  | true =>
      exact sameEntry
  | false =>
      cases read : (second.get key).1 with
      | some payload =>
          rw [execute_of_get lifetime produce untouched (sameRead.trans read),
            execute_of_get lifetime otherProduce otherUntouched read]
          exact sameEntry
      | none =>
          rw [execute_of_miss _ _ _ _ _ (sameRead.trans read), execute_of_miss _ _ _ _ _ read,
            sameProduce]
          cases (otherProduce ()).1 with
          | error failure =>
              exact sameLeft
          | ok payload =>
              cases lifetime with
              | error failure =>
                  exact sameLeft
              | ok seconds =>
                  simp only [entry?_set_self, clock_get, sameClock]

end Alike

end TypeCatalog.ResponseCache
