import Mathlib.Data.List.Nodup
import TypeCatalog.Cache.Store

namespace TypeCatalog.ResponseCache

/-!
# What the cache holds

Every entry of the cache after a call was there before, or it is the one entry that the call kept.
A payload that is read stands in an entry under its key.  No two entries share a key, whatever calls
the cache has been through, so reading drops at most one entry, the one under the key that is read,
and only once that entry has expired.  A call that fails does nothing else to the cache.
-/

variable {α ε σ : Type}

/-! ## Entries after a call -/

/-- A payload that is read stands in an entry under its key. -/
theorem exists_entry_of_get
    {cache after : ResponseCache α}
    {key : String}
    {payload : α}
    (read : cache.get key = (some payload, after)) :
    ∃ entry ∈ cache.entries, entry.key = key ∧ entry.payload = payload := by
  unfold get at read
  split at read
  · cases read
  · next entry found =>
      split at read
      · cases read
      · cases read
        exact ⟨entry, List.mem_of_find?_eq_some found, by
          simpa using List.find?_some found, rfl⟩

theorem mem_of_mem_get
    {cache : ResponseCache α}
    {key : String}
    {entry : CacheEntry α}
    (member : entry ∈ (cache.get key).2.entries) :
    entry ∈ cache.entries := by
  unfold get at member
  split at member
  · exact member
  · split at member
    · exact (List.mem_filter.mp member).1
    · exact member

theorem mem_of_mem_set
    {cache : ResponseCache α}
    {key : String}
    {payload : α}
    {lifetime : Binary64}
    {entry : CacheEntry α}
    (member : entry ∈ (cache.set key payload lifetime).entries) :
    entry ∈ cache.entries ∨ entry.key = key ∧ entry.payload = payload := by
  rcases List.mem_append.mp member with earlier | added
  · exact .inl (List.mem_filter.mp earlier).1
  · rw [List.mem_singleton.mp added]
    exact .inr ⟨rfl, rfl⟩

/-- An entry after a call was there before or holds what the call produced. -/
theorem mem_of_mem_execute
    {cache : ResponseCache α}
    {key : String}
    {lifetime : Except ε Binary64}
    {noCache : Bool}
    {produce : Unit → Except ε α × σ}
    {untouched : σ}
    {entry : CacheEntry α}
    (member :
      entry ∈ (cache.execute key lifetime noCache produce untouched).2.1.entries) :
    entry ∈ cache.entries ∨ entry.key = key ∧ (produce ()).1 = .ok entry.payload := by
  unfold execute at member
  split at member
  · exact .inl member
  · split at member
    · next read =>
        have inRead : entry ∈ (cache.get key).2.entries := by
          rw [read]
          exact member
        exact .inl (mem_of_mem_get inRead)
    · next after read =>
        have wasThere {other : CacheEntry α} (inAfter : other ∈ after.entries) :
            other ∈ cache.entries :=
          mem_of_mem_get (by rw [read]; exact inAfter)
        dsimp only at member
        split at member
        · next payload seconds produced =>
            rcases mem_of_mem_set member with earlier | ⟨keySame, payloadSame⟩
            · exact .inl (wasThere earlier)
            · exact .inr ⟨keySame, by rw [payloadSame]; exact produced⟩
        · exact .inl (wasThere member)
        · exact .inl (wasThere member)

/-- A payload that a call answers stands in an entry under its key, or the call produced it. -/
theorem exists_entry_under_key_of_execute
    {cache : ResponseCache α}
    {key : String}
    {lifetime : Except ε Binary64}
    {noCache : Bool}
    {produce : Unit → Except ε α × σ}
    {untouched : σ}
    {payload : α}
    (answered : (cache.execute key lifetime noCache produce untouched).1 = .ok payload) :
    (∃ entry ∈ cache.entries, entry.key = key ∧ entry.payload = payload) ∨
      (produce ()).1 = .ok payload := by
  unfold execute at answered
  split at answered
  · exact .inr answered
  · split at answered
    · next read =>
        cases answered
        exact .inl (exists_entry_of_get read)
    · dsimp only at answered
      split at answered
      · next produced =>
          cases answered
          exact .inr produced
      · cases answered
      · cases answered

/-- A payload that a call answers stands in an entry, or the call produced it. -/
theorem exists_entry_or_produced_of_execute
    {cache : ResponseCache α}
    {key : String}
    {lifetime : Except ε Binary64}
    {noCache : Bool}
    {produce : Unit → Except ε α × σ}
    {untouched : σ}
    {payload : α}
    (answered : (cache.execute key lifetime noCache produce untouched).1 = .ok payload) :
    (∃ entry ∈ cache.entries, entry.payload = payload) ∨ (produce ()).1 = .ok payload := by
  rcases exists_entry_under_key_of_execute answered with
    ⟨entry, member, _, payloadSame⟩ | produced
  · exact .inl ⟨entry, member, payloadSame⟩
  · exact .inr produced

/-- A call fails because producing fails or because the lifetime cannot be used. -/
theorem failure_of_execute
    {cache : ResponseCache α}
    {key : String}
    {lifetime : Except ε Binary64}
    {noCache : Bool}
    {produce : Unit → Except ε α × σ}
    {untouched : σ}
    {failure : ε}
    (failed : (cache.execute key lifetime noCache produce untouched).1 = .error failure) :
    (produce ()).1 = .error failure ∨ lifetime = .error failure := by
  unfold execute at failed
  split at failed
  · exact .inl failed
  · split at failed
    · cases failed
    · dsimp only at failed
      split at failed
      · cases failed
      · next unusable =>
          cases failed
          exact .inr rfl
      · next failedThere =>
          cases failed
          exact .inl failedThere

/-- A call leaves alone what producing changes, or it produced. -/
theorem execute_untouched_or_produced
    (cache : ResponseCache α)
    (key : String)
    (lifetime : Except ε Binary64)
    (noCache : Bool)
    (produce : Unit → Except ε α × σ)
    (untouched : σ) :
    (cache.execute key lifetime noCache produce untouched).2.2 = untouched ∨
      (cache.execute key lifetime noCache produce untouched).2.2 = (produce ()).2 := by
  unfold execute
  split
  · exact .inr rfl
  · split
    · exact .inl rfl
    · dsimp only
      split
      · exact .inr rfl
      · exact .inr rfl
      · exact .inr rfl

theorem execute_noCache
    (cache : ResponseCache α)
    (key : String)
    (lifetime : Except ε Binary64)
    (produce : Unit → Except ε α × σ)
    (untouched : σ) :
    (cache.execute key lifetime true produce untouched).1 = (produce ()).1 :=
  rfl

/-- With the cache a call answers what it produces, if that is what an entry under its key holds,
or it fails because the lifetime cannot be used. -/
theorem execute_eq_produce_or_error
    {cache : ResponseCache α}
    {key : String}
    (lifetime : Except ε Binary64)
    (noCache : Bool)
    (produce : Unit → Except ε α × σ)
    (untouched : σ)
    (holds :
      ∀ entry ∈ cache.entries, entry.key = key → (produce ()).1 = .ok entry.payload) :
    (cache.execute key lifetime noCache produce untouched).1 = (produce ()).1 ∨
      ∃ failure, lifetime = .error failure ∧
        (cache.execute key lifetime noCache produce untouched).1 = .error failure := by
  unfold execute
  split
  · exact .inl rfl
  · split
    · next read =>
        obtain ⟨entry, member, keySame, payloadSame⟩ := exists_entry_of_get read
        rw [holds entry member keySame, payloadSame]
        exact .inl rfl
    · dsimp only
      split
      · next produced =>
          exact .inl produced.symm
      · next failure _ =>
          exact .inr ⟨failure, rfl, rfl⟩
      · next failed =>
          exact .inl failed.symm

/-- With a lifetime that can be used a call answers what it produces, if that is what an entry
under its key holds. -/
theorem execute_eq_produce
    {cache : ResponseCache α}
    {key : String}
    {seconds : Binary64}
    {produce : Unit → Except ε α × σ}
    {untouched : σ}
    (noCache : Bool)
    (holds :
      ∀ entry ∈ cache.entries, entry.key = key → (produce ()).1 = .ok entry.payload) :
    (cache.execute key (.ok seconds) noCache produce untouched).1 = (produce ()).1 := by
  rcases execute_eq_produce_or_error (.ok seconds) noCache produce untouched holds with
    asProduced | ⟨failure, unusable, _⟩
  · exact asProduced
  · cases unusable

/-- A call whose producing fails fails in the same way, if no entry under its key holds a payload. -/
theorem execute_eq_error
    {cache : ResponseCache α}
    {key : String}
    {produce : Unit → Except ε α × σ}
    {failure : ε}
    (lifetime : Except ε Binary64)
    (noCache : Bool)
    (untouched : σ)
    (failed : (produce ()).1 = .error failure)
    (noEntry : ∀ entry ∈ cache.entries, entry.key ≠ key) :
    (cache.execute key lifetime noCache produce untouched).1 = .error failure := by
  unfold execute
  split
  · exact failed
  · split
    · next read =>
        obtain ⟨entry, member, keySame, _⟩ := exists_entry_of_get read
        exact absurd keySame (noEntry entry member)
    · dsimp only
      rw [failed]

/-! ## What a call drops from the cache -/

/-- No two entries share a key. -/
def KeysDistinct (cache : ResponseCache α) : Prop :=
  (cache.entries.map CacheEntry.key).Nodup

/-- A cache after a call that kept nothing in it: at most an expired entry under the key of the call
is gone. -/
structure Sheds
    (before : ResponseCache α)
    (key : String)
    (after : ResponseCache α) : Prop where
  clock_eq : after.clock = before.clock
  sublist : after.entries.Sublist before.entries
  expired :
    ∀ entry ∈ before.entries, entry ∉ after.entries →
      entry.key = key ∧ before.isExpired entry = true

theorem Sheds.refl
    (cache : ResponseCache α)
    (key : String) :
    cache.Sheds key cache :=
  ⟨rfl, .refl _, fun _ member gone => absurd member gone⟩

theorem keysDistinct_empty (clock : Binary64) :
    (empty clock : ResponseCache α).KeysDistinct :=
  List.nodup_nil

namespace KeysDistinct

variable {cache : ResponseCache α}

theorem erase
    (distinct : cache.KeysDistinct)
    (key : String) :
    (cache.erase key).KeysDistinct :=
  List.Nodup.sublist (List.filter_sublist.map CacheEntry.key) distinct

theorem get
    (distinct : cache.KeysDistinct)
    (key : String) :
    (cache.get key).2.KeysDistinct := by
  unfold ResponseCache.get
  split
  · exact distinct
  · split
    · exact distinct.erase key
    · exact distinct

theorem set
    (distinct : cache.KeysDistinct)
    (key : String)
    (payload : α)
    (lifetime : Binary64) :
    (cache.set key payload lifetime).KeysDistinct := by
  have keyErased : key ∉ (cache.erase key).entries.map CacheEntry.key := by
    intro member
    obtain ⟨entry, kept, keySame⟩ := List.mem_map.mp member
    exact bne_iff_ne.mp (List.mem_filter.mp kept).2 keySame
  rw [KeysDistinct, ResponseCache.set, List.map_append]
  refine List.nodup_append.mpr ⟨distinct.erase key, List.nodup_singleton key, ?_⟩
  intro other inErased last isLast same
  rw [same, List.mem_singleton.mp isLast] at inErased
  exact keyErased inErased

/-- A call keeps the keys distinct. -/
theorem execute
    (distinct : cache.KeysDistinct)
    (key : String)
    (lifetime : Except ε Binary64)
    (noCache : Bool)
    (produce : Unit → Except ε α × σ)
    (untouched : σ) :
    (cache.execute key lifetime noCache produce untouched).2.1.KeysDistinct := by
  have afterRead := distinct.get key
  unfold ResponseCache.execute
  split
  · exact distinct
  · split
    · next read =>
        rw [read] at afterRead
        exact afterRead
    · next read =>
        rw [read] at afterRead
        dsimp only
        split
        · exact afterRead.set key _ _
        · exact afterRead
        · exact afterRead

/-- The entry that is read under the key of an entry is that entry. -/
theorem eq_of_entry?
    {key : String}
    {found entry : CacheEntry α}
    (distinct : cache.KeysDistinct)
    (read : cache.entry? key = some found)
    (member : entry ∈ cache.entries)
    (keySame : entry.key = key) :
    entry = found := by
  have foundKey : found.key = key := by
    simpa using List.find?_some read
  exact List.inj_on_of_nodup_map distinct member (List.mem_of_find?_eq_some read)
    (keySame.trans foundKey.symm)

/-- Reading drops at most an expired entry under the key that is read. -/
theorem sheds_get
    (distinct : cache.KeysDistinct)
    (key : String) :
    cache.Sheds key (cache.get key).2 := by
  unfold ResponseCache.get
  split
  · exact .refl cache key
  · next found read =>
      split
      · next foundExpired =>
          refine ⟨rfl, List.filter_sublist, fun entry member gone => ?_⟩
          have keySame : entry.key = key := by
            by_contra keyOther
            exact gone (List.mem_filter.mpr ⟨member, bne_iff_ne.mpr keyOther⟩)
          have entryFound : entry = found := distinct.eq_of_entry? read member keySame
          exact ⟨keySame, entryFound ▸ foundExpired⟩
      · exact .refl cache key

/-- A call that fails drops at most an expired entry under its own key. -/
theorem sheds_execute
    {key : String}
    {lifetime : Except ε Binary64}
    {noCache : Bool}
    {produce : Unit → Except ε α × σ}
    {untouched : σ}
    {failure : ε}
    (distinct : cache.KeysDistinct)
    (failed : (cache.execute key lifetime noCache produce untouched).1 = .error failure) :
    cache.Sheds key (cache.execute key lifetime noCache produce untouched).2.1 := by
  have afterRead := distinct.sheds_get key
  unfold ResponseCache.execute at failed ⊢
  split
  · exact .refl cache key
  · next cached =>
      rw [if_neg cached] at failed
      split
      · next read =>
          rw [read] at failed
          cases failed
      · next read =>
          rw [read] at failed afterRead
          dsimp only at failed ⊢
          split
          · next produced =>
              rw [produced] at failed
              cases failed
          · exact afterRead
          · exact afterRead

end KeysDistinct

/-- A payload that is read is answered, and nothing else happens. -/
theorem execute_of_get
    {cache : ResponseCache α}
    {key : String}
    {payload : α}
    (lifetime : Except ε Binary64)
    (produce : Unit → Except ε α × σ)
    (untouched : σ)
    (read : (cache.get key).1 = some payload) :
    cache.execute key lifetime false produce untouched = (.ok payload, cache, untouched) := by
  unfold get at read
  unfold execute get
  split at read
  · cases read
  · next entry found =>
      split at read
      · cases read
      · next fresh =>
          cases read
          simp [fresh]

/-- A call that does not use the cache, or reads nothing from it, produces. -/
theorem execute_produced
    {cache : ResponseCache α}
    {key : String}
    {noCache : Bool}
    (lifetime : Except ε Binary64)
    (produce : Unit → Except ε α × σ)
    (untouched : σ)
    (unread : noCache = true ∨ (cache.get key).1 = none) :
    (cache.execute key lifetime noCache produce untouched).2.2 = (produce ()).2 := by
  unfold execute
  split
  · rfl
  · next cached =>
      have readNothing : (cache.get key).1 = none := unread.resolve_left cached
      split
      · next read =>
          rw [read] at readNothing
          cases readNothing
      · dsimp only
        split <;> rfl

end TypeCatalog.ResponseCache
