import TypeCatalog.Number.Binary64

namespace TypeCatalog

/-!
# The response cache

Payloads are kept under keys until they expire.  Nothing is swept: an expired entry is dropped by
the read that meets it.
-/

/-- One cached payload. -/
structure CacheEntry (α : Type) where
  key : String
  payload : α
  expiresAt : Binary64
deriving Repr

/-- A cache: its entries and the time on its clock in seconds. -/
structure ResponseCache (α : Type) where
  entries : List (CacheEntry α)
  clock : Binary64
deriving Repr

namespace ResponseCache

variable {α : Type}

/-- A cache without entries. -/
def empty (clock : Binary64) : ResponseCache α :=
  ⟨[], clock⟩

/-- The number of entries, those included that have expired but were not read since. -/
def size (cache : ResponseCache α) : Nat :=
  cache.entries.length

/-- The entry under a key. -/
def entry?
    (cache : ResponseCache α)
    (key : String) : Option (CacheEntry α) :=
  cache.entries.find? fun entry => entry.key == key

/-- Whether an entry has expired.  One that expires at no defined time never does. -/
def isExpired
    (cache : ResponseCache α)
    (entry : CacheEntry α) : Bool :=
  entry.expiresAt.atMost cache.clock

/-- Drops the entry under a key. -/
def erase
    (cache : ResponseCache α)
    (key : String) : ResponseCache α :=
  { cache with entries := cache.entries.filter fun entry => entry.key != key }

/-- The payload under a key, if it has not expired; an expired entry is dropped. -/
def get
    (cache : ResponseCache α)
    (key : String) : Option α × ResponseCache α :=
  match cache.entry? key with
  | none => (none, cache)
  | some entry =>
    if cache.isExpired entry then (none, cache.erase key) else (some entry.payload, cache)

/-- Keeps a payload under a key for so many seconds. -/
def set
    (cache : ResponseCache α)
    (key : String)
    (payload : α)
    (lifetime : Binary64) : ResponseCache α :=
  { (cache.erase key) with
    entries := (cache.erase key).entries ++ [⟨key, payload, cache.clock.add lifetime⟩] }

/-- Drops all entries. -/
def clear (cache : ResponseCache α) : ResponseCache α :=
  { cache with entries := [] }

/-- Moves the clock forward. -/
def advance
    (cache : ResponseCache α)
    (seconds : Binary64) : ResponseCache α :=
  { cache with clock := cache.clock.add seconds }

/-- Answers from the cache, or produces a payload and keeps it.  A failure is never kept; without
the cache nothing is read and nothing kept.  A lifetime that cannot be used is noticed only when a
payload is to be kept. -/
def execute
    {ε σ : Type}
    (cache : ResponseCache α)
    (key : String)
    (lifetime : Except ε Binary64)
    (noCache : Bool)
    (produce : Unit → Except ε α × σ)
    (untouched : σ) : Except ε α × ResponseCache α × σ :=
  if noCache then
    let produced := produce ()
    (produced.1, cache, produced.2)
  else
    match cache.get key with
    | (some payload, after) => (.ok payload, after, untouched)
    | (none, after) =>
      let produced := produce ()
      match produced.1, lifetime with
      | .ok payload, .ok seconds => (.ok payload, after.set key payload seconds, produced.2)
      | .ok _, .error failure | .error failure, _ => (.error failure, after, produced.2)

end ResponseCache

end TypeCatalog
