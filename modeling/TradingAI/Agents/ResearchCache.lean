import TradingAI.Domain.Values
import TradingAI.Lib.KeyedTable
import Mathlib.Logic.Function.Basic

/-!
# `Agents.ResearchCache` — the cache in front of the research providers

`ResearchCache.load` answers a request from the database while the stored payload is fresh, and fetches
otherwise. What it fetches is stored under the key of the request; if the fetch fails with an HTTP error, the
stored payload is returned although it is stale. A cache without a session has no database: it fetches every
time and stores nothing. All caches with a session share one table.

A datetime counts microseconds from `datetime.min`; a payload is anything.

## Contents
- `ResearchKey`, `ResearchData`, `ResearchDataCacheRepository`.
- `ResearchCache`, `ResearchCache.load`.
- `CacheCall`, `ResearchState`: calls of many caches, one after another.
-/

namespace TradingAI

open KeyedTable

/-! ## The repository -/

/-- `str.upper`. What is upper case stays as it is. -/
structure UpperCase where
  upper      : String → String
  idempotent : ∀ s, upper (upper s) = upper s

/-- `str.upper`, as far as ASCII goes. -/
def strUpper : UpperCase := ⟨upperSymbol, upperSymbol_upperSymbol⟩

/-- The columns of the unique constraint. -/
structure ResearchKey where
  provider : String
  symbol   : String
  dataset  : String
  cacheKey : String
  deriving DecidableEq

/-- The other columns of a row of `research_data_cache`. -/
structure ResearchData (P : Type) where
  payloadJson : P
  fetchedAt   : ℤ
  expiresAt   : Option ℤ
  createdAt   : ℤ
  updatedAt   : ℤ

abbrev ResearchTable (P : Type) := Table ResearchKey (ResearchData P)

variable {P : Type}

/-- What a later call reads of a row: its payload and its expiry. -/
def ResearchData.stored (row : ResearchData P) : P × Option ℤ := (row.payloadJson, row.expiresAt)

/-- `expires_at IS NULL OR expires_at > now`. -/
def unexpired (expiresAt : Option ℤ) (now : ℤ) : Bool := expiresAt.all fun t => now < t

namespace ResearchDataCacheRepository

variable (u : UpperCase) (table : ResearchTable P) (key : ResearchKey)

/-- `_base_statement`: the key it selects. -/
def baseStatement : ResearchKey := { key with symbol := u.upper key.symbol }

/-- `get_fresh`. -/
def getFresh (now : ℤ) : Option (ResearchData P) :=
  (table.find? (baseStatement u key)).filter fun row => unexpired row.expiresAt now

/-- `get_latest_stale`. -/
def getLatestStale : Option (ResearchData P) := table.find? (baseStatement u key)

/-- `upsert`. -/
def upsert (payloadJson : P) (fetchedAt : ℤ) (expiresAt : Option ℤ) : ResearchTable P :=
  let normalized := { key with symbol := u.upper key.symbol }
  match table.find? (baseStatement u normalized) with
  | none =>
      table.put normalized
        { payloadJson, fetchedAt, expiresAt, createdAt := fetchedAt, updatedAt := fetchedAt }
  | some existing =>
      table.put (baseStatement u normalized)
        { existing with payloadJson, fetchedAt, expiresAt, updatedAt := fetchedAt }

@[simp] theorem baseStatement_idempotent : baseStatement u (baseStatement u key) = baseStatement u key := by
  unfold baseStatement
  rw [u.idempotent]

/-- **What an upsert leaves**: its payload under its key, and the rest as it was. -/
theorem find?_upsert (payloadJson : P) (fetchedAt : ℤ) (expiresAt : Option ℤ) (k : ResearchKey) :
    ((upsert u table key payloadJson fetchedAt expiresAt).find? k).map ResearchData.stored =
      if k = baseStatement u key then some (payloadJson, expiresAt)
      else (table.find? k).map ResearchData.stored := by
  have hnormalized : ({ key with symbol := u.upper key.symbol } : ResearchKey) = baseStatement u key := rfl
  unfold upsert
  simp only [hnormalized, baseStatement_idempotent]
  split
  · rw [Table.find?_put]
    split <;> rfl
  · rw [Table.find?_put]
    split <;> rfl

end ResearchDataCacheRepository

/-! ## The cache -/

/-- The `OverflowError` of `now + ttl`. -/
def dateOutOfRange : Raised := ⟨.other, "date value out of range", []⟩

/-- `now + ttl if ttl is not None else None`. -/
def expiryOf (now : ℤ) : Option ℤ → Except Raised (Option ℤ)
  | none     => .ok none
  | some ttl => if 0 ≤ now + ttl ∧ now + ttl < datetimeEnd then .ok (some (now + ttl)) else .error dateOutOfRange

/-- How `fetch` ends: with a payload, an `httpx.HTTPError`, or another exception. -/
inductive FetchOutcome (P : Type)
  | payload (p : P)
  | httpError (e : Raised)
  | failure (e : Raised)

/-- The arguments of `load`, with the clock it reads and what its fetch would answer. -/
structure LoadRequest (P : Type) where
  key   : ResearchKey
  ttl   : Option ℤ
  now   : ℤ
  fetch : FetchOutcome P

/-- How `load` ends, and what it did for it: `hit` is the one end without a fetch. -/
inductive LoadResult (P : Type)
  | hit (p : P)
  | fetched (p : P)
  | stale (p : P)
  | raised (e : Raised)

/-- What `load` returns. -/
def LoadResult.outcome : LoadResult P → Except Raised P
  | .hit p | .fetched p | .stale p => .ok p
  | .raised e                      => .error e

def LoadResult.isHit : LoadResult P → Bool
  | .hit _ => true
  | _      => false

def LoadResult.isStale : LoadResult P → Bool
  | .stale _ => true
  | _        => false

structure DatasetCounts where
  cacheHits      : ℕ := 0
  cacheMisses    : ℕ := 0
  staleFallbacks : ℕ := 0

inductive RecordStatus
  | hit | miss | stale

/-- The object. Its breakdown is flat: provider and dataset together are the key. -/
structure ResearchCache where
  hasRepository     : Bool
  cacheHits         : ℕ := 0
  cacheMisses       : ℕ := 0
  staleFallbackUsed : Bool := false
  providerBreakdown : Table (String × String) DatasetCounts := .empty

namespace ResearchCache

/-- `_record`. -/
def record (cache : ResearchCache) (key : ResearchKey) (status : RecordStatus) : ResearchCache :=
  let counts := (cache.providerBreakdown.find? (key.provider, key.dataset)).getD {}
  let counts := match status with
    | .hit   => { counts with cacheHits := counts.cacheHits + 1 }
    | .miss  => { counts with cacheMisses := counts.cacheMisses + 1 }
    | .stale => { counts with staleFallbacks := counts.staleFallbacks + 1 }
  { cache with providerBreakdown := cache.providerBreakdown.put (key.provider, key.dataset) counts }

/-- A fetch failed with an HTTP error. -/
def fallBack (u : UpperCase) (request : LoadRequest P) (e : Raised) (cache : ResearchCache)
    (table : ResearchTable P) : LoadResult P × ResearchCache :=
  if cache.hasRepository then
    match ResearchDataCacheRepository.getLatestStale u table request.key with
    | none       => (.raised e, cache)
    | some stale =>
        (.stale stale.payloadJson,
          { cache with staleFallbackUsed := true, cacheHits := cache.cacheHits + 1 }.record request.key .stale)
  else (.raised e, cache)

/-- A fetch succeeded. -/
def keep (u : UpperCase) (request : LoadRequest P) (payload : P) (cache : ResearchCache)
    (table : ResearchTable P) : LoadResult P × ResearchTable P :=
  if cache.hasRepository then
    match expiryOf request.now request.ttl with
    | .error e      => (.raised e, table)
    | .ok expiresAt =>
        (.fetched payload,
          ResearchDataCacheRepository.upsert u table request.key payload request.now expiresAt)
  else (.fetched payload, table)

/-- `load` from the miss on. -/
def loadMiss (u : UpperCase) (request : LoadRequest P) (cache : ResearchCache) (table : ResearchTable P) :
    LoadResult P × ResearchCache × ResearchTable P :=
  let cache := { cache with cacheMisses := cache.cacheMisses + 1 }.record request.key .miss
  match request.fetch with
  | .payload payload =>
      let (result, table) := cache.keep u request payload table
      (result, cache, table)
  | .httpError e =>
      let (result, cache) := cache.fallBack u request e table
      (result, cache, table)
  | .failure e => (.raised e, cache, table)

/-- `load`. -/
def load (u : UpperCase) (request : LoadRequest P) (cache : ResearchCache) (table : ResearchTable P) :
    LoadResult P × ResearchCache × ResearchTable P :=
  if cache.hasRepository then
    match ResearchDataCacheRepository.getFresh u table request.key request.now with
    | some cached =>
        (.hit cached.payloadJson,
          { cache with cacheHits := cache.cacheHits + 1 }.record request.key .hit, table)
    | none => cache.loadMiss u request table
  else cache.loadMiss u request table

end ResearchCache

/-! ## Calls of many caches -/

/-- A call of the cache `cache`. -/
structure CacheCall (P : Type) where
  cache   : ℕ
  request : LoadRequest P

/-- The key a call is about: requests that differ in the case of the symbol are about the same one. -/
def CacheCall.key (u : UpperCase) (c : CacheCall P) : ResearchKey :=
  ResearchDataCacheRepository.baseStatement u c.request.key

/-- The caches and the table. -/
structure ResearchState (P : Type) where
  caches : ℕ → ResearchCache
  table  : ResearchTable P

/-- New caches, some with a session, and an empty table. -/
def ResearchState.opened (sessions : ℕ → Bool) : ResearchState P where
  caches := fun i => { hasRepository := sessions i }
  table  := .empty

namespace CacheCall

variable (u : UpperCase) (c : CacheCall P) (s : ResearchState P)

/-- How a call ends. -/
def result : LoadResult P := ((s.caches c.cache).load u c.request s.table).1

/-- What it leaves. -/
def exec : ResearchState P where
  caches := Function.update s.caches c.cache ((s.caches c.cache).load u c.request s.table).2.1
  table  := ((s.caches c.cache).load u c.request s.table).2.2

end CacheCall

end TradingAI
