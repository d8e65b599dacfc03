import TradingAI.Agents.ResearchCache
import TradingAI.Lib.Runs

/-!
# `Correctness.CachedResearch` — what the research caches answer

What a call answers is a function of the calls before it: of the latest successful fetch for its key, and of
nothing else. The table is that function, written down: it has under each key the payload and the expiry of
the latest fetch, whatever hits, expiries and failures there were in between, and on whichever keys.

A cache without a session answers by its fetch alone, and what it fetches is not kept. A fetch whose expiry
is no datetime is lost.

## Contents
- `answer`: the answer, from the latest fetch. `load_spec`: `load` gives it.
- `storedAfter`: the contents after a list of calls; `TableHolds`: the table has them.
- `storedAfter_filter`: keys are independent. `storedAfter_eq_latestFetch`.
- `answers_from_latest_fetch`; `fetch_not_kept`: two fetches that are not.
-/

namespace TradingAI

open KeyedTable ResearchDataCacheRepository

variable {P : Type}

/-! ## The answer -/

/-- The answer of a call that fetches: the new payload, the stored one if an HTTP error comes instead, or
    the exception. -/
def refetched (latest : Option P) (request : LoadRequest P) : LoadResult P :=
  match request.fetch with
  | .payload p =>
      match expiryOf request.now request.ttl with
      | .ok _    => .fetched p
      | .error e => .raised e
  | .httpError e => latest.elim (.raised e) .stale
  | .failure e   => .raised e

/-- The answer of a cache without a session. -/
def unstored (request : LoadRequest P) : LoadResult P :=
  match request.fetch with
  | .payload p                  => .fetched p
  | .httpError e | .failure e => .raised e

/-- **The answer** to a request, where `latest` is the latest fetch for its key: its payload, without a fetch,
    if that has not expired; the answer of a fetch otherwise. -/
def answer (session : Bool) (latest : Option (P × Option ℤ)) (request : LoadRequest P) : LoadResult P :=
  if session then
    match latest with
    | some (p, expiresAt) => if unexpired expiresAt request.now then .hit p else refetched (some p) request
    | none                => refetched none request
  else unstored request

/-- What an answer adds to the stored fetches. -/
def keptBy (session : Bool) (request : LoadRequest P) : LoadResult P → Option (P × Option ℤ)
  | .fetched p => if session then some (p, request.ttl.map (request.now + ·)) else none
  | _          => none

/-! ## One call -/

section
variable {u : UpperCase} {request : LoadRequest P} {cache : ResearchCache} {table : ResearchTable P}

@[simp] theorem record_hasRepository (key : ResearchKey) (status : RecordStatus) :
    (cache.record key status).hasRepository = cache.hasRepository := rfl

@[simp] theorem record_staleFallbackUsed (key : ResearchKey) (status : RecordStatus) :
    (cache.record key status).staleFallbackUsed = cache.staleFallbackUsed := rfl

theorem expiryOf_eq_ok {now : ℤ} {ttl expiresAt : Option ℤ} (h : expiryOf now ttl = .ok expiresAt) :
    expiresAt = ttl.map (now + ·) := by
  cases ttl with
  | none =>
      cases h
      rfl
  | some ttl =>
      rw [expiryOf] at h
      split at h
      · cases h
        rfl
      · cases h

/-- **What a call leaves**: its answer, the flag of its cache, and what the answer adds, under its key. -/
structure LoadSpec (u : UpperCase) (request : LoadRequest P) (cache : ResearchCache) (table : ResearchTable P)
    (r : LoadResult P) (cache' : ResearchCache) (table' : ResearchTable P) : Prop where
  result  : r = answer cache.hasRepository ((table.find? (baseStatement u request.key)).map ResearchData.stored) request
  session : cache'.hasRepository = cache.hasRepository
  flag    : cache'.staleFallbackUsed = (cache.staleFallbackUsed || r.isStale)
  table   : ∀ k, (table'.find? k).map ResearchData.stored =
    if k = baseStatement u request.key then
      (keptBy cache.hasRepository request r).or ((table.find? k).map ResearchData.stored)
    else (table.find? k).map ResearchData.stored

/-- A call that adds nothing leaves the table alone. -/
theorem LoadSpec.unchanged {r : LoadResult P} {cache' : ResearchCache}
    (hresult : r = answer cache.hasRepository
      ((table.find? (baseStatement u request.key)).map ResearchData.stored) request)
    (hsession : cache'.hasRepository = cache.hasRepository)
    (hflag : cache'.staleFallbackUsed = (cache.staleFallbackUsed || r.isStale))
    (hkept : keptBy cache.hasRepository request r = none) : LoadSpec u request cache table r cache' table := by
  refine ⟨hresult, hsession, hflag, fun k => ?_⟩
  rw [hkept, Option.none_or]
  exact (ite_self _).symm

/-- Without a session. -/
theorem load_spec_unstored (h : cache.hasRepository = false) :
    LoadSpec u request cache table (cache.load u request table).1 (cache.load u request table).2.1
      (cache.load u request table).2.2 := by
  obtain ⟨_, hits, misses, flag, breakdown⟩ := cache
  obtain rfl := h
  have hanswer : ∀ latest, answer false latest request = unstored request := fun _ => rfl
  unfold ResearchCache.load ResearchCache.loadMiss
  cases hfetch : request.fetch with
  | payload p =>
      refine .unchanged ?_ rfl (Bool.or_false _).symm rfl
      rw [hanswer, unstored, hfetch]
      rfl
  | httpError e =>
      refine .unchanged ?_ rfl (Bool.or_false _).symm rfl
      rw [hanswer, unstored, hfetch]
      rfl
  | failure e =>
      refine .unchanged ?_ rfl (Bool.or_false _).symm rfl
      rw [hanswer, unstored, hfetch]
      rfl

/-- A miss, with a session. -/
theorem loadMiss_spec (h : cache.hasRepository = true)
    (hmiss : answer true ((table.find? (baseStatement u request.key)).map ResearchData.stored) request =
      refetched ((table.find? (baseStatement u request.key)).map (·.payloadJson)) request) :
    LoadSpec u request cache table (cache.loadMiss u request table).1 (cache.loadMiss u request table).2.1
      (cache.loadMiss u request table).2.2 := by
  obtain ⟨_, hits, misses, flag, breakdown⟩ := cache
  obtain rfl := h
  unfold ResearchCache.loadMiss
  cases hfetch : request.fetch with
  | failure e =>
      refine .unchanged ?_ rfl (Bool.or_false _).symm rfl
      rw [hmiss, refetched, hfetch]
  | httpError e =>
      simp only [ResearchCache.fallBack, record_hasRepository, getLatestStale, if_true]
      cases hrow : table.find? (baseStatement u request.key) with
      | none =>
          refine .unchanged ?_ rfl (Bool.or_false _).symm rfl
          rw [hmiss, hrow, refetched, hfetch]
          rfl
      | some row =>
          refine .unchanged ?_ rfl (Bool.or_true _).symm rfl
          rw [hmiss, hrow, refetched, hfetch]
          rfl
  | payload p =>
      simp only [ResearchCache.keep, record_hasRepository, if_true]
      cases hexpiry : expiryOf request.now request.ttl with
      | error e =>
          refine .unchanged ?_ rfl (Bool.or_false _).symm rfl
          rw [hmiss, refetched, hfetch]
          dsimp only
          rw [hexpiry]
      | ok expiresAt =>
          refine ⟨?_, rfl, (Bool.or_false _).symm, fun k => ?_⟩
          · rw [hmiss, refetched, hfetch]
            dsimp only
            rw [hexpiry]
          · rw [find?_upsert, expiryOf_eq_ok hexpiry]
            rfl

/-- **`load` gives the answer.** -/
theorem load_spec : LoadSpec u request cache table (cache.load u request table).1 (cache.load u request table).2.1
    (cache.load u request table).2.2 := by
  cases h : cache.hasRepository with
  | false => exact load_spec_unstored h
  | true =>
      unfold ResearchCache.load getFresh
      rw [if_pos h]
      cases hrow : table.find? (baseStatement u request.key) with
      | none =>
          rw [Option.filter_none]
          exact loadMiss_spec h (by rw [hrow]; rfl)
      | some row =>
          by_cases hfresh : unexpired row.expiresAt request.now = true
          · rw [Option.filter_some, if_pos hfresh]
            refine .unchanged ?_ rfl (Bool.or_false _).symm rfl
            rw [h, hrow]
            exact (if_pos hfresh).symm
          · rw [Option.filter_some, if_neg hfresh]
            refine loadMiss_spec h ?_
            rw [hrow]
            exact if_neg hfresh

end

/-! ## Runs -/

section
variable (u : UpperCase) (sessions : ℕ → Bool)

/-- What a call adds to the contents. -/
def storeStep (contents : ResearchKey → Option (P × Option ℤ)) (c : CacheCall P) :
    ResearchKey → Option (P × Option ℤ) := fun k =>
  if k = c.key u then
    (keptBy (sessions c.cache) c.request (answer (sessions c.cache) (contents k) c.request)).or (contents k)
  else contents k

/-- The contents after a list of calls. -/
def storedAfter (calls : List (CacheCall P)) (contents : ResearchKey → Option (P × Option ℤ)) :
    ResearchKey → Option (P × Option ℤ) := calls.foldl (storeStep u sessions) contents

/-- The table has the contents, and the caches have their sessions. -/
structure TableHolds (s : ResearchState P) (contents : ResearchKey → Option (P × Option ℤ)) : Prop where
  sessions : ∀ i, (s.caches i).hasRepository = sessions i
  table    : ∀ k, (s.table.find? k).map ResearchData.stored = contents k

/-- The calls with their results, the oldest first. -/
def pastLoads (calls : List (CacheCall P)) (s : ResearchState P) : List (CacheCall P × LoadResult P) :=
  (Runs.meetings (CacheCall.exec u) calls s).map fun m => (m.1, m.1.result u m.2)

/-- **The latest successful fetch for a key** that was stored. -/
def latestFetch (past : List (CacheCall P × LoadResult P)) (k : ResearchKey) : Option (P × Option ℤ) :=
  (past.filterMap fun m =>
    if m.1.key u = k then keptBy (sessions m.1.cache) m.1.request m.2 else none).getLast?

end

section
variable {u : UpperCase} {sessions : ℕ → Bool} {s : ResearchState P}
variable {contents contents' : ResearchKey → Option (P × Option ℤ)} {c : CacheCall P} {calls : List (CacheCall P)}

/-- The specification of a call, at the cache it is made to. -/
theorem CacheCall.spec (u : UpperCase) (c : CacheCall P) (s : ResearchState P) :
    LoadSpec u c.request (s.caches c.cache) s.table (c.result u s) ((c.exec u s).caches c.cache)
      (c.exec u s).table := by
  have hcache : (c.exec u s).caches c.cache = ((s.caches c.cache).load u c.request s.table).2.1 :=
    Function.update_self ..
  rw [hcache]
  exact load_spec

theorem CacheCall.caches_of_ne {i : ℕ} (h : i ≠ c.cache) : (c.exec u s).caches i = s.caches i :=
  Function.update_of_ne h ..

theorem TableHolds.result (h : TableHolds sessions s contents) :
    c.result u s = answer (sessions c.cache) (contents (c.key u)) c.request := by
  rw [(c.spec u s).result, h.sessions, h.table]
  rfl

/-- **Step lemma**: a call adds to the contents what its answer adds. -/
theorem TableHolds.exec (h : TableHolds sessions s contents) (u : UpperCase) (c : CacheCall P) :
    TableHolds sessions (c.exec u s) (storeStep u sessions contents c) := by
  refine ⟨fun i => ?_, fun k => ?_⟩
  · by_cases hi : i = c.cache
    · subst hi
      exact (c.spec u s).session.trans (h.sessions c.cache)
    · rw [CacheCall.caches_of_ne hi]
      exact h.sessions i
  · rw [(c.spec u s).table, h.result, h.sessions, h.table]
    unfold storeStep
    by_cases hk : k = c.key u
    · have hbase : k = baseStatement u c.request.key := hk
      rw [if_pos hk, if_pos hbase, hk]
    · have hbase : k ≠ baseStatement u c.request.key := hk
      rw [if_neg hk, if_neg hbase]

/-- **Run lemma**: the table has the contents of the calls so far. -/
theorem TableHolds.run (h : TableHolds sessions s contents) (u : UpperCase) (calls : List (CacheCall P)) :
    TableHolds sessions (Runs.run (CacheCall.exec u) calls s) (storedAfter u sessions calls contents) := by
  induction calls generalizing s contents with
  | nil => exact h
  | cons c calls ih => exact ih (h.exec u c)

/-- **Keys are independent**: what is stored under a key depends on the calls for that key. -/
theorem storedAfter_filter (k : ResearchKey) (hsame : contents k = contents' k) :
    storedAfter u sessions calls contents k =
      storedAfter u sessions (calls.filter fun c => c.key u = k) contents' k := by
  induction calls generalizing contents contents' with
  | nil => exact hsame
  | cons c calls ih =>
      by_cases hk : c.key u = k
      · rw [List.filter_cons_of_pos (by simpa using hk)]
        have hstep : storeStep u sessions contents c k = storeStep u sessions contents' c k := by
          rw [storeStep, storeStep, hsame]
        exact ih hstep
      · rw [List.filter_cons_of_neg (by simpa using hk)]
        have hstep : storeStep u sessions contents c k = contents' k := by
          rw [storeStep, if_neg (Ne.symm hk), hsame]
        exact ih hstep

theorem latestFetch_cons (m : CacheCall P × LoadResult P) (ms : List (CacheCall P × LoadResult P)) (k : ResearchKey) :
    latestFetch u sessions (m :: ms) k = (latestFetch u sessions ms k).or
      (if m.1.key u = k then keptBy (sessions m.1.cache) m.1.request m.2 else none) := by
  unfold latestFetch
  rw [List.filterMap_cons]
  cases (if m.1.key u = k then keptBy (sessions m.1.cache) m.1.request m.2 else none) with
  | none => exact Option.or_none.symm
  | some f =>
      generalize ms.filterMap _ = later
      rw [List.getLast?_cons]
      cases later.getLast? <;> rfl

/-- **The contents are the latest fetches.** -/
theorem storedAfter_eq_latestFetch (h : TableHolds sessions s contents) (k : ResearchKey) :
    storedAfter u sessions calls contents k = (latestFetch u sessions (pastLoads u calls s) k).or (contents k) := by
  induction calls generalizing s contents with
  | nil => rfl
  | cons c calls ih =>
      have hpast : pastLoads u (c :: calls) s = (c, c.result u s) :: pastLoads u calls (c.exec u s) := rfl
      have hstep := ih (h.exec u c)
      rw [hpast, latestFetch_cons, Option.or_assoc]
      refine hstep.trans (congrArg _ ?_)
      rw [storeStep, h.result]
      by_cases hk : k = c.key u
      · rw [if_pos hk, if_pos hk.symm, hk]
      · rw [if_neg hk, if_neg (Ne.symm hk), Option.none_or]

/-- The flag of a cache says whether one of its calls fell back to a stale payload. -/
theorem staleFallbackUsed_run (i : ℕ) :
    ((Runs.run (CacheCall.exec u) calls s).caches i).staleFallbackUsed =
      ((s.caches i).staleFallbackUsed || (pastLoads u calls s).any fun m => m.1.cache = i && m.2.isStale) := by
  induction calls generalizing s with
  | nil => exact (Bool.or_false _).symm
  | cons c calls ih =>
      have hpast : pastLoads u (c :: calls) s = (c, c.result u s) :: pastLoads u calls (c.exec u s) := rfl
      rw [hpast, List.any_cons, ← Bool.or_assoc, Runs.run, ih]
      congr 1
      by_cases hi : c.cache = i
      · subst hi
        rw [(c.spec u s).flag]
        simp
      · rw [CacheCall.caches_of_ne (Ne.symm hi)]
        simp [hi]

theorem opened_holds (sessions : ℕ → Bool) :
    TableHolds sessions (ResearchState.opened sessions : ResearchState P) fun _ => none :=
  ⟨fun _ => rfl, fun _ => rfl⟩

end

/-- **What the research caches answer.** Any caches, with or without a session, on one table that was empty
    at first; any calls, in any order, with any clocks. A call answers from the latest successful fetch for
    its key and from nothing else, so the calls for other keys might as well not have happened; and its cache
    says that a stale payload was used exactly if one was. -/
theorem answers_from_latest_fetch (u : UpperCase) (sessions : ℕ → Bool) (calls : List (CacheCall P))
    (c : CacheCall P) :
    c.result u (Runs.run (CacheCall.exec u) calls (.opened sessions)) =
        answer (sessions c.cache) (latestFetch u sessions (pastLoads u calls (.opened sessions)) (c.key u))
          c.request ∧
      c.result u (Runs.run (CacheCall.exec u) calls (.opened sessions)) =
        c.result u (Runs.run (CacheCall.exec u) (calls.filter fun d => d.key u = c.key u) (.opened sessions)) ∧
      ∀ i, ((Runs.run (CacheCall.exec u) calls (.opened sessions)).caches i).staleFallbackUsed = true ↔
        ∃ m ∈ pastLoads u calls (.opened sessions), m.1.cache = i ∧ m.2.isStale = true := by
  have hstart := opened_holds (P := P) sessions
  have hresult := (hstart.run u calls).result (c := c) (u := u)
  refine ⟨?_, ?_, fun i => ?_⟩
  · rw [hresult, storedAfter_eq_latestFetch hstart, Option.or_none]
  · rw [hresult, (hstart.run u _).result, storedAfter_filter (c.key u) rfl]
  · rw [staleFallbackUsed_run]
    simp [ResearchState.opened, List.any_eq_true]

/-! ## What is not kept -/

/-- A load of the profile of SPY by cache 0 at time 0, answered by a fetch of `payload`. -/
def profileCall (payload : ℕ) (ttl : Option ℤ) : CacheCall ℕ where
  cache   := 0
  request := { key := ⟨"fmp", "spy", "profile", "spy"⟩, ttl, now := 0, fetch := .payload payload }

/-- **Not every fetch is kept**: a cache without a session fetches again what it has fetched before, and a
    fetch whose expiry is no datetime raises. -/
theorem fetch_not_kept :
    (¬ ∀ (sessions : ℕ → Bool) (calls : List (CacheCall ℕ)) (c : CacheCall ℕ),
      c.result strUpper (Runs.run (CacheCall.exec strUpper) calls (.opened sessions)) =
        answer true (latestFetch strUpper (fun _ => true) (pastLoads strUpper calls (.opened sessions))
          (c.key strUpper)) c.request) ∧
      ((profileCall 1 (some datetimeEnd)).result strUpper (.opened fun _ => true)).outcome.isOk = false := by
  refine ⟨fun h => ?_, by decide +kernel⟩
  have hagain := congrArg LoadResult.isHit (h (fun _ => false) [profileCall 1 none] (profileCall 2 none))
  revert hagain
  decide +kernel

end TradingAI
