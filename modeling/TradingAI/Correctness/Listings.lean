import TradingAI.Api.Listings
import TradingAI.Correctness.SteppedRun
import TradingAI.Execution.Growth

/-!
# `Correctness.Listings` — paging through rows that are being written

A client reads a listing page after page while the experiment runs: between two requests, and between the
statements of one, anything may be committed. The newest rows come first, so each new row moves all others
back, and a page may show again what the one before has shown. But the listed tables only grow, and what a
listing is sorted by is never changed. So the client that has come to the end has seen every row there was
when it began, and it does come to the end once its requests cover what the last of them counts. While nothing
is written, it sees each row once.

## Contents
- `Paginates`; `readAll_pages`, `readAll_ends`, `readAll_complete`, `readAll_once`: what a client is shown.
- `ShowsEverything`, `PagesAreComplete`.
- `listings_miss_nothing`, `order_across_step_shown`.
-/

namespace TradingAI

open Paging

/-! ## What a client is shown -/

section
variable {maxLimit : ℕ} {α κ : Type} {route : ListingRoute maxLimit α} {listing : Db → List κ} {key : α → κ}

/-- The route answers with a page of the listing and counts it, if the experiment is there. `key` is what
    identifies a row that is shown. -/
structure Paginates (route : ListingRoute maxLimit α) (listing : Db → List κ) (key : α → κ) : Prop where
  found   : ∀ found limit offset response, route found limit offset = .ok response →
    response.items.map key = page limit.size offset (listing found.listed) ∧
      response.total = (listing found.counted).length
  answers : ∀ found limit offset, found.checked.experiment.isSome →
    ∃ response, route found limit offset = .ok response

theorem paginated_paginates {β : Type} {rows : Db → List β} {count : Db → ℕ} {response : Db → β → α}
    (hlisting : ∀ db db', (rows db).map (fun b => key (response db' b)) = listing db)
    (hcount : ∀ db, count db = (listing db).length) :
    Paginates (paginated rows count response : ListingRoute maxLimit α) listing key := by
  refine ⟨fun found limit offset response hresponse => ?_, fun found limit offset hexists => ?_⟩
  · unfold paginated at hresponse
    split at hresponse
    · cases hresponse
    · cases hresponse
      refine ⟨?_, hcount _⟩
      rw [← hlisting found.listed found.joined, List.map_map, page, page, List.map_take, List.map_drop]
      rfl
  · obtain ⟨e, he⟩ := Option.isSome_iff_exists.mp hexists
    unfold paginated
    rw [he]
    exact ⟨_, rfl⟩

theorem Found.listed_mem (found : Found) : found.listed ∈ found.states := by
  simp [Found.states]

theorem Found.counted_mem (found : Found) : found.counted ∈ found.states := by
  simp [Found.states]

namespace Paginates

variable {limit : Limit maxLimit} {offset : ℕ} {requests : List Found}

/-- **What the client has at the end** are the pages of what its requests found, and the last of them reached
    the end. -/
theorem readAll_pages (h : Paginates route listing key) {items : List α}
    (hread : readAll route limit offset requests = .ok (some items)) :
    ∃ asked last, asked <+: requests ∧ asked.getLast? = some last ∧
      items.map key = readPages limit.size offset (asked.map fun found => listing found.listed) ∧
      (listing last.counted).length ≤ offset + limit.size * asked.length := by
  induction requests generalizing offset items with
  | nil => cases hread
  | cons found requests ih =>
      rw [readAll] at hread
      obtain ⟨response, hresponse, hread⟩ := Outcome.ok_of_bind hread
      obtain ⟨hitems, htotal⟩ := h.found _ _ _ _ hresponse
      split at hread
      · obtain ⟨rest, hrest, hread⟩ := Outcome.ok_of_bind hread
        cases rest with
        | none => cases hread
        | some rest =>
            cases hread
            obtain ⟨asked, last, hasked, hlast, hpages, hend⟩ := ih hrest
            refine ⟨found :: asked, last, List.cons_prefix_cons.mpr ⟨rfl, hasked⟩, ?_, ?_, ?_⟩
            · rw [List.getLast?_cons, hlast]
              rfl
            · rw [List.map_append, hitems, hpages, List.map_cons, readPages]
            · rw [List.length_cons, Nat.mul_succ]
              omega
      · next hlast =>
          cases hread
          refine ⟨[found], found, List.cons_prefix_cons.mpr ⟨rfl, List.nil_prefix⟩, rfl, ?_, ?_⟩
          · rw [hitems, List.map_singleton, readPages, readPages, List.append_nil]
          · rw [← htotal, List.length_singleton]
            omega

/-- It comes to the end, once the requests cover what the last of them counts. -/
theorem readAll_ends (h : Paginates route listing key)
    (hexists : ∀ found ∈ requests, found.checked.experiment.isSome) {last : Found}
    (hlast : requests.getLast? = some last)
    (hcovered : (listing last.counted).length ≤ offset + limit.size * requests.length) :
    ∃ items, readAll route limit offset requests = .ok (some items) := by
  induction requests generalizing offset with
  | nil => cases hlast
  | cons found requests ih =>
      obtain ⟨response, hresponse⟩ := h.answers found limit offset (hexists _ List.mem_cons_self)
      rw [readAll, hresponse]
      show ∃ items, (if offset + limit.size < response.total then _ else _) = _
      split
      · next hmore =>
          cases requests with
          | nil =>
              -- the only request left reaches the end
              obtain rfl : found = last := Option.some.inj hlast
              rw [(h.found _ _ _ _ hresponse).2] at hmore
              rw [List.length_singleton] at hcovered
              omega
          | cons next requests =>
              rw [List.getLast?_cons_cons] at hlast
              have hrest : (listing last.counted).length ≤
                  offset + limit.size + limit.size * (next :: requests).length := by
                rw [List.length_cons, Nat.mul_succ] at hcovered
                omega
              obtain ⟨rest, hrest⟩ := ih (fun f hf => hexists f (List.mem_cons_of_mem _ hf)) hlast hrest
              rw [hrest]
              exact ⟨response.items ++ rest, rfl⟩
      · exact ⟨response.items, rfl⟩

/-- What was listed at the first request is among what is shown, in its order. -/
theorem readAll_complete (h : Paginates route listing key)
    (hgrows : ∀ db db' : Db, db.Grows db' → (listing db).Sublist (listing db')) {first : Found} {items : List α}
    (hseen : ((first :: requests).flatMap Found.states).Pairwise Db.Grows)
    (hread : readAll route limit 0 (first :: requests) = .ok (some items)) :
    (listing first.listed).Sublist (items.map key) := by
  obtain ⟨asked, last, hasked, hlast, hpages, hend⟩ := h.readAll_pages hread
  obtain ⟨heach, hbetween⟩ := List.pairwise_flatMap.mp hseen
  have hpairs : (asked.map fun found => listing found.listed).Pairwise List.Sublist := by
    refine List.pairwise_map.mpr ((hbetween.sublist hasked.sublist).imp fun hgrown => ?_)
    exact hgrows _ _ (hgrown _ (Found.listed_mem _) _ (Found.listed_mem _))
  -- the last request counts after it has read its page
  have hcounted : (listing last.listed).length ≤ limit.size * asked.length := by
    have hmem : last ∈ first :: requests := hasked.subset (List.mem_of_getLast? hlast)
    have hgrown : last.listed.Grows last.counted :=
      (List.pairwise_cons.mp (List.pairwise_cons.mp (heach last hmem)).2).1 _ (by simp)
    have := (hgrows _ _ hgrown).length_le
    omega
  have hend' : (asked.map fun found => listing found.listed).getLast? = some (listing last.listed) := by
    rw [List.getLast?_map, hlast]
    rfl
  cases asked with
  | nil => cases hlast
  | cons found asked =>
      obtain ⟨rfl, -⟩ := List.cons_prefix_cons.mp hasked
      rw [hpages]
      refine sublist_readPages hpairs.isChain fun ys hys => ?_
      obtain rfl : listing last.listed = ys := Option.some.inj (hend'.symm.trans hys)
      simpa only [List.length_cons, List.length_map] using hcounted

/-- While the listing stays the same, it is what is shown. -/
theorem readAll_once (h : Paginates route listing key) {xs : List κ} {items : List α}
    (hread : readAll route limit 0 requests = .ok (some items))
    (hsame : ∀ db ∈ requests.flatMap Found.states, listing db = xs) : items.map key = xs := by
  obtain ⟨asked, last, hasked, hlast, hpages, hend⟩ := h.readAll_pages hread
  have hfound : ∀ found ∈ asked, ∀ db ∈ found.states, listing db = xs := fun found hfound db hdb =>
    hsame db (List.mem_flatMap.mpr ⟨found, hasked.subset hfound, hdb⟩)
  have hlists : (asked.map fun found => listing found.listed) = List.replicate asked.length xs := by
    refine List.eq_replicate_iff.mpr ⟨List.length_map .., fun ys hys => ?_⟩
    obtain ⟨found, hmem, rfl⟩ := List.mem_map.mp hys
    exact hfound found hmem _ found.listed_mem
  have hcovered : xs.length ≤ limit.size * asked.length := by
    rw [← hfound last (List.mem_of_getLast? hlast) last.counted last.counted_mem]
    omega
  rw [hpages, hlists, readPages_replicate, List.drop_zero, List.take_of_length_le hcovered]

end Paginates

end

/-! ## Nothing is missed -/

section
variable {maxLimit : ℕ} {α κ : Type}

/-- **Reading a listing to the end** with these requests. -/
structure ShowsEverything (route : ListingRoute maxLimit α) (listing : Db → List κ) (key : α → κ)
    (limit : Limit maxLimit) (first : Found) (requests : List Found) : Prop where
  ends     : ∀ last ∈ (first :: requests).getLast?, first.checked.experiment.isSome →
    (listing last.counted).length ≤ limit.size * (first :: requests).length →
      ∃ items, readAll route limit 0 (first :: requests) = .ok (some items)
  complete : ∀ items, readAll route limit 0 (first :: requests) = .ok (some items) →
    (listing first.listed).Sublist (items.map key)
  once     : ∀ items, readAll route limit 0 (first :: requests) = .ok (some items) →
    (∀ db ∈ (first :: requests).flatMap Found.states, listing db = listing first.listed) →
      items.map key = listing first.listed

variable {route : ListingRoute maxLimit α} {listing : Db → List κ} {key : α → κ} {limit : Limit maxLimit}

theorem Paginates.showsEverything (h : Paginates route listing key)
    (hgrows : ∀ db db' : Db, db.Grows db' → (listing db).Sublist (listing db')) {first : Found}
    {requests : List Found} (hseen : ((first :: requests).flatMap Found.states).Pairwise Db.Grows) :
    ShowsEverything route listing key limit first requests := by
  have hlater : ∀ found ∈ requests, first.checked.Grows found.checked := by
    intro found hfound
    refine (List.pairwise_cons.mp hseen).1 _ (List.mem_append_right _ ?_)
    exact List.mem_flatMap.mpr ⟨found, hfound, List.mem_cons_self⟩
  refine ⟨fun last hlast hexists hcovered => ?_, fun items hread => h.readAll_complete hgrows hseen hread,
    fun items hread hsame => h.readAll_once hread hsame⟩
  refine h.readAll_ends (fun found hfound => ?_) hlast (by rwa [Nat.zero_add])
  rcases List.mem_cons.mp hfound with rfl | hfound
  · exact hexists
  · rw [(hlater found hfound).experiment]
    exact hexists

end

/-! ## The seven listings -/

theorem orders_paginates :
    Paginates listExperimentOrders (fun db => db.orderListing.map Order.listedAt) Order.listedAt := by
  refine paginated_paginates (fun _ _ => rfl) fun db => ?_
  rw [List.length_map, Db.orderListing, length_newestFirst]

theorem trades_paginates :
    Paginates listExperimentTrades (fun db => db.tradeListing.map Trade.listedAt) Trade.listedAt := by
  refine paginated_paginates (fun _ _ => rfl) fun db => ?_
  rw [List.length_map, Db.tradeListing, length_newestFirst, Db.countTrades]

theorem brokerSyncLogs_paginates : Paginates listExperimentBrokerSyncLogs Db.brokerSyncLogListing id := by
  refine paginated_paginates (fun _ _ => List.map_id _) fun db => ?_
  rw [Db.brokerSyncLogListing, length_newestFirst]

theorem agentDecisionLogs_paginates :
    Paginates listExperimentAgentDecisionLogs Db.agentDecisionLogListing AgentDecisionLogResponse.log := by
  refine paginated_paginates (fun _ _ => List.map_id _) fun db => ?_
  rw [Db.agentDecisionLogListing, length_newestFirst]

theorem events_paginates (level : Option EventLevel) (eventType : Option SystemEventType) :
    Paginates (listExperimentEvents level eventType) (·.systemEventListing level eventType) id := by
  refine paginated_paginates (fun _ _ => List.map_id _) fun db => ?_
  rw [Db.systemEventListing, length_newestFirst]

theorem metricSnapshots_paginates : Paginates listMetricSnapshots Db.metricSnapshotListing id := by
  refine paginated_paginates (fun _ _ => List.map_id _) fun db => ?_
  rw [Db.metricSnapshotListing, length_oldestFirst]

theorem portfolioSnapshots_paginates : Paginates listPortfolioSnapshots Db.portfolioSnapshotListing id := by
  refine paginated_paginates (fun _ _ => List.map_id _) fun db => ?_
  rw [Db.portfolioSnapshotListing, length_oldestFirst]

/-- Rows that may be written again move nowhere in a listing, if what it sorts them by stays. -/
theorem newestFirst_grows {α κ : Type} {stamp : α → DateTime} {id : α → ℕ} {key : α → κ} (stampOf : κ → DateTime)
    (idOf : κ → ℕ) (hstamp : ∀ a, stampOf (key a) = stamp a) (hid : ∀ a, idOf (key a) = id a) {rows rows' : List α}
    (h : (rows.map key).Sublist (rows'.map key)) :
    ((newestFirst stamp id rows).map key).Sublist ((newestFirst stamp id rows').map key) := by
  rw [map_newestFirst key hstamp hid, map_newestFirst key hstamp hid]
  exact newestFirst_sublist h

/-- What a client is shown of the seven listings. -/
structure ListingsShown (queryLimit : Limit queryMaxLimit) (seriesLimit : Limit timeSeriesMaxLimit) (first : Found)
    (requests : List Found) : Prop where
  orders             : ShowsEverything listExperimentOrders (fun db => db.orderListing.map Order.listedAt)
    Order.listedAt queryLimit first requests
  trades             : ShowsEverything listExperimentTrades (fun db => db.tradeListing.map Trade.listedAt)
    Trade.listedAt queryLimit first requests
  brokerSyncLogs     : ShowsEverything listExperimentBrokerSyncLogs Db.brokerSyncLogListing id queryLimit first requests
  agentDecisionLogs  : ShowsEverything listExperimentAgentDecisionLogs Db.agentDecisionLogListing
    AgentDecisionLogResponse.log queryLimit first requests
  events             : ∀ level eventType, ShowsEverything (listExperimentEvents level eventType)
    (·.systemEventListing level eventType) id queryLimit first requests
  metricSnapshots    : ShowsEverything listMetricSnapshots Db.metricSnapshotListing id seriesLimit first requests
  portfolioSnapshots : ShowsEverything listPortfolioSnapshots Db.portfolioSnapshotListing id seriesLimit first requests

/-- Whenever a client asks, along this history of databases. -/
def PagesAreComplete (history : List Db) : Prop :=
  ∀ queryLimit seriesLimit first requests, Visits history ((first :: requests).flatMap Found.states) →
    ListingsShown queryLimit seriesLimit first requests

theorem pagesAreComplete {history : List Db} (h : history.Pairwise Db.Grows) : PagesAreComplete history := by
  intro queryLimit seriesLimit first requests hvisits
  have hseen := hvisits.pairwise h
  exact {
    orders := orders_paginates.showsEverything
      (fun _ _ hgrown => newestFirst_grows Prod.fst Prod.snd (fun _ => rfl) (fun _ => rfl) hgrown.orders) hseen
    trades := trades_paginates.showsEverything
      (fun _ _ hgrown => newestFirst_grows Prod.fst Prod.snd (fun _ => rfl) (fun _ => rfl) hgrown.trades) hseen
    brokerSyncLogs := brokerSyncLogs_paginates.showsEverything
      (fun _ _ hgrown => newestFirst_sublist hgrown.brokerSyncLogs) hseen
    agentDecisionLogs := agentDecisionLogs_paginates.showsEverything
      (fun _ _ hgrown => newestFirst_sublist hgrown.agentLogs) hseen
    events := fun level eventType => (events_paginates level eventType).showsEverything
      (fun _ _ hgrown => newestFirst_sublist (hgrown.systemEvents.filter _)) hseen
    metricSnapshots := metricSnapshots_paginates.showsEverything
      (fun _ _ hgrown => oldestFirst_sublist hgrown.metricSnapshots) hseen
    portfolioSnapshots := portfolioSnapshots_paginates.showsEverything
      (fun _ _ hgrown => oldestFirst_sublist hgrown.portfolioSnapshots) hseen }

/-- **Paging misses nothing**, in paper runs, historical runs and runs by manual steps. -/
theorem listings_miss_nothing (db : Db) :
    (∀ calls, PagesAreComplete (runCalls calls db).committed.reverse) ∧
      (∀ o henv, PagesAreComplete ((HistoricalOrchestrator.run o henv db).databases db)) ∧
      ∀ calls, PagesAreComplete (steppedDatabases calls db) :=
  ⟨fun calls => pagesAreComplete (List.pairwise_reverse.mpr (runCalls_chained calls db).history),
    fun o henv => pagesAreComplete (run_growing db o henv),
    fun calls => pagesAreComplete (stepped_growing calls db)⟩

/-! ## A step between two requests -/

/-- The trading days, and a fourth on which the price rises over the average again. -/
def risingAgain : List DailyBar := tradingDays ++ [⟨4, 120, 120, 120, 120, 120, 1, none⟩]

def fourCalls : List StepperCall := List.replicate 4 (callOver risingAgain)

theorem steppedDatabases_getElem? (calls : List StepperCall) (db : Db) {n : ℕ} (h : n ≤ calls.length) :
    (steppedDatabases calls db)[n]? = some (stepThrough (calls.take n) db) := by
  unfold steppedDatabases stepThrough
  rw [List.getElem?_scanl, if_pos h]

/-- The database after so many of the four calls. -/
def afterCalls (n : ℕ) : Db := stepThrough (fourCalls.take n) twoDayAverage

/-- A request that finds it at each of its statements. -/
def foundAfter (n : ℕ) : Found := ⟨afterCalls n, afterCalls n, afterCalls n, afterCalls n⟩

/-- The last step is committed while the first request is served, after its page and before its count. -/
def requestsAcrossStep : List Found :=
  [⟨afterCalls 3, afterCalls 3, afterCalls 3, afterCalls 4⟩, foundAfter 4, foundAfter 4]

/-- A listing asked for row by row. -/
def onePerPage {maxLimit : ℕ} (h : 1 ≤ maxLimit) : Limit maxLimit := ⟨1, le_rfl, h⟩

/-- **A row is repeated and none is missed**: two orders when the client begins, a third before its second
    request. -/
theorem order_across_step_shown :
    ∃ items, readAll listExperimentOrders (onePerPage (by decide)) 0 requestsAcrossStep = .ok (some items) ∧
      items.map Order.side = [.sell, .sell, .buy] ∧
      (afterCalls 3).orderListing.map Order.side = [.sell, .buy] ∧
      ((afterCalls 3).orderListing.map Order.listedAt).Sublist (items.map Order.listedAt) := by
  have hvisits : Visits (steppedDatabases fourCalls twoDayAverage) (requestsAcrossStep.flatMap Found.states) := by
    refine ⟨[3, 3, 3, 4, 4, 4, 4, 4, 4, 4, 4, 4], by decide, ?_⟩
    have hthree := steppedDatabases_getElem? fourCalls twoDayAverage (show 3 ≤ fourCalls.length by decide)
    have hfour := steppedDatabases_getElem? fourCalls twoDayAverage (show 4 ≤ fourCalls.length by decide)
    exact .cons hthree (.cons hthree (.cons hthree (.cons hfour (.cons hfour (.cons hfour (.cons hfour (.cons hfour
      (.cons hfour (.cons hfour (.cons hfour (.cons hfour .nil)))))))))))
  have hshown := ((listings_miss_nothing twoDayAverage).2.2 fourCalls (onePerPage (by decide))
    (onePerPage (by decide)) _ _ hvisits).orders
  obtain ⟨items, hread⟩ := hshown.ends _ rfl (by decide +kernel) (by decide +kernel)
  have hsides : (readAll listExperimentOrders (onePerPage (by decide)) 0 requestsAcrossStep).toOption.map
      (Option.map fun items => items.map Order.side) = some (some [.sell, .sell, .buy]) := by decide +kernel
  rw [requestsAcrossStep, hread] at hsides
  exact ⟨items, hread, Option.some.inj (Option.some.inj hsides), by decide +kernel, hshown.complete items hread⟩

end TradingAI
