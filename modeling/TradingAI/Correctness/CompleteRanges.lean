import TradingAI.Correctness.AgentFallback
import TradingAI.MarketData.AlpacaProvider
import Mathlib.Data.List.Perm.Basic

/-!
# `Correctness.CompleteRanges` — a range of bars that takes several pages

The endpoint of both Alpaca providers answers in pages. The intraday provider reads all of them
(`loadAllPages_complete`). The daily provider reads the first: its answer is complete exactly if every later
page is empty (`daily_range_complete_iff`).
-/

namespace TradingAI

open Pagination Outcome

variable {settings : AlpacaSettings} {reader : BarReader} {api : AlpacaApi} {startDate endDate : Date} {symbol : String}
  {pages : List (List Json.Value)}

/-- **A server that answers in pages.** The query itself gets the first page, and the query with the token of a
    page gets the next. -/
def ServesPages (api : AlpacaApi) (query : BarsQuery) (pages : List (List Json.Value)) : Prop :=
  Pages (fun token => intradayPage (api { query with pageToken := token })) none pages

/-! ## What passes the validation -/

theorem validateBars_ok_iff (seen : List Date) (bars : List DailyBar) :
    validateBars startDate endDate symbol seen bars = .ok () ↔
      (bars.map DailyBar.date).Nodup ∧ (∀ bar ∈ bars, bar.date ∉ seen) ∧
        ∀ bar ∈ bars, startDate ≤ bar.date ∧ bar.date ≤ endDate := by
  -- by induction on the bars, for any dates seen before
  induction bars generalizing seen with
  | nil => exact iff_of_true rfl ⟨List.nodup_nil, fun _ h => absurd h List.not_mem_nil, fun _ h => absurd h List.not_mem_nil⟩
  | cons bar bars ih =>
      unfold validateBars
      by_cases hseen : bar.date ∈ seen
      · rw [if_pos hseen]
        apply iff_of_false
        · rintro ⟨⟩
        · rintro ⟨-, hfresh, -⟩
          exact hfresh bar List.mem_cons_self hseen
      by_cases hrange : startDate ≤ bar.date ∧ bar.date ≤ endDate
      · rw [if_neg hseen, if_neg (not_not.mpr hrange), ih, List.map_cons, List.nodup_cons]
        simp only [List.mem_cons, not_or, forall_eq_or_imp, List.mem_map, not_exists, not_and]
        constructor
        · rintro ⟨hnodup, hfresh, hall⟩
          exact ⟨⟨fun other hother => (hfresh other hother).1, hnodup⟩,
            ⟨hseen, fun other hother => (hfresh other hother).2⟩, hrange, hall⟩
        · rintro ⟨⟨hother, hnodup⟩, ⟨-, hfresh⟩, -, hall⟩
          exact ⟨hnodup, fun other h => ⟨hother other h, hfresh other h⟩, hall⟩
      · rw [if_neg hseen, if_pos hrange]
        apply iff_of_false
        · rintro ⟨⟩
        · rintro ⟨-, -, hall⟩
          exact hrange (hall bar List.mem_cons_self)

/-- A page that can be read is a body with a list of bars, whoever reads it. -/
theorem intradayPage_ok {answer : HttpAnswer} {page : Page Json.Value String} (h : intradayPage answer = .ok page) :
    ∃ payload, answer = .json (.dict payload) ∧ Json.get payload "bars" = .list page.items := by
  obtain ⟨payload, hjson, hpage⟩ := ok_of_bind h
  refine ⟨payload, ?_, ?_⟩
  · unfold jsonOf at hjson
    split at hjson <;> cases hjson
    rfl
  · split at hpage
    · next items hitems =>
        rw [hitems]
        split at hpage <;> cases hpage <;> rfl
    · cases hpage

/-! ## Both providers, on such a server -/

/-- **The intraday provider reads every page.** -/
theorem AlpacaIntradayMarketDataProvider.loadAllPages_complete {zone : Zone}
    (h : ServesPages api (rangeQuery settings zone startDate endDate symbol) pages) {fuel : ℕ}
    (hfuel : pages.length ≤ fuel) :
    loadAllPages settings zone api fuel symbol startDate endDate = some (.ok pages.flatten) :=
  Pages.collect h [] hfuel

/-- **The daily provider reads the first page.** -/
theorem AlpacaMarketDataProvider.loadRange_first {first : List Json.Value} {rest : List (List Json.Value)} {bars : List DailyBar}
    (hsymbol : isSupportedEquitySymbol (normalizeSymbol symbol))
    (h : ServesPages api (rangeQuery settings startDate endDate (normalizeSymbol symbol)) (first :: rest))
    (hbars : first.mapM (alpacaBarToDailyBar reader) = .ok bars)
    (hvalid : validateBars startDate endDate (normalizeSymbol symbol) [] bars = .ok ()) :
    loadRange settings reader api startDate endDate symbol .daily =
      if first = [] then
        .error (marketDataUnavailableError "Alpaca returned no historical bars."
          [("symbol", .text (normalizeSymbol symbol)), ("startDate", .text (isoDate startDate)),
           ("endDate", .text (isoDate endDate))])
      else .ok (sortedByDate bars) := by
  obtain ⟨items, rest', next, hpages, hfetch⟩ := Pages.first h
  cases hpages
  obtain ⟨payload, hanswer, hitems⟩ := intradayPage_ok hfetch
  have hrequest : validateRequest (normalizeSymbol symbol) .daily = .ok () := by
    unfold validateRequest
    rw [if_neg (not_not.mpr hsymbol)]
    rfl
  have hanswer' : api (rangeQuery settings startDate endDate (normalizeSymbol symbol)) = .json (.dict payload) := hanswer
  have hitems' : Json.get payload "bars" = .list first := hitems
  have hpayload : jsonOf "Alpaca market data" (api (rangeQuery settings startDate endDate (normalizeSymbol symbol))) =
      .ok payload := by
    rw [hanswer']
    rfl
  unfold loadRange
  dsimp only
  rw [hrequest, hpayload]
  simp only [bind, Except.bind]
  rw [hitems']
  cases first with
  | nil => rfl
  | cons item items =>
      rw [if_neg (List.cons_ne_nil _ _)]
      dsimp only
      rw [hbars]
      dsimp only
      rw [hvalid]
      rfl

/-- **Which ranges are complete.** On a server that answers in pages, with bars that can be mapped, lie in the
    range and have distinct dates, the daily provider returns all bars in the order of their dates if and only
    if the first page has bars and no later page has any. -/
theorem daily_range_complete_iff (settings : AlpacaSettings) (reader : BarReader) (api : AlpacaApi)
    (startDate endDate : Date) (symbol : String) (hsymbol : isSupportedEquitySymbol (normalizeSymbol symbol))
    (pages : List (List Json.Value))
    (hserves : ServesPages api
      (AlpacaMarketDataProvider.rangeQuery settings startDate endDate (normalizeSymbol symbol)) pages)
    {bars : List DailyBar} (hbars : pages.flatten.mapM (alpacaBarToDailyBar reader) = .ok bars)
    (hrange : ∀ bar ∈ bars, startDate ≤ bar.date ∧ bar.date ≤ endDate) (hdates : (bars.map DailyBar.date).Nodup) :
    AlpacaMarketDataProvider.loadRange settings reader api startDate endDate symbol .daily = .ok (sortedByDate bars) ↔
      ∃ first rest, pages = first :: rest ∧ first ≠ [] ∧ ∀ page ∈ rest, page = [] := by
  obtain ⟨first, rest, -, rfl, -⟩ := Pages.first hserves
  obtain ⟨firstBars, restBars, hfirst, hrest, rfl⟩ := ok_of_mapM_append hbars
  have hvalid : validateBars startDate endDate (normalizeSymbol symbol) [] firstBars = .ok () := by
    rw [validateBars_ok_iff]
    refine ⟨?_, fun _ _ => List.not_mem_nil, fun bar h => hrange bar (List.mem_append_left _ h)⟩
    rw [List.map_append] at hdates
    exact (List.nodup_append.mp hdates).1
  rw [AlpacaMarketDataProvider.loadRange_first hsymbol hserves hfirst hvalid]
  by_cases hnone : first = []
  · rw [if_pos hnone]
    apply iff_of_false
    · rintro ⟨⟩
    · rintro ⟨_, _, ⟨⟩, hsome, -⟩
      exact hsome hnone
  · rw [if_neg hnone]
    constructor
    · intro h
      -- the sorted lists are as long as what is sorted, so no later page has a bar
      have hlength := congrArg List.length (Except.ok.inj h)
      unfold sortedByDate at hlength
      rw [List.length_insertionSort, List.length_insertionSort, List.length_append, length_of_mapM hrest] at hlength
      have hempty : rest.flatten = [] := List.eq_nil_of_length_eq_zero (by omega)
      exact ⟨first, rest, rfl, hnone, List.flatten_eq_nil_iff.mp hempty⟩
    · rintro ⟨_, _, ⟨⟩, -, hempty⟩
      rw [List.flatten_eq_nil_iff.mpr hempty, List.mapM_nil] at hrest
      cases hrest
      rw [List.append_nil]

/-! ## A server for any pages -/

/-- The token of the page with this number. -/
def pageName (number : ℕ) : String := String.ofList (List.replicate number 'p')

/-- The body of the page with this number. -/
def pageBody (pages : List (List Json.Value)) (number : ℕ) : HttpAnswer :=
  .json (.dict [("bars".toList, .list (paged pages number).items),
    ("next_page_token".toList, (paged pages number).next.elim .null fun next => .str (List.replicate next 'p'))])

def pagedApi (pages : List (List Json.Value)) : AlpacaApi :=
  fun query => pageBody pages (query.pageToken.elim 0 String.length)

theorem intradayPage_pageBody (pages : List (List Json.Value)) (number : ℕ) :
    intradayPage (pageBody pages number) =
      .ok ⟨(paged pages number).items, (paged pages number).next.map pageName⟩ := by
  by_cases hmore : number + 1 < pages.length
  · have hnext : (paged pages number).next = some (number + 1) := if_pos hmore
    unfold pageBody
    rw [hnext]
    rfl
  · have hnext : (paged pages number).next = none := if_neg hmore
    unfold pageBody
    rw [hnext]
    rfl

/-- Such a server answers every query in these pages. -/
theorem pagedApi_serves (query : BarsQuery) (hpages : pages ≠ []) : ServesPages (pagedApi pages) query pages := by
  apply paged_pages hpages
  · exact intradayPage_pageBody pages 0
  · intro number
    have hnumber : (pageName (number + 1)).length = number + 1 := by
      unfold pageName
      rw [String.length_ofList, List.length_replicate]
    show intradayPage (pageBody pages (pageName (number + 1)).length) = _
    rw [hnumber]
    exact intradayPage_pageBody pages (number + 1)

/-! ## Two days of July 2024 -/

/-- The number some digits write. -/
def digitsOf (cs : List Char) : ℕ := cs.foldl (fun n c => 10 * n + (c.toNat - 48)) 0

/-- The texts `yyyy-mm-ddThh:mm:ss+00:00`. -/
def readUtcTimestamp : List Char → Option IsoTimestamp
  | [y₁, y₂, y₃, y₄, '-', m₁, m₂, '-', d₁, d₂, 'T', h₁, h₂, ':', n₁, n₂, ':', s₁, s₂, '+', '0', '0', ':', '0', '0'] =>
      let date := Civil.ordinal (digitsOf [y₁, y₂, y₃, y₄]) (digitsOf [m₁, m₂]) (digitsOf [d₁, d₂])
      some ⟨date, DateTime.midnight date + timeOfDay (digitsOf [h₁, h₂]) (digitsOf [n₁, n₂]) +
        digitsOf [s₁, s₂] * 1000000, true⟩
  | _ => none

def smallReader : BarReader := { smallInterpreter with fromIsoFormat := readUtcTimestamp }

/-- The bar of a day, as the server sends it. -/
def dayItem (timestamp : String) : Json.Value :=
  .dict [("t".toList, .str timestamp.toList), ("o".toList, .int 100), ("h".toList, .int 101),
    ("l".toList, .int 99), ("c".toList, .int 100), ("v".toList, .int 1)]

/-- The same bar, mapped. -/
def mappedDay (date : Date) : DailyBar :=
  ⟨date, 100, 101, 99, 100, 100, 1, some (DateTime.midnight date + timeOfDay 4 0)⟩

def julyFirst : Date := Civil.ordinal 2024 7 1

def julySecond : Date := Civil.ordinal 2024 7 2

def firstItem : Json.Value := dayItem "2024-07-01T04:00:00Z"

def secondItem : Json.Value := dayItem "2024-07-02T04:00:00Z"

theorem mapM_two_days :
    [secondItem, firstItem].mapM (alpacaBarToDailyBar smallReader) = .ok [mappedDay julySecond, mappedDay julyFirst] := by
  rfl

/-- On one page, both days are there, in order. -/
theorem one_page_is_complete :
    AlpacaMarketDataProvider.loadRange {} smallReader (pagedApi [[secondItem, firstItem]]) julyFirst julySecond "spy" .daily =
      .ok (sortedByDate [mappedDay julySecond, mappedDay julyFirst]) :=
  (daily_range_complete_iff {} smallReader _ julyFirst julySecond "spy" (by decide +kernel) [[secondItem, firstItem]]
    (pagedApi_serves _ (List.cons_ne_nil _ _)) mapM_two_days (by decide +kernel) (by decide +kernel)).mpr
    ⟨_, [], rfl, List.cons_ne_nil _ _, fun _ h => absurd h List.not_mem_nil⟩

/-- **A day on a second page is lost**, without an error. -/
theorem second_page_is_lost :
    ServesPages (pagedApi [[firstItem], [secondItem]])
        (AlpacaMarketDataProvider.rangeQuery {} julyFirst julySecond spySymbol) [[firstItem], [secondItem]] ∧
      ([firstItem, secondItem].mapM (alpacaBarToDailyBar smallReader)).toOption.map (List.map DailyBar.date) =
        some [julyFirst, julySecond] ∧
      (AlpacaMarketDataProvider.loadRange {} smallReader (pagedApi [[firstItem], [secondItem]]) julyFirst julySecond
        spySymbol .daily).toOption.map (List.map DailyBar.date) = some [julyFirst] :=
  ⟨pagedApi_serves _ (List.cons_ne_nil _ _), by decide +kernel, by decide +kernel⟩

end TradingAI
