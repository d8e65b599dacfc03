import TradingAI.Agents.PipelineOutputParser
import TradingAI.Events.Scanner
import TradingAI.MarketData.AlpacaProvider

/-!
# `Events.AlpacaNewsProvider` — news over HTTP

`AlpacaNewsProvider.fetch_news` follows the page tokens of the news endpoint and maps every item of every page
to an article. One item that cannot be mapped fails the whole request.

## Contents
- `NewsQuery`; `articleOf`, what `_article` makes of an item.
- `newsPage`, one round of the loop; `fetchNews`.
-/

namespace TradingAI

open Pagination PipelineOutputParser

/-- A request to `/v1beta1/news`, with its parameters. -/
structure NewsQuery where
  symbols            : String
  start              : DateTime
  end_               : DateTime
  sort               : String := "desc"
  limit              : ℕ
  includeContent     : String := "false"
  excludeContentless : String := "false"
  pageToken          : Option Json.Value := none

abbrev NewsApi := NewsQuery → HttpAnswer

namespace AlpacaNewsProvider

/-! ## Items -/

/-- `_parse_timestamp`; a text it cannot read is a `ValueError`, which nobody catches. -/
def parseTimestamp (reader : ResponseReader) : Json.Value → Except Raised DateTime
  | .str value =>
      match reader.wallClock (normalizedTimestamp value) with
      | some timestamp => .ok timestamp
      | none           => .error (runtimeError "Invalid isoformat string")
  | value => .error (marketDataProviderError "Alpaca news item is missing a timestamp." [("value", detailOf value)])

/-- `_parse_optional_timestamp`. -/
def parseOptionalTimestamp (reader : ResponseReader) : Json.Value → Except Raised (Option DateTime)
  | .null => .ok none
  | value => (parseTimestamp reader value).map some

/-- `payload.get("symbols") or []`, if it is a list. -/
def symbolsOf (payload : JsonObject) : List Json.Value :=
  match Json.get payload "symbols" with
  | .list symbols => symbols
  | _             => []

/-- `_article`. -/
def articleOf (reader : ResponseReader) : Json.Value → Except Raised NewsArticle
  | .dict payload => do
      let externalEventId ← shown reader (getOr payload "id" "url")
      let timestamp ← parseTimestamp reader (Json.get payload "created_at")
      let updatedAt ← parseOptionalTimestamp reader (Json.get payload "updated_at")
      let headline := Json.get payload "headline"
      let headline ← if truthy headline then shown reader headline else .ok []
      let symbols ← (symbolsOf payload).mapM (shown reader)
      pure
        { provider        := "alpaca"
          externalEventId := String.ofList externalEventId
          timestamp
          updatedAt
          headline        := String.ofList headline
          source          := textField reader (Json.get payload "source")
          url             := textField reader (Json.get payload "url")
          summary         := textField reader (Json.get payload "summary")
          symbols         := symbols.map fun symbol => String.ofList (upper symbol)
          rawPayload      := detailOf.detailsOfDict payload }
  | _ => .error (marketDataProviderError "Alpaca news item is malformed." [])

/-! ## Pages -/

/-- `payload.get("news", [])`. -/
def newsOf (payload : JsonObject) : Json.Value :=
  match payload.find? (·.1 = "news".toList) with
  | some (_, news) => news
  | none           => .list []

/-- One round of the loop of `fetch_news`: the articles of an answer and the token of the next page, which any
    value is that Python takes for true. -/
def newsPage (reader : ResponseReader) (answer : HttpAnswer) : Except Raised (Page NewsArticle Json.Value) := do
  let payload ← jsonOf "Alpaca news" answer
  match newsOf payload with
  | .list rawNews => do
      let articles ← rawNews.mapM (articleOf reader)
      let token := Json.get payload "next_page_token"
      pure ⟨articles, if truthy token then some token else none⟩
  | _ =>
      .error (marketDataProviderError "Alpaca news response is malformed."
        [("payload", .dict (detailOf.detailsOfDict payload))])

/-- The first request for a scan; the others add the token of their page. -/
def queryOf (request : NewsRequest) : NewsQuery where
  symbols := String.intercalate "," ((request.symbols.map upperSymbol).dedup.insertionSort (· ≤ ·))
  start   := request.start
  end_    := request.stop
  limit   := request.limit

/-- `fetch_news`, for as many requests as `fuel` says. -/
def fetchNews (reader : ResponseReader) (api : NewsApi) (request : NewsRequest) (fuel : ℕ) :
    Option (Except Raised (List NewsArticle)) :=
  if request.symbols = [] then some (.ok [])
  else collect (fun token => newsPage reader (api { queryOf request with pageToken := token })) fuel [] none

end AlpacaNewsProvider

end TradingAI
