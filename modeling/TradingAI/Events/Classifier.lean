import TradingAI.Domain.Values

/-!
# `Events.Classifier` — news articles and what the classifier makes of them

`DeterministicEventClassifier.classify` looks for words in the lower-cased headline and summary; the first
list with a match decides. Only an article that matches nothing is judged by the symbols it names.
-/

namespace TradingAI

structure NewsArticle where
  provider        : String
  externalEventId : String
  timestamp       : DateTime
  updatedAt       : Option DateTime
  headline        : String
  source          : Option String
  url             : Option String
  summary         : Option String
  symbols         : List String
  rawPayload      : Details

structure ClassifiedEvent where
  eventType       : NewsEventType
  severity        : NewsEventSeverity
  impactDirection : ImpactDirection
  relevanceScore  : ℚ
  rationale       : String

/-- `token in text`. -/
def occursIn (text token : String) : Bool := decide (token.toList <:+: text.toList)

/-- `str.lower`, exact for every character that is or becomes an ASCII letter of some token: `'İ'` becomes
    an `'i'` with a combining dot. -/
def lowerText (s : String) : String :=
  String.ofList (s.toList.flatMap fun c => if c = 'İ' then ['i', '\u0307'] else [c.toLower])

namespace DeterministicEventClassifier

def result (eventType : NewsEventType) (severity : NewsEventSeverity) (impactDirection : ImpactDirection)
    (rationale : String) : ClassifiedEvent :=
  ⟨eventType, severity, impactDirection, 85 / 100, rationale⟩

def classify (article : NewsArticle) (symbol : String) : ClassifiedEvent :=
  let text := lowerText (article.headline ++ " " ++ article.summary.getD "")
  if ["downgrade", "lawsuit", "probe"].any (occursIn text) then
    result .analystDowngrade .high .negative "Negative analyst/regulatory language matched."
  else if ["upgrade", "beat", "record profit"].any (occursIn text) then
    result .analystUpgrade .medium .positive "Positive analyst/earnings language matched."
  else if ["fed", "rate", "inflation", "cpi"].any (occursIn text) then
    result .fedRateDecision .medium .neutral "Macro monetary-policy language matched."
  else if ["war", "conflict", "sanction"].any (occursIn text) then
    result .geopoliticalRisk .high .negative "Geopolitical risk language matched."
  else
    { eventType       := .generalMarketNews
      severity        := .low
      impactDirection := .neutral
      relevanceScore  := if upperSymbol symbol ∈ article.symbols then 7 / 10 else 3 / 10
      rationale       := "General market news classified deterministically." }

/-- A word decides before the symbols do: any match is more relevant than a symbol that is named. -/
theorem classify_relevanceScore (article : NewsArticle) (symbol : String) :
    (classify article symbol).relevanceScore =
      if (classify article symbol).eventType = .generalMarketNews then
        if upperSymbol symbol ∈ article.symbols then 7 / 10 else 3 / 10
      else 85 / 100 := by
  unfold classify
  simp only []
  -- the branches in their order; the last is the only one of its type
  split
  · rfl
  split
  · rfl
  split
  · rfl
  split
  · rfl
  · rw [if_pos rfl]

end DeterministicEventClassifier

end TradingAI
