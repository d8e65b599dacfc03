import TradingAI.Agents.OutputParser

/-!
# `Agents.PipelineOutputParser` — the answers of the pipeline's stages, read from their texts

A stage may wrap its JSON in other words: if the whole text does not decode, the first object that starts at
an opening brace counts. The fields are checked like those of a single agent, with texts of their own; only
the confidence, and the exposure of a trading decision, are compared.

## Contents
- `loadFirstJsonObject`, `loadObject`.
- The field checks, and one parser for each stage.
- `proper_…_iff` and `…_bounds` for each parser.
-/

namespace TradingAI

open DecimalText Json Outcome

namespace PipelineOutputParser

/-! ## Finding the object -/

/-- The loop of `_load_first_json_object` over the braces of a text. -/
def firstObject (D : Json.Decoder) : List Char → Except Json.Failure Json.Value
  | [] => .error .decodeError
  | c :: cs =>
      if c ≠ '\x7b' then firstObject D cs
      else
        match rawDecode D (c :: cs) with
        | .ok (.dict payload, _) => .ok (.dict payload)
        | .ok _                  => firstObject D cs
        | .error .decodeError    => firstObject D cs
        | .error e               => .error e

/-- `_load_first_json_object`. -/
def loadFirstJsonObject (D : Json.Decoder) (rawOutputText : String) : Except Json.Failure Json.Value :=
  let text := strip rawOutputText.toList
  match loads D text with
  | .error .decodeError => firstObject D text
  | r                   => r

/-- `_load_object`. -/
def loadObject (I : Interpreter) (rawOutputText : String) : Parsed JsonObject :=
  objectOf "Pipeline output must be valid JSON." "Pipeline output must be a JSON object."
    (loadFirstJsonObject I.decoder rawOutputText)

/-! ## Field checks -/

def fieldRequired (fieldName : String) : String := "Pipeline field " ++ fieldName ++ " is required."

/-- `_parse_enum`. -/
def parseEnum {α : Type} (members : List α) (value : α → String) (fieldName : String) :
    Json.Value → Parsed α :=
  parseMember members value (fieldRequired fieldName)
    ("Pipeline field " ++ fieldName ++ " must be one of " ++ commaJoin (members.map value) ++ ".")

/-- `_parse_confidence`. -/
def parseConfidence (I : Interpreter) : Json.Value → Parsed ℚ :=
  parseUnit I "Pipeline confidence is required." "Pipeline confidence must be between 0 and 1."

/-- `_parse_exposure`. -/
def parseExposure (I : Interpreter) : Json.Value → Parsed ℚ :=
  parseUnit I "Pipeline targetExposurePct is required."
    "Pipeline targetExposurePct must be between 0 and 1."

/-- `_parse_optional_text`. -/
def parseOptionalText (fieldName : String) : Json.Value → Parsed (Option String) :=
  TradingAI.parseOptionalText ("Pipeline field " ++ fieldName ++ " must be text.")

/-- `Decimal.quantize(Decimal("0.0001"))`: more than 28 digits, an infinity and a signaling NaN are invalid. -/
def quantizeNumber : Number → Option Number
  | .finite q     => if (10 : ℚ) ^ 24 ≤ |quantize4 q| then none else some (.finite (quantize4 q))
  | .infinity _   => none
  | .nan true     => none
  | .nan false    => some (.nan false)

/-- `_parse_optional_decimal`. Its `try` includes the `quantize`. -/
def parseOptionalDecimal (I : Interpreter) (v : Json.Value) : Parsed (Option Number) :=
  match v with
  | .null => .ok none
  | v => do
      match (← decimalOf I v).bind quantizeNumber with
      | some x => .ok (some x)
      | none   => parseError "Pipeline numeric field must be valid."

/-- `_parse_optional_object`. -/
def parseOptionalObject : Json.Value → Parsed (Option JsonObject)
  | .null   => .ok none
  | .dict p => .ok (some p)
  | _       => parseError "Pipeline object field must be a JSON object."

/-- `[str(item) for item in value]`. -/
def showItems (I : Interpreter) (values : List Json.Value) : Parsed (List String) :=
  if values.any (I.reprLimit < ·.depth) then .error .recursionError else .ok (values.map I.str)

/-- `_parse_optional_string_list`. -/
def parseOptionalStringList (I : Interpreter) : Json.Value → Parsed (Option (List String))
  | .null        => .ok none
  | .list values => (showItems I values).map some
  | _            => parseError "Pipeline list field must be a JSON list."

/-- `bool(value)`. -/
def truthy : Json.Value → Bool
  | .null             => false
  | .bool b           => b
  | .int n            => n ≠ 0
  | .float (.finite q) => q ≠ 0
  | .float _          => true
  | .str cs           => cs ≠ []
  | .list values      => ¬ values.isEmpty
  | .dict entries     => ¬ entries.isEmpty

/-- `payload.get(key) or payload.get(other)`. -/
def getOr (payload : JsonObject) (key other : String) : Json.Value :=
  if truthy (get payload key) then get payload key else get payload other

def MarketBias.all : List MarketBias := [.bullish, .bearish, .neutral]

def RiskManagerVerdict.all : List RiskManagerVerdict := [.approve, .reject]

def RiskLevel.all : List RiskLevel := [.low, .medium, .high]

/-! ## The parsers -/

/-- A member of an enumeration, a confidence and a text: the shape of five of the answers. -/
def parseOpinion {α β : Type} (I : Interpreter) (members : List α) (value : α → String)
    (field textField : String) (build : α → ℚ → String → β) (rawOutputText : String) : Parsed β := do
  let payload ← loadObject I rawOutputText
  let member ← parseEnum members value field (get payload field)
  let confidence ← parseConfidence I (get payload "confidence")
  let text ← parseText (fieldRequired textField) (get payload textField)
  pure (build member confidence text)

/-- `parse_market_analysis`. -/
def parseMarketAnalysis (I : Interpreter) : String → Parsed MarketAnalysisOutput :=
  parseOpinion I MarketBias.all MarketBias.value "marketBias" "rationale" MarketAnalysisOutput.mk

/-- `parse_risk_manager`. -/
def parseRiskManager (I : Interpreter) : String → Parsed RiskManagerOutput :=
  parseOpinion I RiskManagerVerdict.all RiskManagerVerdict.value "verdict" "rationale" RiskManagerOutput.mk

/-- `parse_fundamental_analysis`. -/
def parseFundamentalAnalysis (I : Interpreter) : String → Parsed FundamentalAnalysisOutput :=
  parseOpinion I MarketBias.all MarketBias.value "signal" "summary" FundamentalAnalysisOutput.mk

/-- `parse_sentiment_analysis`. -/
def parseSentimentAnalysis (I : Interpreter) : String → Parsed SentimentAnalysisOutput :=
  parseOpinion I MarketBias.all MarketBias.value "signal" "summary" SentimentAnalysisOutput.mk

/-- `parse_risk_assessment`. -/
def parseRiskAssessment (I : Interpreter) : String → Parsed RiskAssessmentOutput :=
  parseOpinion I RiskLevel.all RiskLevel.value "riskLevel" "summary" RiskAssessmentOutput.mk

/-- `parse_trading_decision`. -/
def parseTradingDecision (I : Interpreter) (rawOutputText : String) : Parsed ParsedAgentOutput := do
  let payload ← loadObject I rawOutputText
  let action ← parseEnum TradeAction.all TradeAction.value "action" (get payload "action")
  let tradeIntent ← parseEnum TradeIntent.all TradeIntent.value "tradeIntent" (get payload "tradeIntent")
  let targetExposurePct ← parseExposure I (get payload "targetExposurePct")
  let confidence ← parseConfidence I (get payload "confidence")
  let primaryDriver ←
    parseEnum PrimaryDriver.all PrimaryDriver.value "primaryDriver" (get payload "primaryDriver")
  let newInformation ← parseBool (fieldRequired "newInformation") (get payload "newInformation")
  let rationale ← parseText (fieldRequired "rationale") (get payload "rationale")
  let eventId ← parseOptionalText "eventId" (get payload "eventId")
  pure { action, tradeIntent, targetExposurePct, confidence, primaryDriver, newInformation, rationale,
         eventId }

/-- `parse_portfolio_decision`. -/
def parsePortfolioDecision (I : Interpreter) : String → Parsed ParsedAgentOutput := parseTradingDecision I

/-- `parse_technical_analysis`. -/
def parseTechnicalAnalysis (I : Interpreter) (rawOutputText : String) : Parsed TechnicalAnalysisOutput := do
  let payload ← loadObject I rawOutputText
  let signal ← parseEnum MarketBias.all MarketBias.value "signal" (get payload "signal")
  let summary ← parseText (fieldRequired "summary") (getOr payload "summary" "rationale")
  let confidence ← parseConfidence I (get payload "confidence")
  let rsi ← parseOptionalDecimal I (get payload "rsi")
  let sma20 ← parseOptionalDecimal I (get payload "sma20")
  let trend ← parseOptionalText "trend" (get payload "trend")
  let volatilityPct ← parseOptionalDecimal I (get payload "volatilityPct")
  let indicators ← parseOptionalObject (get payload "indicators")
  let timeHorizonSignals ← parseOptionalObject (get payload "timeHorizonSignals")
  let riskNotes ← parseOptionalStringList I (get payload "riskNotes")
  pure { signal, confidence, rationale := summary, rsi, sma20, trend := trend.getD "UNKNOWN", volatilityPct,
         indicators, timeHorizonSignals, riskNotes }

/-! ## Nothing but an `AgentOutputParseError` is raised -/

/-- **When a text is readable**, for a parser that needs `P` of the object in it: the search for the object
    ends by the syntax, and the object satisfies `P`. -/
def Readable (I : Interpreter) (P : JsonObject → Prop) (text : String) : Prop :=
  (∀ e, loadFirstJsonObject I.decoder text = .error e → e = .decodeError) ∧
    ∀ payload, loadFirstJsonObject I.decoder text = .ok (.dict payload) → P payload

/-- The confidence is looked at only if the member before it is one. -/
def ConfidenceReadable {α : Type} (I : Interpreter) (members : List α) (value : α → String) (field : String)
    (payload : JsonObject) : Prop :=
  (memberOf members value (get payload field)).isSome → ¬ Unreadable I (get payload "confidence")

/-- A check lets the value pass. -/
def Passes {α : Type} (x : Parsed α) : Prop := ∃ a, x = .ok a

/-- The fields of a technical analysis that are turned into texts or compared, each looked at only if the
    checks before it pass. -/
def TechnicalReadable (I : Interpreter) (payload : JsonObject) : Prop :=
  (memberOf MarketBias.all MarketBias.value (get payload "signal")).isSome →
  Passes (parseText (fieldRequired "summary") (getOr payload "summary" "rationale")) →
    ¬ Unreadable I (get payload "confidence") ∧ (InUnit I (get payload "confidence") →
      ¬ TooDeep I (get payload "rsi") ∧ (Passes (parseOptionalDecimal I (get payload "rsi")) →
        ¬ TooDeep I (get payload "sma20") ∧ (Passes (parseOptionalDecimal I (get payload "sma20")) →
          Passes (parseOptionalText "trend" (get payload "trend")) →
            ¬ TooDeep I (get payload "volatilityPct") ∧
              (Passes (parseOptionalDecimal I (get payload "volatilityPct")) →
                Passes (parseOptionalObject (get payload "indicators")) →
                Passes (parseOptionalObject (get payload "timeHorizonSignals")) →
                  ∀ values, get payload "riskNotes" = .list values → ∀ v ∈ values, ¬ TooDeep I v))))

variable {I : Interpreter} {text : String} {v : Json.Value} {α β : Type}

/-- `str` fails on the values that nest too deep, and on no others. -/
theorem decimalOf_error_iff : (∃ e, decimalOf I v = .error e) ↔ TooDeep I v := by
  unfold decimalOf TooDeep
  cases v with
  | list values =>
      dsimp only
      split_ifs with h
      · exact iff_of_true ⟨_, rfl⟩ h
      · refine iff_of_false ?_ h
        rintro ⟨e, he⟩; cases he
  | dict entries =>
      dsimp only
      split_ifs with h
      · exact iff_of_true ⟨_, rfl⟩ h
      · refine iff_of_false ?_ h
        rintro ⟨e, he⟩; cases he
  | _ => simp [Json.Value.depth]

theorem decimalOf_error_eq {e : ParserException} (h : decimalOf I v = .error e) : e = .recursionError := by
  unfold decimalOf at h
  split at h
  · cases h
  · cases h
  · cases h
  · cases h
  · cases h
  · split_ifs at h; cases h; rfl
  · split_ifs at h; cases h; rfl

theorem not_proper_recursionError : ¬ Proper (.error .recursionError : Parsed α) := by
  intro h; obtain ⟨m, hm⟩ := h _ rfl; cases hm

/-- An optional figure is not compared: only `str` can fail on it. -/
theorem proper_parseOptionalDecimal_iff : Proper (parseOptionalDecimal I v) ↔ ¬ TooDeep I v := by
  have hshown (h : v ≠ .null) : parseOptionalDecimal I v = (decimalOf I v >>= fun d =>
      match d.bind quantizeNumber with
      | some x => .ok (some x)
      | none   => parseError "Pipeline numeric field must be valid.") := by
    cases v with
    | null => exact absurd rfl h
    | _    => rfl
  by_cases hnull : v = .null
  · subst hnull
    exact iff_of_true (proper_ok _) (by simp [TooDeep, Json.Value.depth])
  · rw [hshown hnull, ← decimalOf_error_iff]
    cases hv : decimalOf I v with
    | error e =>
        refine iff_of_false ?_ (by simp)
        rw [decimalOf_error_eq hv]; exact not_proper_recursionError
    | ok d =>
        refine iff_of_true ?_ (by simp)
        refine proper_seq_ok (proper_ok d) fun d => ?_
        split
        · exact proper_ok _
        · exact proper_parseError _

theorem proper_parseOptionalObject : Proper (parseOptionalObject v) := by
  unfold parseOptionalObject
  split
  · exact proper_ok _
  · exact proper_ok _
  · exact proper_parseError _

theorem proper_parseOptionalStringList_iff :
    Proper (parseOptionalStringList I v) ↔ ∀ values, v = .list values → ∀ w ∈ values, ¬ TooDeep I w := by
  cases v with
  | list values =>
      unfold parseOptionalStringList showItems
      rw [proper_map]
      by_cases hdeep : values.any (I.reprLimit < ·.depth)
      · rw [if_pos hdeep]
        refine iff_of_false not_proper_recursionError ?_
        obtain ⟨w, hw, hlt⟩ := List.any_eq_true.mp hdeep
        rw [decide_eq_true_eq] at hlt
        intro h; exact h values rfl w hw hlt
      · rw [if_neg hdeep]
        refine iff_of_true (proper_ok _) ?_
        intro l hl w hw hlt
        cases hl
        exact hdeep (List.any_eq_true.mpr ⟨w, hw, decide_eq_true hlt⟩)
  | null => exact iff_of_true (proper_ok _) (by intro l hl; cases hl)
  | _    => exact iff_of_true (proper_parseError _) (by intro l hl; cases hl)

/-- **The five parsers of opinions.** -/
theorem proper_parseOpinion_iff {members : List α} {value : α → String} {field textField : String}
    {build : α → ℚ → String → β} :
    Proper (parseOpinion I members value field textField build text) ↔
      Readable I (ConfidenceReadable I members value field) text := by
  have hfields (payload : JsonObject) :
      Proper (do
        let member ← parseEnum members value field (get payload field)
        let confidence ← parseConfidence I (get payload "confidence")
        let text ← parseText (fieldRequired textField) (get payload textField)
        pure (build member confidence text)) ↔ ConfidenceReadable I members value field payload := by
    unfold ConfidenceReadable
    rw [← parseMember_ok_iff, ← proper_parseUnit_iff]
    refine proper_seq_of (proper_parseMember _ _ _ _) fun member => ?_
    rw [proper_bind]
    apply and_iff_left
    intro confidence _
    exact proper_seq_ok (proper_parseText _) fun text => proper_pure _
  unfold parseOpinion Readable loadObject
  rw [proper_object_iff]
  simp only [hfields]

/-- **The parser of trading decisions.** -/
theorem proper_parseTradingDecision_iff :
    Proper (parseTradingDecision I text) ↔ Readable I (AgentOutputParser.NumbersReadable I) text := by
  unfold parseTradingDecision Readable loadObject
  rw [proper_object_iff]
  apply and_congr_right
  intro _
  apply forall_congr'
  intro payload
  apply imp_congr_right
  intro _
  unfold AgentOutputParser.NumbersReadable
  rw [← parseMember_ok_iff, ← parseMember_ok_iff]
  refine proper_seq_of (proper_parseMember _ _ _ _) fun action => ?_
  refine proper_seq_of (proper_parseMember _ _ _ _) fun tradeIntent => ?_
  rw [parseExposure, ← proper_parseUnit_iff, ← parseUnit_ok_iff]
  refine proper_seq fun targetExposurePct => ?_
  rw [← proper_parseUnit_iff, proper_bind]
  apply and_iff_left
  intro confidence _
  refine proper_seq_ok (proper_parseMember _ _ _ _) fun driver => ?_
  refine proper_seq_ok (proper_parseBool _) fun new => ?_
  refine proper_seq_ok (proper_parseText _) fun rationale => ?_
  exact proper_seq_ok (proper_parseOptionalText _) fun eventId => proper_pure _

/-- **The parser of technical analyses.** -/
theorem proper_parseTechnicalAnalysis_iff :
    Proper (parseTechnicalAnalysis I text) ↔ Readable I (TechnicalReadable I) text := by
  unfold parseTechnicalAnalysis Readable loadObject
  rw [proper_object_iff]
  apply and_congr_right
  intro _
  apply forall_congr'
  intro payload
  apply imp_congr_right
  intro _
  unfold TechnicalReadable Passes
  rw [← parseMember_ok_iff]
  refine proper_seq_of (proper_parseMember _ _ _ _) fun signal => ?_
  refine proper_seq_of (proper_parseText _) fun summary => ?_
  rw [parseConfidence, ← proper_parseUnit_iff, ← parseUnit_ok_iff]
  refine proper_seq fun confidence => ?_
  rw [← proper_parseOptionalDecimal_iff]
  refine proper_seq fun rsi => ?_
  rw [← proper_parseOptionalDecimal_iff]
  refine proper_seq fun sma20 => ?_
  refine proper_seq_of (proper_parseOptionalText _) fun trend => ?_
  rw [← proper_parseOptionalDecimal_iff]
  refine proper_seq fun volatilityPct => ?_
  refine proper_seq_of proper_parseOptionalObject fun indicators => ?_
  refine proper_seq_of proper_parseOptionalObject fun signals => ?_
  rw [proper_bind, proper_parseOptionalStringList_iff]
  apply and_iff_left
  intro notes _
  exact proper_pure _

/-! ## What is accepted -/

/-- The confidence of an accepted opinion is between 0 and 1. -/
theorem parseOpinion_bounds {members : List α} {value : α → String} {field textField : String}
    {build : α → ℚ → String → β} {r : β} (h : parseOpinion I members value field textField build text = .ok r) :
    ∃ member confidence summary, r = build member confidence summary ∧ 0 ≤ confidence ∧ confidence ≤ 1 := by
  obtain ⟨payload, -, h⟩ := ok_of_bind h
  obtain ⟨member, -, h⟩ := ok_of_bind h
  obtain ⟨confidence, hconfidence, h⟩ := ok_of_bind h
  obtain ⟨summary, -, h⟩ := ok_of_bind h
  cases h
  have hunit := parseUnit_bounds hconfidence
  exact ⟨member, confidence, summary, rfl, hunit.1, hunit.2.1⟩

theorem parseTradingDecision_bounds {r : ParsedAgentOutput} (h : parseTradingDecision I text = .ok r) :
    (0 ≤ r.targetExposurePct ∧ r.targetExposurePct ≤ 1 ∧ Rounding.OnGrid 4 r.targetExposurePct) ∧
      (0 ≤ r.confidence ∧ r.confidence ≤ 1 ∧ Rounding.OnGrid 4 r.confidence) := by
  obtain ⟨payload, -, h⟩ := ok_of_bind h
  obtain ⟨action, -, h⟩ := ok_of_bind h
  obtain ⟨tradeIntent, -, h⟩ := ok_of_bind h
  obtain ⟨target, htarget, h⟩ := ok_of_bind h
  obtain ⟨confidence, hconfidence, h⟩ := ok_of_bind h
  obtain ⟨driver, -, h⟩ := ok_of_bind h
  obtain ⟨new, -, h⟩ := ok_of_bind h
  obtain ⟨rationale, -, h⟩ := ok_of_bind h
  obtain ⟨eventId, -, h⟩ := ok_of_bind h
  cases h
  exact ⟨parseUnit_bounds htarget, parseUnit_bounds hconfidence⟩

theorem parseTechnicalAnalysis_bounds {r : TechnicalAnalysisOutput}
    (h : parseTechnicalAnalysis I text = .ok r) : 0 ≤ r.confidence ∧ r.confidence ≤ 1 := by
  obtain ⟨payload, -, h⟩ := ok_of_bind h
  obtain ⟨signal, -, h⟩ := ok_of_bind h
  obtain ⟨summary, -, h⟩ := ok_of_bind h
  obtain ⟨confidence, hconfidence, h⟩ := ok_of_bind h
  obtain ⟨rsi, -, h⟩ := ok_of_bind h
  obtain ⟨sma20, -, h⟩ := ok_of_bind h
  obtain ⟨trend, -, h⟩ := ok_of_bind h
  obtain ⟨volatilityPct, -, h⟩ := ok_of_bind h
  obtain ⟨indicators, -, h⟩ := ok_of_bind h
  obtain ⟨signals, -, h⟩ := ok_of_bind h
  obtain ⟨notes, -, h⟩ := ok_of_bind h
  cases h
  have hunit := parseUnit_bounds hconfidence
  exact ⟨hunit.1, hunit.2.1⟩

end PipelineOutputParser

end TradingAI
