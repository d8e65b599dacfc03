import TradingAI.Agents.Pipeline
import TradingAI.Correctness.AgentFallback

/-!
# `Correctness.PipelineFailSafe` — no BUY without a portfolio manager and a risk manager

A stage either passes on what one of the texts it received says, or falls back; its log says which. The
fallbacks are on the safe side: the portfolio manager's is a HOLD, the risk manager's a HIGH risk, which blocks
a BUY at the gate. So a BUY of the pipeline is the portfolio manager's own, and the risk manager's answer was
heard.

## Contents
- `repairTexts`, `stageTexts`: the texts a stage receives, at most three.
- `StageTruthful`, `runStage_truthful`: what a stage's log says of its output.
- `BuyJustified`, `pipeline_failSafe`.
-/

namespace TradingAI

open Json Outcome AgentDecisionPipeline

namespace AgentDecisionPipeline

variable {α : Type}

/-! ## The texts a stage receives -/

/-- The repaired texts of `n` rounds: another round follows a text that raises an `AgentOutputParseError`. -/
def repairTexts (prompts : PipelinePrompts) (context : AgentContext) (spec : StageSpec α) (repair : Repair) :
    ℕ → String → String → List String
  | 0, _, _ => []
  | n + 1, input, error =>
      match repair (prompts.stageRepair spec.stageLabel input error) context input error with
      | .ok (some response) =>
          response.rawOutputText ::
            match spec.parser response.rawOutputText with
            | .error (.agentOutputParseError text) =>
                repairTexts prompts context spec repair n response.rawOutputText text
            | _ => []
      | _ => []

/-- **The texts a stage receives**: its answer and at most two repairs of it. -/
def stageTexts (prompts : PipelinePrompts) (context : AgentContext) (spec : StageSpec α) (repair : Repair)
    (complete : ProviderAnswer AgentProviderResponse) : List String :=
  match complete with
  | .error _ => []
  | .ok response =>
      response.rawOutputText ::
        match spec.parser response.rawOutputText with
        | .error (.agentOutputParseError message) =>
            repairTexts prompts context spec repair 2 response.rawOutputText message
        | _ => []

variable {prompts : PipelinePrompts} {context : AgentContext} {spec : StageSpec α} {repair : Repair}
variable {complete : ProviderAnswer AgentProviderResponse}

theorem repairTexts_length_le (n : ℕ) (input error : String) :
    (repairTexts prompts context spec repair n input error).length ≤ n := by
  induction n generalizing input error with
  | zero => simp [repairTexts]
  | succ n ih =>
      unfold repairTexts
      split
      · rw [List.length_cons]
        apply Nat.succ_le_succ
        split
        · exact ih _ _
        · simp
      · simp

theorem stageTexts_length_le : (stageTexts prompts context spec repair complete).length ≤ 3 := by
  unfold stageTexts
  split
  · simp
  · rw [List.length_cons]
    apply Nat.succ_le_succ
    split
    · exact repairTexts_length_le _ _ _
    · simp

/-! ## What a stage's log says -/

/-- No text parses. -/
def NoneParses (spec : StageSpec α) (texts : List String) : Prop :=
  ∀ text ∈ texts, ∀ a, spec.parser text ≠ .ok a

/-- A text parses to `a`. -/
def Says (spec : StageSpec α) (texts : List String) (a : α) : Prop :=
  ∃ text ∈ texts, spec.parser text = .ok a

theorem Says.cons {texts : List String} {text : String} {a : α} (h : Says spec texts a) :
    Says spec (text :: texts) a := by
  obtain ⟨t, ht, hparse⟩ := h
  exact ⟨t, List.mem_cons_of_mem _ ht, hparse⟩

theorem NoneParses.cons {texts : List String} {text : String} {e : ParserException}
    (htext : spec.parser text = .error e) (h : NoneParses spec texts) : NoneParses spec (text :: texts) := by
  intro t ht a hparse
  rcases List.mem_cons.mp ht with rfl | ht
  · rw [htext] at hparse; cases hparse
  · exact h t ht a hparse

/-- **The repair loop**: it ends with what a text says, or with nothing and a failure. -/
theorem repairLoop_outcome {n : ℕ} {s t : RepairState α} (hstart : s.parsed = none)
    (hfailed : 0 < n ∨ s.parsingFailed = true) (h : repairLoop prompts context spec repair n s = .ok t) :
    (∃ a, Says spec (repairTexts prompts context spec repair n s.repairInput s.parseError) a ∧
        t.parsed = some a ∧ t.parsingFailed = false ∧ t.repairPrompt.isSome) ∨
      (NoneParses spec (repairTexts prompts context spec repair n s.repairInput s.parseError) ∧
        t.parsed = none ∧ t.parsingFailed = true) := by
  induction n generalizing s with
  | zero =>
      cases h
      refine .inr ⟨?_, hstart, hfailed.resolve_left (lt_irrefl 0)⟩
      intro text htext; cases htext
  | succ n ih =>
      unfold repairLoop at h
      unfold repairTexts
      dsimp only at h
      cases hrepair : repair (prompts.stageRepair spec.stageLabel s.repairInput s.parseError) context
          s.repairInput s.parseError with
      | error text =>
          rw [hrepair] at h
          cases h
          refine .inr ⟨?_, hstart, rfl⟩
          intro t ht; cases ht
      | ok answer =>
          rw [hrepair] at h
          cases answer with
          | none =>
              cases h
              refine .inr ⟨?_, hstart, rfl⟩
              intro t ht; cases ht
          | some response =>
              dsimp only at h ⊢
              cases hparse : spec.parser response.rawOutputText with
              | ok parsed =>
                  rw [hparse] at h
                  cases h
                  exact .inl ⟨parsed, ⟨_, List.mem_cons_self, hparse⟩, rfl, rfl, rfl⟩
              | error e =>
                  rw [hparse] at h
                  cases e with
                  | agentOutputParseError text =>
                      -- the next round starts from the repaired text
                      rcases ih (by exact hstart) (.inr rfl) h with ⟨a, hsaid, hend⟩ | ⟨hnone, hend⟩
                      · exact .inl ⟨a, hsaid.cons, hend⟩
                      · exact .inr ⟨hnone.cons hparse, hend⟩
                  | _ => cases h

/-- **A truthful stage**: its log is `FAILED` exactly when no text it received parses. Its output is then the
    fallback; otherwise it is what one of the texts says. -/
structure StageTruthful (spec : StageSpec α) (texts : List String) (r : PipelineStageResult α) : Prop where
  failed   : r.parsingStatus = .failed ↔ NoneParses spec texts
  fallback : r.parsingStatus = .failed → ∃ reason, r.parsedOutput = spec.fallback reason
  parsed   : r.parsingStatus ≠ .failed → Says spec texts r.parsedOutput

theorem parsingStatus_failed_iff (r : StageRecord) :
    r.parsingStatus = .failed ↔ r.parsingFailed = true := by
  unfold StageRecord.parsingStatus
  split_ifs with h1 h2
  · exact iff_of_true rfl h1
  · exact iff_of_false (by decide) h1
  · exact iff_of_false (by decide) h1

theorem StageTruthful.of_said {texts : List String} {r : PipelineStageResult α}
    (hstatus : r.parsingFailed = false) (hsaid : Says spec texts r.parsedOutput) :
    StageTruthful spec texts r := by
  have hnot : r.parsingStatus ≠ .failed := by
    rw [Ne, parsingStatus_failed_iff, hstatus]; exact Bool.false_ne_true
  refine ⟨iff_of_false hnot fun hnone => ?_, fun hfailed => absurd hfailed hnot, fun _ => hsaid⟩
  obtain ⟨text, htext, hparse⟩ := hsaid
  exact hnone text htext _ hparse

theorem StageTruthful.of_fallback {texts : List String} {r : PipelineStageResult α}
    (hstatus : r.parsingFailed = true) (hnone : NoneParses spec texts)
    (houtput : ∃ reason, r.parsedOutput = spec.fallback reason) : StageTruthful spec texts r := by
  have hfailed : r.parsingStatus = .failed := (parsingStatus_failed_iff _).mpr hstatus
  exact ⟨iff_of_true hfailed hnone, fun _ => houtput, fun h => absurd hfailed h⟩

/-- **Every stage is truthful.** -/
theorem runStage_truthful {r : PipelineStageResult α}
    (h : runStage prompts context spec repair complete = .ok r) :
    StageTruthful spec (stageTexts prompts context spec repair complete) r := by
  unfold runStage at h
  unfold stageTexts
  cases complete with
  | error text =>
      cases h
      refine .of_fallback rfl ?_ ⟨text, rfl⟩
      intro t ht; cases ht
  | ok response =>
      dsimp only at h ⊢
      unfold parseWithRepair at h
      cases hparse : spec.parser response.rawOutputText with
      | ok parsed =>
          rw [hparse] at h
          cases h
          exact .of_said rfl ⟨_, List.mem_cons_self, hparse⟩
      | error e =>
          rw [hparse] at h
          cases e with
          | agentOutputParseError message =>
              dsimp only at h ⊢
              cases hloop : repairLoop prompts context spec repair 2
                  { repairInput := response.rawOutputText, parseError := message } with
              | error e => rw [hloop] at h; cases h
              | ok t =>
                  rw [hloop] at h
                  cases h
                  rcases repairLoop_outcome rfl (.inl (by decide)) hloop with
                    ⟨a, hsaid, hparsed, hok, -⟩ | ⟨hnone, hparsed, hfailed⟩
                  · refine .of_said hok ?_
                    have houtput : (repairedStage spec response t).parsedOutput = a := by
                      simp [repairedStage, hparsed]
                    rw [houtput]
                    exact hsaid.cons
                  · refine .of_fallback hfailed (hnone.cons hparse)
                      ⟨textOr (some t.parseError) "Pipeline output could not be repaired.", ?_⟩
                    show t.parsed.getD _ = _
                    rw [hparsed]
                    rfl
          | _ => cases h

/-! ## The stages of a run -/

namespace PipelineStages

variable (prompts : PipelinePrompts) (context : AgentContext) (I : Interpreter) (provider : PipelineProvider)
variable (inputs : PipelineInputs) (s : PipelineStages)

/-- The stages as the run specified them. -/
def sentimentSpec : StageSpec SentimentAnalysisOutput :=
  AgentDecisionPipeline.sentimentSpec prompts context I s.technical.parsedOutput

def riskSpec : StageSpec RiskAssessmentOutput :=
  AgentDecisionPipeline.riskSpec prompts context I s.technical.parsedOutput s.fundamental.parsedOutput
    s.sentiment.parsedOutput

def portfolioSpec : StageSpec ParsedAgentOutput :=
  AgentDecisionPipeline.portfolioSpec prompts context I s.technical.parsedOutput
    s.fundamental.parsedOutput s.sentiment.parsedOutput s.risk.parsedOutput

/-- The texts the technical analyst's stage received. -/
def technicalTexts : List String :=
  let spec := technicalSpec prompts context I inputs
  stageTexts prompts context spec provider.repairTechnicalAnalyst
    (provider.completeTechnicalAnalyst spec.prompt context inputs.technicalSnapshot)

def fundamentalTexts : List String :=
  let spec := fundamentalSpec prompts context I
  stageTexts prompts context spec provider.repairFundamentalAnalyst
    (provider.completeFundamentalAnalyst spec.prompt context)

def sentimentTexts : List String :=
  let spec := s.sentimentSpec prompts context I
  stageTexts prompts context spec provider.repairSentimentAnalyst
    (provider.completeSentimentAnalyst spec.prompt context s.technical.parsedOutput)

def riskTexts : List String :=
  let spec := s.riskSpec prompts context I
  stageTexts prompts context spec provider.repairRiskAssessment
    (provider.completeRiskAssessment spec.prompt context s.technical.parsedOutput
      s.fundamental.parsedOutput s.sentiment.parsedOutput)

def portfolioTexts : List String :=
  let spec := s.portfolioSpec prompts context I
  stageTexts prompts context spec provider.repairPortfolioManager
    (provider.completePortfolioManager spec.prompt context s.technical.parsedOutput
      s.fundamental.parsedOutput s.sentiment.parsedOutput s.risk.parsedOutput)

end PipelineStages

variable {I : Interpreter} {provider : PipelineProvider} {inputs : PipelineInputs}

/-- **All logs are truthful.** The first stage asks nobody and cannot fail. -/
structure LogsTruthful (prompts : PipelinePrompts) (context : AgentContext) (I : Interpreter)
    (provider : PipelineProvider) (inputs : PipelineInputs) (s : PipelineStages) : Prop where
  fetch : s.fetch.parsingStatus = .success
  technical :
    StageTruthful (technicalSpec prompts context I inputs)
      (PipelineStages.technicalTexts prompts context I provider inputs) s.technical
  fundamental :
    StageTruthful (fundamentalSpec prompts context I)
      (PipelineStages.fundamentalTexts prompts context I provider) s.fundamental
  sentiment :
    StageTruthful (s.sentimentSpec prompts context I) (s.sentimentTexts prompts context I provider) s.sentiment
  risk : StageTruthful (s.riskSpec prompts context I) (s.riskTexts prompts context I provider) s.risk
  portfolio :
    StageTruthful (s.portfolioSpec prompts context I) (s.portfolioTexts prompts context I provider) s.portfolio

theorem runStages_truthful {s : PipelineStages} (h : runStages prompts context I provider inputs = .ok s) :
    LogsTruthful prompts context I provider inputs s := by
  unfold runStages at h
  dsimp only at h
  obtain ⟨technical, htechnical, h⟩ := ok_of_bind h
  obtain ⟨fundamental, hfundamental, h⟩ := ok_of_bind h
  obtain ⟨sentiment, hsentiment, h⟩ := ok_of_bind h
  obtain ⟨risk, hrisk, h⟩ := ok_of_bind h
  obtain ⟨portfolio, hportfolio, h⟩ := ok_of_bind h
  cases h
  exact ⟨rfl, runStage_truthful htechnical, runStage_truthful hfundamental, runStage_truthful hsentiment,
    runStage_truthful hrisk, runStage_truthful hportfolio⟩

/-! ## A BUY -/

/-- **A justified BUY**: the portfolio manager said it, on new information, confidently enough and with a
    target above the current exposure, and the risk manager was heard and saw no HIGH risk. -/
structure BuyJustified (prompts : PipelinePrompts) (context : AgentContext) (I : Interpreter)
    (provider : PipelineProvider) (s : PipelineStages) : Prop where
  proposed : ∃ text ∈ s.portfolioTexts prompts context I provider,
    PipelineOutputParser.parsePortfolioDecision I text = .ok s.portfolio.parsedOutput
  buy : s.portfolio.parsedOutput.action = .buy
  newInformation : s.portfolio.parsedOutput.newInformation = true
  confident : ∀ threshold, context.confidenceThreshold = some threshold →
    threshold ≤ s.portfolio.parsedOutput.confidence
  aboveExposure :
    AgentDecisionGate.currentExposurePct context < s.portfolio.parsedOutput.targetExposurePct
  assessed : ∃ text ∈ s.riskTexts prompts context I provider,
    PipelineOutputParser.parseRiskAssessment I text = .ok s.risk.parsedOutput
  notHigh : s.risk.parsedOutput.riskLevel ≠ .high

/-- A BUY of the pipeline is justified. -/
theorem buyJustified_of_truthful {s : PipelineStages} (hlogs : LogsTruthful prompts context I provider inputs s)
    (hbuy : (conclude prompts context s).decision.action = .buy) :
    BuyJustified prompts context I provider s := by
  have hgate : (AgentDecisionGate.apply s.gateInput context (some s.risk.parsedOutput.riskLevel.value)
      1).decision.action = .buy := hbuy
  obtain ⟨haction, hthreshold, habove, hnew, hrisk⟩ := AgentDecisionGate.apply_buy hgate
  -- the fallback is a HOLD, so the proposal is the stage's own
  have hown : s.portfolio.parsingFailed = false := by
    by_contra hfailed
    rw [Bool.not_eq_false] at hfailed
    rw [PipelineStages.gateInput, if_pos hfailed] at haction
    cases haction
  have hinput : s.gateInput = s.portfolio.parsedOutput := by
    rw [PipelineStages.gateInput, hown]; rfl
  rw [hinput] at haction hthreshold habove hnew
  have hlevel : s.risk.parsedOutput.riskLevel ≠ .high := by
    intro hhigh; exact hrisk (by rw [hhigh]; rfl)
  have hproposed := hlogs.portfolio.parsed (by
    rw [Ne, parsingStatus_failed_iff, hown]; exact Bool.false_ne_true)
  -- so is the risk level: the fallback's is HIGH
  have hassessed := hlogs.risk.parsed (by
    intro hfailed
    obtain ⟨reason, hfallback⟩ := hlogs.risk.fallback hfailed
    exact hlevel (by rw [hfallback]; rfl))
  refine ⟨hproposed, haction, hnew, ?_, habove.trans_le (min_le_left _ _), hassessed, hlevel⟩
  intro threshold hsome
  rw [AgentDecisionGate.belowThreshold, hsome] at hthreshold
  simpa using hthreshold

/-- **The pipeline fails safe**: whatever its provider answers or raises, a run that returns logs its stages
    truthfully, and a BUY it returns is justified. -/
theorem pipeline_failSafe (prompts : PipelinePrompts) (context : AgentContext) (I : Interpreter)
    (provider : PipelineProvider) (inputs : PipelineInputs) (r : AgentRunResult)
    (h : AgentDecisionPipeline.run prompts context I provider inputs = .ok r) :
    ∃ s : PipelineStages, runStages prompts context I provider inputs = .ok s ∧
      r.logPayloads = s.records.map (toLogPayload prompts) ∧
      LogsTruthful prompts context I provider inputs s ∧
      (r.decision.action = .buy → BuyJustified prompts context I provider s) := by
  unfold AgentDecisionPipeline.run at h
  cases hstages : runStages prompts context I provider inputs with
  | error e => rw [hstages] at h; cases h
  | ok s =>
      rw [hstages] at h
      cases h
      have hlogs := runStages_truthful hstages
      exact ⟨s, rfl, rfl, hlogs, fun hbuy => buyJustified_of_truthful hlogs hbuy⟩

/-! ## A BUY that is repaired once -/

/-- A provider whose portfolio manager needs one repair; the risk is low. -/
def repairedBuyProvider : PipelineProvider where
  completeTechnicalAnalyst   := fun _ _ _ => .error "unavailable"
  repairTechnicalAnalyst     := fun _ _ _ _ => .ok none
  completeFundamentalAnalyst := fun _ _ => .ok ⟨"no idea", "model", none⟩
  repairFundamentalAnalyst   := fun _ _ _ _ => .ok none
  completeSentimentAnalyst   := fun _ _ _ => .ok ⟨"no idea", "model", none⟩
  repairSentimentAnalyst     := fun _ _ _ _ => .error "unavailable"
  completeRiskAssessment     := fun _ _ _ _ _ =>
    .ok ⟨"\x7b\"riskLevel\": \"low\", \"confidence\": 1, \"summary\": \"calm\"\x7d", "model", none⟩
  repairRiskAssessment       := fun _ _ _ _ => .ok none
  completePortfolioManager   := fun _ _ _ _ _ _ => .ok ⟨"BUY!", "model", none⟩
  repairPortfolioManager     := fun _ _ _ _ =>
    .ok (some ⟨"so: \x7b\"action\": \"BUY\", \"tradeIntent\": \"OPEN_LONG\", \"targetExposurePct\": 1, "
      ++ "\"confidence\": 1, \"primaryDriver\": \"RISK\", \"newInformation\": true, \"rationale\": \"up\"\x7d",
      "model", none⟩)

def smallPrompts : PipelinePrompts :=
  ⟨"", fun _ _ => "", fun _ => "", fun _ _ => "", fun _ _ _ _ => "", fun _ _ _ _ _ => "", fun _ _ _ => "",
   fun _ => []⟩

def smallInputs : PipelineInputs := ⟨[], "", ⟨.neutral, 0, "", none, none, "FLAT", none, none, none, none⟩⟩

/-- The run returns a BUY, after the failures of three stages and the repair of one. -/
theorem repairedBuy_failSafe :
    ∃ r, AgentDecisionPipeline.run smallPrompts smallContext smallInterpreter repairedBuyProvider
        smallInputs = .ok r ∧ r.decision.action = .buy ∧
      ∃ s : PipelineStages,
        runStages smallPrompts smallContext smallInterpreter repairedBuyProvider smallInputs = .ok s ∧
        r.logPayloads = s.records.map (toLogPayload smallPrompts) ∧
        LogsTruthful smallPrompts smallContext smallInterpreter repairedBuyProvider smallInputs s ∧
        (r.decision.action = .buy →
          BuyJustified smallPrompts smallContext smallInterpreter repairedBuyProvider s) := by
  have hbuy : (AgentDecisionPipeline.run smallPrompts smallContext smallInterpreter repairedBuyProvider
      smallInputs).toOption.map (·.decision.action) = some .buy := by decide +kernel
  obtain ⟨r, h, hbuy⟩ := ok_of_toOption_map hbuy
  exact ⟨r, h, hbuy, pipeline_failSafe _ _ _ _ _ r h⟩

/-- The same provider, whose risk manager answers word for word what the fallback says. -/
def echoingProvider : PipelineProvider :=
  { repairedBuyProvider with
    completeRiskAssessment := fun _ _ _ _ _ =>
      .ok ⟨"\x7b\"riskLevel\": \"HIGH\", \"confidence\": 0, \"summary\": \"Risk assessment fallback used. x\"\x7d",
        "model", none⟩ }

/-- **An answer can be the fallback**: it parses, so its log is no `FAILED`, and its output is the fallback's. -/
theorem echoed_fallback_succeeds :
    ¬ ∀ (prompts : PipelinePrompts) (context : AgentContext) (I : Interpreter) (provider : PipelineProvider)
        (inputs : PipelineInputs) (s : PipelineStages), runStages prompts context I provider inputs = .ok s →
      (s.risk.parsingStatus = .failed ↔ ∃ reason, s.risk.parsedOutput = fallbackRiskAssessment reason) := by
  intro h
  have hrisk : (runStages smallPrompts smallContext smallInterpreter echoingProvider smallInputs).toOption.map
      (fun s => (s.risk.parsingStatus, s.risk.parsedOutput)) = some (.success, fallbackRiskAssessment "x") := by
    decide +kernel
  obtain ⟨s, hrun, hrisk⟩ := ok_of_toOption_map hrisk
  obtain ⟨hstatus, houtput⟩ := Prod.mk.inj hrisk
  have hfailed := (h _ _ _ _ _ s hrun).mpr ⟨"x", houtput⟩
  rw [hstatus] at hfailed
  cases hfailed

end AgentDecisionPipeline

end TradingAI
