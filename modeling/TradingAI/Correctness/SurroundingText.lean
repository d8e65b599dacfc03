import TradingAI.Correctness.AgentFallback
import TradingAI.Lib.JsonLocality

/-!
# `Correctness.SurroundingText` — an object between other words

The pipeline parser decodes the whole text first. Only if that fails it searches for the first object, which is
then the same whatever surrounds it: the decoder does not look past the end of an object. If the text with its
surroundings is a JSON value itself, such as a list around the object, it is rejected as not being an object.

## Contents
- `ParseMethod`: the parsers, by name.
- `strip_surrounded`, `firstObject_append`.
- `surrounding_text`.
-/

namespace TradingAI

open DecimalText Json Outcome

namespace PipelineOutputParser

/-! ## The methods -/

/-- The `parse_…` methods. -/
inductive ParseMethod
  | marketAnalysis
  | tradingDecision
  | riskManager
  | fundamentalAnalysis
  | sentimentAnalysis
  | riskAssessment
  | technicalAnalysis
  | portfolioDecision

/-- What a method returns. -/
def ParseMethod.Output : ParseMethod → Type
  | .marketAnalysis      => MarketAnalysisOutput
  | .tradingDecision     => ParsedAgentOutput
  | .riskManager         => RiskManagerOutput
  | .fundamentalAnalysis => FundamentalAnalysisOutput
  | .sentimentAnalysis   => SentimentAnalysisOutput
  | .riskAssessment      => RiskAssessmentOutput
  | .technicalAnalysis   => TechnicalAnalysisOutput
  | .portfolioDecision   => ParsedAgentOutput

def ParseMethod.parse (I : Interpreter) : (m : ParseMethod) → String → Parsed m.Output
  | .marketAnalysis      => parseMarketAnalysis I
  | .tradingDecision     => parseTradingDecision I
  | .riskManager         => parseRiskManager I
  | .fundamentalAnalysis => parseFundamentalAnalysis I
  | .sentimentAnalysis   => parseSentimentAnalysis I
  | .riskAssessment      => parseRiskAssessment I
  | .technicalAnalysis   => parseTechnicalAnalysis I
  | .portfolioDecision   => parsePortfolioDecision I

/-- A method reads the text only through the object in it. -/
theorem ParseMethod.parse_eq (I : Interpreter) (m : ParseMethod) :
    ∃ fields : JsonObject → Parsed m.Output, ∀ text, m.parse I text = loadObject I text >>= fields := by
  cases m <;> exact ⟨_, fun _ => rfl⟩

/-! ## The text without white space around it -/

theorem not_isSpace_brace : isSpace '\x7b' = false := by decide

theorem isSpace_of_isJsonSpace {c : Char} (h : isJsonSpace c) : isSpace c := by
  unfold isJsonSpace at h
  simp only [decide_eq_true_eq] at h
  rcases h with rfl | rfl | rfl | rfl <;> decide

/-- The first character that is left is not white space. -/
theorem head_of_dropWhile {cs tail : List Char} {c : Char} (h : cs.dropWhile isSpace = c :: tail) :
    isSpace c = false := by
  have hne : cs.dropWhile isSpace ≠ [] := by simp [h]
  have hhead := List.head_dropWhile_not isSpace hne
  simpa [h] using hhead

theorem strip_eq_nil_iff (cs : List Char) : strip cs = [] ↔ cs.dropWhile isSpace = [] := by
  constructor
  · intro h
    cases hcs : cs.dropWhile isSpace with
    | nil => rfl
    | cons c tail =>
        have hall := List.rdropWhile_eq_nil_iff.mp ((strip_eq cs).symm.trans h) c (by simp [hcs])
        rw [head_of_dropWhile hcs] at hall
        cases hall
  · intro h
    rw [strip_eq, h]
    rfl

/-- **Stripping keeps the object**: what is before it stays but for leading white space, what is after it but for
    trailing white space. -/
theorem strip_surrounded {o tail : List Char} (p s : List Char) (ho : strip o = '\x7b' :: tail) :
    ∃ front back, strip (p ++ o ++ s) = front ++ strip o ++ back ∧ (∀ c ∈ front, c ∈ p ∨ isSpace c) ∧
      (front = [] ↔ strip p = []) ∧ ∀ c after, front = c :: after → isSpace c = false := by
  obtain ⟨before, after, hsplit, hbefore⟩ := strip_split o
  have hlast : (strip o).rdropWhile isSpace = strip o := List.rdropWhile_idempotent isSpace _
  have hne : strip o ≠ [] := by simp [ho]
  have hleft : ∃ front, (p ++ o ++ s).dropWhile isSpace = front ++ strip o ++ (after ++ s) ∧
      (∀ c ∈ front, c ∈ p ∨ isSpace c) ∧ (front = [] ↔ strip p = []) ∧
      ∀ c rest, front = c :: rest → isSpace c = false := by
    by_cases hblank : p.dropWhile isSpace = []
    · refine ⟨[], ?_, by simp, by simp [strip_eq_nil_iff, hblank], by simp⟩
      conv_lhs => rw [hsplit]
      rw [List.append_assoc, List.dropWhile_append, hblank]
      simp only [List.isEmpty_nil, if_true, List.append_assoc, List.nil_append]
      rw [List.dropWhile_append_of_pos hbefore, ho, List.cons_append,
        List.dropWhile_cons_of_neg (by simp [not_isSpace_brace])]
    · refine ⟨p.dropWhile isSpace ++ before, ?_, ?_, ?_, ?_⟩
      · conv_lhs => rw [hsplit]
        rw [List.append_assoc, dropWhile_append_of_stop hblank]
        simp only [List.append_assoc]
      · intro c hc
        rcases List.mem_append.mp hc with hmem | hmem
        · exact .inl ((List.dropWhile_suffix isSpace).subset hmem)
        · exact .inr (hbefore c hmem)
      · rw [strip_eq_nil_iff]
        simp [hblank]
      · intro c rest hfront
        cases hcs : p.dropWhile isSpace with
        | nil => exact absurd hcs hblank
        | cons d tail =>
            rw [hcs, List.cons_append, List.cons.injEq] at hfront
            rw [← hfront.1]
            exact head_of_dropWhile hcs
  obtain ⟨front, hfront, hmem, hnil, hhead⟩ := hleft
  refine ⟨front, (after ++ s).rdropWhile isSpace, ?_, hmem, hnil, hhead⟩
  have hkept : (front ++ strip o).rdropWhile isSpace = front ++ strip o := by
    rw [List.rdropWhile_eq_self_iff]
    intro hnonempty
    rw [List.getLast_append_of_ne_nil _ hne]
    exact (List.rdropWhile_eq_self_iff.mp hlast) hne
  rw [strip_eq, hfront, rdropWhile_append hkept]

/-! ## Finding the object -/

variable {D : Json.Decoder}

/-- Text without a brace is passed over. -/
theorem firstObject_append {front : List Char} (h : '\x7b' ∉ front) (cs : List Char) :
    firstObject D (front ++ cs) = firstObject D cs := by
  induction front with
  | nil => rfl
  | cons c front ih =>
      rw [List.mem_cons, not_or] at h
      rw [List.cons_append, firstObject, if_pos (Ne.symm h.1)]
      exact ih h.2

theorem firstObject_of_dict {payload : JsonObject} {tail rest : List Char}
    (h : rawDecode D ('\x7b' :: tail) = .ok (.dict payload, rest)) :
    firstObject D ('\x7b' :: tail) = .ok (.dict payload) := by
  rw [firstObject, if_neg (by simp), h]

/-- White space in JSON is white space. -/
theorem skipSpace_of_head {c : Char} {tail : List Char} (h : isSpace c = false) : skipSpace (c :: tail) = c :: tail := by
  unfold skipSpace
  rw [List.dropWhile_cons_of_neg]
  intro hspace
  rw [isSpace_of_isJsonSpace hspace] at h
  cases h

/-- What is decoded as a whole is decoded at its front, and only white space follows. -/
theorem rawDecode_of_loads {cs : List Char} {v : Json.Value} (h : loads D cs = .ok v) :
    ∃ rest, rawDecode D (skipSpace cs) = .ok (v, rest) ∧ skipSpace rest = [] := by
  unfold loads at h
  split at h
  · cases h
  · obtain ⟨⟨value, rest⟩, hdecode, hend⟩ := ok_of_bind h
    dsimp only at hend
    split_ifs at hend with hrest
    cases hend
    exact ⟨rest, hdecode, hrest⟩

/-- The first character of a stripped text is not white space. -/
theorem head_of_strip {cs tail : List Char} {c : Char} (h : strip cs = c :: tail) : isSpace c = false := by
  obtain ⟨after, hafter⟩ := List.rdropWhile_prefix isSpace (l := cs.dropWhile isSpace)
  rw [← strip_eq, h, List.cons_append] at hafter
  exact head_of_dropWhile hafter.symm

/-- A text that is an object begins with its brace. -/
theorem brace_of_loads {cs : List Char} {payload : JsonObject} (h : loads D (strip cs) = .ok (.dict payload)) :
    ∃ tail rest, strip cs = '\x7b' :: tail ∧ rawDecode D ('\x7b' :: tail) = .ok (.dict payload, rest) := by
  obtain ⟨rest, hdecode, -⟩ := rawDecode_of_loads h
  obtain ⟨tail, htail⟩ := head_of_rawDecode_dict hdecode
  cases hcs : strip cs with
  | nil =>
      rw [hcs] at htail
      cases htail
  | cons c more =>
      rw [hcs, skipSpace_of_head (head_of_strip hcs)] at hdecode htail
      rw [htail] at hdecode ⊢
      exact ⟨tail, rest, rfl, hdecode⟩

/-- Where the front of a text is an object, the text is that object or it has more than one value. -/
theorem loads_of_rawDecode {tail rest : List Char} {v : Json.Value} (h : rawDecode D ('\x7b' :: tail) = .ok (v, rest)) :
    loads D ('\x7b' :: tail) = .ok v ∨ loads D ('\x7b' :: tail) = .error .decodeError := by
  have hloads : loads D ('\x7b' :: tail) = if skipSpace rest = [] then .ok v else .error .decodeError := by
    rewrite [loads]
    · rewrite [skipSpace_of_head not_isSpace_brace, h]
      rfl
    · intro rest heq
      exact absurd (List.cons.inj heq).1 (by decide)
  rw [hloads]
  by_cases hrest : skipSpace rest = []
  · exact .inl (if_pos hrest)
  · exact .inr (if_neg hrest)

/-- **What is found in a text around an object**, whether the whole text is decoded first or not. -/
theorem loadFirstJsonObject_surrounded {p o s : String} {payload : JsonObject}
    (ho : loads D (strip o.toList) = .ok (.dict payload)) (hp : '\x7b' ∉ p.toList) :
    loadFirstJsonObject D o = .ok (.dict payload) ∧
    (strip p.toList = [] ∨ loads D (strip (p ++ o ++ s).toList) = .error .decodeError →
      loadFirstJsonObject D (p ++ o ++ s) = .ok (.dict payload)) ∧
    (strip p.toList ≠ [] → ∀ v, loads D (strip (p ++ o ++ s).toList) = .ok v → ∀ entries, v ≠ .dict entries) := by
  obtain ⟨tail, rest, htail, hdecode⟩ := brace_of_loads ho
  obtain ⟨front, back, hstrip, hmem, hnil, hhead⟩ := strip_surrounded p.toList s.toList htail
  rw [← String.toList_append, ← String.toList_append] at hstrip
  have hfront : '\x7b' ∉ front := by
    intro hbrace
    rcases hmem _ hbrace with h | h
    · exact hp h
    · rw [not_isSpace_brace] at h
      cases h
  have hlonger := rawDecode_dict_append (s := back) hdecode
  have hfound : firstObject D (strip (p ++ o ++ s).toList) = .ok (.dict payload) := by
    rw [hstrip, List.append_assoc, firstObject_append hfront, htail]
    exact firstObject_of_dict hlonger
  refine ⟨?_, ?_, ?_⟩
  · unfold loadFirstJsonObject
    dsimp only
    rw [ho]
  · intro hcase
    have hwhole : loads D (strip (p ++ o ++ s).toList) = .ok (.dict payload) ∨
        loads D (strip (p ++ o ++ s).toList) = .error .decodeError := by
      rcases hcase with hblank | hfail
      · rw [hnil.mpr hblank, List.nil_append, htail, List.cons_append] at hstrip
        rw [hstrip]
        exact loads_of_rawDecode hlonger
      · exact .inr hfail
    unfold loadFirstJsonObject
    dsimp only
    rcases hwhole with h | h
    · rw [h]
    · rw [h]
      exact hfound
  · intro hnonblank v hv entries hdict
    subst hdict
    obtain ⟨more, -, hbrace, -⟩ := brace_of_loads hv
    -- the brace would be the first character that is left of `p`
    cases hcase : front with
    | nil => exact hnonblank (hnil.mp hcase)
    | cons c tail' =>
        rw [hstrip, hcase, List.cons_append, List.cons_append, List.cons.injEq] at hbrace
        rw [hcase, hbrace.1] at hfront
        exact hfront List.mem_cons_self

/-- **Surrounding text does not change what is read, unless the whole text is a value of its own.** Let `o` be a
    text that decodes to an object, `p` one without an opening brace. If `p` is blank or the whole text does not
    decode, every method has the outcome it has on `o` alone. If `p` is not blank and the whole text decodes,
    every method says that it is not an object; if the decoder stops at one of its limits, that is raised. -/
theorem surrounding_text (I : Interpreter) (m : ParseMethod) {p o s : String} {payload : JsonObject}
    (ho : loads I.decoder (strip o.toList) = .ok (.dict payload)) (hp : '\x7b' ∉ p.toList) :
    (strip p.toList = [] ∨ loads I.decoder (strip (p ++ o ++ s).toList) = .error .decodeError →
      m.parse I (p ++ o ++ s) = m.parse I o) ∧
    (strip p.toList ≠ [] → ∀ v, loads I.decoder (strip (p ++ o ++ s).toList) = .ok v →
      m.parse I (p ++ o ++ s) = parseError "Pipeline output must be a JSON object.") ∧
    ∀ e, e ≠ .decodeError → loads I.decoder (strip (p ++ o ++ s).toList) = .error e →
      m.parse I (p ++ o ++ s) = decoded "" (.error e) := by
  obtain ⟨fields, hfields⟩ := m.parse_eq I
  obtain ⟨halone, hsame, hother⟩ := loadFirstJsonObject_surrounded ho hp (s := s)
  refine ⟨?_, ?_, ?_⟩
  · intro hcase
    rw [hfields, hfields, loadObject, loadObject, hsame hcase, halone]
  · intro hnonblank v hv
    have hfirst : loadFirstJsonObject I.decoder (p ++ o ++ s) = .ok v := by
      unfold loadFirstJsonObject
      dsimp only
      rw [hv]
    have hnot := hother hnonblank v hv
    rw [hfields, loadObject, hfirst]
    cases v with
    | dict entries => exact absurd rfl (hnot entries)
    | _ => rfl
  · intro e he hfail
    have hfirst : loadFirstJsonObject I.decoder (p ++ o ++ s) = .error e := by
      unfold loadFirstJsonObject
      dsimp only
      rw [hfail]
      cases e with
      | decodeError => exact absurd rfl he
      | _ => rfl
    rw [hfields, loadObject, hfirst]
    cases e with
    | decodeError => exact absurd rfl he
    | _ => rfl

/-! ## A sentence and a list around an answer -/

/-- `{"riskLevel": "LOW", "confidence": 0.6, "summary": "Risk is controlled."}`. -/
def riskAnswer : String :=
  "\x7b\"riskLevel\": \"LOW\", \"confidence\": 0.6, \"summary\": \"Risk is controlled.\"\x7d"

/-- What decoding a text comes to. -/
inductive Decoding
  | object
  | otherValue
  | failure (e : Json.Failure)
  deriving DecidableEq

def decodingOf : Except Json.Failure Json.Value → Decoding
  | .ok (.dict _) => .object
  | .ok _         => .otherValue
  | .error e      => .failure e

theorem exists_of_decodingOf_object {y : Except Json.Failure Json.Value} (h : decodingOf y = .object) :
    ∃ payload, y = .ok (.dict payload) := by
  cases y with
  | error e => cases h
  | ok v =>
      cases v with
      | dict payload => exact ⟨payload, rfl⟩
      | _ => cases h

theorem eq_of_decodingOf_failure {y : Except Json.Failure Json.Value} {e : Json.Failure}
    (h : decodingOf y = .failure e) : y = .error e := by
  cases y with
  | error e' =>
      cases h
      rfl
  | ok v => cases v <;> cases h

/-- An answer in the middle of a sentence. -/
theorem answer_in_words :
    ParseMethod.riskAssessment.parse smallInterpreter ("Here is the assessment:\n" ++ riskAnswer ++ "\nDone.") =
      ParseMethod.riskAssessment.parse smallInterpreter riskAnswer := by
  obtain ⟨payload, hobject⟩ : ∃ payload, loads smallInterpreter.decoder (strip riskAnswer.toList) = .ok (.dict payload) :=
    exists_of_decodingOf_object (by decide +kernel)
  refine (surrounding_text smallInterpreter .riskAssessment hobject (by decide)).1 (.inr ?_)
  exact eq_of_decodingOf_failure (by decide +kernel)

/-- The same answer in brackets: it is read alone, and not as the only item of a list. -/
theorem answer_in_a_list :
    '\x7b' ∉ "[".toList ∧ (ParseMethod.riskAssessment.parse smallInterpreter riskAnswer).isOk = true ∧
      (ParseMethod.riskAssessment.parse smallInterpreter ("[" ++ riskAnswer ++ "]")).isOk = false := by
  decide +kernel

end PipelineOutputParser

end TradingAI
