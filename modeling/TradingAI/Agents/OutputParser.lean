import TradingAI.Agents.Types
import TradingAI.Lib.Json

/-!
# `Agents.OutputParser` — the answer of a single agent, read from its text

`AgentOutputParser.parse` decodes a text as JSON and checks its fields one after another. A field that does
not fit raises an `AgentOutputParseError`, which the agent repairs. Four things raise something else, which
nobody repairs: an integer literal too long to convert, nesting beyond the recursion limit of the decoder,
nesting beyond that of `str`, and the comparison of a NaN.

## Contents
- `Interpreter`, `ParserException`, `Parsed`.
- The field checks, shared by both parsers, with their texts as arguments.
- `AgentOutputParser.parse`.
- `Proper`: nothing but an `AgentOutputParseError` is raised; one lemma for each check, and `parse_proper_iff`.
-/

namespace TradingAI

open DecimalText Json Outcome

/-- What parsing depends on besides the text: the decoder, how deep a value `str` can show, and what it
    shows. -/
structure Interpreter where
  decoder   : Json.Decoder
  reprLimit : ℕ
  str       : Json.Value → String

/-- What a parser raises. -/
inductive ParserException
  | agentOutputParseError (message : String)
  | invalidOperation
  | valueError
  | recursionError
  deriving DecidableEq

abbrev Parsed (α : Type) := Except ParserException α

def parseError {α : Type} (message : String) : Parsed α := .error (.agentOutputParseError message)

/-- A failure of the decoder: a `JSONDecodeError` is caught and gets a message, the others are not. -/
def decoded {α : Type} (message : String) : Except Json.Failure α → Parsed α
  | .ok a               => .ok a
  | .error .decodeError => parseError message
  | .error .intTooLong  => .error .valueError
  | .error .recursion   => .error .recursionError

/-- The object a decoded text must be. -/
def objectOf (invalid notObject : String) (y : Except Json.Failure Json.Value) : Parsed JsonObject := do
  match ← decoded invalid y with
  | .dict payload => .ok payload
  | _             => parseError notObject

/-! ## Texts -/

/-- `", ".join(words)`. -/
def commaJoin (words : List String) : String := String.intercalate ", " words

/-- The text of a value that is not blank, stripped. -/
def nonBlank : Json.Value → Option String
  | .str cs => if strip cs = [] then none else some (String.ofList (strip cs))
  | _       => none

/-! ## Field checks -/

/-- The member of an enumeration a value names. -/
def memberOf {α : Type} (members : List α) (value : α → String) : Json.Value → Option α
  | .str cs => members.find? fun m => (value m).toList = upper cs
  | _       => none

/-- A field that names a member of an enumeration. -/
def parseMember {α : Type} (members : List α) (value : α → String) (required unknown : String)
    (v : Json.Value) : Parsed α :=
  match v with
  | .str _ =>
      match memberOf members value v with
      | some m => .ok m
      | none   => parseError unknown
  | _ => parseError required

/-- `Decimal(str(value))`; `none` is an `InvalidOperation`. What `str` shows of a `bool`, of `None`, of a list
    and of a `dict` is no number. -/
def decimalOf (I : Interpreter) (v : Json.Value) : Parsed (Option Number) :=
  match v with
  | .str cs           => .ok (DecimalText.read cs)
  | .int n            => .ok (some (.finite n))
  | .float x          => .ok (some x)
  | .null | .bool _   => .ok none
  | .list _ | .dict _ => if I.reprLimit < v.depth then .error .recursionError else .ok none

/-- A number between 0 and 1, with four places. -/
def parseUnit (I : Interpreter) (required range : String) (v : Json.Value) : Parsed ℚ := do
  match ← decimalOf I v with
  | none => parseError required
  -- `target_exposure_pct < 0`: nothing can be compared with a NaN
  | some (.nan _) => .error .invalidOperation
  | some (.infinity _) => parseError range
  | some (.finite q) => if q < 0 ∨ 1 < q then parseError range else .ok (quantize4 q)

def parseBool (required : String) : Json.Value → Parsed Bool
  | .bool b => .ok b
  | _       => parseError required

def parseText (required : String) (v : Json.Value) : Parsed String :=
  match nonBlank v with
  | some text => .ok text
  | none      => parseError required

def parseOptionalText (wrong : String) (v : Json.Value) : Parsed (Option String) :=
  match v with
  | .null => .ok none
  | v     => (parseText wrong v).map some

/-! ## The enumerations -/

def TradeAction.all : List TradeAction := [.buy, .sell, .hold]

def TradeIntent.all : List TradeIntent :=
  [.openLong, .addToLong, .holdPosition, .reduceLong, .closeLong, .stayOut]

def PrimaryDriver.all : List PrimaryDriver :=
  [.technical, .fundamental, .sentiment, .risk, .portfolio, .eventRisk]

/-! ## The parser -/

namespace AgentOutputParser

/-- `_parse_action`. -/
def parseAction : Json.Value → Parsed TradeAction :=
  parseMember TradeAction.all TradeAction.value "Agent action is required."
    "Agent action must be BUY, SELL, or HOLD."

/-- `_parse_trade_intent`. -/
def parseTradeIntent : Json.Value → Parsed TradeIntent :=
  parseMember TradeIntent.all TradeIntent.value "Agent tradeIntent is required."
    ("Agent tradeIntent must be one of " ++ commaJoin (TradeIntent.all.map TradeIntent.value) ++ ".")

/-- `_parse_primary_driver`. -/
def parsePrimaryDriver : Json.Value → Parsed PrimaryDriver :=
  parseMember PrimaryDriver.all PrimaryDriver.value "Agent primaryDriver is required."
    ("Agent primaryDriver must be one of " ++ commaJoin (PrimaryDriver.all.map PrimaryDriver.value) ++ ".")

/-- `_parse_target_exposure_pct`. -/
def parseTargetExposurePct (I : Interpreter) : Json.Value → Parsed ℚ :=
  parseUnit I "Agent targetExposurePct is required." "Agent targetExposurePct must be between 0 and 1."

/-- `_parse_confidence`. -/
def parseConfidence (I : Interpreter) : Json.Value → Parsed ℚ :=
  parseUnit I "Agent confidence is required." "Agent confidence must be between 0 and 1."

/-- `_parse_new_information`. -/
def parseNewInformation : Json.Value → Parsed Bool := parseBool "Agent newInformation is required."

/-- `_parse_rationale`. -/
def parseRationale : Json.Value → Parsed String := parseText "Agent rationale is required."

/-- The `payload` of `parse`. -/
def payload (I : Interpreter) (rawOutputText : String) : Parsed JsonObject :=
  objectOf "Agent output must be valid JSON." "Agent output must be a JSON object."
    (loads I.decoder rawOutputText.toList)

/-- The fields of `parse`, in its order. -/
def fields (I : Interpreter) (payload : JsonObject) : Parsed ParsedAgentOutput := do
  let action ← parseAction (get payload "action")
  let tradeIntent ← parseTradeIntent (get payload "tradeIntent")
  let targetExposurePct ← parseTargetExposurePct I (get payload "targetExposurePct")
  let confidence ← parseConfidence I (get payload "confidence")
  let primaryDriver ← parsePrimaryDriver (get payload "primaryDriver")
  let newInformation ← parseNewInformation (get payload "newInformation")
  let rationale ← parseRationale (get payload "rationale")
  let eventId ← parseOptionalText "Agent eventId must be a string." (get payload "eventId")
  pure { action, tradeIntent, targetExposurePct, confidence, primaryDriver, newInformation, rationale,
         eventId }

/-- `AgentOutputParser.parse`. -/
def parse (I : Interpreter) (rawOutputText : String) : Parsed ParsedAgentOutput := do
  let payload ← payload I rawOutputText
  fields I payload

end AgentOutputParser

/-! ## Nothing else is raised -/

/-- **Proper**: what is raised, if anything, is an `AgentOutputParseError`. -/
def Proper {α : Type} (x : Parsed α) : Prop := ∀ e, x = .error e → ∃ m, e = .agentOutputParseError m

/-- What makes a value unfit for `Decimal(str(value))` and the comparisons after it: a NaN, or nesting that
    `str` cannot show. -/
def Unreadable (I : Interpreter) (v : Json.Value) : Prop :=
  match decimalOf I v with
  | .ok (some (.nan _)) | .error _ => True
  | _ => False

instance (I : Interpreter) (v : Json.Value) : Decidable (Unreadable I v) := by
  unfold Unreadable; split <;> infer_instance

/-- A value `str` cannot show. -/
def TooDeep (I : Interpreter) (v : Json.Value) : Prop := I.reprLimit < v.depth

/-- A value `parseUnit` accepts. -/
def InUnit (I : Interpreter) (v : Json.Value) : Prop :=
  ∃ q, decimalOf I v = .ok (some (.finite q)) ∧ 0 ≤ q ∧ q ≤ 1

section

variable {α β : Type} {x : Parsed α} {f : α → Parsed β} {I : Interpreter} {v : Json.Value}

@[simp] theorem proper_ok (a : α) : Proper (.ok a : Parsed α) := by
  intro e h; cases h

@[simp] theorem proper_pure (a : α) : Proper (pure a : Parsed α) := proper_ok a

@[simp] theorem proper_parseError (m : String) : Proper (parseError m : Parsed α) := by
  intro e h; cases h; exact ⟨m, rfl⟩

/-- Two checks in a row: the second matters only if the first lets the value pass. -/
theorem proper_bind : Proper (x >>= f) ↔ Proper x ∧ ∀ a, x = .ok a → Proper (f a) := by
  cases x with
  | error e =>
      constructor
      · intro h; exact ⟨fun e' he => h e' (by cases he; rfl), fun a ha => by cases ha⟩
      · intro h e' he; exact h.1 e' (by cases he; rfl)
  | ok a =>
      constructor
      · intro h; exact ⟨proper_ok a, fun a' ha => by cases ha; exact h⟩
      · intro h; exact h.2 a rfl

/-- Two checks in a row, where it does not depend on the result of the first whether the second is proper. -/
theorem proper_seq {P : Prop} (hf : ∀ a, Proper (f a) ↔ P) :
    Proper (x >>= f) ↔ Proper x ∧ ((∃ a, x = .ok a) → P) := by
  rw [proper_bind]
  apply and_congr_right
  intro _
  constructor
  · rintro h ⟨a, ha⟩; exact (hf a).mp (h a ha)
  · intro h a ha; exact (hf a).mpr (h ⟨a, ha⟩)

/-- A check that is always proper leaves it to what follows. -/
theorem proper_seq_of {P : Prop} (hx : Proper x) (hf : ∀ a, Proper (f a) ↔ P) :
    Proper (x >>= f) ↔ ((∃ a, x = .ok a) → P) := by
  rw [proper_seq hf, and_iff_right hx]

/-- Checks that are always proper. -/
theorem proper_seq_ok (hx : Proper x) (hf : ∀ a, Proper (f a)) : Proper (x >>= f) :=
  proper_bind.mpr ⟨hx, fun a _ => hf a⟩

@[simp] theorem proper_map {g : α → β} : Proper (x.map g) ↔ Proper x := by
  cases x with
  | ok a    => exact iff_of_true (proper_ok _) (proper_ok _)
  | error e =>
      constructor <;> · intro h e' he; cases he; exact h e rfl

theorem proper_parseMember (members : List α) (value : α → String) (required unknown : String) :
    Proper (parseMember members value required unknown v) := by
  unfold parseMember
  split
  · split
    · exact proper_ok _
    · exact proper_parseError _
  · exact proper_parseError _

theorem proper_parseBool (required : String) : Proper (parseBool required v) := by
  unfold parseBool
  split
  · exact proper_ok _
  · exact proper_parseError _

theorem proper_parseText (required : String) : Proper (parseText required v) := by
  unfold parseText
  split
  · exact proper_ok _
  · exact proper_parseError _

theorem proper_parseOptionalText (wrong : String) : Proper (parseOptionalText wrong v) := by
  unfold parseOptionalText
  split
  · exact proper_ok _
  · rw [proper_map]; exact proper_parseText wrong

/-- **The number check** is proper for exactly the values that can be compared. -/
theorem proper_parseUnit_iff (required range : String) :
    Proper (parseUnit I required range v) ↔ ¬ Unreadable I v := by
  have hescape : ¬ Proper (.error .invalidOperation : Parsed ℚ) := by
    intro h; obtain ⟨m, hm⟩ := h _ rfl; cases hm
  unfold parseUnit Unreadable
  cases hv : decimalOf I v with
  | error e =>
      -- `decimalOf` raises nothing but a `RecursionError`
      have he : e = .recursionError := by
        unfold decimalOf at hv
        split at hv
        · cases hv
        · cases hv
        · cases hv
        · cases hv
        · cases hv
        · split_ifs at hv; cases hv; rfl
        · split_ifs at hv; cases hv; rfl
      refine iff_of_false ?_ (by simp)
      intro h; obtain ⟨m, hm⟩ := h e rfl; rw [he] at hm; cases hm
  | ok d =>
      cases d with
      | none => exact iff_of_true (proper_parseError _) (by simp)
      | some n =>
          cases n with
          | nan _      => exact iff_of_false hescape (by simp)
          | infinity _ => exact iff_of_true (proper_parseError _) (by simp)
          | finite q   =>
              refine iff_of_true ?_ (by simp)
              simp only [bind, Except.bind]
              split_ifs
              · exact proper_parseError _
              · exact proper_ok _

/-- The number is between 0 and 1. -/
theorem parseUnit_bounds {required range : String} {q : ℚ} (h : parseUnit I required range v = .ok q) :
    0 ≤ q ∧ q ≤ 1 ∧ Rounding.OnGrid 4 q := by
  unfold parseUnit at h
  cases hv : decimalOf I v with
  | error e => rw [hv] at h; cases h
  | ok d =>
      rw [hv] at h
      rcases d with _ | (x | _ | _)
      · cases h
      · simp only [bind, Except.bind] at h
        by_cases hrange : x < 0 ∨ 1 < x
        · rw [if_pos hrange] at h; cases h
        rw [if_neg hrange] at h
        rw [← Except.ok.inj h]
        rw [not_or, not_lt, not_lt] at hrange
        exact ⟨quantize4_nonneg hrange.1,
          Rounding.halfEven.quantize_le_of_onGrid ⟨10 ^ 4, by norm_num⟩ hrange.2, quantize4_onGrid x⟩
      · cases h
      · cases h

/-- The values the number check accepts. -/
theorem parseUnit_ok_iff {required range : String} :
    (∃ q, parseUnit I required range v = .ok q) ↔ InUnit I v := by
  unfold parseUnit InUnit
  cases hv : decimalOf I v with
  | error e =>
      constructor
      · rintro ⟨q, h⟩; cases h
      · rintro ⟨q, h, -⟩; cases h
  | ok d =>
      rcases d with _ | (x | _ | _)
      · constructor
        · rintro ⟨q, h⟩; cases h
        · rintro ⟨q, h, -⟩; cases h
      · simp only [bind, Except.bind]
        constructor
        · rintro ⟨q, h⟩
          by_cases hrange : x < 0 ∨ 1 < x
          · rw [if_pos hrange] at h; cases h
          rw [not_or, not_lt, not_lt] at hrange
          exact ⟨x, rfl, hrange⟩
        · rintro ⟨q, h, h0, h1⟩
          cases h
          rw [if_neg (not_or.mpr ⟨not_lt.mpr h0, not_lt.mpr h1⟩)]
          exact ⟨_, rfl⟩
      · constructor
        · rintro ⟨q, h⟩; cases h
        · rintro ⟨q, h, -⟩; cases h
      · constructor
        · rintro ⟨q, h⟩; cases h
        · rintro ⟨q, h, -⟩; cases h

/-- The values the check of an enumeration accepts. -/
theorem parseMember_ok_iff {members : List α} {value : α → String} {required unknown : String} :
    (∃ m, parseMember members value required unknown v = .ok m) ↔
      (memberOf members value v).isSome := by
  unfold parseMember
  cases v with
  | str cs =>
      dsimp only
      cases memberOf members value (.str cs) with
      | some m => simp
      | none   => simp [parseError]
  | _ => simp [memberOf, parseError]

/-- Decoding is proper unless the decoder stops for another reason than the syntax. -/
theorem proper_decoded_iff {m : String} {y : Except Json.Failure α} :
    Proper (decoded m y) ↔ ∀ e, y = .error e → e = .decodeError := by
  cases y with
  | ok a => exact iff_of_true (proper_ok a) (by intro e h; cases h)
  | error e =>
      cases e with
      | decodeError => exact iff_of_true (proper_parseError m) (by intro e h; cases h; rfl)
      | intTooLong =>
          refine iff_of_false ?_ ?_
          · intro h; obtain ⟨_, hm⟩ := h _ rfl; cases hm
          · intro h; cases h _ rfl
      | recursion =>
          refine iff_of_false ?_ ?_
          · intro h; obtain ⟨_, hm⟩ := h _ rfl; cases hm
          · intro h; cases h _ rfl

/-- **A parser of objects** is proper if the decoder stops for no other reason than the syntax, and what it
    does with an object is proper. -/
theorem proper_object_iff {invalid notObject : String} {y : Except Json.Failure Json.Value}
    {g : JsonObject → Parsed β} :
    Proper (objectOf invalid notObject y >>= g) ↔
      (∀ e, y = .error e → e = .decodeError) ∧ ∀ payload, y = .ok (.dict payload) → Proper (g payload) := by
  unfold objectOf
  cases y with
  | error e =>
      rw [proper_bind, proper_bind, proper_decoded_iff]
      constructor
      · intro h
        refine ⟨h.1.1, ?_⟩
        intro p hp; cases hp
      · intro h
        refine ⟨⟨h.1, ?_⟩, ?_⟩ <;> intro a ha <;> rw [h.1 e rfl] at ha <;> cases ha
  | ok value =>
      have hsyntax : ∀ e, (.ok value : Except Json.Failure Json.Value) = .error e → e = .decodeError := by
        intro e he; cases he
      rw [and_iff_right hsyntax]
      cases value with
      | dict p =>
          refine Iff.trans (b := Proper (g p)) Iff.rfl ?_
          constructor
          · intro h q hq; cases hq; exact h
          · intro h; exact h p rfl
      | _ =>
          refine iff_of_true (proper_parseError _) ?_
          intro q hq; cases hq

end

namespace AgentOutputParser

/-- **When the number fields of an answer are readable**: they are looked at only if the fields before them
    pass. -/
def NumbersReadable (I : Interpreter) (payload : JsonObject) : Prop :=
  (memberOf TradeAction.all TradeAction.value (get payload "action")).isSome →
  (memberOf TradeIntent.all TradeIntent.value (get payload "tradeIntent")).isSome →
    ¬ Unreadable I (get payload "targetExposurePct") ∧
      (InUnit I (get payload "targetExposurePct") → ¬ Unreadable I (get payload "confidence"))

/-- **When a text is readable**: if it is not JSON, the decoder notices by its syntax; if it is an object, its
    numbers are readable. -/
def Readable (I : Interpreter) (text : String) : Prop :=
  (∀ e, loads I.decoder text.toList = .error e → e = .decodeError) ∧
    ∀ payload, loads I.decoder text.toList = .ok (.dict payload) → NumbersReadable I payload

variable {I : Interpreter} {text : String} {payload : JsonObject}

theorem proper_fields_iff : Proper (fields I payload) ↔ NumbersReadable I payload := by
  unfold fields NumbersReadable
  rw [← parseMember_ok_iff, ← parseMember_ok_iff]
  refine proper_seq_of (proper_parseMember _ _ _ _) fun action => ?_
  refine proper_seq_of (proper_parseMember _ _ _ _) fun tradeIntent => ?_
  rw [parseTargetExposurePct, ← proper_parseUnit_iff, ← parseUnit_ok_iff]
  refine proper_seq fun targetExposurePct => ?_
  rw [← proper_parseUnit_iff, proper_bind]
  -- after the confidence nothing can go wrong
  apply and_iff_left
  intro confidence _
  refine proper_seq_ok (proper_parseMember _ _ _ _) fun driver => ?_
  refine proper_seq_ok (proper_parseBool _) fun new => ?_
  refine proper_seq_ok (proper_parseText _) fun rationale => ?_
  exact proper_seq_ok (proper_parseOptionalText _) fun eventId => proper_pure _

/-- **Readable texts**: on exactly these `parse` raises nothing but an `AgentOutputParseError`. -/
theorem proper_parse_iff : Proper (parse I text) ↔ Readable I text := by
  unfold parse Readable AgentOutputParser.payload
  rw [proper_object_iff]
  simp only [proper_fields_iff]

/-- **What `parse` accepts** has a target exposure and a confidence between 0 and 1. -/
theorem parse_bounds {r : ParsedAgentOutput} (h : parse I text = .ok r) :
    (0 ≤ r.targetExposurePct ∧ r.targetExposurePct ≤ 1 ∧ Rounding.OnGrid 4 r.targetExposurePct) ∧
      (0 ≤ r.confidence ∧ r.confidence ≤ 1 ∧ Rounding.OnGrid 4 r.confidence) := by
  obtain ⟨payload, -, h⟩ := ok_of_bind h
  obtain ⟨action, -, h⟩ := ok_of_bind h
  obtain ⟨tradeIntent, -, h⟩ := ok_of_bind h
  obtain ⟨target, htarget, h⟩ := ok_of_bind h
  obtain ⟨confidence, hconfidence, h⟩ := ok_of_bind h
  obtain ⟨driver, -, h⟩ := ok_of_bind h
  obtain ⟨new, -, h⟩ := ok_of_bind h
  obtain ⟨rationale, -, h⟩ := ok_of_bind h
  obtain ⟨eventId, -, h⟩ := ok_of_bind h
  cases h
  exact ⟨parseUnit_bounds htarget, parseUnit_bounds hconfidence⟩

end AgentOutputParser

end TradingAI
