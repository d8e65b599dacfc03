import TradingAI.Domain.Enums
import TradingAI.Lib.DecimalText
import TradingAI.Lib.Rounding

/-!
# `Domain.Values` — decimals, instants, texts and raised exceptions

- A `Decimal` is an exact rational. `quantize4`, `quantize8` are `Decimal.quantize` in Python's default
  rounding; `Numeric k` is what a `NUMERIC(_, k)` column can hold.
- A `DateTime` counts microseconds from a fixed midnight.
- A `Raised` is an exception on its way up: its class, as far as a handler distinguishes it, its message
  and its details.
-/

namespace TradingAI

open DecimalText Rounding

/-! ## Decimals -/

/-- `Decimal.quantize(Decimal("0.0001"))`. -/
def quantize4 (x : ℚ) : ℚ := halfEven.quantize 4 x

/-- `Decimal.quantize(Decimal("0.00000001"))`. -/
def quantize8 (x : ℚ) : ℚ := halfEven.quantize 8 x

theorem quantize4_onGrid (x : ℚ) : OnGrid 4 (quantize4 x) := halfEven.quantize_onGrid 4 x

@[simp] theorem quantize4_of_onGrid {x : ℚ} (h : OnGrid 4 x) : quantize4 x = x :=
  halfEven.quantize_of_onGrid h

theorem abs_quantize4_sub_le (x : ℚ) : |quantize4 x - x| ≤ 1 / 20000 := by
  have h := halfEven.abs_quantize_sub_le 4 x
  norm_num at h
  exact h

theorem quantize4_nonneg {x : ℚ} (h : 0 ≤ x) : 0 ≤ quantize4 x := halfEven.quantize_nonneg h

/-- A value of a `NUMERIC` column with `scale` decimal places. -/
structure Numeric (scale : ℕ) where
  val    : ℚ
  onGrid : OnGrid scale val
  deriving DecidableEq

/-- What the database keeps of `x`: excess places are rounded, ties away from zero. -/
def numeric (scale : ℕ) (x : ℚ) : Numeric scale :=
  ⟨halfAway.quantize scale x, halfAway.quantize_onGrid scale x⟩

@[ext] theorem Numeric.ext {k : ℕ} {a b : Numeric k} (h : a.val = b.val) : a = b := by
  cases a; cases b; cases h; rfl

@[simp] theorem numeric_val_of_onGrid {k : ℕ} {x : ℚ} (h : OnGrid k x) : (numeric k x).val = x :=
  halfAway.quantize_of_onGrid h

/-- Storing what was loaded changes nothing. -/
@[simp] theorem numeric_val {k : ℕ} (a : Numeric k) : numeric k a.val = a :=
  Numeric.ext (numeric_val_of_onGrid a.onGrid)

/-! ## Instants -/

/-- Microseconds from a fixed midnight. -/
abbrev DateTime := ℕ

/-- Days from a fixed day. -/
abbrev Date := ℤ

/-- Microseconds from midnight. -/
abbrev TimeOfDay := ℕ

/-- `24 · 60 · 60 · 10⁶`. -/
def microsecondsPerDay : ℕ := 86400000000

/-- The microsecond after `datetime.max`, from `datetime.min`. -/
def datetimeEnd : ℤ := 3652059 * 86400000000

namespace DateTime

def date (t : DateTime) : Date := (t / microsecondsPerDay : ℕ)

def time (t : DateTime) : TimeOfDay := t % microsecondsPerDay

/-- `datetime.combine(date, time.min)`; the fixed day is before every date in use. -/
def midnight (d : Date) : DateTime := d.toNat * microsecondsPerDay

end DateTime

/-- `time(hour, minute)`. -/
def timeOfDay (hour minute : ℕ) : TimeOfDay := (hour * 60 + minute) * 60000000

/-! ## Texts -/

/-- `str.lower`. No character outside ASCII has a lower case among the letters of a status word, so the
    ASCII fold decides every comparison with one. -/
def lower (s : String) : String := String.ofList (s.toList.map Char.toLower)

/-- The upper case of a character. Of the characters outside ASCII, these alone have one in ASCII. -/
def upperChar (c : Char) : List Char :=
  match c with
  | 'ß' => ['S', 'S']
  | 'ı' => ['I']
  | 'ſ' => ['S']
  | 'ﬀ' => ['F', 'F']
  | 'ﬁ' => ['F', 'I']
  | 'ﬂ' => ['F', 'L']
  | 'ﬃ' => ['F', 'F', 'I']
  | 'ﬄ' => ['F', 'F', 'L']
  | 'ﬅ' => ['S', 'T']
  | 'ﬆ' => ['S', 'T']
  | c   => [c.toUpper]

/-- `str.upper`, as far as a comparison with ASCII words can tell. -/
def upper (cs : List Char) : List Char := cs.flatMap upperChar

theorem toUpper_cases (c : Char) :
    c.toUpper = c ∨ isSpace c = false ∧ isSpace c.toUpper = false ∧ upperChar c.toUpper = [c.toUpper] := by
  by_cases h : c.toNat < 128
  · have hascii : ∀ n < 128, (Char.ofNat n).toUpper = Char.ofNat n ∨
        isSpace (Char.ofNat n) = false ∧ isSpace (Char.ofNat n).toUpper = false ∧
          upperChar (Char.ofNat n).toUpper = [(Char.ofNat n).toUpper] := by decide +kernel
    have hc := hascii c.toNat h
    rwa [Char.ofNat_toNat] at hc
  · left
    unfold Char.toUpper
    apply dif_neg
    rintro ⟨-, hz⟩
    apply h
    calc c.toNat ≤ 'z'.toNat := hz
      _ < 128 := by decide

/-- A character is its own upper case, or a letter, whose upper case are letters that are their own. -/
theorem upperChar_cases (c : Char) :
    upperChar c = [c] ∨
      isSpace c = false ∧ upperChar c ≠ [] ∧ ∀ d ∈ upperChar c, isSpace d = false ∧ upperChar d = [d] := by
  by_cases hplain : upperChar c = [c.toUpper]
  · rw [hplain]
    rcases toUpper_cases c with h | h
    · rw [h]
      exact .inl rfl
    · refine .inr ⟨h.1, List.cons_ne_nil _ _, fun d hd => ?_⟩
      rw [List.mem_singleton.mp hd]
      exact h.2
  · right
    unfold upperChar at hplain ⊢
    split at hplain
    all_goals first
      | exact absurd rfl hplain
      | exact ⟨by decide, List.cons_ne_nil _ _, List.forall_mem_iff_forall_getElem.mpr (by decide)⟩

/-- Upper case stays as it is. -/
theorem upper_upper (cs : List Char) : upper (upper cs) = upper cs := by
  unfold upper
  rw [List.flatMap_assoc]
  congr 1
  funext c
  rcases upperChar_cases c with h | ⟨-, -, h⟩
  · rw [h, List.flatMap_singleton, h]
  · rw [List.flatMap_congr fun d hd => (h d hd).2, List.flatMap_singleton']

/-- `str.upper` of a symbol. -/
def upperSymbol (s : String) : String := String.ofList (upper s.toList)

theorem upperSymbol_upperSymbol (s : String) : upperSymbol (upperSymbol s) = upperSymbol s := by
  unfold upperSymbol
  rw [String.toList_ofList, upper_upper]

/-- `str.strip` followed by `str.upper`. -/
def normalizeSymbol (s : String) : String := String.ofList (upper (strip s.toList))

def supportedEquitySymbols : List String :=
  ["SPY", "AAPL", "MSFT", "NVDA", "AMZN", "META", "GOOGL", "TSLA"]

def spySymbol : String := "SPY"

def isSupportedEquitySymbol (symbol : String) : Bool :=
  supportedEquitySymbols.contains (normalizeSymbol symbol)

/-! ## Exceptions -/

/-- What a `dict` entry of an error or a log holds. -/
inductive Value
  | null
  | bool (b : Bool)
  | num (q : ℚ)
  | text (s : String)
  | datetime (t : DateTime)
  | list (items : List Value)
  | dict (entries : List (String × Value))

/-- A `dict` with text keys. -/
abbrev Details := List (String × Value)

/-- `{**d, **e}`: of two entries with one key, that of `e` counts. -/
def dictUpdate (d e : Details) : Details := d.filter (fun entry => ¬ e.any (·.1 = entry.1)) ++ e

/-- `d.get(key)`, of an entry that holds a text. -/
def textEntry (d : Details) (key : String) : Option String :=
  match d.find? (·.1 = key) with
  | some (_, .text s) => some s
  | _                 => none

/-- The text, or `None`. -/
def textOrNull (s : Option String) : Value := s.elim .null .text

/-- The exception classes a handler of the execution package tells apart. `other` is any further subclass
    of `Exception`; `base` is an exception outside `Exception`, which no handler catches. -/
inductive ErrorKind
  | notFound | invalidStatus | invalidExperimentConfiguration | experimentStepAlreadyRunning
  | agentProviderConfiguration | marketDataUnavailable | marketDataProvider
  | brokerConfiguration | brokerProvider | other | base
  deriving DecidableEq, Repr

/-- A raised exception. -/
structure Raised where
  kind    : ErrorKind
  message : String
  details : Details := []

def notFoundAppError (message : String) (details : Details) : Raised :=
  ⟨.notFound, message, details⟩

def invalidStatusAppError (message : String) (details : Details) : Raised :=
  ⟨.invalidStatus, message, details⟩

def invalidExperimentConfigurationAppError (message : String) (details : Details) : Raised :=
  ⟨.invalidExperimentConfiguration, message, details⟩

def experimentStepAlreadyRunningAppError (message : String) (details : Details) : Raised :=
  ⟨.experimentStepAlreadyRunning, message, details⟩

def runtimeError (message : String) : Raised := ⟨.other, message, []⟩

end TradingAI
