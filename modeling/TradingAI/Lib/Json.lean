import TradingAI.Lib.DecimalText
import TradingAI.Lib.Outcome
import Mathlib.Tactic.SplitIfs

/-!
# `Lib.Json` — a JSON decoder, with the ways it can fail

The decoder reads values left to right and gives up at the first character that does not fit: a
`decodeError`. Two more things stop it, which are not about the syntax: an integer with too many digits to
convert, and containers nested deeper than the recursion limit. Besides the JSON values it reads `NaN`,
`Infinity` and `-Infinity`.

Half of a surrogate pair, which a character cannot be, is read as `U+FFFD`.

## Contents
- `Value`, `Failure`, `Decoder`.
- `scanString`, `scanNumber`, `scanOnce`; `rawDecode`, `loads`.
- `Shorter`, `items_fuel`, `members_fuel`: the readers consume what they read, so the bound of the two loops is
  never what stops them.
-/

namespace Json

open DecimalText Outcome

inductive Value
  | null
  | bool (b : Bool)
  | int (n : ℤ)
  | float (x : Number)
  | str (cs : List Char)
  | list (values : List Value)
  | dict (entries : List (List Char × Value))

/-- Why a text is not decoded. -/
inductive Failure
  | decodeError
  | intTooLong
  | recursion
  deriving DecidableEq

/-- What decoding depends on: the number a float literal becomes, and how deep containers may nest. -/
structure Decoder where
  readFloat      : List Char → Number
  recursionLimit : ℕ

/-- A reader takes a value off the front of a text. -/
abbrev Reader (α : Type) := List Char → Except Failure (α × List Char)

/-- How deep containers nest in a value. -/
def Value.depth : Value → ℕ
  | .list values  => depthOfList values + 1
  | .dict entries => depthOfDict entries + 1
  | _             => 0
where
  depthOfList : List Value → ℕ
    | []      => 0
    | v :: vs => max v.depth (depthOfList vs)
  depthOfDict : List (List Char × Value) → ℕ
    | []           => 0
    | (_, v) :: es => max v.depth (depthOfDict es)

/-! ## Characters -/

def isJsonSpace (c : Char) : Bool := c = ' ' ∨ c = '\t' ∨ c = '\n' ∨ c = '\r'

def skipSpace (cs : List Char) : List Char := cs.dropWhile isJsonSpace

def isAsciiDigit (c : Char) : Bool := '0' ≤ c ∧ c ≤ '9'

/-- The value of a hexadecimal digit. -/
def hexDigit (c : Char) : Option ℕ :=
  if '0' ≤ c ∧ c ≤ '9' then some (c.toNat - 48)
  else if 'a' ≤ c ∧ c ≤ 'f' then some (c.toNat - 87)
  else if 'A' ≤ c ∧ c ≤ 'F' then some (c.toNat - 55)
  else none

/-- The number four hexadecimal digits write. -/
def hex4 (a b c d : Char) : Option ℕ :=
  match hexDigit a, hexDigit b, hexDigit c, hexDigit d with
  | some a, some b, some c, some d => some (((a * 16 + b) * 16 + c) * 16 + d)
  | _, _, _, _ => none

def isHighSurrogate (n : ℕ) : Bool := 0xD800 ≤ n ∧ n ≤ 0xDBFF

def isLowSurrogate (n : ℕ) : Bool := 0xDC00 ≤ n ∧ n ≤ 0xDFFF

/-- The character with this code; `U+FFFD` for half of a pair. -/
def charOf (n : ℕ) : Char :=
  if isHighSurrogate n ∨ isLowSurrogate n then '\uFFFD' else Char.ofNat n

/-- What a backslash and this character stand for. -/
def escaped : Char → Option Char
  | '"'  => some '"'
  | '\\' => some '\\'
  | '/'  => some '/'
  | 'b'  => some (Char.ofNat 8)
  | 'f'  => some (Char.ofNat 12)
  | 'n'  => some '\n'
  | 'r'  => some '\r'
  | 't'  => some '\t'
  | _    => none

/-! ## Strings -/

/-- Whether a code completes the high surrogate before it; the two then are one character. -/
def joins : Option ℕ → ℕ → Bool
  | some _, n => isLowSurrogate n
  | none, _   => false

/-- The characters read so far, newest first, with a code added; `high` is the high surrogate the newest one
    stands for. -/
def addCode (high : Option ℕ) (read : List Char) (n : ℕ) : List Char :=
  if joins high n then
    Char.ofNat (0x10000 + (high.getD 0 - 0xD800) * 0x400 + (n - 0xDC00)) :: read.drop 1
  else charOf n :: read

/-- The rest of a string after its opening quote. -/
def scanString (high : Option ℕ) (read : List Char) : Reader (List Char)
  | '"' :: cs => .ok (read.reverse, cs)
  | '\\' :: 'u' :: a :: b :: c :: d :: cs =>
      match hex4 a b c d with
      | none => .error .decodeError
      | some n =>
          scanString (if joins high n ∨ ¬ isHighSurrogate n then none else some n) (addCode high read n) cs
  | '\\' :: c :: cs =>
      match escaped c with
      | none   => .error .decodeError
      | some c => scanString none (c :: read) cs
  -- a control character must be escaped
  | c :: cs => if c.toNat < 32 then .error .decodeError else scanString none (c :: read) cs
  | [] => .error .decodeError

/-! ## Numbers -/

/-- The longest integer literal that is converted. -/
def maxIntDigits : ℕ := 4300

def natOf (ds : List Char) : ℕ := ds.foldl (fun n c => 10 * n + (c.toNat - 48)) 0

/-- The digits of a number before its point, and what follows: a lone zero, or digits that begin with
    another. -/
def scanWhole : List Char → Option (List Char × List Char)
  | '0' :: cs => some (['0'], cs)
  | c :: cs   =>
      if isAsciiDigit c then some (c :: cs.takeWhile isAsciiDigit, cs.dropWhile isAsciiDigit) else none
  | [] => none

/-- A point and its digits, if they are there. -/
def scanFraction : List Char → List Char × List Char
  | '.' :: c :: cs =>
      if isAsciiDigit c then ('.' :: c :: cs.takeWhile isAsciiDigit, cs.dropWhile isAsciiDigit)
      else ([], '.' :: c :: cs)
  | cs => ([], cs)

/-- The sign of an exponent, if there is one. -/
def scanSign : List Char → List Char × List Char
  | '+' :: cs => (['+'], cs)
  | '-' :: cs => (['-'], cs)
  | cs        => ([], cs)

/-- An exponent, if one with digits is there. -/
def scanExponent : List Char → List Char × List Char
  | c :: cs =>
      let (sign, ds) := scanSign cs
      if (c = 'e' ∨ c = 'E') ∧ ds.takeWhile isAsciiDigit ≠ [] then
        (c :: sign ++ ds.takeWhile isAsciiDigit, ds.dropWhile isAsciiDigit)
      else ([], c :: cs)
  | [] => ([], [])

/-- A number without its sign: an integer, unless a fraction or an exponent follows. -/
def scanUnsigned (D : Decoder) (negative : Bool) (cs : List Char) : Except Failure (Value × List Char) :=
  match scanWhole cs with
  | none => .error .decodeError
  | some (whole, cs) =>
      let (fraction, cs) := scanFraction cs
      let (exponent, cs) := scanExponent cs
      if fraction = [] ∧ exponent = [] then
        if maxIntDigits < whole.length then .error .intTooLong
        else .ok (.int (if negative then -natOf whole else natOf whole), cs)
      else
        let sign := if negative then ['-'] else []
        .ok (.float (D.readFloat (sign ++ whole ++ fraction ++ exponent)), cs)

/-- The rest of a text that begins with a word. -/
def dropPrefix (word : String) (cs : List Char) : Option (List Char) :=
  if cs.take word.length = word.toList then some (cs.drop word.length) else none

def scanNumber (D : Decoder) (cs : List Char) : Except Failure (Value × List Char) :=
  match cs with
  | '-' :: rest =>
      match dropPrefix "Infinity" rest with
      | some rest => .ok (.float (.infinity true), rest)
      | none      => scanUnsigned D true rest
  | _ => scanUnsigned D false cs

/-! ## Containers -/

/-- The items of a list, up to its closing bracket; `n` bounds their number. -/
def items (item : Reader Value) : ℕ → Reader (List Value)
  | 0, _ => .error .decodeError
  | n + 1, cs => do
      let (value, cs) ← item cs
      match skipSpace cs with
      | ']' :: cs => .ok ([value], cs)
      | ',' :: cs => do
          let (values, cs) ← items item n (skipSpace cs)
          .ok (value :: values, cs)
      | _ => .error .decodeError

/-- The key of an entry, its colon, and the white space after it. -/
def scanKey : Reader (List Char)
  | '"' :: cs => do
      let (key, cs) ← scanString none [] cs
      match skipSpace cs with
      | ':' :: cs => .ok (key, skipSpace cs)
      | _         => .error .decodeError
  | _ => .error .decodeError

/-- The entries of an object, up to its closing brace; `n` bounds their number. -/
def members (item : Reader Value) : ℕ → Reader (List (List Char × Value))
  | 0, _ => .error .decodeError
  | n + 1, cs => do
      let (key, cs) ← scanKey cs
      let (value, cs) ← item cs
      match skipSpace cs with
      | '\x7d' :: cs => .ok ([(key, value)], cs)
      | ',' :: cs => do
          let (entries, cs) ← members item n (skipSpace cs)
          .ok ((key, value) :: entries, cs)
      | _ => .error .decodeError

/-- A list after its opening bracket. -/
def scanList (item : Reader Value) (cs : List Char) : Except Failure (List Value × List Char) :=
  match skipSpace cs with
  | ']' :: cs => .ok ([], cs)
  | cs        => items item (cs.length + 1) cs

/-- An object after its opening brace. -/
def scanDict (item : Reader Value) (cs : List Char) : Except Failure (List (List Char × Value) × List Char) :=
  match skipSpace cs with
  | '\x7d' :: cs => .ok ([], cs)
  | cs           => members item (cs.length + 1) cs

/-! ## Values -/

/-- `d[key] = value`. -/
def setItem (entries : List (List Char × Value)) (key : List Char) (value : Value) :
    List (List Char × Value) :=
  if entries.any (·.1 = key) then entries.map fun e => if e.1 = key then (key, value) else e
  else entries ++ [(key, value)]

/-- The object the entries of a text make: of two with one key the later counts. -/
def dictOf (entries : List (List Char × Value)) : List (List Char × Value) :=
  entries.foldl (fun d e => setItem d e.1 e.2) []

/-- `d.get(key)`; a missing key is `null`. -/
def get (entries : List (List Char × Value)) (key : String) : Value :=
  ((entries.find? (·.1 = key.toList)).map (·.2)).getD .null

/-- The words that are values. -/
def words : List (String × Value) :=
  [("null", .null), ("true", .bool true), ("false", .bool false), ("NaN", .float (.nan false)),
   ("Infinity", .float (.infinity false))]

def scanWord (cs : List Char) : Option (Value × List Char) :=
  words.findSome? fun w => (dropPrefix w.1 cs).map (w.2, ·)

/-- `scan_once`, where `depth` more containers may be opened. -/
def scanOnce (D : Decoder) : ℕ → Reader Value
  | depth, cs =>
      match cs with
      | '"' :: cs => do
          let (s, cs) ← scanString none [] cs
          .ok (.str s, cs)
      | '[' :: cs =>
          match depth with
          | 0         => .error .recursion
          | depth + 1 => do
              let (values, cs) ← scanList (scanOnce D depth) cs
              .ok (.list values, cs)
      | '\x7b' :: cs =>
          match depth with
          | 0         => .error .recursion
          | depth + 1 => do
              let (entries, cs) ← scanDict (scanOnce D depth) cs
              .ok (.dict (dictOf entries), cs)
      | cs =>
          match scanWord cs with
          | some r => .ok r
          | none   => scanNumber D cs

/-- `raw_decode`: a value at the very beginning, and what follows it. -/
def rawDecode (D : Decoder) : Reader Value := scanOnce D D.recursionLimit

/-- `json.loads`: one value, with nothing but white space around it. -/
def loads (D : Decoder) (cs : List Char) : Except Failure Value :=
  match cs with
  | '\uFEFF' :: _ => .error .decodeError
  | cs => do
      let (value, rest) ← rawDecode D (skipSpace cs)
      if skipSpace rest = [] then .ok value else .error .decodeError

/-! ## What a reader leaves -/

/-- **A reader consumes what it reads.** -/
def Shorter {α : Type} (r : Reader α) : Prop :=
  ∀ cs v rest, r cs = .ok (v, rest) → rest.length < cs.length

theorem length_dropWhile_le (p : Char → Bool) (cs : List Char) : (cs.dropWhile p).length ≤ cs.length :=
  (List.dropWhile_suffix p).length_le

theorem skipSpace_length_le (cs : List Char) : (skipSpace cs).length ≤ cs.length :=
  length_dropWhile_le _ cs

/-- What follows a character that is not white space is shorter than the text. -/
theorem length_lt_of_skipSpace {cs rest : List Char} {c : Char} (h : skipSpace cs = c :: rest) :
    rest.length < cs.length := by
  have hle := skipSpace_length_le cs
  rw [h, List.length_cons] at hle
  omega

theorem scanString_shorter (high : Option ℕ) (read : List Char) : Shorter (scanString high read) := by
  intro cs v rest h
  fun_induction scanString high read cs with
  | case1 _ _ cs => cases h; simp
  | case2 | case4 | case6 | case8 => cases h
  | case3 _ _ _ _ _ _ cs _ _ ih =>
      have := ih h
      simp only [List.length_cons]
      omega
  | case5 _ _ _ cs _ _ _ ih =>
      have := ih h
      simp only [List.length_cons]
      omega
  | case7 _ _ _ cs _ _ _ _ ih =>
      have := ih h
      simp only [List.length_cons]
      omega

theorem scanKey_shorter : Shorter scanKey := by
  intro cs v rest h
  unfold scanKey at h
  split at h
  · next cs =>
      obtain ⟨⟨key, after⟩, hkey, hcolon⟩ := ok_of_bind h
      dsimp only at hcolon
      split at hcolon
      · next tail hc =>
          cases hcolon
          have h1 := scanString_shorter _ _ _ _ _ hkey
          have h2 := length_lt_of_skipSpace hc
          have h3 := skipSpace_length_le tail
          simp only [List.length_cons]
          omega
      · cases hcolon
  · cases h

theorem scanFraction_length_le (cs : List Char) : (scanFraction cs).2.length ≤ cs.length := by
  unfold scanFraction
  split
  · next c cs =>
      have := length_dropWhile_le isAsciiDigit cs
      split_ifs
      · simp only [List.length_cons]; omega
      · exact le_rfl
  · exact le_rfl

theorem scanSign_length_le (cs : List Char) : (scanSign cs).2.length ≤ cs.length := by
  unfold scanSign
  split <;> simp

theorem scanExponent_length_le (cs : List Char) : (scanExponent cs).2.length ≤ cs.length := by
  unfold scanExponent
  split
  · next c cs =>
      dsimp only
      split_ifs
      · have h1 := length_dropWhile_le isAsciiDigit (scanSign cs).2
        have h2 := scanSign_length_le cs
        simp only [List.length_cons]; omega
      · exact le_rfl
  · exact le_rfl

theorem scanWhole_length_lt {cs whole rest : List Char} (h : scanWhole cs = some (whole, rest)) :
    rest.length < cs.length := by
  unfold scanWhole at h
  split at h
  · cases h; simp
  · next c cs _ =>
      have := length_dropWhile_le isAsciiDigit cs
      split_ifs at h
      cases h
      simp only [List.length_cons]; omega
  · cases h

theorem scanUnsigned_shorter (D : Decoder) (negative : Bool) : Shorter (scanUnsigned D negative) := by
  intro cs v rest h
  unfold scanUnsigned at h
  split at h
  · cases h
  · next whole after hwhole =>
      have h1 := scanWhole_length_lt hwhole
      have h2 := scanFraction_length_le after
      have h3 := scanExponent_length_le (scanFraction after).2
      dsimp only at h
      split_ifs at h
      all_goals
        cases h
        omega

theorem dropPrefix_length_lt {word : String} {cs rest : List Char} (hword : word.toList ≠ [])
    (h : dropPrefix word cs = some rest) : rest.length < cs.length := by
  unfold dropPrefix at h
  split_ifs at h with htake
  cases h
  have hlen : 0 < word.length := by
    rw [← String.length_toList]; exact List.length_pos_iff.mpr hword
  -- the word was there, so the text is at least as long
  have hcs : 0 < cs.length := by
    rw [List.length_pos_iff]
    rintro rfl
    exact hword (by rw [← htake]; simp)
  rw [List.length_drop]
  omega

theorem scanNumber_shorter (D : Decoder) : Shorter (scanNumber D) := by
  intro cs v rest h
  unfold scanNumber at h
  split at h
  · next cs =>
      split at h
      · next hinf =>
          cases h
          have := dropPrefix_length_lt (by decide) hinf
          simp only [List.length_cons]; omega
      · have := scanUnsigned_shorter D true _ _ _ h
        simp only [List.length_cons]; omega
  · exact scanUnsigned_shorter D false _ _ _ h

theorem scanWord_shorter {cs rest : List Char} {v : Value} (h : scanWord cs = some (v, rest)) :
    rest.length < cs.length := by
  obtain ⟨w, hw, hrest⟩ := List.exists_of_findSome?_eq_some h
  have hword : w.1.toList ≠ [] := by
    simp only [words, List.mem_cons, List.not_mem_nil, or_false] at hw
    rcases hw with rfl | rfl | rfl | rfl | rfl <;> decide
  rw [Option.map_eq_some_iff] at hrest
  obtain ⟨after, hafter, heq⟩ := hrest
  cases heq
  exact dropPrefix_length_lt hword hafter

/-! ## The loops are never cut short -/

variable {item : Reader Value}

theorem items_shorter (hitem : Shorter item) (n : ℕ) : Shorter (items item n) := by
  induction n with
  | zero => intro cs v rest h; cases h
  | succ n ih =>
      intro cs v rest h
      obtain ⟨⟨value, after⟩, hvalue, hnext⟩ := ok_of_bind h
      have h1 := hitem _ _ _ hvalue
      dsimp only at hnext
      split at hnext
      · next hclose =>
          cases hnext
          have := length_lt_of_skipSpace hclose
          omega
      · next tail hcomma =>
          obtain ⟨⟨values, last⟩, hvalues, hend⟩ := ok_of_bind hnext
          cases hend
          have h2 := length_lt_of_skipSpace hcomma
          have h3 := skipSpace_length_le tail
          have h4 := ih _ _ _ hvalues
          dsimp only
          omega
      · cases hnext

theorem members_shorter (hitem : Shorter item) (n : ℕ) : Shorter (members item n) := by
  induction n with
  | zero => intro cs v rest h; cases h
  | succ n ih =>
      intro cs v rest h
      obtain ⟨⟨key, valued⟩, hkey, hrest⟩ := ok_of_bind h
      obtain ⟨⟨value, after⟩, hvalue, hnext⟩ := ok_of_bind hrest
      have h0 := scanKey_shorter _ _ _ hkey
      have h1 := hitem _ _ _ hvalue
      dsimp only at hnext
      split at hnext
      · next hclose =>
          cases hnext
          have := length_lt_of_skipSpace hclose
          omega
      · next tail hcomma =>
          obtain ⟨⟨entries, last⟩, hentries, hend⟩ := ok_of_bind hnext
          cases hend
          have h2 := length_lt_of_skipSpace hcomma
          have h3 := skipSpace_length_le tail
          have h4 := ih _ _ _ hentries
          dsimp only
          omega
      · cases hnext

/-- **Enough items**: a bound above the length of the text is as good as any other. -/
theorem items_fuel (hitem : Shorter item) {n m : ℕ} {cs : List Char} (hn : cs.length < n)
    (hm : cs.length < m) : items item n cs = items item m cs := by
  induction n generalizing m cs with
  | zero => omega
  | succ n ih =>
      obtain ⟨m, rfl⟩ : ∃ k, m = k + 1 := ⟨m - 1, by omega⟩
      unfold items
      cases hvalue : item cs with
      | error e => rfl
      | ok r =>
          obtain ⟨value, after⟩ := r
          have h1 := hitem _ _ _ hvalue
          simp only [bind, Except.bind]
          split
          · rfl
          · next tail hcomma =>
              have h2 := length_lt_of_skipSpace hcomma
              have h3 := skipSpace_length_le tail
              rw [ih (m := m) (by omega) (by omega)]
          · rfl

/-- **Enough entries**: the same for objects. -/
theorem members_fuel (hitem : Shorter item) {n m : ℕ} {cs : List Char} (hn : cs.length < n)
    (hm : cs.length < m) : members item n cs = members item m cs := by
  induction n generalizing m cs with
  | zero => omega
  | succ n ih =>
      obtain ⟨m, rfl⟩ : ∃ k, m = k + 1 := ⟨m - 1, by omega⟩
      unfold members
      cases hkey : scanKey cs with
      | error e => rfl
      | ok k =>
          obtain ⟨key, valued⟩ := k
          have h0 := scanKey_shorter _ _ _ hkey
          simp only [bind, Except.bind]
          cases hvalue : item valued with
          | error e => rfl
          | ok r =>
              obtain ⟨value, after⟩ := r
              have h1 := hitem _ _ _ hvalue
              dsimp only
              split
              · rfl
              · next tail hcomma =>
                  have h2 := length_lt_of_skipSpace hcomma
                  have h3 := skipSpace_length_le tail
                  rw [ih (m := m) (by omega) (by omega)]
              · rfl

theorem scanList_shorter (hitem : Shorter item) : Shorter (scanList item) := by
  intro cs v rest h
  have hskip := skipSpace_length_le cs
  unfold scanList at h
  split at h
  · next hclose => cases h; exact length_lt_of_skipSpace hclose
  · have := items_shorter hitem _ _ _ _ h
    omega

theorem scanDict_shorter (hitem : Shorter item) : Shorter (scanDict item) := by
  intro cs v rest h
  have hskip := skipSpace_length_le cs
  unfold scanDict at h
  split at h
  · next hclose => cases h; exact length_lt_of_skipSpace hclose
  · have := members_shorter hitem _ _ _ _ h
    omega

/-- **The decoder consumes what it reads**, so no loop in it ever runs out: `items_fuel` and `members_fuel`
    apply to the readers it runs. -/
theorem scanOnce_shorter (D : Decoder) (depth : ℕ) : Shorter (scanOnce D depth) := by
  -- by induction on the depth: the items of a container are read one level down
  induction depth with
  | zero =>
      intro cs v rest h
      unfold scanOnce at h
      split at h
      · obtain ⟨⟨_, _⟩, hs, hend⟩ := ok_of_bind h
        cases hend
        exact (scanString_shorter _ _ _ _ _ hs).trans (by simp)
      · cases h
      · cases h
      · split at h
        · next hw => cases h; exact scanWord_shorter hw
        · exact scanNumber_shorter D _ _ _ h
  | succ depth ih =>
      intro cs v rest h
      unfold scanOnce at h
      split at h
      · obtain ⟨⟨_, _⟩, hs, hend⟩ := ok_of_bind h
        cases hend
        exact (scanString_shorter _ _ _ _ _ hs).trans (by simp)
      · obtain ⟨⟨_, _⟩, hs, hend⟩ := ok_of_bind h
        cases hend
        exact (scanList_shorter ih _ _ _ hs).trans (by simp)
      · obtain ⟨⟨_, _⟩, hs, hend⟩ := ok_of_bind h
        cases hend
        exact (scanDict_shorter ih _ _ _ hs).trans (by simp)
      · split at h
        · next hw => cases h; exact scanWord_shorter hw
        · exact scanNumber_shorter D _ _ _ h

end Json
