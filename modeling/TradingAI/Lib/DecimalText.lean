import Mathlib.Data.Rat.Defs
import Mathlib.Data.Rat.Cast.Defs
import Mathlib.Data.List.Basic
import Mathlib.Data.List.DropRight

/-!
# `Lib.DecimalText` — decimal numbers read from texts

The numbers of a decimal arithmetic with infinities and NaNs, and the constructor that reads one from a
text: surrounding white space is dropped, underscores are ignored, every decimal digit of Unicode counts,
and the letters of a special value may have any case.

## Contents
- `Number`.
- `isSpace`, `strip`, `digitOf`: characters.
- `read`: the number a text denotes, if it denotes one.
-/

namespace DecimalText

/-- A decimal number. A NaN may be signaling. -/
inductive Number
  | finite (q : ℚ)
  | infinity (negative : Bool)
  | nan (signaling : Bool)
  deriving DecidableEq

/-! ## Characters -/

/-- White space, as Unicode has it. -/
def isSpace (c : Char) : Bool :=
  let n := c.toNat
  (9 ≤ n ∧ n ≤ 13) ∨ (28 ≤ n ∧ n ≤ 32) ∨ n = 0x85 ∨ n = 0xA0 ∨ n = 0x1680 ∨ (0x2000 ≤ n ∧ n ≤ 0x200A)
    ∨ n = 0x2028 ∨ n = 0x2029 ∨ n = 0x202F ∨ n = 0x205F ∨ n = 0x3000

/-- The characters between leading and trailing white space. -/
def strip (cs : List Char) : List Char :=
  ((cs.dropWhile isSpace).reverse.dropWhile isSpace).reverse

theorem strip_eq (cs : List Char) : strip cs = (cs.dropWhile isSpace).rdropWhile isSpace := rfl

/-- A text is what `strip` leaves of it between white space. -/
theorem strip_split (cs : List Char) :
    ∃ before after, cs = before ++ strip cs ++ after ∧ ∀ c ∈ before, isSpace c := by
  obtain ⟨after, hafter⟩ := List.rdropWhile_prefix isSpace (l := cs.dropWhile isSpace)
  refine ⟨cs.takeWhile isSpace, after, ?_, fun c hc => List.mem_takeWhile_imp hc⟩
  rw [List.append_assoc, strip_eq, hafter, List.takeWhile_append_dropWhile]

/-- What is stripped stays as it is. -/
theorem strip_strip (cs : List Char) : strip (strip cs) = strip cs := by
  have hfront : (strip cs).dropWhile isSpace = strip cs := by
    cases hcs : strip cs with
    | nil => rfl
    | cons a rest =>
        -- the first character is the one the first strip has stopped at
        apply List.dropWhile_cons_of_neg
        obtain ⟨tail, htail⟩ := List.rdropWhile_prefix isSpace (l := cs.dropWhile isSpace)
        rw [← strip_eq, hcs, List.cons_append] at htail
        have hhead := List.head?_dropWhile_not isSpace cs
        rw [← htail] at hhead
        simpa using hhead
  rw [strip_eq (strip cs), hfront, strip_eq, List.rdropWhile_idempotent]

/-- What ends with another character keeps it when something is appended and stripped on the right. -/
theorem rdropWhile_append {p : Char → Bool} {cs : List Char} (h : cs.rdropWhile p = cs) (s : List Char) :
    (cs ++ s).rdropWhile p = cs ++ s.rdropWhile p := by
  unfold List.rdropWhile at h ⊢
  rw [List.reverse_append, List.dropWhile_append]
  split_ifs with hall
  · rw [h, List.isEmpty_iff.mp hall]
    simp
  · rw [List.reverse_append, List.reverse_reverse]

/-- The zeros of the decimal digits of Unicode; nine more digits follow each. -/
def digitZeros : List ℕ :=
  [0x30, 0x660, 0x6f0, 0x7c0, 0x966, 0x9e6, 0xa66, 0xae6, 0xb66, 0xbe6, 0xc66, 0xce6, 0xd66, 0xde6, 0xe50,
   0xed0, 0xf20, 0x1040, 0x1090, 0x17e0, 0x1810, 0x1946, 0x19d0, 0x1a80, 0x1a90, 0x1b50, 0x1bb0, 0x1c40,
   0x1c50, 0xa620, 0xa8d0, 0xa900, 0xa9d0, 0xa9f0, 0xaa50, 0xabf0, 0xff10, 0x104a0, 0x10d30, 0x11066,
   0x110f0, 0x11136, 0x111d0, 0x112f0, 0x11450, 0x114d0, 0x11650, 0x116c0, 0x11730, 0x118e0, 0x11950,
   0x11c50, 0x11d50, 0x11da0, 0x11f50, 0x16a60, 0x16ac0, 0x16b50, 0x1d7ce, 0x1d7d8, 0x1d7e2, 0x1d7ec,
   0x1d7f6, 0x1e140, 0x1e2f0, 0x1e4f0, 0x1e950, 0x1fbf0]

/-- The value of a decimal digit. -/
def digitOf (c : Char) : Option ℕ :=
  (digitZeros.find? fun base => base ≤ c.toNat ∧ c.toNat ≤ base + 9).map (c.toNat - ·)

def isDigit (c : Char) : Bool := (digitOf c).isSome

/-- The number of decimal digits written in a row. -/
def digitsValue (ds : List Char) : ℕ := ds.foldl (fun n c => 10 * n + (digitOf c).getD 0) 0

/-! ## Reading -/

/-- The greatest exponent of a leading digit. -/
def maxExponent : ℤ := 999999999999999999

/-- The least exponent of a last digit. -/
def minExponent : ℤ := -1999999999999999997

/-- `coefficient · 10 ^ exponent`. -/
def scaled (coefficient : ℕ) (exponent : ℤ) : ℚ :=
  if 0 ≤ exponent then coefficient * 10 ^ exponent.toNat else coefficient / 10 ^ (-exponent).toNat

/-- A number the constructor can hold exactly. -/
def inRange (coefficient : ℕ) (exponent : ℤ) : Bool :=
  minExponent ≤ exponent ∧ exponent + ((toString coefficient).length - 1 : ℕ) ≤ maxExponent

/-- A sign, if there is one; whether it is a minus. -/
def readSign : List Char → Bool × List Char
  | '+' :: cs => (false, cs)
  | '-' :: cs => (true, cs)
  | cs        => (false, cs)

/-- What follows the digits: nothing, or an exponent. -/
def readExponent : List Char → Option ℤ
  | [] => some 0
  | c :: cs =>
      if c = 'e' ∨ c = 'E' then
        let (negative, ds) := readSign cs
        if ds ≠ [] ∧ ds.all isDigit then
          some (if negative then -digitsValue ds else digitsValue ds)
        else none
      else none

/-- Digits around a point, and an exponent. -/
def readFinite (cs : List Char) : Option ℚ :=
  let whole := cs.takeWhile isDigit
  let rest := cs.dropWhile isDigit
  let (places, rest) := match rest with
    | '.' :: r => (r.takeWhile isDigit, r.dropWhile isDigit)
    | r        => ([], r)
  if whole = [] ∧ places = [] then none
  else
    (readExponent rest).bind fun exponent =>
      let coefficient := digitsValue (whole ++ places)
      let lowest := exponent - places.length
      if inRange coefficient lowest then some (scaled coefficient lowest) else none

/-- A word of ASCII letters, in any case, at the beginning. -/
def dropWord (word : String) (cs : List Char) : Option (List Char) :=
  if (cs.take word.length).map Char.toLower = word.toList then some (cs.drop word.length) else none

/-- A number without its sign. -/
def readUnsigned (negative : Bool) (cs : List Char) : Option Number :=
  match dropWord "inf" cs, dropWord "nan" cs, dropWord "snan" cs with
  | some rest, _, _ =>
      if rest = [] ∨ dropWord "inity" rest = some [] then some (.infinity negative) else none
  -- what follows a NaN is a payload of digits
  | _, some rest, _ => if rest.all isDigit then some (.nan false) else none
  | _, _, some rest => if rest.all isDigit then some (.nan true) else none
  | _, _, _         => (readFinite cs).map fun q => .finite (if negative then -q else q)

/-- The number a text denotes. -/
def read (cs : List Char) : Option Number :=
  let (negative, rest) := readSign ((strip cs).filter (· ≠ '_'))
  readUnsigned negative rest

example : read " -1_0.50e-1\n".toList = some (.finite (-21 / 20)) := by decide +kernel
example : read "NaN".toList = some (.nan false) := by decide +kernel
example : read "1e".toList = none := by decide +kernel

end DecimalText
