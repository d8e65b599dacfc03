import TradingAI.Lib.DecimalText
import Mathlib.Data.List.GetD

/-!
# `Lib.Base64` — bytes written with the 64 characters that are safe in a URL

Four characters stand for three bytes, and `=` fills up the last four. The decoder is a lenient one: it passes
over whatever is not in the alphabet, takes `+` and `/` for `-` and `_`, and stops at the padding that completes
four characters. It fails only if the text ends in between.

## Contents
- `encode`, `decode`.
- `decode_encode`: what is encoded is decoded.
- `stripPadding`, `restorePadding`: the padding says no more than the length does.
-/

namespace Base64

/-! ## The alphabet -/

def alphabet : List Char := "ABCDEFGHIJKLMNOPQRSTUVWXYZabcdefghijklmnopqrstuvwxyz0123456789-_".toList

/-- The character for a number below 64. -/
def charAt (n : ℕ) : Char := alphabet.getD n 'A'

/-- The number a character stands for. -/
def sextet (c : Char) : Option ℕ :=
  if 'A' ≤ c ∧ c ≤ 'Z' then some (c.toNat - 65)
  else if 'a' ≤ c ∧ c ≤ 'z' then some (c.toNat - 71)
  else if '0' ≤ c ∧ c ≤ '9' then some (c.toNat + 4)
  else if c = '-' ∨ c = '+' then some 62
  else if c = '_' ∨ c = '/' then some 63
  else none

/-! ## Encoding -/

def encode : List UInt8 → List Char
  | [] => []
  | [a] => [charAt (a.toNat / 4), charAt (a.toNat % 4 * 16), '=', '=']
  | [a, b] =>
      [charAt (a.toNat / 4), charAt (a.toNat % 4 * 16 + b.toNat / 16), charAt (b.toNat % 16 * 4), '=']
  | a :: b :: c :: bs =>
      charAt (a.toNat / 4) :: charAt (a.toNat % 4 * 16 + b.toNat / 16)
        :: charAt (b.toNat % 16 * 4 + c.toNat / 64) :: charAt (c.toNat % 64) :: encode bs

/-! ## Decoding -/

/-- The bits read that do not fill a byte yet. -/
inductive Pending
  | empty
  | six (n : ℕ)
  | four (n : ℕ)
  | two (n : ℕ)

/-- How many characters of the four have been read. -/
def Pending.position : Pending → ℕ
  | .empty  => 0
  | .six _  => 1
  | .four _ => 2
  | .two _  => 3

/-- The bytes one more character completes, and the bits it leaves. -/
def Pending.push : Pending → ℕ → List UInt8 × Pending
  | .empty, v  => ([], .six v)
  | .six n, v  => ([.ofNat (n * 4 + v / 16)], .four (v % 16))
  | .four n, v => ([.ofNat (n * 16 + v / 4)], .two (v % 4))
  | .two n, v  => ([.ofNat (n * 64 + v)], .empty)

/-- The bytes of a text, after `pads` padding characters in a row. -/
def decodeFrom : Pending → ℕ → List Char → Option (List UInt8)
  | .empty, _, [] => some []
  | _, _, [] => none
  | pending, pads, c :: cs =>
      if c = '=' then
        if 2 ≤ pending.position then
          -- what follows a complete padding is not read
          if 4 ≤ pending.position + (pads + 1) then some []
          else decodeFrom pending (pads + 1) cs
        else decodeFrom pending pads cs
      else
        match sextet c with
        | none   => decodeFrom pending pads cs
        | some v => (decodeFrom (pending.push v).2 0 cs).map ((pending.push v).1 ++ ·)

def decode (cs : List Char) : Option (List UInt8) := decodeFrom .empty 0 cs

/-! ## Round trip -/

theorem charAt_mem (n : ℕ) : charAt n ∈ alphabet := by
  by_cases hn : n < alphabet.length
  · rw [charAt, List.getD_eq_getElem _ _ hn]
    exact List.getElem_mem hn
  · rw [charAt, List.getD_eq_default _ _ (not_lt.mp hn)]
    decide

theorem ne_pad_of_mem_alphabet {c : Char} (h : c ∈ alphabet) : c ≠ '=' := by
  rintro rfl
  exact absurd h (by decide)

theorem sextet_charAt {n : ℕ} (h : n < 64) : sextet (charAt n) = some n := by
  have hall : ∀ m : Fin 64, sextet (charAt m) = some m.val := by decide +kernel
  exact hall ⟨n, h⟩

/-- **One character of the alphabet** pushes its six bits. -/
theorem decodeFrom_charAt {n : ℕ} (h : n < 64) (pending : Pending) (pads : ℕ) (cs : List Char) :
    decodeFrom pending pads (charAt n :: cs)
      = (decodeFrom (pending.push n).2 0 cs).map ((pending.push n).1 ++ ·) := by
  rw [decodeFrom, if_neg (ne_pad_of_mem_alphabet (charAt_mem n)), sextet_charAt h]

/-- Bits put together again are the byte they were taken from. -/
theorem ofNat_eq {n : ℕ} {a : UInt8} (h : n = a.toNat) : UInt8.ofNat n = a := by
  rw [h, UInt8.ofNat_toNat]

/-- **What is encoded is decoded.** -/
theorem decode_encode (bs : List UInt8) : decode (encode bs) = some bs := by
  unfold decode
  induction bs using encode.induct with
  | case1 => rfl
  | case2 a =>
      have ha := a.toNat_lt
      have h1 : UInt8.ofNat (a.toNat / 4 * 4 + a.toNat % 4 * 16 / 16) = a := ofNat_eq (by omega)
      rw [encode, decodeFrom_charAt (by omega), decodeFrom_charAt (by omega)]
      simp only [Pending.push, h1]
      rfl
  | case3 a b =>
      have ha := a.toNat_lt
      have hb := b.toNat_lt
      have h1 : UInt8.ofNat (a.toNat / 4 * 4 + (a.toNat % 4 * 16 + b.toNat / 16) / 16) = a := ofNat_eq (by omega)
      have h2 : UInt8.ofNat ((a.toNat % 4 * 16 + b.toNat / 16) % 16 * 16 + b.toNat % 16 * 4 / 4) = b :=
        ofNat_eq (by omega)
      rw [encode, decodeFrom_charAt (by omega), decodeFrom_charAt (by omega), decodeFrom_charAt (by omega)]
      simp only [Pending.push, h1, h2]
      rfl
  | case4 a b c bs ih =>
      have ha := a.toNat_lt
      have hb := b.toNat_lt
      have hc := c.toNat_lt
      have h1 : UInt8.ofNat (a.toNat / 4 * 4 + (a.toNat % 4 * 16 + b.toNat / 16) / 16) = a := ofNat_eq (by omega)
      have h2 : UInt8.ofNat ((a.toNat % 4 * 16 + b.toNat / 16) % 16 * 16
          + (b.toNat % 16 * 4 + c.toNat / 64) / 4) = b := ofNat_eq (by omega)
      have h3 : UInt8.ofNat ((b.toNat % 16 * 4 + c.toNat / 64) % 4 * 64 + c.toNat % 64) = c :=
        ofNat_eq (by omega)
      rw [encode, decodeFrom_charAt (by omega), decodeFrom_charAt (by omega), decodeFrom_charAt (by omega),
        decodeFrom_charAt (by omega)]
      simp only [Pending.push, ih, h1, h2, h3]
      rfl

/-! ## Padding -/

/-- The text without the padding at its end. -/
def stripPadding (cs : List Char) : List Char := cs.rdropWhile (· = '=')

/-- The text filled up to a multiple of four characters. -/
def restorePadding (cs : List Char) : List Char :=
  cs ++ List.replicate (-(cs.length : ℤ) % 4).toNat '='

/-- **An encoded text** is characters of the alphabet, then the padding its length asks for. -/
theorem encode_shape (bs : List UInt8) :
    ∃ body n, encode bs = body ++ List.replicate n '=' ∧ n < 4 ∧ 4 ∣ body.length + n ∧ ∀ c ∈ body, c ∈ alphabet := by
  induction bs using encode.induct with
  | case1 => exact ⟨[], 0, rfl, by omega, by simp, by simp⟩
  | case2 a => exact ⟨[_, _], 2, rfl, by omega, by simp, by simp [charAt_mem]⟩
  | case3 a b => exact ⟨[_, _, _], 1, rfl, by omega, by simp, by simp [charAt_mem]⟩
  | case4 a b c bs ih =>
      obtain ⟨body, n, hbs, hn, hlen, hbody⟩ := ih
      refine ⟨_ :: _ :: _ :: _ :: body, n, by rw [encode, hbs]; rfl, hn, ?_, ?_⟩
      · simp only [List.length_cons]
        omega
      · simp only [List.forall_mem_cons]
        exact ⟨charAt_mem _, charAt_mem _, charAt_mem _, charAt_mem _, hbody⟩

theorem stripPadding_append {body : List Char} (h : ∀ c ∈ body, c ∈ alphabet) (n : ℕ) :
    stripPadding (body ++ List.replicate n '=') = body := by
  have hbody : body.rdropWhile (· = '=') = body := by
    rw [List.rdropWhile_eq_self_iff]
    intro hne hpad
    exact ne_pad_of_mem_alphabet (h _ (List.getLast_mem hne)) (of_decide_eq_true hpad)
  have hpads : (List.replicate n '=').rdropWhile (· = '=') = [] := by
    rw [List.rdropWhile_eq_nil_iff]
    intro c hc
    exact decide_eq_true (List.eq_of_mem_replicate hc)
  rw [stripPadding, DecimalText.rdropWhile_append hbody, hpads, List.append_nil]

theorem mem_alphabet_of_mem_stripPadding {bs : List UInt8} {c : Char} (h : c ∈ stripPadding (encode bs)) :
    c ∈ alphabet := by
  obtain ⟨body, n, hbs, -, -, hbody⟩ := encode_shape bs
  rw [hbs, stripPadding_append hbody] at h
  exact hbody c h

/-- **The padding says no more than the length does.** -/
theorem restorePadding_stripPadding (bs : List UInt8) : restorePadding (stripPadding (encode bs)) = encode bs := by
  obtain ⟨body, n, hbs, hn, hlen, hbody⟩ := encode_shape bs
  have hpad : (-(body.length : ℤ) % 4).toNat = n := by omega
  rw [hbs, stripPadding_append hbody, restorePadding, hpad]

end Base64
