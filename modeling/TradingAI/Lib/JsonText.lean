import TradingAI.Lib.JsonLocality
import Mathlib.Data.List.Sort

/-!
# `Lib.JsonText` — JSON objects written as texts

An object of strings and integers, written with no white space and in the order of its keys. Every character
of the text is ASCII: what is not has an escape, and what does not fit in four hexadecimal digits has two.

## Contents
- `Scalar`, `dumps`: the writer.
- `scanString_dump`, `scanOnce_dump`, `members_dump`: what is written is read back, part by part.
- `loads_dumps`: the round trip of an object.
- `dumps_ascii`.
-/

namespace Json

open Outcome

/-- The values written here. -/
inductive Scalar
  | str (cs : List Char)
  | int (n : ℤ)

def Scalar.value : Scalar → Value
  | .str cs => .str cs
  | .int n  => .int n

/-! ## Writing -/

def hexChar (n : ℕ) : Char := if n < 10 then Char.ofNat (48 + n) else Char.ofNat (87 + n)

/-- A backslash, a `u` and four hexadecimal digits. -/
def unicodeEscape (n : ℕ) : List Char :=
  ['\\', 'u', hexChar (n / 4096 % 16), hexChar (n / 256 % 16), hexChar (n / 16 % 16), hexChar (n % 16)]

/-- What stands after the backslash for a character that has a short escape. -/
def shortEscape (c : Char) : Option Char :=
  ['"', '\\', 'b', 'f', 'n', 'r', 't'].find? fun e => escaped e = some c

def dumpChar (c : Char) : List Char :=
  match shortEscape c with
  | some e => ['\\', e]
  | none =>
      if ' ' ≤ c ∧ c ≤ '~' then [c]
      else if c.toNat < 0x10000 then unicodeEscape c.toNat
      else unicodeEscape (0xD800 + (c.toNat - 0x10000) / 0x400) ++ unicodeEscape (0xDC00 + (c.toNat - 0x10000) % 0x400)

def dumpString (cs : List Char) : List Char := '"' :: cs.flatMap dumpChar ++ ['"']

def dumpInt (n : ℤ) : List Char := (if n < 0 then ['-'] else []) ++ Nat.toDigits 10 n.natAbs

def Scalar.dump : Scalar → List Char
  | .str cs => dumpString cs
  | .int n  => dumpInt n

/-- The entries of an object and its closing brace. -/
def dumpEntries : List (List Char × Scalar) → List Char
  | []                => ['\x7d']
  | [(key, v)]        => dumpString key ++ ':' :: v.dump ++ ['\x7d']
  | (key, v) :: rest  => dumpString key ++ ':' :: v.dump ++ ',' :: dumpEntries rest

/-- Whether a key stands before another: texts are compared code by code. -/
def keyBefore (d e : List Char × Scalar) : Bool := ¬ List.lex e.1 d.1 fun a b => a.toNat < b.toNat

/-- `sort_keys`. -/
def sortKeys (entries : List (List Char × Scalar)) : List (List Char × Scalar) :=
  entries.insertionSort fun d e => keyBefore d e = true

/-- `json.dumps(entries, separators=(",", ":"), sort_keys=True)`. -/
def dumps (entries : List (List Char × Scalar)) : List Char := '\x7b' :: dumpEntries (sortKeys entries)

/-! ## Strings -/

theorem hexDigit_hexChar {n : ℕ} (h : n < 16) : hexDigit (hexChar n) = some n := by
  have hall : ∀ m : Fin 16, hexDigit (hexChar m) = some m.val := by decide +kernel
  exact hall ⟨n, h⟩

theorem scanString_unicodeEscape {n : ℕ} (h : n < 0x10000) (high : Option ℕ) (read cs : List Char) :
    scanString high read (unicodeEscape n ++ cs) =
      scanString (if joins high n ∨ ¬ isHighSurrogate n then none else some n) (addCode high read n) cs := by
  have hn : hex4 (hexChar (n / 4096 % 16)) (hexChar (n / 256 % 16)) (hexChar (n / 16 % 16)) (hexChar (n % 16))
      = some n := by
    simp only [hex4, hexDigit_hexChar (Nat.mod_lt _ (show 16 > 0 by decide)), Option.some.injEq]
    omega
  simp only [unicodeEscape, List.cons_append, List.nil_append, scanString, hn]

/-- **A short escape** is what the reader knows it for. -/
theorem escaped_of_shortEscape {c e : Char} (h : shortEscape c = some e) : escaped e = some c ∧ e ≠ 'u' := by
  unfold shortEscape at h
  have hmem := List.mem_of_find?_eq_some h
  have hesc := List.find?_some h
  refine ⟨of_decide_eq_true hesc, ?_⟩
  rintro rfl
  exact absurd hmem (by decide)

theorem shortEscape_quote : shortEscape '"' = some '"' := by decide

theorem shortEscape_backslash : shortEscape '\\' = some '\\' := by decide

theorem scanString_escape {c e : Char} (h : shortEscape c = some e) (high : Option ℕ) (read cs : List Char) :
    scanString high read ('\\' :: e :: cs) = scanString none (c :: read) cs := by
  obtain ⟨hesc, hu⟩ := escaped_of_shortEscape h
  rw [scanString]
  · simp only [hesc]
  · rintro _ _ _ _ _ rfl
    exact absurd rfl hu

theorem scanString_plain {c : Char} (hquote : c ≠ '"') (hback : c ≠ '\\') (hc : 32 ≤ c.toNat) (high : Option ℕ)
    (read cs : List Char) : scanString high read (c :: cs) = scanString none (c :: read) cs := by
  rw [scanString]
  · rw [if_neg (by omega)]
  all_goals
    intros
    simp_all

/-- No character is half of a surrogate pair, and the codes end at `0x10FFFF`. -/
theorem char_valid (c : Char) : ¬ isHighSurrogate c.toNat ∧ ¬ isLowSurrogate c.toNat ∧ c.toNat < 0x110000 := by
  have hc : c.toNat < 0xD800 ∨ (0xDFFF < c.toNat ∧ c.toNat < 0x110000) := c.valid
  simp only [isHighSurrogate, isLowSurrogate, decide_eq_true_eq]
  omega

theorem charOf_toNat (c : Char) : charOf c.toNat = c := by
  obtain ⟨hhigh, hlow, -⟩ := char_valid c
  rw [charOf, if_neg (by simp [hhigh, hlow]), Char.ofNat_toNat]

/-- **Two escapes**: the second completes the first. -/
theorem scanString_pair {c : Char} (hc : 0x10000 ≤ c.toNat) (read cs : List Char) :
    scanString none read (unicodeEscape (0xD800 + (c.toNat - 0x10000) / 0x400)
        ++ (unicodeEscape (0xDC00 + (c.toNat - 0x10000) % 0x400) ++ cs)) = scanString none (c :: read) cs := by
  obtain ⟨-, -, hlt⟩ := char_valid c
  obtain ⟨first, hfirst⟩ : ∃ first, first = 0xD800 + (c.toNat - 0x10000) / 0x400 := ⟨_, rfl⟩
  obtain ⟨second, hsecond⟩ : ∃ second, second = 0xDC00 + (c.toNat - 0x10000) % 0x400 := ⟨_, rfl⟩
  have hhigh : isHighSurrogate first = true := by
    simp only [isHighSurrogate, decide_eq_true_eq]
    omega
  have hlow : isLowSurrogate second = true := by
    simp only [isLowSurrogate, decide_eq_true_eq]
    omega
  have hcode : 0x10000 + (first - 0xD800) * 0x400 + (second - 0xDC00) = c.toNat := by omega
  rw [← hfirst, ← hsecond, scanString_unicodeEscape (by omega), if_neg (by simp [joins, hhigh]),
    scanString_unicodeEscape (by omega), if_pos (.inl hlow)]
  simp only [addCode, joins, hlow, if_true, Bool.false_eq_true, if_false, Option.getD_some, List.drop_one,
    List.tail_cons, hcode, Char.ofNat_toNat]

theorem toNat_of_plain {c : Char} (h : ' ' ≤ c) : 32 ≤ c.toNat := h

/-- **What is written for a character is read as that character.** -/
theorem scanString_dumpChar (c : Char) (read cs : List Char) :
    scanString none read (dumpChar c ++ cs) = scanString none (c :: read) cs := by
  unfold dumpChar
  split
  · next e he => exact scanString_escape he none read cs
  · next hshort =>
      have hquote : c ≠ '"' := by
        rintro rfl
        cases shortEscape_quote.symm.trans hshort
      have hback : c ≠ '\\' := by
        rintro rfl
        cases shortEscape_backslash.symm.trans hshort
      split_ifs with hplain hsmall
      · exact scanString_plain hquote hback (toNat_of_plain hplain.1) none read cs
      · obtain ⟨hhigh, -, -⟩ := char_valid c
        rw [scanString_unicodeEscape hsmall, if_pos (.inr hhigh), addCode, if_neg (by simp [joins]), charOf_toNat]
      · rw [List.append_assoc]
        exact scanString_pair (not_lt.mp hsmall) read cs

/-- **A string is read back.** -/
theorem scanString_dump (cs rest : List Char) (read : List Char) :
    scanString none read (cs.flatMap dumpChar ++ '"' :: rest) = .ok (read.reverse ++ cs, rest) := by
  induction cs generalizing read with
  | nil => simp [scanString]
  | cons c cs ih =>
      rw [List.flatMap_cons, List.append_assoc, scanString_dumpChar, ih, List.reverse_cons, List.append_assoc]
      rfl

/-! ## Integers -/

theorem isAsciiDigit_of_mem {n : ℕ} {c : Char} (h : c ∈ Nat.toDigits 10 n) : isAsciiDigit c := by
  have hc := Nat.isDigit_of_mem_toDigits (by decide) (by decide) h
  simpa [Char.isDigit, isAsciiDigit, Char.le_def] using hc

theorem natOf_toDigits (n : ℕ) : natOf (Nat.toDigits 10 n) = n := by
  have h : Nat.ofDigitChars 10 (Nat.toDigits 10 n) 0 = n := Nat.ofDigitChars_ten_toDigits
  rwa [Nat.ofDigitChars_eq_foldl] at h

/-- Only zero is written with a zero in front. -/
theorem head_toDigits {n : ℕ} (h : 0 < n) : (Nat.toDigits 10 n).head? ≠ some '0' := by
  induction n using Nat.strongRecOn with
  | ind n ih =>
      rw [Nat.toDigits_eq_if (by decide)]
      split_ifs with hn
      · have hall : ∀ m : Fin 10, 0 < m.val → [m.val.digitChar].head? ≠ some '0' := by decide
        exact hall ⟨n, hn⟩ h
      · rw [List.head?_append_of_ne_nil _ Nat.toDigits_ne_nil]
        exact ih (n / 10) (by omega) (by omega)

theorem toDigits_cons (n : ℕ) : ∃ d ds, Nat.toDigits 10 n = d :: ds ∧ isAsciiDigit d := by
  obtain ⟨d, ds, hds⟩ := List.exists_cons_of_ne_nil (Nat.toDigits_ne_nil (n := n) (b := 10))
  have hmem : d ∈ Nat.toDigits 10 n := by
    rw [hds]
    exact List.mem_cons_self
  exact ⟨d, ds, hds, isAsciiDigit_of_mem hmem⟩

/-- **The digits of a number** are read up to what delimits them. -/
theorem scanWhole_toDigits (n : ℕ) {rest : List Char} (hrest : Delimited rest) :
    scanWhole (Nat.toDigits 10 n ++ rest) = some (Nat.toDigits 10 n, rest) := by
  obtain ⟨e, tail, rfl⟩ := List.exists_cons_of_ne_nil hrest.ne_nil
  have he : ¬ isAsciiDigit e = true := by simp [hrest.head.1]
  rcases Nat.eq_zero_or_pos n with rfl | hpos
  · rw [Nat.toDigits_zero]
    rfl
  · have hhead := head_toDigits hpos
    obtain ⟨d, ds, hds, hdigit⟩ := toDigits_cons n
    have hdigits : ∀ c ∈ ds, isAsciiDigit c := by
      intro c hc
      apply isAsciiDigit_of_mem (n := n)
      rw [hds]
      exact List.mem_cons_of_mem d hc
    rw [hds] at hhead ⊢
    have hzero : d ≠ '0' := fun h => hhead (by rw [h]; rfl)
    rw [List.cons_append, scanWhole_cons hzero, if_pos hdigit, List.takeWhile_append_of_pos hdigits,
      List.dropWhile_append_of_pos hdigits, List.takeWhile_cons_of_neg he, List.dropWhile_cons_of_neg he,
      List.append_nil]

theorem scanExponent_of_ne {c : Char} (h : c ≠ 'e' ∧ c ≠ 'E') (cs : List Char) :
    scanExponent (c :: cs) = ([], c :: cs) := by
  simp [scanExponent, h.1, h.2]

theorem scanUnsigned_toDigits (D : Decoder) (negative : Bool) {n : ℕ} (hn : n < 10 ^ maxIntDigits)
    {rest : List Char} (hrest : Delimited rest) :
    scanUnsigned D negative (Nat.toDigits 10 n ++ rest) = .ok (.int (if negative then -n else n), rest) := by
  obtain ⟨e, tail, rfl⟩ := List.exists_cons_of_ne_nil hrest.ne_nil
  obtain ⟨-, hpoint, hexp⟩ := hrest.head
  have hlen : ¬ maxIntDigits < (Nat.toDigits 10 n).length :=
    not_lt.mpr ((Nat.length_toDigits_le_iff (by decide) (by decide)).mpr hn)
  simp only [scanUnsigned, scanWhole_toDigits n hrest, scanFraction_of_ne hpoint, scanExponent_of_ne hexp,
    if_neg hlen, natOf_toDigits, and_self, if_true]

/-- An integer that is not too long to be converted. -/
def Convertible (n : ℤ) : Prop := n.natAbs < 10 ^ maxIntDigits

/-- **An integer is read back.** -/
theorem scanNumber_dump (D : Decoder) {n : ℤ} (hn : Convertible n) {rest : List Char} (hrest : Delimited rest) :
    scanNumber D (dumpInt n ++ rest) = .ok (.int n, rest) := by
  obtain ⟨d, ds, hds, hdigit⟩ := toDigits_cons n.natAbs
  unfold dumpInt
  split_ifs with hneg
  · have hword : dropPrefix "Infinity" (Nat.toDigits 10 n.natAbs ++ rest) = none := by
      rw [hds]
      exact dropPrefix_of_head rfl (by rintro rfl; revert hdigit; decide)
    have habs : -(n.natAbs : ℤ) = n := by omega
    rw [List.singleton_append, List.cons_append, scanNumber, hword]
    simp only [scanUnsigned_toDigits D true hn hrest, if_true, habs]
  · have hminus : d ≠ '-' := by
      rintro rfl
      revert hdigit
      decide
    have habs : (n.natAbs : ℤ) = n := by omega
    have hread := scanUnsigned_toDigits D false hn hrest
    rw [hds] at hread
    rw [List.nil_append, hds, List.cons_append, scanNumber_of_ne hminus, ← List.cons_append, hread]
    simp only [Bool.false_eq_true, if_false, habs]

/-- An integer begins with a digit or its sign. -/
theorem head_dumpInt (n : ℤ) : ∃ c cs, dumpInt n = c :: cs ∧ (isAsciiDigit c ∨ c = '-') := by
  obtain ⟨d, ds, hds, hdigit⟩ := toDigits_cons n.natAbs
  unfold dumpInt
  split_ifs
  · exact ⟨_, _, rfl, .inr rfl⟩
  · exact ⟨d, ds, hds, .inl hdigit⟩

/-! ## Values and objects -/

/-- What a scalar needs to be read back. -/
def Scalar.Readable : Scalar → Prop
  | .str _ => True
  | .int n => Convertible n

/-- **A scalar is read back.** -/
theorem scanOnce_dump (D : Decoder) (depth : ℕ) {v : Scalar} (hv : v.Readable) {rest : List Char}
    (hrest : Delimited rest) : scanOnce D depth (v.dump ++ rest) = .ok (v.value, rest) := by
  cases v with
  | str cs =>
      have hread := scanString_dump cs rest []
      simp only [Scalar.dump, dumpString, List.cons_append, List.append_assoc, List.nil_append] at hread ⊢
      rw [scanOnce_string, hread]
      rfl
  | int n =>
      obtain ⟨c, cs, hcs, hc⟩ := head_dumpInt n
      have hread := scanNumber_dump D hv hrest
      have hplain : c ≠ '"' ∧ c ≠ '[' ∧ c ≠ '\x7b' := by
        refine ⟨?_, ?_, ?_⟩
        all_goals
          rintro rfl
          revert hc
          decide
      have hword : c ∉ wordHeads := by
        rcases hc with hdigit | rfl
        · exact not_wordHead_of_digit hdigit
        · decide
      simp only [Scalar.dump] at hread ⊢
      rw [hcs, List.cons_append] at hread ⊢
      rw [scanOnce_plain D depth _ hplain, scanWord_of_head hword]
      exact hread

theorem skipSpace_cons {c : Char} (h : isJsonSpace c = false) (cs : List Char) : skipSpace (c :: cs) = c :: cs :=
  List.dropWhile_cons_of_neg (by simp [h])

theorem scanKey_dump (key : List Char) {c : Char} (hc : isJsonSpace c = false) (rest : List Char) :
    scanKey (dumpString key ++ ':' :: c :: rest) = .ok (key, c :: rest) := by
  have hread := scanString_dump key (':' :: c :: rest) []
  have hcolon : skipSpace (':' :: c :: rest) = ':' :: c :: rest := skipSpace_cons (by decide) _
  simp only [dumpString, List.cons_append, List.append_assoc, List.nil_append]
  simp only [scanKey, hread, bind, Except.bind, List.reverse_nil, List.nil_append, hcolon, skipSpace_cons hc]

/-- A scalar begins with no white space. -/
theorem head_dump (v : Scalar) : ∃ c cs, v.dump = c :: cs ∧ isJsonSpace c = false := by
  cases v with
  | str cs => exact ⟨'"', _, rfl, by decide⟩
  | int n =>
      obtain ⟨c, cs, hcs, hc⟩ := head_dumpInt n
      refine ⟨c, cs, hcs, ?_⟩
      unfold isJsonSpace
      rw [decide_eq_false_iff_not]
      rintro (rfl | rfl | rfl | rfl)
      all_goals
        revert hc
        decide

def entryOf (e : List Char × Scalar) : List Char × Value := (e.1, e.2.value)

/-- **An entry is read back**, up to what follows it. -/
theorem members_entry (D : Decoder) (depth n : ℕ) (key : List Char) {v : Scalar} (hv : v.Readable) {c : Char}
    (hc : c ∈ [',', '\x7d']) (rest : List Char) :
    members (scanOnce D depth) (n + 1) (dumpString key ++ ':' :: v.dump ++ c :: rest) =
      if c = ',' then do
        let (entries, cs) ← members (scanOnce D depth) n (skipSpace rest)
        .ok ((key, v.value) :: entries, cs)
      else .ok ([(key, v.value)], rest) := by
  obtain ⟨d, ds, hds, hspace⟩ := head_dump v
  have hskip : skipSpace (c :: rest) = c :: rest := by
    apply skipSpace_cons
    simp only [List.mem_cons, List.not_mem_nil, or_false] at hc
    rcases hc with rfl | rfl <;> decide
  have hdelimited : Delimited (c :: rest) := by
    refine ⟨c, rest, hskip, ?_⟩
    simp only [List.mem_cons, List.not_mem_nil, or_false] at hc ⊢
    tauto
  have hkey : scanKey (dumpString key ++ ':' :: v.dump ++ c :: rest) = .ok (key, v.dump ++ c :: rest) := by
    rw [List.append_assoc, List.cons_append, hds, List.cons_append]
    exact scanKey_dump key hspace _
  have hvalue := scanOnce_dump D depth hv hdelimited
  rw [members, hkey]
  simp only [bind, Except.bind, hvalue, hskip]
  simp only [List.mem_cons, List.not_mem_nil, or_false] at hc
  rcases hc with rfl | rfl <;> rfl

/-- **The entries of an object are read back**, up to its closing brace. -/
theorem members_dump (D : Decoder) (depth : ℕ) {entries : List (List Char × Scalar)} (hne : entries ≠ [])
    (hentries : ∀ e ∈ entries, e.2.Readable) {n : ℕ} (hn : entries.length ≤ n) (rest : List Char) :
    members (scanOnce D depth) n (dumpEntries entries ++ rest) = .ok (entries.map entryOf, rest) := by
  induction entries generalizing n with
  | nil => exact absurd rfl hne
  | cons e entries ih =>
      obtain ⟨key, v⟩ := e
      obtain ⟨m, rfl⟩ : ∃ m, n = m + 1 := ⟨n - 1, by simp only [List.length_cons] at hn; omega⟩
      have hv : v.Readable := hentries _ List.mem_cons_self
      cases entries with
      | nil =>
          have hlast := members_entry D depth m key hv (show '\x7d' ∈ [',', '\x7d'] by decide) rest
          simpa [dumpEntries, entryOf] using hlast
      | cons f entries =>
          have hskip : ∀ cs, skipSpace (dumpEntries (f :: entries) ++ cs) = dumpEntries (f :: entries) ++ cs := by
            intro cs
            cases entries <;> exact skipSpace_cons (by decide) _
          have hnext := ih (List.cons_ne_nil f entries) (fun e he => hentries e (List.mem_cons_of_mem _ he))
            (n := m) (Nat.le_of_succ_le_succ hn)
          have hentry := members_entry D depth m key hv (show ',' ∈ [',', '\x7d'] by decide)
            (dumpEntries (f :: entries) ++ rest)
          have htext : dumpEntries ((key, v) :: f :: entries) ++ rest
              = dumpString key ++ ':' :: v.dump ++ ',' :: (dumpEntries (f :: entries) ++ rest) := by
            simp [dumpEntries]
          rw [htext, hentry, if_pos rfl, hskip, hnext]
          rfl

theorem setItem_of_not_mem {entries : List (List Char × Value)} {key : List Char} (h : key ∉ entries.map (·.1))
    (value : Value) : setItem entries key value = entries ++ [(key, value)] := by
  rw [setItem, if_neg]
  simp only [List.any_eq_true, decide_eq_true_eq, not_exists, not_and]
  exact fun e he hkey => h (List.mem_map.mpr ⟨e, he, hkey⟩)

/-- Entries with different keys are the object they make. -/
theorem dictOf_of_nodup {entries : List (List Char × Value)} (h : (entries.map (·.1)).Nodup) :
    dictOf entries = entries := by
  induction entries using List.reverseRecOn with
  | nil => rfl
  | append_singleton entries e ih =>
      rw [List.map_append, List.nodup_append] at h
      obtain ⟨hentries, -, hdisjoint⟩ := h
      have hnew : e.1 ∉ entries.map (·.1) := fun hmem => hdisjoint e.1 hmem e.1 (by simp) rfl
      have hdict : dictOf (entries ++ [e]) = setItem (dictOf entries) e.1 e.2 := by
        simp [dictOf]
      rw [hdict, ih hentries, setItem_of_not_mem hnew]

theorem length_dumpEntries (entries : List (List Char × Scalar)) : entries.length ≤ (dumpEntries entries).length := by
  induction entries with
  | nil => simp
  | cons e entries ih =>
      cases entries with
      | nil =>
          simp only [dumpEntries, List.length_append, List.length_cons]
          omega
      | cons f entries =>
          simp only [dumpEntries, List.length_append, List.length_cons] at ih ⊢
          omega

theorem scanDict_dump (D : Decoder) (depth : ℕ) {entries : List (List Char × Scalar)}
    (hentries : ∀ e ∈ entries, e.2.Readable) :
    scanDict (scanOnce D depth) (dumpEntries entries) = .ok (entries.map entryOf, []) := by
  cases entries with
  | nil => exact scanDict_close (skipSpace_cons (by decide) _)
  | cons e entries =>
      obtain ⟨tail, htail⟩ : ∃ tail, dumpEntries (e :: entries) = '"' :: tail := by
        cases entries <;> exact ⟨_, rfl⟩
      have hskip : skipSpace (dumpEntries (e :: entries)) = '"' :: tail := by
        rw [htail]
        exact skipSpace_cons (by decide) tail
      have hlen := length_dumpEntries (e :: entries)
      have hread := members_dump D depth (List.cons_ne_nil e entries) hentries (n := tail.length + 2)
        (by rw [htail] at hlen; simp only [List.length_cons] at hlen ⊢; omega) []
      rw [scanDict_members hskip (by decide), ← htail]
      simpa using hread

theorem mem_sortKeys {entries : List (List Char × Scalar)} {e : List Char × Scalar} :
    e ∈ sortKeys entries ↔ e ∈ entries :=
  List.mem_insertionSort _

/-- **The round trip**: what is written for an object is decoded as that object, with its keys sorted. -/
theorem loads_dumps {D : Decoder} (hlimit : 0 < D.recursionLimit) {entries : List (List Char × Scalar)}
    (hkeys : (entries.map (·.1)).Nodup) (hentries : ∀ e ∈ entries, e.2.Readable) :
    loads D (dumps entries) = .ok (.dict ((sortKeys entries).map entryOf)) := by
  obtain ⟨depth, hdepth⟩ : ∃ depth, D.recursionLimit = depth + 1 := ⟨D.recursionLimit - 1, by omega⟩
  have hsorted : ((sortKeys entries).map entryOf |>.map (·.1)).Nodup := by
    rw [List.map_map]
    have hperm : (sortKeys entries).Perm entries := by
      unfold sortKeys
      exact List.perm_insertionSort _ entries
    exact (hperm.map (·.1)).nodup_iff.mpr hkeys
  have hread := scanDict_dump D depth fun e he => hentries e (mem_sortKeys.mp he)
  have hskip : skipSpace (dumps entries) = dumps entries := skipSpace_cons (by decide) _
  have hdecode : rawDecode D (dumps entries) = .ok (.dict ((sortKeys entries).map entryOf), []) := by
    rw [rawDecode, hdepth, dumps, scanOnce_dict, hread]
    simp only [bind, Except.bind, dictOf_of_nodup hsorted]
  have hbom : ∀ tail, dumps entries ≠ '\uFEFF' :: tail := fun tail h => absurd (List.cons.inj h).1 (by decide)
  rw [loads]
  · rw [hskip, hdecode]
    rfl
  · exact hbom

/-! ## Only ASCII is written -/

def isAscii (c : Char) : Bool := c.toNat < 128

theorem isAscii_hexChar (n : ℕ) : isAscii (hexChar (n % 16)) := by
  have hall : ∀ m : Fin 16, isAscii (hexChar m) := by decide
  exact hall ⟨n % 16, Nat.mod_lt _ (by decide)⟩

theorem isAscii_unicodeEscape {n : ℕ} {c : Char} (h : c ∈ unicodeEscape n) : isAscii c := by
  simp only [unicodeEscape, List.mem_cons, List.not_mem_nil, or_false] at h
  rcases h with rfl | rfl | rfl | rfl | rfl | rfl
  · decide
  · decide
  all_goals exact isAscii_hexChar _

theorem isAscii_dumpChar {c d : Char} (h : d ∈ dumpChar c) : isAscii d := by
  unfold dumpChar at h
  split at h
  · next e he =>
      have hmem : e ∈ ['"', '\\', 'b', 'f', 'n', 'r', 't'] := List.mem_of_find?_eq_some he
      have hall : ['"', '\\', 'b', 'f', 'n', 'r', 't'].all isAscii = true := by decide
      simp only [List.mem_cons, List.not_mem_nil, or_false] at h
      rcases h with rfl | rfl
      · decide
      · exact List.all_eq_true.mp hall d hmem
  · split_ifs at h with hplain
    · rw [List.mem_singleton] at h
      have hle : c.toNat ≤ 126 := hplain.2
      simp only [h, isAscii, decide_eq_true_eq]
      omega
    · exact isAscii_unicodeEscape h
    · rcases List.mem_append.mp h with h | h
      all_goals exact isAscii_unicodeEscape h

theorem isAscii_dumpString {cs : List Char} {d : Char} (h : d ∈ dumpString cs) : isAscii d := by
  simp only [dumpString, List.cons_append, List.mem_cons, List.mem_append, List.mem_flatMap, List.not_mem_nil,
    or_false] at h
  rcases h with rfl | ⟨c, -, hd⟩ | rfl
  · decide
  · exact isAscii_dumpChar hd
  · decide

theorem isAscii_dump {v : Scalar} {d : Char} (h : d ∈ v.dump) : isAscii d := by
  cases v with
  | str cs => exact isAscii_dumpString h
  | int n =>
      rcases List.mem_append.mp h with h | h
      · split_ifs at h
        · rw [List.mem_singleton.mp h]
          decide
        · exact absurd h List.not_mem_nil
      · have hdigit := isAsciiDigit_of_mem h
        simp only [isAsciiDigit, decide_eq_true_eq] at hdigit
        have hle : d.toNat ≤ 57 := hdigit.2
        simp only [isAscii, decide_eq_true_eq]
        omega

theorem isAscii_dumpEntries {entries : List (List Char × Scalar)} {d : Char} (h : d ∈ dumpEntries entries) :
    isAscii d := by
  induction entries using dumpEntries.induct with
  | case1 =>
      rw [List.mem_singleton.mp h]
      decide
  | case2 key v =>
      simp only [dumpEntries, List.mem_append, List.mem_cons, List.not_mem_nil, or_false] at h
      rcases h with (h | rfl | h) | rfl
      · exact isAscii_dumpString h
      · decide
      · exact isAscii_dump h
      · decide
  | case3 key v rest hne ih =>
      rw [dumpEntries] at h
      · simp only [List.mem_append, List.mem_cons] at h
        rcases h with (h | rfl | h) | rfl | h
        · exact isAscii_dumpString h
        · decide
        · exact isAscii_dump h
        · decide
        · exact ih h
      · exact hne

/-- **Only ASCII is written.** -/
theorem dumps_ascii {entries : List (List Char × Scalar)} {d : Char} (h : d ∈ dumps entries) : isAscii d := by
  rcases List.mem_cons.mp h with rfl | h
  · decide
  · exact isAscii_dumpEntries h

end Json
