import TradingAI.Lib.Json

/-!
# `Lib.JsonLocality` — what follows a value does not change it

A reader that has taken a value off the front of a text takes the same value off a longer one. A string and a
container end by themselves; a number needs a character after it that does not continue it, and inside of a
container there always is one (`Delimited`).

## Contents
- `Delimited`: what may follow a value inside of a container.
- The parts of a number, strings, keys, lists and objects, each on a longer text.
- `scanOnce_append`, and its two cases `scanOnce_append_delimited` and `rawDecode_dict_append`.
-/

namespace Json

open DecimalText Outcome

/-! ## White space, digits and words -/

variable {cs rest s : List Char}

/-- A character that does not match ends a run, whatever follows. -/
theorem takeWhile_append_of_stop {p : Char → Bool} (h : cs.dropWhile p ≠ []) :
    (cs ++ s).takeWhile p = cs.takeWhile p := by
  rw [List.takeWhile_append, if_neg]
  intro hall
  have hlength := congrArg List.length (List.takeWhile_append_dropWhile (p := p) (l := cs))
  rw [List.length_append] at hlength
  exact h (List.eq_nil_of_length_eq_zero (by omega))

theorem dropWhile_append_of_stop {p : Char → Bool} (h : cs.dropWhile p ≠ []) :
    (cs ++ s).dropWhile p = cs.dropWhile p ++ s := by
  rw [List.dropWhile_append, if_neg]
  simpa using h

theorem skipSpace_append (h : skipSpace cs ≠ []) : skipSpace (cs ++ s) = skipSpace cs ++ s :=
  dropWhile_append_of_stop h

theorem skipSpace_append_cons {c : Char} {tail : List Char} (h : skipSpace cs = c :: tail) :
    skipSpace (cs ++ s) = c :: (tail ++ s) := by
  rw [skipSpace_append (by simp [h]), h]
  rfl

theorem ne_nil_of_skipSpace (h : skipSpace cs ≠ []) : cs ≠ [] := by
  rintro rfl
  exact h rfl

/-- After white space, a character that closes a container or separates its items. -/
def Delimited (cs : List Char) : Prop := ∃ c tail, skipSpace cs = c :: tail ∧ c ∈ [',', ']', '\x7d']

theorem Delimited.ne_nil (h : Delimited cs) : cs ≠ [] := by
  obtain ⟨c, tail, hskip, -⟩ := h
  apply ne_nil_of_skipSpace
  simp [hskip]

/-- No part of a number begins with what delimits it. -/
theorem Delimited.head {c : Char} {tail : List Char} (h : Delimited (c :: tail)) :
    isAsciiDigit c = false ∧ c ≠ '.' ∧ c ≠ 'e' ∧ c ≠ 'E' := by
  obtain ⟨d, after, hskip, hd⟩ := h
  have hc : isJsonSpace c = true ∨ c ∈ [',', ']', '\x7d'] := by
    by_cases hspace : isJsonSpace c = true
    · exact .inl hspace
    · unfold skipSpace at hskip
      rw [List.dropWhile_cons_of_neg hspace, List.cons.injEq] at hskip
      rw [hskip.1]
      exact .inr hd
  rcases hc with hspace | hmem
  · unfold isJsonSpace at hspace
    simp only [decide_eq_true_eq] at hspace
    rcases hspace with rfl | rfl | rfl | rfl <;> decide
  · simp only [List.mem_cons, List.not_mem_nil, or_false] at hmem
    rcases hmem with rfl | rfl | rfl <;> decide

/-! ## Numbers -/

theorem scanWhole_cons {c : Char} (hzero : c ≠ '0') (cs : List Char) :
    scanWhole (c :: cs) =
      if isAsciiDigit c then some (c :: cs.takeWhile isAsciiDigit, cs.dropWhile isAsciiDigit) else none := by
  rewrite [scanWhole]
  · rfl
  · exact hzero

theorem scanWhole_append {whole : List Char} (h : scanWhole cs = some (whole, rest)) (hrest : rest ≠ []) :
    scanWhole (cs ++ s) = some (whole, rest ++ s) := by
  cases cs with
  | nil => cases h
  | cons c cs =>
      by_cases hzero : c = '0'
      · subst hzero
        cases h
        rfl
      · rw [scanWhole_cons hzero] at h
        split_ifs at h with hdigit
        cases h
        rw [List.cons_append, scanWhole_cons hzero, if_pos hdigit, takeWhile_append_of_stop hrest,
          dropWhile_append_of_stop hrest]

theorem scanFraction_of_ne {c : Char} (h : c ≠ '.') (cs : List Char) : scanFraction (c :: cs) = ([], c :: cs) := by
  rewrite [scanFraction]
  · rfl
  · rintro c' cs' heq
    cases heq
    exact h rfl

/-- A lone point at the end could become a fraction; nothing else can. -/
theorem scanFraction_append {fraction : List Char} (h : scanFraction cs = (fraction, rest)) (hrest : rest ≠ [])
    (hpoint : rest ≠ ['.']) : scanFraction (cs ++ s) = (fraction, rest ++ s) := by
  cases cs with
  | nil =>
      cases h
      exact absurd rfl hrest
  | cons c cs =>
      by_cases hc : c = '.'
      · subst hc
        cases cs with
        | nil =>
            cases h
            exact absurd rfl hpoint
        | cons d cs =>
            rw [scanFraction] at h
            rw [List.cons_append, List.cons_append, scanFraction]
            split_ifs at h ⊢ with hdigit
            · cases h
              rw [takeWhile_append_of_stop hrest, dropWhile_append_of_stop hrest]
            · cases h
              rfl
      · rw [scanFraction_of_ne hc] at h
        cases h
        rw [List.cons_append, scanFraction_of_ne hc]

theorem scanSign_append (h : cs ≠ []) : scanSign (cs ++ s) = ((scanSign cs).1, (scanSign cs).2 ++ s) := by
  cases cs with
  | nil => exact absurd rfl h
  | cons c cs =>
      by_cases hplus : c = '+'
      · subst hplus
        rfl
      · by_cases hminus : c = '-'
        · subst hminus
          rfl
        · have hplain : ∀ tail, scanSign (c :: tail) = ([], c :: tail) := by
            intro tail
            rewrite [scanSign]
            · rfl
            · rintro _ heq
              cases heq
              exact hplus rfl
            · rintro _ heq
              cases heq
              exact hminus rfl
          rw [List.cons_append, hplain, hplain]
          rfl

/-- With what delimits it after it, an exponent is the same on a longer text. -/
theorem scanExponent_append {exponent : List Char} (h : scanExponent cs = (exponent, rest)) (hrest : Delimited rest) :
    scanExponent (cs ++ s) = (exponent, rest ++ s) := by
  cases cs with
  | nil =>
      cases h
      exact absurd rfl hrest.ne_nil
  | cons c cs =>
      unfold scanExponent at h
      dsimp only at h
      split_ifs at h with hdigits
      · cases h
        obtain ⟨hletter, hsome⟩ := hdigits
        have hcs : cs ≠ [] := by
          rintro rfl
          exact hsome rfl
        have hstop := hrest.ne_nil
        rw [List.cons_append, scanExponent, scanSign_append hcs]
        dsimp only
        rw [takeWhile_append_of_stop hstop, dropWhile_append_of_stop hstop, if_pos ⟨hletter, hsome⟩]
      · cases h
        have hhead := hrest.head
        rw [List.cons_append, scanExponent]
        dsimp only
        rw [if_neg]
        rintro ⟨rfl | rfl, -⟩
        · exact hhead.2.2.1 rfl
        · exact hhead.2.2.2 rfl

theorem scanUnsigned_append {D : Decoder} {negative : Bool} {v : Value}
    (h : scanUnsigned D negative cs = .ok (v, rest)) (hrest : Delimited rest) :
    scanUnsigned D negative (cs ++ s) = .ok (v, rest ++ s) := by
  unfold scanUnsigned at h
  split at h
  · cases h
  · next whole after hwhole =>
      cases hfraction : scanFraction after with
      | mk fraction after' =>
        cases hexponent : scanExponent after' with
        | mk exponent after'' =>
          rw [hfraction] at h
          dsimp only at h
          rw [hexponent] at h
          dsimp only at h
          have hlast : after'' = rest := by
            split_ifs at h <;> cases h <;> rfl
          subst hlast
          -- what the parts before the exponent leave is neither nothing nor a lone point
          have hafter' : after' ≠ [] := by
            rintro rfl
            cases hexponent
            exact hrest.ne_nil rfl
          have hpoint : after' ≠ ['.'] := by
            rintro rfl
            cases hexponent
            exact hrest.head.2.1 rfl
          have hafter : after ≠ [] := by
            rintro rfl
            cases hfraction
            exact hafter' rfl
          unfold scanUnsigned
          rw [scanWhole_append hwhole hafter]
          dsimp only
          rw [scanFraction_append hfraction hafter' hpoint]
          dsimp only
          rw [scanExponent_append hexponent hrest]
          dsimp only
          split_ifs at h ⊢ <;> cases h <;> rfl

/-- A text of another first character does not begin with the word. -/
theorem dropPrefix_of_head {word : String} {c d : Char} {tail : List Char} (hword : word.toList = d :: tail)
    (hne : c ≠ d) : dropPrefix word (c :: cs) = none := by
  have hlength : word.length = tail.length + 1 := by
    rw [← String.length_toList, hword, List.length_cons]
  unfold dropPrefix
  rw [hword, hlength, List.take_succ_cons, if_neg]
  intro heq
  exact hne (List.cons.inj heq).1

theorem dropPrefix_eq {word : String} (h : dropPrefix word cs = some rest) : cs = word.toList ++ rest := by
  unfold dropPrefix at h
  split_ifs at h with htake
  cases h
  rw [← htake, List.take_append_drop]

theorem dropPrefix_self (word : String) (tail : List Char) : dropPrefix word (word.toList ++ tail) = some tail := by
  unfold dropPrefix
  rw [← String.length_toList, List.take_left, if_pos rfl, List.drop_left]

/-- The first characters of the words that are values. -/
def wordHeads : List Char := ['n', 't', 'f', 'N', 'I']

theorem scanWord_of_head {c : Char} (h : c ∉ wordHeads) : scanWord (c :: cs) = none := by
  simp only [wordHeads, List.mem_cons, List.not_mem_nil, or_false, not_or] at h
  obtain ⟨hn, ht, hf, hN, hI⟩ := h
  have hnull : dropPrefix "null" (c :: cs) = none := dropPrefix_of_head rfl hn
  have htrue : dropPrefix "true" (c :: cs) = none := dropPrefix_of_head rfl ht
  have hfalse : dropPrefix "false" (c :: cs) = none := dropPrefix_of_head rfl hf
  have hnan : dropPrefix "NaN" (c :: cs) = none := dropPrefix_of_head rfl hN
  have hinfinity : dropPrefix "Infinity" (c :: cs) = none := dropPrefix_of_head rfl hI
  simp [scanWord, words, hnull, htrue, hfalse, hnan, hinfinity]

/-- No two words begin with the same character. -/
theorem scanWord_word {w : String × Value} (hw : w ∈ words) (tail : List Char) :
    scanWord (w.1.toList ++ tail) = some (w.2, tail) := by
  simp only [words, List.mem_cons, List.not_mem_nil, or_false] at hw
  rcases hw with rfl | rfl | rfl | rfl | rfl <;> rfl

theorem scanWord_append {v : Value} (h : scanWord cs = some (v, rest)) : scanWord (cs ++ s) = some (v, rest ++ s) := by
  obtain ⟨w, hw, hrest⟩ := List.exists_of_findSome?_eq_some h
  obtain ⟨after, hafter, heq⟩ := Option.map_eq_some_iff.mp hrest
  cases heq
  rw [dropPrefix_eq hafter, List.append_assoc]
  exact scanWord_word hw (rest ++ s)

/-- A number begins with a digit, after its sign. -/
theorem head_of_scanUnsigned {D : Decoder} {negative : Bool} {v : Value}
    (h : scanUnsigned D negative cs = .ok (v, rest)) : ∃ c tail, cs = c :: tail ∧ isAsciiDigit c := by
  unfold scanUnsigned at h
  split at h
  · cases h
  · next whole after hwhole =>
      unfold scanWhole at hwhole
      split at hwhole
      · exact ⟨_, _, rfl, by decide⟩
      · split_ifs at hwhole with hdigit
        exact ⟨_, _, rfl, hdigit⟩
      · cases hwhole

theorem not_wordHead_of_digit {c : Char} (h : isAsciiDigit c) : c ∉ wordHeads := by
  intro hmem
  simp only [wordHeads, List.mem_cons, List.not_mem_nil, or_false] at hmem
  rcases hmem with rfl | rfl | rfl | rfl | rfl <;> revert h <;> decide

theorem scanNumber_of_ne {D : Decoder} {c : Char} (h : c ≠ '-') (cs : List Char) :
    scanNumber D (c :: cs) = scanUnsigned D false (c :: cs) := by
  rewrite [scanNumber]
  · rfl
  · rintro _ heq
    cases heq
    exact h rfl

theorem scanNumber_append {D : Decoder} {v : Value} (h : scanNumber D cs = .ok (v, rest)) (hrest : Delimited rest) :
    scanNumber D (cs ++ s) = .ok (v, rest ++ s) := by
  cases cs with
  | nil => cases h
  | cons c cs =>
      by_cases hminus : c = '-'
      · subst hminus
        rw [scanNumber] at h
        rw [List.cons_append, scanNumber]
        cases hword : dropPrefix "Infinity" cs with
        | some after =>
            rw [hword] at h
            cases h
            rw [dropPrefix_eq hword, List.append_assoc, dropPrefix_self]
        | none =>
            rw [hword] at h
            obtain ⟨d, tail, rfl, hdigit⟩ := head_of_scanUnsigned h
            have hd : d ≠ 'I' := by
              rintro rfl
              revert hdigit
              decide
            have hnone : dropPrefix "Infinity" (d :: (tail ++ s)) = none := dropPrefix_of_head rfl hd
            rw [List.cons_append, hnone]
            exact scanUnsigned_append h hrest
      · rw [scanNumber_of_ne hminus] at h
        rw [List.cons_append, scanNumber_of_ne hminus]
        exact scanUnsigned_append h hrest

/-- Neither a word nor its beginning is what a number begins with. -/
theorem scanWord_of_scanNumber {D : Decoder} {v : Value} (h : scanNumber D cs = .ok (v, rest)) :
    scanWord (cs ++ s) = none := by
  cases cs with
  | nil => cases h
  | cons c cs =>
      rw [List.cons_append]
      apply scanWord_of_head
      by_cases hminus : c = '-'
      · subst hminus
        decide
      · rw [scanNumber_of_ne hminus] at h
        obtain ⟨d, tail, heq, hdigit⟩ := head_of_scanUnsigned h
        cases heq
        exact not_wordHead_of_digit hdigit

/-! ## Strings and keys -/

theorem scanString_append {high : Option ℕ} {read v : List Char} (h : scanString high read cs = .ok (v, rest)) :
    scanString high read (cs ++ s) = .ok (v, rest ++ s) := by
  -- along the cases of the reader; what it has read decides how it goes on
  fun_induction scanString high read cs with
  | case1 _ _ cs =>
      cases h
      rfl
  | case2 | case4 | case6 | case8 => cases h
  | case3 _ _ _ _ _ _ cs _ hhex ih =>
      simp only [List.cons_append, scanString, hhex]
      exact ih h
  | case5 high read c cs _ c' hescaped ih =>
      have hu : c ≠ 'u' := by
        rintro rfl
        cases hescaped
      rewrite [List.cons_append, List.cons_append, scanString]
      · rw [hescaped]
        exact ih h
      · rintro a b c d tail heq
        exact absurd heq hu
  | case7 high read c cs hquote _ hescape hcontrol ih =>
      have hbackslash : c ≠ '\\' := by
        rintro rfl
        cases cs with
        | nil => cases h
        | cons d cs => exact hescape d cs rfl rfl
      rewrite [List.cons_append, scanString]
      · rw [if_neg hcontrol]
        exact ih h
      · exact hquote
      · rintro a b c d tail heq
        exact absurd heq hbackslash
      · rintro d tail heq
        exact absurd heq hbackslash

/-- The key of an entry, if something follows it. -/
theorem scanKey_append {key : List Char} (h : scanKey cs = .ok (key, rest)) (hrest : rest ≠ []) :
    scanKey (cs ++ s) = .ok (key, rest ++ s) := by
  cases cs with
  | nil => cases h
  | cons c cs =>
      by_cases hquote : c = '"'
      · subst hquote
        rw [scanKey] at h
        obtain ⟨⟨name, after⟩, hname, hcolon⟩ := ok_of_bind h
        dsimp only at hcolon
        split at hcolon
        · next tail hskip =>
            cases hcolon
            rw [List.cons_append, scanKey]
            simp only [scanString_append hname, bind, Except.bind, skipSpace_append_cons hskip, skipSpace_append hrest]
        · cases hcolon
      · rewrite [scanKey] at h
        · cases h
        · rintro cs' heq
          exact absurd (List.cons.inj heq).1 hquote

/-! ## Containers -/

/-- What a reader takes off a text that goes on with a delimiter, it takes off a longer one. -/
def Local {α : Type} (r : Reader α) : Prop :=
  ∀ cs v rest s, r cs = .ok (v, rest) → Delimited rest → r (cs ++ s) = .ok (v, rest ++ s)

variable {item : Reader Value}

/-- **The items of a list**, with at least as many rounds. -/
theorem items_append (hitem : Local item) (hshorter : Shorter item) {n m : ℕ} (hm : n ≤ m) {values : List Value}
    (h : items item n cs = .ok (values, rest)) : items item m (cs ++ s) = .ok (values, rest ++ s) := by
  -- by induction on the rounds; the item of a round is followed by a comma or the bracket
  induction n generalizing m cs values with
  | zero => cases h
  | succ n ih =>
      obtain ⟨m, rfl⟩ : ∃ k, m = k + 1 := ⟨m - 1, by omega⟩
      obtain ⟨⟨value, after⟩, hvalue, hnext⟩ := ok_of_bind h
      dsimp only at hnext
      rw [items]
      split at hnext
      · next tail hskip =>
          cases hnext
          have hdelimited : Delimited after := ⟨_, _, hskip, by decide⟩
          simp only [hitem _ _ _ s hvalue hdelimited, bind, Except.bind, skipSpace_append_cons hskip]
      · next tail hskip =>
          obtain ⟨⟨others, last⟩, hothers, hend⟩ := ok_of_bind hnext
          cases hend
          have hdelimited : Delimited after := ⟨_, _, hskip, by decide⟩
          have htail : skipSpace tail ≠ [] := by
            intro hnil
            rw [hnil] at hothers
            have := items_shorter hshorter _ _ _ _ hothers
            simp at this
          simp only [hitem _ _ _ s hvalue hdelimited, bind, Except.bind, skipSpace_append_cons hskip,
            skipSpace_append htail, ih (m := m) (by omega) hothers]
      · cases hnext

/-- **The entries of an object**, with at least as many rounds. -/
theorem members_append (hitem : Local item) (hshorter : Shorter item) {n m : ℕ} (hm : n ≤ m)
    {entries : List (List Char × Value)} (h : members item n cs = .ok (entries, rest)) :
    members item m (cs ++ s) = .ok (entries, rest ++ s) := by
  -- as for lists; the key of an entry is followed by its value
  induction n generalizing m cs entries with
  | zero => cases h
  | succ n ih =>
      obtain ⟨m, rfl⟩ : ∃ k, m = k + 1 := ⟨m - 1, by omega⟩
      obtain ⟨⟨key, valued⟩, hkey, h⟩ := ok_of_bind h
      obtain ⟨⟨value, after⟩, hvalue, hnext⟩ := ok_of_bind h
      dsimp only at hvalue hnext
      have hvalued : valued ≠ [] := by
        rintro rfl
        have := hshorter _ _ _ hvalue
        simp at this
      rw [members]
      split at hnext
      · next tail hskip =>
          cases hnext
          have hdelimited : Delimited after := ⟨_, _, hskip, by decide⟩
          simp only [scanKey_append hkey hvalued, hitem _ _ _ s hvalue hdelimited, bind, Except.bind,
            skipSpace_append_cons hskip]
      · next tail hskip =>
          obtain ⟨⟨others, last⟩, hothers, hend⟩ := ok_of_bind hnext
          cases hend
          have hdelimited : Delimited after := ⟨_, _, hskip, by decide⟩
          have htail : skipSpace tail ≠ [] := by
            intro hnil
            rw [hnil] at hothers
            have := members_shorter hshorter _ _ _ _ hothers
            simp at this
          simp only [scanKey_append hkey hvalued, hitem _ _ _ s hvalue hdelimited, bind, Except.bind,
            skipSpace_append_cons hskip, skipSpace_append htail, ih (m := m) (by omega) hothers]
      · cases hnext

theorem scanList_close {tail : List Char} (h : skipSpace cs = ']' :: tail) : scanList item cs = .ok ([], tail) := by
  simp only [scanList, h]

theorem scanList_items {c : Char} {tail : List Char} (h : skipSpace cs = c :: tail) (hc : c ≠ ']') :
    scanList item cs = items item (tail.length + 2) (c :: tail) := by
  unfold scanList
  rw [h]
  split
  · next heq => exact absurd (List.cons.inj heq).1 hc
  · rfl

theorem scanDict_close {tail : List Char} (h : skipSpace cs = '\x7d' :: tail) :
    scanDict item cs = .ok ([], tail) := by
  simp only [scanDict, h]

theorem scanDict_members {c : Char} {tail : List Char} (h : skipSpace cs = c :: tail) (hc : c ≠ '\x7d') :
    scanDict item cs = members item (tail.length + 2) (c :: tail) := by
  unfold scanDict
  rw [h]
  split
  · next heq => exact absurd (List.cons.inj heq).1 hc
  · rfl

/-- A list ends by itself. -/
theorem scanList_append (hitem : Local item) (hshorter : Shorter item) {values : List Value}
    (h : scanList item cs = .ok (values, rest)) : scanList item (cs ++ s) = .ok (values, rest ++ s) := by
  cases hskip : skipSpace cs with
  | nil =>
      unfold scanList at h
      rw [hskip] at h
      have := items_shorter hshorter _ _ _ _ h
      simp at this
  | cons c tail =>
      by_cases hc : c = ']'
      · subst hc
        rw [scanList_close hskip] at h
        cases h
        exact scanList_close (skipSpace_append_cons hskip)
      · rw [scanList_items hskip hc] at h
        rw [scanList_items (skipSpace_append_cons hskip) hc]
        refine items_append hitem hshorter ?_ h
        rw [List.length_append]
        omega

/-- An object ends by itself. -/
theorem scanDict_append (hitem : Local item) (hshorter : Shorter item) {entries : List (List Char × Value)}
    (h : scanDict item cs = .ok (entries, rest)) : scanDict item (cs ++ s) = .ok (entries, rest ++ s) := by
  cases hskip : skipSpace cs with
  | nil =>
      unfold scanDict at h
      rw [hskip] at h
      have := members_shorter hshorter _ _ _ _ h
      simp at this
  | cons c tail =>
      by_cases hc : c = '\x7d'
      · subst hc
        rw [scanDict_close hskip] at h
        cases h
        exact scanDict_close (skipSpace_append_cons hskip)
      · rw [scanDict_members hskip hc] at h
        rw [scanDict_members (skipSpace_append_cons hskip) hc]
        refine members_append hitem hshorter ?_ h
        rw [List.length_append]
        omega

/-! ## Values -/

theorem scanOnce_string (D : Decoder) (depth : ℕ) (cs : List Char) :
    scanOnce D depth ('"' :: cs) = scanString none [] cs >>= fun r => .ok (.str r.1, r.2) := by
  cases depth <;> rfl

theorem scanOnce_list (D : Decoder) (depth : ℕ) (cs : List Char) :
    scanOnce D (depth + 1) ('[' :: cs) = scanList (scanOnce D depth) cs >>= fun r => .ok (.list r.1, r.2) := rfl

theorem scanOnce_dict (D : Decoder) (depth : ℕ) (cs : List Char) :
    scanOnce D (depth + 1) ('\x7b' :: cs) =
      scanDict (scanOnce D depth) cs >>= fun r => .ok (.dict (dictOf r.1), r.2) := rfl

theorem scanOnce_plain (D : Decoder) (depth : ℕ) {c : Char} (cs : List Char)
    (h : c ≠ '"' ∧ c ≠ '[' ∧ c ≠ '\x7b') :
    scanOnce D depth (c :: cs) =
      match scanWord (c :: cs) with
      | some r => .ok r
      | none   => scanNumber D (c :: cs) := by
  have hne : ∀ d tail, c :: cs = d :: tail → c = d := fun d tail heq => (List.cons.inj heq).1
  cases depth with
  | zero =>
      rewrite [scanOnce]
      · rfl
      · exact fun tail heq => h.1 (hne _ tail heq)
      · exact fun tail heq => h.2.1 (hne _ tail heq)
      · exact fun tail heq => h.2.2 (hne _ tail heq)
  | succ depth =>
      rewrite [scanOnce]
      · rfl
      · exact fun tail heq => h.1 (hne _ tail heq)
      · exact fun tail heq => h.2.1 (hne _ tail heq)
      · exact fun tail heq => h.2.2 (hne _ tail heq)

theorem scanOnce_string_append {D : Decoder} {depth : ℕ} {v : Value}
    (h : scanOnce D depth ('"' :: cs) = .ok (v, rest)) : scanOnce D depth ('"' :: (cs ++ s)) = .ok (v, rest ++ s) := by
  rw [scanOnce_string] at h ⊢
  obtain ⟨⟨text, after⟩, htext, hend⟩ := ok_of_bind h
  cases hend
  rw [scanString_append htext]
  rfl

theorem scanOnce_plain_append {D : Decoder} {depth : ℕ} {c : Char} {v : Value}
    (hc : c ≠ '"' ∧ c ≠ '[' ∧ c ≠ '\x7b') (h : scanOnce D depth (c :: cs) = .ok (v, rest)) (hrest : Delimited rest) :
    scanOnce D depth (c :: (cs ++ s)) = .ok (v, rest ++ s) := by
  rw [scanOnce_plain D _ _ hc] at h ⊢
  cases hword : scanWord (c :: cs) with
  | some r =>
      rw [hword] at h
      cases h
      rw [← List.cons_append, scanWord_append hword]
  | none =>
      rw [hword] at h
      rw [← List.cons_append, scanWord_of_scanNumber h]
      exact scanNumber_append h hrest

/-- An object ends by itself, if what is one level down is local. -/
theorem scanOnce_dict_append {D : Decoder} {depth : ℕ} {v : Value} (hitem : Local (scanOnce D depth))
    (h : scanOnce D (depth + 1) ('\x7b' :: cs) = .ok (v, rest)) :
    scanOnce D (depth + 1) ('\x7b' :: (cs ++ s)) = .ok (v, rest ++ s) := by
  rw [scanOnce_dict] at h ⊢
  obtain ⟨⟨entries, after⟩, hentries, hend⟩ := ok_of_bind h
  cases hend
  rw [scanDict_append hitem (scanOnce_shorter D depth) hentries]
  rfl

theorem scanOnce_list_append {D : Decoder} {depth : ℕ} {v : Value} (hitem : Local (scanOnce D depth))
    (h : scanOnce D (depth + 1) ('[' :: cs) = .ok (v, rest)) :
    scanOnce D (depth + 1) ('[' :: (cs ++ s)) = .ok (v, rest ++ s) := by
  rw [scanOnce_list] at h ⊢
  obtain ⟨⟨values, after⟩, hvalues, hend⟩ := ok_of_bind h
  cases hend
  rw [scanList_append hitem (scanOnce_shorter D depth) hvalues]
  rfl

/-- **A value that is followed by a delimiter does not depend on what comes after.** -/
theorem scanOnce_local (D : Decoder) (depth : ℕ) : Local (scanOnce D depth) := by
  -- by induction on the depth: the items of a container are one level down
  induction depth with
  | zero =>
      intro cs v rest s h hrest
      cases cs with
      | nil => cases h
      | cons c cs =>
          by_cases hquote : c = '"'
          · subst hquote
            exact scanOnce_string_append h
          · by_cases hbracket : c = '['
            · subst hbracket
              cases h
            · by_cases hbrace : c = '\x7b'
              · subst hbrace
                cases h
              · exact scanOnce_plain_append ⟨hquote, hbracket, hbrace⟩ h hrest
  | succ depth ih =>
      intro cs v rest s h hrest
      cases cs with
      | nil => cases h
      | cons c cs =>
          by_cases hquote : c = '"'
          · subst hquote
            exact scanOnce_string_append h
          · by_cases hbracket : c = '['
            · subst hbracket
              exact scanOnce_list_append ih h
            · by_cases hbrace : c = '\x7b'
              · subst hbrace
                exact scanOnce_dict_append ih h
              · exact scanOnce_plain_append ⟨hquote, hbracket, hbrace⟩ h hrest

/-- **An object at the front of a text** is the same whatever follows it. -/
theorem rawDecode_dict_append {D : Decoder} {v : Value} (h : rawDecode D ('\x7b' :: cs) = .ok (v, rest)) :
    rawDecode D ('\x7b' :: (cs ++ s)) = .ok (v, rest ++ s) := by
  unfold rawDecode at h ⊢
  cases hdepth : D.recursionLimit with
  | zero =>
      rw [hdepth] at h
      cases h
  | succ depth =>
      rw [hdepth] at h
      exact scanOnce_dict_append (scanOnce_local D depth) h

theorem not_dict_of_scanUnsigned {D : Decoder} {negative : Bool} {entries : List (List Char × Value)} :
    scanUnsigned D negative cs ≠ .ok (.dict entries, rest) := by
  intro h
  unfold scanUnsigned at h
  split at h
  · cases h
  · dsimp only at h
    split_ifs at h <;> cases h

theorem not_dict_of_scanNumber {D : Decoder} {entries : List (List Char × Value)} :
    scanNumber D cs ≠ .ok (.dict entries, rest) := by
  intro h
  unfold scanNumber at h
  split at h
  · split at h
    · cases h
    · exact not_dict_of_scanUnsigned h
  · exact not_dict_of_scanUnsigned h

theorem not_dict_of_scanWord {entries : List (List Char × Value)} : scanWord cs ≠ some (.dict entries, rest) := by
  intro h
  obtain ⟨w, hw, hrest⟩ := List.exists_of_findSome?_eq_some h
  obtain ⟨after, -, heq⟩ := Option.map_eq_some_iff.mp hrest
  simp only [words, List.mem_cons, List.not_mem_nil, or_false] at hw
  rcases hw with rfl | rfl | rfl | rfl | rfl <;> cases heq

/-- Only what begins with a brace is an object. -/
theorem head_of_rawDecode_dict {D : Decoder} {entries : List (List Char × Value)}
    (h : rawDecode D cs = .ok (.dict entries, rest)) : ∃ tail, cs = '\x7b' :: tail := by
  unfold rawDecode at h
  generalize D.recursionLimit = depth at h
  cases cs with
  | nil => cases depth <;> cases h
  | cons c cs =>
      by_cases hquote : c = '"'
      · subst hquote
        rw [scanOnce_string] at h
        obtain ⟨text, -, hend⟩ := ok_of_bind h
        cases hend
      · by_cases hbracket : c = '['
        · subst hbracket
          cases depth with
          | zero => cases h
          | succ depth =>
              rw [scanOnce_list] at h
              obtain ⟨values, -, hend⟩ := ok_of_bind h
              cases hend
        · by_cases hbrace : c = '\x7b'
          · exact ⟨cs, by rw [hbrace]⟩
          · rw [scanOnce_plain D _ _ ⟨hquote, hbracket, hbrace⟩] at h
            cases hword : scanWord (c :: cs) with
            | some r =>
                rw [hword] at h
                cases h
                exact absurd hword not_dict_of_scanWord
            | none =>
                rw [hword] at h
                exact absurd h not_dict_of_scanNumber

end Json
