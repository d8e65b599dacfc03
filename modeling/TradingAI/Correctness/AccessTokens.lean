import TradingAI.Auth.Middleware

/-!
# `Correctness.AccessTokens` — which tokens are accepted, and how the others are refused

A valid token has three segments, a signature that matches the first two and a payload for the expected user
that has not expired. Verification accepts exactly these, but not every other token ends in an `AuthTokenError`:
one exception is raised before the decoding that would catch it, one is no `ValueError`, and `true` is an
integer.

## Contents
- `ValidToken`, `VerifiesExactly`: what verification is for.
- `OrdinaryToken`: the tokens for which it does that.
- `verifyAccessToken_signed`, `base64urlJsonDecode_spec`, `checkPayload_spec`: one lemma for each part.
- `created_valid`: a created token carries its user and its expiry.
-/

namespace TradingAI

open Json Outcome

variable {L : SecurityLibrary} {now : ℤ} {token secret username header payload signature : Text}

/-! ## Segments -/

/-- Three segments, with dots only between them. -/
structure Segments (token header payload signature : Text) : Prop where
  eq        : token = header ++ '.' :: (payload ++ '.' :: signature)
  header    : '.' ∉ header
  payload   : '.' ∉ payload
  signature : '.' ∉ signature

/-- No piece of a split list has the separator in it. -/
theorem not_mem_of_mem_splitOn {α : Type} [BEq α] [LawfulBEq α] {a : α} {xs piece : List α}
    (h : piece ∈ xs.splitOn a) : a ∉ piece := by
  induction xs generalizing piece with
  | nil =>
      rw [List.splitOn_nil, List.mem_singleton] at h
      simp [h]
  | cons x xs ih =>
      rw [List.splitOn_cons_eq_if_modifyHead] at h
      obtain ⟨first, rest, hsplit⟩ := List.exists_cons_of_ne_nil (List.splitOn_ne_nil a xs)
      rw [hsplit] at h ih
      split_ifs at h with hx
      · rcases List.mem_cons.mp h with rfl | h
        · exact List.not_mem_nil
        · exact ih h
      · rw [List.modifyHead_cons] at h
        rcases List.mem_cons.mp h with rfl | h
        · rw [List.mem_cons, not_or]
          exact ⟨fun heq => hx (by simp [heq]), ih List.mem_cons_self⟩
        · exact ih (List.mem_cons_of_mem _ h)

theorem splitOn_eq_iff :
    token.splitOn '.' = [header, payload, signature] ↔ Segments token header payload signature := by
  constructor
  · intro h
    have hjoin : ['.'].intercalate (token.splitOn '.') = token := List.intercalate_splitOn '.'
    have hpieces : ∀ piece ∈ [header, payload, signature], '.' ∉ piece := by
      rw [← h]
      exact fun piece hp => not_mem_of_mem_splitOn hp
    rw [h] at hjoin
    refine ⟨by simpa using hjoin.symm, hpieces _ ?_, hpieces _ ?_, hpieces _ ?_⟩
    all_goals simp
  · rintro ⟨rfl, hheader, hpayload, hsignature⟩
    rw [List.splitOn_append_cons_self_of_not_mem hheader, List.splitOn_append_cons_self_of_not_mem hpayload,
      List.splitOn_eq_singleton hsignature]

theorem Segments.unique {header' payload' signature' : Text} (h : Segments token header payload signature)
    (h' : Segments token header' payload' signature') :
    header' = header ∧ payload' = payload ∧ signature' = signature := by
  have heq := (splitOn_eq_iff.mpr h').symm.trans (splitOn_eq_iff.mpr h)
  simpa using heq

/-! ## Valid tokens -/

/-- The signature is that of the first two segments. -/
def Signed (L : SecurityLibrary) (secret header payload signature : Text) : Prop :=
  ∃ signingInput, encodeAscii (header ++ '.' :: payload) = .ok signingInput
    ∧ base64urlDecode signature = .ok (L.hmacSha256 (utf8 secret) signingInput)

/-- The segment is the base64 of a JSON object. -/
def Carries (L : SecurityLibrary) (payload : Text) (entries : List (Text × Json.Value)) : Prop :=
  ∃ bytes, base64urlDecode payload = .ok bytes ∧ L.loads bytes = .ok (.dict entries)

/-- **A valid token**: signed, for this user, with an integer expiry that is still to come. -/
def ValidToken (L : SecurityLibrary) (now : ℤ) (token secret username : Text) : Prop :=
  ∃ header payload signature entries expiresAt,
    Segments token header payload signature ∧ Signed L secret header payload signature ∧ Carries L payload entries
      ∧ get entries "sub" = .str username ∧ get entries "exp" = .int expiresAt ∧ L.timestamp now < expiresAt

/-- **What verification is for**: a valid token gives its user, every other one an `AuthTokenError`. -/
structure VerifiesExactly (L : SecurityLibrary) (now : ℤ) (token secret username : Text) : Prop where
  accepts : ValidToken L now token secret username → verifyAccessToken L now token secret username = .ok username
  refuses : ¬ ValidToken L now token secret username →
    ∃ message, verifyAccessToken L now token secret username = .error (.authToken message)

/-- The tokens that take no other way out. -/
structure OrdinaryToken (L : SecurityLibrary) (now : ℤ) (token secret username : Text) : Prop where
  ascii : ∀ header payload signature, Segments token header payload signature →
    (header ++ '.' :: payload).all isAscii
  shallow : ∀ header payload signature bytes, Segments token header payload signature →
    Signed L secret header payload signature → base64urlDecode payload = .ok bytes →
      L.loads bytes ≠ .error .recursion
  noFlag : ∀ header payload signature entries b, Segments token header payload signature →
    Signed L secret header payload signature → Carries L payload entries → get entries "sub" = .str username →
      get entries "exp" = .bool b → (b.toNat : ℚ) ≤ L.timestamp now

/-! ## What verification does -/

theorem verifyAccessToken_malformed (h : ∀ header payload signature, ¬ Segments token header payload signature) :
    verifyAccessToken L now token secret username = .error (.authToken "Malformed token.") := by
  unfold verifyAccessToken
  split
  · next hsplit => exact absurd (splitOn_eq_iff.mp hsplit) (h _ _ _)
  · rfl

/-- **The first way out**: nothing catches what encoding the first two segments raises. -/
theorem verifyAccessToken_notAscii (hseg : Segments token header payload signature)
    (h : ¬ (header ++ '.' :: payload).all isAscii) :
    verifyAccessToken L now token secret username = .error .unicodeEncode := by
  have hencode : encodeAscii (header ++ '.' :: payload) = .error .unicodeEncode := if_neg h
  simp only [verifyAccessToken, splitOn_eq_iff.mpr hseg, hencode]
  rfl

theorem verifyAccessToken_unsigned (hseg : Segments token header payload signature)
    (hascii : (header ++ '.' :: payload).all isAscii) (h : ¬ Signed L secret header payload signature) :
    ∃ message, verifyAccessToken L now token secret username = .error (.authToken message) := by
  obtain ⟨signingInput, hinput⟩ := encodeAscii_eq_ok hascii
  simp only [verifyAccessToken, splitOn_eq_iff.mpr hseg, hinput]
  rcases base64urlDecode_cases signature with ⟨bytes, hbytes⟩ | herror
  · have hne : bytes ≠ L.hmacSha256 (utf8 secret) signingInput := by
      rintro rfl
      exact h ⟨signingInput, hinput, hbytes⟩
    refine ⟨"Invalid token signature.", ?_⟩
    simp only [hbytes, refuseIf, if_pos hne, bind, Except.bind]
  · refine ⟨"Token segment is invalid.", ?_⟩
    simp only [herror, bind, Except.bind]

/-- What is checked of a payload. -/
def checkPayload (L : SecurityLibrary) (now : ℤ) (username : Text) (entries : List (Text × Json.Value)) :
    Except SecurityError Text := do
  refuseIf (¬ isText (get entries "sub") username) (.authToken "Token subject is not allowed.")
  match asInt (get entries "exp") with
  | none => .error (.authToken "Token expiry is missing.")
  | some expiresAt => do
      refuseIf ((expiresAt : ℚ) ≤ L.timestamp now) (.authToken "Token expired.")
      .ok username

/-- With a matching signature, everything depends on the payload. -/
theorem verifyAccessToken_signed (hseg : Segments token header payload signature)
    (h : Signed L secret header payload signature) :
    verifyAccessToken L now token secret username = base64urlJsonDecode L payload >>= checkPayload L now username := by
  obtain ⟨signingInput, hinput, hsignature⟩ := h
  simp only [verifyAccessToken, splitOn_eq_iff.mpr hseg, hinput, hsignature, bind, Except.bind, refuseIf, ne_eq,
    not_true_eq_false, if_false]
  rfl

theorem base64urlJsonDecode_of_carries {entries : List (Text × Json.Value)} (h : Carries L payload entries) :
    base64urlJsonDecode L payload = .ok entries := by
  obtain ⟨bytes, hbytes, hloads⟩ := h
  simp only [base64urlJsonDecode, hbytes, hloads, bind, Except.bind]

/-- **The second way out**: a payload nested too deep. -/
theorem base64urlJsonDecode_of_recursion {bytes : List UInt8} (hbytes : base64urlDecode payload = .ok bytes)
    (h : L.loads bytes = .error .recursion) : base64urlJsonDecode L payload = .error .recursion := by
  simp only [base64urlJsonDecode, hbytes, h, bind, Except.bind]

/-- A payload that is not too deep is an object, or it is refused. -/
theorem base64urlJsonDecode_spec
    (h : ∀ bytes, base64urlDecode payload = .ok bytes → L.loads bytes ≠ .error .recursion) :
    (∃ entries, Carries L payload entries)
      ∨ ∃ message, base64urlJsonDecode L payload = .error (.authToken message) := by
  rcases base64urlDecode_cases payload with ⟨bytes, hbytes⟩ | herror
  · simp only [base64urlJsonDecode, hbytes, bind, Except.bind]
    split
    · next entries hloads => exact .inl ⟨entries, bytes, hbytes, hloads⟩
    · next hloads => exact absurd hloads (h bytes hbytes)
    · exact .inr ⟨_, rfl⟩
  · refine .inr ⟨"Token segment is invalid.", ?_⟩
    simp only [base64urlJsonDecode, herror, bind, Except.bind]

theorem isText_iff {v : Json.Value} : isText v username ↔ v = .str username := by
  cases v with
  | str s => simp [isText]
  | _ => simp [isText]

/-- **The third way out**: `true` and `false` are integers. -/
theorem asInt_eq_some_iff {v : Json.Value} {n : ℤ} :
    asInt v = some n ↔ v = .int n ∨ ∃ b, v = .bool b ∧ n = b.toNat := by
  cases v with
  | bool b => cases b <;> simp [asInt, eq_comm]
  | _ => simp [asInt]

/-- The payloads that are accepted. -/
def Accepted (L : SecurityLibrary) (now : ℤ) (username : Text) (entries : List (Text × Json.Value)) : Prop :=
  get entries "sub" = .str username ∧ ∃ n, asInt (get entries "exp") = some n ∧ L.timestamp now < n

theorem checkPayload_accepted {entries : List (Text × Json.Value)} (h : Accepted L now username entries) :
    checkPayload L now username entries = .ok username := by
  obtain ⟨hsub, n, hexp, hlt⟩ := h
  have htext : isText (get entries "sub") username := isText_iff.mpr hsub
  simp only [checkPayload, htext, hexp, refuseIf, not_le.mpr hlt, not_true_eq_false, if_false, bind, Except.bind]

theorem checkPayload_refused {entries : List (Text × Json.Value)} (h : ¬ Accepted L now username entries) :
    ∃ message, checkPayload L now username entries = .error (.authToken message) := by
  by_cases htext : isText (get entries "sub") username
  · cases hexp : asInt (get entries "exp") with
    | none =>
        refine ⟨"Token expiry is missing.", ?_⟩
        simp only [checkPayload, htext, hexp, refuseIf, not_true_eq_false, if_false, bind, Except.bind]
    | some n =>
        have hle : (n : ℚ) ≤ L.timestamp now := by
          by_contra hlt
          exact h ⟨isText_iff.mp htext, n, hexp, not_le.mp hlt⟩
        refine ⟨"Token expired.", ?_⟩
        simp only [checkPayload, htext, hexp, refuseIf, hle, not_true_eq_false, if_false, if_true, bind, Except.bind]
  · refine ⟨"Token subject is not allowed.", ?_⟩
    simp only [checkPayload, refuseIf, htext, Bool.false_eq_true, not_false_eq_true, if_true, bind, Except.bind]

/-! ## Exactly the valid tokens -/

theorem Carries.unique {entries entries' : List (Text × Json.Value)} (h : Carries L payload entries)
    (h' : Carries L payload entries') : entries' = entries := by
  have heq := (base64urlJsonDecode_of_carries h').symm.trans (base64urlJsonDecode_of_carries h)
  exact Except.ok.inj heq

/-- A valid token is accepted. -/
theorem ValidToken.accepted (h : ValidToken L now token secret username) :
    verifyAccessToken L now token secret username = .ok username := by
  obtain ⟨header, payload, signature, entries, expiresAt, hseg, hsigned, hcarries, hsub, hexp, hlt⟩ := h
  have haccepted : Accepted L now username entries :=
    ⟨hsub, expiresAt, asInt_eq_some_iff.mpr (.inl hexp), hlt⟩
  rw [verifyAccessToken_signed hseg hsigned, base64urlJsonDecode_of_carries hcarries]
  exact checkPayload_accepted haccepted

/-- Where verification is exact, only an `AuthTokenError` leaves it. -/
theorem VerifiesExactly.authToken (h : VerifiesExactly L now token secret username) {e : SecurityError}
    (he : verifyAccessToken L now token secret username = .error e) : ∃ message, e = .authToken message := by
  by_cases hvalid : ValidToken L now token secret username
  · cases he.symm.trans (h.accepts hvalid)
  · obtain ⟨message, hmessage⟩ := h.refuses hvalid
    cases he.symm.trans hmessage
    exact ⟨message, rfl⟩

theorem VerifiesExactly.ordinary (h : VerifiesExactly L now token secret username) :
    OrdinaryToken L now token secret username where
  ascii header payload signature hseg := by
    by_contra hascii
    obtain ⟨message, heq⟩ := h.authToken (verifyAccessToken_notAscii hseg hascii)
    cases heq
  shallow header payload signature bytes hseg hsigned hbytes hdeep := by
    have hraise : verifyAccessToken L now token secret username = .error .recursion := by
      rw [verifyAccessToken_signed hseg hsigned, base64urlJsonDecode_of_recursion hbytes hdeep]
      rfl
    obtain ⟨message, heq⟩ := h.authToken hraise
    cases heq
  noFlag header payload signature entries b hseg hsigned hcarries hsub hexp := by
    by_contra hlate
    have haccepted : Accepted L now username entries :=
      ⟨hsub, b.toNat, asInt_eq_some_iff.mpr (.inr ⟨b, hexp, rfl⟩), by exact_mod_cast not_le.mp hlate⟩
    have hok : verifyAccessToken L now token secret username = .ok username := by
      rw [verifyAccessToken_signed hseg hsigned, base64urlJsonDecode_of_carries hcarries]
      exact checkPayload_accepted haccepted
    -- it is accepted, and it is not valid: its payload has no other expiry
    have hinvalid : ¬ ValidToken L now token secret username := by
      rintro ⟨header', payload', signature', entries', n, hseg', -, hcarries', -, hexp', -⟩
      obtain ⟨-, rfl, -⟩ := hseg.unique hseg'
      rw [hcarries.unique hcarries', hexp] at hexp'
      cases hexp'
    obtain ⟨message, hrefused⟩ := h.refuses hinvalid
    cases hok.symm.trans hrefused

theorem OrdinaryToken.verifiesExactly (h : OrdinaryToken L now token secret username) :
    VerifiesExactly L now token secret username where
  accepts := ValidToken.accepted
  refuses hinvalid := by
    by_cases hseg : ∃ header payload signature, Segments token header payload signature
    · obtain ⟨header, payload, signature, hseg⟩ := hseg
      by_cases hsigned : Signed L secret header payload signature
      · rw [verifyAccessToken_signed hseg hsigned]
        rcases base64urlJsonDecode_spec (h.shallow _ _ _ · hseg hsigned) with ⟨entries, hcarries⟩ | ⟨message, herror⟩
        · rw [base64urlJsonDecode_of_carries hcarries]
          apply checkPayload_refused
          rintro ⟨hsub, n, hint, hlt⟩
          rcases asInt_eq_some_iff.mp hint with hexp | ⟨b, hexp, rfl⟩
          · exact hinvalid ⟨_, _, _, entries, n, hseg, hsigned, hcarries, hsub, hexp, hlt⟩
          · have hpast := h.noFlag _ _ _ _ _ hseg hsigned hcarries hsub hexp
            exact absurd hlt (not_lt.mpr (by exact_mod_cast hpast))
        · rw [herror]
          exact ⟨message, rfl⟩
      · exact verifyAccessToken_unsigned hseg (h.ascii _ _ _ hseg) hsigned
    · simp only [not_exists] at hseg
      exact ⟨_, verifyAccessToken_malformed hseg⟩

/-! ## Created tokens -/

/-- An expiry that is a timestamp is short enough to be read back. -/
theorem convertible_timestamp {t : ℤ} (ht : 0 ≤ t ∧ t < datetimeEnd) :
    Convertible (Rounding.truncate (L.timestamp t)) := by
  have hbound : |((Rounding.truncate (L.timestamp t) : ℤ) : ℚ)| ≤ 253402300800 :=
    (Rounding.abs_truncate_le _).trans (L.timestamp_bounds ht)
  have hnat : (Rounding.truncate (L.timestamp t)).natAbs ≤ 253402300800 := by
    rw [← Int.cast_abs, Int.abs_eq_natAbs] at hbound
    exact_mod_cast hbound
  calc (Rounding.truncate (L.timestamp t)).natAbs
      _ ≤ 253402300800 := hnat
      _ < 10 ^ 12 := by decide
      _ ≤ 10 ^ maxIntDigits := Nat.pow_le_pow_right (by decide) (by decide)

theorem isAscii_signingInput (header payload : List (Text × Scalar)) :
    (base64urlJson header ++ '.' :: base64urlJson payload).all isAscii := by
  rw [List.all_append, List.all_cons, Bool.and_eq_true, Bool.and_eq_true]
  refine ⟨?_, by decide, ?_⟩
  all_goals
    rw [List.all_eq_true]
    exact fun c hc => isAscii_of_mem_base64urlEncode hc

theorem tokenPayload_nodup (exp : ℤ) : ((tokenPayload username exp).map (·.1)).Nodup := by
  have hkeys : ["sub".toList, "exp".toList].Nodup := by decide
  exact hkeys

variable (L username secret) in
/-- **A created token** is signed and carries its user and its expiry. -/
theorem created_carries {created delta expiresAt : ℤ} (h : addDelta created delta = .ok expiresAt) :
    ∃ token header payload signature, createAccessToken L created username secret delta = .ok token
      ∧ Segments token header payload signature ∧ Signed L secret header payload signature
      ∧ Carries L payload [("exp".toList, .int (Rounding.truncate (L.timestamp expiresAt))),
          ("sub".toList, .str username)] := by
  obtain ⟨exp, hexp⟩ : ∃ exp, exp = Rounding.truncate (L.timestamp expiresAt) := ⟨_, rfl⟩
  have hrange : 0 ≤ expiresAt ∧ expiresAt < datetimeEnd := by
    unfold addDelta at h
    split_ifs at h with hin
    cases h
    exact hin
  have hreadable : ∀ e ∈ tokenPayload username exp, e.2.Readable := by
    simp only [tokenPayload, List.forall_mem_cons, List.not_mem_nil, false_implies, implies_true, and_true, hexp]
    exact ⟨trivial, convertible_timestamp hrange⟩
  have hread := L.loads_dumps (tokenPayload_nodup exp) hreadable
  obtain ⟨signingInput, hinput⟩ := encodeAscii_eq_ok (isAscii_signingInput tokenHeader (tokenPayload username exp))
  refine ⟨_, _, _, base64urlEncode (L.hmacSha256 (utf8 secret) signingInput), ?_,
    ⟨rfl, dot_not_mem_base64urlEncode _, dot_not_mem_base64urlEncode _, dot_not_mem_base64urlEncode _⟩,
    ⟨signingInput, hinput, base64urlDecode_encode _⟩, ⟨_, base64urlDecode_encode _, hexp ▸ hread⟩⟩
  simp only [createAccessToken, h, ← hexp, hinput, bind, Except.bind]
  rw [List.append_assoc, List.cons_append]
  rfl

/-- What verification does with it later: its expiry decides. -/
theorem checkPayload_created (exp : ℤ) :
    checkPayload L now username [("exp".toList, .int exp), ("sub".toList, .str username)] =
      if L.timestamp now < exp then .ok username else .error (.authToken "Token expired.") := by
  have hsub : get [("exp".toList, Json.Value.int exp), ("sub".toList, .str username)] "sub" = .str username := rfl
  have hget : get [("exp".toList, Json.Value.int exp), ("sub".toList, .str username)] "exp" = .int exp := rfl
  by_cases hlt : L.timestamp now < exp
  · rw [if_pos hlt]
    exact checkPayload_accepted ⟨hsub, exp, asInt_eq_some_iff.mpr (.inl hget), hlt⟩
  · have htext : isText (.str username) username := isText_iff.mpr rfl
    rw [if_neg hlt]
    simp only [checkPayload, hsub, hget, htext, asInt, refuseIf, not_lt.mp hlt, not_true_eq_false, if_false, if_true,
      bind, Except.bind]

/-- **Every token that is made** verifies for its user until it expires. -/
def CreatedTokensVerify (L : SecurityLibrary) : Prop :=
  ∀ (created delta expiresAt : ℤ) (username secret : Text), addDelta created delta = .ok expiresAt →
    ∃ token, createAccessToken L created username secret delta = .ok token ∧
      ∀ now, verifyAccessToken L now token secret username =
        if L.timestamp now < Rounding.truncate (L.timestamp expiresAt) then .ok username
        else .error (.authToken "Token expired.")

theorem createdTokensVerify (L : SecurityLibrary) : CreatedTokensVerify L := by
  intro created delta expiresAt username secret h
  obtain ⟨token, header, payload, signature, hcreate, hseg, hsigned, hcarries⟩ := created_carries L secret username h
  refine ⟨token, hcreate, fun now => ?_⟩
  rw [verifyAccessToken_signed hseg hsigned, base64urlJsonDecode_of_carries hcarries]
  exact checkPayload_created _

/-! ## The middleware -/

/-- A request whose token is looked at, and what the token is compared with. -/
structure Guarded (settings : AuthSettings) (request : ApiRequest) (token secret username : Text) : Prop where
  notExempt : isExempt settings request = false
  token     : bearerToken request.authorization = some token
  username  : nonempty settings.appAuthUsername = some username
  secret    : nonempty settings.appAuthJwtSecret = some secret

/-- What the middleware makes of the end of a verification. -/
def passageOf : Except SecurityError Text → Passage
  | .ok _                 => .callNext
  | .error (.authToken _) => .authErrorResponse "Authentication token is invalid."
  | .error e              => .raised e

theorem enforceSingleAccountAuth_guarded {settings : AuthSettings} {request : ApiRequest}
    (h : Guarded settings request token secret username) :
    enforceSingleAccountAuth L now settings request = passageOf (verifyAccessToken L now token secret username) := by
  unfold enforceSingleAccountAuth
  rw [if_neg (by simp [h.notExempt]), h.token, h.username, h.secret]
  rfl

/-- **The middleware**: a request that needs a token is answered with a 401 exactly when an `AuthTokenError` is
    raised, and every other exception leaves. -/
def OnlyAuthTokenErrorsAnswered (L : SecurityLibrary) : Prop :=
  ∀ (now : ℤ) (settings : AuthSettings) (request : ApiRequest) (token secret username : Text),
    Guarded settings request token secret username →
      (enforceSingleAccountAuth L now settings request = .authErrorResponse "Authentication token is invalid." ↔
        ∃ message, verifyAccessToken L now token secret username = .error (.authToken message)) ∧
      ∀ e, enforceSingleAccountAuth L now settings request = .raised e ↔
        verifyAccessToken L now token secret username = .error e ∧ ∀ message, e ≠ .authToken message

theorem onlyAuthTokenErrorsAnswered (L : SecurityLibrary) : OnlyAuthTokenErrorsAnswered L := by
  intro now settings request token secret username h
  rw [enforceSingleAccountAuth_guarded h]
  cases verifyAccessToken L now token secret username with
  | ok username => simp [passageOf]
  | error e => cases e <;> simp [passageOf, eq_comm]

/-! ## Verification -/

/-- **Verification is exact for the ordinary tokens and no others**; a created token verifies until it expires,
    and the middleware answers an `AuthTokenError` with a 401 and nothing else. -/
theorem verifies_exactly_iff (L : SecurityLibrary) :
    (∀ now token secret username,
      VerifiesExactly L now token secret username ↔ OrdinaryToken L now token secret username) ∧
    CreatedTokensVerify L ∧ OnlyAuthTokenErrorsAnswered L :=
  ⟨fun _ _ _ _ => ⟨VerifiesExactly.ordinary, OrdinaryToken.verifiesExactly⟩, createdTokensVerify L,
    onlyAuthTokenErrorsAnswered L⟩

/-- Any library will do: the token below fails before something is hashed or decoded. -/
def exampleLibrary : SecurityLibrary :=
  SecurityLibrary.ofAscii ⟨fun _ => .nan false, 1000⟩ (by decide) fun key message => key ++ message

def exampleSettings : AuthSettings where
  appAuthEnabled   := true
  appAuthUsername  := some "trader".toList
  appAuthJwtSecret := some "secret".toList

def accentedToken : Text := "é.e30.AAAA".toList

def accentedRequest : ApiRequest where
  method        := "GET"
  path          := "/api/v1/orders"
  authorization := some ("Bearer ".toList ++ accentedToken)

/-- **One accent** in the header segment: no 401, but an exception. -/
theorem accented_token_raises :
    ¬ VerifiesExactly exampleLibrary 0 accentedToken "secret".toList "trader".toList ∧
      enforceSingleAccountAuth exampleLibrary 0 exampleSettings accentedRequest = .raised .unicodeEncode := by
  have hsegments : Segments accentedToken "é".toList "e30".toList "AAAA".toList := splitOn_eq_iff.mp (by decide)
  have hraise : verifyAccessToken exampleLibrary 0 accentedToken "secret".toList "trader".toList
      = .error .unicodeEncode := verifyAccessToken_notAscii hsegments (by decide)
  have hguarded : Guarded exampleSettings accentedRequest accentedToken "secret".toList "trader".toList :=
    ⟨by decide, by decide, by decide, by decide⟩
  constructor
  · intro h
    obtain ⟨message, heq⟩ := h.authToken hraise
    cases heq
  · rw [enforceSingleAccountAuth_guarded hguarded, hraise]
    rfl

end TradingAI
