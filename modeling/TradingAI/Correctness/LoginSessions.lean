import TradingAI.Auth.Login
import TradingAI.Correctness.AccessTokens

/-!
# `Correctness.LoginSessions` — a session from its login to its end

`/auth/me` and the middleware are two readers of the same header. Under settings that start-up accepts they agree
on every header: a request passes exactly when `me` would call it authenticated (`me_agrees_with_middleware`). A
login gives a token exactly for the configured name and password, and with it both let their caller in until the
token expires (`login_opens_session`).
-/

namespace TradingAI

open Json Outcome

variable {L : SecurityLibrary} {settings : AccountSettings}

/-! ## Settings -/

/-- Start-up accepts an enabled account with all three keys. -/
theorem validAccountSettings_spec (h : validateAccountSettings settings = .ok ()) :
    0 < settings.appAuthTokenExpireMinutes ∧
      (settings.appAuthEnabled = true → ∃ keys, validateAuthSettings settings = .ok keys ∧
        nonempty settings.appAuthUsername = some keys.username ∧
        nonempty settings.appAuthJwtSecret = some keys.jwtSecret) := by
  obtain ⟨_, hminutes, h⟩ := ok_of_bind h
  obtain ⟨_, husername, h⟩ := ok_of_bind h
  obtain ⟨_, hhash, hsecret⟩ := ok_of_bind h
  rw [refuseIf_eq_ok] at hminutes husername hhash hsecret
  refine ⟨not_le.mp hminutes, fun henabled => ?_⟩
  obtain ⟨username, husername⟩ := Option.ne_none_iff_exists'.mp fun h => husername ⟨henabled, h⟩
  obtain ⟨passwordHash, hhash⟩ := Option.ne_none_iff_exists'.mp fun h => hhash ⟨henabled, h⟩
  obtain ⟨jwtSecret, hsecret⟩ := Option.ne_none_iff_exists'.mp fun h => hsecret ⟨henabled, h⟩
  refine ⟨⟨username, passwordHash, jwtSecret⟩, ?_, husername, hsecret⟩
  unfold validateAuthSettings
  rw [husername, hhash, hsecret]

/-! ## Me and the middleware -/

/-- What the middleware makes of an answer of `me`. -/
def passageOfMe : Except RouteError AuthMeResponse → Passage
  | .ok _                          => .callNext
  | .error (.authentication message) => .authErrorResponse message
  | .error (.raised e)             => .raised e

/-- A request that the middleware looks at when authentication is on. -/
def LooksAtToken (request : ApiRequest) : Prop :=
  request.method ≠ "OPTIONS" ∧ "/api/v1".toList.isPrefixOf request.path.toList ∧ request.path ∉ publicApiPaths

/-- **`me` tells what the middleware does**, for every header, under settings that start-up accepts: a request that
    needs a token passes exactly when `me` calls the same header authenticated, is refused with the same message
    otherwise, and fails where `me` fails. -/
theorem me_agrees_with_middleware (hvalid : validateAccountSettings settings = .ok ()) (now : ℤ) (request : ApiRequest)
    (hlooks : LooksAtToken request) :
    enforceSingleAccountAuth L now settings.toAuthSettings request =
      passageOfMe (me L now settings request.authorization) := by
  unfold enforceSingleAccountAuth me
  by_cases henabled : settings.appAuthEnabled = true
  · obtain ⟨keys, hkeys, husername, hsecret⟩ := (validAccountSettings_spec hvalid).2 henabled
    have hexempt : isExempt settings.toAuthSettings request = false := by
      obtain ⟨hmethod, hpath, hpublic⟩ := hlooks
      unfold isExempt
      rw [decide_eq_false_iff_not]
      rintro (hoff | hoptions | hprefix | hmem)
      · exact hoff henabled
      · exact hmethod hoptions
      · exact hprefix hpath
      · exact hpublic hmem
    rw [if_neg (by simp [hexempt]), if_neg (by simp [henabled]), hkeys, husername, hsecret]
    -- both read the header in the same way
    cases bearerToken request.authorization with
    | none       => rfl
    | some token =>
        simp only [bind, Except.bind]
        cases verifyAccessToken L now token keys.jwtSecret keys.username with
        | ok username => rfl
        | error e     => cases e <;> rfl
  · have hexempt : isExempt settings.toAuthSettings request = true := by
      unfold isExempt
      exact decide_eq_true (.inl henabled)
    rw [if_pos hexempt, if_pos henabled]
    rfl

/-! ## The header of a token -/

/-- A token is made of the alphabet and dots. -/
theorem mem_createdToken {now delta : ℤ} {username secret token : Text}
    (h : createAccessToken L now username secret delta = .ok token) {c : Char} (hc : c ∈ token) :
    c ∈ Base64.alphabet ∨ c = '.' := by
  obtain ⟨expiresAt, -, h⟩ := ok_of_bind h
  obtain ⟨signingInput, -, h⟩ := ok_of_bind h
  cases h
  simp only [List.mem_append, List.mem_cons] at hc
  rcases hc with (hc | hc | hc) | hc | hc
  · exact .inl (mem_alphabet_of_mem_base64urlEncode hc)
  · exact .inr hc
  · exact .inl (mem_alphabet_of_mem_base64urlEncode hc)
  · exact .inr hc
  · exact .inl (mem_alphabet_of_mem_base64urlEncode hc)

theorem not_isSpace_of_token {c : Char} (h : c ∈ Base64.alphabet ∨ c = '.') : DecimalText.isSpace c = false := by
  have hall : Base64.alphabet.all (fun c => !DecimalText.isSpace c) = true := by decide
  rcases h with h | rfl
  · simpa using List.all_eq_true.mp hall c h
  · decide

/-- Nothing is stripped from a text without spaces. -/
theorem strip_of_noSpace {cs : Text} (h : ∀ c ∈ cs, DecimalText.isSpace c = false) : DecimalText.strip cs = cs := by
  have hdrop : ∀ {ds : Text}, (∀ c ∈ ds, DecimalText.isSpace c = false) → ds.dropWhile DecimalText.isSpace = ds := by
    intro ds hds
    cases ds with
    | nil       => rfl
    | cons d ds =>
        apply List.dropWhile_cons_of_neg
        simp [hds d List.mem_cons_self]
  unfold DecimalText.strip
  rw [hdrop h, hdrop fun c hc => h c (List.mem_reverse.mp hc), List.reverse_reverse]

/-- The header a client sends with a token. -/
def bearerHeader (token : Text) : Option Text := some ("Bearer ".toList ++ token)

/-- **The header gives the token back.** -/
theorem bearerToken_header {now delta : ℤ} {username secret token : Text}
    (h : createAccessToken L now username secret delta = .ok token) : bearerToken (bearerHeader token) = some token := by
  have hstrip : DecimalText.strip token = token :=
    strip_of_noSpace fun c hc => not_isSpace_of_token (mem_createdToken h hc)
  have hne : token ≠ [] := by
    obtain ⟨expiresAt, -, h⟩ := ok_of_bind h
    obtain ⟨signingInput, -, h⟩ := ok_of_bind h
    cases h
    simp
  have hdrop : ("Bearer ".toList ++ token).drop "Bearer ".length = token := rfl
  have hprefix : "Bearer ".toList.isPrefixOf ("Bearer ".toList ++ token) = true :=
    List.isPrefixOf_iff_prefix.mpr (List.prefix_append _ _)
  have hheader : nonempty (bearerHeader token) = bearerHeader token := rfl
  unfold bearerToken
  rw [hheader, bearerHeader, Option.bind_some, if_pos hprefix, hdrop, hstrip]
  simp [nonempty, Option.filter, hne]

/-! ## Login -/

/-- The secret a login signs with. -/
def loginSecret (settings : AccountSettings) : Text :=
  (nonempty settings.appAuthJwtSecret).getD "local-dev-auth-disabled".toList

/-- The name and the password of the account. -/
def RightCredentials (checkpw : CheckPassword) (keys : AccountKeys) (request : LoginRequest) : Prop :=
  request.username = keys.username ∧ verifyPassword checkpw request.password keys.passwordHash = true

/-- How long a token is for. -/
def AccountSettings.lifetime (settings : AccountSettings) : ℤ :=
  settings.appAuthTokenExpireMinutes * microsecondsPerMinute

theorem respond_ok {now : ℤ} {username secret : Text} {response : LoginResponse}
    (h : respond L now settings username secret = .ok response) :
    createAccessToken L now username secret settings.lifetime = .ok response.accessToken ∧
      response.username = username := by
  unfold respond at h
  unfold AccountSettings.lifetime
  cases hcreate : createAccessToken L now username secret
      (settings.appAuthTokenExpireMinutes * microsecondsPerMinute) with
  | error e =>
      rw [hcreate] at h
      cases h
  | ok token =>
      rw [hcreate] at h
      cases h
      exact ⟨rfl, rfl⟩

theorem loginSecret_eq {keys : AccountKeys} (hkeys : validateAuthSettings settings = .ok keys) :
    loginSecret settings = keys.jwtSecret := by
  unfold validateAuthSettings at hkeys
  split at hkeys
  · next hsecret =>
      cases hkeys
      rw [loginSecret, hsecret]
      rfl
  · cases hkeys

/-- Every login makes a token for the user it names. -/
theorem login_ok {checkpw : CheckPassword} {created : ℤ} {request : LoginRequest} {response : LoginResponse}
    (h : login L checkpw created settings request = .ok response) :
    createAccessToken L created response.username (loginSecret settings) settings.lifetime = .ok response.accessToken := by
  unfold login at h
  split at h
  · obtain ⟨hcreate, husername⟩ := respond_ok h
    rw [husername]
    exact hcreate
  · obtain ⟨keys, hkeys, h⟩ := ok_of_bind h
    obtain ⟨_, -, h⟩ := ok_of_bind h
    obtain ⟨hcreate, husername⟩ := respond_ok h
    rw [husername, loginSecret_eq hkeys]
    exact hcreate

/-- With authentication on, that user is the account's. -/
theorem login_username {checkpw : CheckPassword} {created : ℤ} {request : LoginRequest} {response : LoginResponse}
    {keys : AccountKeys} (henabled : settings.appAuthEnabled = true) (hkeys : validateAuthSettings settings = .ok keys)
    (h : login L checkpw created settings request = .ok response) : response.username = keys.username := by
  unfold login at h
  rw [if_neg (by simp [henabled]), hkeys] at h
  obtain ⟨_, hsame, h⟩ := ok_of_bind h
  cases hsame
  obtain ⟨_, -, h⟩ := ok_of_bind h
  exact (respond_ok h).2

/-- A token is made if its expiry is a date there is. -/
theorem createAccessToken_isOk_iff (created delta : ℤ) (username secret : Text) :
    (∃ token, createAccessToken L created username secret delta = .ok token) ↔
      ∃ expiresAt, addDelta created delta = .ok expiresAt := by
  constructor
  · rintro ⟨token, h⟩
    obtain ⟨expiresAt, hadd, -⟩ := ok_of_bind h
    exact ⟨expiresAt, hadd⟩
  · rintro ⟨expiresAt, hadd⟩
    obtain ⟨token, hcreate, -⟩ := createdTokensVerify L created delta expiresAt username secret hadd
    exact ⟨token, hcreate⟩

/-- **Who is given a token**: with authentication on, the right credentials, and no others. -/
theorem login_isOk_iff {checkpw : CheckPassword} {created : ℤ} {request : LoginRequest} {keys : AccountKeys}
    (henabled : settings.appAuthEnabled = true) (hkeys : validateAuthSettings settings = .ok keys) :
    (∃ response, login L checkpw created settings request = .ok response) ↔
      RightCredentials checkpw keys request ∧ ∃ expiresAt, addDelta created settings.lifetime = .ok expiresAt := by
  unfold login
  rw [if_neg (by simp [henabled]), hkeys]
  simp only [bind, Except.bind]
  by_cases hright : RightCredentials checkpw keys request
  · have hrefuse : ¬ (request.username ≠ keys.username ∨
        verifyPassword checkpw request.password keys.passwordHash = false) := by
      rintro (hname | hpassword)
      · exact hname hright.1
      · rw [hright.2] at hpassword
        cases hpassword
    rw [refuseIf, if_neg hrefuse]
    dsimp only
    constructor
    · rintro ⟨response, h⟩
      obtain ⟨hcreate, -⟩ := respond_ok h
      exact ⟨hright, (createAccessToken_isOk_iff (L := L) _ _ _ _).mp ⟨_, hcreate⟩⟩
    · rintro ⟨-, hadd⟩
      obtain ⟨token, hcreate⟩ := (createAccessToken_isOk_iff (L := L) created _ keys.username keys.jwtSecret).mpr hadd
      unfold respond
      unfold AccountSettings.lifetime at hcreate
      rw [hcreate]
      exact ⟨_, rfl⟩
  · have hrefuse : request.username ≠ keys.username ∨
        verifyPassword checkpw request.password keys.passwordHash = false := by
      by_contra hnot
      rw [not_or, not_not, Bool.not_eq_false] at hnot
      exact hright hnot
    rw [refuseIf, if_pos hrefuse]
    apply iff_of_false
    · rintro ⟨response, h⟩
      cases h
    · exact fun h => hright h.1

/-- **A login opens a session.** With authentication on, exactly the right credentials are given a token, as long as
    its expiry is a date. With the token of any login, every account of the same name and secret lets its caller in
    until the expiry, by `me` and by the middleware, and refuses it from then on; the login may have been made
    while authentication was off. -/
theorem login_opens_session (L : SecurityLibrary) (checkpw : CheckPassword) (created : ℤ) (settings : AccountSettings)
    (request : LoginRequest) :
    (∀ keys, settings.appAuthEnabled = true → validateAuthSettings settings = .ok keys →
      ((∃ response, login L checkpw created settings request = .ok response) ↔
        RightCredentials checkpw keys request ∧ ∃ expiresAt, addDelta created settings.lifetime = .ok expiresAt)) ∧
    ∀ response, login L checkpw created settings request = .ok response →
      ∃ expiresAt, addDelta created settings.lifetime = .ok expiresAt ∧
        ∀ (later : AccountSettings) (keys : AccountKeys) (now : ℤ), later.appAuthEnabled = true →
          validateAuthSettings later = .ok keys → keys.username = response.username →
          keys.jwtSecret = loginSecret settings →
          (me L now later (bearerHeader response.accessToken) =
            if L.timestamp now < Rounding.truncate (L.timestamp expiresAt) then
              .ok ⟨true, true, some response.username⟩
            else .error (.authentication "Authentication token is invalid.")) ∧
          ∀ request' : ApiRequest, isExempt later.toAuthSettings request' = false →
            request'.authorization = bearerHeader response.accessToken →
            enforceSingleAccountAuth L now later.toAuthSettings request' =
              if L.timestamp now < Rounding.truncate (L.timestamp expiresAt) then .callNext
              else .authErrorResponse "Authentication token is invalid." := by
  refine ⟨fun keys henabled hkeys => login_isOk_iff henabled hkeys, fun response hlogin => ?_⟩
  have hcreate := login_ok hlogin
  obtain ⟨expiresAt, hadd⟩ := (createAccessToken_isOk_iff (L := L) _ _ _ _).mp ⟨_, hcreate⟩
  refine ⟨expiresAt, hadd, ?_⟩
  rintro later ⟨username, passwordHash, jwtSecret⟩ now henabled hkeys rfl rfl
  obtain ⟨token, hcreate', hverify⟩ :=
    createdTokensVerify L created settings.lifetime expiresAt response.username (loginSecret settings) hadd
  obtain rfl := Except.ok.inj (hcreate'.symm.trans hcreate)
  have hheader := bearerToken_header hcreate
  constructor
  · unfold me
    rw [if_neg (by simp [henabled]), hkeys]
    simp only [bind, Except.bind, hheader, hverify]
    split_ifs <;> rfl
  · intro request' hguard hauthorization
    obtain ⟨husername, hsecret⟩ : nonempty later.appAuthUsername = some response.username ∧
        nonempty later.appAuthJwtSecret = some (loginSecret settings) := by
      unfold validateAuthSettings at hkeys
      split at hkeys
      · next husername _ hsecret =>
          cases hkeys
          exact ⟨husername, hsecret⟩
      · cases hkeys
    have hguarded : Guarded later.toAuthSettings request' response.accessToken (loginSecret settings)
        response.username := ⟨hguard, hauthorization ▸ hheader, husername, hsecret⟩
    rw [enforceSingleAccountAuth_guarded hguarded, hverify]
    split_ifs <;> rfl

/-! ## One account -/

/-- The account of the example, twelve hours a session. -/
def exampleAccount : AccountSettings where
  toAuthSettings            := exampleSettings
  appAuthPasswordHash       := some "hash".toList
  appAuthTokenExpireMinutes := 720

/-- A request with a header that is no bearer token. -/
def basicRequest : ApiRequest where
  method        := "GET"
  path          := "/api/v1/orders"
  authorization := some "Basic dHJhZGVy".toList

theorem basic_header_refused :
    enforceSingleAccountAuth exampleLibrary 0 exampleAccount.toAuthSettings basicRequest =
        passageOfMe (me exampleLibrary 0 exampleAccount basicRequest.authorization) ∧
      enforceSingleAccountAuth exampleLibrary 0 exampleAccount.toAuthSettings basicRequest =
        .authErrorResponse "Authentication token is missing." :=
  ⟨me_agrees_with_middleware rfl 0 basicRequest ⟨by decide, by decide, by decide⟩, by decide⟩

/-- The password that is its own hash. -/
def samePassword : CheckPassword := fun password passwordHash => some (password = passwordHash)

/-- The right password is given a token, another one is not; the token lets its caller in for twelve hours. -/
theorem exampleAccount_logins :
    (¬ ∃ response, login exampleLibrary samePassword 0 exampleAccount ⟨"trader".toList, "guess".toList⟩ =
        .ok response) ∧
      ∃ response, login exampleLibrary samePassword 0 exampleAccount ⟨"trader".toList, "hash".toList⟩ = .ok response ∧
        me exampleLibrary 43199999999 exampleAccount (bearerHeader response.accessToken) =
          .ok ⟨true, true, some response.username⟩ ∧
        me exampleLibrary 43200000000 exampleAccount (bearerHeader response.accessToken) =
          .error (.authentication "Authentication token is invalid.") := by
  have hkeys : validateAuthSettings exampleAccount = .ok ⟨"trader".toList, "hash".toList, "secret".toList⟩ := rfl
  obtain ⟨hopens, -⟩ :=
    login_opens_session exampleLibrary samePassword 0 exampleAccount ⟨"trader".toList, "guess".toList⟩
  obtain ⟨hopens', hsession⟩ :=
    login_opens_session exampleLibrary samePassword 0 exampleAccount ⟨"trader".toList, "hash".toList⟩
  refine ⟨fun h => absurd ((hopens _ rfl hkeys).mp h).1.2 (by decide), ?_⟩
  obtain ⟨response, hlogin⟩ := (hopens' _ rfl hkeys).mpr ⟨⟨rfl, by decide⟩, _, rfl⟩
  obtain ⟨expiresAt, hexpires, hlets⟩ := hsession response hlogin
  obtain rfl : expiresAt = 43200000000 := (Except.ok.inj hexpires).symm
  have hname : response.username = "trader".toList := login_username rfl hkeys hlogin
  refine ⟨response, hlogin, ?_, ?_⟩
  · rw [(hlets exampleAccount _ 43199999999 rfl hkeys hname.symm rfl).1, if_pos (by decide +kernel)]
  · rw [(hlets exampleAccount _ 43200000000 rfl hkeys hname.symm rfl).1, if_neg (by decide +kernel)]

end TradingAI
