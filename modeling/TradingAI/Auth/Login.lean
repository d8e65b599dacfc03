import TradingAI.Auth.Middleware

/-!
# `Auth.Login` — the two routes of the account

`POST /auth/login` hands out an access token, `GET /auth/me` says who a token is for. Both have a check of the
settings of their own, beside the one at start-up (`validateAccountSettings`), and `me` reads the header with a
copy of the middleware's `_bearer_token`.
-/

namespace TradingAI

open Outcome

/-- The settings of the account. -/
structure AccountSettings extends AuthSettings where
  appAuthPasswordHash       : Option Text
  appAuthTokenExpireMinutes : ℤ

/-- What `validate_scheduler_config` asks of them; the first message that applies is raised. -/
def validateAccountSettings (settings : AccountSettings) : Except String Unit := do
  refuseIf (settings.appAuthTokenExpireMinutes ≤ 0) "APP_AUTH_TOKEN_EXPIRE_MINUTES must be greater than 0."
  refuseIf (settings.appAuthEnabled ∧ nonempty settings.appAuthUsername = none)
    "APP_AUTH_USERNAME is required when APP_AUTH_ENABLED=true."
  refuseIf (settings.appAuthEnabled ∧ nonempty settings.appAuthPasswordHash = none)
    "APP_AUTH_PASSWORD_HASH is required when APP_AUTH_ENABLED=true."
  refuseIf (settings.appAuthEnabled ∧ nonempty settings.appAuthJwtSecret = none)
    "APP_AUTH_JWT_SECRET is required when APP_AUTH_ENABLED=true."

/-! ## Errors -/

/-- How a route fails: an `AuthenticationAppError`, which is answered with a 401, or an exception that leaves. -/
inductive RouteError
  | authentication (message : String)
  | raised (e : SecurityError)
  deriving DecidableEq

/-- The settings a route works with: username, password hash and secret. -/
structure AccountKeys where
  username     : Text
  passwordHash : Text
  jwtSecret    : Text

/-- `_validate_auth_settings`. -/
def validateAuthSettings (settings : AccountSettings) : Except RouteError AccountKeys :=
  match nonempty settings.appAuthUsername, nonempty settings.appAuthPasswordHash, nonempty settings.appAuthJwtSecret with
  | some username, some passwordHash, some jwtSecret => .ok ⟨username, passwordHash, jwtSecret⟩
  | _, _, _ => .error (.authentication "Authentication is not configured.")

/-! ## Login -/

/-- `bcrypt.checkpw`; nothing for a `ValueError`. -/
abbrev CheckPassword := List UInt8 → List UInt8 → Option Bool

/-- `verify_password`. -/
def verifyPassword (checkpw : CheckPassword) (password passwordHash : Text) : Bool :=
  (checkpw (utf8 password) (utf8 passwordHash)).getD false

structure LoginRequest where
  username : Text
  password : Text

structure LoginResponse where
  accessToken      : Text
  tokenType        : String := "bearer"
  expiresInSeconds : ℤ
  username         : Text

def microsecondsPerMinute : ℤ := 60000000

/-- `request.username or "local"`. -/
def localUsername (request : LoginRequest) : Text := (nonempty (some request.username)).getD "local".toList

variable (L : SecurityLibrary)

/-- A response with a new token. -/
def respond (now : ℤ) (settings : AccountSettings) (username secret : Text) : Except RouteError LoginResponse :=
  match createAccessToken L now username secret (settings.appAuthTokenExpireMinutes * microsecondsPerMinute) with
  | .error e => .error (.raised e)
  | .ok accessToken =>
      .ok { accessToken, expiresInSeconds := settings.appAuthTokenExpireMinutes * 60, username }

/-- `login`. Without authentication everybody gets a token. -/
def login (checkpw : CheckPassword) (now : ℤ) (settings : AccountSettings) (request : LoginRequest) :
    Except RouteError LoginResponse :=
  if ¬ settings.appAuthEnabled then
    respond L now settings (localUsername request)
      ((nonempty settings.appAuthJwtSecret).getD "local-dev-auth-disabled".toList)
  else do
    let keys ← validateAuthSettings settings
    refuseIf (request.username ≠ keys.username ∨ verifyPassword checkpw request.password keys.passwordHash = false)
      (.authentication "Invalid username or password.")
    respond L now settings keys.username keys.jwtSecret

/-! ## Me -/

structure AuthMeResponse where
  authEnabled   : Bool
  authenticated : Bool
  username      : Option Text
  deriving DecidableEq

/-- `me`. -/
def me (now : ℤ) (settings : AccountSettings) (authorization : Option Text) : Except RouteError AuthMeResponse :=
  if ¬ settings.appAuthEnabled then .ok ⟨false, true, none⟩
  else do
    let keys ← validateAuthSettings settings
    match bearerToken authorization with
    | none       => .error (.authentication "Authentication token is missing.")
    | some token =>
        match verifyAccessToken L now token keys.jwtSecret keys.username with
        | .ok username            => .ok ⟨true, true, some username⟩
        | .error (.authToken _)   => .error (.authentication "Authentication token is invalid.")
        | .error e                => .error (.raised e)

end TradingAI
