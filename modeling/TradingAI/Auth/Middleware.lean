import TradingAI.Auth.Security

/-!
# `Auth.Middleware` — the check in front of the API

`enforce_single_account_auth` lets a request pass that needs no token or has a valid one. It answers the others
itself, and catches only an `AuthTokenError`.
-/

namespace TradingAI

structure AuthSettings where
  appAuthEnabled   : Bool
  appAuthUsername  : Option Text
  appAuthJwtSecret : Option Text

structure ApiRequest where
  method        : String
  path          : String
  authorization : Option Text

/-- How the middleware ends: the request goes on, it is answered with a 401, or an exception leaves. -/
inductive Passage
  | callNext
  | authErrorResponse (message : String)
  | raised (e : SecurityError)
  deriving DecidableEq

def publicApiPaths : List String := ["/api/v1/health", "/api/v1/auth/login", "/api/v1/auth/me"]

/-- `x or None`. -/
def nonempty (s : Option Text) : Option Text := s.filter (· ≠ [])

/-- `_bearer_token`. -/
def bearerToken (authorization : Option Text) : Option Text :=
  (nonempty authorization).bind fun authorization =>
    if "Bearer ".toList.isPrefixOf authorization then
      nonempty (some (DecimalText.strip (authorization.drop "Bearer ".length)))
    else none

/-- The requests for which no token is looked at. -/
def isExempt (settings : AuthSettings) (request : ApiRequest) : Bool :=
  ¬ settings.appAuthEnabled ∨ request.method = "OPTIONS"
    ∨ ¬ "/api/v1".toList.isPrefixOf request.path.toList ∨ request.path ∈ publicApiPaths

def enforceSingleAccountAuth (L : SecurityLibrary) (now : ℤ) (settings : AuthSettings) (request : ApiRequest) :
    Passage :=
  if isExempt settings request then .callNext
  else
    match bearerToken request.authorization, nonempty settings.appAuthUsername, nonempty settings.appAuthJwtSecret with
    | some token, some username, some secret =>
        match verifyAccessToken L now token secret username with
        | .ok _                   => .callNext
        | .error (.authToken _)   => .authErrorResponse "Authentication token is invalid."
        | .error e                => .raised e
    | _, _, _ => .authErrorResponse "Authentication token is missing."

end TradingAI
