import TradingAI.Domain.Values
import TradingAI.Lib.Base64
import TradingAI.Lib.JsonText

/-!
# `Auth.Security` — access tokens

A token has three segments with dots between them: a header, a payload and the signature of these two. All are
base64 without padding; header and payload are JSON.

A text is a list of characters, a datetime counts microseconds from `datetime.min`. The hash, the JSON decoder
and the float a datetime has for a timestamp come from libraries (`SecurityLibrary`).

## Contents
- `SecurityLibrary`, `SecurityError`.
- `base64urlEncode`, `base64urlDecode`, `base64urlJson`, `base64urlJsonDecode`.
- `createAccessToken`, `verifyAccessToken`.
-/

namespace TradingAI

open Json Outcome

abbrev Text := List Char

/-- `str.encode("utf-8")`. -/
def utf8 (s : Text) : List UInt8 := s.flatMap String.utf8EncodeChar

/-! ## What the libraries do -/

/-- `hmac` with `sha256`, `json.loads` of bytes, and `datetime.timestamp`. -/
structure SecurityLibrary where
  hmacSha256 : List UInt8 → List UInt8 → List UInt8
  loads      : List UInt8 → Except Failure Json.Value
  timestamp  : ℤ → ℚ
  /-- What `json.dumps` writes is decoded. -/
  loads_dumps {entries : List (Text × Scalar)} (hkeys : (entries.map (·.1)).Nodup)
    (hentries : ∀ e ∈ entries, e.2.Readable) :
    loads (utf8 (dumps entries)) = .ok (.dict ((sortKeys entries).map entryOf))
  /-- Seconds from 1970, for the years 1 to 9999. -/
  timestamp_bounds {t : ℤ} (ht : 0 ≤ t ∧ t < datetimeEnd) : |timestamp t| ≤ 253402300800

/-- The exceptions of this module: `AuthTokenError`, and three of the language. -/
inductive SecurityError
  | authToken (message : String)
  | unicodeEncode
  | recursion
  | overflow
  deriving DecidableEq

/-- `str.encode("ascii")`. -/
def encodeAscii (s : Text) : Except SecurityError (List UInt8) :=
  if s.all isAscii then .ok (s.map fun c => .ofNat c.toNat) else .error .unicodeEncode

theorem encodeAscii_eq_ok {s : Text} (h : s.all isAscii) : ∃ bytes, encodeAscii s = .ok bytes :=
  ⟨_, if_pos h⟩

/-! ## Segments -/

def base64urlEncode (value : List UInt8) : Text := Base64.stripPadding (Base64.encode value)

/-- The library raises a `ValueError` for what is not ASCII, and for what ends in between. -/
def base64urlDecode (value : Text) : Except SecurityError (List UInt8) :=
  let padded := Base64.restorePadding value
  match if padded.all isAscii then Base64.decode padded else none with
  | some bytes => .ok bytes
  | none       => .error (.authToken "Token segment is invalid.")

/-- Decoding ends in bytes or in one `AuthTokenError`. -/
theorem base64urlDecode_cases (value : Text) :
    (∃ bytes, base64urlDecode value = .ok bytes)
      ∨ base64urlDecode value = .error (.authToken "Token segment is invalid.") := by
  unfold base64urlDecode
  dsimp only
  split
  · exact .inl ⟨_, rfl⟩
  · exact .inr rfl

theorem mem_alphabet_of_mem_base64urlEncode {value : List UInt8} {c : Char} (h : c ∈ base64urlEncode value) :
    c ∈ Base64.alphabet :=
  Base64.mem_alphabet_of_mem_stripPadding h

theorem isAscii_of_mem_base64urlEncode {value : List UInt8} {c : Char} (h : c ∈ base64urlEncode value) :
    isAscii c := by
  have hall : Base64.alphabet.all isAscii = true := by decide
  exact List.all_eq_true.mp hall c (mem_alphabet_of_mem_base64urlEncode h)

theorem dot_not_mem_base64urlEncode (value : List UInt8) : '.' ∉ base64urlEncode value := by
  intro h
  exact absurd (mem_alphabet_of_mem_base64urlEncode h) (by decide)

/-- **A segment is decoded to the bytes it was made of.** -/
theorem base64urlDecode_encode (value : List UInt8) : base64urlDecode (base64urlEncode value) = .ok value := by
  have hpadded : Base64.restorePadding (base64urlEncode value) = Base64.encode value :=
    Base64.restorePadding_stripPadding value
  have hascii : (Base64.encode value).all isAscii := by
    rw [← hpadded, Base64.restorePadding, List.all_append, Bool.and_eq_true]
    refine ⟨List.all_eq_true.mpr fun c hc => isAscii_of_mem_base64urlEncode hc, ?_⟩
    rw [List.all_eq_true]
    intro c hc
    rw [List.eq_of_mem_replicate hc]
    decide
  simp only [base64urlDecode, hpadded, hascii, if_true, Base64.decode_encode]

def base64urlJson (payload : List (Text × Scalar)) : Text := base64urlEncode (utf8 (dumps payload))

variable (L : SecurityLibrary)

/-- A `RecursionError` is no `ValueError`; the other failures of the decoder are. -/
def base64urlJsonDecode (value : Text) : Except SecurityError (List (Text × Json.Value)) := do
  let decoded ← base64urlDecode value
  match L.loads decoded with
  | .ok (.dict payload) => .ok payload
  | .error .recursion   => .error .recursion
  | _                   => .error (.authToken "Token payload is invalid.")

/-! ## Tokens -/

/-- `datetime + timedelta`. -/
def addDelta (t delta : ℤ) : Except SecurityError ℤ :=
  if 0 ≤ t + delta ∧ t + delta < datetimeEnd then .ok (t + delta) else .error .overflow

/-- `header`. -/
def tokenHeader : List (Text × Scalar) := [("alg".toList, .str "HS256".toList), ("typ".toList, .str "JWT".toList)]

/-- `payload`. -/
def tokenPayload (username : Text) (exp : ℤ) : List (Text × Scalar) :=
  [("sub".toList, .str username), ("exp".toList, .int exp)]

def createAccessToken (now : ℤ) (username secret : Text) (expiresDelta : ℤ) : Except SecurityError Text := do
  let expiresAt ← addDelta now expiresDelta
  let encodedHeader := base64urlJson tokenHeader
  let encodedPayload := base64urlJson (tokenPayload username (Rounding.truncate (L.timestamp expiresAt)))
  let signingInput ← encodeAscii (encodedHeader ++ '.' :: encodedPayload)
  let signature := L.hmacSha256 (utf8 secret) signingInput
  .ok (encodedHeader ++ '.' :: encodedPayload ++ '.' :: base64urlEncode signature)

/-- `username != expected_username`, negated. -/
def isText (username : Json.Value) (expectedUsername : Text) : Bool :=
  match username with
  | .str s => s = expectedUsername
  | _      => false

/-- The number of an `int`. A `bool` is an `int`. -/
def asInt : Json.Value → Option ℤ
  | .int n      => some n
  | .bool true  => some 1
  | .bool false => some 0
  | _           => none

def verifyAccessToken (now : ℤ) (token secret expectedUsername : Text) : Except SecurityError Text :=
  match token.splitOn '.' with
  | [header, payload, signature] => do
      let signingInput ← encodeAscii (header ++ '.' :: payload)
      let expectedSignature := L.hmacSha256 (utf8 secret) signingInput
      let signature ← base64urlDecode signature
      refuseIf (signature ≠ expectedSignature) (.authToken "Invalid token signature.")
      let payload ← base64urlJsonDecode L payload
      let username := get payload "sub"
      let expiresAt := get payload "exp"
      refuseIf (¬ isText username expectedUsername) (.authToken "Token subject is not allowed.")
      match asInt expiresAt with
      | none => .error (.authToken "Token expiry is missing.")
      | some expiresAt => do
          refuseIf ((expiresAt : ℚ) ≤ L.timestamp now) (.authToken "Token expired.")
          .ok expectedUsername
  | _ => .error (.authToken "Malformed token.")

/-! ## A library for ASCII -/

theorem utf8_of_ascii {s : Text} (h : ∀ c ∈ s, isAscii c) : utf8 s = s.map fun c => UInt8.ofNat c.toNat := by
  induction s with
  | nil => rfl
  | cons c s ih =>
      rw [List.forall_mem_cons] at h
      obtain ⟨hc, hs⟩ := h
      have hle : c.val.toNat ≤ 0x7f := by
        have hlt : c.toNat < 128 := of_decide_eq_true hc
        have heq : c.val.toNat = c.toNat := rfl
        omega
      have hchar : String.utf8EncodeChar c = [UInt8.ofNat c.toNat] := if_pos hle
      have hcons : utf8 (c :: s) = String.utf8EncodeChar c ++ utf8 s := rfl
      rw [hcons, hchar, ih hs]
      rfl

/-- A decoder of JSON, applied to ASCII. -/
def asciiLoads (D : Decoder) (bytes : List UInt8) : Except Failure Json.Value :=
  if bytes.all (· < 128) then Json.loads D (bytes.map fun b => Char.ofNat b.toNat) else .error .decodeError

theorem asciiLoads_utf8 (D : Decoder) {s : Text} (h : ∀ c ∈ s, isAscii c) : asciiLoads D (utf8 s) = Json.loads D s := by
  have hlt : ∀ c ∈ s, c.toNat < 128 := fun c hc => of_decide_eq_true (h c hc)
  have hall : (utf8 s).all (· < 128) := by
    rw [utf8_of_ascii h, List.all_map, List.all_eq_true]
    intro c hc
    have := hlt c hc
    have hbound : (128 : UInt8).toNat = 128 := rfl
    simp only [Function.comp_apply, decide_eq_true_eq, UInt8.lt_iff_toNat_lt, UInt8.toNat_ofNat', hbound]
    omega
  have hback : (utf8 s).map (fun b => Char.ofNat b.toNat) = s := by
    rw [utf8_of_ascii h, List.map_map]
    conv_rhs => rw [← List.map_id s]
    apply List.map_congr_left
    intro c hc
    have hmod : c.toNat % 2 ^ 8 = c.toNat := Nat.mod_eq_of_lt (by have := hlt c hc; omega)
    rw [Function.comp_apply, UInt8.toNat_ofNat', hmod, Char.ofNat_toNat, id]
  rw [asciiLoads, if_pos hall, hback]

/-- Timestamps without rounding, JSON of ASCII, and any hash. -/
def SecurityLibrary.ofAscii (D : Decoder) (hlimit : 0 < D.recursionLimit)
    (hash : List UInt8 → List UInt8 → List UInt8) : SecurityLibrary where
  hmacSha256 := hash
  loads      := asciiLoads D
  timestamp t := t / 1000000 - 62135596800
  loads_dumps hkeys hentries := by
    rw [asciiLoads_utf8 D fun c hc => dumps_ascii hc]
    exact Json.loads_dumps hlimit hkeys hentries
  timestamp_bounds := by
    rintro t ⟨h0, hend⟩
    have hlow : (0 : ℚ) ≤ t := by exact_mod_cast h0
    have hhigh : (t : ℚ) < 315537897600000000 := by exact_mod_cast hend
    rw [abs_le]
    constructor <;> linarith

end TradingAI
