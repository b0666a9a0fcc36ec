/-
Sealing the state into a cookie. The envelope carries a version, the issue
time and the state map; its JSON is deflated, tagged and encrypted.

The AEAD, the key derivation and the compressor are parameters (`Crypto`),
with what the sealer relies on in `Crypto.Lawful`. Encryption takes its
random nonce as an argument, and every operation takes the clock.
-/
import Tunnelbana.Basis.JsonText
import Tunnelbana.Core.Message
import Tunnelbana.Core.State

namespace Tunnelbana

open Basis

abbrev Bytes := List UInt8

/-- Default maximum lifetime of a sealed state cookie, in seconds. -/
def DEFAULT_TTL_SECONDS : Nat := 1800

/-- Maximum size of the cookie `name=value` pair. -/
def MAX_COOKIE_BYTES : Nat := 4096

def ENVELOPE_VERSION : Nat := 1

/-- The tag before a deflate-compressed envelope. -/
def PLAINTEXT_TAG_DEFLATE : UInt8 := 0x02

/-- Upper bound on the decompressed envelope. -/
def MAX_INFLATED_BYTES : Nat := 64 * 1024

/-- Accepted clock skew of an issue time ahead of the local clock. -/
def MAX_IAT_SKEW_SECONDS : Nat := 60

def HOST_PREFIX : String := "__Host-"

/-- The libraries under the sealer. `inflate n` reads at most `n` bytes. -/
structure Crypto where
  deriveKey : String → Bytes
  encrypt : Bytes → Bytes → Bytes → Except String String
  decrypt : Bytes → String → Except String Bytes
  deflate : Bytes → Except String Bytes
  inflate : Nat → Bytes → Except String Bytes

/-- The AEAD opens exactly what it sealed, under the same key and no other; a
compact token is not the empty string; inflating undoes deflating. -/
structure Crypto.Lawful (c : Crypto) : Prop where
  decrypt_encrypt : ∀ key nonce p token, c.encrypt key nonce p = .ok token → c.decrypt key token = .ok p
  decrypt_other : ∀ key key' nonce p token, c.encrypt key nonce p = .ok token → key' ≠ key →
    ∃ e, c.decrypt key' token = .error e
  token_ne_empty : ∀ key nonce p token, c.encrypt key nonce p = .ok token → token ≠ ""
  inflate_deflate : ∀ n x z, c.deflate x = .ok z → c.inflate n z = .ok (x.take n)

/-! ## The envelope -/

structure Envelope where
  v : Nat
  iat : Nat
  data : Assoc Json

namespace Envelope

def toJson (e : Envelope) : Json :=
  .obj [("v", .num e.v), ("iat", .num e.iat), ("data", .obj e.data)]

def utf8 (s : String) : Bytes := s.toByteArray.data.toList

def toVec (e : Envelope) : Bytes := utf8 e.toJson.render

/-- One field of a derived deserializer: present exactly once. -/
def once (k : String) (fs : List (String × Json)) : Option Json :=
  match fs.filter (·.1 = k) with
  | [(_, v)] => some v
  | _ => none

def asU8 (v : Json) : Option Nat := v.asU64.filter (· < 256)

/-- Read the fields; unknown ones are ignored. -/
def fromFields (fs : List (String × Json)) : Option Envelope := do
  let v ← (once "v" fs).bind asU8
  let iat ← (once "iat" fs).bind Json.asU64
  let data ← (once "data" fs).bind (Json.asObject ∘ Json.merged)
  return { v, iat, data }

def fromSlice (bytes : Bytes) : Option Envelope := do
  let text ← String.fromUTF8? ⟨bytes.toArray⟩
  match Json.parse text with
  | .ok (.obj fs) => fromFields fs
  | .ok (.arr [v, iat, data]) => fromFields [("v", v), ("iat", iat), ("data", data)]
  | _ => none

end Envelope

def compressEnvelope (c : Crypto) (json : Bytes) : Except Error Bytes :=
  match c.deflate json with
  | .ok z => .ok (PLAINTEXT_TAG_DEFLATE :: z)
  | .error e => .error (.state ("state compression failed: " ++ e))

/-- The plaintext of an envelope's JSON. The inflation cap holds at seal time
too: past it the next unseal would drop the cookie. -/
def plaintextOf (c : Crypto) (json : Bytes) : Except Error Bytes :=
  if MAX_INFLATED_BYTES < json.length then
    .error (.state ("state envelope is " ++ toString json.length ++ " bytes, exceeds the "
      ++ toString MAX_INFLATED_BYTES
      ++ "-byte inflation cap; reduce the amount of state stored in the flow"))
  else compressEnvelope c json

/-- Inflate up to one byte past the cap; landing there is an error. -/
def inflateEnvelope (c : Crypto) (deflated : Bytes) : Except String Bytes :=
  match c.inflate (MAX_INFLATED_BYTES + 1) deflated with
  | .error e => .error e
  | .ok json =>
    if MAX_INFLATED_BYTES < json.length then
      .error ("decompressed state exceeds the " ++ toString MAX_INFLATED_BYTES ++ "-byte cap")
    else .ok json

/-! ## The sealer -/

structure StateSealer where
  /-- `keys[0]` seals; every key is tried on `unseal`. -/
  keys : List Bytes
  rawCookieName : String
  cookieName : String
  secure : Bool
  sameSite : String
  ttlSeconds : Option Nat
  maxCookieBytes : Nat

structure SetCookie where
  name : String
  value : String
  sameSite : String
  secure : Bool
  maxAge : Option Int
deriving DecidableEq, Repr

def asI64 (n : Nat) : Int :=
  if n % 2 ^ 64 < 2 ^ 63 then (n % 2 ^ 64 : Nat) else (n % 2 ^ 64 : Nat) - 2 ^ 64

def SetCookie.header (k : SetCookie) : String :=
  String.intercalate "; " ([k.name ++ "=" ++ k.value, "Path=/", "HttpOnly", "SameSite=" ++ k.sameSite]
    ++ (if k.secure then ["Secure"] else [])
    ++ (match k.maxAge with
        | some age => ["Max-Age=" ++ toString age]
        | none => []))

namespace StateSealer

def stripHost (name : String) : String :=
  if HOST_PREFIX.toList.isPrefixOf name.toList then
    String.ofList (name.toList.drop HOST_PREFIX.toList.length)
  else name

/-- Apply or strip the `__Host-` prefix to match `secure`. -/
def recomputeName (s : StateSealer) : StateSealer :=
  let base := stripHost s.rawCookieName
  { s with cookieName := if s.secure then HOST_PREFIX ++ base else base }

def new (c : Crypto) (secret cookieName : String) : StateSealer :=
  recomputeName
    { keys := [c.deriveKey secret], rawCookieName := cookieName, cookieName, secure := true,
      sameSite := "None", ttlSeconds := some DEFAULT_TTL_SECONDS, maxCookieBytes := MAX_COOKIE_BYTES }

def withSecure (s : StateSealer) (secure : Bool) : StateSealer := recomputeName { s with secure }

def withSameSite (s : StateSealer) (sameSite : String) : StateSealer := { s with sameSite }

/-- A zero TTL is none. -/
def withTtlSeconds (s : StateSealer) (ttl : Option Nat) : StateSealer :=
  { s with ttlSeconds := ttl.filter (0 < ·) }

/-- Decryption-only secrets; empty ones are skipped. -/
def withPreviousSecrets (c : Crypto) (s : StateSealer) (secrets : List String) : StateSealer :=
  { s with keys := s.keys ++ (secrets.filter (· ≠ "")).map c.deriveKey }

/-- The JSON of a decrypted plaintext: bare for a legacy cookie, deflated
behind the tag for a current one. -/
def plaintextJson (c : Crypto) : Bytes → Except String Bytes
  | b :: rest =>
    if b = 0x7b then .ok (b :: rest)
    else if b = PLAINTEXT_TAG_DEFLATE then inflateEnvelope c rest
    else .error "state cookie decrypted but plaintext format unrecognized"
  | [] => .error "state cookie decrypted but plaintext format unrecognized"

/-- The envelope of a decrypted plaintext, before version and freshness. -/
def readEnvelope (c : Crypto) (plaintext : Bytes) : Option Envelope :=
  match plaintextJson c plaintext with
  | .ok json => Envelope.fromSlice json
  | .error _ => none

def fresh (s : StateSealer) (now iat : Nat) : Bool :=
  match s.ttlSeconds with
  | none => true
  | some ttl => iat ≤ now + MAX_IAT_SKEW_SECONDS && now - iat < ttl

/-- Version and freshness; anything wrong is a fresh empty state. -/
def decodeEnvelope (c : Crypto) (s : StateSealer) (now : Nat) (plaintext : Bytes) : State :=
  match readEnvelope c plaintext with
  | none => State.new
  | some e =>
    if e.v ≠ ENVELOPE_VERSION then State.new
    else if s.fresh now e.iat then { data := e.data, issuedAt := some e.iat, delete := false }
    else State.new

/-- The plaintext under the first key that opens the token. -/
def openToken (c : Crypto) (token : String) : List Bytes → Option Bytes
  | [] => none
  | key :: keys =>
    match c.decrypt key token with
    | .ok plaintext => some plaintext
    | .error _ => openToken c token keys

def cookieHeader (s : StateSealer) (value : String) (maxAge : Option Int) : SetCookie :=
  { name := s.cookieName, value, sameSite := s.sameSite, secure := s.secure, maxAge }

def clearCookie (s : StateSealer) : SetCookie := s.cookieHeader "" (some 0)

/-- The issue time a state is sealed with: the one it was unsealed with, so that
the TTL bounds the whole flow. -/
def sealedAt (now : Nat) (state : State) : Nat := state.issuedAt.getD now

def envelope (now : Nat) (state : State) : Envelope :=
  { v := ENVELOPE_VERSION, iat := sealedAt now state, data := state.data }

def remaining (now ttl : Nat) (state : State) : Nat := ttl - (now - sealedAt now state)

end StateSealer

/-- The state of a cookie value; a missing, undecryptable or expired one is a
fresh session. -/
def StateSealer.unseal (c : Crypto) (s : StateSealer) (now : Nat) : Option String → State
  | none => State.new
  | some token =>
    if token = "" then State.new
    else match StateSealer.openToken c token s.keys with
      | some plaintext => s.decodeEnvelope c now plaintext
      | none => State.new

def StateSealer.seal (c : Crypto) (s : StateSealer) (now : Nat) (nonce : Bytes) (state : State) :
    Except Error SetCookie :=
  if state.delete then .ok s.clearCookie
  else match plaintextOf c (StateSealer.envelope now state).toVec with
    | .error e => .error e
    | .ok plaintext =>
      match c.encrypt (s.keys.headD []) nonce plaintext with
      | .error e => .error (.state ("seal failed: " ++ e))
      | .ok token =>
        let pairLen := s.cookieName.utf8ByteSize + 1 + token.utf8ByteSize
        if s.maxCookieBytes < pairLen then
          .error (.state ("sealed state cookie is " ++ toString pairLen ++ " bytes, exceeds the "
            ++ toString s.maxCookieBytes
            ++ " byte limit; reduce the amount of state stored in the flow"))
        else
          .ok (s.cookieHeader token
            (s.ttlSeconds.map fun ttl => asI64 (StateSealer.remaining now ttl state)))

end Tunnelbana
