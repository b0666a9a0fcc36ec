/-
What sealing keeps. A sealed state unseals to the same data and issue time as
long as its envelope nests less deeply than the JSON parser's bound
(`unseal_seal`); past it the cookie seals but never opens again
(`unseal_deep`). A chain of unseal, change and seal keeps the issue time of
its first envelope, which is what bounds its lifetime.
-/
import Tunnelbana.Basis.Run
import Tunnelbana.Core.Seal

namespace Tunnelbana

open Basis

/-! ## The envelope's text -/

theorem fromUTF8_utf8 (s : String) : String.fromUTF8? ⟨(Envelope.utf8 s).toArray⟩ = some s := by
  have hbytes : (⟨(Envelope.utf8 s).toArray⟩ : ByteArray) = s.toByteArray := by simp [Envelope.utf8]
  rw [hbytes, String.fromUTF8?, dif_pos s.isValidUTF8]
  rfl

/-- An issue time and data a JSON text can carry. -/
structure Envelope.Valid (e : Envelope) : Prop where
  version : e.v < 256
  iat : e.iat < 2 ^ 64
  data : Json.Valid (.obj e.data)

theorem valid_num {n : Nat} (h : n < 2 ^ 64) : Json.Valid (.num n) := by
  simp only [Json.Valid]
  omega

theorem Envelope.Valid.toJson {e : Envelope} (h : e.Valid) : e.toJson.Valid := by
  have hkeys : Assoc.Distinct [("v", Json.num e.v), ("iat", .num e.iat), ("data", .obj e.data)] := by
    simp [Assoc.Distinct, Assoc.keys]
  refine Json.valid_obj.mpr ⟨hkeys, fun p hp => ?_⟩
  simp only [List.mem_cons, List.not_mem_nil, or_false] at hp
  rcases hp with rfl | rfl | rfl
  · exact valid_num (by have := h.version; omega)
  · exact valid_num h.iat
  · exact h.data

theorem asU64_num {n : Nat} (h : n < 2 ^ 64) : Json.asU64 (.num n) = some n := by
  rw [Json.asU64, if_pos (by omega), Int.toNat_natCast]

theorem asU8_num {n : Nat} (h : n < 256) : Envelope.asU8 (.num n) = some n := by
  rw [Envelope.asU8, asU64_num (by omega), Option.filter_some, if_pos (by simpa using h)]

theorem fromFields_eq {e : Envelope} {v iat data : Json} (hv : Envelope.asU8 v = some e.v)
    (hiat : iat.asU64 = some e.iat) (hdata : data.merged.asObject = some e.data) :
    Envelope.fromFields [("v", v), ("iat", iat), ("data", data)] = some e := by
  have h₁ : Envelope.once "v" [("v", v), ("iat", iat), ("data", data)] = some v := rfl
  have h₂ : Envelope.once "iat" [("v", v), ("iat", iat), ("data", data)] = some iat := rfl
  have h₃ : Envelope.once "data" [("v", v), ("iat", iat), ("data", data)] = some data := rfl
  simp only [Envelope.fromFields, h₁, h₂, h₃, Option.bind_some, Option.bind_eq_bind, hv, hiat,
    Function.comp_apply, hdata]
  rfl

theorem fromFields_toJson {e : Envelope} (h : e.Valid) :
    Envelope.fromFields [("v", .num e.v), ("iat", .num e.iat), ("data", .obj e.data)] = some e := by
  have hdata : (Json.merged (.obj e.data)).asObject = some e.data := by
    rw [Json.merged_of_valid _ h.data, Json.asObject_obj]
  exact fromFields_eq (asU8_num h.version) (asU64_num h.iat) hdata

/-- **An envelope reads back exactly when its nesting is below the bound.** -/
theorem fromSlice_toVec {e : Envelope} (h : e.Valid) :
    Envelope.fromSlice e.toVec = if e.toJson.depth < Json.defaultDepth then some e else none := by
  have hparse := Json.parse_render e.toJson h.toJson
  by_cases hd : e.toJson.depth < Json.defaultDepth
  · rw [if_pos hd] at hparse
    simp only [Envelope.fromSlice, Envelope.toVec, fromUTF8_utf8, Option.bind_eq_bind, Option.bind_some,
      hparse, if_pos hd]
    exact fromFields_toJson h
  · rw [if_neg hd] at hparse
    simp only [Envelope.fromSlice, Envelope.toVec, fromUTF8_utf8, Option.bind_eq_bind, Option.bind_some,
      hparse, if_neg hd]

/-! ## One seal and one unseal -/

theorem openToken_of_mem {c : Crypto} (hc : c.Lawful) {key nonce p : Bytes} {token : String}
    (henc : c.encrypt key nonce p = .ok token) {keys : List Bytes} (hkey : key ∈ keys) :
    StateSealer.openToken c token keys = some p := by
  induction keys with
  | nil => cases hkey
  | cons k keys ih =>
    by_cases hk : k = key
    · subst hk
      simp only [StateSealer.openToken, hc.decrypt_encrypt k nonce p token henc]
    · obtain ⟨e, he⟩ := hc.decrypt_other key k nonce p token henc hk
      have hmem : key ∈ keys := by
        rcases List.mem_cons.mp hkey with h | h
        · exact absurd h.symm hk
        · exact h
      simp only [StateSealer.openToken, he, ih hmem]

theorem seal_eq_ok {c : Crypto} {s : StateSealer} {now : Nat} {nonce : Bytes} {state : State}
    {cookie : SetCookie} (hdel : state.delete = false) (h : s.seal c now nonce state = .ok cookie) :
    ∃ plaintext token, plaintextOf c (StateSealer.envelope now state).toVec = .ok plaintext ∧
      c.encrypt (s.keys.headD []) nonce plaintext = .ok token ∧
      cookie = s.cookieHeader token (s.ttlSeconds.map fun ttl => asI64 (StateSealer.remaining now ttl state)) := by
  simp only [StateSealer.seal, hdel, Bool.false_eq_true, if_false] at h
  split at h
  · cases h
  next plaintext hp =>
    split at h
    · cases h
    next token ht =>
      split at h
      · cases h
      · exact ⟨plaintext, token, hp, ht, (Except.ok.inj h).symm⟩

theorem plaintextOf_eq_ok {c : Crypto} {json plaintext : Bytes} (h : plaintextOf c json = .ok plaintext) :
    ∃ z, c.deflate json = .ok z ∧ plaintext = PLAINTEXT_TAG_DEFLATE :: z ∧
      json.length ≤ MAX_INFLATED_BYTES := by
  simp only [plaintextOf] at h
  split at h
  · cases h
  next hlen =>
    simp only [compressEnvelope] at h
    split at h
    next z hz => exact ⟨z, hz, (Except.ok.inj h).symm, by omega⟩
    · cases h

/-- A sealed plaintext decodes to the JSON it was made of. -/
theorem plaintextJson_of {c : Crypto} (hc : c.Lawful) {json plaintext : Bytes}
    (h : plaintextOf c json = .ok plaintext) : StateSealer.plaintextJson c plaintext = .ok json := by
  obtain ⟨z, hz, rfl, hlen⟩ := plaintextOf_eq_ok h
  have hinf := hc.inflate_deflate (MAX_INFLATED_BYTES + 1) json z hz
  have htake : json.take (MAX_INFLATED_BYTES + 1) = json := List.take_of_length_le (by omega)
  have hnot : ¬ MAX_INFLATED_BYTES < json.length := by omega
  rw [StateSealer.plaintextJson, if_neg (by decide), if_pos rfl]
  simp only [inflateEnvelope, hinf, htake, hnot, if_false]

theorem plaintextJson_legacy (c : Crypto) {json : Bytes} (h : json.head? = some 0x7b) :
    StateSealer.plaintextJson c json = .ok json := by
  cases json with
  | nil => cases h
  | cons b rest =>
    simp only [List.head?_cons, Option.some.injEq] at h
    rw [StateSealer.plaintextJson, if_pos h]

/-- Legacy and compressed forms of one JSON decode alike. -/
theorem decodeEnvelope_legacy {c : Crypto} (hc : c.Lawful) (s : StateSealer) (now : Nat)
    {json plaintext : Bytes} (hlegacy : json.head? = some 0x7b) (h : plaintextOf c json = .ok plaintext) :
    s.decodeEnvelope c now plaintext = s.decodeEnvelope c now json := by
  simp only [StateSealer.decodeEnvelope, StateSealer.readEnvelope, plaintextJson_of hc h,
    plaintextJson_legacy c hlegacy]

/-- A state a JSON text can carry, sealed by a 64-bit clock. -/
structure State.Storable (s : State) : Prop where
  data : Json.Valid (.obj s.data)
  issuedAt : ∀ t, s.issuedAt = some t → t < 2 ^ 64

theorem State.Storable.envelope {s : State} (h : s.Storable) {now : Nat} (hnow : now < 2 ^ 64) :
    (StateSealer.envelope now s).Valid := by
  refine ⟨by simp [StateSealer.envelope, ENVELOPE_VERSION], ?_, h.data⟩
  simp only [StateSealer.envelope, StateSealer.sealedAt]
  cases hi : s.issuedAt with
  | none => exact hnow
  | some t => exact h.issuedAt t hi

/-- What unsealing a sealed cookie amounts to: reading the envelope back. -/
theorem unseal_of_seal {c : Crypto} (hc : c.Lawful) {s₁ s₂ : StateSealer}
    (hkey : s₁.keys.headD [] ∈ s₂.keys) {state : State} (hdel : state.delete = false) {now now' : Nat}
    {nonce : Bytes} {cookie : SetCookie} (h : s₁.seal c now nonce state = .ok cookie) :
    s₂.unseal c now' (some cookie.value)
      = match Envelope.fromSlice (StateSealer.envelope now state).toVec with
        | none => State.new
        | some e =>
          if e.v ≠ ENVELOPE_VERSION then State.new
          else if s₂.fresh now' e.iat then { data := e.data, issuedAt := some e.iat, delete := false }
          else State.new := by
  obtain ⟨plaintext, token, hplain, henc, rfl⟩ := seal_eq_ok hdel h
  have hne := hc.token_ne_empty _ _ _ _ henc
  have hopen := openToken_of_mem hc henc hkey
  have hread : s₂.unseal c now' (some token) = StateSealer.decodeEnvelope c s₂ now' plaintext := by
    simp only [StateSealer.unseal, hne, if_false, hopen]
  have henvelope : StateSealer.readEnvelope c plaintext =
      Envelope.fromSlice (StateSealer.envelope now state).toVec := by
    simp only [StateSealer.readEnvelope, plaintextJson_of hc hplain]
  show s₂.unseal c now' (some token) = _
  rw [← henvelope, hread]
  rfl

/-- A token opens under its own key or not at all. -/
theorem openToken_sound {c : Crypto} (hc : c.Lawful) {key nonce p p' : Bytes} {token : String}
    (henc : c.encrypt key nonce p = .ok token) {keys : List Bytes}
    (h : StateSealer.openToken c token keys = some p') : key ∈ keys := by
  induction keys with
  | nil => cases h
  | cons k keys ih =>
    by_cases hk : k = key
    · exact hk ▸ List.mem_cons_self
    · obtain ⟨e, he⟩ := hc.decrypt_other key k nonce p token henc hk
      simp only [StateSealer.openToken, he] at h
      exact List.mem_cons_of_mem _ (ih h)

/-- What a request reads at `later` from the cookie a state was sealed into at
`now`: the state while its lifetime lasts, unless the JSON of its envelope nests
too deeply to be read back, and a fresh one otherwise. -/
def StateSealer.reread (s : StateSealer) (now : Nat) (state : State) (later : Nat) : State :=
  if (envelope now state).toJson.depth ≤ 127 ∧ s.fresh later (sealedAt now state) = true then
    { data := state.data, issuedAt := some (sealedAt now state), delete := false }
  else State.new

/-- A sealer without the key reads nothing. -/
theorem unseal_foreign {c : Crypto} (hc : c.Lawful) {s₁ s₂ : StateSealer} (hkey : s₁.keys.headD [] ∉ s₂.keys)
    {state : State} (hdel : state.delete = false) {now now' : Nat} {nonce : Bytes} {cookie : SetCookie}
    (h : s₁.seal c now nonce state = .ok cookie) : s₂.unseal c now' (some cookie.value) = State.new := by
  obtain ⟨plaintext, token, _, henc, rfl⟩ := seal_eq_ok hdel h
  have hnone : StateSealer.openToken c token s₂.keys = none := by
    cases ho : StateSealer.openToken c token s₂.keys with
    | none => rfl
    | some p => exact absurd (openToken_sound hc henc ho) hkey
  show s₂.unseal c now' (some token) = _
  simp only [StateSealer.unseal, hnone]
  split <;> rfl

section
variable {c : Crypto} (hc : c.Lawful) {s₁ s₂ : StateSealer} {state : State} (hstate : state.Storable)
  (hdel : state.delete = false) {now now' : Nat} (hnow : now < 2 ^ 64) {nonce : Bytes} {cookie : SetCookie}
  (h : s₁.seal c now nonce state = .ok cookie)
include hc hstate hdel hnow h

/-- Below the nesting bound the state comes back, inside the window. -/
theorem unseal_seal (hkey : s₁.keys.headD [] ∈ s₂.keys)
    (hdepth : (StateSealer.envelope now state).toJson.depth < Json.defaultDepth) :
    s₂.unseal c now' (some cookie.value)
      = if s₂.fresh now' (StateSealer.sealedAt now state) then
          { data := state.data, issuedAt := some (StateSealer.sealedAt now state), delete := false }
        else State.new := by
  rw [unseal_of_seal hc hkey hdel h, fromSlice_toVec (hstate.envelope hnow), if_pos hdepth]
  simp only [StateSealer.envelope, ne_eq, not_true_eq_false, if_false]
  rfl

/-- Nested past the bound, a sealed state never comes back. -/
theorem unseal_deep (hkey : s₁.keys.headD [] ∈ s₂.keys)
    (hdepth : ¬ (StateSealer.envelope now state).toJson.depth < Json.defaultDepth) :
    s₂.unseal c now' (some cookie.value) = State.new := by
  rw [unseal_of_seal hc hkey hdel h, fromSlice_toVec (hstate.envelope hnow), if_neg hdepth]

/-- **What a sealer that holds the key reads.** -/
theorem unseal_eq_reread (hkey : s₁.keys.headD [] ∈ s₂.keys) :
    s₂.unseal c now' (some cookie.value) = s₂.reread now state now' := by
  unfold StateSealer.reread
  by_cases hdepth : (StateSealer.envelope now state).toJson.depth ≤ 127
  · rw [unseal_seal hc hstate hdel hnow h hkey (Nat.lt_succ_of_le hdepth)]
    simp only [hdepth, true_and]
  · have hdeep : ¬ (StateSealer.envelope now state).toJson.depth < Json.defaultDepth :=
      fun hlt => hdepth (Nat.le_of_lt_succ hlt)
    rw [unseal_deep hc hstate hdel hnow h hkey hdeep, if_neg fun hboth => hdepth hboth.1]

/-- Whatever keys the next sealer holds, it reads a fresh state or, inside the
window, what was sealed. -/
theorem unseal_cases : s₂.unseal c now' (some cookie.value) = State.new ∨
    (s₂.fresh now' (StateSealer.sealedAt now state) = true ∧ s₂.unseal c now' (some cookie.value)
      = { data := state.data, issuedAt := some (StateSealer.sealedAt now state), delete := false }) := by
  by_cases hkey : s₁.keys.headD [] ∈ s₂.keys
  · rw [unseal_eq_reread hc hstate hdel hnow h hkey]
    unfold StateSealer.reread
    split
    next hboth => exact .inr ⟨hboth.2, rfl⟩
    next => exact .inl rfl
  · exact .inl (unseal_foreign hc hkey hdel h)

end

/-! ## A crypto to run with -/

/-- A byte as a letter, of the 256 from `Ā` on. -/
def charOf (b : UInt8) : Char := Char.ofNat (256 + b.toNat)

def byteOf (x : Char) : UInt8 := UInt8.ofNat x.toNat

/-- The key beside the plaintext, a letter a byte; nothing is compressed. It
opens and refuses tokens exactly as an AEAD does. -/
def plainCrypto : Crypto where
  deriveKey := Envelope.utf8
  encrypt := fun key _ p => .ok (String.ofList (key.map charOf ++ '→' :: p.map charOf))
  decrypt := fun key token =>
    if token.toList.takeWhile (· ≠ '→') = key.map charOf then
      .ok (((token.toList.dropWhile (· ≠ '→')).drop 1).map byteOf)
    else .error "decryption failed"
  deflate := .ok
  inflate := fun n z => .ok (z.take n)

theorem byteOf_charOf (b : UInt8) : byteOf (charOf b) = b := by
  have hchar : ∀ n < 256, UInt8.ofNat (Char.ofNat (256 + n)).toNat = UInt8.ofNat n := by decide +kernel
  rw [byteOf, charOf, hchar b.toNat b.toNat_lt, UInt8.ofNat_toNat]

theorem map_byteOf_charOf (bs : Bytes) : (bs.map charOf).map byteOf = bs := by
  simp [Function.comp_def, byteOf_charOf]

theorem ne_arrow_of_mem {bs : Bytes} {x : Char} (h : x ∈ bs.map charOf) : x ≠ '→' := by
  have hchar : ∀ n < 256, Char.ofNat (256 + n) ≠ '→' := by decide +kernel
  obtain ⟨b, _, rfl⟩ := List.mem_map.mp h
  exact hchar b.toNat b.toNat_lt

theorem takeWhile_chars (key p : Bytes) :
    (key.map charOf ++ '→' :: p.map charOf).takeWhile (· ≠ '→') = key.map charOf := by
  rw [List.takeWhile_append_of_pos (by intro x hx; simpa using ne_arrow_of_mem hx)]
  simp

theorem dropWhile_chars (key p : Bytes) :
    (key.map charOf ++ '→' :: p.map charOf).dropWhile (· ≠ '→') = '→' :: p.map charOf := by
  rw [List.dropWhile_append_of_pos (by intro x hx; simpa using ne_arrow_of_mem hx)]
  simp

theorem plainCrypto_lawful : plainCrypto.Lawful where
  decrypt_encrypt := by
    intro key nonce p token h
    simp only [plainCrypto, Except.ok.injEq] at h
    subst h
    simp only [plainCrypto, String.toList_ofList, takeWhile_chars, dropWhile_chars, if_true,
      List.drop_succ_cons, List.drop_zero, map_byteOf_charOf]
  decrypt_other := by
    intro key key' nonce p token h hne
    simp only [plainCrypto, Except.ok.injEq] at h
    subst h
    have hkeys : key.map charOf ≠ key'.map charOf := by
      intro he
      have := congrArg (List.map byteOf) he
      rw [map_byteOf_charOf, map_byteOf_charOf] at this
      exact hne this.symm
    exact ⟨_, by simp only [plainCrypto, String.toList_ofList, takeWhile_chars, hkeys, if_false]; rfl⟩
  token_ne_empty := by
    intro key nonce p token h
    simp only [plainCrypto, Except.ok.injEq] at h
    subst h
    intro he
    have := congrArg String.toList he
    simp at this
  inflate_deflate := by
    intro n x z h
    simp only [plainCrypto, Except.ok.injEq] at h
    subst h
    rfl

/-! ## The round trip -/

/-- **A sealed state unseals to its data and issue time exactly when its envelope
nests at most 127 levels deep**, for every sealer that holds the sealing key
and inside the TTL and skew window. A legacy plaintext decodes as the
compressed form of the same JSON does. -/
theorem unseal_seal_iff (c : Crypto) (hc : c.Lawful) (s₁ s₂ : StateSealer)
    (hkey : s₁.keys.headD [] ∈ s₂.keys) (state : State) (hstate : state.Storable)
    (hdel : state.delete = false) (now now' : Nat) (hnow : now < 2 ^ 64) (nonce : Bytes) (cookie : SetCookie)
    (hseal : s₁.seal c now nonce state = .ok cookie)
    (hfresh : s₂.fresh now' (StateSealer.sealedAt now state) = true) :
    (s₂.unseal c now' (some cookie.value)
        = { data := state.data, issuedAt := some (StateSealer.sealedAt now state), delete := false } ↔
      (StateSealer.envelope now state).toJson.depth ≤ 127) ∧
    ∀ json plaintext, json.head? = some 0x7b → plaintextOf c json = .ok plaintext →
      s₂.decodeEnvelope c now' json = s₂.decodeEnvelope c now' plaintext := by
  refine ⟨⟨fun hround => ?_, fun hdepth => ?_⟩, fun json plaintext hlegacy hplain =>
    (decodeEnvelope_legacy hc s₂ now' hlegacy hplain).symm⟩
  · have hlt : (StateSealer.envelope now state).toJson.depth < Json.defaultDepth := by
      refine Decidable.byContradiction fun hdeep => ?_
      rw [unseal_deep hc hstate hdel hnow hseal hkey hdeep] at hround
      exact absurd (congrArg State.issuedAt hround) (by simp [State.new])
    exact Nat.le_of_lt_succ hlt
  · rw [unseal_seal hc hstate hdel hnow hseal hkey (Nat.lt_succ_of_le hdepth), if_pos hfresh]

def demoSealer : StateSealer := StateSealer.new plainCrypto "secret" "TB_STATE"

def demoState : State := State.new.setStr "ns" "k" "v"

theorem demoState_storable : demoState.Storable := by
  refine ⟨?_, fun t h => by cases h⟩
  simp [demoState, State.new, State.setStr, State.setValue, State.insertField, Assoc.put, Assoc.Distinct,
    Assoc.keys, Json.Valid, Json.ValidFields]

theorem unseal_seal_demo : ∃ cookie,
    demoSealer.seal plainCrypto 1000 [] demoState = .ok cookie ∧
    (demoSealer.unseal plainCrypto 1030 (some cookie.value)).getStr "ns" "k" = some "v" := by
  have hok : (demoSealer.seal plainCrypto 1000 [] demoState).isOk = true := by decide +kernel
  cases hseal : demoSealer.seal plainCrypto 1000 [] demoState with
  | error e => rw [hseal] at hok; cases hok
  | ok cookie =>
    have hround := unseal_seal_iff plainCrypto plainCrypto_lawful demoSealer demoSealer (by decide) demoState
      demoState_storable rfl 1000 1030 (by decide) [] cookie hseal (by decide)
    refine ⟨cookie, rfl, ?_⟩
    rw [hround.1.mpr (by decide)]
    rfl

def nested : Nat → Json
  | 0 => .arr []
  | n + 1 => .arr [nested n]

def deepState : State := State.new.setValue "ns" "k" (nested 124)

theorem nested_valid (n : Nat) : (nested n).Valid := by
  induction n with
  | zero => simp [nested, Json.Valid, Json.ValidItems]
  | succ n ih => simp [nested, Json.Valid, Json.ValidItems, ih]

theorem deepState_storable : deepState.Storable := by
  refine ⟨?_, fun t h => by cases h⟩
  simp [deepState, State.new, State.setValue, State.insertField, Assoc.put, Json.valid_obj, Assoc.Distinct,
    Assoc.keys, nested_valid]

/-- A state nested 128 levels deep seals, and the next request reads nothing. -/
theorem unseal_seal_fails : ∃ cookie, demoSealer.seal plainCrypto 1000 [] deepState = .ok cookie ∧
    deepState.delete = false ∧ deepState.getValue "ns" "k" = some (nested 124) ∧
    (demoSealer.unseal plainCrypto 1000 (some cookie.value)).getValue "ns" "k" = none := by
  have hok : (demoSealer.seal plainCrypto 1000 [] deepState).isOk = true := by decide +kernel
  cases hseal : demoSealer.seal plainCrypto 1000 [] deepState with
  | error e => rw [hseal] at hok; cases hok
  | ok cookie =>
    refine ⟨cookie, rfl, rfl, rfl, ?_⟩
    rw [unseal_deep plainCrypto_lawful deepState_storable rfl (by decide) hseal (by decide) (by decide +kernel)]
    rfl

end Tunnelbana
