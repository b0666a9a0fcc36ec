/-
The configuration: references to the environment are replaced before the text is
parsed, and what was parsed is validated. A reference is replaced by its value
and the value is not looked at again (`interpolateEnv_reference`); the first
reference that is not set ends the loading (`interpolateEnv_error`). A
configuration that loads is `Accepted`.
-/
import Mathlib.Data.List.TakeWhile
import Tunnelbana.Basis.Action
import Tunnelbana.Basis.Marks
import Tunnelbana.Basis.Text
import Tunnelbana.Core.Seal

namespace Tunnelbana

open Basis

/-! ## References to the environment -/

def isNameStart (c : Char) : Bool := c.isAlpha || c = '_'

def isNameChar (c : Char) : Bool := c.isAlphanum || c = '_'

/-- A name a reference may have. -/
structure EnvName where
  first : Char
  rest : List Char
  first_ok : isNameStart first = true
  rest_ok : ∀ c ∈ rest, isNameChar c = true

namespace EnvName

def toString (name : EnvName) : String := String.ofList (name.first :: name.rest)

def reference (name : EnvName) : List Char := '$' :: '{' :: name.first :: (name.rest ++ ['}'])

end EnvName

def readReference : List Char → Option (EnvName × List Char)
  | '$' :: '{' :: c :: cs =>
    if hc : isNameStart c = true then
      match cs.dropWhile isNameChar with
      | '}' :: rest =>
        some ({ first := c, rest := cs.takeWhile isNameChar, first_ok := hc, rest_ok := fun _ => List.mem_takeWhile_imp }, rest)
      | _ => none
    else none
  | _ => none

theorem readReference_eq_some {xs : List Char} {name : EnvName} {rest : List Char} :
    readReference xs = some (name, rest) ↔ xs = name.reference ++ rest := by
  constructor
  · intro h
    unfold readReference at h
    split at h
    next c cs =>
      split at h
      next hc =>
        split at h
        next rest' hrest =>
          cases h
          have hsplit := List.takeWhile_append_dropWhile (p := isNameChar) (l := cs)
          rw [hrest] at hsplit
          simp [EnvName.reference, hsplit]
        next => cases h
      next => cases h
    next => cases h
  · rintro rfl
    obtain ⟨c, cs, hc, hcs⟩ := name
    have hstop : isNameChar '}' = false := by decide
    have htake : (cs ++ '}' :: rest).takeWhile isNameChar = cs := by
      rw [List.takeWhile_append_of_pos hcs]
      simp [hstop]
    have hdrop : (cs ++ '}' :: rest).dropWhile isNameChar = '}' :: rest := by
      rw [List.dropWhile_append_of_pos hcs]
      simp [hstop]
    simp [EnvName.reference, readReference, hc, htake, hdrop]

theorem reference_starts (name : EnvName) : ∃ tail, name.reference = '$' :: tail ∧ '$' ∉ tail := by
  refine ⟨_, rfl, ?_⟩
  have hfirst : '$' ≠ name.first := by
    intro he
    have := name.first_ok
    rw [← he] at this
    cases this
  have hrest : '$' ∉ name.rest := fun hmem => absurd (name.rest_ok _ hmem) (by decide)
  simp [hfirst, hrest]

def references : Mark Char EnvName where
  read := readReference
  text := EnvName.reference
  start := '$'
  starts := reference_starts
  read_eq_some := readReference_eq_some

/-- The failure on a reference that is not set. -/
def unsetVariable (name : EnvName) : Error :=
  .config ("environment variable " ++ name.toString ++ " referenced by the configuration is not set")

section
variable (env : String → Option String)

def envVar (name : EnvName) : Except Error String :=
  match env name.toString with
  | some value => .ok value
  | none => .error (unsetVariable name)

/-- Append a piece, a reference by its value. -/
def appendPiece (out : String) : Char ⊕ EnvName → Except Error String
  | .inl c => .ok (out.push c)
  | .inr name => (envVar env name).map (out ++ ·)

/-- Replace the references, from left to right. -/
def interpolateEnv (input : String) : Except Error String :=
  (references.pieces input.toList).foldlM (appendPiece env) ""

/-! ## What interpolation gives -/

variable {env}

def Refers (input : String) (name : EnvName) : Prop := references.Occurs name input.toList

theorem appendPiece_append (out : String) (piece : Char ⊕ EnvName) :
    appendPiece env out piece = (appendPiece env "" piece).map (out ++ ·) := by
  cases piece with
  | inl c =>
    refine congrArg Except.ok (String.toList_injective ?_)
    simp
  | inr name =>
    show (envVar env name).map (out ++ ·) = ((envVar env name).map ("" ++ ·)).map (out ++ ·)
    cases envVar env name <;> simp [Except.map]

theorem appendPieces (pieces : List (Char ⊕ EnvName)) (out : String) :
    pieces.foldlM (appendPiece env) out = (pieces.foldlM (appendPiece env) "").map (out ++ ·) := by
  induction pieces generalizing out with
  | nil => simp [pure, Except.pure, Except.map]
  | cons piece pieces ih =>
    rw [List.foldlM_cons, List.foldlM_cons, appendPiece_append]
    cases appendPiece env "" piece with
    | error e => rfl
    | ok first =>
      show pieces.foldlM (appendPiece env) (out ++ first) = (pieces.foldlM (appendPiece env) first).map (out ++ ·)
      rw [ih (out ++ first), ih first]
      cases pieces.foldlM (appendPiece env) "" with
      | error e => rfl
      | ok rest => simp [Except.map, String.append_assoc]

theorem appendPieces_chars (cs : List Char) (out : String) :
    (cs.map Sum.inl).foldlM (appendPiece env) out = .ok (out ++ String.ofList cs) := by
  induction cs generalizing out with
  | nil => simp [pure, Except.pure]
  | cons c cs ih =>
    rw [List.map_cons, List.foldlM_cons]
    show (cs.map Sum.inl).foldlM (appendPiece env) (out.push c) = _
    rw [ih]
    refine congrArg Except.ok (String.toList_injective ?_)
    simp

/-- **A text without references stays as it is.** -/
theorem interpolateEnv_plain {input : String} (h : ∀ name, ¬ Refers input name) : interpolateEnv env input = .ok input := by
  unfold interpolateEnv
  rw [Mark.pieces_plain h, appendPieces_chars]
  simp

/-- **A reference is replaced by its value**, between what the text before it and
the text behind it become. -/
theorem interpolateEnv_reference (pre post : String) (name : EnvName) :
    interpolateEnv env (pre ++ String.ofList name.reference ++ post) = do
      let before ← interpolateEnv env pre
      let value ← envVar env name
      let behind ← interpolateEnv env post
      return before ++ value ++ behind := by
  have hpieces : references.pieces (pre ++ String.ofList name.reference ++ post).toList =
      references.pieces pre.toList ++ .inr name :: references.pieces post.toList := by
    rw [String.toList_append, String.toList_append, String.toList_ofList, List.append_assoc]
    exact Mark.pieces_around pre.toList name post.toList
  unfold interpolateEnv
  rw [hpieces, List.foldlM_append]
  cases (references.pieces pre.toList).foldlM (appendPiece env) "" with
  | error e => rfl
  | ok before =>
    show (.inr name :: references.pieces post.toList).foldlM (appendPiece env) before = _
    have hvalue : appendPiece env before (.inr name) = (envVar env name).map (before ++ ·) := rfl
    rw [List.foldlM_cons, hvalue]
    cases envVar env name with
    | error e => rfl
    | ok value =>
      show (references.pieces post.toList).foldlM (appendPiece env) (before ++ value) = _
      rw [appendPieces]
      rfl

theorem appendPieces_error {pieces : List (Char ⊕ EnvName)} {out : String} {e : Error}
    (h : pieces.foldlM (appendPiece env) out = .error e) :
    ∃ before name after, pieces = before ++ .inr name :: after ∧ env name.toString = none ∧ e = unsetVariable name ∧
      ∃ out', before.foldlM (appendPiece env) out = .ok out' := by
  induction pieces generalizing out with
  | nil => cases h
  | cons piece pieces ih =>
    rw [List.foldlM_cons] at h
    cases hpiece : appendPiece env out piece with
    | ok next =>
      rw [hpiece] at h
      obtain ⟨before, name, after, rfl, hunset, he, out', hbefore⟩ := ih h
      refine ⟨piece :: before, name, after, rfl, hunset, he, out', ?_⟩
      rw [List.foldlM_cons, hpiece]
      exact hbefore
    | error e' =>
      rw [hpiece] at h
      cases h
      cases piece with
      | inl c => cases hpiece
      | inr name =>
        have hvalue : (envVar env name).map (out ++ ·) = .error e := hpiece
        unfold envVar at hvalue
        cases hset : env name.toString with
        | some value =>
          rw [hset] at hvalue
          cases hvalue
        | none =>
          rw [hset] at hvalue
          cases hvalue
          exact ⟨[], name, pieces, rfl, hset, rfl, out, rfl⟩

/-- **A text fails on its first reference that is not set**, and on nothing else. -/
theorem interpolateEnv_error {input : String} {e : Error} :
    interpolateEnv env input = .error e ↔ ∃ pre name post, input = pre ++ String.ofList name.reference ++ post ∧
      env name.toString = none ∧ e = unsetVariable name ∧ ∃ out, interpolateEnv env pre = .ok out := by
  constructor
  · intro h
    obtain ⟨before, name, after, hpieces, hunset, rfl, out, hbefore⟩ := appendPieces_error h
    obtain ⟨pre, post, hinput, rfl, rfl⟩ := Mark.pieces_eq_mark hpieces
    refine ⟨String.ofList pre, name, String.ofList post, String.toList_injective ?_, hunset, rfl, out, ?_⟩
    · rw [hinput, String.toList_append, String.toList_append, String.toList_ofList, String.toList_ofList,
        String.toList_ofList, List.append_assoc]
      rfl
    · unfold interpolateEnv
      rw [String.toList_ofList]
      exact hbefore
  · rintro ⟨pre, name, post, rfl, hunset, rfl, out, hpre⟩
    have hvalue : envVar env name = .error (unsetVariable name) := by
      unfold envVar
      rw [hunset]
    rw [interpolateEnv_reference, hpre, hvalue]
    rfl

/-- A text is interpolated exactly when everything it refers to is set. -/
theorem interpolateEnv_ok {input : String} :
    (∃ out, interpolateEnv env input = .ok out) ↔ ∀ name, Refers input name → env name.toString ≠ none := by
  constructor
  · rintro ⟨out, hout⟩ name ⟨pre, post, hinput⟩ hunset
    have hsplit : input = String.ofList pre ++ String.ofList name.reference ++ String.ofList post := by
      refine String.toList_injective ?_
      rw [hinput, String.toList_append, String.toList_append, String.toList_ofList, String.toList_ofList,
        String.toList_ofList, List.append_assoc]
      rfl
    rw [hsplit, interpolateEnv_reference, except_bind_ok] at hout
    obtain ⟨_, _, hout⟩ := hout
    obtain ⟨_, hvalue, _⟩ := except_bind_ok.mp hout
    unfold envVar at hvalue
    rw [hunset] at hvalue
    cases hvalue
  · intro hset
    cases hout : interpolateEnv env input with
    | ok out => exact ⟨out, rfl⟩
    | error e =>
      obtain ⟨pre, name, post, rfl, hunset, _⟩ := interpolateEnv_error.mp hout
      refine absurd hunset (hset name ⟨pre.toList, post.toList, ?_⟩)
      rw [String.toList_append, String.toList_append, String.toList_ofList, List.append_assoc]
      rfl

/-- **Interpolation replaces the references and nothing else**: between them the
text stays, each becomes its value, which is not read again, and the first that
is not set is the failure. -/
theorem interpolation (env : String → Option String) :
    (∀ input, (∀ name, ¬ Refers input name) → interpolateEnv env input = .ok input) ∧
    (∀ pre name post, interpolateEnv env (pre ++ String.ofList name.reference ++ post) = do
      let before ← interpolateEnv env pre
      let value ← envVar env name
      let behind ← interpolateEnv env post
      return before ++ value ++ behind) ∧
    (∀ input, (∃ out, interpolateEnv env input = .ok out) ↔
      ∀ name, Refers input name → env name.toString ≠ none) ∧
    ∀ input e, interpolateEnv env input = .error e ↔ ∃ pre name post,
      input = pre ++ String.ofList name.reference ++ post ∧ env name.toString = none ∧ e = unsetVariable name ∧
        ∃ out, interpolateEnv env pre = .ok out :=
  ⟨fun _ => interpolateEnv_plain, fun pre name post => interpolateEnv_reference pre post name, fun _ => interpolateEnv_ok, fun _ _ => interpolateEnv_error⟩

end

/-! ## Validation -/

/-- Minimum accepted length of a state key, in bytes. -/
def MIN_STATE_KEY_LEN : Nat := 32

structure TlsConfig where
  certPath : String
  keyPath : String

structure PythonConfig where
  modulePath : String
  venv : Option String := none
  maxConcurrentCalls : Nat := 16
  callTimeoutSeconds : Nat := 30

structure PluginConfig where
  kind : String
  name : String

structure ProxyConfig where
  baseUrl : String
  stateEncryptionKey : String
  /-- Retained for decryption only. -/
  previousStateEncryptionKeys : List String := []
  cookieName : String := "TUNNELBANA_STATE"
  cookieSecure : Bool := true
  cookieSameSite : String := "None"
  /-- In seconds; zero is no limit. -/
  stateCookieMaxAge : Nat := DEFAULT_TTL_SECONDS
  httpConnectTimeoutSeconds : Nat := 10
  httpReadTimeoutSeconds : Nat := 15
  httpRequestTimeoutSeconds : Nat := 30
  httpMaxResponseBytes : Nat := 8 * 1024 * 1024
  tls : Option TlsConfig := none
  python : Option PythonConfig := none
  microservices : List PluginConfig := []

def blank (s : String) : Prop := Text.trim s.toList = []

instance (s : String) : Decidable (blank s) := inferInstanceAs (Decidable (_ = _))

def demand (p : Prop) [Decidable p] (message : String) : Except Error Unit :=
  if p then .ok () else .error (.config message)

namespace TlsConfig

def validate (tls : TlsConfig) : Except Error Unit :=
  demand (¬ blank tls.certPath ∧ ¬ blank tls.keyPath) "tls.cert_path and tls.key_path must not be empty"

end TlsConfig

namespace PythonConfig

def validate (python : PythonConfig) : Except Error Unit := do
  demand (¬ blank python.modulePath) "python.module_path must not be empty"
  python.venv.elim (.ok ()) fun venv => demand (¬ blank venv) "python.venv must not be empty"
  demand (python.maxConcurrentCalls ≠ 0) "python.max_concurrent_calls must be greater than zero"
  demand (python.callTimeoutSeconds ≠ 0) "python.call_timeout_seconds must be greater than zero"

end PythonConfig

namespace ProxyConfig

/-- Keys from an index on. -/
def validatePreviousKeys : Nat → List String → Except Error Unit
  | _, [] => .ok ()
  | index, key :: keys => do
    demand (MIN_STATE_KEY_LEN ≤ key.utf8ByteSize) ("previous_state_encryption_keys[" ++ toString index ++ "] must be at least "
      ++ toString MIN_STATE_KEY_LEN ++ " bytes of high-entropy secret (got " ++ toString key.utf8ByteSize ++ " bytes)")
    validatePreviousKeys (index + 1) keys

/-- Names not seen before. -/
def validateNames (seen : List String) : List String → Except Error Unit
  | [] => .ok ()
  | name :: names => do
    demand (name ∉ seen) ("duplicate microservice name: " ++ name)
    validateNames (name :: seen) names

variable (cfg : ProxyConfig)

def sameSiteKnown : Prop := cfg.cookieSameSite.toList.map Char.toLower ∈ ["none", "lax", "strict"].map String.toList

instance : Decidable cfg.sameSiteKnown := inferInstanceAs (Decidable (_ ∈ _))

def hasPythonMicroservice : Bool := cfg.microservices.any fun p => p.kind = "python"

def validate : Except Error Unit := do
  cfg.tls.elim (.ok ()) TlsConfig.validate
  demand (cfg.baseUrl ≠ "") "base_url must be set"
  demand (cfg.stateEncryptionKey ≠ "") "state_encryption_key must be set"
  demand cfg.sameSiteKnown ("cookie_same_site must be one of None, Lax, or Strict (got " ++ Text.debug cfg.cookieSameSite ++ ")")
  demand (MIN_STATE_KEY_LEN ≤ cfg.stateEncryptionKey.utf8ByteSize) ("state_encryption_key must be at least "
    ++ toString MIN_STATE_KEY_LEN ++ " bytes of high-entropy secret (got "
    ++ toString cfg.stateEncryptionKey.utf8ByteSize ++ " bytes)")
  validatePreviousKeys 0 cfg.previousStateEncryptionKeys
  demand (cfg.httpConnectTimeoutSeconds ≠ 0 ∧ cfg.httpReadTimeoutSeconds ≠ 0 ∧ cfg.httpRequestTimeoutSeconds ≠ 0)
    "outbound HTTP timeouts must be greater than zero"
  demand (cfg.httpMaxResponseBytes ≠ 0) "http_max_response_bytes must be greater than zero"
  demand (cfg.hasPythonMicroservice = true → cfg.python ≠ none)
    "[python] is required when a microservice has type = \"python\""
  cfg.python.elim (.ok ()) PythonConfig.validate
  validateNames [] (cfg.microservices.map (·.name))

/-- What a configuration that loads is. -/
structure Accepted : Prop where
  tls : ∀ tls, cfg.tls = some tls → ¬ blank tls.certPath ∧ ¬ blank tls.keyPath
  baseUrl : cfg.baseUrl ≠ ""
  sameSite : cfg.sameSiteKnown
  /-- The keys of a rotation are no weaker than the current one. -/
  keys : ∀ key ∈ cfg.stateEncryptionKey :: cfg.previousStateEncryptionKeys, MIN_STATE_KEY_LEN ≤ key.utf8ByteSize
  timeouts : cfg.httpConnectTimeoutSeconds ≠ 0 ∧ cfg.httpReadTimeoutSeconds ≠ 0 ∧ cfg.httpRequestTimeoutSeconds ≠ 0
  maxResponseBytes : cfg.httpMaxResponseBytes ≠ 0
  pythonSet : (∃ p ∈ cfg.microservices, p.kind = "python") → cfg.python ≠ none
  python : ∀ python, cfg.python = some python → ¬ blank python.modulePath ∧ (∀ venv, python.venv = some venv → ¬ blank venv) ∧
    python.maxConcurrentCalls ≠ 0 ∧ python.callTimeoutSeconds ≠ 0
  names : (cfg.microservices.map (·.name)).Nodup

theorem demand_ok {p : Prop} [Decidable p] {message : String} : demand p message = .ok () ↔ p := by
  unfold demand
  by_cases h : p <;> simp [h]

theorem andThen_ok {x y : Except Error Unit} : (do x; y) = .ok () ↔ x = .ok () ∧ y = .ok () := by
  cases x <;> simp [bind, Except.bind]

theorem validatePreviousKeys_ok (index : Nat) (keys : List String) :
    validatePreviousKeys index keys = .ok () ↔ ∀ key ∈ keys, MIN_STATE_KEY_LEN ≤ key.utf8ByteSize := by
  induction keys generalizing index with
  | nil => simp [validatePreviousKeys]
  | cons key keys ih => rw [validatePreviousKeys, andThen_ok, demand_ok, ih, List.forall_mem_cons]

theorem validateNames_ok (seen names : List String) :
    validateNames seen names = .ok () ↔ names.Nodup ∧ ∀ name ∈ names, name ∉ seen := by
  induction names generalizing seen with
  | nil => simp [validateNames]
  | cons name names ih =>
    rw [validateNames, andThen_ok, demand_ok, ih, List.nodup_cons, List.forall_mem_cons]
    have hlater : (∀ later ∈ names, later ∉ name :: seen) ↔ name ∉ names ∧ ∀ later ∈ names, later ∉ seen := by
      simp only [List.mem_cons, not_or]
      exact ⟨fun h => ⟨fun hmem => (h name hmem).1 rfl, fun later hl => (h later hl).2⟩,
        fun h later hl => ⟨fun he => h.1 (he ▸ hl), h.2 later hl⟩⟩
    rw [hlater]
    tauto

theorem pythonValidate_ok (python : PythonConfig) :
    python.validate = .ok () ↔ ¬ blank python.modulePath ∧ (∀ venv, python.venv = some venv → ¬ blank venv) ∧
      python.maxConcurrentCalls ≠ 0 ∧ python.callTimeoutSeconds ≠ 0 := by
  unfold PythonConfig.validate
  cases python.venv <;> simp [andThen_ok, demand_ok]

/-- **Validation accepts exactly these.** -/
theorem validate_ok : cfg.validate = .ok () ↔ cfg.Accepted := by
  have htls : cfg.tls.elim (.ok ()) TlsConfig.validate = .ok () ↔
      ∀ tls, cfg.tls = some tls → ¬ blank tls.certPath ∧ ¬ blank tls.keyPath := by
    cases cfg.tls <;> simp [TlsConfig.validate, demand_ok]
  have hpython : cfg.python.elim (.ok ()) PythonConfig.validate = .ok () ↔
      ∀ python, cfg.python = some python → ¬ blank python.modulePath ∧ (∀ venv, python.venv = some venv → ¬ blank venv) ∧
        python.maxConcurrentCalls ≠ 0 ∧ python.callTimeoutSeconds ≠ 0 := by
    cases cfg.python <;> simp [pythonValidate_ok]
  have hneeds : cfg.hasPythonMicroservice = true ↔ ∃ p ∈ cfg.microservices, p.kind = "python" := by
    simp [hasPythonMicroservice]
  unfold validate
  simp only [andThen_ok, htls, demand_ok, validatePreviousKeys_ok, hpython, validateNames_ok, hneeds]
  constructor
  · rintro ⟨tls, baseUrl, _, sameSite, key, keys, timeouts, maxBytes, pythonSet, python, names, _⟩
    exact ⟨tls, baseUrl, sameSite, List.forall_mem_cons.mpr ⟨key, keys⟩, timeouts, maxBytes, pythonSet, python, names⟩
  · intro h
    obtain ⟨hkey, hkeys⟩ := List.forall_mem_cons.mp h.keys
    have hset : cfg.stateEncryptionKey ≠ "" := by
      intro hempty
      rw [hempty] at hkey
      exact absurd hkey (by decide)
    exact ⟨h.tls, h.baseUrl, hset, h.sameSite, hkey, hkeys, h.timeouts, h.maxResponseBytes, h.pythonSet, h.python, h.names,
      fun _ _ => List.not_mem_nil⟩

/-- Load a configuration text; the parser is the one of the format. -/
def fromStr (parse : String → Except Error ProxyConfig) (env : String → Option String) (s : String) :
    Except Error ProxyConfig := do
  let interpolated ← interpolateEnv env s
  let cfg ← parse interpolated
  cfg.validate
  return cfg

/-- **A configuration that loads refers to set variables only and is accepted.** -/
theorem fromStr_ok (parse : String → Except Error ProxyConfig) (env : String → Option String) (s : String)
    (cfg : ProxyConfig) :
    fromStr parse env s = .ok cfg ↔ (∀ name, Refers s name → env name.toString ≠ none) ∧
      ∃ text, interpolateEnv env s = .ok text ∧ parse text = .ok cfg ∧ cfg.Accepted := by
  unfold fromStr
  simp only [except_bind_ok]
  constructor
  · rintro ⟨text, htext, parsed, hparsed, _, hvalid, hret⟩
    cases hret
    exact ⟨interpolateEnv_ok.mp ⟨text, htext⟩, text, htext, hparsed, cfg.validate_ok.mp hvalid⟩
  · rintro ⟨_, text, htext, hparsed, haccepted⟩
    exact ⟨text, htext, cfg, hparsed, (), cfg.validate_ok.mpr haccepted, rfl⟩

end ProxyConfig

end Tunnelbana
