/-
The certificate and key a server answers handshakes with, and their renewal while
it runs. The files may change at any moment, also between the two reads of one
load; signals that come while a load is under way are one signal.

`loadIdentity_ok` says which files make an identity. `Renewed` follows a signal
through the loads under way, and `renewals_reach` says that the last signal after
the last change is not lost, unless the thread of its own load fails.
-/
import Tunnelbana.Basis.Run
import Tunnelbana.Core.Config

namespace Tunnelbana

open Basis

structure IoError where
  kind : String
  message : String
deriving DecidableEq

/-- A leaf-first chain and its private key. -/
structure CertifiedKey (Cert Key : Type) where
  cert : List Cert
  key : Key
deriving DecidableEq

/-- What the TLS library makes of the bytes of a file; a section it cannot read is
none. -/
structure TlsLibrary (Bytes Cert Key : Type) where
  certSections : Bytes → List (Option Cert)
  keySections : Bytes → List (Option Key)
  parsesCertificate : Cert → Bool
  acceptsKey : List Cert → Key → Bool
  keysMatch : List Cert → Key → Bool

section

variable {Bytes Cert Key : Type}

/-! ## Loading -/

def invalid (path message : String) : IoError where
  kind := "InvalidData"
  message := path ++ ": " ++ message

def readTlsFile (path : String) (file : Except IoError Bytes) : Except IoError Bytes :=
  file.mapError fun e => { e with message := "reading TLS file " ++ path ++ ": " ++ e.message }

def ensure (p : Prop) [Decidable p] (path message : String) : Except IoError Unit :=
  if p then .ok () else .error (invalid path message)

/-- Every section, if each could be read. -/
def allSections {α : Type} (path message : String) : List (Option α) → Except IoError (List α)
  | [] => .ok []
  | none :: _ => .error (invalid path message)
  | some part :: rest => do
    let others ← allSections path message rest
    return part :: others

/-- The one key of the sections: the scan goes to the end. -/
def scanKeys (path : String) : Option Key → List (Option Key) → Except IoError (Option Key)
  | key, [] => .ok key
  | _, none :: _ => .error (invalid path "invalid private-key PEM")
  | none, some candidate :: rest => scanKeys path (some candidate) rest
  | some _, some _ :: _ => .error (invalid path "expected exactly one private key")

namespace TlsLibrary

variable (lib : TlsLibrary Bytes Cert Key)

def loadChain (certPath : String) (file : Except IoError Bytes) : Except IoError (List Cert) := do
  let certPem ← readTlsFile certPath file
  let certs ← allSections certPath "invalid certificate PEM" (lib.certSections certPem)
  ensure (certs ≠ []) certPath "no certificates found"
  ensure (∀ cert ∈ certs, lib.parsesCertificate cert = true) certPath "invalid X.509 certificate"
  return certs

def loadKey (keyPath : String) (certs : List Cert) (file : Except IoError Bytes) :
    Except IoError (CertifiedKey Cert Key) := do
  let keyPem ← readTlsFile keyPath file
  let found ← scanKeys keyPath none (lib.keySections keyPem)
  match found with
  | none => .error (invalid keyPath "no supported unencrypted private key found")
  | some key => do
    ensure (lib.acceptsKey certs key = true) keyPath "invalid private key or certificate/key mismatch"
    ensure (lib.keysMatch certs key = true) keyPath "cannot verify certificate/key match"
    return { cert := certs, key }

/-- Both files, the certificates first. -/
def loadIdentity (tls : TlsConfig) (certFile keyFile : Except IoError Bytes) :
    Except IoError (CertifiedKey Cert Key) := do
  let certs ← lib.loadChain tls.certPath certFile
  lib.loadKey tls.keyPath certs keyFile

end TlsLibrary

/-! ## What makes an identity -/

theorem ensure_ok {p : Prop} [Decidable p] {path message : String} {u : Unit} :
    ensure p path message = .ok u ↔ p := by
  unfold ensure
  split <;> simp_all

theorem readTlsFile_ok {path : String} {file : Except IoError Bytes} {bytes : Bytes} :
    readTlsFile path file = .ok bytes ↔ file = .ok bytes := except_mapError_ok

theorem allSections_ok {α : Type} {path message : String} {sections : List (Option α)} {found : List α} :
    allSections path message sections = .ok found ↔ sections = found.map some := by
  induction sections generalizing found with
  | nil => cases found <;> simp [allSections]
  | cons first rest ih =>
    cases first with
    | none => cases found <;> simp [allSections]
    | some a =>
      simp only [allSections, except_bind_ok, ih]
      constructor
      · rintro ⟨others, rfl, h⟩
        cases h
        rfl
      · intro h
        cases found with
        | nil => cases h
        | cons b others =>
          simp only [List.map_cons, List.cons.injEq, Option.some.injEq] at h
          obtain ⟨rfl, rfl⟩ := h
          exact ⟨others, rfl, rfl⟩

theorem scanKeys_found {path : String} {first : Key} {sections : List (Option Key)} {key : Option Key} :
    scanKeys path (some first) sections = .ok key ↔ sections = [] ∧ key = some first := by
  cases sections with
  | nil => simp [scanKeys, eq_comm]
  | cons part rest => cases part <;> simp [scanKeys]

theorem scanKeys_ok {path : String} {sections : List (Option Key)} {key : Key} :
    scanKeys path none sections = .ok (some key) ↔ sections = [some key] := by
  cases sections with
  | nil => simp [scanKeys]
  | cons part rest =>
    cases part with
    | none => simp [scanKeys]
    | some first =>
      simp only [scanKeys, scanKeys_found, List.cons.injEq, Option.some.injEq]
      constructor
      · rintro ⟨rfl, rfl⟩
        exact ⟨rfl, rfl⟩
      · rintro ⟨rfl, rfl⟩
        exact ⟨rfl, rfl⟩

namespace TlsLibrary

variable (lib : TlsLibrary Bytes Cert Key)

/-- The contents of the two files make the identity: every section of the first is
a certificate, the second has one key, and they belong together. -/
structure Makes (certPem keyPem : Bytes) (identity : CertifiedKey Cert Key) : Prop where
  chain : lib.certSections certPem = identity.cert.map some
  nonempty : identity.cert ≠ []
  parses : ∀ cert ∈ identity.cert, lib.parsesCertificate cert = true
  key : lib.keySections keyPem = [some identity.key]
  accepts : lib.acceptsKey identity.cert identity.key = true
  matching : lib.keysMatch identity.cert identity.key = true

variable {lib}

theorem loadChain_ok {certPath : String} {file : Except IoError Bytes} {certs : List Cert} :
    lib.loadChain certPath file = .ok certs ↔ ∃ certPem, file = .ok certPem ∧
      lib.certSections certPem = certs.map some ∧ certs ≠ [] ∧ ∀ cert ∈ certs, lib.parsesCertificate cert = true := by
  simp only [loadChain, except_bind_ok, readTlsFile_ok, allSections_ok, ensure_ok]
  constructor
  · rintro ⟨certPem, hfile, found, hsections, -, hne, -, hparses, h⟩
    cases h
    exact ⟨certPem, hfile, hsections, hne, hparses⟩
  · rintro ⟨certPem, hfile, hsections, hne, hparses⟩
    exact ⟨certPem, hfile, certs, hsections, (), hne, (), hparses, rfl⟩

theorem loadKey_ok {keyPath : String} {certs : List Cert} {file : Except IoError Bytes}
    {identity : CertifiedKey Cert Key} : lib.loadKey keyPath certs file = .ok identity ↔ identity.cert = certs ∧
      ∃ keyPem, file = .ok keyPem ∧ lib.keySections keyPem = [some identity.key] ∧
        lib.acceptsKey certs identity.key = true ∧ lib.keysMatch certs identity.key = true := by
  simp only [loadKey, except_bind_ok, readTlsFile_ok]
  constructor
  · rintro ⟨keyPem, hfile, found, hscan, h⟩
    cases found with
    | none => cases h
    | some key =>
      simp only [except_bind_ok, ensure_ok] at h
      obtain ⟨-, haccepts, -, hmatch, h⟩ := h
      cases h
      exact ⟨rfl, keyPem, hfile, scanKeys_ok.mp hscan, haccepts, hmatch⟩
  · rintro ⟨rfl, keyPem, hfile, hsections, haccepts, hmatch⟩
    refine ⟨keyPem, hfile, some identity.key, scanKeys_ok.mpr hsections, ?_⟩
    simp only [except_bind_ok, ensure_ok]
    exact ⟨(), haccepts, (), hmatch, rfl⟩

/-- **A load succeeds exactly on two readable files that make an identity.** -/
theorem loadIdentity_ok {tls : TlsConfig} {certFile keyFile : Except IoError Bytes}
    {identity : CertifiedKey Cert Key} : lib.loadIdentity tls certFile keyFile = .ok identity ↔
      ∃ certPem keyPem, certFile = .ok certPem ∧ keyFile = .ok keyPem ∧ lib.Makes certPem keyPem identity := by
  simp only [loadIdentity, except_bind_ok, loadChain_ok, loadKey_ok]
  constructor
  · rintro ⟨certs, ⟨certPem, hcert, hsections, hne, hparses⟩, rfl, keyPem, hkey, hone, haccepts, hmatch⟩
    exact ⟨certPem, keyPem, hcert, hkey, hsections, hne, hparses, hone, haccepts, hmatch⟩
  · rintro ⟨certPem, keyPem, hcert, hkey, h⟩
    exact ⟨identity.cert, ⟨certPem, hcert, h.chain, h.nonempty, h.parses⟩, rfl, keyPem, hkey, h.key, h.accepts,
      h.matching⟩

end TlsLibrary

/-! ## Renewal -/

/-- Where a load is: the first of the server, or one after a signal. -/
inductive TlsLoading (Cert Key : Type) where
  | idle
  | started
  | chain (certs : List Cert)
  | loaded (candidate : CertifiedKey Cert Key)

/-- A server, from when it listens for the signal. Before its first identity it
serves nothing, and it stops when there is none to begin with. -/
structure ReloadableTls (Bytes Cert Key : Type) where
  files : String → Except IoError Bytes
  current : Option (CertifiedKey Cert Key) := none
  hup : Bool := false
  loading : TlsLoading Cert Key := .started
  stopped : Bool := false

inductive TlsEvent (Bytes : Type) where
  /-- Any change of the files. -/
  | written (files : String → Except IoError Bytes)
  | signalled
  | received
  | readChain
  | readKey
  | committed
  /-- The thread that loads fails. -/
  | taskFailed
  | handshake
  | stopped

namespace ReloadableTls

variable (lib : TlsLibrary Bytes Cert Key) (tls : TlsConfig)

/-- A load that fails keeps what is served; without anything to serve the server
ends. -/
def fail (s : ReloadableTls Bytes Cert Key) : ReloadableTls Bytes Cert Key :=
  { s with loading := .idle, stopped := s.stopped || s.current.isNone }

def step (s : ReloadableTls Bytes Cert Key) (e : TlsEvent Bytes) :
    Option (CertifiedKey Cert Key) × ReloadableTls Bytes Cert Key :=
  if s.stopped then (none, s)
  else
    match e with
    | .written files => (none, { s with files })
    | .signalled => (none, { s with hup := true })
    | .received =>
      match s.loading with
      | .idle => if s.hup then (none, { s with hup := false, loading := .started }) else (none, s)
      | _ => (none, s)
    | .readChain =>
      match s.loading with
      | .started =>
        match lib.loadChain tls.certPath (s.files tls.certPath) with
        | .ok certs => (none, { s with loading := .chain certs })
        | .error _ => (none, s.fail)
      | _ => (none, s)
    | .readKey =>
      match s.loading with
      | .chain certs =>
        match lib.loadKey tls.keyPath certs (s.files tls.keyPath) with
        | .ok candidate => (none, { s with loading := .loaded candidate })
        | .error _ => (none, s.fail)
      | _ => (none, s)
    | .committed =>
      match s.loading with
      | .loaded candidate => (none, { s with current := some candidate, loading := .idle })
      | _ => (none, s)
    | .taskFailed =>
      match s.loading with
      | .idle => (none, s)
      | _ => (none, s.fail)
    | .handshake => (s.current, s)
    | .stopped => (none, { s with stopped := true })

/-- The load under way fails at this step. -/
inductive Failing (s : ReloadableTls Bytes Cert Key) : TlsEvent Bytes → Prop
  | chain {e} : s.loading = .started → lib.loadChain tls.certPath (s.files tls.certPath) = .error e →
    Failing s .readChain
  | key {certs e} : s.loading = .chain certs → lib.loadKey tls.keyPath certs (s.files tls.keyPath) = .error e →
    Failing s .readKey
  | task : s.loading ≠ .idle → Failing s .taskFailed

inductive Does (s : ReloadableTls Bytes Cert Key) :
    TlsEvent Bytes → Option (CertifiedKey Cert Key) × ReloadableTls Bytes Cert Key → Prop
  | stays {e} : Does s e (none, s)
  | written (files) : s.stopped = false → Does s (.written files) (none, { s with files })
  | signalled : s.stopped = false → Does s .signalled (none, { s with hup := true })
  | received : s.stopped = false → s.loading = .idle → s.hup = true →
    Does s .received (none, { s with hup := false, loading := .started })
  | chain {certs} : s.stopped = false → s.loading = .started →
    lib.loadChain tls.certPath (s.files tls.certPath) = .ok certs →
    Does s .readChain (none, { s with loading := .chain certs })
  | loaded {certs candidate} : s.stopped = false → s.loading = .chain certs →
    lib.loadKey tls.keyPath certs (s.files tls.keyPath) = .ok candidate →
    Does s .readKey (none, { s with loading := .loaded candidate })
  | failed {e} : s.stopped = false → Failing lib tls s e → Does s e (none, s.fail)
  | committed {candidate} : s.stopped = false → s.loading = .loaded candidate →
    Does s .committed (none, { s with current := some candidate, loading := .idle })
  | handshake : s.stopped = false → Does s .handshake (s.current, s)
  | stopped : s.stopped = false → Does s .stopped (none, { s with stopped := true })

theorem step_does (s : ReloadableTls Bytes Cert Key) (e : TlsEvent Bytes) : Does lib tls s e (s.step lib tls e) := by
  unfold step
  split
  next => exact .stays
  next hrunning =>
    have hlive : s.stopped = false := Bool.eq_false_iff.mpr hrunning
    cases e with
    | written files => exact .written files hlive
    | signalled => exact .signalled hlive
    | received =>
      simp only
      split
      next hidle =>
        split
        next hhup => exact .received hlive hidle hhup
        next => exact .stays
      next => exact .stays
    | readChain =>
      simp only
      split
      next hstarted =>
        split
        next hchain => exact .chain hlive hstarted hchain
        next hchain => exact .failed hlive (.chain hstarted hchain)
      next => exact .stays
    | readKey =>
      simp only
      split
      next hchain =>
        split
        next hkey => exact .loaded hlive hchain hkey
        next hkey => exact .failed hlive (.key hchain hkey)
      next => exact .stays
    | committed =>
      simp only
      split
      next hloaded => exact .committed hlive hloaded
      next => exact .stays
    | taskFailed =>
      simp only
      split
      next => exact .stays
      next hbusy => exact .failed hlive (.task hbusy)
    | handshake => exact .handshake hlive
    | stopped => exact .stopped hlive

/-! ## What is served -/

variable {lib tls}

/-- An identity of two files that were there, each at one moment. -/
def FromFiles (lib : TlsLibrary Bytes Cert Key) (tls : TlsConfig) (seen : List (String → Except IoError Bytes))
    (identity : CertifiedKey Cert Key) : Prop :=
  ∃ before ∈ seen, ∃ now ∈ seen, ∃ certPem keyPem,
    before tls.certPath = .ok certPem ∧ now tls.keyPath = .ok keyPem ∧ lib.Makes certPem keyPem identity

/-- The server with every state of the files and every identity handed out, the
latest first. -/
structure TlsLedger (Bytes Cert Key : Type) where
  server : ReloadableTls Bytes Cert Key
  seen : List (String → Except IoError Bytes)
  served : List (CertifiedKey Cert Key) := []

def TlsLedger.start (files : String → Except IoError Bytes) : TlsLedger Bytes Cert Key where
  server := { files }
  seen := [files]

def TlsLedger.step (lib : TlsLibrary Bytes Cert Key) (tls : TlsConfig) (l : TlsLedger Bytes Cert Key)
    (e : TlsEvent Bytes) : TlsLedger Bytes Cert Key where
  server := (l.server.step lib tls e).2
  seen := (l.server.step lib tls e).2.files :: l.seen
  served := (l.server.step lib tls e).1.toList ++ l.served

/-- All that is served, or about to be, is of files that were there. -/
structure Backed (lib : TlsLibrary Bytes Cert Key) (tls : TlsConfig) (seen : List (String → Except IoError Bytes))
    (s : ReloadableTls Bytes Cert Key) : Prop where
  files : s.files ∈ seen
  current : ∀ identity, s.current = some identity → FromFiles lib tls seen identity
  chain : ∀ certs, s.loading = .chain certs →
    ∃ before ∈ seen, lib.loadChain tls.certPath (before tls.certPath) = .ok certs
  loaded : ∀ candidate, s.loading = .loaded candidate → FromFiles lib tls seen candidate

theorem FromFiles.later {seen : List (String → Except IoError Bytes)} {identity : CertifiedKey Cert Key}
    (h : FromFiles lib tls seen identity) (files : String → Except IoError Bytes) :
    FromFiles lib tls (files :: seen) identity := by
  obtain ⟨before, hbefore, now, hnow, rest⟩ := h
  exact ⟨before, List.mem_cons_of_mem _ hbefore, now, List.mem_cons_of_mem _ hnow, rest⟩

theorem Backed.later {seen : List (String → Except IoError Bytes)} {s : ReloadableTls Bytes Cert Key}
    (h : Backed lib tls seen s) (files : String → Except IoError Bytes) : Backed lib tls (files :: seen) s where
  files := List.mem_cons_of_mem _ h.files
  current identity hs := (h.current identity hs).later files
  chain certs hs := by
    obtain ⟨before, hbefore, hload⟩ := h.chain certs hs
    exact ⟨before, List.mem_cons_of_mem _ hbefore, hload⟩
  loaded candidate hs := (h.loaded candidate hs).later files

theorem Backed.step {seen : List (String → Except IoError Bytes)} {s : ReloadableTls Bytes Cert Key}
    (h : Backed lib tls seen s) (e : TlsEvent Bytes) :
    Backed lib tls ((s.step lib tls e).2.files :: seen) (s.step lib tls e).2 := by
  have hdoes := step_does lib tls s e
  revert hdoes
  generalize s.step lib tls e = out
  intro hdoes
  have hidle : ∀ {current : Option (CertifiedKey Cert Key)} {hup stopped : Bool} {loading : TlsLoading Cert Key},
      (∀ identity, current = some identity → FromFiles lib tls seen identity) →
      (∀ certs, loading ≠ .chain certs) → (∀ candidate, loading ≠ .loaded candidate) →
      Backed lib tls (s.files :: seen) { files := s.files, current, hup, loading, stopped } := by
    intro current hup stopped loading hcurrent hchain hloaded
    exact ⟨List.mem_cons_self, fun identity hs => (hcurrent identity hs).later _,
      fun certs hs => absurd hs (hchain certs), fun candidate hs => absurd hs (hloaded candidate)⟩
  cases hdoes with
  | stays | handshake | signalled | stopped =>
    exact ⟨List.mem_cons_self, (h.later _).current, (h.later _).chain, (h.later _).loaded⟩
  | written files => exact ⟨List.mem_cons_self, (h.later _).current, (h.later _).chain, (h.later _).loaded⟩
  | received => exact hidle h.current (fun _ => nofun) fun _ => nofun
  | failed => exact hidle h.current (fun _ => nofun) fun _ => nofun
  | committed _ hloading =>
    refine hidle (fun identity hs => ?_) (fun _ => nofun) fun _ => nofun
    cases hs
    exact h.loaded _ hloading
  | chain _ _ hload =>
    refine ⟨List.mem_cons_self, (h.later _).current, fun certs hs => ?_, fun candidate => nofun⟩
    cases hs
    exact ⟨s.files, List.mem_cons_self, hload⟩
  | loaded _ hloading hload =>
    refine ⟨List.mem_cons_self, (h.later _).current, fun certs => nofun, fun candidate hs => ?_⟩
    cases hs
    obtain ⟨before, hbefore, hchain⟩ := h.chain _ hloading
    have hboth : lib.loadIdentity tls (before tls.certPath) (s.files tls.keyPath) = .ok _ :=
      except_bind_ok.mpr ⟨_, hchain, hload⟩
    obtain ⟨certPem, keyPem, hcert, hkey, hmakes⟩ := TlsLibrary.loadIdentity_ok.mp hboth
    exact ⟨before, List.mem_cons_of_mem _ hbefore, s.files, List.mem_cons_self, certPem, keyPem, hcert, hkey, hmakes⟩

theorem step_served {s : ReloadableTls Bytes Cert Key} {e : TlsEvent Bytes} {identity : CertifiedKey Cert Key}
    (h : (s.step lib tls e).1 = some identity) : s.current = some identity := by
  have hdoes := step_does lib tls s e
  revert hdoes h
  generalize s.step lib tls e = out
  intro h hdoes
  cases hdoes with
  | handshake => exact h
  | stays | written | signalled | received | chain | loaded | failed | committed | stopped => cases h

/-- **Every handshake is given a whole identity.** Whatever becomes of the files and
whenever, a chain and a key are given out together only if one content of each file
makes them an identity. -/
theorem served_complete (files : String → Except IoError Bytes) (events : List (TlsEvent Bytes)) :
    let l := events.foldl (TlsLedger.step lib tls) (TlsLedger.start files)
    ∀ identity ∈ l.served, FromFiles lib tls l.seen identity := by
  intro l
  have hkeeps : ∀ (l : TlsLedger Bytes Cert Key) (e : TlsEvent Bytes),
      (Backed lib tls l.seen l.server ∧ ∀ identity ∈ l.served, FromFiles lib tls l.seen identity) → True →
      Backed lib tls (l.step lib tls e).seen (l.step lib tls e).server ∧
        ∀ identity ∈ (l.step lib tls e).served, FromFiles lib tls (l.step lib tls e).seen identity := by
    rintro l e ⟨hbacked, hserved⟩ -
    refine ⟨hbacked.step e, fun identity hmem => ?_⟩
    rcases List.mem_append.mp hmem with hnow | hbefore
    · exact (hbacked.current identity (step_served (Option.mem_toList.mp hnow))).later _
    · exact (hserved identity hbefore).later _
  have hstart : Backed lib tls [files] ({ files } : ReloadableTls Bytes Cert Key) :=
    ⟨List.mem_cons_self, fun _ => nofun, fun _ => nofun, fun _ => nofun⟩
  have hnone : ∀ identity ∈ (TlsLedger.start files : TlsLedger Bytes Cert Key).served,
      FromFiles lib tls [files] identity := fun identity hmem => absurd hmem List.not_mem_nil
  exact (Along.invariant_end (C := fun _ _ => True) hkeeps ⟨hstart, hnone⟩
    (Along.of_forall (fun _ _ => trivial) events)).2

/-! ## After a signal -/

/-- The files do not change, and the thread of a load fails only while a signal is
pending: the load began before it. -/
def Quiet (s : ReloadableTls Bytes Cert Key) : TlsEvent Bytes → Prop
  | .written _ => False
  | .taskFailed => s.hup = true
  | _ => True

/-- The files make this identity, and it is served, or will be by a load that began
after the signal. -/
inductive Renewed (lib : TlsLibrary Bytes Cert Key) (tls : TlsConfig) (identity : CertifiedKey Cert Key)
    (s : ReloadableTls Bytes Cert Key) : Prop
  | stopped : s.stopped = true → Renewed lib tls identity s
  | signalled : s.hup = true → Renewed lib tls identity s
  | started : s.loading = .started → Renewed lib tls identity s
  | chain : s.loading = .chain identity.cert → Renewed lib tls identity s
  | loaded : s.loading = .loaded identity → Renewed lib tls identity s
  | served : s.loading = .idle → s.current = some identity → Renewed lib tls identity s

theorem Renewed.step {identity : CertifiedKey Cert Key} {s : ReloadableTls Bytes Cert Key}
    (h : Renewed lib tls identity s)
    (hload : lib.loadIdentity tls (s.files tls.certPath) (s.files tls.keyPath) = .ok identity) {e : TlsEvent Bytes}
    (hquiet : Quiet s e) :
    Renewed lib tls identity (s.step lib tls e).2 ∧ (s.step lib tls e).2.files = s.files := by
  obtain ⟨certs, hcerts, hkey⟩ := except_bind_ok.mp hload
  obtain ⟨hsame, -⟩ := TlsLibrary.loadKey_ok.mp hkey
  subst hsame
  have hdoes := step_does lib tls s e
  revert hdoes
  generalize s.step lib tls e = out
  intro hdoes
  cases hdoes with
  | stays | handshake => exact ⟨h, rfl⟩
  | written => exact hquiet.elim
  | signalled => exact ⟨.signalled rfl, rfl⟩
  | stopped => exact ⟨.stopped rfl, rfl⟩
  | received => exact ⟨.started rfl, rfl⟩
  | chain hlive hloading hfound =>
    refine ⟨?_, rfl⟩
    cases h with
    | stopped hs => cases hlive.symm.trans hs
    | signalled hs => exact .signalled hs
    | started =>
      cases hcerts.symm.trans hfound
      exact .chain rfl
    | chain hs | loaded hs | served hs => cases hloading.symm.trans hs
  | loaded hlive hloading hfound =>
    refine ⟨?_, rfl⟩
    cases h with
    | stopped hs => cases hlive.symm.trans hs
    | signalled hs => exact .signalled hs
    | chain hs =>
      cases hloading.symm.trans hs
      cases hkey.symm.trans hfound
      exact .loaded rfl
    | started hs | loaded hs | served hs => cases hloading.symm.trans hs
  | failed hlive hfailing =>
    refine ⟨?_, rfl⟩
    cases h with
    | stopped hs => cases hlive.symm.trans hs
    | signalled hs => exact .signalled hs
    | started hs =>
      cases hfailing with
      | chain _ herror => cases hcerts.symm.trans herror
      | key hloading => cases hloading.symm.trans hs
      | task => exact .signalled hquiet
    | chain hs =>
      cases hfailing with
      | chain hloading => cases hloading.symm.trans hs
      | key hloading herror =>
        cases hloading.symm.trans hs
        cases hkey.symm.trans herror
      | task => exact .signalled hquiet
    | loaded hs | served hs =>
      cases hfailing with
      | chain hloading => cases hloading.symm.trans hs
      | key hloading => cases hloading.symm.trans hs
      | task => exact .signalled hquiet
  | committed hlive hloading =>
    refine ⟨?_, rfl⟩
    cases h with
    | stopped hs => cases hlive.symm.trans hs
    | signalled hs => exact .signalled hs
    | loaded hs =>
      cases hloading.symm.trans hs
      exact .served rfl rfl
    | started hs | chain hs | served hs => cases hloading.symm.trans hs

/-- What the server does by itself: the load under way to its end, then one for the
signal. -/
def ownSteps : List (TlsEvent Bytes) :=
  [.readChain, .readKey, .committed, .received, .readChain, .readKey, .committed]

theorem ownSteps_quiet (lib : TlsLibrary Bytes Cert Key) (tls : TlsConfig) (s : ReloadableTls Bytes Cert Key) :
    Along (fun s e => (s.step lib tls e).2) Quiet s ownSteps := by
  simp [ownSteps, Quiet]

theorem load_ends (lib : TlsLibrary Bytes Cert Key) (tls : TlsConfig) (s : ReloadableTls Bytes Cert Key) :
    let t := [TlsEvent.readChain, .readKey, .committed].foldl (fun s e => (s.step lib tls e).2) s
    (t.stopped = true ∨ t.loading = .idle) ∧ t.hup = s.hup := by
  obtain ⟨files, current, hup, loading, stopped⟩ := s
  cases stopped with
  | true => simp [step]
  | false =>
    cases loading with
    | idle => simp [step]
    | loaded candidate => simp [step]
    | chain certs =>
      cases hkey : lib.loadKey tls.keyPath certs (files tls.keyPath) with
      | error e => cases current <;> simp [step, hkey, fail]
      | ok candidate => simp [step, hkey]
    | started =>
      cases hchain : lib.loadChain tls.certPath (files tls.certPath) with
      | error e => cases current <;> simp [step, hchain, fail]
      | ok certs =>
        cases hkey : lib.loadKey tls.keyPath certs (files tls.keyPath) with
        | error e => cases current <;> simp [step, hchain, hkey, fail]
        | ok candidate => simp [step, hchain, hkey]

theorem stopped_stays {s : ReloadableTls Bytes Cert Key} (h : s.stopped = true) (events : List (TlsEvent Bytes)) :
    events.foldl (fun s e => (s.step lib tls e).2) s = s := by
  induction events with
  | nil => rfl
  | cons e events ih =>
    have hstep : (s.step lib tls e).2 = s := by simp [step, h]
    rw [List.foldl_cons, hstep]
    exact ih

/-- Left to itself the server comes to rest, with no signal to follow. -/
theorem ownSteps_rest (lib : TlsLibrary Bytes Cert Key) (tls : TlsConfig) (s : ReloadableTls Bytes Cert Key) :
    let t := ownSteps.foldl (fun s e => (s.step lib tls e).2) s
    t.stopped = true ∨ t.loading = .idle ∧ t.hup = false := by
  intro t
  let first := [TlsEvent.readChain, .readKey, .committed].foldl (fun s e => (s.step lib tls e).2) s
  let again := (first.step lib tls .received).2
  have ht : t = [TlsEvent.readChain, .readKey, .committed].foldl (fun s e => (s.step lib tls e).2) again := rfl
  obtain ⟨hend, -⟩ := load_ends lib tls s
  by_cases hstopped : first.stopped = true
  · have hagain : again = first := by simp [again, step, hstopped]
    rw [ht, hagain, stopped_stays hstopped]
    exact .inl hstopped
  · have hidle : first.loading = .idle := hend.resolve_left hstopped
    have hclear : again.hup = false := by
      cases hhup : first.hup <;> simp [again, step, hstopped, hidle, hhup]
    obtain ⟨hrest, hsame⟩ := load_ends lib tls again
    rw [← ht] at hrest hsame
    exact hrest.imp_right fun h => ⟨h, hsame.trans hclear⟩

def runs (lib : TlsLibrary Bytes Cert Key) (tls : TlsConfig) (s : ReloadableTls Bytes Cert Key)
    (events : List (TlsEvent Bytes)) : ReloadableTls Bytes Cert Key :=
  events.foldl (fun s e => (s.step lib tls e).2) s

theorem Renewed.runs {identity : CertifiedKey Cert Key} {s : ReloadableTls Bytes Cert Key}
    (h : Renewed lib tls identity s)
    (hload : lib.loadIdentity tls (s.files tls.certPath) (s.files tls.keyPath) = .ok identity)
    {events : List (TlsEvent Bytes)} (hquiet : Along (fun s e => (s.step lib tls e).2) Quiet s events) :
    Renewed lib tls identity (s.runs lib tls events) := by
  induction events generalizing s with
  | nil => exact h
  | cons e events ih =>
    obtain ⟨hstep, hfiles⟩ := h.step hload hquiet.1
    refine ih hstep ?_ hquiet.2
    rw [hfiles]
    exact hload

theorem Renewed.rests {identity : CertifiedKey Cert Key} {s : ReloadableTls Bytes Cert Key}
    (h : Renewed lib tls identity s) (hlive : s.stopped = false) (hidle : s.loading = .idle) (hhup : s.hup = false) :
    s.current = some identity := by
  cases h with
  | stopped hs => cases hlive.symm.trans hs
  | signalled hs => cases hhup.symm.trans hs
  | started hs | chain hs | loaded hs => cases hidle.symm.trans hs
  | served _ hs => exact hs

theorem Renewed.signal (lib : TlsLibrary Bytes Cert Key) (tls : TlsConfig) (identity : CertifiedKey Cert Key)
    (s : ReloadableTls Bytes Cert Key) :
    Renewed lib tls identity (s.step lib tls .signalled).2 ∧ (s.step lib tls .signalled).2.files = s.files := by
  unfold ReloadableTls.step
  split
  next hstopped => exact ⟨.stopped hstopped, rfl⟩
  next => exact ⟨.signalled rfl, rfl⟩

/-- **No renewal is lost.** A signal that comes once the files make an identity
leads to it, whatever becomes of the loads under way, unless the files change
again or the thread of a load it started fails: it is what is served when the
server is at rest without a signal to follow, and the server's own steps bring it
there. -/
theorem renewals_reach (s : ReloadableTls Bytes Cert Key) {identity : CertifiedKey Cert Key}
    (hload : lib.loadIdentity tls (s.files tls.certPath) (s.files tls.keyPath) = .ok identity)
    {events : List (TlsEvent Bytes)}
    (hquiet : Along (fun s e => (s.step lib tls e).2) Quiet (s.step lib tls .signalled).2 events) :
    let t := (s.step lib tls .signalled).2.runs lib tls events
    (t.stopped = false → t.loading = .idle → t.hup = false → t.current = some identity) ∧
      ((t.runs lib tls ownSteps).stopped = false → (t.runs lib tls ownSteps).current = some identity) := by
  intro t
  obtain ⟨hsignal, hfiles⟩ := Renewed.signal lib tls identity s
  rw [← hfiles] at hload
  have ht : Renewed lib tls identity t := hsignal.runs hload hquiet
  refine ⟨fun hlive hidle hhup => ht.rests hlive hidle hhup, fun hlive => ?_⟩
  have hall : Along (fun s e => (s.step lib tls e).2) Quiet (s.step lib tls .signalled).2 (events ++ ownSteps) :=
    Along.append.mpr ⟨hquiet, ownSteps_quiet lib tls t⟩
  have hafter : Renewed lib tls identity (t.runs lib tls ownSteps) := by
    have hruns := hsignal.runs hload hall
    rwa [runs, List.foldl_append] at hruns
  obtain ⟨hidle, hhup⟩ := (ownSteps_rest lib tls t).resolve_left (Bool.eq_false_iff.mp hlive)
  exact hafter.rests hlive hidle hhup

end ReloadableTls

end

namespace ReloadableTls

/-- A library whose files are numbers: a certificate and a key belong together when
they are the same. -/
def numbered : TlsLibrary (List Nat) Nat Nat where
  certSections bytes := bytes.map some
  keySections bytes := bytes.map some
  parsesCertificate _ := true
  acceptsKey _ _ := true
  keysMatch certs key := certs.head? = some key

def twoFiles : TlsConfig where
  certPath := "cert.pem"
  keyPath := "key.pem"

/-- Both files were replaced while a load had read the old certificate. -/
def renewing : ReloadableTls (List Nat) Nat Nat where
  files _ := .ok [2]
  current := some { cert := [1], key := 1 }
  loading := .chain [1]

/-- The load under way fails, after the signal. -/
theorem renewals_reach_demo :
    (((renewing.step numbered twoFiles .signalled).2.runs numbered twoFiles [.taskFailed, .handshake]).runs numbered
      twoFiles ownSteps).current = some { cert := [2], key := 2 } := by
  have hquiet : Along (fun s e => (s.step numbered twoFiles e).2) Quiet (renewing.step numbered twoFiles .signalled).2
    [.taskFailed, .handshake] := ⟨rfl, trivial, trivial⟩
  exact (renewals_reach renewing rfl hquiet).2 rfl

end ReloadableTls

end Tunnelbana
