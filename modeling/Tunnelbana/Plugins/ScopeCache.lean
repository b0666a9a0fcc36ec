/-
The scope-aware MDQ client: two caches, of the entities the metadata service
gave and of the scopes read from their documents, under any interleaving of
lookups. A lookup holds its entity's lock throughout; the scope cache has a
mutex held over each of its two blocks, but a reset clears the two caches one
after the other, and the MDQ client caches outside that mutex.

The MDQ client is the environment here: it answers from its cache, or with an
entity of a document fetched and accepted, which it may cache, and it may drop
entries at any time.
-/
import Tunnelbana.Basis.Run
import Tunnelbana.Core.Seal
import Tunnelbana.Plugins.Saml

namespace Tunnelbana

open Basis

/-- An entity with the document it was accepted from. -/
structure Accepted where
  document : Bytes
  entity : EntityDescriptor

structure MetadataReader where
  trustedScopes : Bytes → String → List String
  trustedIdpPolicyValues : EntityDescriptor → MetadataPolicyValues

structure TrustedScopeCache where
  entries : Assoc (List String) := []

namespace TrustedScopeCache

def requiresReset (c : TrustedScopeCache) (entityId : String) (capacity : Nat) : Bool :=
  (c.entries.get entityId).isNone && capacity ≤ c.entries.length

def insert (c : TrustedScopeCache) (entityId : String) (scopes : List String) : TrustedScopeCache :=
  { entries := c.entries.put entityId scopes }

def clear (_ : TrustedScopeCache) : TrustedScopeCache := { entries := [] }

def get (c : TrustedScopeCache) (entityId : String) : List String := (c.entries.get entityId).getD []

end TrustedScopeCache

inductive LookupPhase where
  /-- For its entity's lock. -/
  | waiting
  | locked
  /-- In the first block, the MDQ cache cleared. -/
  | resetting
  /-- In the MDQ client, with the scopes cached before. -/
  | asking (cachedScopes : List String)
  /-- The MDQ client answered from a document fetched by this lookup. -/
  | accepted (a : Accepted)
  /-- In the second block, the MDQ cache cleared. -/
  | promoting (a : Accepted)
  /-- Returned, with an answer or without one, or dropped. -/
  | done (answer : Option ResolvedIdpMetadata)

structure Lookup where
  entityId : String
  lock : Nat
  phase : LookupPhase

namespace Lookup

/-- The future exists: it keeps its lock alive. -/
def live (l : Lookup) : Bool :=
  match l.phase with
  | .done _ => false
  | _ => true

def holds (l : Lookup) : Bool :=
  match l.phase with
  | .waiting | .done _ => false
  | _ => true

/-- Holds the scope cache's mutex between two steps. -/
def inBlock (l : Lookup) : Bool :=
  match l.phase with
  | .resetting | .promoting _ => true
  | _ => false

end Lookup

structure ScopeAwareMdqClient where
  mdq : Assoc Accepted := []
  trustedScopes : TrustedScopeCache := {}
  /-- The lock of an entity, as long as a lookup keeps it. -/
  lookupLocks : Assoc Nat := []
  nextLock : Nat := 0
  lookups : List Lookup := []
  /-- Everything the MDQ client accepted, with the entity id asked for. -/
  fetched : List (String × Accepted) := []

inductive Turn where
  | call (entityId : String)
  | acquire (i : Nat)
  | openCaches (i : Nat)
  | finishReset (i : Nat)
  | hit (i : Nat)
  | fetch (i : Nat) (a : Accepted) (kept : Bool)
  | fail (i : Nat)
  | promote (i : Nat)
  | finishPromote (i : Nat)
  /-- The caller goes away while the lookup waits. -/
  | abandon (i : Nat)
  /-- The MDQ client drops entries. -/
  | purge (entityId : String)

namespace ScopeAwareMdqClient

variable (reader : MetadataReader) (capacity : Nat) (c : ScopeAwareMdqClient)

def advance (i : Nat) (l : Lookup) (phase : LookupPhase) : ScopeAwareMdqClient :=
  { c with lookups := c.lookups.set i { l with phase } }

/-- No lookup is inside a block of the scope cache. -/
def mutexFree : Bool := c.lookups.all fun l => !l.inBlock

def keptLocks : Assoc Nat := c.lookupLocks.filter fun p => c.lookups.any fun l => l.live && l.lock = p.2

/-- The lock of an entity: the one kept, else a new one. -/
def lookupLock (entityId : String) : Nat × ScopeAwareMdqClient :=
  match (c.keptLocks).get entityId with
  | some lock => (lock, { c with lookupLocks := c.keptLocks })
  | none => (c.nextLock, { c with lookupLocks := c.keptLocks.put entityId c.nextLock, nextLock := c.nextLock + 1 })

/-- `get` is called: its lookup waits for the entity's lock. -/
def call (entityId : String) : ScopeAwareMdqClient :=
  let (lock, c) := c.lookupLock entityId
  { c with lookups := c.lookups ++ [{ entityId, lock, phase := .waiting }] }

/-- The answer from a document this lookup fetched. -/
def promoted (entityId : String) (a : Accepted) : ResolvedIdpMetadata :=
  { entity := a.entity
    scopes := reader.trustedScopes a.document entityId
    policyValues := reader.trustedIdpPolicyValues a.entity }

def insertScopes (i : Nat) (l : Lookup) (a : Accepted) : ScopeAwareMdqClient :=
  { c with trustedScopes := c.trustedScopes.insert l.entityId (reader.trustedScopes a.document l.entityId) }.advance
    i l (.done (some (promoted reader l.entityId a)))

/-- One turn of a lookup in its phase. A turn that is not enabled does nothing. -/
def turn (i : Nat) (l : Lookup) : LookupPhase → Turn → ScopeAwareMdqClient
  | .waiting, .acquire _ =>
    if c.lookups.all fun m => !(m.holds && m.lock = l.lock) then c.advance i l .locked else c
  | .waiting, .abandon _ => c.advance i l (.done none)
  | .locked, .openCaches _ =>
    if c.mutexFree then
      if c.trustedScopes.requiresReset l.entityId capacity then { c with mdq := [] }.advance i l .resetting
      else c.advance i l (.asking (c.trustedScopes.get l.entityId))
    else c
  | .resetting, .finishReset _ =>
    { c with trustedScopes := c.trustedScopes.clear }.advance i l (.asking (c.trustedScopes.clear.get l.entityId))
  | .asking cachedScopes, .hit _ =>
    match c.mdq.get l.entityId with
    | some a =>
      c.advance i l (.done (some {
        entity := a.entity
        scopes := cachedScopes
        policyValues := reader.trustedIdpPolicyValues a.entity }))
    | none => c
  | .asking _, .fetch _ a kept =>
    { c with
      mdq := if kept then c.mdq.put l.entityId a else c.mdq.erase l.entityId
      fetched := c.fetched ++ [(l.entityId, a)] }.advance i l (.accepted a)
  | .asking _, .fail _ => c.advance i l (.done none)
  | .asking _, .abandon _ => c.advance i l (.done none)
  | .accepted a, .promote _ =>
    if c.mutexFree then
      if c.trustedScopes.requiresReset l.entityId capacity then { c with mdq := [] }.advance i l (.promoting a)
      else c.insertScopes reader i l a
    else c
  | .promoting a, .finishPromote _ =>
    { c with trustedScopes := c.trustedScopes.clear }.insertScopes reader i l a
  | _, _ => c

def Turn.lookup : Turn → Option Nat
  | .call _ | .purge _ => none
  | .acquire i | .openCaches i | .finishReset i | .hit i | .fetch i _ _ | .fail i | .promote i | .finishPromote i
  | .abandon i => some i

def step (t : Turn) : ScopeAwareMdqClient :=
  match t with
  | .call entityId => c.call entityId
  | .purge entityId => { c with mdq := c.mdq.erase entityId }
  | t =>
    match (Turn.lookup t).bind fun i => (c.lookups[i]?).map (i, ·) with
    | some (i, l) => c.turn reader capacity i l l.phase t
    | none => c

/-! ## The lookups after a turn -/

variable {reader capacity c} {i : Nat} {l : Lookup} {phase : LookupPhase}

/-- A lookup moved on; the locks are as they were. -/
structure Moves (c c' : ScopeAwareMdqClient) (i : Nat) (l : Lookup) (phase : LookupPhase) : Prop where
  here : c.lookups[i]? = some l
  lookups : ∀ j, c'.lookups[j]? = if i = j then some { l with phase } else c.lookups[j]?
  locks : c'.lookupLocks = c.lookupLocks

theorem moves_advance (c₁ : ScopeAwareMdqClient) (hl : c.lookups[i]? = some l) (hlookups : c₁.lookups = c.lookups)
    (hlocks : c₁.lookupLocks = c.lookupLocks) (phase : LookupPhase) : Moves c (c₁.advance i l phase) i l phase := by
  obtain ⟨hlt, _⟩ := List.getElem?_eq_some_iff.mp hl
  refine ⟨hl, fun j => ?_, hlocks⟩
  unfold advance
  rw [hlookups, List.getElem?_set, if_pos hlt]

/-- A lookup after a move: the one moved, or another as it was. -/
theorem Moves.cases {c' : ScopeAwareMdqClient} (h : Moves c c' i l phase) {j : Nat} {m : Lookup}
    (hm : c'.lookups[j]? = some m) : (j = i ∧ m = { l with phase }) ∨ (j ≠ i ∧ c.lookups[j]? = some m) := by
  rw [h.lookups j] at hm
  split at hm
  next heq => exact .inl ⟨heq.symm, (Option.some.inj hm).symm⟩
  next hne => exact .inr ⟨fun heq => hne heq.symm, hm⟩

theorem Moves.self {c' : ScopeAwareMdqClient} (h : Moves c c' i l phase) : c'.lookups[i]? = some { l with phase } := by
  rw [h.lookups i, if_pos rfl]

theorem Moves.other {c' : ScopeAwareMdqClient} (h : Moves c c' i l phase) {j : Nat} (hj : j ≠ i) :
    c'.lookups[j]? = c.lookups[j]? := by
  rw [h.lookups j, if_neg fun heq => hj heq.symm]

/-! ## The locks -/

/-- A live lookup keeps its entity's lock, a lock is held once, and so is the
mutex of the scope cache. -/
structure LocksOk (c : ScopeAwareMdqClient) : Prop where
  distinct : c.lookupLocks.Distinct
  lock : ∀ (i : Nat) (l : Lookup), c.lookups[i]? = some l → l.live = true → c.lookupLocks.get l.entityId = some l.lock
  exclusive : ∀ (i j : Nat) (l m : Lookup), c.lookups[i]? = some l → c.lookups[j]? = some m → l.holds = true → m.holds = true →
    l.lock = m.lock → i = j
  mutex : ∀ (i j : Nat) (l m : Lookup), c.lookups[i]? = some l → c.lookups[j]? = some m → l.inBlock = true → m.inBlock = true → i = j

theorem live_of_holds (h : l.holds = true) : l.live = true := by
  unfold Lookup.holds at h
  unfold Lookup.live
  cases hphase : l.phase <;> simp_all

/-- **Of the lookups of one entity at most one holds its lock.** -/
theorem LocksOk.same_entity (h : c.LocksOk) {i j : Nat} {l m : Lookup} (hl : c.lookups[i]? = some l)
    (hm : c.lookups[j]? = some m) (hlholds : l.holds = true) (hmholds : m.holds = true)
    (hentity : l.entityId = m.entityId) : i = j := by
  have hllock := h.lock i l hl (live_of_holds hlholds)
  have hmlock := h.lock j m hm (live_of_holds hmholds)
  rw [hentity, hmlock] at hllock
  exact h.exclusive i j l m hl hm hlholds hmholds (Option.some.inj hllock).symm

theorem LocksOk.moves {c' : ScopeAwareMdqClient} (h : c.LocksOk) (hmoves : Moves c c' i l phase)
    (hlive : l.live = true)
    (hholds : l.holds = true ∨ (∀ (j : Nat) (m : Lookup), c.lookups[j]? = some m → m.holds = true → m.lock ≠ l.lock) ∨
      Lookup.holds { l with phase } = false)
    (hblock : l.inBlock = true ∨ (∀ (j : Nat) (m : Lookup), c.lookups[j]? = some m → m.inBlock = false) ∨
      Lookup.inBlock { l with phase } = false) : c'.LocksOk := by
  refine ⟨hmoves.locks ▸ h.distinct, fun j m hm hmlive => ?_, fun j k m n hm hn hmholds hnholds hsame => ?_,
    fun j k m n hm hn hmblock hnblock => ?_⟩
  · rw [hmoves.locks]
    rcases hmoves.cases hm with ⟨_, rfl⟩ | ⟨_, hm⟩
    · exact h.lock i l hmoves.here hlive
    · exact h.lock j m hm hmlive
  · have hself : ∀ (j : Nat) (m : Lookup), j ≠ i → c.lookups[j]? = some m → m.holds = true →
        Lookup.holds { l with phase } = true → m.lock ≠ l.lock := by
      intro j m hj hm hmholds hnew hlock
      rcases hholds with hl | hfree | hnone
      · exact hj (h.exclusive j i m l hm hmoves.here hmholds hl hlock)
      · exact hfree j m hm hmholds hlock
      · rw [hnone] at hnew
        cases hnew
    rcases hmoves.cases hm with ⟨rfl, rfl⟩ | ⟨hj, hm⟩
    · rcases hmoves.cases hn with ⟨rfl, rfl⟩ | ⟨hk, hn⟩
      · rfl
      · exact absurd hsame.symm (hself k n hk hn hnholds hmholds)
    · rcases hmoves.cases hn with ⟨rfl, rfl⟩ | ⟨hk, hn⟩
      · exact absurd hsame (hself j m hj hm hmholds hnholds)
      · exact h.exclusive j k m n hm hn hmholds hnholds hsame
  · have hself : ∀ (j : Nat) (m : Lookup), j ≠ i → c.lookups[j]? = some m → m.inBlock = true →
        Lookup.inBlock { l with phase } = true → False := by
      intro j m hj hm hmblock hnew
      rcases hblock with hl | hfree | hnone
      · exact hj (h.mutex j i m l hm hmoves.here hmblock hl)
      · rw [hfree j m hm] at hmblock
        cases hmblock
      · rw [hnone] at hnew
        cases hnew
    rcases hmoves.cases hm with ⟨rfl, rfl⟩ | ⟨hj, hm⟩
    · rcases hmoves.cases hn with ⟨rfl, rfl⟩ | ⟨hk, hn⟩
      · rfl
      · exact (hself k n hk hn hnblock hmblock).elim
    · rcases hmoves.cases hn with ⟨rfl, rfl⟩ | ⟨hk, hn⟩
      · exact (hself j m hj hm hmblock hnblock).elim
      · exact h.mutex j k m n hm hn hmblock hnblock

theorem keptLocks_of_live (h : c.LocksOk) (hl : c.lookups[i]? = some l) (hlive : l.live = true) :
    c.keptLocks.get l.entityId = some l.lock := by
  unfold keptLocks
  rw [Assoc.get_filter h.distinct, h.lock i l hl hlive]
  refine Option.filter_eq_some_iff.mpr ⟨rfl, ?_⟩
  refine List.any_eq_true.mpr ⟨l, List.mem_of_getElem? hl, ?_⟩
  simp [hlive]

theorem append_cases {ls : List Lookup} {new m : Lookup} {j : Nat} (h : (ls ++ [new])[j]? = some m) :
    ls[j]? = some m ∨ (j = ls.length ∧ m = new) := by
  by_cases hj : j < ls.length
  · rw [List.getElem?_append_left hj] at h
    exact .inl h
  · rw [List.getElem?_append_right (Nat.le_of_not_lt hj)] at h
    cases hk : j - ls.length with
    | zero =>
      rw [hk] at h
      exact .inr ⟨by omega, (Option.some.inj h).symm⟩
    | succ k =>
      rw [hk] at h
      cases h

theorem call_lookups (entityId : String) : (c.call entityId).lookups =
    c.lookups ++ [{ entityId, lock := (c.lookupLock entityId).1, phase := .waiting }] := by
  show (c.lookupLock entityId).2.lookups ++ _ = _
  unfold lookupLock
  split <;> rfl

/-- **A call finds its entity's lock, or makes one nobody else has.** -/
theorem LocksOk.call (h : c.LocksOk) (entityId : String) : (c.call entityId).LocksOk := by
  have hdistinct : c.keptLocks.Distinct := h.distinct.filter _
  have hlookup : ∀ (j : Nat) (m : Lookup), (c.call entityId).lookups[j]? = some m →
      c.lookups[j]? = some m ∨ (m.entityId = entityId ∧ m.phase = .waiting) := by
    intro j m hm
    rw [call_lookups] at hm
    rcases append_cases hm with hold | ⟨_, rfl⟩
    · exact .inl hold
    · exact .inr ⟨rfl, rfl⟩
  have hwaiting : ∀ m : Lookup, m.phase = .waiting → m.holds = false ∧ m.inBlock = false := by
    intro m hm
    unfold Lookup.holds Lookup.inBlock
    rw [hm]
    exact ⟨rfl, rfl⟩
  refine ⟨?_, fun j m hm hlive => ?_, fun j k m n hm hn hmholds hnholds hsame => ?_,
    fun j k m n hm hn hmblock hnblock => ?_⟩
  · show (c.lookupLock entityId).2.lookupLocks.Distinct
    unfold lookupLock
    split
    · exact hdistinct
    · exact hdistinct.put entityId c.nextLock
  · rw [call_lookups] at hm
    show (c.lookupLock entityId).2.lookupLocks.get m.entityId = some m.lock
    unfold lookupLock at hm ⊢
    cases hkept : c.keptLocks.get entityId with
    | some lock =>
      simp only [hkept] at hm ⊢
      rcases append_cases hm with hold | ⟨_, rfl⟩
      · exact keptLocks_of_live h hold hlive
      · exact hkept
    | none =>
      simp only [hkept] at hm ⊢
      rcases append_cases hm with hold | ⟨_, rfl⟩
      · have hget := keptLocks_of_live h hold hlive
        have hne : entityId ≠ m.entityId := by
          rintro rfl
          rw [hkept] at hget
          cases hget
        rw [Assoc.get_put_other _ _ hne]
        exact hget
      · exact Assoc.get_put_self _ _ _
  · rcases hlookup j m hm with hm | ⟨_, hw⟩
    · rcases hlookup k n hn with hn | ⟨_, hw⟩
      · exact h.exclusive j k m n hm hn hmholds hnholds hsame
      · rw [(hwaiting n hw).1] at hnholds
        cases hnholds
    · rw [(hwaiting m hw).1] at hmholds
      cases hmholds
  · rcases hlookup j m hm with hm | ⟨_, hw⟩
    · rcases hlookup k n hn with hn | ⟨_, hw⟩
      · exact h.mutex j k m n hm hn hmblock hnblock
      · rw [(hwaiting n hw).2] at hnblock
        cases hnblock
    · rw [(hwaiting m hw).2] at hmblock
      cases hmblock

/-! ## The caches -/

/-- A lookup of the entity has yet to keep the scopes of what it fetched. -/
def Pending (c : ScopeAwareMdqClient) (e : String) : Prop :=
  ∃ (j : Nat) (m : Lookup) (a : Accepted), c.lookups[j]? = some m ∧ m.entityId = e ∧ m.phase = .accepted a

/-- A cached entity has the scopes of its document cached. -/
def Agree (reader : MetadataReader) (c : ScopeAwareMdqClient) (e : String) : Prop :=
  ∀ a, c.mdq.get e = some a → c.trustedScopes.entries.get e = some (reader.trustedScopes a.document e)

/-- What holds of the two caches between any two turns. -/
structure CachesOk (reader : MetadataReader) (capacity : Nat) (c : ScopeAwareMdqClient) : Prop where
  settled : ∀ e, c.Pending e ∨ c.Agree reader e
  /-- A reset has cleared the MDQ cache: what is there since is pending. -/
  emptied : ∀ (i : Nat) (l : Lookup), c.lookups[i]? = some l → l.inBlock = true →
    ∀ e, c.Pending e ∨ c.mdq.get e = none
  opened : ∀ (i : Nat) (l : Lookup) cachedScopes a, c.lookups[i]? = some l → l.phase = .asking cachedScopes →
    c.mdq.get l.entityId = some a → cachedScopes = reader.trustedScopes a.document l.entityId
  newest : ∀ (i : Nat) (l : Lookup) a a', c.lookups[i]? = some l → l.phase = .accepted a →
    c.mdq.get l.entityId = some a' → a' = a
  distinct : c.trustedScopes.entries.Distinct
  bounded : c.trustedScopes.entries.length ≤ capacity

variable {c' : ScopeAwareMdqClient}

theorem Pending.moves {e : String} (h : c.Pending e) (hmoves : Moves c c' i l phase)
    (hl : (∀ a, l.phase ≠ .accepted a) ∨ e ≠ l.entityId) : c'.Pending e := by
  obtain ⟨j, m, a, hm, hentity, hphase⟩ := h
  by_cases hj : j = i
  · subst hj
    rw [hmoves.here] at hm
    cases hm
    rcases hl with hnot | hne
    · exact absurd hphase (hnot a)
    · exact absurd hentity.symm hne
  · exact ⟨j, m, a, (hmoves.other hj).trans hm, hentity, hphase⟩

/-- No other lookup of an entity has something pending while one holds its lock. -/
theorem LocksOk.not_pending (h : c.LocksOk) (hl : c.lookups[i]? = some l) (hholds : l.holds = true)
    (hphase : ∀ a, l.phase ≠ .accepted a) : ¬ c.Pending l.entityId := by
  rintro ⟨j, m, a, hm, hentity, hma⟩
  have hmholds : m.holds = true := by
    unfold Lookup.holds
    rw [hma]
  have hsame := h.same_entity hl hm hholds hmholds hentity.symm
  subst hsame
  rw [hl] at hm
  cases hm
  exact hphase a hma

theorem CachesOk.quiet (h : c.CachesOk reader capacity) (hmoves : Moves c c' i l phase) (hmdq : c'.mdq = c.mdq)
    (hscopes : c'.trustedScopes = c.trustedScopes) (hl : ∀ a, l.phase ≠ .accepted a)
    (hasking : ∀ cachedScopes a, phase = .asking cachedScopes → c.mdq.get l.entityId = some a →
      cachedScopes = reader.trustedScopes a.document l.entityId)
    (haccepted : ∀ a, phase ≠ .accepted a)
    (hblock : Lookup.inBlock { l with phase } = true → ∀ e, c.mdq.get e = none) : c'.CachesOk reader capacity := by
  refine ⟨fun e => ?_, fun j m hm hmblock e => ?_, fun j m cachedScopes a hm hphase ha => ?_,
    fun j m a a' hm hphase ha => ?_, by rw [hscopes]; exact h.distinct, by rw [hscopes]; exact h.bounded⟩
  · rcases h.settled e with hpending | hagree
    · exact .inl (hpending.moves hmoves (.inl hl))
    · refine .inr fun a ha => ?_
      rw [hmdq] at ha
      rw [hscopes]
      exact hagree a ha
  · rw [hmdq]
    rcases hmoves.cases hm with ⟨_, rfl⟩ | ⟨_, hm⟩
    · exact .inr (hblock hmblock e)
    · exact (h.emptied j m hm hmblock e).imp (fun hpending => hpending.moves hmoves (.inl hl)) id
  · rw [hmdq] at ha
    rcases hmoves.cases hm with ⟨_, rfl⟩ | ⟨_, hm⟩
    · exact hasking cachedScopes a hphase ha
    · exact h.opened j m cachedScopes a hm hphase ha
  · rw [hmdq] at ha
    rcases hmoves.cases hm with ⟨_, rfl⟩ | ⟨_, hm⟩
    · exact absurd hphase (haccepted a)
    · exact h.newest j m a a' hm hphase ha

/-- The first half of a reset: no entity is cached, so nothing has to agree. -/
theorem CachesOk.cleared (h : c.CachesOk reader capacity) (hmdq : c'.mdq = [])
    (hscopes : c'.trustedScopes = c.trustedScopes) : c'.CachesOk reader capacity := by
  have hnone : ∀ e, c'.mdq.get e = none := by
    intro e
    rw [hmdq]
    rfl
  refine ⟨fun e => .inr fun a ha => ?_, fun j m hm hmblock e => .inr (hnone e), fun j m cachedScopes a hm hphase ha => ?_,
    fun j m a a' hm hphase ha => ?_, by rw [hscopes]; exact h.distinct, by rw [hscopes]; exact h.bounded⟩
  · rw [hnone] at ha
    cases ha
  · rw [hnone] at ha
    cases ha
  · rw [hnone] at ha
    cases ha

/-- The second half: what is cached by now is pending. -/
theorem CachesOk.finishReset (h : c.CachesOk reader capacity) (hlocks : c.LocksOk)
    (hmoves : Moves c c' i l (.asking [])) (hmdq : c'.mdq = c.mdq) (hscopes : c'.trustedScopes = {})
    (hphase : l.phase = .resetting) : c'.CachesOk reader capacity := by
  have hblock : l.inBlock = true := by unfold Lookup.inBlock; rw [hphase]
  have hholds : l.holds = true := by unfold Lookup.holds; rw [hphase]
  have hnot : ∀ a, l.phase ≠ .accepted a := by
    intro a
    rw [hphase]
    simp
  have hpending : ∀ e, c'.Pending e ∨ c'.mdq.get e = none := by
    intro e
    rw [hmdq]
    exact (h.emptied i l hmoves.here hblock e).imp (fun hpending => hpending.moves hmoves (.inl hnot)) id
  refine ⟨fun e => (hpending e).imp id fun hnone a ha => ?_, fun j m hm hmblock e => hpending e,
    fun j m cachedScopes a hm hasking ha => ?_, fun j m a a' hm haccepted ha => ?_, ?_, ?_⟩
  · rw [hnone] at ha
    cases ha
  · rw [hmdq] at ha
    rcases hmoves.cases hm with ⟨_, rfl⟩ | ⟨_, hm⟩
    · rcases h.emptied i l hmoves.here hblock l.entityId with hpending | hnone
      · exact absurd hpending (hlocks.not_pending hmoves.here hholds hnot)
      · rw [show c.mdq.get l.entityId = some a from ha] at hnone
        cases hnone
    · exact h.opened j m cachedScopes a hm hasking ha
  · rw [hmdq] at ha
    rcases hmoves.cases hm with ⟨_, rfl⟩ | ⟨_, hm⟩
    · cases haccepted
    · exact h.newest j m a a' hm haccepted ha
  · rw [hscopes]
    exact List.nodup_nil
  · rw [hscopes]
    exact Nat.zero_le _

/-- **Fetching makes the entity pending**, cached or not. -/
theorem CachesOk.fetch (h : c.CachesOk reader capacity) (hlocks : c.LocksOk) {a : Accepted}
    (hmoves : Moves c c' i l (.accepted a)) {cachedScopes : List String} (hphase : l.phase = .asking cachedScopes)
    (hself : ∀ a', c'.mdq.get l.entityId = some a' → a' = a)
    (hother : ∀ e, e ≠ l.entityId → c'.mdq.get e = c.mdq.get e) (hscopes : c'.trustedScopes = c.trustedScopes) :
    c'.CachesOk reader capacity := by
  have hholds : l.holds = true := by unfold Lookup.holds; rw [hphase]
  have hnot : ∀ a, l.phase ≠ .accepted a := by
    intro a
    rw [hphase]
    simp
  have hpending : c'.Pending l.entityId := ⟨i, _, a, hmoves.self, rfl, rfl⟩
  -- another lookup past its lock is of another entity
  have hne : ∀ (j : Nat) (m : Lookup), j ≠ i → c.lookups[j]? = some m → m.holds = true → m.entityId ≠ l.entityId := by
    intro j m hj hm hmholds hsame
    exact hj (hlocks.same_entity hm hmoves.here hmholds hholds hsame)
  refine ⟨fun e => ?_, fun j m hm hmblock e => ?_, fun j m cachedScopes a' hm hasking ha => ?_,
    fun j m a₁ a' hm haccepted ha => ?_, by rw [hscopes]; exact h.distinct, by rw [hscopes]; exact h.bounded⟩
  · by_cases he : e = l.entityId
    · exact .inl (he ▸ hpending)
    · refine (h.settled e).imp (fun hpending => hpending.moves hmoves (.inl hnot)) fun hagree a' ha => ?_
      rw [hother e he] at ha
      rw [hscopes]
      exact hagree a' ha
  · by_cases he : e = l.entityId
    · exact .inl (he ▸ hpending)
    · rw [hother e he]
      rcases hmoves.cases hm with ⟨_, rfl⟩ | ⟨_, hm⟩
      · cases hmblock
      · exact (h.emptied j m hm hmblock e).imp (fun hpending => hpending.moves hmoves (.inl hnot)) id
  · rcases hmoves.cases hm with ⟨_, rfl⟩ | ⟨hj, hm⟩
    · cases hasking
    · have hmholds : m.holds = true := by unfold Lookup.holds; rw [hasking]
      rw [hother _ (hne j m hj hm hmholds)] at ha
      exact h.opened j m cachedScopes a' hm hasking ha
  · rcases hmoves.cases hm with ⟨_, rfl⟩ | ⟨hj, hm⟩
    · cases haccepted
      exact hself a' ha
    · have hmholds : m.holds = true := by unfold Lookup.holds; rw [haccepted]
      rw [hother _ (hne j m hj hm hmholds)] at ha
      exact h.newest j m a₁ a' hm haccepted ha

/-- Promoting without a reset: the scopes kept are those of the cached document. -/
theorem CachesOk.promote (h : c.CachesOk reader capacity) {a : Accepted} {answer : Option ResolvedIdpMetadata}
    (hmoves : Moves c c' i l (.done answer)) (hphase : l.phase = .accepted a)
    (hfree : ∀ (j : Nat) (m : Lookup), c.lookups[j]? = some m → m.inBlock = false)
    (hroom : c.trustedScopes.requiresReset l.entityId capacity = false) (hmdq : c'.mdq = c.mdq)
    (hscopes : c'.trustedScopes = c.trustedScopes.insert l.entityId (reader.trustedScopes a.document l.entityId)) :
    c'.CachesOk reader capacity := by
  refine ⟨fun e => ?_, fun j m hm hmblock e => ?_, fun j m cachedScopes a' hm hasking ha => ?_,
    fun j m a₁ a' hm haccepted ha => ?_, ?_, ?_⟩
  · by_cases he : e = l.entityId
    · subst he
      refine .inr fun a' ha => ?_
      rw [hmdq] at ha
      rw [hscopes, h.newest i l a a' hmoves.here hphase ha]
      exact Assoc.get_put_self _ _ _
    · refine (h.settled e).imp (fun hpending => hpending.moves hmoves (.inr he)) fun hagree a' ha => ?_
      rw [hmdq] at ha
      rw [hscopes]
      exact (Assoc.get_put_other _ _ fun heq => he heq.symm).trans (hagree a' ha)
  · rcases hmoves.cases hm with ⟨_, rfl⟩ | ⟨_, hm⟩
    · cases hmblock
    · rw [hfree j m hm] at hmblock
      cases hmblock
  · rw [hmdq] at ha
    rcases hmoves.cases hm with ⟨_, rfl⟩ | ⟨_, hm⟩
    · cases hasking
    · exact h.opened j m cachedScopes a' hm hasking ha
  · rw [hmdq] at ha
    rcases hmoves.cases hm with ⟨_, rfl⟩ | ⟨_, hm⟩
    · cases haccepted
    · exact h.newest j m a₁ a' hm haccepted ha
  · rw [hscopes]
    exact h.distinct.put _ _
  · rw [hscopes]
    show (c.trustedScopes.entries.put l.entityId _).length ≤ capacity
    unfold TrustedScopeCache.requiresReset at hroom
    cases hget : c.trustedScopes.entries.get l.entityId with
    | none =>
      rw [hget] at hroom
      have hlt : ¬ capacity ≤ c.trustedScopes.entries.length := by simpa using hroom
      have hlength := Assoc.length_put_le c.trustedScopes.entries l.entityId
        (reader.trustedScopes a.document l.entityId)
      omega
    | some scopes =>
      rw [Assoc.length_put_of_mem _ hget]
      exact h.bounded

/-- Promoting after a reset: what is cached by now is pending. -/
theorem CachesOk.finishPromote (h : c.CachesOk reader capacity) (hcapacity : 0 < capacity) {a : Accepted}
    {answer : Option ResolvedIdpMetadata} (hmoves : Moves c c' i l (.done answer)) (hphase : l.phase = .promoting a)
    (hmdq : c'.mdq = c.mdq)
    (hscopes : c'.trustedScopes = { entries := [(l.entityId, reader.trustedScopes a.document l.entityId)] }) :
    c'.CachesOk reader capacity := by
  have hblock : l.inBlock = true := by unfold Lookup.inBlock; rw [hphase]
  have hnot : ∀ a, l.phase ≠ .accepted a := by
    intro a
    rw [hphase]
    simp
  have hpending : ∀ e, c'.Pending e ∨ c'.mdq.get e = none := by
    intro e
    rw [hmdq]
    exact (h.emptied i l hmoves.here hblock e).imp (fun hpending => hpending.moves hmoves (.inl hnot)) id
  refine ⟨fun e => (hpending e).imp id fun hnone a ha => ?_, fun j m hm hmblock e => hpending e,
    fun j m cachedScopes a' hm hasking ha => ?_, fun j m a₁ a' hm haccepted ha => ?_, ?_, ?_⟩
  · rw [hnone] at ha
    cases ha
  · rw [hmdq] at ha
    rcases hmoves.cases hm with ⟨_, rfl⟩ | ⟨_, hm⟩
    · cases hasking
    · exact h.opened j m cachedScopes a' hm hasking ha
  · rw [hmdq] at ha
    rcases hmoves.cases hm with ⟨_, rfl⟩ | ⟨_, hm⟩
    · cases haccepted
    · exact h.newest j m a₁ a' hm haccepted ha
  · rw [hscopes]
    show [l.entityId].Nodup
    simp
  · rw [hscopes]
    exact hcapacity

/-! ## Where it all comes from -/

/-- The answer is an accepted entity with the scopes of its document. -/
def Answers (reader : MetadataReader) (c : ScopeAwareMdqClient) (entityId : String) (answer : ResolvedIdpMetadata) :
    Prop :=
  ∃ a, (entityId, a) ∈ c.fetched ∧ answer.entity = a.entity ∧ answer.scopes = reader.trustedScopes a.document entityId

/-- What is cached, pending or answered was fetched and accepted. -/
structure Sourced (reader : MetadataReader) (c : ScopeAwareMdqClient) : Prop where
  mdq : ∀ e a, c.mdq.get e = some a → (e, a) ∈ c.fetched
  pending : ∀ (i : Nat) (l : Lookup) a, c.lookups[i]? = some l → l.phase = .accepted a ∨ l.phase = .promoting a →
    (l.entityId, a) ∈ c.fetched
  answered : ∀ (i : Nat) (l : Lookup) answer, c.lookups[i]? = some l → l.phase = .done (some answer) →
    Answers reader c l.entityId answer

theorem Answers.mono {entityId : String} {answer : ResolvedIdpMetadata} (h : Answers reader c entityId answer)
    (hfetched : ∀ p ∈ c.fetched, p ∈ c'.fetched) : Answers reader c' entityId answer := by
  obtain ⟨a, hmem, hsame⟩ := h
  exact ⟨a, hfetched _ hmem, hsame⟩

theorem Sourced.moves (h : Sourced reader c) (hmoves : Moves c c' i l phase)
    (hmdq : ∀ e a, c'.mdq.get e = some a → (e, a) ∈ c'.fetched) (hfetched : ∀ p ∈ c.fetched, p ∈ c'.fetched)
    (hpending : ∀ a, phase = .accepted a ∨ phase = .promoting a → (l.entityId, a) ∈ c'.fetched)
    (hanswer : ∀ answer, phase = .done (some answer) → Answers reader c' l.entityId answer) : Sourced reader c' := by
  refine ⟨hmdq, fun j m a hm hphase => ?_, fun j m answer hm hphase => ?_⟩
  · rcases hmoves.cases hm with ⟨_, rfl⟩ | ⟨_, hm⟩
    · exact hpending a hphase
    · exact hfetched _ (h.pending j m a hm hphase)
  · rcases hmoves.cases hm with ⟨_, rfl⟩ | ⟨_, hm⟩
    · exact hanswer answer hphase
    · exact (h.answered j m answer hm hphase).mono hfetched

/-! ## Turns -/

structure Consistent (reader : MetadataReader) (capacity : Nat) (c : ScopeAwareMdqClient) : Prop where
  locks : c.LocksOk
  caches : c.CachesOk reader capacity
  sourced : Sourced reader c

theorem inBlock_of_mutexFree (h : c.mutexFree = true) :
    ∀ (j : Nat) (m : Lookup), c.lookups[j]? = some m → m.inBlock = false := by
  intro j m hm
  have hall := List.all_eq_true.mp h m (List.mem_of_getElem? hm)
  simpa using hall

theorem Consistent.call (h : c.Consistent reader capacity) (entityId : String) :
    (c.call entityId).Consistent reader capacity := by
  have hlookups := call_lookups (c := c) entityId
  have hcaches : (c.call entityId).mdq = c.mdq ∧ (c.call entityId).trustedScopes = c.trustedScopes ∧
      (c.call entityId).fetched = c.fetched := by
    show (c.lookupLock entityId).2.mdq = _ ∧ (c.lookupLock entityId).2.trustedScopes = _ ∧
      (c.lookupLock entityId).2.fetched = _
    unfold lookupLock
    split <;> exact ⟨rfl, rfl, rfl⟩
  obtain ⟨hmdq, hscopes, hfetched⟩ := hcaches
  have hold : ∀ (j : Nat) (m : Lookup), (c.call entityId).lookups[j]? = some m →
      c.lookups[j]? = some m ∨ m.phase = .waiting := by
    intro j m hm
    rw [hlookups] at hm
    rcases append_cases hm with hm | ⟨_, rfl⟩
    · exact .inl hm
    · exact .inr rfl
  have hpending : ∀ e, c.Pending e → (c.call entityId).Pending e := by
    rintro e ⟨j, m, a, hm, hrest⟩
    refine ⟨j, m, a, ?_, hrest⟩
    rw [hlookups]
    exact (List.getElem?_append_left (List.getElem?_eq_some_iff.mp hm).1).trans hm
  refine ⟨h.locks.call entityId, ⟨fun e => ?_, fun j m hm hmblock e => ?_, fun j m cachedScopes a hm hphase ha => ?_,
    fun j m a a' hm hphase ha => ?_, by rw [hscopes]; exact h.caches.distinct,
    by rw [hscopes]; exact h.caches.bounded⟩, ⟨fun e a ha => ?_, fun j m a hm hphase => ?_,
    fun j m answer hm hphase => ?_⟩⟩
  · refine (h.caches.settled e).imp (hpending e) fun hagree a ha => ?_
    rw [hmdq] at ha
    rw [hscopes]
    exact hagree a ha
  · rw [hmdq]
    rcases hold j m hm with hm | hwaiting
    · exact (h.caches.emptied j m hm hmblock e).imp (hpending e) id
    · unfold Lookup.inBlock at hmblock
      rw [hwaiting] at hmblock
      cases hmblock
  · rw [hmdq] at ha
    rcases hold j m hm with hm | hwaiting
    · exact h.caches.opened j m cachedScopes a hm hphase ha
    · rw [hwaiting] at hphase
      cases hphase
  · rw [hmdq] at ha
    rcases hold j m hm with hm | hwaiting
    · exact h.caches.newest j m a a' hm hphase ha
    · rw [hwaiting] at hphase
      cases hphase
  · rw [hmdq] at ha
    rw [hfetched]
    exact h.sourced.mdq e a ha
  · rw [hfetched]
    rcases hold j m hm with hm | hwaiting
    · exact h.sourced.pending j m a hm hphase
    · rw [hwaiting] at hphase
      rcases hphase with hphase | hphase <;> cases hphase
  · rcases hold j m hm with hm | hwaiting
    · exact (h.sourced.answered j m answer hm hphase).mono fun p hp => by rw [hfetched]; exact hp
    · rw [hwaiting] at hphase
      cases hphase

theorem Consistent.purge (h : c.Consistent reader capacity) (entityId : String) :
    Consistent reader capacity { c with mdq := c.mdq.erase entityId } := by
  have hless : ∀ e a, (c.mdq.erase entityId).get e = some a → c.mdq.get e = some a := by
    intro e a ha
    rw [Assoc.get_erase] at ha
    split at ha
    · cases ha
    · exact ha
  refine ⟨⟨h.locks.distinct, h.locks.lock, h.locks.exclusive, h.locks.mutex⟩,
    ⟨fun e => (h.caches.settled e).imp id fun hagree a ha => hagree a (hless e a ha), fun j m hm hmblock e => ?_,
      fun j m cachedScopes a hm hphase ha => h.caches.opened j m cachedScopes a hm hphase (hless _ a ha),
      fun j m a a' hm hphase ha => h.caches.newest j m a a' hm hphase (hless _ a' ha), h.caches.distinct,
      h.caches.bounded⟩,
    ⟨fun e a ha => h.sourced.mdq e a (hless e a ha), h.sourced.pending, h.sourced.answered⟩⟩
  refine (h.caches.emptied j m hm hmblock e).imp id fun hnone => ?_
  cases hget : (c.mdq.erase entityId).get e with
  | none => rfl
  | some a =>
    rw [hless e a hget] at hnone
    cases hnone

theorem Consistent.quiet (h : c.Consistent reader capacity) (hl : c.lookups[i]? = some l) (hlive : l.live = true)
    (hnot : ∀ a, l.phase ≠ .accepted a)
    (hholds : l.holds = true ∨ (∀ (j : Nat) (m : Lookup), c.lookups[j]? = some m → m.holds = true → m.lock ≠ l.lock) ∨
      Lookup.holds { l with phase } = false)
    (hblock : Lookup.inBlock { l with phase } = false)
    (hasking : ∀ cachedScopes a, phase = .asking cachedScopes → c.mdq.get l.entityId = some a →
      cachedScopes = reader.trustedScopes a.document l.entityId)
    (hpending : ∀ a, phase ≠ .accepted a ∧ phase ≠ .promoting a)
    (hanswer : ∀ answer, phase = .done (some answer) → Answers reader c l.entityId answer) :
    (c.advance i l phase).Consistent reader capacity := by
  have hmoves := moves_advance c hl rfl rfl phase
  refine ⟨h.locks.moves hmoves hlive hholds (.inr (.inr hblock)), h.caches.quiet hmoves rfl rfl hnot hasking
    (fun a => (hpending a).1) (fun hin => (by rw [hblock] at hin; cases hin)), h.sourced.moves hmoves h.sourced.mdq
    (fun _ hp => hp) (fun a hphase => ?_) hanswer⟩
  rcases hphase with hphase | hphase
  · exact absurd hphase (hpending a).1
  · exact absurd hphase (hpending a).2

/-- **A lookup's turn keeps the invariant**, whichever phase it is in. -/
theorem Consistent.turn (h : c.Consistent reader capacity) (hcapacity : 0 < capacity) (hl : c.lookups[i]? = some l)
    (t : Turn) : (c.turn reader capacity i l l.phase t).Consistent reader capacity := by
  have hmem := h.sourced
  unfold ScopeAwareMdqClient.turn
  split
  next hphase =>
    split
    next hfree =>
      refine h.quiet hl (by simp [Lookup.live, hphase]) (by simp [hphase]) (.inr (.inl fun j m hm hmholds hlock => ?_)) rfl
        (by simp) (by simp) (by simp)
      have hall := List.all_eq_true.mp hfree m (List.mem_of_getElem? hm)
      simp [hmholds, hlock] at hall
    next => exact h
  next hphase =>
    exact h.quiet hl (by simp [Lookup.live, hphase]) (by simp [hphase]) (.inr (.inr rfl)) rfl (by simp) (by simp) (by simp)
  next hphase =>
    have hholds : l.holds = true := by simp [Lookup.holds, hphase]
    have hlive := live_of_holds hholds
    split
    next hfree =>
      have hblocks := inBlock_of_mutexFree hfree
      split
      next hreset =>
        have hmoves := moves_advance { c with mdq := [] } hl rfl rfl .resetting
        refine ⟨h.locks.moves hmoves hlive (.inl hholds) (.inr (.inl hblocks)), h.caches.cleared rfl rfl,
          hmem.moves hmoves (fun e a ha => (by cases ha)) (fun _ hp => hp) (by simp) (by simp)⟩
      next =>
        refine h.quiet hl hlive (by simp [hphase]) (.inl hholds) rfl (fun cachedScopes a hasking ha => ?_) (by simp) (by simp)
        cases hasking
        rcases h.caches.settled l.entityId with hpending | hagree
        · exact absurd hpending (h.locks.not_pending hl hholds (by simp [hphase]))
        · unfold TrustedScopeCache.get
          rw [hagree a ha]
          rfl
    next => exact h
  next hphase =>
    have hholds : l.holds = true := by simp [Lookup.holds, hphase]
    have hmoves := moves_advance { c with trustedScopes := c.trustedScopes.clear } hl rfl rfl (.asking [])
    refine ⟨h.locks.moves hmoves (live_of_holds hholds) (.inl hholds) (.inr (.inr rfl)),
      h.caches.finishReset h.locks hmoves rfl rfl hphase, hmem.moves hmoves hmem.mdq (fun _ hp => hp) (by simp) (by simp)⟩
  next cachedScopes _ hphase =>
    have hholds : l.holds = true := by simp [Lookup.holds, hphase]
    split
    next a ha =>
      refine h.quiet hl (live_of_holds hholds) (by simp [hphase]) (.inl hholds) rfl (by simp) (by simp) ?_
      intro answer hanswer
      cases hanswer
      exact ⟨a, hmem.mdq _ a ha, rfl, h.caches.opened i l cachedScopes a hl hphase ha⟩
    next => exact h
  next cachedScopes _ a kept hphase =>
    have hholds : l.holds = true := by simp [Lookup.holds, hphase]
    have hmoves := moves_advance { c with
      mdq := if kept then c.mdq.put l.entityId a else c.mdq.erase l.entityId
      fetched := c.fetched ++ [(l.entityId, a)] } hl rfl rfl (.accepted a)
    have hself : ∀ a', (if kept then c.mdq.put l.entityId a else c.mdq.erase l.entityId).get l.entityId = some a' →
        a' = a := by
      intro a' ha
      split at ha
      · rw [Assoc.get_put_self] at ha
        exact (Option.some.inj ha).symm
      · rw [Assoc.get_erase, if_pos rfl] at ha
        cases ha
    have hother : ∀ e, e ≠ l.entityId →
        (if kept then c.mdq.put l.entityId a else c.mdq.erase l.entityId).get e = c.mdq.get e := by
      intro e he
      split
      · exact Assoc.get_put_other _ _ fun heq => he heq.symm
      · rw [Assoc.get_erase, if_neg fun heq => he heq.symm]
    refine ⟨h.locks.moves hmoves (live_of_holds hholds) (.inl hholds) (.inr (.inr rfl)),
      h.caches.fetch h.locks hmoves hphase hself hother rfl, hmem.moves hmoves (fun e a' ha => ?_)
      (fun p hp => List.mem_append_left _ hp) (fun a' haccepted => ?_) (by simp)⟩
    · by_cases he : e = l.entityId
      · subst he
        rw [hself a' ha]
        exact List.mem_append_right _ (List.mem_singleton.mpr rfl)
      · exact List.mem_append_left _ (hmem.mdq e a' ((hother e he).symm.trans ha))
    · rcases haccepted with haccepted | haccepted
      · cases haccepted
        exact List.mem_append_right _ (List.mem_singleton.mpr rfl)
      · cases haccepted
  next cachedScopes _ hphase =>
    exact h.quiet hl (by simp [Lookup.live, hphase]) (by simp [hphase]) (.inr (.inr rfl)) rfl (by simp) (by simp) (by simp)
  next cachedScopes _ hphase =>
    exact h.quiet hl (by simp [Lookup.live, hphase]) (by simp [hphase]) (.inr (.inr rfl)) rfl (by simp) (by simp) (by simp)
  next a _ hphase =>
    have hholds : l.holds = true := by simp [Lookup.holds, hphase]
    have hfetched : (l.entityId, a) ∈ c.fetched := hmem.pending i l a hl (.inl hphase)
    split
    next hfree =>
      have hblocks := inBlock_of_mutexFree hfree
      split
      next hreset =>
        have hmoves := moves_advance { c with mdq := [] } hl rfl rfl (.promoting a)
        refine ⟨h.locks.moves hmoves (live_of_holds hholds) (.inl hholds) (.inr (.inl hblocks)),
          h.caches.cleared rfl rfl,
          hmem.moves hmoves (fun e a ha => (by cases ha)) (fun _ hp => hp) (fun a' hpromoting => ?_) (by simp)⟩
        rcases hpromoting with hpromoting | hpromoting
        · cases hpromoting
        · cases hpromoting
          exact hfetched
      next hroom =>
        have hmoves := moves_advance { c with
          trustedScopes := c.trustedScopes.insert l.entityId (reader.trustedScopes a.document l.entityId) } hl rfl rfl
          (.done (some (promoted reader l.entityId a)))
        refine ⟨h.locks.moves hmoves (live_of_holds hholds) (.inl hholds) (.inr (.inr rfl)),
          h.caches.promote hmoves hphase hblocks (by simpa using hroom) rfl rfl,
          hmem.moves hmoves hmem.mdq (fun _ hp => hp) (by simp) (fun answer hanswer => ?_)⟩
        cases hanswer
        exact ⟨a, hfetched, rfl, rfl⟩
    next => exact h
  next a _ hphase =>
    have hholds : l.holds = true := by simp [Lookup.holds, hphase]
    have hmoves := moves_advance { c with
      trustedScopes := c.trustedScopes.clear.insert l.entityId (reader.trustedScopes a.document l.entityId) } hl rfl rfl
      (.done (some (promoted reader l.entityId a)))
    refine ⟨h.locks.moves hmoves (live_of_holds hholds) (.inl hholds) (.inr (.inr rfl)),
      h.caches.finishPromote hcapacity hmoves hphase rfl rfl,
      hmem.moves hmoves hmem.mdq (fun _ hp => hp) (by simp) (fun answer hanswer => ?_)⟩
    cases hanswer
    exact ⟨a, hmem.pending i l a hl (.inr hphase), rfl, rfl⟩
  next => exact h

theorem Consistent.step (h : c.Consistent reader capacity) (hcapacity : 0 < capacity) (t : Turn) :
    (c.step reader capacity t).Consistent reader capacity := by
  unfold ScopeAwareMdqClient.step
  split
  · exact h.call _
  · exact h.purge _
  next =>
    split
    next i l hfound =>
      obtain ⟨j, _, hget⟩ := Option.bind_eq_some_iff.mp hfound
      obtain ⟨m, hm, heq⟩ := Option.map_eq_some_iff.mp hget
      cases heq
      exact h.turn hcapacity hm t
    next => exact h

theorem consistent_new : Consistent reader capacity {} := by
  refine ⟨⟨List.nodup_nil, fun i l hl => (by cases hl), fun i j l m hl => (by cases hl), fun i j l m hl => (by cases hl)⟩,
    ⟨fun e => .inr fun a ha => (by cases ha), fun i l hl => (by cases hl), fun i l cachedScopes a hl => (by cases hl),
      fun i l a a' hl => (by cases hl), List.nodup_nil, Nat.zero_le _⟩,
    ⟨fun e a ha => (by cases ha), fun i l a hl => (by cases hl), fun i l answer hl => (by cases hl)⟩⟩

structure ScopesAgree (reader : MetadataReader) (capacity : Nat) (c : ScopeAwareMdqClient) : Prop where
  /-- A lookup that succeeded returned an accepted entity with the scopes of its
  document. -/
  answered : ∀ (i : Nat) (l : Lookup) answer, c.lookups[i]? = some l → l.phase = .done (some answer) →
    Answers reader c l.entityId answer
  /-- An entity cached while no lookup of it is in progress has its scopes cached. -/
  cached : ∀ e a, (∀ l ∈ c.lookups, l.entityId = e → l.live = false) → c.mdq.get e = some a →
    c.trustedScopes.entries.get e = some (reader.trustedScopes a.document e)
  bounded : c.trustedScopes.entries.length ≤ capacity

theorem Consistent.agree (h : c.Consistent reader capacity) : c.ScopesAgree reader capacity := by
  refine ⟨h.sourced.answered, fun e a hidle ha => ?_, h.caches.bounded⟩
  rcases h.caches.settled e with ⟨j, m, a', hm, hentity, hphase⟩ | hagree
  · have hdone := hidle m (List.mem_of_getElem? hm) hentity
    unfold Lookup.live at hdone
    rw [hphase] at hdone
    cases hdone
  · exact hagree a ha

/-- **After any interleaving of lookups, of any number of entities and at any
capacity, the two caches agree.** -/
theorem scopes_agree (reader : MetadataReader) (capacity : Nat) (hcapacity : 0 < capacity) (ts : List Turn) :
    (ts.foldl (step reader capacity) {}).ScopesAgree reader capacity := by
  have hstep : ∀ (c : ScopeAwareMdqClient) (t : Turn), c.Consistent reader capacity → True →
      (c.step reader capacity t).Consistent reader capacity := fun c t h _ => h.step hcapacity t
  have hend : (ts.foldl (step reader capacity) {}).Consistent reader capacity :=
    Along.invariant_end hstep consistent_new (Along.of_forall (fun _ _ => trivial) ts)
  exact hend.agree

def lengthReader : MetadataReader where
  trustedScopes document _ := [toString document.length]
  trustedIdpPolicyValues _ := {}

/-- Two lookups at a capacity of one; the second resets the caches while the
first has yet to keep its scopes. -/
def crossedLookups : List Turn :=
  [.call "https://a.example", .acquire 0, .openCaches 0, .fetch 0 ⟨[1], { entityId := "https://a.example", idpSsoDescriptors := [] }⟩ true,
    .call "https://b.example", .acquire 1, .openCaches 1, .promote 0,
    .fetch 1 ⟨[1, 2], { entityId := "https://b.example", idpSsoDescriptors := [] }⟩ true, .promote 1, .finishPromote 1]

theorem scopes_agree_demo : (crossedLookups.foldl (step lengthReader 1) {}).ScopesAgree lengthReader 1 :=
  scopes_agree lengthReader 1 (by decide) crossedLookups

end ScopeAwareMdqClient

end Tunnelbana
