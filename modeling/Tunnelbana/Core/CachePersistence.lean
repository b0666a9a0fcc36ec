/-
Snapshots of the cache: `persist` writes every entry to a file, `load` takes
what has not expired back into a cache. A snapshot reads back as it was written
(`load_persist`), so a restart loses what was called since the last snapshot and
nothing else: on every run with crashes, the cache answers as a timed map of the
writes that survive (`restarts_refine`).
-/
import Tunnelbana.Basis.SortedMapFacts
import Tunnelbana.Core.SealFacts
import Tunnelbana.Core.TtlCache

namespace Tunnelbana

open Basis

/-- How values are written to a snapshot: no nesting near the bound of the
reader, and back as they were. -/
structure Codec (α : Type) where
  toJson : α → Json
  fromJson : Json → Option α
  fromJson_toJson : ∀ v, fromJson (toJson v) = some v
  valid : ∀ v, (toJson v).Valid
  shallow : ∀ v, (toJson v).depth + 2 < Json.defaultDepth

namespace Entry

variable {α : Type} (codec : Codec α)

def toJson (e : Entry α) : Json := .obj [("value", codec.toJson e.value), ("expires_at", .num e.expiresAt)]

/-- Both fields once and in any order, or their values in a row. -/
def fromJson (v : Json) : Option (Entry α) :=
  match v with
  | .obj fs => do
    let value ← (Envelope.once "value" fs).bind codec.fromJson
    let expiresAt ← (Envelope.once "expires_at" fs).bind Json.asU64
    return { value, expiresAt }
  | .arr [value, expiresAt] => do
    let value ← codec.fromJson value
    let expiresAt ← expiresAt.asU64
    return { value, expiresAt }
  | _ => none

variable {codec}

theorem lt_of_le_max {n : Nat} (h : n ≤ U64_MAX) : n < 2 ^ 64 := by
  unfold U64_MAX at h
  omega

theorem fromJson_fields {e : Entry α} {value expiresAt : Json} (hvalue : codec.fromJson value = some e.value)
    (hexpires : expiresAt.asU64 = some e.expiresAt) :
    fromJson codec (.obj [("value", value), ("expires_at", expiresAt)]) = some e := by
  have h₁ : Envelope.once "value" [("value", value), ("expires_at", expiresAt)] = some value := by simp [Envelope.once]
  have h₂ : Envelope.once "expires_at" [("value", value), ("expires_at", expiresAt)] = some expiresAt := by
    simp [Envelope.once]
  simp only [fromJson, h₁, h₂, Option.bind_some, Option.bind_eq_bind, hvalue, hexpires]
  rfl

theorem fromJson_toJson {e : Entry α} (h : e.expiresAt ≤ U64_MAX) : fromJson codec (e.toJson codec) = some e :=
  fromJson_fields (codec.fromJson_toJson e.value) (asU64_num (lt_of_le_max h))

theorem toJson_valid {e : Entry α} (h : e.expiresAt ≤ U64_MAX) : (e.toJson codec).Valid := by
  have hkeys : Assoc.Distinct [("value", codec.toJson e.value), ("expires_at", Json.num e.expiresAt)] := by
    simp [Assoc.Distinct, Assoc.keys]
  refine Json.valid_obj.mpr ⟨hkeys, fun p hp => ?_⟩
  simp only [List.mem_cons, List.not_mem_nil, or_false] at hp
  rcases hp with rfl | rfl
  · exact codec.valid e.value
  · exact valid_num (lt_of_le_max h)

variable (codec) in
theorem toJson_depth (e : Entry α) : (e.toJson codec).depth = (codec.toJson e.value).depth + 1 := by
  simp [toJson, Json.depth, Json.depthFields]

end Entry

namespace TtlCache

variable {α : Type} (codec : Codec α)

def persist (c : TtlCache α) : String := (Json.obj (c.entries.map fun p => (p.1, p.2.toJson codec))).render

/-- The entries of a snapshot; of a repeated key the last one. -/
def readSnapshot (text : String) : Option (Assoc (Entry α)) :=
  match Json.parse text with
  | .ok (.obj fs) => do
    let entries ← fs.mapM fun p => (Entry.fromJson codec p.2).map fun e => (p.1, e)
    return entries.foldl (fun m p => m.put p.1 p.2) []
  | _ => none

def insertEntry (c : TtlCache α) (key : String) (e : Entry α) : TtlCache α where
  entries := c.entries.put key e
  defaultTtl := c.defaultTtl
  pruneAt := c.pruneAt
  distinct := c.distinct.put _ _

/-- Take in what has not expired. -/
def loadLive (now : Nat) (c : TtlCache α) (p : String × Entry α) : TtlCache α :=
  if now < p.2.expiresAt then c.insertEntry p.1 p.2 else c

/-- The cache with a snapshot loaded; `none` where it cannot be read. -/
def load (c : TtlCache α) (now : Nat) (text : String) : Option (TtlCache α) :=
  (readSnapshot codec text).map fun entries => entries.foldl (loadLive now) c

/-! ## A snapshot reads back -/

def Stamped (c : TtlCache α) : Prop := ∀ p ∈ c.entries, p.2.expiresAt ≤ U64_MAX

theorem stamped_put {c : TtlCache α} (h : c.Stamped) {key : String} {e : Entry α} (he : e.expiresAt ≤ U64_MAX) :
    ∀ p ∈ c.entries.put key e, p.2.expiresAt ≤ U64_MAX := by
  intro p hp
  rcases Assoc.mem_put hp with rfl | hp
  · exact he
  · exact h p hp

theorem Stamped.retainLive {c : TtlCache α} (h : c.Stamped) (now : Nat) : (c.retainLive now).Stamped :=
  fun p hp => h p (List.mem_filter.mp hp).1

theorem Stamped.maybePrune {c : TtlCache α} (h : c.Stamped) (now : Nat) : (c.maybePrune now).Stamped := by
  unfold TtlCache.maybePrune
  split
  · exact h.retainLive now
  · exact h

theorem Stamped.insert {c : TtlCache α} (h : c.Stamped) (now : Nat) (key : String) (value : α) (ttl : Nat) :
    (c.insert now key value ttl).Stamped := stamped_put h (min_le_right _ _)

/-- Every call keeps the expiries within 64 bits. -/
theorem Stamped.apply {c : TtlCache α} (h : c.Stamped) (call : Call α) : (c.apply call).2.Stamped := by
  obtain ⟨now, op⟩ := call
  cases op with
  | put key value => exact (h.insert now key value c.defaultTtl).maybePrune now
  | putWithTtl key value ttl => exact (h.insert now key value ttl).maybePrune now
  | get key => exact h
  | pruneExpired => exact h.retainLive now
  | putIfAbsent key value ttl =>
    show (c.putIfAbsent now key value ttl).2.Stamped
    unfold putIfAbsent
    cases c.get now key with
    | some _ => exact h
    | none => exact (h.insert now key value ttl).maybePrune now

theorem depthFields_lt {fs : List (String × Json)} {d : Nat} (hd : 0 < d) (h : ∀ p ∈ fs, p.2.depth < d) :
    Json.depthFields fs < d := by
  induction fs with
  | nil => exact hd
  | cons p fs ih =>
    obtain ⟨k, v⟩ := p
    refine max_lt (h (k, v) List.mem_cons_self) (ih fun q hq => h q (List.mem_cons_of_mem _ hq))

variable {codec}

/-- **A snapshot is read as the entries it was taken of.** -/
theorem readSnapshot_persist {c : TtlCache α} (h : c.Stamped) : readSnapshot codec (c.persist codec) = some c.entries := by
  have hkeys : Assoc.Distinct (c.entries.map fun p => (p.1, p.2.toJson codec)) := by
    unfold Assoc.Distinct Assoc.keys
    rw [List.map_map]
    exact c.distinct
  have hvalid : (Json.obj (c.entries.map fun p => (p.1, p.2.toJson codec))).Valid := by
    refine Json.valid_obj.mpr ⟨hkeys, fun q hq => ?_⟩
    obtain ⟨p, hp, rfl⟩ := List.mem_map.mp hq
    exact Entry.toJson_valid (h p hp)
  have hdepth : (Json.obj (c.entries.map fun p => (p.1, p.2.toJson codec))).depth < Json.defaultDepth := by
    have hfields : Json.depthFields (c.entries.map fun p => (p.1, p.2.toJson codec)) < Json.defaultDepth - 1 := by
      refine depthFields_lt (by decide) fun q hq => ?_
      obtain ⟨p, hp, rfl⟩ := List.mem_map.mp hq
      have hshallow := codec.shallow p.2.value
      have hentry := Entry.toJson_depth codec p.2
      simp only at hentry ⊢
      omega
    simp only [Json.depth]
    omega
  have hread : (c.entries.map fun p => (p.1, p.2.toJson codec)).mapM
      (fun p => (Entry.fromJson codec p.2).map fun e => (p.1, e)) = some c.entries := by
    refine mapM_readBack fun p hp => ?_
    rw [Entry.fromJson_toJson (h p hp)]
    rfl
  unfold readSnapshot persist
  rw [Json.parse_render _ hvalid, if_pos hdepth]
  simp only [hread, Option.bind_eq_bind, Option.bind_some]
  exact congrArg some ((Assoc.foldl_put (fun _ e => some e) c.distinct).trans (Assoc.filterMapValues_some c.entries))

theorem view_loaded {now : Nat} {entries : Assoc (Entry α)} (h : entries.Distinct) (c : TtlCache α) (k : String) :
    (entries.foldl (loadLive now) c).view k =
      (((entries.get k).filter fun e => now < e.expiresAt).map fun e => (e.value, e.expiresAt)).or (c.view k) := by
  induction entries generalizing c with
  | nil => rfl
  | cons p entries ih =>
    obtain ⟨key, e⟩ := p
    obtain ⟨hnot, hrest⟩ := List.nodup_cons.mp h
    rw [List.foldl_cons, ih hrest]
    by_cases hk : key = k
    · subst hk
      rw [Assoc.get_of_notMem_keys hnot, Assoc.get_cons_self]
      by_cases hlive : now < e.expiresAt
      · simp [loadLive, hlive, insertEntry, view, Option.filter_some]
      · simp [loadLive, hlive, Option.filter_some]
    · rw [Assoc.get_cons_other _ _ hk]
      congr 1
      unfold loadLive
      split
      · simp only [view, insertEntry, Assoc.get_put_other _ _ hk]
      · rfl

theorem loaded_ttl {now : Nat} (entries : Assoc (Entry α)) (c : TtlCache α) :
    (entries.foldl (loadLive now) c).defaultTtl = c.defaultTtl := by
  induction entries generalizing c with
  | nil => rfl
  | cons p entries ih =>
    rw [List.foldl_cons, ih]
    unfold loadLive
    split <;> rfl

theorem loaded_stamped {now : Nat} {entries : Assoc (Entry α)} (he : ∀ p ∈ entries, p.2.expiresAt ≤ U64_MAX)
    {c : TtlCache α} (h : c.Stamped) : (entries.foldl (loadLive now) c).Stamped := by
  induction entries generalizing c with
  | nil => exact h
  | cons p entries ih =>
    refine ih (fun q hq => he q (List.mem_cons_of_mem _ hq)) ?_
    unfold loadLive
    split
    · exact stamped_put h (he p List.mem_cons_self)
    · exact h

variable (codec) in
/-- **A cache restarted from a snapshot is the one it was taken of**, to every
reader from then on. -/
theorem load_persist {c : TtlCache α} (h : c.Stamped) (now : Nat) :
    ∃ loaded, (TtlCache.new c.defaultTtl).load codec now (c.persist codec) = some loaded ∧
      loaded.defaultTtl = c.defaultTtl ∧ loaded.Stamped ∧ TimedMap.AgreeFrom now loaded.view c.view := by
  refine ⟨c.entries.foldl (loadLive now) (TtlCache.new c.defaultTtl), ?_, loaded_ttl _ _, ?_, ?_⟩
  · unfold load
    rw [readSnapshot_persist h]
    rfl
  · exact loaded_stamped h fun p hp => absurd hp List.not_mem_nil
  · refine TimedMap.agreeFrom_of_dropped fun k => ?_
    rw [view_loaded c.distinct]
    unfold view
    cases Assoc.get k c.entries with
    | none => rfl
    | some e => by_cases hlive : now < e.expiresAt <;> simp [Option.filter_some, hlive, new]

/-! ## Runs with restarts -/

/-- A call, a snapshot, or a stop without notice and a start from the last
snapshot. -/
inductive Happening (α : Type) where
  | call (call : Call α)
  | persist
  | restart (now : Nat)

/-- The cache with the calls that survive, the file, and the calls it was
written after. -/
structure Life (α : Type) where
  ledger : Ledger α
  file : Option String := none
  saved : List (Event α) := []

namespace Life

variable (codec) in
/-- Without a file that reads, a restarted cache is new. -/
def step (l : Life α) : Happening α → Life α
  | .call call => { l with ledger := TtlCache.step l.ledger call }
  | .persist => { l with file := some (l.ledger.cache.persist codec), saved := l.ledger.history }
  | .restart now =>
    let fresh := TtlCache.new l.ledger.cache.defaultTtl
    { l with
      ledger := { cache := (l.file.bind (fresh.load codec now)).getD fresh, history := l.saved, clock := now } }

def Clocked (l : Life α) : Happening α → Prop
  | .call call => TtlCache.Clocked l.ledger call
  | .persist => True
  | .restart now => l.ledger.clock ≤ now

def start (α : Type) (defaultTtl : Nat) : Life α where
  ledger := TtlCache.start α defaultTtl PRUNE_FLOOR

variable (codec) in
/-- The file is the snapshot of a cache that is, from the clock on, the writes of
the saved calls. -/
structure Saved (defaultTtl : Nat) (l : Life α) (text : String) : Prop where
  cache : ∃ c : TtlCache α, text = c.persist codec ∧ c.defaultTtl = defaultTtl ∧ c.Stamped ∧
    TimedMap.AgreeFrom l.ledger.clock c.view (lastWrites defaultTtl l.saved)

variable (codec) in
structure Sound (defaultTtl : Nat) (l : Life α) : Prop where
  refines : Refines defaultTtl l.ledger
  stamped : l.ledger.cache.Stamped
  file : ∀ text, l.file = some text → Saved codec defaultTtl l text
  unsaved : l.file = none → l.saved = []

variable {defaultTtl : Nat} {l : Life α} {e : Happening α}

theorem sound_start : Sound codec defaultTtl (start α defaultTtl) where
  refines := refines_start PRUNE_FLOOR
  stamped _ hp := absurd hp List.not_mem_nil
  file _ h := by cases h
  unsaved _ := rfl

/-- **Every step keeps it**; a restart takes the history back to the snapshot. -/
theorem Sound.step (h : Sound codec defaultTtl l) (hc : Clocked l e) : Sound codec defaultTtl (l.step codec e) := by
  cases e with
  | call call =>
    refine ⟨h.refines.step hc, h.stamped.apply call, fun text htext => ?_, h.unsaved⟩
    obtain ⟨c, hpersist, httl, hstamped, hagrees⟩ := (h.file text htext).cache
    exact ⟨c, hpersist, httl, hstamped, hagrees.later hc⟩
  | persist =>
    refine ⟨h.refines, h.stamped, fun text htext => ?_, fun hnone => by cases hnone⟩
    cases htext
    exact ⟨l.ledger.cache, rfl, h.refines.ttl, h.stamped, h.refines.agrees⟩
  | restart now =>
    cases hfile : l.file with
    | none =>
      have hsaved := h.unsaved hfile
      refine ⟨⟨?_, ?_⟩, ?_, fun text htext => ?_, h.unsaved⟩
      · simp [Life.step, hfile, new, h.refines.ttl]
      · simp only [Life.step, hfile, hsaved, Option.bind_none, Option.getD_none]
        exact TimedMap.AgreeFrom.refl _ _
      · simp only [Life.step, hfile, Option.bind_none, Option.getD_none]
        exact fun p hp => absurd hp List.not_mem_nil
      · rw [Life.step, hfile] at htext
        cases htext
    | some text =>
      obtain ⟨c, rfl, httl, hstamped, hagrees⟩ := (h.file text hfile).cache
      obtain ⟨loaded, hload, hloadedTtl, hloadedStamped, hloaded⟩ := load_persist codec hstamped now
      have hsame : l.ledger.cache.defaultTtl = c.defaultTtl := h.refines.ttl.trans httl.symm
      have hledger : (l.step codec (.restart now)).ledger = { cache := loaded, history := l.saved, clock := now } := by
        simp only [Life.step, hfile, hsame, Option.bind_some, hload, Option.getD_some]
      refine ⟨?_, ?_, fun text' htext => ?_, fun hnone => ?_⟩
      · rw [hledger]
        exact ⟨hloadedTtl.trans httl, hloaded.trans (hagrees.later hc)⟩
      · rw [hledger]
        exact hloadedStamped
      · have hsame : some (c.persist codec) = some text' := hfile.symm.trans htext
        cases hsame
        refine ⟨c, rfl, httl, hstamped, ?_⟩
        rw [hledger]
        exact hagrees.later hc
      · have hnone' : l.file = none := hnone
        rw [hfile] at hnone'
        cases hnone'

/-! ## Restarts nobody sees -/

/-- Calls, and restarts right after a snapshot. -/
def orderly : Call α ⊕ Nat → List (Happening α)
  | .inl call => [.call call]
  | .inr now => [.persist, .restart now]

theorem history_orderly (h : Sound codec defaultTtl l) {plain : Ledger α} (hplain : Refines defaultTtl plain)
    (hclock : plain.clock ≤ l.ledger.clock) (hhistory : l.ledger.history = plain.history) {xs : List (Call α ⊕ Nat)}
    (hc : Along (step codec) Clocked l (xs.flatMap orderly)) :
    ((xs.flatMap orderly).foldl (step codec) l).ledger.history =
      ((xs.filterMap Sum.getLeft?).foldl TtlCache.step plain).history := by
  induction xs generalizing l plain with
  | nil => exact hhistory
  | cons x xs ih =>
    rw [List.flatMap_cons] at hc ⊢
    rw [List.foldl_append]
    obtain ⟨hx, hrest⟩ := Along.append.mp hc
    cases x with
    | inl call =>
      have hcall : TtlCache.Clocked l.ledger call := hx.1
      have hcall' : TtlCache.Clocked plain call := le_trans hclock hcall
      refine ih (h.step hx.1) (hplain.step hcall') (le_refl _) ?_ hrest
      have hanswer : (l.ledger.cache.apply call).1 = (plain.cache.apply call).1 := by
        rw [h.refines.answers hcall, hplain.answers hcall', hhistory]
      show (call, (l.ledger.cache.apply call).1) :: l.ledger.history = (call, (plain.cache.apply call).1) :: plain.history
      rw [hanswer, hhistory]
    | inr now =>
      have hnow : l.ledger.clock ≤ now := hx.2.1
      have hpersisted := h.step (e := .persist) trivial
      exact ih (hpersisted.step (e := .restart now) hnow) hplain (le_trans hclock hnow) hhistory hrest

end Life

/-- **On every run with snapshots and restarts the cache answers as a timed map
of the writes that survive**, those before the last snapshot and those since the
restart; restarts right after a snapshot are not seen by any caller. -/
theorem restarts_refine (codec : Codec α) (defaultTtl : Nat) :
    (∀ happenings, Along (Life.step codec) Life.Clocked (Life.start α defaultTtl) happenings →
      Along (Life.step codec) (fun l e => ∀ call, e = .call call →
        (l.ledger.cache.apply call).1 = expected defaultTtl l.ledger.history call) (Life.start α defaultTtl) happenings) ∧
    ∀ xs : List (Call α ⊕ Nat), Along (Life.step codec) Life.Clocked (Life.start α defaultTtl) (xs.flatMap Life.orderly) →
      ((xs.flatMap Life.orderly).foldl (Life.step codec) (Life.start α defaultTtl)).ledger.history =
        ((xs.filterMap Sum.getLeft?).foldl step (start α defaultTtl PRUNE_FLOOR)).history := by
  refine ⟨fun happenings hc => ?_, fun xs hc => ?_⟩
  · have hkeeps : ∀ l e, Life.Sound codec defaultTtl l → Life.Clocked l e →
        Life.Sound codec defaultTtl (Life.step codec l e) := fun _ _ h hstep => h.step hstep
    refine Along.of_invariant hkeeps (fun l e h hstep call he => ?_) Life.sound_start hc
    subst he
    exact h.refines.answers hstep
  · exact Life.history_orderly Life.sound_start (refines_start PRUNE_FLOOR) (le_refl _) rfl hc

def stringCodec : Codec String where
  toJson := .str
  fromJson := Json.asStr
  fromJson_toJson _ := rfl
  valid _ := trivial
  shallow _ := by simp [Json.depth, Json.defaultDepth]

/-- A value of the last snapshot is there after a restart, a later one is not. -/
theorem restarts_refine_demo :
    Along (Life.step stringCodec) (fun l e => ∀ call, e = .call call →
      (l.ledger.cache.apply call).1 = expected 60 l.ledger.history call) (Life.start String 60)
      [.call ⟨1000, .put "a" "saved"⟩, .persist, .call ⟨1010, .put "b" "lost"⟩, .restart 1020,
        .call ⟨1030, .get "a"⟩, .call ⟨1030, .get "b"⟩] := by
  refine (restarts_refine stringCodec 60).1 _ ⟨Nat.zero_le _, trivial, ?_, ?_, ?_, le_refl _, trivial⟩
  · show 1000 ≤ 1010
    omega
  · show 1010 ≤ 1020
    omega
  · show 1020 ≤ 1030
    omega

end TtlCache

end Tunnelbana
