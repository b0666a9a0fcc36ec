/-
How large the cache grows. What has expired is swept only once the map outgrows
its watermark, and the watermark is re-armed from what survived, so both stay
within twice the most entries that were ever live at once, or the floor
(`ttlCache_bounded`).
-/
import Mathlib.Data.List.Basic
import Mathlib.Order.Bounds.Basic
import Tunnelbana.Core.TtlCache

namespace Tunnelbana

namespace TtlCache

open Basis

variable {α : Type}

def liveCount (c : TtlCache α) (now : Nat) : Nat := (c.retainLive now).len

/-- Time only takes from the live ones. -/
theorem liveCount_anti (c : TtlCache α) {now later : Nat} (h : now ≤ later) : c.liveCount later ≤ c.liveCount now := by
  refine List.Sublist.length_le (List.monotone_filter_right _ fun p hp => ?_)
  have hlater : later < p.2.expiresAt := by simpa using hp
  simpa using lt_of_le_of_lt h hlater

theorem liveCount_le_len (c : TtlCache α) (now : Nat) : c.liveCount now ≤ c.len := List.length_filter_le _ _

theorem liveCount_retainLive (c : TtlCache α) (now : Nat) : (c.retainLive now).liveCount now = c.liveCount now := by
  simp [liveCount, retainLive, len, List.filter_filter]

/-! ## Moments of a run -/

/-- So many entries are live at a moment of the run: after some of the calls,
and no later than the next one. -/
def LiveAtOnce (l : Ledger α) (calls : List (Call α)) (n : Nat) : Prop :=
  ∃ earlier later t, calls = earlier ++ later ∧ (earlier.foldl step l).clock ≤ t ∧
    (∀ call ∈ later.head?, t ≤ call.now) ∧ n = (earlier.foldl step l).cache.liveCount t

/-- The most entries live as a call of the run returns. -/
def peak (l : Ledger α) : List (Call α) → Nat
  | [] => l.cache.liveCount l.clock
  | call :: calls => max (l.cache.liveCount l.clock) (peak (step l call) calls)

variable {l : Ledger α} {calls : List (Call α)}

theorem liveCount_le_peak (l : Ledger α) (calls : List (Call α)) : l.cache.liveCount l.clock ≤ peak l calls := by
  cases calls with
  | nil => exact le_refl _
  | cons call calls => exact le_max_left _ _

/-- At no moment are more live than as a call returns. -/
theorem le_peak {n : Nat} (h : LiveAtOnce l calls n) : n ≤ peak l calls := by
  obtain ⟨earlier, later, t, rfl, ht, -, rfl⟩ := h
  induction earlier generalizing l with
  | nil => exact le_trans (l.cache.liveCount_anti ht) (liveCount_le_peak l later)
  | cons call earlier ih => exact le_trans (ih ht) (le_max_right _ _)

/-- The moment comes at which the most are live. -/
theorem liveAtOnce_peak (hc : Along step Clocked l calls) : LiveAtOnce l calls (peak l calls) := by
  induction calls generalizing l with
  | nil => exact ⟨[], [], l.clock, rfl, le_refl _, by simp, rfl⟩
  | cons call calls ih =>
    obtain ⟨hcall, hrest⟩ := hc
    obtain hle | hle := le_total (peak (step l call) calls) (l.cache.liveCount l.clock)
    · -- it is the one before the call
      refine ⟨[], call :: calls, l.clock, rfl, le_refl _, ?_, max_eq_left hle⟩
      rintro _ ⟨⟩
      exact hcall
    · obtain ⟨earlier, later, t, hcalls, ht, hnext, hcount⟩ := ih hrest
      exact ⟨call :: earlier, later, t, by rw [hcalls]; rfl, ht, hnext, (max_eq_right hle).trans hcount⟩

theorem isGreatest_peak (hc : Along step Clocked l calls) : IsGreatest {n | LiveAtOnce l calls n} (peak l calls) :=
  ⟨liveAtOnce_peak hc, fun _ hn => le_peak hn⟩

/-! ## The bound -/

/-- Neither the entries nor the watermark exceed a size. -/
structure Within (size : Nat) (c : TtlCache α) : Prop where
  len_le : c.len ≤ size
  pruneAt_le : c.pruneAt ≤ size

/-- An insertion, and the sweep after it: below the watermark no entry is looked
at, and from there on only the live ones stay. -/
theorem within_maybePrune {size : Nat} {c : TtlCache α} {now : Nat} (hfloor : PRUNE_FLOOR ≤ size)
    (hwatermark : c.pruneAt ≤ size) (hlive : 2 * (c.maybePrune now).liveCount now ≤ size) :
    Within size (c.maybePrune now) := by
  unfold maybePrune at hlive ⊢
  split at hlive
  next hgrown =>
    rw [if_pos hgrown]
    have hkept : 2 * (c.retainLive now).len ≤ size := by
      have hsame := c.liveCount_retainLive now
      simp only [liveCount] at hsame hlive
      rw [← hsame]
      exact hlive
    refine ⟨?_, ?_⟩
    · show (c.retainLive now).len ≤ size
      omega
    · refine max_le (le_trans (min_le_left _ _) ?_) hfloor
      rw [Nat.mul_comm]
      exact hkept
  next hsmall =>
    rw [if_neg hsmall]
    exact ⟨by omega, hwatermark⟩

/-- **Every call keeps the size**, as long as twice what is live then is within
it. -/
theorem within_step {size : Nat} {call : Call α} (hfloor : PRUNE_FLOOR ≤ size) (h : Within size l.cache)
    (hlive : 2 * (step l call).cache.liveCount call.now ≤ size) : Within size (step l call).cache := by
  obtain ⟨now, op⟩ := call
  cases op with
  | put key value => exact within_maybePrune hfloor h.pruneAt_le hlive
  | putWithTtl key value ttl => exact within_maybePrune hfloor h.pruneAt_le hlive
  | get key => exact h
  | pruneExpired => exact ⟨le_trans (l.cache.liveCount_le_len now) h.len_le, h.pruneAt_le⟩
  | putIfAbsent key value ttl =>
    simp only [step, apply, putIfAbsent] at hlive ⊢
    cases hget : l.cache.get now key with
    | some _ => exact h
    | none =>
      rw [hget] at hlive
      exact within_maybePrune hfloor h.pruneAt_le hlive

theorem within_run {size : Nat} (hfloor : PRUNE_FLOOR ≤ size) (h : Within size l.cache)
    (hpeak : 2 * peak l calls ≤ size) : Within size (calls.foldl step l).cache := by
  induction calls generalizing l with
  | nil => exact h
  | cons call calls ih =>
    have hrest : peak (step l call) calls ≤ peak l (call :: calls) := le_max_right _ _
    have hlive := liveCount_le_peak (step l call) calls
    refine ih (within_step hfloor h ?_) (by omega)
    show 2 * (step l call).cache.liveCount (step l call).clock ≤ size
    omega

/-- **The cache stays bounded.** Whatever was called, as long as the clock does
not go back: there are at most twice as many entries as were ever live at once,
or as many as the floor. -/
theorem ttlCache_bounded (defaultTtl : Nat) (calls : List (Call α))
    (hc : Along step Clocked (start α defaultTtl PRUNE_FLOOR) calls) :
    ∃ L, IsGreatest {n | LiveAtOnce (start α defaultTtl PRUNE_FLOOR) calls n} L ∧
      (calls.foldl step (start α defaultTtl PRUNE_FLOOR)).cache.len ≤ max PRUNE_FLOOR (2 * L) := by
  refine ⟨_, isGreatest_peak hc, ?_⟩
  refine (within_run (le_max_left _ _) ?_ (le_max_right _ _)).len_le
  exact ⟨Nat.zero_le _, le_max_left _ _⟩

/-- Two token ids, and a sweep after their window. -/
theorem ttlCache_bounded_swept :
    ∃ L, IsGreatest {n | LiveAtOnce (start Unit 60 PRUNE_FLOOR)
        [⟨1000, .putIfAbsent "a" () 60⟩, ⟨1030, .putIfAbsent "b" () 60⟩, ⟨2000, .pruneExpired⟩] n} L ∧
      (List.foldl step (start Unit 60 PRUNE_FLOOR)
        [⟨1000, .putIfAbsent "a" () 60⟩, ⟨1030, .putIfAbsent "b" () 60⟩, ⟨2000, .pruneExpired⟩]).cache.len
        ≤ max PRUNE_FLOOR (2 * L) := by
  refine ttlCache_bounded 60 _ ⟨Nat.zero_le _, ?_, ?_, trivial⟩
  · show 1000 ≤ 1030
    omega
  · show 1030 ≤ 2000
    omega

end TtlCache

end Tunnelbana
