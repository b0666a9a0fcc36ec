/-
The cache with per-entry expiry: entries of absolute expiry under one lock,
swept of what has expired when the map outgrows a watermark. The operations
are ordered by the lock, each at the time it read.

Whatever is swept has expired, so nobody sees it go: the answers are those of
a timed map of the last effective writes (`ttlCache_refines`).
-/
import Mathlib.Algebra.Group.Nat.Defs
import Mathlib.Data.Nat.Basic
import Tunnelbana.Basis.Assoc
import Tunnelbana.Basis.Run
import Tunnelbana.Basis.TimedMap

namespace Tunnelbana

open Basis

/-- Floor for the opportunistic-prune watermark. -/
def PRUNE_FLOOR : Nat := 1024

/-- `u64::MAX`, and `usize::MAX` on the platforms served. -/
def U64_MAX : Nat := 2 ^ 64 - 1

def saturatingAdd (a b : Nat) : Nat := min (a + b) U64_MAX
def saturatingMul (a b : Nat) : Nat := min (a * b) U64_MAX

structure Entry (α : Type) where
  value : α
  expiresAt : Nat
deriving DecidableEq, Repr

structure TtlCache (α : Type) where
  entries : Assoc (Entry α)
  defaultTtl : Nat
  /-- The size at which the next opportunistic prune fires. -/
  pruneAt : Nat
  distinct : entries.Distinct

namespace TtlCache

variable {α : Type}

def new (defaultTtl : Nat) : TtlCache α where
  entries := []
  defaultTtl
  pruneAt := PRUNE_FLOOR
  distinct := List.nodup_nil

def len (c : TtlCache α) : Nat := c.entries.length

def retainLive (c : TtlCache α) (now : Nat) : TtlCache α where
  entries := c.entries.filter fun p => now < p.2.expiresAt
  defaultTtl := c.defaultTtl
  pruneAt := c.pruneAt
  distinct := c.distinct.filter _

def pruneExpired (c : TtlCache α) (now : Nat) : TtlCache α := c.retainLive now

def get (c : TtlCache α) (now : Nat) (key : String) : Option α :=
  match c.entries.get key with
  | none => none
  | some entry => if now < entry.expiresAt then some entry.value else none

def insert (c : TtlCache α) (now : Nat) (key : String) (value : α) (ttl : Nat) : TtlCache α where
  entries := c.entries.put key { value, expiresAt := saturatingAdd now ttl }
  defaultTtl := c.defaultTtl
  pruneAt := c.pruneAt
  distinct := c.distinct.put _ _

/-- Sweep once the map outgrows the watermark, then re-arm it at twice what
survived. -/
def maybePrune (c : TtlCache α) (now : Nat) : TtlCache α :=
  if c.pruneAt ≤ c.len then
    let kept := c.retainLive now
    { kept with pruneAt := max (saturatingMul kept.len 2) PRUNE_FLOOR }
  else c

def putWithTtl (c : TtlCache α) (now : Nat) (key : String) (value : α) (ttl : Nat) : TtlCache α :=
  (c.insert now key value ttl).maybePrune now

def put (c : TtlCache α) (now : Nat) (key : String) (value : α) : TtlCache α :=
  c.putWithTtl now key value c.defaultTtl

/-- Insert unless a live entry holds the key; an expired one is overwritten. -/
def putIfAbsent (c : TtlCache α) (now : Nat) (key : String) (value : α) (ttl : Nat) : Bool × TtlCache α :=
  match c.get now key with
  | some _ => (false, c)
  | none => (true, (c.insert now key value ttl).maybePrune now)

/-! ## Calls -/

inductive Op (α : Type) where
  | put (key : String) (value : α)
  | putWithTtl (key : String) (value : α) (ttl : Nat)
  | putIfAbsent (key : String) (value : α) (ttl : Nat)
  | get (key : String)
  | pruneExpired

inductive Answer (α : Type) where
  | done
  | inserted (accepted : Bool)
  | found (value : Option α)
deriving DecidableEq

structure Call (α : Type) where
  now : Nat
  op : Op α

def apply (c : TtlCache α) (call : Call α) : Answer α × TtlCache α :=
  match call.op with
  | .put key value => (.done, c.put call.now key value)
  | .putWithTtl key value ttl => (.done, c.putWithTtl call.now key value ttl)
  | .putIfAbsent key value ttl =>
    (.inserted (c.putIfAbsent call.now key value ttl).1, (c.putIfAbsent call.now key value ttl).2)
  | .get key => (.found (c.get call.now key), c)
  | .pruneExpired => (.done, c.pruneExpired call.now)

/-! ## The entries as a timed map -/

def view (c : TtlCache α) : TimedMap String Nat α :=
  fun k => (c.entries.get k).map fun e => (e.value, e.expiresAt)

theorem get_eq_live (c : TtlCache α) (now : Nat) (key : String) : c.get now key = c.view.live now key := by
  simp only [get, view, TimedMap.live]
  cases Assoc.get key c.entries <;> rfl

theorem retainLive_agree (c : TtlCache α) (now : Nat) :
    TimedMap.AgreeFrom now (c.retainLive now).view c.view := by
  refine TimedMap.agreeFrom_of_dropped fun k => ?_
  unfold view retainLive
  simp only [Assoc.get_filter c.distinct]
  cases Assoc.get k c.entries with
  | none => rfl
  | some e => by_cases h : now < e.expiresAt <;> simp [Option.filter_some, h]

/-- **A sweep is no change from then on.** -/
theorem maybePrune_agree (c : TtlCache α) (now : Nat) : TimedMap.AgreeFrom now (c.maybePrune now).view c.view := by
  unfold maybePrune
  split
  · exact c.retainLive_agree now
  · exact TimedMap.AgreeFrom.refl _ _

theorem view_insert_self (c : TtlCache α) (now : Nat) (key : String) (value : α) (ttl : Nat) :
    (c.insert now key value ttl).view key = some (value, saturatingAdd now ttl) := by
  simp [view, insert]

theorem view_insert_other (c : TtlCache α) (now : Nat) {key k : String} (value : α) (ttl : Nat) (h : k ≠ key) :
    (c.insert now key value ttl).view k = c.view k := by
  simp only [view, insert, Assoc.get_put_other _ _ (Ne.symm h)]

/-! ## Runs -/

abbrev Event (α : Type) : Type := Call α × Answer α

/-- What a call writes under a key: a refused insert writes nothing. -/
def written (defaultTtl : Nat) (key : String) (e : Event α) : Option (α × Nat) :=
  match e with
  | (⟨now, .put k value⟩, _) => if k = key then some (value, saturatingAdd now defaultTtl) else none
  | (⟨now, .putWithTtl k value ttl⟩, _) => if k = key then some (value, saturatingAdd now ttl) else none
  | (⟨now, .putIfAbsent k value ttl⟩, .inserted true) =>
    if k = key then some (value, saturatingAdd now ttl) else none
  | _ => none

/-- The last effective write of every key, with the most recent event first. -/
def lastWrites (defaultTtl : Nat) (history : List (Event α)) : TimedMap String Nat α :=
  fun key => history.findSome? (written defaultTtl key)

/-- The cache with everything called on it, and the time of the last call. -/
structure Ledger (α : Type) where
  cache : TtlCache α
  history : List (Event α) := []
  clock : Nat := 0

def step (l : Ledger α) (call : Call α) : Ledger α where
  cache := (l.cache.apply call).2
  history := (call, (l.cache.apply call).1) :: l.history
  clock := call.now

def Clocked (l : Ledger α) (call : Call α) : Prop := l.clock ≤ call.now

/-- The answer of a timed map of the last effective writes. -/
def expected (defaultTtl : Nat) (history : List (Event α)) (call : Call α) : Answer α :=
  match call.op with
  | .get key => .found ((lastWrites defaultTtl history).live call.now key)
  | .putIfAbsent key _ _ => .inserted ((lastWrites defaultTtl history).live call.now key).isNone
  | _ => .done

/-- From the clock on, the entries are the last effective writes. -/
structure Refines (defaultTtl : Nat) (l : Ledger α) : Prop where
  ttl : l.cache.defaultTtl = defaultTtl
  agrees : TimedMap.AgreeFrom l.clock l.cache.view (lastWrites defaultTtl l.history)

variable {defaultTtl : Nat} {l : Ledger α} {call : Call α}

theorem maybePrune_ttl (c : TtlCache α) (now : Nat) : (c.maybePrune now).defaultTtl = c.defaultTtl := by
  unfold maybePrune
  split <;> rfl

/-- **A call is answered as the timed map answers it.** -/
theorem Refines.answers (h : Refines defaultTtl l) (hc : Clocked l call) :
    (l.cache.apply call).1 = expected defaultTtl l.history call := by
  obtain ⟨now, op⟩ := call
  cases op with
  | put key value => rfl
  | putWithTtl key value ttl => rfl
  | pruneExpired => rfl
  | get key =>
    show Answer.found (l.cache.get now key) = _
    rw [get_eq_live, h.agrees now hc key]
    rfl
  | putIfAbsent key value ttl =>
    have hlive := h.agrees now hc key
    rw [← get_eq_live] at hlive
    show Answer.inserted (l.cache.putIfAbsent now key value ttl).1 = Answer.inserted _
    unfold putIfAbsent
    rw [← hlive]
    cases l.cache.get now key <;> rfl

theorem Refines.inserts (h : Refines defaultTtl l) {now : Nat} (hnow : l.clock ≤ now) {key : String} {value : α}
    (ttl : Nat) {e : Event α} (hself : written defaultTtl key e = some (value, saturatingAdd now ttl))
    (hother : ∀ k, k ≠ key → written defaultTtl k e = none) :
    TimedMap.AgreeFrom now ((l.cache.insert now key value ttl).maybePrune now).view
      (lastWrites defaultTtl (e :: l.history)) := by
  refine TimedMap.AgreeFrom.trans (maybePrune_agree _ now) ((h.agrees.later hnow).write (k := key) ?_ ?_ ?_)
  · rw [view_insert_self, lastWrites, List.findSome?_cons, hself]
  · intro k hk
    exact view_insert_other _ _ _ _ hk
  · intro k hk
    rw [lastWrites, List.findSome?_cons, hother k hk]
    rfl

theorem lastWrites_unwritten {e : Event α} (h : ∀ key, written defaultTtl key e = none) (history : List (Event α)) :
    lastWrites defaultTtl (e :: history) = lastWrites defaultTtl history := by
  funext key
  rw [lastWrites, List.findSome?_cons, h key]
  rfl

/-- **Every call keeps the refinement.** -/
theorem Refines.step (h : Refines defaultTtl l) (hc : Clocked l call) : Refines defaultTtl (step l call) := by
  obtain ⟨now, op⟩ := call
  have hnow : l.clock ≤ now := hc
  have hlater := h.agrees.later hnow
  cases op with
  | put key value =>
    refine ⟨(maybePrune_ttl _ _).trans h.ttl, ?_⟩
    refine h.inserts hnow l.cache.defaultTtl ?_ fun k hk => if_neg (Ne.symm hk)
    rw [h.ttl]
    exact if_pos rfl
  | putWithTtl key value ttl =>
    exact ⟨(maybePrune_ttl _ _).trans h.ttl, h.inserts hnow ttl (if_pos rfl) fun k hk => if_neg (Ne.symm hk)⟩
  | get key =>
    refine ⟨h.ttl, ?_⟩
    show TimedMap.AgreeFrom now l.cache.view _
    rw [TtlCache.step, lastWrites_unwritten fun _ => rfl]
    exact hlater
  | pruneExpired =>
    refine ⟨h.ttl, ?_⟩
    show TimedMap.AgreeFrom now (l.cache.retainLive now).view _
    rw [TtlCache.step, lastWrites_unwritten fun _ => rfl]
    exact (l.cache.retainLive_agree now).trans hlater
  | putIfAbsent key value ttl =>
    simp only [TtlCache.step, apply, putIfAbsent]
    cases hget : l.cache.get now key with
    | some v =>
      refine ⟨h.ttl, ?_⟩
      show TimedMap.AgreeFrom now l.cache.view _
      rw [lastWrites_unwritten fun _ => rfl]
      exact hlater
    | none =>
      exact ⟨(maybePrune_ttl _ _).trans h.ttl, h.inserts hnow ttl (if_pos rfl) fun k hk => if_neg (Ne.symm hk)⟩

def start (α : Type) (defaultTtl watermark : Nat) : Ledger α where
  cache := { TtlCache.new defaultTtl with pruneAt := watermark }

theorem refines_start (watermark : Nat) : Refines defaultTtl (start α defaultTtl watermark) :=
  ⟨rfl, TimedMap.AgreeFrom.refl _ _⟩

/-! ## Sweeps are not observed -/

/-- A call somebody waits for the answer of. -/
def Op.isObserved : Op α → Bool
  | .pruneExpired => false
  | _ => true

theorem written_of_unobserved {call : Call α} (h : call.op.isObserved = false) (answer : Answer α) (key : String) :
    written defaultTtl key (call, answer) = none := by
  obtain ⟨now, op⟩ := call
  cases op with
  | pruneExpired => rfl
  | _ => cases h

theorem lastWrites_observed (history : List (Event α)) :
    lastWrites defaultTtl (history.filter fun e => e.1.op.isObserved) = lastWrites defaultTtl history := by
  induction history with
  | nil => rfl
  | cons e history ih =>
    cases hobserved : e.1.op.isObserved with
    | true =>
      rw [List.filter_cons_of_pos (by exact hobserved)]
      funext key
      have hkey := congrFun ih key
      simp only [lastWrites, List.findSome?_cons] at hkey ⊢
      rw [hkey]
    | false =>
      rw [List.filter_cons_of_neg (by simp [hobserved]), ih]
      exact (lastWrites_unwritten (written_of_unobserved hobserved e.2) history).symm

/-- **Without the explicit sweeps, and with any watermark, the observed calls
are answered alike.** -/
theorem observed_history {l l' : Ledger α} (h : Refines defaultTtl l) (h' : Refines defaultTtl l')
    (hclock : l'.clock ≤ l.clock) (hhistory : l'.history = l.history.filter fun e => e.1.op.isObserved)
    {calls : List (Call α)} (hc : Along step Clocked l calls) :
    ((calls.filter fun c => c.op.isObserved).foldl step l').history
      = (calls.foldl step l).history.filter fun e => e.1.op.isObserved := by
  induction calls generalizing l l' with
  | nil => exact hhistory
  | cons call calls ih =>
    obtain ⟨hcall, hrest⟩ := hc
    have hcall' : Clocked l' call := le_trans hclock hcall
    have hstep := h.step hcall
    cases hobserved : call.op.isObserved with
    | true =>
      rw [List.filter_cons_of_pos (by exact hobserved), List.foldl_cons, List.foldl_cons]
      refine ih hstep (h'.step hcall') (le_refl _) ?_ hrest
      have hanswer : (l'.cache.apply call).1 = (l.cache.apply call).1 := by
        rw [h.answers hcall, h'.answers hcall', hhistory]
        unfold expected
        rw [lastWrites_observed]
      show (call, (l'.cache.apply call).1) :: l'.history
        = ((call, (l.cache.apply call).1) :: l.history).filter fun e => e.1.op.isObserved
      rw [List.filter_cons_of_pos (by exact hobserved), hanswer, hhistory]
    | false =>
      rw [List.filter_cons_of_neg (by simp [hobserved]), List.foldl_cons]
      refine ih hstep h' (le_trans hclock hcall) ?_ hrest
      show l'.history = ((call, (l.cache.apply call).1) :: l.history).filter fun e => e.1.op.isObserved
      rw [List.filter_cons_of_neg (by simp [hobserved])]
      exact hhistory

/-! ## One acceptance -/

/-- A write of this key by anything but an insert-if-absent. -/
def Op.overwrites (key : String) : Op α → Prop
  | .put k _ => k = key
  | .putWithTtl k _ _ => k = key
  | _ => False

theorem clock_le_last {l : Ledger α} {calls : List (Call α)} {last : Call α}
    (hc : Along step Clocked l (calls ++ [last])) : l.clock ≤ last.now := by
  induction calls generalizing l with
  | nil => exact hc.1
  | cons call calls ih => exact le_trans hc.1 (ih hc.2)

/-- A value that lives on is not replaced by an insert-if-absent. -/
theorem written_while_live (h : Refines defaultTtl l) (hc : Clocked l call) {key : String} {value : α} {expiry : Nat}
    (hlast : lastWrites defaultTtl l.history key = some (value, expiry)) (hlive : call.now < expiry)
    (hop : ¬ call.op.overwrites key) : written defaultTtl key (call, (l.cache.apply call).1) = none := by
  obtain ⟨now, op⟩ := call
  rw [h.answers hc]
  cases op with
  | put k _ => exact if_neg hop
  | putWithTtl k _ _ => exact if_neg hop
  | get k => rfl
  | pruneExpired => rfl
  | putIfAbsent k value' ttl =>
    by_cases hk : k = key
    · subst hk
      have hfound : (lastWrites defaultTtl l.history).live now k = some value :=
        TimedMap.live_eq_some.mpr ⟨expiry, hlast, hlive⟩
      simp only [expected, hfound, Option.isNone_some]
      rfl
    · cases hexpected : expected defaultTtl l.history ⟨now, .putIfAbsent k value' ttl⟩ with
      | inserted accepted =>
        cases accepted with
        | true => exact if_neg hk
        | false => rfl
      | done => rfl
      | found _ => rfl

/-- **What an insert-if-absent stored stands until it expires**: another one of
the key is refused meanwhile. -/
theorem refused_while_live (h : Refines defaultTtl l) {key : String} {value : α} {expiry : Nat}
    (hlast : lastWrites defaultTtl l.history key = some (value, expiry)) {between : List (Call α)} {now : Nat}
    {value' : α} {ttl' : Nat} (hc : Along step Clocked l (between ++ [⟨now, .putIfAbsent key value' ttl'⟩]))
    (hbetween : ∀ c ∈ between, ¬ c.op.overwrites key) (hnow : now < expiry) :
    (((between.foldl step l).cache.apply ⟨now, .putIfAbsent key value' ttl'⟩)).1 = .inserted false := by
  induction between generalizing l with
  | nil =>
    rw [List.foldl_nil, h.answers hc.1]
    have hfound : (lastWrites defaultTtl l.history).live now key = some value :=
      TimedMap.live_eq_some.mpr ⟨expiry, hlast, hnow⟩
    simp only [expected, hfound, Option.isNone_some]
  | cons call between ih =>
    have hcall : call.now < expiry := Nat.lt_of_le_of_lt (clock_le_last hc.2) hnow
    rw [List.foldl_cons]
    refine ih (h.step hc.1) ?_ hc.2 (fun c hmem => hbetween c (List.mem_cons_of_mem _ hmem))
    have hunwritten := written_while_live h hc.1 hlast hcall (hbetween call List.mem_cons_self)
    show List.findSome? (written defaultTtl key) ((call, (l.cache.apply call).1) :: l.history) = _
    rw [List.findSome?_cons, hunwritten]
    exact hlast

/-- **On every run the cache answers as a timed map of the last effective writes
does**; sweeps, explicit or not, are not observed; and between an accepted
insert-if-absent and its expiry, which saturates, no other one of the key is
accepted unless something else wrote it. -/
theorem ttlCache_refines (α : Type) (defaultTtl : Nat) (calls : List (Call α))
    (hc : Along step Clocked (start α defaultTtl PRUNE_FLOOR) calls) :
    Along step (fun l call => (l.cache.apply call).1 = expected defaultTtl l.history call)
      (start α defaultTtl PRUNE_FLOOR) calls ∧
    (∀ watermark, ((calls.filter fun c => c.op.isObserved).foldl step (start α defaultTtl watermark)).history
      = (calls.foldl step (start α defaultTtl PRUNE_FLOOR)).history.filter fun e => e.1.op.isObserved) ∧
    ∀ earlier between later t key value ttl t' value' ttl',
      calls = earlier ++ ⟨t, .putIfAbsent key value ttl⟩ :: (between ++ ⟨t', .putIfAbsent key value' ttl'⟩ :: later) →
      ((earlier.foldl step (start α defaultTtl PRUNE_FLOOR)).cache.apply ⟨t, .putIfAbsent key value ttl⟩).1
        = .inserted true →
      (∀ c ∈ between, ¬ c.op.overwrites key) → t' < saturatingAdd t ttl →
      ((between.foldl step (step (earlier.foldl step (start α defaultTtl PRUNE_FLOOR))
        ⟨t, .putIfAbsent key value ttl⟩)).cache.apply ⟨t', .putIfAbsent key value' ttl'⟩).1 = .inserted false := by
  refine ⟨?_, fun watermark => ?_, ?_⟩
  · exact Along.of_invariant (fun _ _ h hcall => h.step hcall) (fun _ _ h hcall => h.answers hcall)
      (refines_start PRUNE_FLOOR) hc
  · exact observed_history (refines_start PRUNE_FLOOR) (refines_start watermark) (le_refl _) rfl hc
  · intro earlier between later t key value ttl t' value' ttl' hcalls haccepted hbetween hbefore
    rw [hcalls, Along.append] at hc
    obtain ⟨hearlier, hfirst, hrest⟩ := hc
    have hrefines := Along.invariant_end (fun _ _ h hcall => Refines.step h hcall) (refines_start PRUNE_FLOOR) hearlier
    rw [List.append_cons, Along.append] at hrest
    have hlast : lastWrites defaultTtl (step (earlier.foldl step (start α defaultTtl PRUNE_FLOOR))
        ⟨t, .putIfAbsent key value ttl⟩).history key = some (value, saturatingAdd t ttl) := by
      show List.findSome? (written defaultTtl key) ((_, _) :: _) = _
      rw [haccepted, List.findSome?_cons]
      simp [written]
    exact refused_while_live (hrefines.step hfirst) hlast hrest.1 hbetween hbefore

theorem ttlCache_refines_demo :
    Along step (fun l call => (l.cache.apply call).1 = expected 60 l.history call) (start Unit 60 PRUNE_FLOOR)
      [⟨1000, .putIfAbsent "jti" () 60⟩, ⟨1059, .putIfAbsent "jti" () 60⟩, ⟨1060, .get "jti"⟩] := by
  refine (ttlCache_refines Unit 60 _ ?_).1
  refine ⟨Nat.zero_le _, ?_, ?_, trivial⟩
  · show 1000 ≤ 1059
    omega
  · show 1059 ≤ 1060
    omega

/-- At the last second the clock can show, an expiry past it is not ahead. -/
theorem saturated_insert_repeats :
    ((start Unit 60 PRUNE_FLOOR).cache.apply ⟨U64_MAX, .putIfAbsent "jti" () 1⟩).1 = .inserted true ∧
      ((step (start Unit 60 PRUNE_FLOOR) ⟨U64_MAX, .putIfAbsent "jti" () 1⟩).cache.apply
        ⟨U64_MAX, .putIfAbsent "jti" () 1⟩).1 = .inserted true ∧
      U64_MAX < U64_MAX + 1 := by
  refine ⟨rfl, ?_, by decide⟩
  decide

end TtlCache

/-! ## Replay protection -/

/-- Upper bound on the token ids retained, in bytes. -/
def MAX_JTI_LEN : Nat := 256

/-- Record a token id for its freshness window; an over-long one is a replay. -/
def recordJti (seen : TtlCache Unit) (now : Nat) (jti : String) (ttl : Nat) : Bool × TtlCache Unit :=
  if MAX_JTI_LEN < jti.utf8ByteSize then (false, seen) else seen.putIfAbsent now jti () ttl

end Tunnelbana
