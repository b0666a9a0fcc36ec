/-
What stays live in a cache: an entry that is live at some time to come is not
lost to an insert under any key before it, and a key that is inserted is live for
as long as it was given.
-/
import Tunnelbana.Core.TtlCache

namespace Tunnelbana

open Basis

namespace TtlCache

variable {α : Type}

theorem view_of_maybePrune {c : TtlCache α} {now : Nat} {key : String} {p : α × Nat}
    (h : (c.maybePrune now).view key = some p) : c.view key = some p := by
  unfold maybePrune at h
  split at h
  next =>
    obtain ⟨entry, hentry, hp⟩ := Option.map_eq_some_iff.mp h
    have hfilter : Assoc.get key (c.entries.filter fun p => decide (now < p.2.expiresAt)) = some entry := hentry
    rw [Assoc.get_filter c.distinct] at hfilter
    have hkept := (Option.filter_eq_some_iff.mp hfilter).1
    unfold view
    rw [hkept, Option.map_some, hp]
  next => exact h

/-- After an insert from then on the key is live as long as it was given. -/
theorem get_inserted (c : TtlCache α) {now later : Nat} (h : now ≤ later) (key : String) (value : α) (ttl : Nat) :
    ((c.insert now key value ttl).maybePrune now).get later key =
      if later < saturatingAdd now ttl then some value else none := by
  rw [get_eq_live, maybePrune_agree _ now later h key]
  unfold TimedMap.live
  rw [view_insert_self]
  rfl

theorem get_inserted_other (c : TtlCache α) {now later : Nat} (h : now ≤ later) {key k : String} (value : α)
    (ttl : Nat) (hk : k ≠ key) : ((c.insert now key value ttl).maybePrune now).get later k = c.get later k := by
  rw [get_eq_live, maybePrune_agree _ now later h k, get_eq_live]
  exact TimedMap.live_congr (view_insert_other c now value ttl hk) later

/-- An insert where the key is absent loses nothing that is live later. -/
theorem get_putIfAbsent_of_live {c : TtlCache α} {now later : Nat} (hlater : now ≤ later) {key id : String}
    {value a : α} {ttl : Nat} (h : c.get later id = some a) : (c.putIfAbsent now key value ttl).2.get later id = some a := by
  unfold putIfAbsent
  cases hget : c.get now key with
  | some held => exact h
  | none =>
    by_cases hid : id = key
    · -- An entry that is dead now is dead later.
      subst hid
      rw [get_eq_live] at h hget
      obtain ⟨expires, hview, hlive⟩ := TimedMap.live_eq_some.mp h
      have hnow : TimedMap.live c.view now id = some a :=
        TimedMap.live_eq_some.mpr ⟨expires, hview, Nat.lt_of_le_of_lt hlater hlive⟩
      rw [hget] at hnow
      cases hnow
    · exact (c.get_inserted_other hlater value ttl hid).trans h

/-- A key that was absent is live for as long as it was given. -/
theorem get_putIfAbsent_self {c : TtlCache α} {now later : Nat} (hlater : now ≤ later) {key : String} {value : α}
    {ttl : Nat} (hget : c.get now key = none) (hlive : later < saturatingAdd now ttl) :
    (c.putIfAbsent now key value ttl).2.get later key = some value := by
  unfold putIfAbsent
  rw [hget]
  exact (c.get_inserted hlater key value ttl).trans (if_pos hlive)

end TtlCache

end Tunnelbana
