/-
Maps whose values expire. A reader at some time sees a value as long as its
expiry is still ahead. Two maps agree from a time on when no reader from then
on can tell them apart: dropping what has expired is then no change.
-/
import Mathlib.Order.Lattice

namespace Basis

def TimedMap (κ τ α : Type) : Type := κ → Option (α × τ)

namespace TimedMap

variable {κ τ α : Type} [LinearOrder τ]

/-- What a reader sees: a value whose expiry is still ahead. -/
def live (m : TimedMap κ τ α) (now : τ) (k : κ) : Option α :=
  (m k).bind fun p => if now < p.2 then some p.1 else none

theorem live_eq_some {m : TimedMap κ τ α} {now : τ} {k : κ} {v : α} :
    m.live now k = some v ↔ ∃ e, m k = some (v, e) ∧ now < e := by
  simp only [live, Option.bind_eq_some_iff]
  constructor
  · rintro ⟨⟨w, e⟩, hm, hlive⟩
    split at hlive
    next hnow =>
      cases hlive
      exact ⟨e, hm, hnow⟩
    next => cases hlive
  · rintro ⟨e, hm, hnow⟩
    exact ⟨(v, e), hm, if_pos hnow⟩

theorem live_congr {m n : TimedMap κ τ α} {k : κ} (h : m k = n k) (now : τ) : m.live now k = n.live now k := by
  unfold live
  rw [h]

/-- No reader from `t` on tells the maps apart. -/
def AgreeFrom (t : τ) (m n : TimedMap κ τ α) : Prop := ∀ now, t ≤ now → ∀ k, m.live now k = n.live now k

theorem AgreeFrom.refl (t : τ) (m : TimedMap κ τ α) : AgreeFrom t m m := fun _ _ _ => rfl

theorem AgreeFrom.trans {t : τ} {m n o : TimedMap κ τ α} (h₁ : AgreeFrom t m n) (h₂ : AgreeFrom t n o) :
    AgreeFrom t m o := fun now hnow k => (h₁ now hnow k).trans (h₂ now hnow k)

theorem AgreeFrom.later {t t' : τ} {m n : TimedMap κ τ α} (h : AgreeFrom t m n) (ht : t ≤ t') :
    AgreeFrom t' m n := fun now hnow k => h now (le_trans ht hnow) k

/-- **The same write keeps the agreement.** -/
theorem AgreeFrom.write {t : τ} {m n m' n' : TimedMap κ τ α} (h : AgreeFrom t m n) {k : κ}
    (hwritten : m' k = n' k) (hm : ∀ k', k' ≠ k → m' k' = m k') (hn : ∀ k', k' ≠ k → n' k' = n k') :
    AgreeFrom t m' n' := by
  intro now hnow k'
  by_cases hk : k' = k
  · subst hk
    exact live_congr hwritten now
  · rw [live_congr (hm k' hk) now, live_congr (hn k' hk) now]
    exact h now hnow k'

/-- **Dropping what has expired is no change from then on.** -/
theorem agreeFrom_of_dropped {t : τ} {m m' : TimedMap κ τ α}
    (h : ∀ k, m' k = (m k).filter fun p => decide (t < p.2)) : AgreeFrom t m' m := by
  intro now hnow k
  unfold live
  rw [h k]
  cases hm : m k with
  | none => rfl
  | some p =>
    by_cases hp : t < p.2
    · rw [Option.filter_some, if_pos (decide_eq_true hp)]
    · rw [Option.filter_some, if_neg (by simpa using hp), Option.bind_none, Option.bind_some,
        if_neg (not_lt.mpr (le_trans (not_lt.mp hp) hnow))]

end TimedMap

end Basis
