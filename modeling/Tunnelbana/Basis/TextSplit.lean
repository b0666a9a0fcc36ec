/-
Text cut at the first separator: what stands before it has none
(`splitOnce_eq_some`).
-/
import Tunnelbana.Basis.TextSearch

namespace Basis

namespace Text

variable {d : Char} {a b cs : List Char}

theorem splitOnce_append (ha : d ∉ a) : splitOnce d (a ++ d :: b) = some (a, b) := by
  unfold splitOnce
  rw [find_append_cons (fun x hx => by simpa using fun he : x = d => ha (he ▸ hx)) (by simp)]
  simp

/-- **The first separator cuts the text.** -/
theorem splitOnce_eq_some : splitOnce d cs = some (a, b) ↔ cs = a ++ d :: b ∧ d ∉ a := by
  constructor
  · intro h
    unfold splitOnce at h
    split at h
    next i hfind =>
      obtain ⟨before, c, after, rfl, rfl, hc, hbefore⟩ := find_split hfind
      obtain rfl : c = d := of_decide_eq_true hc
      have hnot : c ∉ before := fun hmem => by simpa using hbefore c hmem
      simp only [List.take_left, Option.some.injEq, Prod.mk.injEq] at h
      obtain ⟨rfl, hb⟩ := h
      have hdrop : (before ++ c :: after).drop (before.length + 1) = after := by
        rw [← List.drop_drop, List.drop_left]
        rfl
      rw [hdrop] at hb
      exact ⟨by rw [hb], hnot⟩
    next => cases h
  · rintro ⟨rfl, ha⟩
    exact splitOnce_append ha

theorem splitOnce_eq_none : splitOnce d cs = none ↔ d ∉ cs := by
  constructor
  · intro h hmem
    obtain ⟨before, after, hcs, hbefore⟩ := List.eq_append_cons_of_mem hmem
    rw [hcs, splitOnce_append hbefore] at h
    cases h
  · intro hnot
    cases h : splitOnce d cs with
    | none => rfl
    | some p =>
      obtain ⟨hcs, _⟩ := splitOnce_eq_some.mp h
      exact absurd (by simp [hcs]) hnot

end Text

end Basis
