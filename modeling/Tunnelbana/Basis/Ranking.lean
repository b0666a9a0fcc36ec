/-
Lists as rankings: the first place of a value is its rank, and a choice is made
among what is listed from that place on.

`find?_dropWhile_eq_some` says what is chosen, `idxOf_le_iff` when the choice
ranks no higher than the value it starts from: a value listed twice can be
chosen from below its own rank.
-/

namespace Basis

variable {α : Type}

/-- The first of `l` from `x` on, `x` itself apart, that satisfies `p`, where
`above` comes before `x`. -/
def ChosenBelow (p : α → Bool) (l above : List α) (x v : α) : Prop :=
  x ∉ above ∧ p v = true ∧ ∃ between below, l = above ++ x :: (between ++ v :: below) ∧ ∀ y ∈ between, p y = false

/-- Listed once, everything chosen from below ranks below. -/
theorem ChosenBelow.not_mem_above {p : α → Bool} {l above : List α} {x v : α} (h : ChosenBelow p l above x v)
    (hnodup : l.Nodup) : v ∉ above := by
  obtain ⟨_, _, between, below, hl, _⟩ := h
  rw [hl] at hnodup
  have hdisjoint := (List.nodup_append.mp hnodup).2.2
  intro hv
  exact hdisjoint v hv v (by simp) rfl

/-- The first place of a value does not depend on how it is found. -/
theorem split_unique {l above above' below below' : List α} {x : α} (h : l = above ++ x :: below)
    (h' : l = above' ++ x :: below') (hnot : x ∉ above) (hnot' : x ∉ above') : above = above' ∧ below = below' := by
  subst h
  induction above generalizing above' with
  | nil =>
    cases above' with
    | nil => exact ⟨rfl, (List.cons.inj h').2⟩
    | cons y ys => exact absurd ((List.cons.inj h').1 ▸ List.mem_cons_self) hnot'
  | cons y ys ih =>
    cases above' with
    | nil => exact absurd ((List.cons.inj h').1 ▸ List.mem_cons_self) hnot
    | cons z zs =>
      obtain ⟨hyz, hrest⟩ := List.cons.inj h'
      obtain ⟨habove, hbelow⟩ := ih (fun hin => hnot (List.mem_cons_of_mem _ hin))
        (fun hin => hnot' (List.mem_cons_of_mem _ hin)) hrest
      exact ⟨by rw [hyz, habove], hbelow⟩

variable [DecidableEq α]

theorem dropWhile_ne_of_mem {l : List α} {x : α} (h : x ∈ l) :
    ∃ above below, l = above ++ x :: below ∧ x ∉ above ∧ l.dropWhile (· ≠ x) = x :: below := by
  induction l with
  | nil => cases h
  | cons y l ih =>
    by_cases hy : y = x
    · subst hy
      exact ⟨[], l, rfl, List.not_mem_nil, by simp⟩
    · have hmem : x ∈ l := by
        rcases List.mem_cons.mp h with hx | hx
        · exact absurd hx.symm hy
        · exact hx
      obtain ⟨above, below, hl, hnot, hdrop⟩ := ih hmem
      refine ⟨y :: above, below, by rw [hl]; rfl, ?_, ?_⟩
      · intro hin
        rcases List.mem_cons.mp hin with hx | hx
        · exact hy hx.symm
        · exact hnot hx
      · rw [List.dropWhile_cons_of_pos (by simpa using hy), hdrop]

theorem dropWhile_ne_of_not_mem {l : List α} {x : α} (h : x ∉ l) : l.dropWhile (· ≠ x) = [] := by
  induction l with
  | nil => rfl
  | cons y l ih =>
    have hy : y ≠ x := fun he => h (he ▸ List.mem_cons_self)
    have hl : x ∉ l := fun hin => h (List.mem_cons_of_mem _ hin)
    rw [List.dropWhile_cons_of_pos (by simpa using hy), ih hl]

/-- What is chosen from the first place of `x` on. -/
theorem find?_dropWhile_eq_some {p : α → Bool} {l : List α} {x v : α} (hx : p x = false) :
    (l.dropWhile (· ≠ x)).find? p = some v ↔ ∃ above, ChosenBelow p l above x v := by
  by_cases hmem : x ∈ l
  · obtain ⟨above, below, hl, hnot, hdrop⟩ := dropWhile_ne_of_mem hmem
    rw [hdrop, List.find?_cons_of_neg (by simp [hx]), List.find?_eq_some_iff_append]
    constructor
    · rintro ⟨hv, between, rest, hbelow, hbetween⟩
      refine ⟨above, hnot, hv, between, rest, by rw [hl, hbelow], fun y hy => ?_⟩
      have := hbetween y hy
      simpa using this
    · rintro ⟨above', hnot', hv, between, rest, hl', hbetween⟩
      obtain ⟨_, hbelow⟩ := split_unique hl hl' hnot hnot'
      refine ⟨hv, between, rest, hbelow, fun y hy => ?_⟩
      simp [hbetween y hy]
  · rw [dropWhile_ne_of_not_mem hmem]
    constructor
    · intro h
      cases h
    · rintro ⟨above, _, _, between, rest, hl, _⟩
      refine absurd ?_ hmem
      rw [hl]
      simp

/-- A choice ranks no higher than what it starts from, unless it is listed above. -/
theorem ChosenBelow.idxOf_le_iff {p : α → Bool} {l above : List α} {x v : α} (h : ChosenBelow p l above x v) :
    l.idxOf x ≤ l.idxOf v ↔ v ∉ above := by
  obtain ⟨hnot, _, between, below, hl, _⟩ := h
  have hx : l.idxOf x = above.length := by
    rw [hl, List.idxOf_append, if_neg hnot, List.idxOf_cons_self]
    omega
  rw [hx, hl, List.idxOf_append]
  by_cases hv : v ∈ above
  · have := List.idxOf_lt_length_of_mem hv
    simp only [hv, if_true, not_true_eq_false, iff_false]
    omega
  · simp only [hv, if_false, not_false_eq_true, iff_true]
    omega

/-- Something of `p` that ranks lower than `x` leaves a choice below `x`. -/
theorem chosenBelow_of_lower {p : α → Bool} {l : List α} {x v : α} (hmem : x ∈ l) (hx : p x = false) (hv : p v = true)
    (hin : v ∈ l) (hlower : l.idxOf x ≤ l.idxOf v) : ∃ above v', ChosenBelow p l above x v' := by
  obtain ⟨above, below, hl, hnot, hdrop⟩ := dropWhile_ne_of_mem hmem
  have hbelow : v ∈ l.dropWhile (· ≠ x) := by
    rw [hdrop]
    rw [hl, List.idxOf_append, if_neg hnot, List.idxOf_cons_self, List.idxOf_append] at hlower
    have hnotabove : v ∉ above := by
      intro hab
      have := List.idxOf_lt_length_of_mem hab
      rw [if_pos hab] at hlower
      omega
    rw [hl] at hin
    exact (List.mem_append.mp hin).resolve_left hnotabove
  cases hfind : (l.dropWhile (· ≠ x)).find? p with
  | none =>
    have := List.find?_eq_none.mp hfind v hbelow
    exact absurd hv this
  | some v' =>
    obtain ⟨above', hchosen⟩ := (find?_dropWhile_eq_some hx).mp hfind
    exact ⟨above', v', hchosen⟩

end Basis
