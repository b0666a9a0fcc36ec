/-
What the text searches find: the first character of a kind, the last
occurrence of a pattern, the text after the last separator, and what trimming
leaves of text between blanks.
-/
import Tunnelbana.Basis.Text

namespace Basis

namespace Text

variable {p : Char → Bool} {d c : Char} {a b cs pat : List Char} {i j : Nat}

/-! ## The first character of a kind -/

theorem find_append_cons (ha : ∀ x ∈ a, p x = false) (hc : p c = true) : find p (a ++ c :: b) = some a.length := by
  unfold find
  induction a with
  | nil => simp [List.findIdx?_cons, hc]
  | cons x a ih =>
    have hx : p x = false := ha x List.mem_cons_self
    rw [List.cons_append, List.findIdx?_cons, hx, ih fun y hy => ha y (List.mem_cons_of_mem _ hy)]
    rfl

theorem find_split (h : find p cs = some i) :
    ∃ a c b, cs = a ++ c :: b ∧ i = a.length ∧ p c = true ∧ ∀ x ∈ a, p x = false := by
  obtain ⟨hi, hp, hbefore⟩ := List.findIdx?_eq_some_iff_getElem.mp h
  have hlen : (cs.take i).length = i := List.length_take_of_le (by omega)
  refine ⟨cs.take i, cs[i], cs.drop (i + 1), ?_, hlen.symm, hp, fun x hx => ?_⟩
  · rw [List.getElem_cons_drop, List.take_append_drop]
  · obtain ⟨j, hj, hx⟩ := List.mem_iff_getElem.mp hx
    have hji : j < i := by omega
    rw [List.getElem_take] at hx
    rw [← hx]
    simpa using hbefore j hji

theorem take_find (p : Char → Bool) (cs : List Char) :
    cs.take ((find p cs).getD cs.length) = cs.takeWhile (fun x => !p x) := by
  induction cs with
  | nil => rfl
  | cons x cs ih =>
    unfold find at ih ⊢
    rw [List.findIdx?_cons, List.takeWhile_cons]
    cases p x with
    | true => rfl
    | false =>
      rw [← ih]
      cases List.findIdx? p cs with
      | none => simp
      | some k => simp

/-- A run ends where a character of the other kind stands, at the latest. -/
theorem takeWhile_append_cons (hc : p c = false) : (a ++ c :: b).takeWhile p = a.takeWhile p := by
  induction a with
  | nil => simp [hc]
  | cons x a ih =>
    rw [List.cons_append, List.takeWhile_cons, List.takeWhile_cons, ih]

/-! ## The last occurrence -/

theorem stripPrefix_isSome : (stripPrefix pat cs).isSome = true ↔ pat <+: cs := by
  rw [Option.isSome_iff_exists]
  constructor
  · rintro ⟨rest, h⟩
    exact ⟨rest, (stripPrefix_eq_some.mp h).symm⟩
  · rintro ⟨rest, h⟩
    exact ⟨rest, stripPrefix_eq_some.mpr h.symm⟩

theorem rfind_spec (hpat : pat ≠ []) (cs : List Char) :
    match rfind pat cs with
    | none => ∀ j, ¬ pat <+: cs.drop j
    | some i => pat <+: cs.drop i ∧ ∀ j, i < j → ¬ pat <+: cs.drop j := by
  induction cs with
  | nil =>
    rw [rfind, if_neg hpat]
    intro j h
    rw [List.drop_nil] at h
    exact hpat (List.prefix_nil.mp h)
  | cons c cs ih =>
    rw [rfind]
    cases hrec : rfind pat cs with
    | some i =>
      rw [hrec] at ih
      refine ⟨ih.1, fun j hj => ?_⟩
      obtain ⟨k, rfl⟩ : ∃ k, j = k + 1 := ⟨j - 1, by omega⟩
      exact ih.2 k (by omega)
    | none =>
      rw [hrec] at ih
      by_cases hhere : pat <+: c :: cs
      · rw [if_pos (stripPrefix_isSome.mpr hhere)]
        refine ⟨hhere, fun j hj => ?_⟩
        obtain ⟨k, rfl⟩ : ∃ k, j = k + 1 := ⟨j - 1, by omega⟩
        exact ih k
      · rw [if_neg fun h => hhere (stripPrefix_isSome.mp h)]
        intro j
        cases j with
        | zero => exact hhere
        | succ k => exact ih k

/-- **The last occurrence of a pattern.** -/
theorem rfind_eq_some (hpat : pat ≠ []) :
    rfind pat cs = some i ↔ pat <+: cs.drop i ∧ ∀ j, i < j → ¬ pat <+: cs.drop j := by
  have hspec := rfind_spec hpat cs
  constructor
  · intro h
    rw [h] at hspec
    exact hspec
  · rintro ⟨hi, hlast⟩
    cases h : rfind pat cs with
    | none =>
      rw [h] at hspec
      exact absurd hi (hspec i)
    | some k =>
      rw [h] at hspec
      have hik : ¬ i < k := fun hlt => hlast k hlt hspec.1
      have hki : ¬ k < i := fun hlt => hspec.2 i hlt hi
      rw [show k = i by omega]

/-- The last occurrence is the one none follows. -/
theorem rfind_append (hpat : pat ≠ []) (h : ∀ k, 0 < k → ¬ pat <+: (pat ++ b).drop k) :
    rfind pat (a ++ (pat ++ b)) = some a.length := by
  refine (rfind_eq_some hpat).mpr ⟨by simp, fun j hj => ?_⟩
  rw [List.drop_append, List.drop_eq_nil_of_le (by omega)]
  exact h (j - a.length) (by omega)

theorem le_rfind (hpat : pat ≠ []) (h : pat <+: cs.drop j) : ∃ i, rfind pat cs = some i ∧ j ≤ i := by
  have hspec := rfind_spec hpat cs
  cases hr : rfind pat cs with
  | none =>
    rw [hr] at hspec
    exact absurd h (hspec j)
  | some i =>
    rw [hr] at hspec
    refine ⟨i, rfl, ?_⟩
    rcases Nat.lt_or_ge i j with hlt | hge
    · exact absurd h (hspec.2 j hlt)
    · exact hge

/-! ## After the last separator -/

theorem afterLast_of_notMem (h : d ∉ cs) : afterLast d cs = cs := by
  unfold afterLast
  have hpass : (cs.reverse ++ []).takeWhile (· ≠ d) = cs.reverse ++ [] := by
    refine List.takeWhile_append_of_pos fun x hx => ?_
    have hne : x ≠ d := by
      intro he
      rw [he] at hx
      exact h (List.mem_reverse.mp hx)
    simpa using hne
  rw [List.append_nil] at hpass
  rw [hpass, List.reverse_reverse]

theorem afterLast_append_cons (h : d ∉ b) : afterLast d (a ++ d :: b) = b := by
  unfold afterLast
  have hrev : (a ++ d :: b).reverse = b.reverse ++ d :: a.reverse := by simp
  rw [hrev, takeWhile_append_cons (by simp)]
  exact afterLast_of_notMem h

/-- Text with a separator ends in it and what follows the last one. -/
theorem eq_append_afterLast (h : d ∈ cs) : ∃ a, cs = a ++ d :: afterLast d cs ∧ d ∉ afterLast d cs := by
  obtain ⟨b, a, heq, hb⟩ := List.eq_append_cons_of_mem (List.mem_reverse.mpr h)
  have hcs : cs = a.reverse ++ d :: b.reverse := by
    rw [← List.reverse_reverse cs, heq]
    simp
  have hnot : d ∉ b.reverse := fun hmem => hb (List.mem_reverse.mp hmem)
  have hafter : afterLast d cs = b.reverse := by
    rw [hcs]
    exact afterLast_append_cons hnot
  rw [hafter]
  exact ⟨a.reverse, hcs, hnot⟩

/-- The last separator is in the later text that has one. -/
theorem afterLast_append_of_mem (h : d ∈ b) : afterLast d (a ++ b) = afterLast d b := by
  obtain ⟨front, heq, hnot⟩ := eq_append_afterLast h
  have hwhole : a ++ b = (a ++ front) ++ d :: afterLast d b := by rw [List.append_assoc, ← heq]
  rw [hwhole]
  exact afterLast_append_cons hnot

theorem afterLast_append_of_notMem (h : d ∉ b) : afterLast d (a ++ b) = afterLast d a ++ b := by
  by_cases ha : d ∈ a
  · obtain ⟨front, heq, hnot⟩ := eq_append_afterLast ha
    have hwhole : a ++ b = front ++ d :: (afterLast d a ++ b) := by
      rw [← List.cons_append, ← List.append_assoc, ← heq]
    rw [hwhole]
    exact afterLast_append_cons (by simp [hnot, h])
  · rw [afterLast_of_notMem ha]
    exact afterLast_of_notMem (by simp [ha, h])

/-! ## Between blanks -/

theorem dropWhile_blank (ha : ∀ x ∈ a, p x = true) (hb : ∀ x, b.head? = some x → p x = false) :
    (a ++ b).dropWhile p = b := by
  rw [List.dropWhile_append_of_pos ha]
  cases b with
  | nil => rfl
  | cons x b =>
    have hx : p x = false := hb x rfl
    simp [hx]

theorem length_trim_le (cs : List Char) : (trim cs).length ≤ cs.length := by
  unfold trim
  rw [List.length_reverse]
  calc _ ≤ (cs.dropWhile isWhitespace).reverse.length := (List.dropWhile_sublist _).length_le
    _ = (cs.dropWhile isWhitespace).length := List.length_reverse
    _ ≤ cs.length := (List.dropWhile_sublist _).length_le

/-- Trimming takes the blanks around text that has none at its ends. -/
theorem trim_append {lead trail : List Char} (hlead : ∀ x ∈ lead, isWhitespace x = true)
    (htrail : ∀ x ∈ trail, isWhitespace x = true) (hhead : isWhitespace c = false)
    (hlast : ∀ x, (c :: cs).getLast? = some x → isWhitespace x = false) :
    trim (lead ++ c :: cs ++ trail) = c :: cs := by
  unfold trim
  have hfront : (lead ++ c :: cs ++ trail).dropWhile isWhitespace = c :: cs ++ trail := by
    rw [List.append_assoc]
    refine dropWhile_blank hlead fun x hx => ?_
    cases hx
    exact hhead
  rw [hfront, List.reverse_append]
  have hback : (trail.reverse ++ (c :: cs).reverse).dropWhile isWhitespace = (c :: cs).reverse := by
    refine dropWhile_blank (fun x hx => htrail x (List.mem_reverse.mp hx)) fun x hx => hlast x ?_
    rw [← hx, List.head?_reverse]
  rw [hback, List.reverse_reverse]

end Text

end Basis
