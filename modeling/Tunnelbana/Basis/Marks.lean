/-
Texts with marks in them, found from left to right. A mark begins with a symbol
it does not have again, so no two of them overlap: a text is taken apart at any
mark (`pieces_around`), and what is found does not depend on where the search
starts. Put back in, the marks give the text again (`unpiece_pieces`).
-/
import Mathlib.Data.List.Basic

namespace Basis

/-- A kind of mark: its texts, and what reads one at the head of a list. -/
structure Mark (α β : Type) where
  read : List α → Option (β × List α)
  text : β → List α
  start : α
  starts : ∀ b, ∃ tail, text b = start :: tail ∧ start ∉ tail
  read_eq_some : ∀ {xs : List α} {b : β} {rest : List α}, read xs = some (b, rest) ↔ xs = text b ++ rest

namespace Mark

variable {α β : Type} (m : Mark α β)

theorem length_read {xs : List α} {b : β} {rest : List α} (h : m.read xs = some (b, rest)) :
    rest.length < xs.length := by
  obtain ⟨tail, htext, _⟩ := m.starts b
  rw [m.read_eq_some.mp h, htext]
  simp only [List.cons_append, List.length_cons, List.length_append]
  omega

/-- The text symbol by symbol, with the marks in it. -/
def pieces : List α → List (α ⊕ β)
  | [] => []
  | x :: xs =>
    match _h : m.read (x :: xs) with
    | some (b, rest) => .inr b :: pieces rest
    | none => .inl x :: pieces xs
termination_by xs => xs.length
decreasing_by
  · exact m.length_read _h
  · simp

def unpiece : α ⊕ β → List α
  | .inl x => [x]
  | .inr b => m.text b

@[simp] theorem pieces_nil : m.pieces [] = [] := by rw [pieces]

variable {m}

@[simp] theorem read_text (b : β) (rest : List α) : m.read (m.text b ++ rest) = some (b, rest) :=
  m.read_eq_some.mpr rfl

theorem read_append {xs : List α} {b : β} {rest : List α} (h : m.read xs = some (b, rest)) (more : List α) :
    m.read (xs ++ more) = some (b, rest ++ more) := by
  rw [m.read_eq_some.mp h, List.append_assoc, read_text]

theorem pieces_of_read {xs : List α} {b : β} {rest : List α} (h : m.read xs = some (b, rest)) :
    m.pieces xs = .inr b :: m.pieces rest := by
  cases xs with
  | nil => exact absurd (m.length_read h) (by simp)
  | cons x xs =>
    rw [pieces]
    split
    next b' rest' h' =>
      cases h.symm.trans h'
      rfl
    next h' => cases h.symm.trans h'

theorem pieces_of_unread {x : α} {xs : List α} (h : m.read (x :: xs) = none) :
    m.pieces (x :: xs) = .inl x :: m.pieces xs := by
  rw [pieces]
  split
  next b rest h' => cases h.symm.trans h'
  next => rfl

theorem pieces_text (b : β) (rest : List α) : m.pieces (m.text b ++ rest) = .inr b :: m.pieces rest :=
  pieces_of_read (read_text b rest)

/-- A mark that begins in a nonempty text in front of another one ends there. -/
theorem ends_before {pre post rest : List α} {b b' : β} (hpre : pre ≠ [])
    (h : pre ++ (m.text b ++ post) = m.text b' ++ rest) : ∃ pre', pre = m.text b' ++ pre' := by
  rcases List.append_eq_append_iff.mp h with ⟨mid, hmid, hrest⟩ | ⟨pre', hpre', _⟩
  · -- the other mark would begin inside this one
    cases mid with
    | nil => exact ⟨[], by simpa using hmid.symm⟩
    | cons y mid =>
      obtain ⟨tail, htext, _⟩ := m.starts b
      obtain ⟨tail', htext', hnot⟩ := m.starts b'
      have hy : y = m.start := by
        rw [htext] at hrest
        exact (List.cons.inj hrest).1.symm
      cases pre with
      | nil => exact absurd rfl hpre
      | cons x pre =>
        rw [htext', List.cons_append] at hmid
        refine absurd ?_ hnot
        rw [(List.cons.inj hmid).2, hy]
        simp
  · exact ⟨pre', hpre'⟩

/-- **A text is taken apart at any mark in it.** -/
theorem pieces_around (pre : List α) (b : β) (post : List α) :
    m.pieces (pre ++ (m.text b ++ post)) = m.pieces pre ++ .inr b :: m.pieces post := by
  induction pre using pieces.induct (m := m) with
  | case1 => simp [pieces_text]
  | case2 x pre b' rest hread ih =>
    have hlonger : m.read (x :: pre ++ (m.text b ++ post)) = some (b', rest ++ (m.text b ++ post)) :=
      read_append hread (m.text b ++ post)
    rw [pieces_of_read hlonger, pieces_of_read hread, ih]
    rfl
  | case3 x pre hread ih =>
    have hlonger : m.read (x :: (pre ++ (m.text b ++ post))) = none := by
      rw [Option.eq_none_iff_forall_ne_some]
      rintro ⟨b', rest⟩ h
      obtain ⟨pre', hpre⟩ := ends_before (List.cons_ne_nil x pre) (m.read_eq_some.mp h)
      rw [hpre, read_text] at hread
      cases hread
    rw [List.cons_append, pieces_of_unread hlonger, pieces_of_unread hread, ih]
    rfl

def Occurs (m : Mark α β) (b : β) (xs : List α) : Prop := ∃ pre post, xs = pre ++ (m.text b ++ post)

theorem pieces_plain {xs : List α} (h : ∀ b, ¬ m.Occurs b xs) : m.pieces xs = xs.map .inl := by
  induction xs with
  | nil => simp
  | cons x xs ih =>
    have hread : m.read (x :: xs) = none := by
      rw [Option.eq_none_iff_forall_ne_some]
      rintro ⟨b, rest⟩ hsome
      exact h b ⟨[], rest, m.read_eq_some.mp hsome⟩
    rw [pieces_of_unread hread, ih fun b ⟨pre, post, hin⟩ => h b ⟨x :: pre, post, by rw [hin]; rfl⟩]
    rfl

/-- **The pieces are the text.** -/
theorem unpiece_pieces (m : Mark α β) (xs : List α) : (m.pieces xs).flatMap m.unpiece = xs := by
  induction xs using pieces.induct (m := m) with
  | case1 => simp
  | case2 x xs b rest hread ih =>
    rw [pieces_of_read hread, List.flatMap_cons, ih, m.read_eq_some.mp hread]
    rfl
  | case3 x xs hread ih =>
    rw [pieces_of_unread hread, List.flatMap_cons, ih]
    rfl

/-- **Pieces are cut where the text is.** -/
theorem pieces_eq_append {xs : List α} {before after : List (α ⊕ β)} (h : m.pieces xs = before ++ after) :
    ∃ pre post, xs = pre ++ post ∧ m.pieces pre = before ∧ m.pieces post = after := by
  induction xs using pieces.induct (m := m) generalizing before with
  | case1 =>
    rw [pieces_nil] at h
    obtain ⟨rfl, rfl⟩ := List.append_eq_nil_iff.mp h.symm
    exact ⟨[], [], by simp⟩
  | case2 x xs b rest hread ih =>
    cases before with
    | nil => exact ⟨[], x :: xs, rfl, m.pieces_nil, h⟩
    | cons piece before =>
      rw [pieces_of_read hread] at h
      obtain ⟨rfl, hrest⟩ := List.cons.inj h
      obtain ⟨pre, post, rfl, rfl, rfl⟩ := ih hrest
      refine ⟨m.text b ++ pre, post, ?_, pieces_text b pre, rfl⟩
      rw [m.read_eq_some.mp hread, List.append_assoc]
  | case3 x xs hread ih =>
    cases before with
    | nil => exact ⟨[], x :: xs, rfl, m.pieces_nil, h⟩
    | cons piece before =>
      rw [pieces_of_unread hread] at h
      obtain ⟨rfl, hrest⟩ := List.cons.inj h
      obtain ⟨pre, post, rfl, rfl, rfl⟩ := ih hrest
      have hpre : m.read (x :: pre) = none := by
        rw [Option.eq_none_iff_forall_ne_some]
        rintro ⟨b, rest⟩ hsome
        have hmore : m.read (x :: (pre ++ post)) = some (b, rest ++ post) := read_append hsome post
        cases hread.symm.trans hmore
      exact ⟨x :: pre, post, rfl, pieces_of_unread hpre, rfl⟩

theorem pieces_eq_mark {xs : List α} {before after : List (α ⊕ β)} {b : β} (h : m.pieces xs = before ++ .inr b :: after) :
    ∃ pre post, xs = pre ++ (m.text b ++ post) ∧ m.pieces pre = before ∧ m.pieces post = after := by
  obtain ⟨pre, behind, rfl, hpre, hbehind⟩ := pieces_eq_append h
  have hcut : m.pieces behind = [.inr b] ++ after := hbehind
  obtain ⟨mark, post, rfl, hmark, hpost⟩ := pieces_eq_append hcut
  have htext : mark = m.text b := by
    have hsame := m.unpiece_pieces mark
    rw [hmark] at hsame
    simpa [unpiece] using hsame.symm
  exact ⟨pre, post, by rw [htext], hpre, hpost⟩

end Mark

end Basis
