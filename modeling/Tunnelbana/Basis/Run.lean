/-
Runs of a step function over a list of inputs, and what holds at every
step of them. A condition on the steps (`Along`) is what a conditional
safety theorem assumes; `Along.of_invariant` is the induction every one of
them uses.
-/

namespace Basis

variable {σ ι : Type}

/-- `C` holds of every step of the run: of the state before it and its input. -/
def Along (step : σ → ι → σ) (C : σ → ι → Prop) : σ → List ι → Prop
  | _, [] => True
  | s, i :: is => C s i ∧ Along step C (step s i) is

variable {step : σ → ι → σ} {C P : σ → ι → Prop} {Inv : σ → Prop}

@[simp] theorem along_nil (s : σ) : Along step C s [] := trivial

@[simp] theorem along_cons {s : σ} {i : ι} {is : List ι} :
    Along step C s (i :: is) ↔ C s i ∧ Along step C (step s i) is := Iff.rfl

theorem Along.of_forall (h : ∀ s i, P s i) {s : σ} (is : List ι) : Along step P s is := by
  induction is generalizing s with
  | nil => exact trivial
  | cons i is ih => exact ⟨h s i, ih⟩

theorem Along.imp (h : ∀ s i, C s i → P s i) {s : σ} {is : List ι} (hc : Along step C s is) : Along step P s is := by
  induction is generalizing s with
  | nil => exact trivial
  | cons i is ih => exact ⟨h s i hc.1, ih hc.2⟩

theorem Along.congr (h : ∀ s i, P s i ↔ C s i) {s : σ} (is : List ι) : Along step P s is ↔ Along step C s is := by
  induction is generalizing s with
  | nil => exact Iff.rfl
  | cons i is ih => exact and_congr (h s i) ih

/-- **An invariant kept by the steps that meet `C` carries a property to every
step of a run whose steps all meet `C`.** -/
theorem Along.of_invariant (hstep : ∀ s i, Inv s → C s i → Inv (step s i))
    (hout : ∀ s i, Inv s → C s i → P s i) {s : σ} {is : List ι} (hs : Inv s)
    (h : Along step C s is) : Along step P s is := by
  induction is generalizing s with
  | nil => exact trivial
  | cons i is ih => exact ⟨hout s i hs h.1, ih (hstep s i hs h.1) h.2⟩

/-- The invariant at the end of such a run. -/
theorem Along.invariant_end (hstep : ∀ s i, Inv s → C s i → Inv (step s i)) {s : σ} {is : List ι}
    (hs : Inv s) (h : Along step C s is) : Inv (is.foldl step s) := by
  induction is generalizing s with
  | nil => exact hs
  | cons i is ih => exact ih (hstep s i hs h.1) h.2

theorem Along.and {D : σ → ι → Prop} {s : σ} {is : List ι} (h : Along step C s is) (h' : Along step D s is) :
    Along step (fun s i => C s i ∧ D s i) s is := by
  induction is generalizing s with
  | nil => exact trivial
  | cons i is ih => exact ⟨⟨h.1, h'.1⟩, ih h.2 h'.2⟩

/-- A condition on the inputs alone joins one on the steps. -/
theorem Along.and_mem {Q : ι → Prop} {s : σ} {is : List ι} (h : Along step C s is) (hq : ∀ i ∈ is, Q i) :
    Along step (fun s i => Q i ∧ C s i) s is := by
  induction is generalizing s with
  | nil => exact trivial
  | cons i is ih => exact ⟨⟨hq i List.mem_cons_self, h.1⟩, ih h.2 fun j hj => hq j (List.mem_cons_of_mem _ hj)⟩

theorem Along.append {s : σ} {is js : List ι} :
    Along step C s (is ++ js) ↔ Along step C s is ∧ Along step C (is.foldl step s) js := by
  induction is generalizing s with
  | nil => simp
  | cons i is ih => simp [ih, and_assoc]

end Basis
