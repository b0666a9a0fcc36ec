/-
Computations over a mutable state that may fail. A failure keeps the
changes made before it, as a function taking `&mut` and returning a
result does, so what a failing run leaves behind can be spoken about.

`bind_ok` and `bind_error` take a sequence apart; `Keeps` is the frame of a
computation: a relation between the state before and after every run,
failing runs included.
-/

namespace Basis

/-- A computation over `σ` failing with `ε`. -/
def Action (σ ε α : Type) : Type := σ → Except ε α × σ

/-! ## Results -/

theorem except_bind_ok {ε α β : Type} {x : Except ε α} {f : α → Except ε β} {b : β} :
    (x >>= f) = .ok b ↔ ∃ a, x = .ok a ∧ f a = .ok b := by
  cases x with
  | error e => simp [bind, Except.bind]
  | ok a => simp [bind, Except.bind]

theorem except_mapError_ok {ε δ α : Type} {x : Except ε α} {f : ε → δ} {a : α} :
    x.mapError f = .ok a ↔ x = .ok a := by
  cases x with
  | error e =>
    constructor
    · intro h
      cases h
    · intro h
      cases h
  | ok a' =>
    constructor
    · intro h
      cases h
      rfl
    · intro h
      cases h
      rfl

theorem except_mapError_of_ok {ε δ α : Type} (f : ε → δ) (a : α) : (Except.ok a).mapError f = .ok a := rfl

/-! ## Computations -/

namespace Action

variable {σ ε α β : Type}

def ret (a : α) : Action σ ε α := fun s => (.ok a, s)

/-- Run `x`, then `f` on its value; a failure of `x` ends the run. -/
def andThen (x : Action σ ε α) (f : α → Action σ ε β) : Action σ ε β := fun s =>
  match x s with
  | (.ok a, t) => f a t
  | (.error e, t) => (.error e, t)

instance : Monad (Action σ ε) where
  pure := ret
  bind := andThen

def fail (e : ε) : Action σ ε α := fun s => (.error e, s)

def read : Action σ ε σ := fun s => (.ok s, s)

def update (f : σ → σ) : Action σ ε Unit := fun s => (.ok (), f s)

/-- A result computed outside the state. -/
def lift (r : Except ε α) : Action σ ε α := fun s => (r, s)

/-- The value, or the failure when it is absent. -/
def orFail (o : Option α) (e : ε) : Action σ ε α :=
  match o with
  | some a => ret a
  | none => fail e

@[simp] theorem pure_run (a : α) (s : σ) : (pure a : Action σ ε α) s = (.ok a, s) := rfl
@[simp] theorem fail_run (e : ε) (s : σ) : (fail e : Action σ ε α) s = (.error e, s) := rfl
@[simp] theorem read_run (s : σ) : (read : Action σ ε σ) s = (.ok s, s) := rfl
@[simp] theorem update_run (f : σ → σ) (s : σ) : (update f : Action σ ε Unit) s = (.ok (), f s) := rfl
@[simp] theorem lift_run (r : Except ε α) (s : σ) : (lift r : Action σ ε α) s = (r, s) := rfl
@[simp] theorem orFail_some (a : α) (e : ε) : (orFail (some a) e : Action σ ε α) = pure a := rfl
@[simp] theorem orFail_none (e : ε) : (orFail none e : Action σ ε α) = fail e := rfl

theorem bind_run (x : Action σ ε α) (f : α → Action σ ε β) (s : σ) :
    (x >>= f) s = match x s with
      | (.ok a, t) => f a t
      | (.error e, t) => (.error e, t) := rfl

theorem bind_ok {x : Action σ ε α} {f : α → Action σ ε β} {s t : σ} {b : β} :
    (x >>= f) s = (.ok b, t) ↔ ∃ a u, x s = (.ok a, u) ∧ f a u = (.ok b, t) := by
  rw [bind_run]
  rcases x s with ⟨e | a, u⟩
  · simp
  · simp only [Prod.mk.injEq, Except.ok.injEq]
    exact ⟨fun h => ⟨a, u, ⟨rfl, rfl⟩, h⟩, by rintro ⟨_, _, ⟨rfl, rfl⟩, h⟩; exact h⟩

theorem bind_of_ok {x : Action σ ε α} {f : α → Action σ ε β} {s u : σ} {a : α} (h : x s = (.ok a, u)) :
    (x >>= f) s = f a u := by
  rw [bind_run, h]

theorem bind_of_error {x : Action σ ε α} {f : α → Action σ ε β} {s u : σ} {e : ε}
    (h : x s = (.error e, u)) : (x >>= f) s = (.error e, u) := by
  rw [bind_run, h]

@[simp] theorem pure_bind_run (a : α) (f : α → Action σ ε β) (s : σ) : (pure a >>= f) s = f a s := rfl
@[simp] theorem fail_bind_run (e : ε) (f : α → Action σ ε β) (s : σ) :
    ((fail e : Action σ ε α) >>= f) s = (.error e, s) := rfl
@[simp] theorem read_bind_run (f : σ → Action σ ε β) (s : σ) : (read >>= f) s = f s s := rfl
@[simp] theorem update_bind_run (g : σ → σ) (f : Unit → Action σ ε β) (s : σ) :
    (update g >>= f) s = f () (g s) := rfl
@[simp] theorem lift_ok_bind_run (a : α) (f : α → Action σ ε β) (s : σ) :
    ((lift (.ok a) : Action σ ε α) >>= f) s = f a s := rfl
@[simp] theorem lift_error_bind_run (e : ε) (f : α → Action σ ε β) (s : σ) :
    ((lift (.error e) : Action σ ε α) >>= f) s = (.error e, s) := rfl

/-- A sequence may be cut anywhere. -/
theorem bind_assoc {γ : Type} (x : Action σ ε α) (f : α → Action σ ε β) (g : β → Action σ ε γ) :
    (x >>= f) >>= g = x >>= fun a => f a >>= g := by
  funext s
  simp only [bind_run]
  rcases x s with ⟨e | a, u⟩ <;> rfl

theorem orFail_eq_ok {o : Option α} {e : ε} {s t : σ} {a : α} :
    (orFail o e : Action σ ε α) s = (.ok a, t) ↔ o = some a ∧ t = s := by
  cases o <;> simp [Prod.ext_iff, eq_comm]

theorem bind_eq_ok_iff {x : Action σ ε α} {f : α → Action σ ε β} {s : σ} {b : β} :
    ((x >>= f) s).1 = .ok b ↔ ∃ a u, x s = (.ok a, u) ∧ (f a u).1 = .ok b := by
  rw [bind_run]
  rcases x s with ⟨e | a, u⟩
  · simp
  · exact ⟨fun h => ⟨a, u, rfl, h⟩, fun ⟨_, _, hx, h⟩ => by cases hx; exact h⟩

theorem lift_bind_eq_ok {r : Except ε α} {f : α → Action σ ε β} {s : σ} {b : β} :
    ((lift r >>= f) s).1 = .ok b ↔ ∃ a, r = .ok a ∧ (f a s).1 = .ok b := by
  cases r <;> simp

theorem lift_bind_ok {r : Except ε α} {f : α → Action σ ε β} {s t : σ} {b : β} :
    (lift r >>= f) s = (.ok b, t) ↔ ∃ a, r = .ok a ∧ f a s = (.ok b, t) := by
  cases r <;> simp

theorem orFail_bind_ok {o : Option α} {e : ε} {f : α → Action σ ε β} {s t : σ} {b : β} :
    (orFail o e >>= f) s = (.ok b, t) ↔ ∃ a, o = some a ∧ f a s = (.ok b, t) := by
  cases o <;> simp

/-! ## Frames -/

/-- A relation a sequence of computations keeps when each of them does. -/
class Frame (R : σ → σ → Prop) : Prop where
  refl : ∀ s, R s s
  trans : ∀ {s t u}, R s t → R t u → R s u

/-- Every run relates the state before to the state after. -/
def Keeps (R : σ → σ → Prop) (x : Action σ ε α) : Prop := ∀ s, R s (x s).2

variable {R : σ → σ → Prop}

theorem Keeps.apply {x : Action σ ε α} (h : Keeps R x) {s t : σ} {r : Except ε α} (hx : x s = (r, t)) :
    R s t := by
  have := h s
  rwa [hx] at this

section
variable [Frame R]

theorem keeps_pure (a : α) : Keeps R (pure a : Action σ ε α) := fun s => Frame.refl s
theorem keeps_fail (e : ε) : Keeps R (fail e : Action σ ε α) := fun s => Frame.refl s
theorem keeps_read : Keeps R (read : Action σ ε σ) := fun s => Frame.refl s
theorem keeps_lift (r : Except ε α) : Keeps R (lift r : Action σ ε α) := fun s => Frame.refl s

theorem keeps_orFail (o : Option α) (e : ε) : Keeps R (orFail o e : Action σ ε α) := by
  cases o
  · exact keeps_fail e
  · exact keeps_pure _

theorem Keeps.bind {x : Action σ ε α} {f : α → Action σ ε β} (hx : Keeps R x) (hf : ∀ a, Keeps R (f a)) :
    Keeps R (x >>= f) := by
  intro s
  rw [bind_run]
  rcases h : x s with ⟨_ | a, u⟩
  · exact hx.apply h
  · exact Frame.trans (hx.apply h) (hf a u)

end

theorem keeps_update {g : σ → σ} (h : ∀ s, R s (g s)) : Keeps R (update g : Action σ ε Unit) := h

theorem keeps_found [Frame R] {o : Option α} {e : ε} {f : α → Action σ ε β} (hf : ∀ a, o = some a → Keeps R (f a)) :
    Keeps R (orFail o e >>= f) := by
  cases ho : o with
  | none => exact keeps_fail e
  | some a => exact hf a ho

theorem Keeps.weaken {R' : σ → σ → Prop} {x : Action σ ε α} (h : Keeps R x) (hw : ∀ s t, R s t → R' s t) :
    Keeps R' x := fun s => hw _ _ (h s)

end Action

end Basis
