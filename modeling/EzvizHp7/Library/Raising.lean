import Mathlib

/-!
# Methods that raise

A method that reads and writes an object and may raise is a state monad in which an exception does
not undo what was written. How a branch, a raise and a `finally` run, next to the lemmas for the
other constructs.
-/

namespace EStateM

variable {ε σ α β : Type} (m : EStateM ε σ α) (s : σ)

/-- An exception does not undo what was written before it. -/
@[simp, grind =] theorem restore_save (s s' : σ) :
    Backtrackable.restore s (Backtrackable.save s') = s := rfl

@[simp] theorem run_raise (e : ε) : (throw e : EStateM ε σ α).run s = .error e s := rfl

@[simp] theorem run_ite (c : Prop) [Decidable c] (m' : EStateM ε σ α) :
    (if c then m else m').run s = if c then m.run s else m'.run s := by
  split <;> rfl

@[simp] theorem run_tryFinally (finalize : EStateM ε σ β) :
    (tryFinally m finalize).run s = match m.run s with
      | .ok a s' =>
        match finalize.run s' with
        | .ok _ s'' => .ok a s''
        | .error e' s'' => .error e' s''
      | .error e s' =>
        match finalize.run s' with
        | .ok _ s'' => .error e s''
        | .error e' s'' => .error e' s'' := by
  simp only [tryFinally, run_map, run_tryFinally']
  cases m.run s with
  | ok a s' => cases h : finalize.run s' <;> simp only [h, Result.map]
  | error e s' => cases h : finalize.run s' <;> simp only [h, Result.map]

theorem run_bind_eq_ok {m : EStateM ε σ α} {f : α → EStateM ε σ β} {s s' : σ} {b : β} :
    (m >>= f).run s = .ok b s' ↔ ∃ a t, m.run s = .ok a t ∧ (f a).run t = .ok b s' := by
  rw [run_bind]
  cases m.run s <;> simp

theorem run_tryFinally_eq_ok {m : EStateM ε σ α} {finalize : EStateM ε σ β} {s s' : σ} {a : α} :
    (tryFinally m finalize).run s = .ok a s' ↔
      ∃ t b, m.run s = .ok a t ∧ finalize.run t = .ok b s' := by
  constructor
  · intro h
    rw [run_tryFinally] at h
    cases hm : m.run s with
    | error e t => cases hf : finalize.run t <;> simp [hm, hf] at h
    | ok a' t =>
      cases hf : finalize.run t with
      | error e t' => simp [hm, hf] at h
      | ok b t' =>
        simp only [hm, hf, Result.ok.injEq] at h
        exact ⟨t, b, by rw [h.1], by rw [hf, h.2]⟩
  · rintro ⟨t, b, hm, hf⟩
    simp only [run_tryFinally, hm, hf]

def outcome : Except ε α × σ :=
  match m.run s with
  | .ok a s' => (.ok a, s')
  | .error e s' => (.error e, s')

/-- The state after the method, whether it returned or raised. -/
def left : σ :=
  match m.run s with
  | .ok _ s' => s'
  | .error _ s' => s'

theorem left_of_ok {m : EStateM ε σ α} {s s' : σ} {a : α} (h : m.run s = .ok a s') :
    m.left s = s' := by
  rw [left, h]

theorem left_of_error {m : EStateM ε σ α} {s s' : σ} {e : ε} (h : m.run s = .error e s') :
    m.left s = s' := by
  rw [left, h]

theorem outcome_snd : (m.outcome s).2 = m.left s := by
  rw [outcome, left]
  cases m.run s <;> rfl

theorem outcome_fst_eq_ok {m : EStateM ε σ α} {s : σ} {a : α} :
    (m.outcome s).1 = .ok a ↔ m.run s = .ok a (m.left s) := by
  rw [outcome, left]
  cases m.run s <;> simp

@[simp] theorem left_modify (f : σ → σ) : (modify f : EStateM ε σ PUnit).left s = f s := rfl

theorem left_bind (f : α → EStateM ε σ β) :
    (m >>= f).left s = match m.run s with
      | .ok a s' => (f a).left s'
      | .error _ s' => s' := by
  rw [left, run_bind]
  cases m.run s <;> rfl

/-- What is finalized is what the body left. -/
theorem left_tryFinally (finalize : EStateM ε σ β) :
    (tryFinally m finalize).left s = finalize.left (m.left s) := by
  simp only [left, run_tryFinally]
  cases m.run s with
  | ok a s' => cases h : finalize.run s' <;> simp only [h]
  | error e s' => cases h : finalize.run s' <;> simp only [h]

/-- Neither a return nor an exception loses the property. -/
def Keeps (P : σ → Prop) (m : EStateM ε σ α) : Prop := ∀ s, P s → P (m.left s)

section Keeps

variable {P : σ → Prop} {m : EStateM ε σ α}

theorem Keeps.pure (a : α) : Keeps P (pure a : EStateM ε σ α) := fun _ hs => hs

theorem Keeps.raise (e : ε) : Keeps P (throw e : EStateM ε σ α) := fun _ hs => hs

theorem Keeps.get : Keeps P (get : EStateM ε σ σ) := fun _ hs => hs

theorem Keeps.modify {f : σ → σ} (h : ∀ s, P s → P (f s)) :
    Keeps P (modify f : EStateM ε σ PUnit) := h

theorem left_bind_of {s : σ} {f : α → EStateM ε σ β} (hm : P (m.left s))
    (hf : ∀ a, Keeps P (f a)) : P ((m >>= f).left s) := by
  rw [left_bind]
  cases hrun : m.run s with
  | ok a s' => exact hf a s' (left_of_ok hrun ▸ hm)
  | error e s' => exact left_of_error hrun ▸ hm

theorem Keeps.bind {f : α → EStateM ε σ β} (hm : Keeps P m) (hf : ∀ a, Keeps P (f a)) :
    Keeps P (m >>= f) := fun s hs => left_bind_of (hm s hs) hf

theorem Keeps.tryCatch {handler : ε → EStateM ε σ α} (hm : Keeps P m)
    (hhandler : ∀ e, Keeps P (handler e)) : Keeps P (tryCatch m handler) := by
  intro s hs
  have hm := hm s hs
  rw [left, run_tryCatch]
  cases hrun : m.run s with
  | ok a s' => exact left_of_ok hrun ▸ hm
  | error e s' => exact hhandler e s' (left_of_error hrun ▸ hm)

theorem Keeps.ite {c : Prop} [Decidable c] {m' : EStateM ε σ α} (hm : Keeps P m)
    (hm' : Keeps P m') : Keeps P (if c then m else m') := by
  split
  · exact hm
  · exact hm'

end Keeps

end EStateM

theorem Except.bind_eq_ok.{u, v} {ε : Type u} {α β : Type v} {x : Except ε α}
    {f : α → Except ε β} {b : β} : (x >>= f) = .ok b ↔ ∃ a, x = .ok a ∧ f a = .ok b := by
  cases x with
  | ok a => simp [bind, Except.bind]
  | error e => simp [bind, Except.bind]

theorem Except.mapError_eq_ok {ε ε' α : Type} {x : Except ε α} {f : ε → ε'} {a : α} :
    x.mapError f = .ok a ↔ x = .ok a := by
  cases x <;> simp [Except.mapError]
