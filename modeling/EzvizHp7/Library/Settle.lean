import Mathlib.Order.Basic

/-!
# Running a partial step to rest

A loop `while step(): pass` over a state, with fuel. When every step lowers a measure the fuel
is irrelevant from the measure on, the loop ends at rest, and a change to the state that
commutes with the step may be made before or after the loop.
-/

namespace Settle

variable {σ : Type*} (step : σ → Option σ)

/-- Take steps until none is possible or the fuel is spent. -/
def settle : Nat → σ → σ
  | 0, s => s
  | n + 1, s =>
    match step s with
    | none => s
    | some s' => settle n s'

variable {step}

theorem settle_of_rest {s : σ} (h : step s = none) (n : Nat) : settle step n s = s := by
  cases n with
  | zero => rfl
  | succ n => rw [settle, h]

theorem settle_invariant {P : σ → Prop} (hP : ∀ s s', step s = some s' → P s → P s') (n : Nat)
    {s : σ} (hs : P s) : P (settle step n s) := by
  induction n generalizing s with
  | zero => exact hs
  | succ n ih =>
    rw [settle]
    cases hstep : step s with
    | none => exact hs
    | some s' => exact ih (hP s s' hstep hs)

/-- A map the step commutes with passes through the loop. -/
theorem settle_map {f : σ → σ} (hf : ∀ s, step (f s) = (step s).map f) (n : Nat) (s : σ) :
    settle step n (f s) = f (settle step n s) := by
  induction n generalizing s with
  | zero => rfl
  | succ n ih =>
    rw [settle, settle, hf]
    cases step s with
    | none => rfl
    | some s' => exact ih s'

section measured

variable {μ : σ → Nat} (hμ : ∀ s s', step s = some s' → μ s' < μ s)

include hμ

theorem settle_fuel {m n : Nat} {s : σ} (hm : μ s ≤ m) (hn : μ s ≤ n) :
    settle step m s = settle step n s := by
  induction m generalizing n s with
  | zero =>
    have hrest : step s = none := by
      cases hstep : step s with
      | none => rfl
      | some s' => exact absurd (hμ s s' hstep) (by omega)
    rw [settle_of_rest hrest, settle_of_rest hrest]
  | succ m ih =>
    cases hstep : step s with
    | none => rw [settle_of_rest hstep, settle_of_rest hstep]
    | some s' =>
      have hlt := hμ s s' hstep
      cases n with
      | zero => omega
      | succ n =>
        rw [settle, settle, hstep]
        exact ih (by omega) (by omega)

/-- Enough fuel ends at rest. -/
theorem settle_rest {n : Nat} {s : σ} (hn : μ s ≤ n) : step (settle step n s) = none := by
  induction n generalizing s with
  | zero =>
    cases hstep : step s with
    | none => exact hstep
    | some s' => exact absurd (hμ s s' hstep) (by omega)
  | succ n ih =>
    rw [settle]
    cases hstep : step s with
    | none => exact hstep
    | some s' => exact ih (by have := hμ s s' hstep; omega)

theorem settle_step {n : Nat} {s s' : σ} (hstep : step s = some s') (hn : μ s ≤ n) :
    settle step n s = settle step n s' := by
  have hlt := hμ s s' hstep
  cases n with
  | zero => omega
  | succ n =>
    rw [settle, hstep]
    exact settle_fuel hμ (by omega) (by omega)

/-- Settling first and then changing the state gives the same rest as changing it first, for a
change under which every step remains possible. -/
theorem settle_settle {f : σ → σ} (hf : ∀ s s', step s = some s' → step (f s) = some (f s'))
    (m : Nat) {n : Nat} {s : σ} (hn : μ (f s) ≤ n) :
    settle step n (f (settle step m s)) = settle step n (f s) := by
  induction m generalizing s with
  | zero => rfl
  | succ m ih =>
    rw [settle]
    cases hstep : step s with
    | none => rfl
    | some s' =>
      have hfs := hf s s' hstep
      rw [settle_step hμ hfs hn]
      exact ih (by have := hμ _ _ hfs; omega)

end measured

end Settle
