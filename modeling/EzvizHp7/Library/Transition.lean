import Mathlib.Order.Basic

/-!
# Guarded transition systems

An action is enabled in a state when `step` returns a successor. A run may be restricted by a
condition on each step, read in the state before it, so that a property which holds only of
well-behaved runs is an invariant of the restricted system.
-/

namespace Transition

/-- Initial states and a partial step for every action. -/
structure System (σ α : Type*) where
  init : σ → Prop
  step : α → σ → Option σ

namespace System

variable {σ α : Type*} (sys : System σ α)

/-- The states of the runs all of whose steps are allowed in the state they are taken in. -/
inductive ReachableUnder (allowed : σ → α → Prop) : σ → Prop
  | init {s : σ} (hinit : sys.init s) : ReachableUnder allowed s
  | step {s s' : σ} {a : α} (hs : ReachableUnder allowed s) (hallowed : allowed s a)
      (hstep : sys.step a s = some s') : ReachableUnder allowed s'

def Reachable : σ → Prop := sys.ReachableUnder fun _ _ => True

variable {sys}

theorem ReachableUnder.mono {allowed allowed' : σ → α → Prop}
    (himp : ∀ s a, allowed s a → allowed' s a) {s : σ} (h : sys.ReachableUnder allowed s) :
    sys.ReachableUnder allowed' s := by
  induction h with
  | init hinit => exact .init hinit
  | step _ hallowed hstep ih => exact .step ih (himp _ _ hallowed) hstep

theorem ReachableUnder.reachable {allowed : σ → α → Prop} {s : σ}
    (h : sys.ReachableUnder allowed s) : sys.Reachable s :=
  h.mono fun _ _ _ => trivial

/-- An initial property that every allowed step preserves holds on the whole run. The step may
use what is already known of the state it starts in. -/
theorem ReachableUnder.invariant {allowed : σ → α → Prop} {P : σ → Prop}
    (hinit : ∀ s, sys.init s → P s)
    (hstep : ∀ s a s', sys.ReachableUnder allowed s → P s → allowed s a →
      sys.step a s = some s' → P s')
    {s : σ} (h : sys.ReachableUnder allowed s) : P s := by
  induction h with
  | init hi => exact hinit _ hi
  | step hs hallowed hs' ih => exact hstep _ _ _ hs ih hallowed hs'

section recording

variable (sys) {ω : Type*}

/-- The system next to a record of its run. -/
def recording (start : ω) (note : σ → α → σ → ω → ω) : System (σ × ω) α where
  init s := sys.init s.1 ∧ s.2 = start
  step a s := (sys.step a s.1).map fun t => (t, note s.1 a t s.2)

variable {sys} {start : ω} {note : σ → α → σ → ω → ω}

theorem recording_step {a : α} {s s' : σ × ω} :
    (sys.recording start note).step a s = some s' ↔
      sys.step a s.1 = some s'.1 ∧ s'.2 = note s.1 a s'.1 s.2 := by
  simp only [recording, Option.map_eq_some_iff]
  constructor
  · rintro ⟨t, ht, rfl⟩
    exact ⟨ht, rfl⟩
  · rintro ⟨ht, hr⟩
    exact ⟨s'.1, ht, Prod.ext rfl hr.symm⟩

theorem ReachableUnder.of_recording {allowed : σ → α → Prop} {s : σ × ω}
    (h : (sys.recording start note).ReachableUnder (fun s a => allowed s.1 a) s) :
    sys.ReachableUnder allowed s.1 := by
  induction h with
  | init hinit => exact .init hinit.1
  | step _ hallowed hstep ih => exact .step ih hallowed (recording_step.mp hstep).1

end recording

section restrict

variable (sys)

def restrict (init : σ → Prop) : System σ α := { sys with init := fun s => sys.init s ∧ init s }

variable {sys}

theorem ReachableUnder.of_restrict {init : σ → Prop} {allowed : σ → α → Prop} {s : σ}
    (h : (sys.restrict init).ReachableUnder allowed s) : sys.ReachableUnder allowed s := by
  induction h with
  | init hinit => exact .init hinit.1
  | step _ hallowed hstep ih => exact .step ih hallowed hstep

end restrict

section replay

variable (sys)

/-- Replay a list of actions, refusing a step that is disabled or not allowed. -/
def replay (allowed : σ → α → Prop) [∀ s a, Decidable (allowed s a)] :
    List α → σ → Option σ
  | [], s => some s
  | a :: as, s => if allowed s a then (sys.step a s).bind (replay allowed as) else none

variable {sys}

theorem ReachableUnder.replay {allowed : σ → α → Prop} [∀ s a, Decidable (allowed s a)]
    {as : List α} {s s' : σ} (hs : sys.ReachableUnder allowed s)
    (h : sys.replay allowed as s = some s') : sys.ReachableUnder allowed s' := by
  induction as generalizing s with
  | nil =>
    cases h
    exact hs
  | cons a as ih =>
    rw [System.replay] at h
    by_cases ha : allowed s a
    · rw [if_pos ha] at h
      obtain ⟨t, ht, hrest⟩ := Option.bind_eq_some_iff.mp h
      exact ih (.step hs ha ht) hrest
    · rw [if_neg ha] at h
      cases h

/-- A replay from an initial state that ends in a state passing a test. -/
theorem ReachableUnder.of_replay {allowed : σ → α → Prop} [∀ s a, Decidable (allowed s a)]
    (as : List α) {s : σ} {p : σ → Prop} [DecidablePred p] (hs : sys.init s)
    (h : (sys.replay allowed as s).any (fun t => decide (p t)) = true) :
    ∃ t, sys.ReachableUnder allowed t ∧ p t := by
  cases ht : sys.replay allowed as s with
  | none =>
    rw [ht] at h
    cases h
  | some t =>
    rw [ht] at h
    exact ⟨t, (ReachableUnder.init hs).replay ht, of_decide_eq_true h⟩

end replay

end System

end Transition
