import Mathlib.Data.List.TakeDrop
import Mathlib.Data.List.TakeWhile

/-!
# Searching for a tagged run

A run of elements of a kind between two tags, the second of which no element of that kind starts.
The leftmost match is searched for, so the run is as long as it can be and there is nothing to
take back.
-/

namespace TagSearch

variable {α : Type*}

structure Pattern (α : Type*) where
  opening : List α
  inRun : α → Bool
  stop : α
  closing : List α
  stop_ends : inRun stop = false

namespace Pattern

def Starts (P : Pattern α) (run text : List α) : Prop :=
  ∃ rest, text = P.opening ++ (run ++ P.stop :: (P.closing ++ rest)) ∧ run ≠ [] ∧
    ∀ a ∈ run, P.inRun a = true

/-- The leftmost match. -/
inductive First (P : Pattern α) (run : List α) : List α → Prop
  | here {text : List α} (h : P.Starts run text) : First P run text
  | later {a : α} {text : List α} (hnone : ∀ run', ¬P.Starts run' (a :: text))
      (h : First P run text) : First P run (a :: text)

section search

variable [DecidableEq α] (P : Pattern α)

def matchAt (text : List α) : Option (List α) :=
  let after := text.drop P.opening.length
  let run := after.takeWhile P.inRun
  if P.opening <+: text ∧ run ≠ [] ∧ P.stop :: P.closing <+: after.dropWhile P.inRun then
    some run
  else none

def search : List α → Option (List α)
  | [] => none
  | a :: text => (P.matchAt (a :: text)).or (search text)

end search

variable {P : Pattern α}

theorem takeWhile_run {run : List α} (h : ∀ a ∈ run, P.inRun a = true) (rest : List α) :
    (run ++ P.stop :: rest).takeWhile P.inRun = run ∧
      (run ++ P.stop :: rest).dropWhile P.inRun = P.stop :: rest := by
  rw [List.takeWhile_append_of_pos h, List.dropWhile_append_of_pos h]
  simp [P.stop_ends]

variable [DecidableEq α]

theorem matchAt_eq_some {run text : List α} : P.matchAt text = some run ↔ P.Starts run text := by
  constructor
  · intro h
    simp only [matchAt] at h
    split at h
    · rename_i hmatch
      obtain ⟨⟨after, rfl⟩, hne, rest, hrest⟩ := hmatch
      cases h
      rw [List.drop_left] at hne hrest ⊢
      refine ⟨rest, ?_, hne, fun a ha => List.mem_takeWhile_imp ha⟩
      rw [← List.cons_append, hrest, List.takeWhile_append_dropWhile]
    · cases h
  · intro hstarts
    obtain ⟨rest, rfl, hne, hrun⟩ := hstarts
    have hsplit := takeWhile_run hrun (P.closing ++ rest)
    simp only [matchAt, List.drop_left, hsplit.1, hsplit.2]
    rw [if_pos]
    exact ⟨List.prefix_append _ _, hne, List.prefix_append (P.stop :: P.closing) rest⟩

omit [DecidableEq α] in
theorem not_starts_nil (run : List α) : ¬P.Starts run [] := by
  intro hstarts
  obtain ⟨rest, htext, -⟩ := hstarts
  simp at htext

theorem search_eq_some {run text : List α} : P.search text = some run ↔ P.First run text := by
  induction text with
  | nil =>
    constructor
    · intro h
      cases h
    · intro h
      cases h with
      | here h => exact absurd h (not_starts_nil run)
  | cons a text ih =>
    rw [search]
    cases hmatch : P.matchAt (a :: text) with
    | some run' =>
      have hstarts := matchAt_eq_some.1 hmatch
      constructor
      · intro h
        cases h
        exact .here hstarts
      · intro h
        cases h with
        | here h =>
          rw [← matchAt_eq_some, hmatch] at h
          exact h
        | later hnone h => exact absurd hstarts (hnone run')
    | none =>
      have hnone : ∀ run', ¬P.Starts run' (a :: text) := by
        intro run' hstarts
        rw [← matchAt_eq_some, hmatch] at hstarts
        cases hstarts
      rw [Option.none_or, ih]
      constructor
      · exact .later hnone
      · intro h
        cases h with
        | here h => exact absurd h (hnone run)
        | later _ h => exact h

end Pattern

end TagSearch
