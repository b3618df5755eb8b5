import Mathlib.Data.List.Basic

/-!
# Timers

The calls that an event loop still has to make. Scheduling a call gives a handle that no call
pending then has, and cancelling a handle whose call has been made does nothing.
-/

/-- Handles are given out in order. -/
structure Timers (τ : Type*) where
  pending : List (Nat × τ)
  next : Nat
  fresh : ∀ e ∈ pending, e.1 < next

namespace Timers

variable {τ : Type*}

def callLater (due : τ) (t : Timers τ) : Nat × Timers τ where
  fst := t.next
  snd :=
    { pending := t.pending ++ [(t.next, due)]
      next := t.next + 1
      fresh := by
        intro e he
        rcases List.mem_append.1 he with he | he
        · exact Nat.lt_succ_of_lt (t.fresh e he)
        · rw [List.mem_singleton.1 he]
          exact Nat.lt_succ_self t.next }

/-- The call under the handle is taken off, because it is cancelled or because it is made. -/
def cancel (handle : Nat) (t : Timers τ) : Timers τ where
  pending := t.pending.filter (·.1 ≠ handle)
  next := t.next
  fresh e he := t.fresh e (List.mem_of_mem_filter he)

def due? (handle : Nat) (t : Timers τ) : Option τ := t.pending.lookup handle

@[simp] theorem callLater_pending (due : τ) (t : Timers τ) :
    (t.callLater due).2.pending = t.pending ++ [(t.next, due)] := rfl

@[simp] theorem callLater_next (due : τ) (t : Timers τ) :
    (t.callLater due).2.next = t.next + 1 := rfl

@[simp] theorem cancel_next (handle : Nat) (t : Timers τ) : (t.cancel handle).next = t.next := rfl

theorem cancel_pending_of_singleton {handle : Nat} {due : τ} {t : Timers τ}
    (h : t.pending = [(handle, due)]) : (t.cancel handle).pending = [] := by
  simp [cancel, h]

theorem due?_callLater (due : τ) (t : Timers τ) :
    (t.callLater due).2.due? t.next = some due := by
  have hold : t.pending.lookup t.next = none := by
    rw [List.lookup_eq_none_iff]
    intro e he
    exact bne_iff_ne.2 (Nat.ne_of_gt (t.fresh e he))
  simp [due?, List.lookup_append, hold]

theorem due?_of_nil {t : Timers τ} (h : t.pending = []) (handle : Nat) : t.due? handle = none := by
  simp [due?, h]

theorem due?_of_singleton {c : Nat} {due : τ} {t : Timers τ} (h : t.pending = [(c, due)])
    (handle : Nat) : t.due? handle = if handle = c then some due else none := by
  by_cases hc : handle = c
  · simp [due?, h, hc]
  · simp [due?, h, hc, List.lookup_cons, beq_false_of_ne hc]

end Timers
