import Mathlib.Data.List.PeriodicityLemma

/-!
# Slices

A slice of a list by its start and its length; it is shorter where the list ends before it does.
Adjacent slices make a longer one, and a slice looks the same at a shifted start where the shift is
a period.
-/

namespace Slices

variable {α : Type*} {start len shift : Nat} {xs : List α}

/-- `xs[start : start + len]` -/
def slice (start len : Nat) (xs : List α) : List α := (xs.drop start).take len

theorem slice_length (start len : Nat) (xs : List α) :
    (slice start len xs).length = min len (xs.length - start) := by
  rw [slice, List.length_take, List.length_drop]

theorem slice_length_of_le (h : start + len ≤ xs.length) : (slice start len xs).length = len := by
  rw [slice_length]
  omega

theorem take_slice (start m n : Nat) (xs : List α) :
    (slice start (m + n) xs).take m = slice start m xs := by
  rw [slice, List.take_take, min_eq_left (Nat.le_add_right m n), slice]

theorem drop_slice (start m n : Nat) (xs : List α) :
    (slice start (m + n) xs).drop m = slice (start + m) n xs := by
  rw [slice, List.drop_take, List.drop_drop, Nat.add_sub_cancel_left, slice]

theorem slice_add (start m n : Nat) (xs : List α) :
    slice start (m + n) xs = slice start m xs ++ slice (start + m) n xs := by
  rw [← take_slice start m n, ← drop_slice start m n, List.take_append_drop]

theorem slice_field {front field back : List α} (hfront : front.length = start)
    (hfield : field.length = len) : slice start len (front ++ (field ++ back)) = field := by
  rw [slice, List.drop_left' hfront, List.take_left' hfield]

theorem slice_append_drop (start len : Nat) (xs : List α) :
    slice start len xs ++ xs.drop (start + len) = xs.drop start := by
  rw [slice, ← List.drop_drop, List.take_append_drop]

/-- Two adjacent slices are those at a shifted start where the slice of both is. -/
theorem slices_eq_shifted_iff {m n : Nat} :
    slice start m xs = slice (start + shift) m xs ∧
        slice (start + m) n xs = slice (start + m + shift) n xs ↔
      slice start (m + n) xs = slice (start + shift) (m + n) xs := by
  have hcomm : start + m + shift = start + shift + m := Nat.add_right_comm start m shift
  rw [hcomm]
  constructor
  · intro ⟨hm, hn⟩
    rw [slice_add, slice_add, hm, hn]
  · intro h
    constructor
    · rw [← take_slice start m n, ← take_slice (start + shift) m n, h]
    · rw [← drop_slice start m n, ← drop_slice (start + shift) m n, h]

theorem hasPeriod_iff_drop (w : List α) (p : Nat) : w.HasPeriod p ↔ w.drop p <+: w := by
  constructor
  · exact List.HasPeriod.drop_prefix p
  · intro h
    have hsplit : w.take p ++ w.drop p <+: w.take p ++ w := (List.prefix_append_right_inj _).2 h
    rwa [List.take_append_drop] at hsplit

/-- A slice looks the same at a shifted start where it is still complete there and the shift is a
period of what the two slices span. -/
theorem slice_eq_shifted_iff (hlen : start + len ≤ xs.length) (hpos : 0 < len) :
    slice start len xs = slice (start + shift) len xs ↔
      start + len + shift ≤ xs.length ∧ (slice start (len + shift) xs).HasPeriod shift := by
  have hspan : (slice start (len + shift) xs).drop shift = slice (start + shift) len xs := by
    rw [Nat.add_comm len shift, drop_slice]
  rw [hasPeriod_iff_drop, hspan, List.prefix_iff_eq_take]
  constructor
  · intro heq
    have hshifted := slice_length_of_le hlen
    rw [heq, slice_length] at hshifted
    refine ⟨by omega, ?_⟩
    rw [← heq, slice_length_of_le hlen, take_slice]
  · intro ⟨hcomplete, htake⟩
    rw [slice_length_of_le (by omega), take_slice] at htake
    exact htake.symm

end Slices
