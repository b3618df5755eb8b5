import Mathlib.Data.List.Nodup

/-!
# Changes of a value

The values that differ from the one before them. Which value changes are seen twice can be read
off the sequence itself: it is a value that something else precedes and that comes back.
-/

namespace Changes

variable {α : Type*}

/-- The entries of a list that differ from their predecessor; `a` precedes the first. -/
def changes [DecidableEq α] (a : α) : List α → List α
  | [] => []
  | b :: l => if b = a then changes a l else b :: changes b l

/-- Some value is reached from another one, left, and reached again. -/
def ComesBack (l : List α) : Prop := ∃ v t u, [v, t, u, t].Sublist l ∧ v ≠ t ∧ u ≠ t

/-- A repeated head adds nothing to sublists that begin with two different values. -/
theorem sublist_of_repeated {a v t : α} {w l : List α} (hv : v ≠ t)
    (h : (v :: t :: w).Sublist (a :: a :: l)) : (v :: t :: w).Sublist (a :: l) := by
  cases h with
  | cons _ h => exact h
  | cons_cons _ h =>
    cases h with
    | cons _ h => exact h.cons_cons _
    | cons_cons => exact absurd rfl hv

variable [DecidableEq α]

/-- A value at the end is a change where it differs from the one in front of it. -/
theorem changes_append (a b : α) (l : List α) :
    changes a (l ++ [b]) = changes a l ++ if b = l.getLast?.getD a then [] else [b] := by
  induction l generalizing a with
  | nil => rfl
  | cons c l ih =>
    have hlast : (c :: l).getLast?.getD a = l.getLast?.getD c := by
      cases hl : l.getLast? <;> simp [List.getLast?_cons, hl]
    rw [List.cons_append, changes, changes, hlast, ih, ih]
    split
    · rename_i hca
      rw [hca]
    · rfl

theorem mem_changes {a t : α} {l : List α} :
    t ∈ changes a l ↔ ∃ v, [v, t].Sublist (a :: l) ∧ v ≠ t := by
  induction l generalizing a with
  | nil => simp [changes]
  | cons b l ih =>
    rw [changes]
    split
    · rename_i hba
      rw [ih, hba]
      constructor
      · intro hex
        obtain ⟨v, hsub, hv⟩ := hex
        exact ⟨v, hsub.cons _, hv⟩
      · intro hex
        obtain ⟨v, hsub, hv⟩ := hex
        exact ⟨v, sublist_of_repeated hv hsub, hv⟩
    · rename_i hba
      rw [List.mem_cons, ih]
      constructor
      · intro h
        rcases h with rfl | ⟨v, hsub, hv⟩
        · exact ⟨a, by simp, Ne.symm hba⟩
        · exact ⟨v, hsub.cons _, hv⟩
      · intro hex
        obtain ⟨v, hsub, hv⟩ := hex
        cases hsub with
        | cons _ hsub => exact .inr ⟨v, hsub, hv⟩
        | cons_cons _ hsub =>
          by_cases ht : t = b
          · exact .inl ht
          · right
            refine ⟨b, ?_, Ne.symm ht⟩
            rw [List.singleton_sublist, List.mem_cons] at hsub
            simpa using hsub.resolve_left ht

theorem nodup_changes {a : α} {l : List α} : (changes a l).Nodup ↔ ¬ComesBack (a :: l) := by
  induction l generalizing a with
  | nil => simp [changes, ComesBack]
  | cons b l ih =>
    rw [changes]
    split
    · rename_i hba
      rw [ih, hba]
      apply not_congr
      constructor
      · intro hex
        obtain ⟨v, t, u, hsub, hne⟩ := hex
        exact ⟨v, t, u, hsub.cons _, hne⟩
      · intro hex
        obtain ⟨v, t, u, hsub, hv, hu⟩ := hex
        exact ⟨v, t, u, sublist_of_repeated hv hsub, hv, hu⟩
    · rename_i hba
      rw [List.nodup_cons, ih, mem_changes, ← not_or]
      apply not_congr
      constructor
      · intro h
        rcases h with ⟨u, hsub, hu⟩ | ⟨v, t, u, hsub, hne⟩
        · -- the change to `b` is made from `a`, and once more from `u`
          cases hsub with
          | cons _ hsub => exact ⟨a, b, u, (hsub.cons_cons b).cons_cons a, Ne.symm hba, hu⟩
          | cons_cons => exact absurd rfl hu
        · exact ⟨v, t, u, hsub.cons _, hne⟩
      · intro hex
        obtain ⟨v, t, u, hsub, hv, hu⟩ := hex
        cases hsub with
        | cons _ hsub => exact .inr ⟨v, t, u, hsub, hv, hu⟩
        | cons_cons _ hsub =>
          by_cases ht : t = b
          · left
            rw [ht] at hsub hu
            exact ⟨u, (List.sublist_cons_self b [u, b]).trans hsub, hu⟩
          · right
            cases hsub with
            | cons _ hsub => exact ⟨b, t, u, hsub.cons_cons b, Ne.symm ht, hu⟩
            | cons_cons => exact absurd rfl ht

end Changes
