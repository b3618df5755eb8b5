import Mathlib.Data.List.Induction

/-!
# The last write of a history

A variable that is only ever overwritten holds what the last write of its history wrote. Which
value that is can be told without the variable: a write of the value is followed by no write of
another.
-/

namespace LastWrite

variable {ε α : Type*} (written : ε → Option α)

/-- The variable after a history, where some events write a value to it. -/
def value (initial : α) (past : List ε) : α := (past.filterMap written).getLast?.getD initial

/-- A write of the value is followed by no write of another. -/
def Holds (c : α) (past : List ε) : Prop :=
  ∃ before e after, past = before ++ e :: after ∧ written e = some c ∧
    ∀ d ∈ after, ∀ c', written d = some c' → c' = c

variable {written} {initial c : α} {past : List ε} {e : ε}

@[simp] theorem value_append :
    value written initial (past ++ [e]) = (written e).getD (value written initial past) := by
  simp only [value, List.filterMap_append, List.getLast?_append]
  cases h : written e <;> simp [h]

theorem holds_iff : Holds written c past ↔ (past.filterMap written).getLast? = some c := by
  constructor
  · rintro ⟨before, e, after, rfl, he, hafter⟩
    rw [List.filterMap_append, List.filterMap_cons_some he, List.getLast?_append,
      List.getLast?_cons]
    cases hlast : (after.filterMap written).getLast? with
    | none => simp
    | some c' =>
      obtain ⟨d, hd, hwritten⟩ := List.mem_filterMap.1 (List.mem_of_getLast? hlast)
      simp [hafter d hd c' hwritten]
  · intro h
    induction past using List.reverseRecOn with
    | nil => cases h
    | append_singleton past e ih =>
      rw [List.filterMap_append, List.getLast?_append] at h
      cases he : written e with
      | some c' =>
        simp only [List.filterMap_cons_some he, List.filterMap_nil, List.getLast?_singleton,
          Option.some_or, Option.some.injEq] at h
        exact ⟨past, e, [], rfl, h ▸ he, by simp⟩
      | none =>
        simp only [List.filterMap_cons_none he, List.filterMap_nil, List.getLast?_nil,
          Option.none_or] at h
        obtain ⟨before, d, after, rfl, hd, hafter⟩ := ih h
        refine ⟨before, d, after ++ [e], by simp, hd, fun d' hd' c' hc' => ?_⟩
        rcases List.mem_append.1 hd' with hd' | hd'
        · exact hafter d' hd' c' hc'
        · rw [List.mem_singleton.1 hd', he] at hc'
          cases hc'

theorem exists_last (h : (past.filterMap written).getLast? = some c) :
    ∃ before e after, past = before ++ e :: after ∧ written e = some c ∧
      ∀ d ∈ after, written d = none := by
  rw [List.getLast?_filterMap, List.findSome?_eq_some_iff] at h
  obtain ⟨after, e, before, hpast, he, hafter⟩ := h
  refine ⟨before.reverse, e, after.reverse, ?_, he, by simpa using hafter⟩
  rw [← List.reverse_reverse past, hpast]
  simp

theorem rel_getLast {R : ε → ε → Prop} {l : List ε} (h : l.Pairwise R) {a z : ε} (ha : a ∈ l)
    (hz : l.getLast? = some z) : a = z ∨ R a z := by
  obtain ⟨l, rfl⟩ := List.getLast?_eq_some_iff.1 hz
  rw [List.pairwise_append] at h
  rcases List.mem_append.1 ha with ha | ha
  · exact .inr (h.2.2 a ha z (by simp))
  · exact .inl (List.mem_singleton.1 ha)

instance [DecidableEq α] : Decidable (Holds written c past) := decidable_of_iff _ holds_iff.symm

/-- Once anything was written, the variable holds a value exactly where the history does. -/
theorem value_eq_iff (h : ∃ e ∈ past, written e ≠ none) :
    value written initial past = c ↔ Holds written c past := by
  obtain ⟨e, he, hwritten⟩ := h
  obtain ⟨c', hc'⟩ := Option.ne_none_iff_exists'.1 hwritten
  have hne : past.filterMap written ≠ [] := List.ne_nil_of_mem (List.mem_filterMap.2 ⟨e, he, hc'⟩)
  rw [holds_iff, value, List.getLast?_eq_some_getLast hne, Option.getD_some, Option.some.injEq]

section beforeLast

variable [DecidableEq ε]

def beforeLast (e : ε) (past : List ε) : List ε :=
  (past.reverse.dropWhile fun d => decide (d ≠ e)).tail.reverse

@[simp] theorem beforeLast_append_self : beforeLast e (past ++ [e]) = past := by
  simp [beforeLast]

theorem beforeLast_append_of_ne {d : ε} (hd : d ≠ e) :
    beforeLast e (past ++ [d]) = beforeLast e past := by
  simp [beforeLast, hd]

end beforeLast

end LastWrite
