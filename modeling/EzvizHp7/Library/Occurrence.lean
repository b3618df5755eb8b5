import Mathlib.Data.List.Infix
import Mathlib.Order.Bounds.Basic

/-!
# Occurrences of a pattern in a list

The first and the last offset at which one of several patterns occurs, what cutting and
extending the searched list does to the offsets, and how two overlapping occurrences agree.
The executable searches return an integer that is `-1` where nothing is found.
-/

namespace Occurrence

variable {α : Type*}

/-- The offsets at which `pat` occurs in `xs`. -/
def offsets (pat xs : List α) : Set Nat := {i | pat <+: xs.drop i}

def anyOffsets (pats : List (List α)) (xs : List α) : Set Nat :=
  {i | ∃ pat ∈ pats, i ∈ offsets pat xs}

theorem offsets_bound {pat xs : List α} (hpat : pat ≠ []) {i : Nat}
    (hi : i ∈ offsets pat xs) : i + pat.length ≤ xs.length := by
  have hlen : pat.length ≤ xs.length - i := by simpa using List.IsPrefix.length_le hi
  have hpos : 0 < pat.length := List.length_pos_iff.mpr hpat
  omega

theorem offsets_append {pat xs : List α} (ys : List α) {i : Nat} (hpat : pat ≠ [])
    (hi : i ∈ offsets pat xs) : i ∈ offsets pat (xs ++ ys) := by
  have hb := offsets_bound hpat hi
  change pat <+: (xs ++ ys).drop i
  rw [List.drop_append_of_le_length (by omega)]
  exact List.IsPrefix.trans hi (List.prefix_append _ _)

theorem offsets_of_append {pat xs ys : List α} {i : Nat} (hb : i + pat.length ≤ xs.length)
    (hi : i ∈ offsets pat (xs ++ ys)) : i ∈ offsets pat xs := by
  change pat <+: (xs ++ ys).drop i at hi
  rw [List.drop_append_of_le_length (by omega)] at hi
  have hlen : pat.length ≤ (xs.drop i).length := by rw [List.length_drop]; omega
  exact List.prefix_of_prefix_length_le hi (List.prefix_append _ _) hlen

theorem mem_offsets_drop (pat xs : List α) (n i : Nat) :
    i ∈ offsets pat (xs.drop n) ↔ n + i ∈ offsets pat xs := by
  change pat <+: (xs.drop n).drop i ↔ pat <+: xs.drop (n + i)
  rw [List.drop_drop]

theorem mem_offsets_take {pat : List α} (xs : List α) (n i : Nat) (hpat : pat ≠ []) :
    i ∈ offsets pat (xs.take n) ↔ i ∈ offsets pat xs ∧ i + pat.length ≤ n := by
  have hpos : 0 < pat.length := List.length_pos_iff.mpr hpat
  change pat <+: (xs.take n).drop i ↔ pat <+: xs.drop i ∧ i + pat.length ≤ n
  rw [List.drop_take, List.prefix_take_iff]
  refine and_congr_right fun _ => ?_
  omega

theorem mem_offsets_cons {x : α} {pat xs : List α} {i : Nat} :
    i ∈ offsets (x :: pat) xs ↔ xs[i]? = some x ∧ i + 1 ∈ offsets pat xs := by
  change x :: pat <+: xs.drop i ↔ xs[i]? = some x ∧ pat <+: xs.drop (i + 1)
  by_cases hi : i < xs.length
  · rw [List.drop_eq_getElem_cons hi, List.cons_prefix_cons, List.getElem?_eq_getElem hi,
      Option.some.injEq, eq_comm]
  · have hlen : xs.length ≤ i := Nat.not_lt.mp hi
    simp [List.drop_eq_nil_of_le hlen, hlen]

/-- What two occurrences at distance `d` must share where they overlap. -/
def Agree (p q : List α) (d : Nat) : Prop := (p.drop d).take q.length = q.take (p.length - d)

instance [DecidableEq α] (p q : List α) (d : Nat) : Decidable (Agree p q d) :=
  inferInstanceAs (Decidable (_ = _))

theorem offsets_agree {p q xs : List α} {i j : Nat} (hij : i ≤ j) (hi : i ∈ offsets p xs)
    (hj : j ∈ offsets q xs) : Agree p q (j - i) := by
  have hp : p.drop (j - i) <+: xs.drop j := by
    have hd := List.IsPrefix.drop hi (j - i)
    rwa [List.drop_drop, show i + (j - i) = j by omega] at hd
  have hp' := List.prefix_iff_eq_take.mp hp
  have hq' := List.prefix_iff_eq_take.mp hj
  rw [List.length_drop] at hp'
  calc (p.drop (j - i)).take q.length
      = ((xs.drop j).take (p.length - (j - i))).take q.length := by rw [← hp']
    _ = ((xs.drop j).take q.length).take (p.length - (j - i)) := by
      rw [List.take_take, List.take_take, min_comm]
    _ = q.take (p.length - (j - i)) := by rw [← hq']

section search

variable [DecidableEq α]

def find? (pat : List α) : List α → Option Nat
  | [] => if pat = [] then some 0 else none
  | x :: xs => if pat <+: x :: xs then some 0 else (find? pat xs).map (· + 1)

def rfind? (pat : List α) : List α → Option Nat
  | [] => if pat = [] then some 0 else none
  | x :: xs =>
    match rfind? pat xs with
    | some i => some (i + 1)
    | none => if pat <+: x :: xs then some 0 else none

def offsetOrNeg : Option Nat → Int
  | some i => i
  | none => -1

def find (pat xs : List α) : Int := offsetOrNeg (find? pat xs)

def rfind (pat xs : List α) : Int := offsetOrNeg (rfind? pat xs)

private theorem find?_spec (pat xs : List α) (hpat : pat ≠ []) :
    match find? pat xs with
    | some k => IsLeast (offsets pat xs) k
    | none => ∀ i, i ∉ offsets pat xs := by
  induction xs with
  | nil => simp [find?, hpat, offsets]
  | cons x xs ih =>
    rw [find?]
    by_cases h0 : pat <+: x :: xs
    · rw [if_pos h0]
      exact ⟨h0, fun _ _ => Nat.zero_le _⟩
    · rw [if_neg h0]
      cases hf : find? pat xs with
      | none =>
        rw [hf] at ih
        intro i hi
        cases i with
        | zero => exact h0 hi
        | succ i => exact ih i hi
      | some k =>
        rw [hf] at ih
        refine ⟨ih.1, fun i hi => ?_⟩
        cases i with
        | zero => exact absurd hi h0
        | succ i => exact Nat.succ_le_succ (ih.2 hi)

private theorem rfind?_spec (pat xs : List α) (hpat : pat ≠ []) :
    match rfind? pat xs with
    | some k => IsGreatest (offsets pat xs) k
    | none => ∀ i, i ∉ offsets pat xs := by
  induction xs with
  | nil => simp [rfind?, hpat, offsets]
  | cons x xs ih =>
    rw [rfind?]
    cases hf : rfind? pat xs with
    | some k =>
      rw [hf] at ih
      refine ⟨ih.1, fun i hi => ?_⟩
      cases i with
      | zero => exact Nat.zero_le _
      | succ i => exact Nat.succ_le_succ (ih.2 hi)
    | none =>
      rw [hf] at ih
      by_cases h0 : pat <+: x :: xs
      · simp only [if_pos h0]
        refine ⟨h0, fun i hi => ?_⟩
        cases i with
        | zero => exact Nat.zero_le _
        | succ i => exact absurd hi (ih i)
      · simp only [if_neg h0]
        intro i hi
        cases i with
        | zero => exact h0 hi
        | succ i => exact ih i hi

/-- What `find` returns, as bounds: nothing lies below a found offset. -/
theorem find_spec (pat xs : List α) (hpat : pat ≠ []) :
    (find pat xs = -1 ∧ ∀ i, i ∉ offsets pat xs) ∨
      ∃ k : Nat, find pat xs = k ∧ IsLeast (offsets pat xs) k := by
  have h := find?_spec pat xs hpat
  cases hf : find? pat xs with
  | none => exact .inl ⟨by rw [find, hf]; rfl, by rwa [hf] at h⟩
  | some k => exact .inr ⟨k, by rw [find, hf]; rfl, by rwa [hf] at h⟩

theorem rfind_spec (pat xs : List α) (hpat : pat ≠ []) :
    (rfind pat xs = -1 ∧ ∀ i, i ∉ offsets pat xs) ∨
      ∃ k : Nat, rfind pat xs = k ∧ IsGreatest (offsets pat xs) k := by
  have h := rfind?_spec pat xs hpat
  cases hf : rfind? pat xs with
  | none => exact .inl ⟨by rw [rfind, hf]; rfl, by rwa [hf] at h⟩
  | some k => exact .inr ⟨k, by rw [rfind, hf]; rfl, by rwa [hf] at h⟩

theorem find_of_least {pat xs : List α} (hpat : pat ≠ []) {k : Nat}
    (hk : IsLeast (offsets pat xs) k) : find pat xs = k := by
  rcases find_spec pat xs hpat with ⟨_, hnone⟩ | ⟨i, hi, hleast⟩
  · exact absurd hk.1 (hnone k)
  · rw [hi, hleast.unique hk]

/-- The least offset found for any of the patterns, `-1` if none of them occurs. -/
def findAny (pats : List (List α)) (xs : List α) : Int :=
  ((pats.map (find · xs)).filter (0 ≤ ·)).min?.getD (-1)

/-- The greatest offset found for any of the patterns, `-1` if none of them occurs. -/
def rfindAny (pats : List (List α)) (xs : List α) : Int :=
  (pats.map (rfind · xs)).foldl max (-1)

theorem findAny_spec (pats : List (List α)) (xs : List α) (hpats : ∀ p ∈ pats, p ≠ []) :
    (findAny pats xs = -1 ∧ ∀ i, i ∉ anyOffsets pats xs) ∨
      ∃ k : Nat, findAny pats xs = k ∧ IsLeast (anyOffsets pats xs) k := by
  have hfound (p : List α) (hp : p ∈ pats) (i : Nat) (hi : i ∈ offsets p xs) :
      ∃ k : Nat, (k : Int) ∈ (pats.map (find · xs)).filter (0 ≤ ·) ∧ k ≤ i := by
    rcases find_spec p xs (hpats p hp) with ⟨_, hnone⟩ | ⟨k, hk, hleast⟩
    · exact absurd hi (hnone i)
    · refine ⟨k, ?_, hleast.2 hi⟩
      simp only [List.mem_filter, List.mem_map, decide_eq_true_eq]
      exact ⟨⟨p, hp, hk⟩, by omega⟩
  cases hmin : ((pats.map (find · xs)).filter (0 ≤ ·)).min? with
  | none =>
    refine .inl ⟨by rw [findAny, hmin]; rfl, ?_⟩
    intro i hx
    obtain ⟨p, hp, hi⟩ := hx
    obtain ⟨k, hk, _⟩ := hfound p hp i hi
    rw [List.min?_eq_none_iff] at hmin
    rw [hmin] at hk
    exact List.not_mem_nil hk
  | some m =>
    obtain ⟨hmem, hle⟩ := List.min?_eq_some_iff.mp hmin
    simp only [List.mem_filter, List.mem_map, decide_eq_true_eq] at hmem
    obtain ⟨⟨p, hp, rfl⟩, hpos⟩ := hmem
    rcases find_spec p xs (hpats p hp) with ⟨hneg, _⟩ | ⟨k, hk, hleast⟩
    · omega
    · refine .inr ⟨k, by rw [findAny, hmin, ← hk]; rfl, ⟨p, hp, hleast.1⟩, ?_⟩
      intro i hx
      obtain ⟨q, hq, hi⟩ := hx
      obtain ⟨k', hk', hki⟩ := hfound q hq i hi
      have := hle _ hk'
      omega

theorem findAny_of_least {pats : List (List α)} {xs : List α} (hpats : ∀ p ∈ pats, p ≠ [])
    {k : Nat} (hk : IsLeast (anyOffsets pats xs) k) : findAny pats xs = k := by
  rcases findAny_spec pats xs hpats with ⟨_, hnone⟩ | ⟨i, hi, hleast⟩
  · exact absurd hk.1 (hnone k)
  · rw [hi, hleast.unique hk]

theorem nonneg_findAny_iff (pats : List (List α)) (xs : List α) (hpats : ∀ p ∈ pats, p ≠ []) :
    0 ≤ findAny pats xs ↔ (anyOffsets pats xs).Nonempty := by
  rcases findAny_spec pats xs hpats with ⟨hneg, hnone⟩ | ⟨k, hk, hleast⟩
  · rw [hneg]
    exact iff_of_false (by decide) fun ⟨i, hi⟩ => hnone i hi
  · rw [hk]
    exact iff_of_true (Int.natCast_nonneg k) ⟨k, hleast.1⟩

private theorem foldl_max_mem (l : List Int) (m : Int) :
    m ≤ l.foldl max m ∧ (∀ x ∈ l, x ≤ l.foldl max m) ∧
      (l.foldl max m = m ∨ l.foldl max m ∈ l) := by
  induction l generalizing m with
  | nil => simp
  | cons x l ih =>
    obtain ⟨hm, hl, hmem⟩ := ih (max m x)
    simp only [List.foldl_cons, List.mem_cons, forall_eq_or_imp]
    refine ⟨le_trans (le_max_left _ _) hm, ⟨le_trans (le_max_right _ _) hm, hl⟩, ?_⟩
    rcases hmem with h | h
    · rcases le_total m x with h' | h'
      · exact .inr (.inl (by rw [h, max_eq_right h']))
      · exact .inl (by rw [h, max_eq_left h'])
    · exact .inr (.inr h)

theorem rfindAny_spec (pats : List (List α)) (xs : List α) (hpats : ∀ p ∈ pats, p ≠ []) :
    (rfindAny pats xs = -1 ∧ ∀ i, i ∉ anyOffsets pats xs) ∨
      ∃ k : Nat, rfindAny pats xs = k ∧ IsGreatest (anyOffsets pats xs) k := by
  obtain ⟨_, hle, hmem⟩ := foldl_max_mem (pats.map (rfind · xs)) (-1)
  have hfound (p : List α) (hp : p ∈ pats) (i : Nat) (hi : i ∈ offsets p xs) :
      (i : Int) ≤ rfindAny pats xs := by
    rcases rfind_spec p xs (hpats p hp) with ⟨_, hnone⟩ | ⟨k, hk, hgreatest⟩
    · exact absurd hi (hnone i)
    · have := hle _ (List.mem_map_of_mem hp)
      have := hgreatest.2 hi
      rw [rfindAny]
      omega
  have hneg (h : rfindAny pats xs = -1) : ∀ i, i ∉ anyOffsets pats xs := by
    intro i hx
    obtain ⟨p, hp, hi⟩ := hx
    have := hfound p hp i hi
    omega
  rcases hmem with h | h
  · exact .inl ⟨h, hneg h⟩
  · obtain ⟨p, hp, he⟩ := List.mem_map.mp h
    rcases rfind_spec p xs (hpats p hp) with ⟨hm, _⟩ | ⟨k, hk, hgreatest⟩
    · exact .inl ⟨he.symm.trans hm, hneg (he.symm.trans hm)⟩
    · have hval : rfindAny pats xs = k := he.symm.trans hk
      refine .inr ⟨k, hval, ⟨p, hp, hgreatest.1⟩, ?_⟩
      intro i hx
      obtain ⟨q, hq, hi⟩ := hx
      have := hfound q hq i hi
      omega

theorem rfindAny_of_greatest {pats : List (List α)} {xs : List α} (hpats : ∀ p ∈ pats, p ≠ [])
    {k : Nat} (hk : IsGreatest (anyOffsets pats xs) k) : rfindAny pats xs = k := by
  rcases rfindAny_spec pats xs hpats with ⟨_, hnone⟩ | ⟨i, hi, hgreatest⟩
  · exact absurd hk.1 (hnone k)
  · rw [hi, hgreatest.unique hk]

theorem nonneg_rfindAny_iff (pats : List (List α)) (xs : List α) (hpats : ∀ p ∈ pats, p ≠ []) :
    0 ≤ rfindAny pats xs ↔ (anyOffsets pats xs).Nonempty := by
  rcases rfindAny_spec pats xs hpats with ⟨hneg, hnone⟩ | ⟨k, hk, hgreatest⟩
  · rw [hneg]
    exact iff_of_false (by decide) fun ⟨i, hi⟩ => hnone i hi
  · rw [hk]
    exact iff_of_true (Int.natCast_nonneg k) ⟨k, hgreatest.1⟩

end search

end Occurrence
