import Mathlib.Data.List.Basic

/-!
# Journals of numbered sources

Several sources append pieces of text to one journal, each at its own running offset, and no
source writes again once a later one has written. The pieces are then in strictly increasing
order of source and offset, and a tail of a source's text taken at some point precedes whatever
is appended after it.
-/

namespace Journal

structure Piece (α : Type*) where
  source : Nat
  offset : Nat
  data : List α
  deriving DecidableEq, Repr

structure Entry (α β : Type*) where
  piece : Piece α
  note : β
  deriving DecidableEq, Repr

variable {α β : Type*}

/-- One stretch ends where or before the other starts. -/
def Piece.Before (p q : Piece α) : Prop :=
  p.source < q.source ∨ p.source = q.source ∧ p.offset + p.data.length ≤ q.offset

/-- The stretch is where it says it is in the source's text. -/
def Piece.In (p : Piece α) (text : List α) : Prop :=
  (text.drop p.offset).take p.data.length = p.data

def text (n : Nat) (j : List (Entry α β)) : List α :=
  (j.filter fun e => e.piece.source = n).flatMap fun e => e.piece.data

def next (n : Nat) (j : List (Entry α β)) (data : List α) (note : β) : Entry α β :=
  ⟨⟨n, (text n j).length, data⟩, note⟩

/-- Built by appending, with sources in non-decreasing order. -/
inductive WellFormed : List (Entry α β) → Prop
  | nil : WellFormed []
  | append {j : List (Entry α β)} (n : Nat) (data : List α) (note : β) (hj : WellFormed j)
      (hlast : ∀ e ∈ j, e.piece.source ≤ n) : WellFormed (j ++ [next n j data note])

theorem text_append (n : Nat) (j j' : List (Entry α β)) :
    text n (j ++ j') = text n j ++ text n j' := by
  simp [text]

theorem text_next (m n : Nat) (j : List (Entry α β)) (data : List α) (note : β) :
    text m (j ++ [next n j data note]) = text m j ++ if n = m then data else [] := by
  rw [text_append]
  by_cases h : n = m <;> simp [text, next, h]

theorem text_take (n k : Nat) (j : List (Entry α β)) :
    text n (j.take k) <+: text n j := by
  conv_rhs => rw [← List.take_append_drop k j, text_append]
  exact List.prefix_append _ _

private theorem in_append {p : Piece α} {text : List α} (more : List α)
    (hb : p.offset + p.data.length ≤ text.length) (h : p.In text) : p.In (text ++ more) := by
  rw [Piece.In, List.drop_append_of_le_length (by omega),
    List.take_append_of_le_length (by rw [List.length_drop]; omega)]
  exact h

theorem Piece.In.widen {p : Piece α} {text whole : List α} (h : p.In text)
    (hwhole : text <+: whole) : p.In whole := by
  obtain ⟨more, rfl⟩ := hwhole
  by_cases hempty : p.data = []
  · simp [Piece.In, hempty]
  · apply in_append more _ h
    have hlen := congrArg List.length h
    rw [List.length_take, List.length_drop] at hlen
    have := List.length_pos_iff.2 hempty
    omega

theorem WellFormed.piece_in {j : List (Entry α β)} (h : WellFormed j) :
    ∀ e ∈ j, e.piece.offset + e.piece.data.length ≤ (text e.piece.source j).length ∧
      e.piece.In (text e.piece.source j) := by
  induction h with
  | nil => simp
  | @append j n data note hj hlast ih =>
    intro e he
    rw [List.mem_append, List.mem_singleton] at he
    rcases he with he | rfl
    · obtain ⟨hb, hin⟩ := ih e he
      rw [text_append]
      exact ⟨by rw [List.length_append]; omega, in_append _ hb hin⟩
    · change (text n j).length + data.length ≤ (text n (j ++ [next n j data note])).length ∧
        ((text n (j ++ [next n j data note])).drop (text n j).length).take data.length = data
      rw [text_next, if_pos rfl]
      exact ⟨Nat.le_of_eq List.length_append.symm, by rw [List.drop_left, List.take_length]⟩

theorem WellFormed.behind {j : List (Entry α β)} (h : WellFormed j) (k : Nat) :
    ∀ e ∈ j.drop k, (text e.piece.source (j.take k)).length ≤ e.piece.offset ∧
      ∀ f ∈ j.take k, f.piece.source ≤ e.piece.source := by
  induction h with
  | nil => simp
  | @append j n data note hj hlast ih =>
    by_cases hk : k ≤ j.length
    · rw [List.drop_append_of_le_length hk, List.take_append_of_le_length hk]
      intro e he
      rw [List.mem_append, List.mem_singleton] at he
      rcases he with he | rfl
      · exact ih e he
      · exact ⟨(text_take n k j).length_le, fun f hf => hlast f (List.mem_of_mem_take hf)⟩
    · rw [List.drop_eq_nil_of_le (by simp; omega)]
      simp

theorem WellFormed.pairwise {j : List (Entry α β)} (h : WellFormed j) :
    j.Pairwise fun e f => e.piece.Before f.piece := by
  induction h with
  | nil => exact .nil
  | @append j n data note hj hlast ih =>
    rw [List.pairwise_append]
    refine ⟨ih, List.pairwise_singleton _ _, fun e he f hf => ?_⟩
    rw [List.mem_singleton] at hf
    subst hf
    rcases Nat.lt_or_eq_of_le (hlast e he) with hlt | heq
    · exact .inl hlt
    · obtain ⟨hb, _⟩ := hj.piece_in e he
      exact .inr ⟨heq, by rwa [heq] at hb⟩

/-- The last `data.length` elements of a source's text as a piece. -/
def tail (n : Nat) (j : List (Entry α β)) (data : List α) : Piece α :=
  ⟨n, (text n j).length - data.length, data⟩

theorem tail_in {n k : Nat} {j : List (Entry α β)} {data : List α}
    (h : data <:+ text n (j.take k)) : (tail n (j.take k) data).In (text n j) := by
  obtain ⟨front, hfront⟩ := h
  obtain ⟨more, hmore⟩ := text_take n k j
  rw [← hmore]
  refine in_append more ?_ ?_
  · rw [tail, ← hfront]
    simp
  · rw [Piece.In, tail, ← hfront]
    simp

/-- A non-empty tail taken after `k` entries precedes everything appended since. -/
theorem WellFormed.tail_before {j : List (Entry α β)} (h : WellFormed j) (k : Nat) {n : Nat}
    {data : List α} (hne : data ≠ []) (hsuffix : data <:+ text n (j.take k)) :
    ∀ e ∈ j.drop k, (tail n (j.take k) data).Before e.piece := by
  intro e he
  obtain ⟨hlen, hsource⟩ := h.behind k e he
  have htext : text n (j.take k) ≠ [] := by
    intro hnil
    rw [hnil] at hsuffix
    exact hne (List.suffix_nil.mp hsuffix)
  obtain ⟨f, hf, hfn⟩ : ∃ f ∈ j.take k, f.piece.source = n := by
    by_contra hno
    apply htext
    rw [text, List.filter_eq_nil_iff.mpr fun f hf hfn => hno ⟨f, hf, by simpa using hfn⟩]
    rfl
  rcases Nat.lt_or_eq_of_le (hfn ▸ hsource f hf) with hlt | heq
  · exact .inl hlt
  · refine .inr ⟨heq, ?_⟩
    have := hsuffix.length_le
    rw [← heq] at hlen
    simp only [tail]
    omega

/-- A tail followed by some of the pieces recorded after it is strictly increasing. -/
theorem WellFormed.pairwise_tail {j : List (Entry α β)} (h : WellFormed j) (k : Nat) {n : Nat}
    {data : List α} (hne : data ≠ []) (hsuffix : data <:+ text n (j.take k))
    {selected : List (Entry α β)} (hselected : selected.Sublist (j.drop k)) :
    (tail n (j.take k) data :: selected.map Entry.piece).Pairwise Piece.Before := by
  rw [List.pairwise_cons]
  constructor
  · intro p hp
    obtain ⟨e, he, rfl⟩ := List.mem_map.mp hp
    exact h.tail_before k hne hsuffix e (hselected.subset he)
  · rw [List.pairwise_map]
    exact (h.pairwise.sublist (List.drop_sublist k j)).sublist hselected

end Journal
