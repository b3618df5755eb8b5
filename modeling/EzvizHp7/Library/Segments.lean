import Mathlib.Data.List.Infix

/-!
# Reading from a stream that arrives in pieces

A stream is delivered in non-empty pieces; one read returns at most what is asked for and never
looks past a piece. A loop that reads until it has `n` elements gets the first `n` of the stream
whatever the pieces, and gets all of it when the stream ends before.
-/

namespace Segments

/-- What has not been read yet, in the pieces it arrives in, and the error the stream ends with,
if it does not end by being closed. -/
structure Delivery (ε α : Type*) where
  pieces : List (List α)
  ending : Option ε
  pieces_ne_nil : ∀ p ∈ pieces, p ≠ []

namespace Delivery

variable {ε α : Type*}

def unread (d : Delivery ε α) : List α := d.pieces.flatten

def recv [DecidableEq α] (n : Nat) (d : Delivery ε α) : Except ε (List α × Delivery ε α) :=
  match h : d.pieces with
  | [] =>
    match d.ending with
    | some e => .error e
    | none => .ok ([], d)
  | p :: ps =>
    have hps : ∀ q ∈ ps, q ≠ [] := fun q hq => d.pieces_ne_nil q (by simp [h, hq])
    if hrest : p.drop n = [] then .ok (p, ⟨ps, d.ending, hps⟩)
    else .ok (p.take n, ⟨p.drop n :: ps, d.ending, by
      intro q hq
      rcases List.mem_cons.mp hq with rfl | hq
      · exact hrest
      · exact hps q hq⟩)

theorem recv_spec [DecidableEq α] {n : Nat} (hn : 0 < n) {d : Delivery ε α}
    (hunread : d.unread ≠ []) :
    ∃ chunk d', d.recv n = .ok (chunk, d') ∧ chunk ≠ [] ∧ chunk.length ≤ n ∧
      d.unread = chunk ++ d'.unread ∧ d'.ending = d.ending := by
  obtain ⟨pieces, ending, hpieces⟩ := d
  cases pieces with
  | nil => exact absurd rfl hunread
  | cons p ps =>
    have hp : p ≠ [] := hpieces p List.mem_cons_self
    unfold recv
    dsimp only
    split
    · rename_i hrest
      exact ⟨p, _, rfl, hp, List.drop_eq_nil_iff.mp hrest, rfl, rfl⟩
    · refine ⟨p.take n, _, rfl, ?_, List.length_take_le n p, ?_, rfl⟩
      · intro htake
        rcases List.take_eq_nil_iff.mp htake with h0 | hnil
        · omega
        · exact hp hnil
      · change (p :: ps).flatten = p.take n ++ (p.drop n :: ps).flatten
        rw [List.flatten_cons, List.flatten_cons, ← List.append_assoc, List.take_append_drop]

theorem recv_eq_ok [DecidableEq α] {n : Nat} {d d' : Delivery ε α} {chunk : List α}
    (h : d.recv n = .ok (chunk, d')) : d.unread = chunk ++ d'.unread ∧ chunk.length ≤ n := by
  obtain ⟨pieces, ending, hpieces⟩ := d
  unfold recv at h
  split at h
  · rename_i hnil
    cases ending with
    | some e => cases h
    | none =>
      cases h
      exact ⟨rfl, Nat.zero_le n⟩
  · rename_i p ps hcons
    obtain rfl : pieces = p :: ps := hcons
    split at h
    · rename_i hrest
      cases h
      exact ⟨rfl, List.drop_eq_nil_iff.1 hrest⟩
    · cases h
      refine ⟨?_, List.length_take_le n p⟩
      change (p :: ps).flatten = p.take n ++ (p.drop n :: ps).flatten
      rw [List.flatten_cons, List.flatten_cons, ← List.append_assoc, List.take_append_drop]

theorem recv_end [DecidableEq α] (n : Nat) {d : Delivery ε α} (hunread : d.unread = [])
    (hclosed : d.ending = none) : d.recv n = .ok ([], d) := by
  obtain ⟨pieces, ending, hpieces⟩ := d
  obtain rfl : ending = none := hclosed
  cases pieces with
  | nil => rfl
  | cons p ps =>
    have hp : p ≠ [] := hpieces p List.mem_cons_self
    exact absurd (List.append_eq_nil_iff.mp hunread).1 hp

/-- Why a loop did not get what it asked for: the stream was closed after `got`, or broke. -/
inductive Short (ε α : Type*)
  | closed (got : List α)
  | broken (e : ε)
  deriving DecidableEq, Repr

def readLoop [DecidableEq α] (n : Nat) :
    Nat → List α → Delivery ε α → Except (Short ε α) (List α × Delivery ε α)
  | 0, out, d => .ok (out, d)
  | fuel + 1, out, d =>
    if n ≤ out.length then .ok (out, d)
    else
      match d.recv (n - out.length) with
      | .error e => .error (.broken e)
      | .ok (chunk, d') =>
        if chunk = [] then .error (.closed out) else readLoop n fuel (out ++ chunk) d'

/-- Every read returns at least one element, so `n` is fuel enough. -/
def readExact [DecidableEq α] (n : Nat) (d : Delivery ε α) :
    Except (Short ε α) (List α × Delivery ε α) :=
  readLoop n n [] d

private theorem readLoop_enough [DecidableEq α] {n fuel : Nat} {out : List α}
    {d : Delivery ε α} (hfuel : n ≤ out.length + fuel) (hout : out.length ≤ n)
    (hlen : n ≤ out.length + d.unread.length) :
    ∃ d', readLoop n fuel out d = .ok ((out ++ d.unread).take n, d') ∧
      d'.unread = (out ++ d.unread).drop n ∧ d'.ending = d.ending := by
  induction fuel generalizing out d with
  | zero =>
    have hn : out.length = n := by omega
    exact ⟨d, by rw [readLoop, List.take_left' hn], (List.drop_left' hn).symm, rfl⟩
  | succ fuel ih =>
    rw [readLoop]
    by_cases hn : n ≤ out.length
    · have hn' : out.length = n := by omega
      rw [if_pos hn]
      exact ⟨d, by rw [List.take_left' hn'], (List.drop_left' hn').symm, rfl⟩
    · have hunread : d.unread ≠ [] := by
        intro hnil
        rw [hnil, List.length_nil] at hlen
        omega
      obtain ⟨chunk, d', hrecv, hchunk, hle, hsplit, hending⟩ :=
        recv_spec (n := n - out.length) (by omega) hunread
      have hpos : 0 < chunk.length := List.length_pos_iff.mpr hchunk
      rw [if_neg hn, hrecv]
      dsimp only
      rw [if_neg hchunk]
      have hlen' : n ≤ (out ++ chunk).length + d'.unread.length := by
        rw [hsplit, List.length_append] at hlen
        rw [List.length_append]
        omega
      obtain ⟨d'', hread, hrest, hending'⟩ :=
        ih (show n ≤ (out ++ chunk).length + fuel by rw [List.length_append]; omega)
          (by rw [List.length_append]; omega) hlen'
      rw [List.append_assoc, ← hsplit] at hread hrest
      exact ⟨d'', hread, hrest, hending'.trans hending⟩

/-- The loop gets the first `n` elements and leaves the others, whatever the pieces. -/
theorem readExact_append [DecidableEq α] {data rest : List α} {d : Delivery ε α}
    (h : d.unread = data ++ rest) {n : Nat} (hn : data.length = n) :
    ∃ d', d.readExact n = .ok (data, d') ∧ d'.unread = rest ∧ d'.ending = d.ending := by
  obtain ⟨d', hread, hrest, hending⟩ :=
    readLoop_enough (show n ≤ ([] : List α).length + n by simp) (Nat.zero_le n)
      (by rw [h, List.length_append, List.length_nil]; omega)
  rw [List.nil_append, h, List.take_left' hn] at hread
  rw [List.nil_append, h, List.drop_left' hn] at hrest
  exact ⟨d', hread, hrest, hending⟩

private theorem readLoop_eq_ok [DecidableEq α] {n fuel : Nat} {out data : List α}
    {d d' : Delivery ε α} (hfuel : n ≤ out.length + fuel) (hout : out.length ≤ n)
    (h : readLoop n fuel out d = .ok (data, d')) :
    out ++ d.unread = data ++ d'.unread ∧ data.length = n := by
  induction fuel generalizing out d with
  | zero =>
    cases h
    exact ⟨rfl, Nat.le_antisymm hout hfuel⟩
  | succ fuel ih =>
    rw [readLoop] at h
    by_cases hn : n ≤ out.length
    · rw [if_pos hn] at h
      cases h
      exact ⟨rfl, Nat.le_antisymm hout hn⟩
    · rw [if_neg hn] at h
      cases hrecv : d.recv (n - out.length) with
      | error e => simp [hrecv] at h
      | ok received =>
        obtain ⟨chunk, d₁⟩ := received
        obtain ⟨hsplit, hle⟩ := recv_eq_ok hrecv
        by_cases hchunk : chunk = []
        · simp [hrecv, hchunk] at h
        · have hpos : 0 < chunk.length := List.length_pos_iff.2 hchunk
          simp only [hrecv, hchunk, if_false] at h
          rw [hsplit, ← List.append_assoc]
          apply ih _ _ h
          · rw [List.length_append]
            omega
          · rw [List.length_append]
            omega

theorem readExact_eq_ok [DecidableEq α] {n : Nat} {d d' : Delivery ε α} {data : List α}
    (h : d.readExact n = .ok (data, d')) : d.unread = data ++ d'.unread ∧ data.length = n :=
  readLoop_eq_ok (Nat.le_add_left n 0) (Nat.zero_le n) h

private theorem readLoop_short [DecidableEq α] {n fuel : Nat} {out : List α}
    {d : Delivery ε α} (hfuel : n ≤ out.length + fuel) (hclosed : d.ending = none)
    (hlen : out.length + d.unread.length < n) :
    readLoop n fuel out d = .error (.closed (out ++ d.unread)) := by
  induction fuel generalizing out d with
  | zero => omega
  | succ fuel ih =>
    rw [readLoop, if_neg (by omega)]
    by_cases hunread : d.unread = []
    · rw [recv_end _ hunread hclosed, hunread, List.append_nil]
      rfl
    · obtain ⟨chunk, d', hrecv, hchunk, _, hsplit, hending⟩ :=
        recv_spec (n := n - out.length) (by omega) hunread
      have hpos : 0 < chunk.length := List.length_pos_iff.mpr hchunk
      rw [hrecv]
      dsimp only
      rw [if_neg hchunk, hsplit, ← List.append_assoc]
      rw [hsplit, List.length_append] at hlen
      exact ih (by rw [List.length_append]; omega) (hending.trans hclosed)
        (by rw [List.length_append]; omega)

/-- On a stream that is closed too early the loop has read all of it. -/
theorem readExact_closed [DecidableEq α] {n : Nat} {d : Delivery ε α}
    (hclosed : d.ending = none) (hlen : d.unread.length < n) :
    d.readExact n = .error (.closed d.unread) := by
  have h := readLoop_short (show n ≤ ([] : List α).length + n by simp) hclosed
    (by simpa using hlen)
  rwa [List.nil_append] at h

end Delivery

end Segments
