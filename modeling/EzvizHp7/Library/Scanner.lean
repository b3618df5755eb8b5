import EzvizHp7.Library.Raising

/-!
# Scanners

A scanner takes what it returns off the front of its input, or raises. Items that each take
something are read until one of them says that it was the last, and the input is long enough for
that.
-/

/-- A scanner of a list of `α`. -/
abbrev Scanner (ε α β : Type) := EStateM ε (List α) β

namespace Scanner

variable {ε α β γ : Type}

def next (ended : ε) : Scanner ε α α := fun
  | [] => .error ended []
  | a :: rest => .ok a rest

def skipWhile (p : α → Bool) : Scanner ε α Unit := modify (·.dropWhile p)

def upTo (exhausted : ε) (item : Scanner ε α (Option β)) : Nat → Scanner ε α (List β)
  | 0 => throw exhausted
  | n + 1 => do
    match ← item with
    | none => return []
    | some b => return b :: (← upTo exhausted item n)

def many (exhausted : ε) (item : Scanner ε α (Option β)) : Scanner ε α (List β) := do
  upTo exhausted item ((← get).length + 1)

/-- What is returned was taken off the input. -/
def Consumes (m : Scanner ε α β) : Prop :=
  ∀ s b s', m.run s = .ok b s' → s'.length < s.length

/-- What is returned leaves no more than there was, and this exception is not raised. -/
structure Tame (e : ε) (m : Scanner ε α β) : Prop where
  shrinks : ∀ s b s', m.run s = .ok b s' → s'.length ≤ s.length
  avoids : ∀ s s', m.run s ≠ .error e s'

variable {m : Scanner ε α β} {f : β → Scanner ε α γ} {e : ε}

theorem Tame.pure (b : β) : Tame e (pure b : Scanner ε α β) where
  shrinks s b' s' h := by
    cases h
    exact Nat.le_refl _
  avoids s s' h := by cases h

theorem Tame.raise {e' : ε} (h : e' ≠ e) : Tame e (throw e' : Scanner ε α β) where
  shrinks s b s' hrun := by cases hrun
  avoids s s' hrun := by
    cases hrun
    exact h rfl

theorem Tame.get : Tame e (get : Scanner ε α (List α)) where
  shrinks s b s' h := by
    cases h
    exact Nat.le_refl _
  avoids s s' h := by cases h

theorem Tame.modify {g : List α → List α} (hg : ∀ s, (g s).length ≤ s.length) :
    Tame e (modify g : Scanner ε α PUnit) where
  shrinks s b s' h := by
    cases h
    exact hg s
  avoids s s' h := by cases h

theorem tame_drop (n : Nat) : Tame e (modify (·.drop n) : Scanner ε α PUnit) :=
  .modify fun s => by simp

theorem Tame.skipWhile (p : α → Bool) : Tame e (skipWhile p : Scanner ε α Unit) :=
  .modify fun _ => (List.dropWhile_sublist p).length_le

theorem Tame.next {ended : ε} (h : ended ≠ e) : Tame e (next ended : Scanner ε α α) where
  shrinks s a s' hrun := by
    cases s with
    | nil => cases hrun
    | cons a' rest =>
      cases hrun
      exact Nat.le_succ _
  avoids s s' hrun := by
    cases s with
    | nil =>
      cases hrun
      exact h rfl
    | cons a rest => cases hrun

theorem Tame.bind (hm : Tame e m) (hf : ∀ b, Tame e (f b)) : Tame e (m >>= f) where
  shrinks s c s' h := by
    obtain ⟨b, t, hrun, hrest⟩ := EStateM.run_bind_eq_ok.1 h
    exact ((hf b).shrinks t c s' hrest).trans (hm.shrinks s b t hrun)
  avoids s s' h := by
    rw [EStateM.run_bind] at h
    cases hrun : m.run s with
    | ok b t =>
      rw [hrun] at h
      exact (hf b).avoids t s' h
    | error e' t =>
      rw [hrun] at h
      cases h
      exact hm.avoids s s' hrun

theorem Tame.ite {c : Prop} [Decidable c] {m' : Scanner ε α β} (hm : Tame e m)
    (hm' : Tame e m') : Tame e (if c then m else m') := by
  split
  · exact hm
  · exact hm'

theorem Consumes.next (ended : ε) : Consumes (next ended : Scanner ε α α) := by
  intro s a s' h
  cases s with
  | nil => cases h
  | cons a' rest =>
    cases h
    exact Nat.lt_succ_self _

theorem Consumes.bind (hm : Consumes m) (hf : ∀ b, Tame e (f b)) : Consumes (m >>= f) := by
  intro s c s' h
  obtain ⟨b, t, hrun, hrest⟩ := EStateM.run_bind_eq_ok.1 h
  exact Nat.lt_of_le_of_lt ((hf b).shrinks t c s' hrest) (hm s b t hrun)

theorem Consumes.after (hm : Tame e m) (hf : ∀ b, Consumes (f b)) : Consumes (m >>= f) := by
  intro s c s' h
  obtain ⟨b, t, hrun, hrest⟩ := EStateM.run_bind_eq_ok.1 h
  exact Nat.lt_of_lt_of_le (hf b t c s' hrest) (hm.shrinks s b t hrun)

variable {exhausted : ε} {item : Scanner ε α (Option β)}

theorem upTo_shrinks (hitem : Consumes item) (n : Nat) :
    ∀ s bs s', (upTo exhausted item n).run s = .ok bs s' → s'.length ≤ s.length := by
  induction n with
  | zero =>
    intro s bs s' h
    cases h
  | succ n ih =>
    intro s bs s' h
    obtain ⟨b, t, hrun, hrest⟩ := EStateM.run_bind_eq_ok.1 h
    have htook := hitem s b t hrun
    cases b with
    | none =>
      cases hrest
      exact Nat.le_of_lt htook
    | some b =>
      obtain ⟨bs, t', hmore, hreturn⟩ := EStateM.run_bind_eq_ok.1 hrest
      cases hreturn
      exact (ih t bs s' hmore).trans (Nat.le_of_lt htook)

/-- Items that each take something end before the input does. -/
theorem upTo_avoids (hitem : Consumes item) (htame : Tame exhausted item) (n : Nat) :
    ∀ s s', s.length < n → (upTo exhausted item n).run s ≠ .error exhausted s' := by
  induction n with
  | zero =>
    intro s s' hlen
    exact absurd hlen (Nat.not_lt_zero _)
  | succ n ih =>
    intro s s' hlen h
    rw [upTo, EStateM.run_bind] at h
    cases hrun : item.run s with
    | error e t =>
      rw [hrun] at h
      cases h
      exact htame.avoids s s' hrun
    | ok b t =>
      rw [hrun] at h
      have htook := hitem s b t hrun
      cases b with
      | none => cases h
      | some b =>
        simp only [EStateM.run_bind] at h
        cases hrest : (upTo exhausted item n).run t with
        | ok bs t' =>
          rw [hrest] at h
          cases h
        | error e t' =>
          rw [hrest] at h
          cases h
          exact ih t s' (by omega) hrest

theorem Tame.many (hitem : Consumes item) (htame : Tame exhausted item) :
    Tame exhausted (many exhausted item) where
  shrinks s bs s' h := upTo_shrinks hitem (s.length + 1) s bs s' h
  avoids s s' h := upTo_avoids hitem htame (s.length + 1) s s' (Nat.lt_succ_self _) h

end Scanner
