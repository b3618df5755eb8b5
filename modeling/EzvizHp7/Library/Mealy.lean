import Mathlib.Data.List.Induction

/-!
# Machines with output

A deterministic machine takes its inputs one by one and answers each. Its log pairs the inputs
with the answers, so that a law may relate the state, or the next answer, to the whole past.
-/

namespace Mealy

variable {σ ι ο : Type*} (step : ι → σ → ο × σ)

def after (s : σ) : List ι → σ
  | [] => s
  | i :: is => after (step i s).2 is

def log (s : σ) : List ι → List (ι × ο)
  | [] => []
  | i :: is => (i, (step i s).1) :: log (step i s).2 is

theorem after_append (s : σ) (is js : List ι) :
    after step s (is ++ js) = after step (after step s is) js := by
  induction is generalizing s with
  | nil => rfl
  | cons i is ih => exact ih _

theorem log_append (s : σ) (is js : List ι) :
    log step s (is ++ js) = log step s is ++ log step (after step s is) js := by
  induction is generalizing s with
  | nil => rfl
  | cons i is ih => exact congrArg (_ :: ·) (ih _)

theorem log_inputs (s : σ) (is : List ι) : (log step s is).map Prod.fst = is := by
  induction is generalizing s with
  | nil => rfl
  | cons i is ih => exact congrArg (i :: ·) (ih _)

theorem after_map {κ : Type*} (f : κ → ι) (s : σ) (ks : List κ) :
    after (fun k => step (f k)) s ks = after step s (ks.map f) := by
  induction ks generalizing s with
  | nil => rfl
  | cons k ks ih => exact ih _

theorem log_map {κ : Type*} (f : κ → ι) (s : σ) (ks : List κ) :
    (log (fun k => step (f k)) s ks).map (fun e => (f e.1, e.2)) = log step s (ks.map f) := by
  induction ks generalizing s with
  | nil => rfl
  | cons k ks ih => exact congrArg (_ :: ·) (ih _)

variable {step}

theorem log_split {s : σ} {is : List ι} {past rest : List (ι × ο)} {e : ι × ο}
    (h : log step s is = past ++ e :: rest) :
    ∃ before i later, is = before ++ i :: later ∧ past = log step s before ∧
      e = (i, (step i (after step s before)).1) := by
  induction past generalizing s is with
  | nil =>
    cases is with
    | nil => simp [log] at h
    | cons i is =>
      simp only [log, List.nil_append, List.cons.injEq] at h
      exact ⟨[], i, is, rfl, rfl, h.1.symm⟩
  | cons d past ih =>
    cases is with
    | nil => simp [log] at h
    | cons i is =>
      simp only [log, List.cons_append, List.cons.injEq] at h
      obtain ⟨before, j, later, rfl, rfl, he⟩ := ih h.2
      exact ⟨i :: before, j, later, rfl, by simp [log, h.1], he⟩

/-- What holds of the empty past and is kept by every admitted input holds of every past. -/
theorem invariant {P : List (ι × ο) → σ → Prop} {ok : ι → Prop} {s : σ} (hinit : P [] s)
    (hstep : ∀ past s i, ok i → P past s → P (past ++ [(i, (step i s).1)]) (step i s).2)
    {is : List ι} (his : ∀ i ∈ is, ok i) : P (log step s is) (after step s is) := by
  induction is using List.reverseRecOn with
  | nil => exact hinit
  | append_singleton is i ih =>
    rw [log_append, after_append]
    apply hstep
    · exact his i (by simp)
    · exact ih fun j hj => his j (by simp [hj])

/-- To relate all pairs of a list, relate each entry to the past it has. -/
theorem pairwise_of_past {α : Type*} {R : α → α → Prop} {l : List α}
    (h : ∀ past e rest, l = past ++ e :: rest → ∀ d ∈ past, R d e) : l.Pairwise R := by
  induction l using List.reverseRecOn with
  | nil => exact List.Pairwise.nil
  | append_singleton l e ih =>
    rw [List.pairwise_append]
    refine ⟨ih fun past d rest hl => h past d (rest ++ [e]) (by simp [hl]),
      List.pairwise_singleton R e, fun d hd e' he' => ?_⟩
    rw [List.mem_singleton.1 he']
    exact h l e [] rfl d hd

end Mealy
