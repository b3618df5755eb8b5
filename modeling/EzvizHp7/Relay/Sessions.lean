import EzvizHp7.Relay.Coherence

/-!
# Open LAN clients

Which LAN clients are open at any point of a run. A spin-up that finds the session of a pump
that ended by itself still attached leaves that session's client open for good; in runs without
one, at most one client is open, and none after `async_stop` as long as nobody opens another.
-/

namespace EzvizHp7.Relay

open Cpd7 (Bytes Crypto basePointCrypto)
open Transition System World

variable {Priv Pub : Type} {crypto : Crypto Priv Pub}

/-- Every open client is the attached one, or in the hands of the lock's holder. -/
structure LanAccounted (w : World Priv) : Prop where
  isOpen : ∀ n, w.lanOpen n = true → w.lan = some n ∨
    (∃ o, w.lock = some (.started o n)) ∨ ∃ k, w.lock = some (.closingLan k n)
  started : ∀ o n, w.lock = some (.started o n) → w.lan = none

/-- No LAN start succeeds while a finished pump's session is still attached. -/
def StartsDetached (w : World Priv) : Action Priv → Prop
  | .lanStart _ _ (.ok _) => w.pumpTask = none
  | _ => True

instance (w : World Priv) (a : Action Priv) : Decidable (StartsDetached w a) := by
  induction a using Action.casesOn with
  | lanStart o n priv =>
    induction priv using Except.casesOn <;> unfold StartsDetached <;> infer_instance
  | _ => unfold StartsDetached; infer_instance

namespace LanAccounted

theorem frame {w w' : World Priv} (h : LanAccounted w) (hlock : w'.lock = w.lock)
    (hlan : w'.lan = w.lan) (hopen : w'.lanOpen = w.lanOpen) : LanAccounted w' := by
  constructor
  · rw [hlock, hlan, hopen]
    exact h.isOpen
  · rw [hlock, hlan]
    exact h.started

/-- With a holder that is neither starting nor closing a client, the open ones are attached. -/
theorem own {w : World Priv} (h : LanAccounted w)
    (hstarted : ∀ o n, w.lock ≠ some (.started o n))
    (hclosing : ∀ k n, w.lock ≠ some (.closingLan k n)) (n : SessionId)
    (hn : w.lanOpen n = true) : w.lan = some n := by
  rcases h.isOpen n hn with hlan | ⟨o, hlock⟩ | ⟨k, hlock⟩
  · exact hlan
  · exact absurd hlock (hstarted o n)
  · exact absurd hlock (hclosing k n)

theorem teardown {k : Closer} {w : World Priv}
    (hown : ∀ n, w.lanOpen n = true → w.lan = some n) : LanAccounted (teardownUpstream k w) := by
  have h := teardownUpstream_begins k w
  generalize teardownUpstream k w = w' at h
  cases h with
  | awaits n => exact ⟨fun m hm => .inl (hown m hm), by simp⟩
  | closes n hlan =>
    refine ⟨fun m hm => ?_, fun _ _ _ => rfl⟩
    obtain rfl : n = m := Option.some.inj (hlan.symm.trans (hown m hm))
    exact .inr (.inr ⟨k, rfl⟩)
  | returns hlan =>
    rw [teardownReturn_eq]
    refine ⟨fun m hm => ?_, fun _ _ _ => rfl⟩
    have hm' := hown m hm
    rw [hlan] at hm'
    cases hm'

theorem spinUp {o : Opener} {host related : String} {w : World Priv}
    (hown : ∀ n, w.lanOpen n = true → w.lan = some n) :
    LanAccounted (spinUpUpstream o host related w) := by
  unfold spinUpUpstream spinUpFailed
  split
  · exact teardown hown
  · exact ⟨fun m hm => .inl (hown m hm), by simp⟩

/-- When a spin-up is about to attach its client, that one alone is open. -/
theorem attached {w : World Priv} (h : LanAccounted w) {o : Opener} {n : SessionId}
    (hlock : w.lock = some (.started o n)) (m : SessionId) (hm : w.lanOpen m = true) :
    some n = some m := by
  rcases h.isOpen m hm with hlan | ⟨o', hlock'⟩ | ⟨k, hlock'⟩
  · rw [h.started o n hlock] at hlan
    cases hlan
  · rw [hlock] at hlock'
    cases hlock'
    rfl
  · rw [hlock] at hlock'
    cases hlock'

end LanAccounted

private theorem accounted_next {w : World Priv} (hcoherent : Coherent w.lock w.toCore)
    (h : LanAccounted w) {a : Action Priv} (hallowed : StartsDetached w a) (ha : a.Enabled w) :
    LanAccounted (a.next crypto w) := by
  have hfree (hlock : w.lock = none) : ∀ n, w.lanOpen n = true → w.lan = some n :=
    h.own (by simp [hlock]) (by simp [hlock])
  have houtcome : Outcome crypto w a (a.next crypto w) := next_outcome ha
  generalize a.next crypto w = w' at houtcome ⊢
  cases houtcome with
  | outside ho =>
    exact h.frame ho.lock (congrArg Core.lan ho.toCore) (congrArg Core.lanOpen ho.toCore)
  | asyncPrewarm | prewarmRenews | connect | handlerMoves | clientRegister | clientDetaches
  | timerFires | closeSpares => exact h.frame rfl rfl rfl
  | stopEnter hlock => exact .teardown (hfree hlock)
  | closeTearsDown hlock => exact .teardown (hfree hlock)
  | prewarmSpinsUp p host related hlock => exact .spinUp (hfree hlock)
  | clientSpinsUp c host related hlock => exact .spinUp (hfree hlock)
  | openingFails o e hlock =>
    refine .teardown (h.own ?_ ?_) <;> rcases hlock with ⟨_, _, hlock⟩ | ⟨_, hlock⟩ <;>
      simp [hlock]
  | keyFetched o host related key hlock =>
    have hown := h.own (by simp [hlock]) (by simp [hlock])
    exact ⟨fun m hm => .inl (hown m hm), by simp⟩
  | lanStarts o n priv hlock =>
    have hown := h.own (by simp [hlock]) (by simp [hlock])
    have htask : w.pumpTask = w.lan := hcoherent.pumpTask_eq (by simp [hlock, AwaitingPump])
    have hlan : w.lan = none := htask.symm.trans hallowed
    refine ⟨fun m hm => ?_, fun _ _ _ => hlan⟩
    by_cases hmn : m = n
    · exact .inr (.inl ⟨o, by rw [hmn]⟩)
    · have hm' : Function.update w.lanOpen n true m = true := hm
      rw [Function.update_of_ne hmn] at hm'
      exact .inl (hown m hm')
  | prewarmAttaches p n hlock =>
    exact ⟨fun m hm => .inl (h.attached hlock m hm), by simp⟩
  | clientAttaches c n hlock =>
    exact ⟨fun m hm => .inl (h.attached hlock m hm), by simp⟩
  | pumpJoined k n hlock =>
    have hlan := (hcoherent.awaiting k n hlock).2.1
    have hown := h.own (by simp [hlock]) (by simp [hlock])
    rw [teardownDetach, hlan]
    refine ⟨fun m hm => ?_, fun _ _ _ => rfl⟩
    obtain rfl : n = m := Option.some.inj (hlan.symm.trans (hown m hm))
    exact .inr (.inr ⟨k, rfl⟩)
  | lanClose k n hlock =>
    have hlan : w.lan = none := hcoherent.detached (by rw [hlock]; trivial)
    refine ⟨fun m hm => ?_, by simp⟩
    exfalso
    have hm' : Function.update w.lanOpen n false m = true := hm
    by_cases hmn : m = n
    · rw [hmn, Function.update_self] at hm'
      cases hm'
    · rw [Function.update_of_ne hmn] at hm'
      rcases h.isOpen m hm' with hlan' | ⟨o, hlock'⟩ | ⟨k', hlock'⟩
      · rw [hlan] at hlan'
        cases hlan'
      · rw [hlock] at hlock'
        cases hlock'
      · rw [hlock] at hlock'
        cases hlock'
        exact hmn rfl
  | lanClosed k n hlock =>
    have hlan : w.lan = none := hcoherent.detached (by rw [hlock]; trivial)
    have hown := h.own (by simp [hlock]) (by simp [hlock])
    rw [teardownReturn_eq]
    exact ⟨fun m hm => .inl (hown m hm), fun _ _ _ => hlan⟩
  | clientBursts c =>
    obtain ⟨_, _, _, hw⟩ := writeBurst_eq c .awaitingKeyframe _
    rw [hw]
    exact h.frame rfl rfl rfl
  | clientRejected c hlock =>
    have hown := h.own (by simp [hlock]) (by simp [hlock])
    exact ⟨fun m hm => .inl (hown m hm), by simp⟩
  | clientSnapshot c =>
    obtain ⟨_, _, _, hw⟩ := writeBurst_eq c .awaitingRegister w
    rw [hw]
    exact h.frame rfl rfl rfl
  | pump n hsteps =>
    have hframe := hsteps.frame
    exact h.frame hframe.lock hframe.lan hframe.lanOpen

private theorem accounted_of_reachable {allowed : World Priv → Action Priv → Prop}
    (himp : ∀ w a, allowed w a → StartsDetached w a) {w : World Priv}
    (h : (relay crypto).ReachableUnder allowed w) : LanAccounted w :=
  relay_invariant (fun _ _ _ => ⟨by rintro _ ⟨⟩, by rintro _ _ ⟨⟩⟩)
    (fun w a hw hP hallowed ha =>
      accounted_next (coherent_of_reachable hw) hP (himp w a hallowed) ha) h

private theorem LanAccounted.sole {w : World Priv} (hcoherent : Coherent w.lock w.toCore)
    (h : LanAccounted w) {m n : SessionId} (hm : w.lanOpen m = true) (hn : w.lanOpen n = true) :
    m = n := by
  have hclosing {k : Closer} {n : SessionId} (hlock : w.lock = some (.closingLan k n)) :
      w.lan = none := hcoherent.detached (by rw [hlock]; trivial)
  rcases h.isOpen m hm with hm | ⟨o, hm⟩ | ⟨k, hm⟩ <;>
    rcases h.isOpen n hn with hn | ⟨o', hn⟩ | ⟨k', hn⟩
  · exact Option.some.inj (hm.symm.trans hn)
  · rw [h.started _ _ hn] at hm
    cases hm
  · rw [hclosing hn] at hm
    cases hm
  · rw [h.started _ _ hm] at hn
    cases hn
  · rw [hm] at hn
    cases hn
    rfl
  · rw [hm] at hn
    cases hn
  · rw [hclosing hm] at hn
    cases hn
  · rw [hm] at hn
    cases hn
  · rw [hm] at hn
    cases hn
    rfl

/-- At most one client is open, and a spin-up starts one with none open exactly when no pump
task is left to tear down. -/
theorem sole_open_lan {w : World Priv} (h : (relay crypto).ReachableUnder StartsDetached w) :
    (∀ m n, w.lanOpen m = true → w.lanOpen n = true → m = n) ∧
      ∀ o n priv w', (relay crypto).step (.lanStart o n (.ok priv)) w = some w' →
        ((∀ m, w.lanOpen m = false) ↔ StartsDetached w (.lanStart o n (.ok priv))) := by
  have hcoherent := coherent_of_reachable h
  have haccounted := accounted_of_reachable (fun _ _ ha => ha) h
  refine ⟨fun m n => haccounted.sole hcoherent, fun o n priv w' hstep => ?_⟩
  obtain ⟨hlock, _⟩ := relay_step.mp hstep
  have hstarting : w.lock = some (.starting o n) := hlock
  have htask : w.pumpTask = w.lan :=
    hcoherent.pumpTask_eq (by simp [hstarting, AwaitingPump])
  have hown := haccounted.own (by simp [hstarting]) (by simp [hstarting])
  constructor
  · intro hclosed
    change w.pumpTask = none
    cases hlan : w.lan with
    | none => exact htask.trans hlan
    | some m =>
      have hopen := (hcoherent.key m hlan).1
      rw [hclosed m] at hopen
      cases hopen
  · intro hdetached m
    rw [Bool.eq_false_iff]
    intro hopen
    have hlan := hown m hopen
    rw [← htask, show w.pumpTask = none from hdetached] at hlan
    cases hlan

def prewarmOpens (n : SessionId) : List (Action Unit) :=
  [.asyncPrewarm ⟨60, "alarm"⟩, .prewarmEnter ⟨60, "alarm"⟩ "192.168.1.20" "Q01",
   .keyFetched (.prewarm ⟨60, "alarm"⟩) "192.168.1.20" "Q01" (.ok (List.replicate 16 0x41)),
   .lanStart (.prewarm ⟨60, "alarm"⟩) n (.ok ()), .lanStarted (.prewarm ⟨60, "alarm"⟩) n,
   .pumpStart n]

theorem sole_open_lan_prewarmed :
    ∃ w : World Unit, (relay basePointCrypto).Reachable w ∧ w.lanOpen 0 = true ∧
      ∀ n, w.lanOpen n = true → n = 0 := by
  obtain ⟨w, hw, hopen⟩ :
      ∃ w, (relay basePointCrypto).ReachableUnder StartsDetached w ∧ w.lanOpen 0 = true :=
    ReachableUnder.of_replay (prewarmOpens 0) ⟨none, 1, by decide, rfl⟩ (by decide +kernel)
  exact ⟨w, hw.reachable, hopen, fun n hn => (sole_open_lan hw).1 n 0 hn hopen⟩

/-- The camera closes the stream, and the next alarm opens a second session over the first. -/
theorem not_sole_open_lan :
    ¬ ∀ w : World Unit, (relay basePointCrypto).Reachable w →
      ∀ m n, w.lanOpen m = true → w.lanOpen n = true → m = n := by
  intro hsole
  obtain ⟨w, hw, h0, h1⟩ :
      ∃ w, (relay basePointCrypto).Reachable w ∧ w.lanOpen 0 = true ∧ w.lanOpen 1 = true :=
    ReachableUnder.of_replay
      (prewarmOpens 0 ++ .pumpRead 0 0 0 (.ok []) :: prewarmOpens 1)
      ⟨none, 1, by decide, rfl⟩ (by decide +kernel)
  exact absurd (hsole w hw 0 1 h0 h1) (by decide)

/-- Nobody takes the lock to open a session once `async_stop` has returned. -/
def NoneOpens (w : World Priv) : Action Priv → Prop
  | .prewarmEnter _ _ _ | .clientEnter _ _ _ => w.stopped = false
  | _ => True

instance (w : World Priv) (a : Action Priv) : Decidable (NoneOpens w a) := by
  induction a using Action.casesOn <;> unfold NoneOpens <;> infer_instance

/-- A stopped relay has no session and nobody working on one. -/
def StoppedIdle (w : World Priv) : Prop := w.stopped = true → w.lock = none ∧ w.lan = none

private theorem StoppedIdle.frame {w w' : World Priv} (h : StoppedIdle w)
    (hstopped : w'.stopped = true → w.stopped = true) (hlock : w'.lock = w.lock)
    (hlan : w'.lan = w.lan) : StoppedIdle w' := by
  intro hs
  rw [hlock, hlan]
  exact h (hstopped hs)

private theorem StoppedIdle.running {w w' : World Priv} (h : w.stopped = false)
    (hstopped : w'.stopped = w.stopped) : StoppedIdle w' := by
  intro hs
  rw [hstopped, h] at hs
  cases hs

private theorem StoppedIdle.teardown {k : Closer} {w : World Priv}
    (hstop : w.stopped = true → w.lan = none ∧ w.pumpTask = none ∧ k.after = none) :
    StoppedIdle (teardownUpstream k w) := by
  have h := teardownUpstream_begins k w
  generalize teardownUpstream k w = w' at h
  cases h with
  | awaits n htask =>
    intro hs
    rw [(hstop hs).2.1] at htask
    cases htask
  | closes n hlan =>
    intro hs
    rw [(hstop hs).1] at hlan
    cases hlan
  | returns hlan =>
    rw [teardownReturn_eq]
    intro hs
    have hs' : (w.stopped || (k = .stop : Bool)) = true := hs
    refine ⟨?_, rfl⟩
    rcases Bool.or_eq_true_iff.mp hs' with hs | hk
    · exact (hstop hs).2.2
    · obtain rfl := of_decide_eq_true hk
      rfl

private theorem StoppedIdle.spinUp {o : Opener} {host related : String} {w : World Priv}
    (h : w.stopped = false) : StoppedIdle (spinUpUpstream o host related w) := by
  have hstop {P : Prop} (hs : w.stopped = true) : P := by
    rw [h] at hs
    cases hs
  unfold spinUpUpstream spinUpFailed
  split
  · exact teardown hstop
  · exact running h rfl

private theorem stoppedIdle_next {w : World Priv} (hcoherent : Coherent w.lock w.toCore)
    (h : StoppedIdle w) {a : Action Priv} (hallowed : NoneOpens w a) (ha : a.Enabled w) :
    StoppedIdle (a.next crypto w) := by
  have hheld {x : Holder} (hlock : w.lock = some x) : w.stopped = false := by
    rw [Bool.eq_false_iff]
    intro hs
    rw [(h hs).1] at hlock
    cases hlock
  have htask (hlock : w.lock = none) (hs : w.stopped = true) :
      w.lan = none ∧ w.pumpTask = none := by
    have hlan := (h hs).2
    exact ⟨hlan, (hcoherent.pumpTask_eq (by rw [hlock]; exact not_false)).trans hlan⟩
  have houtcome : Outcome crypto w a (a.next crypto w) := next_outcome ha
  generalize a.next crypto w = w' at houtcome ⊢
  cases houtcome with
  | outside ho => exact h.frame ho.stopped ho.lock (congrArg Core.lan ho.toCore)
  | asyncPrewarm | prewarmRenews | connect | handlerMoves | clientRegister | clientDetaches
  | timerFires | closeSpares => exact h.frame id rfl rfl
  | stopEnter hlock =>
    refine .teardown fun hs => ?_
    obtain ⟨hlan, hpump⟩ := htask hlock hs
    exact ⟨hlan, hpump, rfl⟩
  | closeTearsDown hlock =>
    refine .teardown fun hs => ?_
    obtain ⟨hlan, hpump⟩ := htask hlock hs
    exact ⟨hlan, hpump, rfl⟩
  | prewarmSpinsUp => exact .spinUp hallowed
  | clientSpinsUp => exact .spinUp hallowed
  | openingFails o e hlock =>
    refine .teardown fun hs => ?_
    obtain ⟨hfree, _⟩ := h hs
    rcases hlock with ⟨_, _, hlock⟩ | ⟨_, hlock⟩ <;>
    · rw [hfree] at hlock
      cases hlock
  | keyFetched o host related key hlock => exact .running (hheld hlock) rfl
  | lanStarts o n priv hlock => exact .running (hheld hlock) rfl
  | prewarmAttaches p n hlock => exact .running (hheld hlock) rfl
  | clientAttaches c n hlock => exact .running (hheld hlock) rfl
  | pumpJoined k n hlock =>
    rw [teardownDetach, (hcoherent.awaiting k n hlock).2.1]
    exact .running (hheld hlock) rfl
  | lanClose k n hlock => exact .running (hheld hlock) rfl
  | lanClosed k n hlock =>
    have hlan : w.lan = none := hcoherent.detached (by rw [hlock]; trivial)
    rw [teardownReturn_eq]
    intro hs
    have hs' : (w.stopped || (k = .stop : Bool)) = true := hs
    rw [hheld hlock, Bool.false_or] at hs'
    obtain rfl := of_decide_eq_true hs'
    exact ⟨rfl, hlan⟩
  | clientBursts c =>
    obtain ⟨_, _, _, hw⟩ := writeBurst_eq c .awaitingKeyframe _
    rw [hw]
    exact h.frame id rfl rfl
  | clientRejected c hlock => exact .running (hheld hlock) rfl
  | clientSnapshot c =>
    obtain ⟨_, _, _, hw⟩ := writeBurst_eq c .awaitingRegister w
    rw [hw]
    exact h.frame id rfl rfl
  | pump n hsteps =>
    have hframe := hsteps.frame
    exact h.frame (by rw [hframe.stopped]; exact id) hframe.lock hframe.lan

/-- A stop is final in runs that leak no client and in which nobody opens a session behind it:
no client is open and no pump task is alive until the next `async_start`. -/
theorem stop_final {w : World Priv}
    (h : (relay crypto).ReachableUnder (fun w a => StartsDetached w a ∧ NoneOpens w a) w)
    (hstopped : w.stopped = true) :
    (∀ n, w.lanOpen n = false) ∧ w.isPumpAlive = false ∧
      ∀ n, w.pumps n = .absent ∨ w.pumps n = .done := by
  have hcoherent := coherent_of_reachable h
  have haccounted := accounted_of_reachable (fun _ _ ha => ha.1) h
  have hidle : StoppedIdle w := relay_invariant (fun _ _ _ => by rintro ⟨⟩)
    (fun w a hw hP hallowed ha =>
      stoppedIdle_next (coherent_of_reachable hw) hP hallowed.2 ha) h
  obtain ⟨hlock, hlan⟩ := hidle hstopped
  rw [hlock] at hcoherent
  have htask : w.pumpTask = none := (hcoherent.pumpTask_eq not_false).trans hlan
  refine ⟨fun n => ?_, by simp [Core.isPumpAlive, htask], fun n => ?_⟩
  · rw [Bool.eq_false_iff]
    intro hopen
    have := haccounted.own (by simp [hlock]) (by simp [hlock]) n hopen
    rw [hlan] at this
    cases this
  · have hrunning (hn : (w.pumps n).Running) : False := by
      have := hcoherent.running n hn
      rw [htask] at this
      cases this
    cases hn : w.pumps n with
    | absent => exact .inl rfl
    | done => exact .inr rfl
    | created | reading | draining => exact (hrunning (by rw [hn]; trivial)).elim
    | cancelling =>
      obtain ⟨k, hk⟩ := hcoherent.cancelling n hn
      cases hk

def stopRun : List (Action Unit) :=
  [.asyncStart, .serverBound (some 40000)] ++ prewarmOpens 0 ++
    [.asyncStop, .serverClosed, .stopEnter, .pumpCancelled 0, .pumpJoined .stop 0,
     .lanClose .stop 0, .lanClosed .stop 0]

theorem stop_final_stopRun :
    ∃ w : World Unit, (relay basePointCrypto).Reachable w ∧ w.stopped = true ∧
      w.pumps 0 = .done ∧ ∀ n, w.lanOpen n = false := by
  obtain ⟨w, hw, hstopped, hdone⟩ :
      ∃ w, (relay basePointCrypto).ReachableUnder
          (fun w a => StartsDetached w a ∧ NoneOpens w a) w ∧
        w.stopped = true ∧ w.pumps 0 = .done :=
    ReachableUnder.of_replay stopRun ⟨none, 1, by decide, rfl⟩ (by decide +kernel)
  exact ⟨w, hw.reachable, hstopped, hdone, (stop_final hw hstopped).1⟩

/-- An alarm's prewarm, scheduled before `async_stop` is called, waits for the lock until the stop
has torn the session down, and then opens another. -/
theorem not_stop_final :
    ¬ ∀ w : World Unit, (relay basePointCrypto).Reachable w → w.stopped = true →
      (∀ n, w.lanOpen n = false) ∧ w.isPumpAlive = false := by
  intro hfinal
  obtain ⟨w, hw, hstopped, hopen⟩ :
      ∃ w, (relay basePointCrypto).Reachable w ∧ w.stopped = true ∧ w.lanOpen 1 = true :=
    ReachableUnder.of_replay
      ([.asyncStart, .serverBound (some 40000)] ++ prewarmOpens 0 ++
        [.asyncPrewarm ⟨60, "alarm"⟩, .asyncStop, .serverClosed, .stopEnter, .pumpCancelled 0,
         .pumpJoined .stop 0, .lanClose .stop 0, .lanClosed .stop 0,
         .prewarmEnter ⟨60, "alarm"⟩ "192.168.1.20" "Q01",
         .keyFetched (.prewarm ⟨60, "alarm"⟩) "192.168.1.20" "Q01"
           (.ok (List.replicate 16 0x41)),
         .lanStart (.prewarm ⟨60, "alarm"⟩) 1 (.ok ()), .lanStarted (.prewarm ⟨60, "alarm"⟩) 1])
      ⟨none, 1, by decide, rfl⟩ (by decide +kernel)
  have := (hfinal w hw hstopped).1 1
  rw [hopen] at this
  cases this

end EzvizHp7.Relay
