import EzvizHp7.Cpd7.Wire
import EzvizHp7.Relay.Outcome

/-!
# Session coherence

The session fields agree with each other and with the tasks at every point of every run: what
the lock's holder has still to do tells which of them may be ahead of the others.
-/

namespace EzvizHp7.Relay

open Cpd7 (Bytes Cpd7Decoder Crypto basePointCrypto)
open Transition System

variable {Priv Pub : Type} {crypto : Crypto Priv Pub}

/-- The task's locals are the objects of its own session. -/
def PumpPc.Owns (n : SessionId) : PumpPc → Prop
  | .reading lan decoder | .draining lan decoder _ => lan = n ∧ decoder = n
  | _ => True

def AwaitingPump : Option Holder → Prop
  | some (.awaitingPump _ _) => True
  | _ => False

/-- The holder has detached the session and closes its LAN client. -/
def ClosingLan : Option Holder → Prop
  | some (.closingLan _ _) | some (.closedLan _ _) => True
  | _ => False

def SpinningUp : Option Holder → Prop
  | some (.fetchingKey _ _ _) | some (.starting _ _) | some (.started _ _) => True
  | _ => False

/-- The session fields under a holder of the lock. -/
structure Coherent (lock : Option Holder) (w : Core Priv) : Prop where
  pumpsFresh : ∀ n, w.nextSession ≤ n → w.pumps n = .absent
  clientsFresh : ∀ c, w.nextClient ≤ c → w.clients c = .absent
  opening : ∀ h c, lock = some h → h.client? = some c → w.clients c = .opening
  decoder_eq : w.decoder = w.lan
  pumpTask_eq : ¬ AwaitingPump lock → w.pumpTask = w.lan
  awaiting : ∀ k n, lock = some (.awaitingPump k n) →
    w.pumpTask = none ∧ w.lan = some n ∧ (w.pumps n = .cancelling ∨ w.pumps n = .done)
  detached : ClosingLan lock → w.lan = none
  cleared : w.lan = none → w.buffer = [] ∧ w.keyframeSeen = false
  counters : w.lan = none → ¬ ClosingLan lock → w.sessionStartedAt = 0 ∧ w.sessionBytes = 0
  running : ∀ n, (w.pumps n).Running → w.pumpTask = some n
  cancelling : ∀ n, w.pumps n = .cancelling → ∃ k, lock = some (.awaitingPump k n)
  idle : SpinningUp lock → ∀ n, ¬ (w.pumps n).Running
  owns : ∀ n, (w.pumps n).Owns n
  current : ∀ n, w.lan = some n → n < w.nextSession ∧ w.pumps n ≠ .absent
  starting : ∀ o n, lock = some (.starting o n) ∨ lock = some (.started o n) →
    n < w.nextSession ∧ w.pumps n = .absent ∧ ∀ m, w.lan = some m → m < n
  started : ∀ o n, lock = some (.started o n) →
    w.lanOpen n = true ∧ ∃ priv, w.lanPriv n = some priv
  key : ∀ n, w.lan = some n →
    w.lanOpen n = true ∧ ∃ d, w.decoders n = some d ∧ w.lanPriv n = some d.priv
  writer : ∀ c, w.writer = some c → (w.clients c).Registered

namespace Coherent

/-- The lock goes from one holder to another, or is taken or released, outside a teardown. -/
theorem relock {lock : Option Holder} {w : Core Priv} (h : Coherent lock w)
    (lock' : Option Holder) (hpump : ¬ AwaitingPump lock) (hlan : ¬ ClosingLan lock)
    (hpump' : ¬ AwaitingPump lock') (hlan' : ¬ ClosingLan lock')
    (hopening : ∀ x c, lock' = some x → x.client? = some c → w.clients c = .opening)
    (hidle : SpinningUp lock' → ∀ n, ¬ (w.pumps n).Running)
    (hsession : ∀ o n, lock' ≠ some (.starting o n) ∧ lock' ≠ some (.started o n)) :
    Coherent lock' w :=
  { h with
    opening := hopening
    pumpTask_eq := fun _ => h.pumpTask_eq hpump
    awaiting := by
      intro k n heq
      rw [heq] at hpump'
      exact (hpump' trivial).elim
    detached := fun hc => (hlan' hc).elim
    counters := fun hnone _ => h.counters hnone hlan
    cancelling := by
      intro n hn
      obtain ⟨k, rfl⟩ := h.cancelling n hn
      exact (hpump trivial).elim
    idle := hidle
    starting := fun o n hlock => (hlock.elim (hsession o n).1 (hsession o n).2).elim
    started := fun o n hlock => ((hsession o n).2 hlock).elim }

private theorem release {lock : Option Holder} {w : Core Priv} (h : Coherent lock w)
    (hpump : ¬ AwaitingPump lock) (hlan : ¬ ClosingLan lock) : Coherent none w := by
  apply h.relock none hpump hlan not_false not_false
  · simp
  · exact False.elim
  · simp

private theorem not_running {w : Core Priv} (h : Coherent none w) (hidle : w.isPumpAlive = false)
    (n : SessionId) : ¬ (w.pumps n).Running := by
  intro hn
  have halive : w.isPumpAlive = true := by
    refine (isPumpAlive_iff w).mpr ⟨n, h.running n hn, fun hdone => ?_⟩
    rw [hdone] at hn
    exact hn
  rw [hidle] at halive
  cases halive

private theorem fetchKey {w : Core Priv} (h : Coherent none w) (hidle : w.isPumpAlive = false)
    {o : Opener} (host related : String)
    (ho : ∀ c, o.client? = some c → w.clients c = .opening) :
    Coherent (some (.fetchingKey o host related)) w := by
  apply h.relock (some (.fetchingKey o host related)) not_false not_false not_false not_false
  · intro _ c heq hc
    cases heq
    exact ho c hc
  · exact fun _ => h.not_running hidle
  · simp

private theorem reject {w : Core Priv} (h : Coherent none w) {c : ClientId}
    (hc : w.clients c = .opening) : Coherent (some (.rejecting c)) w := by
  apply h.relock (some (.rejecting c)) not_false not_false not_false not_false
  · intro _ c' heq heq'
    cases heq
    cases heq'
    exact hc
  · exact False.elim
  · simp

private theorem client {lock : Option Holder} {w : Core Priv} (h : Coherent lock w) {c : ClientId}
    {pc : ClientPc} (hold : w.clients c ≠ .absent)
    (hopening : lock = none ∨ w.clients c ≠ .opening)
    (hwriter : w.writer = some c → pc.Registered) :
    Coherent lock { w with clients := Function.update w.clients c pc } :=
  { h with
    clientsFresh := fun c' hc' => by
      have hne : c' ≠ c := by
        intro heq
        subst heq
        exact hold (h.clientsFresh c' hc')
      simp only [Function.update_of_ne hne]
      exact h.clientsFresh c' hc'
    opening := fun x c' hx hc' => by
      have hc := h.opening x c' hx hc'
      have hne : c' ≠ c := by
        intro heq
        subst heq
        rcases hopening with hnone | hopening
        · rw [hnone] at hx
          cases hx
        · exact hopening hc
      simpa only [Function.update_of_ne hne]
    writer := fun c' hc' => by
      by_cases hcc : c' = c
      · subst hcc
        simpa using hwriter hc'
      · simp only [Function.update_of_ne hcc]
        exact h.writer c' hc' }

private theorem not_writer {lock : Option Holder} {w : Core Priv} (h : Coherent lock w)
    {c : ClientId} (hc : ¬ (w.clients c).Registered) : w.writer ≠ some c :=
  fun hw => hc (h.writer c hw)

private theorem unregistered {lock : Option Holder} {w : Core Priv} (h : Coherent lock w)
    {c : ClientId} {pc old : ClientPc} (hold : w.clients c = old) (hne : old ≠ .absent)
    (hopening : lock = none ∨ old ≠ .opening) (hold' : ¬ old.Registered) :
    Coherent lock { w with clients := Function.update w.clients c pc } := by
  subst hold
  exact h.client hne hopening fun hw => (h.not_writer hold' hw).elim

private theorem pump {lock : Option Holder} {w : Core Priv} (h : Coherent lock w) {n : SessionId}
    {pc : PumpPc} (hold : w.pumps n ≠ .absent) (hpc : pc ≠ .absent ∧ pc ≠ .cancelling)
    (hrun : pc.Running → (w.pumps n).Running)
    (hdone : w.pumps n = .cancelling ∨ w.pumps n = .done → pc = .done) (howns : pc.Owns n) :
    Coherent lock { w with pumps := Function.update w.pumps n pc } :=
  { h with
    pumpsFresh := fun m hm => by
      have hne : m ≠ n := by
        intro heq
        subst heq
        exact hold (h.pumpsFresh m hm)
      simp only [Function.update_of_ne hne]
      exact h.pumpsFresh m hm
    awaiting := fun k m hk => by
      obtain ⟨htask, hlan, hpump⟩ := h.awaiting k m hk
      refine ⟨htask, hlan, ?_⟩
      by_cases hmn : m = n
      · subst hmn
        exact .inr (by simpa using hdone hpump)
      · simpa only [Function.update_of_ne hmn]
    running := fun m hm => by
      by_cases hmn : m = n
      · subst hmn
        exact h.running m (hrun (by simpa using hm))
      · simp only [Function.update_of_ne hmn] at hm
        exact h.running m hm
    cancelling := fun m hm => by
      by_cases hmn : m = n
      · subst hmn
        exact absurd (by simpa using hm) hpc.2
      · simp only [Function.update_of_ne hmn] at hm
        exact h.cancelling m hm
    idle := fun hs m hm => by
      by_cases hmn : m = n
      · subst hmn
        exact h.idle hs m (hrun (by simpa using hm))
      · simp only [Function.update_of_ne hmn] at hm
        exact h.idle hs m hm
    owns := fun m => by
      by_cases hmn : m = n
      · subst hmn
        simpa using howns
      · simp only [Function.update_of_ne hmn]
        exact h.owns m
    current := fun m hm => by
      obtain ⟨hlt, habsent⟩ := h.current m hm
      refine ⟨hlt, ?_⟩
      by_cases hmn : m = n
      · subst hmn
        simpa using hpc.1
      · simpa only [Function.update_of_ne hmn]
    starting := fun o m hm => by
      obtain ⟨hlt, habsent, hlan⟩ := h.starting o m hm
      have hne : m ≠ n := by
        intro heq
        subst heq
        exact hold habsent
      exact ⟨hlt, by simpa only [Function.update_of_ne hne], hlan⟩ }

private theorem absorb {lock : Option Holder} {w : Core Priv} (h : Coherent lock w) {n : SessionId}
    (hlan : w.lan = some n) (buffer : Bytes) (bytes : Nat) (seen : Bool) :
    Coherent lock
      { w with buffer := buffer, sessionBytes := bytes, keyframeSeen := seen } :=
  { h with
    cleared := fun hnone => by rw [hlan] at hnone; cases hnone
    counters := fun hnone => by rw [hlan] at hnone; cases hnone }

theorem decode {lock : Option Holder} {w : Core Priv} (h : Coherent lock w) {n : SessionId}
    {d d' : Cpd7Decoder Priv} (hd : w.decoders n = some d) (hpriv : d'.priv = d.priv) :
    Coherent lock { w with decoders := Function.update w.decoders n (some d') } :=
  { h with
    key := fun m hm => by
      obtain ⟨hopen, e, he, hkey⟩ := h.key m hm
      refine ⟨hopen, ?_⟩
      by_cases hmn : m = n
      · subst hmn
        rw [hd] at he
        cases he
        exact ⟨d', by simp, by rwa [hpriv]⟩
      · exact ⟨e, by simpa only [Function.update_of_ne hmn], hkey⟩ }

private theorem setWriter {lock : Option Holder} {w : Core Priv} (h : Coherent lock w)
    {writer : Option ClientId} (hwriter : ∀ c, writer = some c → (w.clients c).Registered) :
    Coherent lock { w with writer := writer } :=
  { h with writer := hwriter }

/-- The pump that can run is the attached one, with the attached objects. -/
theorem lan_of_running {lock : Option Holder} {w : Core Priv} (h : Coherent lock w)
    {n : SessionId} (hn : (w.pumps n).Running) : w.lan = some n := by
  have htask := h.running n hn
  by_cases hlock : AwaitingPump lock
  · match lock, hlock with
    | some (.awaitingPump k m), _ =>
      rw [(h.awaiting k m rfl).1] at htask
      cases htask
  · rw [← h.pumpTask_eq hlock, htask]

end Coherent

open World

private theorem Coherent.after {w : Core Priv} (h : Coherent none w) {k : Closer}
    (hk : ∀ c, k.client? = some c → w.clients c = .opening) : Coherent k.after w := by
  match k, hk with
  | .opener (.client c), hk => exact h.reject (hk c rfl)
  | .opener (.prewarm _), _ | .timer, _ | .stop, _ => exact h

theorem Closer.after_not_closing (k : Closer) : ¬ ClosingLan k.after := by
  cases k with
  | opener o => cases o <;> exact not_false
  | timer | stop => exact not_false

private theorem Coherent.closeLan {k : Closer} {n : SessionId} {w : Core Priv}
    (h : Coherent (some (.closingLan k n)) w) :
    Coherent (some (.closedLan k n)) { w with lanOpen := Function.update w.lanOpen n false } :=
  { h with
    opening := by
      intro _ c heq hc
      cases heq
      exact h.opening _ c rfl hc
    pumpTask_eq := fun _ => h.pumpTask_eq not_false
    awaiting := by simp
    detached := fun _ => h.detached trivial
    counters := fun _ hc => (hc trivial).elim
    cancelling := fun m hm => by
      obtain ⟨_, hk⟩ := h.cancelling m hm
      cases hk
    idle := fun hs => hs.elim
    starting := by rintro _ _ (hn | hn) <;> cases hn
    started := by simp
    key := fun m hm => by
      have hm' : w.lan = some m := hm
      rw [h.detached trivial] at hm'
      cases hm' }

private theorem Coherent.closedLan {k : Closer} {n : SessionId} {w : Core Priv}
    (h : Coherent (some (.closedLan k n)) w) :
    Coherent none { w with sessionStartedAt := 0, sessionBytes := 0 } :=
  { h with
    opening := by simp
    pumpTask_eq := fun _ => h.pumpTask_eq not_false
    awaiting := by simp
    detached := fun hc => hc.elim
    counters := fun _ _ => ⟨rfl, rfl⟩
    cancelling := fun m hm => by
      obtain ⟨_, hk⟩ := h.cancelling m hm
      cases hk
    idle := fun hs => hs.elim
    starting := by simp
    started := by simp }

private theorem teardownReturn_coherent {k : Closer} {w : World Priv} (h : Coherent none w.toCore)
    (hk : ∀ c, k.client? = some c → w.clients c = .opening) :
    Coherent (teardownReturn k w).lock (teardownReturn k w).toCore := by
  rw [teardownReturn_eq]
  exact h.after hk

private theorem teardownDetach_coherent {k : Closer} {n : SessionId} {w : World Priv}
    (h : Coherent (some (.awaitingPump k n)) w.toCore) (hdone : w.pumps n = .done) :
    Coherent (teardownDetach k w).lock (teardownDetach k w).toCore := by
  obtain ⟨htask, hlan, _⟩ := h.awaiting k n rfl
  rw [teardownDetach, hlan]
  exact
    { h with
      opening := by
        intro _ c heq hc
        cases heq
        exact h.opening _ c rfl hc
      decoder_eq := rfl
      pumpTask_eq := fun _ => htask
      awaiting := by simp
      detached := fun _ => rfl
      cleared := fun _ => ⟨rfl, rfl⟩
      counters := fun _ hc => (hc trivial).elim
      cancelling := fun m hm => by
        obtain ⟨k', hk'⟩ := h.cancelling m hm
        cases hk'
        rw [hdone] at hm
        cases hm
      idle := fun hs => hs.elim
      current := by simp
      starting := by simp
      started := by simp
      key := by simp }

private theorem teardownDetach_idle {k : Closer} {w : World Priv} (h : Coherent none w.toCore)
    (hlan : w.lan = none) (hk : ∀ c, k.client? = some c → w.clients c = .opening) :
    Coherent (teardownDetach k w).lock (teardownDetach k w).toCore := by
  rw [teardownDetach, hlan]
  refine teardownReturn_coherent ?_ hk
  exact
    { h with
      decoder_eq := rfl
      pumpTask_eq := fun hc => (h.pumpTask_eq hc).trans hlan
      awaiting := by simp
      detached := fun hc => hc.elim
      cleared := fun _ => ⟨rfl, rfl⟩
      counters := fun _ => h.counters hlan
      current := by rintro n ⟨⟩
      starting := by simp
      key := by rintro n ⟨⟩ }

private theorem teardownUpstream_coherent {k : Closer} {w : World Priv} (h : Coherent none w.toCore)
    (hk : ∀ c, k.client? = some c → w.clients c = .opening) :
    Coherent (teardownUpstream k w).lock (teardownUpstream k w).toCore := by
  have htask := h.pumpTask_eq not_false
  have hopening (x : Holder) (hx : x.client? = k.client?) (y : Holder) (c : ClientId)
      (hy : some x = some y) (hc : y.client? = some c) : w.clients c = .opening := by
    cases hy
    exact hk c (hx ▸ hc)
  rw [teardownUpstream]
  cases hpump : w.pumpTask with
  | none =>
    have hlan : w.lan = none := htask ▸ hpump
    refine teardownDetach_idle (w := { w.cancelClose with pumpTask := none }) ?_ hlan hk
    exact
      { h with
        pumpTask_eq := fun _ => hlan.symm
        awaiting := by simp
        running := fun n hn => by rw [← hpump]; exact h.running n hn }
  | some n =>
    have hlan : w.lan = some n := htask ▸ hpump
    by_cases hdone : w.pumps n = .done
    · simp only [if_pos hdone]
      refine teardownDetach_coherent (n := n) ?_ hdone
      exact
        { h with
          opening := hopening _ rfl
          pumpTask_eq := fun ha => (ha trivial).elim
          awaiting := by
            intro _ _ heq
            cases heq
            exact ⟨rfl, hlan, .inr hdone⟩
          detached := fun hc => hc.elim
          running := fun m hm => by
            have := h.running m hm
            rw [hpump] at this
            cases this
            have hm' : (w.pumps n).Running := hm
            rw [hdone] at hm'
            exact hm'.elim
          cancelling := fun m hm => by
            obtain ⟨_, hk'⟩ := h.cancelling m hm
            cases hk'
          idle := fun hs => hs.elim
          starting := by simp
          started := by simp }
    · simp only [if_neg hdone]
      have habsent := (h.current n hlan).2
      have hfresh : n < w.nextSession := (h.current n hlan).1
      exact
        { h with
          pumpsFresh := fun m hm => by
            have hne : m ≠ n := by
              intro heq
              subst heq
              exact absurd hfresh (Nat.not_lt.mpr hm)
            simpa [Function.update_of_ne hne] using h.pumpsFresh m hm
          opening := hopening _ rfl
          pumpTask_eq := fun ha => (ha trivial).elim
          awaiting := by
            intro _ _ heq
            cases heq
            exact ⟨rfl, hlan, .inl (by simp)⟩
          detached := fun hc => hc.elim
          running := fun m hm => by
            by_cases hmn : m = n
            · subst hmn
              simp [PumpPc.Running] at hm
            · simp only [Function.update_of_ne hmn] at hm
              have := h.running m hm
              rw [hpump] at this
              cases this
              exact absurd rfl hmn
          cancelling := fun m hm => by
            by_cases hmn : m = n
            · subst hmn
              exact ⟨k, rfl⟩
            · simp only [Function.update_of_ne hmn] at hm
              obtain ⟨_, hk'⟩ := h.cancelling m hm
              cases hk'
          idle := fun hs => hs.elim
          owns := fun m => by
            by_cases hmn : m = n
            · subst hmn
              simp [PumpPc.Owns]
            · simpa [Function.update_of_ne hmn] using h.owns m
          current := fun m hm => by
            have hm' : w.lan = some m := hm
            rw [hlan] at hm'
            cases hm'
            exact ⟨hfresh, by simp⟩
          starting := by simp
          started := by simp }

private theorem spinUpFailed_coherent {o : Opener} {error : String} {w : World Priv}
    (h : Coherent none w.toCore) (ho : ∀ c, o.client? = some c → w.clients c = .opening) :
    Coherent (spinUpFailed o error w).lock (spinUpFailed o error w).toCore :=
  teardownUpstream_coherent (k := .opener o) h ho

private theorem spinUpUpstream_coherent {o : Opener} {host related : String} {w : World Priv}
    (h : Coherent none w.toCore) (hidle : w.isPumpAlive = false)
    (ho : ∀ c, o.client? = some c → w.clients c = .opening) :
    Coherent (spinUpUpstream o host related w).lock
      (spinUpUpstream o host related w).toCore := by
  unfold spinUpUpstream
  cases upstreamAddress host related with
  | error e => exact spinUpFailed_coherent h ho
  | ok _ => exact h.fetchKey hidle host related ho

private theorem Coherent.construct {o : Opener} {host related : String} {w : Core Priv}
    (h : Coherent (some (.fetchingKey o host related)) w) :
    Coherent (some (.starting o w.nextSession)) { w with nextSession := w.nextSession + 1 } :=
  { h with
    pumpsFresh := fun n hn => h.pumpsFresh n (Nat.le_of_succ_le hn)
    opening := by
      intro _ c heq hc
      cases heq
      exact h.opening _ c rfl hc
    pumpTask_eq := fun _ => h.pumpTask_eq not_false
    awaiting := by simp
    detached := fun hc => hc.elim
    counters := fun hlan _ => h.counters hlan not_false
    cancelling := fun n hn => by
      obtain ⟨_, hk⟩ := h.cancelling n hn
      cases hk
    idle := fun _ => h.idle trivial
    current := fun n hn => by
      obtain ⟨hlt, habsent⟩ := h.current n hn
      exact ⟨Nat.lt_succ_of_lt hlt, habsent⟩
    starting := by
      rintro _ _ (hn | hn) <;> cases hn
      exact ⟨Nat.lt_succ_self _, h.pumpsFresh _ le_rfl, fun m hm => (h.current m hm).1⟩
    started := by simp }

private theorem Coherent.startLan {o : Opener} {n : SessionId} {w : Core Priv}
    (h : Coherent (some (.starting o n)) w) (priv : Priv) :
    Coherent (some (.started o n))
      { w with
        lanPriv := Function.update w.lanPriv n (some priv)
        lanOpen := Function.update w.lanOpen n true } := by
  obtain ⟨hlt, habsent, hlast⟩ := h.starting o n (.inl rfl)
  exact
    { h with
      opening := by
        intro _ c heq hc
        cases heq
        exact h.opening _ c rfl hc
      pumpTask_eq := fun _ => h.pumpTask_eq not_false
      awaiting := by simp
      detached := fun hc => hc.elim
      counters := fun hlan _ => h.counters hlan not_false
      cancelling := fun m hm => by
        obtain ⟨_, hk⟩ := h.cancelling m hm
        cases hk
      idle := fun _ => h.idle trivial
      starting := by
        rintro _ _ (hm | hm) <;> cases hm
        exact ⟨hlt, habsent, hlast⟩
      started := by
        intro _ _ heq
        cases heq
        exact ⟨by simp, priv, by simp⟩
      key := fun m hm => by
        have hne : m ≠ n := (hlast m hm).ne
        simpa only [Function.update_of_ne hne] using h.key m hm }

private theorem attachSession_coherent {o : Opener} {n : SessionId} {w : World Priv}
    (h : Coherent (some (.started o n)) w.toCore) : Coherent none (attachSession n w).toCore := by
  change Coherent none
    { w.toCore with
      lan := some n
      decoder := some n
      decoders := Function.update w.decoders n ((w.lanPriv n).map Cpd7Decoder.fresh)
      buffer := []
      pumpTask := some n
      pumps := Function.update w.pumps n .created
      sessionStartedAt := w.clock
      sessionBytes := 0 }
  obtain ⟨hlt, habsent, _⟩ := h.starting o n (.inr rfl)
  obtain ⟨hopen, priv, hpriv⟩ := h.started o n rfl
  exact
    { h with
      pumpsFresh := fun m hm => by
        have hne : m ≠ n := (Nat.lt_of_lt_of_le hlt hm).ne'
        simpa only [Function.update_of_ne hne] using h.pumpsFresh m hm
      opening := by simp
      decoder_eq := rfl
      pumpTask_eq := fun _ => rfl
      awaiting := by simp
      detached := fun hc => hc.elim
      cleared := by simp
      counters := by simp
      running := fun m hm => by
        by_cases hmn : m = n
        · rw [hmn]
        · simp only [Function.update_of_ne hmn] at hm
          exact (h.idle trivial m hm).elim
      cancelling := fun m hm => by
        by_cases hmn : m = n
        · subst hmn
          simp at hm
        · simp only [Function.update_of_ne hmn] at hm
          obtain ⟨_, hk⟩ := h.cancelling m hm
          cases hk
      idle := fun hs => hs.elim
      owns := fun m => by
        by_cases hmn : m = n
        · subst hmn
          simp [PumpPc.Owns]
        · simpa only [Function.update_of_ne hmn] using h.owns m
      current := by
        intro m heq
        cases heq
        exact ⟨hlt, by simp⟩
      starting := by simp
      started := by simp
      key := by
        intro m heq
        cases heq
        exact ⟨hopen, Cpd7Decoder.fresh priv, by simp [hpriv], hpriv⟩ }

private theorem Coherent.failOpening {lock : Option Holder} {o : Opener} {w : Core Priv}
    (h : Coherent lock w)
    (hlock : (∃ host related, lock = some (.fetchingKey o host related)) ∨
      ∃ n, lock = some (.starting o n)) :
    Coherent none w ∧ ∀ c, o.client? = some c → w.clients c = .opening := by
  rcases hlock with ⟨_, _, rfl⟩ | ⟨_, rfl⟩
  · exact ⟨h.release not_false not_false, fun c hc => h.opening _ c rfl hc⟩
  · exact ⟨h.release not_false not_false, fun c hc => h.opening _ c rfl hc⟩

private theorem writeBurst_coherent {lock : Option Holder} {c : ClientId} {pc old : ClientPc}
    {w : World Priv} (h : Coherent lock w.toCore) (hold : w.clients c = old)
    (hne : old ≠ .absent) (hopening : lock = none ∨ old ≠ .opening) (hold' : ¬ old.Registered) :
    Coherent lock (writeBurst c pc w).toCore := by
  unfold writeBurst
  dsimp only
  split <;> exact h.unregistered hold hne hopening hold'

private theorem connect_coherent {lock : Option Holder} {w : World Priv}
    (h : Coherent lock w.toCore) : Coherent lock (connect w).toCore := by
  have hfresh := h.clientsFresh w.nextClient le_rfl
  have hne {c : ClientId} (hc : w.clients c ≠ .absent) : c ≠ w.nextClient := by
    intro heq
    subst heq
    exact hc hfresh
  exact
    { h with
      clientsFresh := fun c hc => by
        have hne : c ≠ w.nextClient := (Nat.lt_of_succ_le hc).ne'
        simpa only [connect, Function.update_of_ne hne] using
          h.clientsFresh c (Nat.le_of_succ_le hc)
      opening := fun x c hx hc => by
        have hopening := h.opening x c hx hc
        have := hne (c := c) (by rw [hopening]; simp)
        simpa only [connect, Function.update_of_ne this] using hopening
      writer := fun c hc => by
        have hreg := h.writer c hc
        have := hne (c := c) (by rintro habsent; rw [habsent] at hreg; exact hreg)
        simpa only [connect, Function.update_of_ne this] using hreg }

private theorem pump_step {lock : Option Holder} {w : Core Priv} {n : SessionId}
    {old : PumpPc} (pc : PumpPc) (h : Coherent lock w) (hold : w.pumps n = old)
    (hrunning : old.Running) (hpc : pc ≠ .absent ∧ pc ≠ .cancelling) (howns : pc.Owns n) :
    Coherent lock { w with pumps := Function.update w.pumps n pc } := by
  subst hold
  refine h.pump ?_ hpc (fun _ => hrunning) ?_ howns
  · intro habsent
    rw [habsent] at hrunning
    exact hrunning
  · rintro (hn | hn) <;> rw [hn] at hrunning <;> exact hrunning.elim

private theorem pumpChunk_coherent {lock : Option Holder} {n : SessionId} {plain : Bytes}
    {w : World Priv} (h : Coherent lock w.toCore) (hn : w.pumps n = .reading n n) :
    Coherent lock (pumpChunk n n n plain w).toCore := by
  have hlan : w.lan = some n := h.lan_of_running (by rw [hn]; trivial)
  obtain ⟨seen, pc, hpc, hcore⟩ := pumpChunk_toCore n n n plain w
  have habsorbed := h.absorb hlan (extendBuffer bufferTrimTarget w.buffer plain)
    (w.sessionBytes + plain.length) seen
  rw [hcore]
  refine pump_step pc habsorbed hn trivial ?_ ?_ <;>
    rcases hpc with rfl | ⟨c, rfl⟩ <;> simp [PumpPc.Owns]

private theorem pumpSteps_coherent {n : SessionId} {a : Action Priv} {w w' : World Priv}
    (h : Coherent w.lock w.toCore) (hsteps : PumpSteps crypto n w a w') :
    Coherent w'.lock w'.toCore := by
  have howns {lan decoder : SessionId} (hpc : (w.pumps n).Owns n → lan = n ∧ decoder = n) :
      lan = n ∧ decoder = n := hpc (h.owns n)
  have hfeed {decoder : SessionId} {raw : Bytes} {d d' : Cpd7Decoder Priv}
      (hd : w.decoders decoder = some d)
      (hfed : Cpd7.feed crypto Cpd7.absorbPlain d raw = .ok d') :
      Coherent w.lock
        { w.toCore with
          decoders := Function.update w.decoders decoder (some (Cpd7.take d').2) } := by
    have hpriv : d'.priv = d.priv := Cpd7.feed_priv crypto Cpd7.absorbPlain hfed
    exact h.decode hd hpriv
  cases hsteps with
  | starts lan decoder hpc hlan hdecoder =>
    have hattached : w.lan = some n := h.lan_of_running (by rw [hpc]; trivial)
    obtain rfl : n = lan := Option.some.inj (hattached.symm.trans hlan)
    obtain rfl : n = decoder :=
      Option.some.inj ((h.decoder_eq.trans hattached).symm.trans hdecoder)
    exact pump_step (.reading n n) h hpc trivial (by simp) ⟨rfl, rfl⟩
  | ends hpc => exact pump_step .done h rfl hpc (by simp) trivial
  | feeds lan decoder raw d d' hpc hd hfed => exact hfeed hd hfed
  | produces lan decoder raw d d' hpc hd hfed =>
    obtain ⟨rfl, rfl⟩ := howns (fun ho => by rwa [hpc] at ho)
    rw [(pumpChunk_frame _ _ _ _ _).lock]
    exact pumpChunk_coherent (hfeed hd hfed) hpc
  | resumes lan decoder c hpc =>
    exact pump_step (.reading lan decoder) h hpc trivial (by simp)
      (howns (fun ho => by rwa [hpc] at ho))
  | breaks lan decoder c hpc =>
    exact pump_step (.reading lan decoder) h hpc trivial (by simp)
      (howns (fun ho => by rwa [hpc] at ho))
  | detaches lan decoder c hpc =>
    have hread := pump_step (.reading lan decoder) h hpc trivial (by simp)
      (howns (fun ho => by rwa [hpc] at ho))
    exact hread.setWriter (by simp)
  | cancelled hpc =>
    refine h.pump ?_ (by simp) (fun hr => hr.elim) (fun _ => rfl) trivial
    rw [hpc]
    simp

private theorem handlerMoves_coherent {lock : Option Holder} {a : Action Priv} {c : ClientId}
    {pc : ClientPc} {w : World Priv} (h : Coherent lock w.toCore)
    (hmoves : HandlerMoves c w a pc) :
    Coherent lock { w.toCore with clients := Function.update w.clients c pc } := by
  cases hmoves with
  | keyframeWaited byEvent hpc => exact h.unregistered hpc (by simp) (.inr (by simp)) not_false
  | flushed hpc => exact h.unregistered hpc (by simp) (.inr (by simp)) not_false
  | flushFailed hpc => exact h.unregistered hpc (by simp) (.inr (by simp)) not_false
  | eof hpc => exact h.client (by simp [hpc]) (.inr (by simp [hpc])) fun _ => trivial
  | leaves hpc hwriter =>
    exact h.client (by simp [hpc]) (.inr (by simp [hpc])) fun hw => (hwriter hw).elim
  | closed hpc => exact h.unregistered hpc (by simp) (.inr (by simp)) not_false

/-- Every action keeps the session fields coherent with the lock it leaves behind. -/
theorem coherent_next {w : World Priv} (h : Coherent w.lock w.toCore) {a : Action Priv}
    (ha : a.Enabled w) : Coherent (a.next crypto w).lock (a.next crypto w).toCore := by
  have hfree (hlock : w.lock = none) : Coherent none w.toCore := by rwa [← hlock]
  have hheld {x : Holder} (hlock : w.lock = some x) : Coherent (some x) w.toCore := by
    rwa [← hlock]
  have hnone {x : Holder} (hlock : w.lock = some x) (hpump : ¬ AwaitingPump (some x))
      (hlan : ¬ ClosingLan (some x)) : Coherent none w.toCore :=
    (hheld hlock).release hpump hlan
  have houtcome : Outcome crypto w a (a.next crypto w) := next_outcome ha
  generalize a.next crypto w = w' at houtcome ⊢
  cases houtcome with
  | outside houtside =>
    rw [houtside.lock, houtside.toCore]
    exact h
  | asyncPrewarm | timerFires | closeSpares | prewarmRenews => exact h
  | stopEnter hlock =>
    exact teardownUpstream_coherent (k := .stop) (hfree hlock) (by simp [Closer.client?])
  | closeTearsDown hlock =>
    exact teardownUpstream_coherent (k := .timer) (hfree hlock) (by simp [Closer.client?])
  | prewarmSpinsUp p host related hlock hp hidle =>
    exact spinUpUpstream_coherent (hfree hlock) hidle (by simp [Opener.client?])
  | openingFails o e hlock =>
    obtain ⟨hreleased, ho⟩ := h.failOpening hlock
    exact spinUpFailed_coherent hreleased ho
  | keyFetched o host related key hlock => exact (hheld hlock).construct
  | lanStarts o n priv hlock => exact (hheld hlock).startLan priv
  | prewarmAttaches p n hlock => exact attachSession_coherent (hheld hlock)
  | clientAttaches c n hlock =>
    have hopening : w.clients c = .opening := (hheld hlock).opening _ c rfl rfl
    exact (attachSession_coherent (hheld hlock)).unregistered hopening (by simp) (.inl rfl)
      not_false
  | pumpJoined k n hlock hdone => exact teardownDetach_coherent (hheld hlock) hdone
  | lanClose k n hlock => exact (hheld hlock).closeLan
  | lanClosed k n hlock =>
    exact teardownReturn_coherent (hheld hlock).closedLan
      fun c hc => (hheld hlock).opening _ c rfl hc
  | connect => exact connect_coherent h
  | clientBursts c host related hlock hpc =>
    rw [writeBurst_lock]
    exact writeBurst_coherent h hpc (by simp) (.inl hlock) not_false
  | clientSpinsUp c host related hlock hpc hidle =>
    have hopen : Coherent none { w.toCore with
        clients := Function.update w.clients c .opening } :=
      (hfree hlock).unregistered hpc (by simp) (.inl rfl) not_false
    refine spinUpUpstream_coherent hopen hidle fun c' hc' => ?_
    cases hc'
    simp
  | clientRejected c hlock =>
    have hpc : w.clients c = .opening := (hheld hlock).opening _ c rfl rfl
    exact (hnone hlock not_false not_false).unregistered hpc (by simp) (.inl rfl) not_false
  | handlerMoves c pc closing hmoves => exact handlerMoves_coherent h hmoves
  | clientSnapshot c byEvent hlock hpc =>
    rw [writeBurst_lock]
    exact writeBurst_coherent h hpc (by simp) (.inl hlock) not_false
  | clientRegister c hlock hpc =>
    have hreg : Coherent w.lock { w.toCore with
        clients := Function.update w.clients c .streaming } :=
      h.client (by simp [hpc]) (.inr (by simp [hpc])) fun _ => trivial
    apply hreg.setWriter
    intro _ heq
    cases heq
    simp [ClientPc.Registered]
  | clientDetaches c hlock hpc =>
    have hleft : Coherent w.lock { w.toCore with writer := none } := h.setWriter (by simp)
    exact hleft.client (by simp [hpc]) (.inl hlock) (by simp)
  | pump n hsteps => exact pumpSteps_coherent h hsteps

private theorem coherent_initial (stats : Option ActivityStats) (clock : Rat) :
    Coherent none (World.initial Priv stats clock).toCore where
  pumpsFresh _ _ := rfl
  clientsFresh _ _ := rfl
  opening := by simp
  decoder_eq := rfl
  pumpTask_eq _ := rfl
  awaiting := by simp
  detached h := h.elim
  cleared _ := ⟨rfl, rfl⟩
  counters _ _ := ⟨rfl, rfl⟩
  running _ h := h.elim
  cancelling _ h := by cases h
  idle h := h.elim
  owns _ := trivial
  current := by rintro _ ⟨⟩
  starting := by simp
  started := by simp
  key := by rintro _ ⟨⟩
  writer := by rintro _ ⟨⟩

theorem coherent_of_reachable {allowed : World Priv → Action Priv → Prop} {w : World Priv}
    (h : (relay crypto).ReachableUnder allowed w) : Coherent w.lock w.toCore :=
  relay_invariant (fun stats clock _ => coherent_initial stats clock)
    (fun _ _ _ hP _ ha => coherent_next hP ha) h

/-- With the lock free the three session references are all set, by one spin-up, or all clear
with everything they stand for; the writer belongs to a registered handler, and a handler that
leaves does not unregister another one. -/
theorem session_coherence {w : World Priv} (h : (relay crypto).Reachable w)
    (hlock : w.lock = none) :
    ((w.lan = none ∧ w.decoder = none ∧ w.pumpTask = none ∧ w.buffer = [] ∧
        w.keyframeSeen = false ∧ w.sessionBytes = 0 ∧ w.sessionStartedAt = 0) ∨
      ∃ n d, w.lan = some n ∧ w.decoder = some n ∧ w.pumpTask = some n ∧
        w.decoders n = some d ∧ w.lanPriv n = some d.priv) ∧
    (∀ c, w.writer = some c → (w.clients c).Registered) ∧
    (∀ c c' w', w.writer = some c → c' ≠ c →
      (relay crypto).step (.clientLeave c') w = some w' → w'.writer = some c) := by
  have hcoherent := coherent_of_reachable h
  rw [hlock] at hcoherent
  have htask := hcoherent.pumpTask_eq not_false
  refine ⟨?_, hcoherent.writer, fun c c' w' hw hne hstep => ?_⟩
  · cases hlan : w.lan with
    | none =>
      obtain ⟨hbuffer, hseen⟩ := hcoherent.cleared hlan
      obtain ⟨hstarted, hbytes⟩ := hcoherent.counters hlan not_false
      exact .inl ⟨rfl, hcoherent.decoder_eq.trans hlan, htask.trans hlan, hbuffer, hseen, hbytes,
        hstarted⟩
    | some n =>
      obtain ⟨_, d, hd, hkey⟩ := hcoherent.key n hlan
      exact .inr ⟨n, d, rfl, hcoherent.decoder_eq.trans hlan, htask.trans hlan, hd, hkey⟩
  · obtain ⟨_, rfl⟩ := relay_step.mp hstep
    have hother : w.writer ≠ some c' := fun h => hne (Option.some.inj (h.symm.trans hw))
    simpa [Action.next, World.clientLeave, hother] using hw

def attachRun : List (Action Unit) :=
  [.asyncStart, .serverBound (some 40000), .asyncPrewarm ⟨60, "alarm"⟩,
   .prewarmEnter ⟨60, "alarm"⟩ "192.168.1.20" "Q01",
   .keyFetched (.prewarm ⟨60, "alarm"⟩) "192.168.1.20" "Q01" (.ok (List.replicate 16 0x41)),
   .lanStart (.prewarm ⟨60, "alarm"⟩) 0 (.ok ()), .lanStarted (.prewarm ⟨60, "alarm"⟩) 0,
   .pumpStart 0, .connect, .clientEnter 0 "192.168.1.20" "Q01", .keyframeWaited 0 false,
   .clientSnapshot 0 false, .clientRegister 0]

theorem session_coherence_attached :
    ∃ (w : World Unit) (d : Cpd7Decoder Unit), (relay basePointCrypto).Reachable w ∧
      w.writer = some 0 ∧ w.lan = some 0 ∧ w.decoder = some 0 ∧ w.pumpTask = some 0 ∧
      w.decoders 0 = some d ∧ w.lanPriv 0 = some d.priv ∧ (w.clients 0).Registered := by
  obtain ⟨w, hw, hlock, hlan, hwriter⟩ :
      ∃ w, (relay basePointCrypto).Reachable w ∧
        w.lock = none ∧ w.lan = some 0 ∧ w.writer = some 0 :=
    ReachableUnder.of_replay attachRun ⟨none, 1, by decide, rfl⟩ (by decide +kernel)
  obtain ⟨hsession, hwriters, _⟩ := session_coherence hw hlock
  rcases hsession with ⟨hnone, _⟩ | ⟨n, d, hn, hdecoder, htask, hd, hkey⟩
  · rw [hlan] at hnone
    cases hnone
  · obtain rfl : 0 = n := Option.some.inj (hlan.symm.trans hn)
    exact ⟨w, d, hw, hwriter, hlan, hdecoder, htask, hd, hkey, hwriters 0 hwriter⟩

end EzvizHp7.Relay
