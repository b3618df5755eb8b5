import EzvizHp7.Relay.Sessions

/-!
# The warm window

A live session without a viewer is closed by the timer in `_close_handle`, or by the task it
spawned when it fired. Two exits of a viewer forget to arm the timer, and a spawned task is not
called back by the admission that cancels the timer; away from these a live session always has
something that will close it, and nothing closes it under a client.
-/

namespace EzvizHp7.Relay

open Cpd7 (Bytes Crypto basePointCrypto)
open Transition System World

variable {Priv Pub : Type} {crypto : Crypto Priv Pub}

/-- Something will close the session: a pending timer, a fired one, or a client that arms the
timer when it leaves. -/
def Guarded (w : World Priv) : Prop :=
  w.Armed ∨ 0 < w.closers ∨ (∃ c, (w.clients c).Attaching) ∨ w.writer ≠ none

/-- Every prewarm asks for a positive hold, no burst drain fails, and the pump's writes to the
registered writer do not break. -/
def DetachesArmed (w : World Priv) : Action Priv → Prop
  | .asyncPrewarm p => 0 < p.holdSeconds
  | .clientFlushed _ ok => ok = true
  | .pumpDrained _ _ _ c .brokenPipe => w.writer ≠ some c
  | _ => True

instance (w : World Priv) (a : Action Priv) : Decidable (DetachesArmed w a) := by
  induction a using Action.casesOn with
  | pumpDrained n lan decoder c drained =>
    induction drained using Drained.casesOn <;> unfold DetachesArmed <;> infer_instance
  | _ => unfold DetachesArmed; infer_instance

/-- A live session is guarded, and every prewarm under way will arm the timer. -/
structure WarmGuarded (w : World Priv) : Prop where
  guarded : w.isPumpAlive = true → Guarded w
  prewarms : ∀ p ∈ w.prewarms, 0 < p.holdSeconds
  opener : ∀ x p, w.lock = some x → x.opener? = some (.prewarm p) → 0 < p.holdSeconds

theorem Guarded.mono {w w' : World Priv} (h : Guarded w) (harmed : w.Armed → w'.Armed)
    (hclosers : w.closers ≤ w'.closers)
    (hattaching : ∀ c, (w.clients c).Attaching → (w'.clients c).Attaching ∨ w'.writer ≠ none)
    (hwriter : w.writer ≠ none → w'.writer ≠ none) : Guarded w' := by
  rcases h with h | h | ⟨c, h⟩ | h
  · exact .inl (harmed h)
  · exact .inr (.inl (Nat.lt_of_lt_of_le h hclosers))
  · rcases hattaching c h with h | h
    · exact .inr (.inr (.inl ⟨c, h⟩))
    · exact .inr (.inr (.inr h))
  · exact .inr (.inr (.inr (hwriter h)))

private theorem attaching_update {clients : ClientId → ClientPc} {c : ClientId} {pc : ClientPc}
    (h : (clients c).Attaching → pc.Attaching) (d : ClientId) (hd : (clients d).Attaching) :
    (Function.update clients c pc d).Attaching := by
  by_cases hdc : d = c
  · subst hdc
    simpa using h hd
  · rwa [Function.update_of_ne hdc]

namespace WarmGuarded

/-- A step after which the pump is no more alive than before and the guards are no fewer. -/
theorem frame {w w' : World Priv} (h : WarmGuarded w)
    (halive : w'.isPumpAlive = true → w.isPumpAlive = true)
    (hguarded : Guarded w → Guarded w') (hprewarms : ∀ p ∈ w'.prewarms, p ∈ w.prewarms)
    (hlock : w'.lock = w.lock ∨ ∀ x, w'.lock = some x → x.opener? = none) : WarmGuarded w' where
  guarded ha := hguarded (h.guarded (halive ha))
  prewarms p hp := h.prewarms p (hprewarms p hp)
  opener x p hx hp := by
    rcases hlock with hlock | hlock
    · exact h.opener x p (hlock ▸ hx) hp
    · rw [hlock x hx] at hp
      cases hp

private theorem client {w : World Priv} (h : WarmGuarded w) {c : ClientId} {pc : ClientPc}
    (hpc : (w.clients c).Attaching → pc.Attaching) (closing : ClientId → Bool) :
    WarmGuarded
      { w with clients := Function.update w.clients c pc, transportClosing := closing } :=
  h.frame id
    (fun hg => hg.mono id le_rfl (fun d hd => .inl (attaching_update hpc d hd)) id)
    (fun _ hp => hp) (.inl rfl)

private theorem closed {w w' : World Priv} (h : WarmGuarded w) (htask : w'.pumpTask = none)
    (hprewarms : ∀ p ∈ w'.prewarms, p ∈ w.prewarms)
    (hlock : ∀ x, w'.lock = some x → x.opener? = none) : WarmGuarded w' where
  guarded ha := by
    rw [Core.isPumpAlive, htask] at ha
    cases ha
  prewarms p hp := h.prewarms p (hprewarms p hp)
  opener x p hx hp := by
    rw [hlock x hx] at hp
    cases hp

end WarmGuarded

private theorem opener?_after {k : Closer} {x : Holder} (h : k.after = some x) :
    x.opener? = none := by
  match k, h with
  | .opener (.client c), h =>
    cases h
    rfl

private theorem teardownUpstream_opener {k : Closer} {w : World Priv} (x : Holder)
    (hx : (teardownUpstream k w).lock = some x) : x.opener? = none := by
  have h := teardownUpstream_begins k w
  generalize teardownUpstream k w = w' at h hx
  cases h with
  | awaits | closes =>
    cases hx
    rfl
  | returns =>
    rw [teardownReturn_eq] at hx
    exact opener?_after hx

namespace WarmGuarded

private theorem teardown {k : Closer} {w w' : World Priv} (h : WarmGuarded w)
    (hprewarms : ∀ p ∈ w'.prewarms, p ∈ w.prewarms) : WarmGuarded (teardownUpstream k w') :=
  h.closed (teardownUpstream_pumpTask k w')
    (fun p hp => hprewarms p ((teardownUpstream_timer k w').2.2.2 ▸ hp)) teardownUpstream_opener

private theorem spinUp {o : Opener} {host related : String} {w w' : World Priv} (h : WarmGuarded w)
    (hidle : w'.isPumpAlive = false) (ho : ∀ p, o = .prewarm p → 0 < p.holdSeconds)
    (hprewarms : ∀ p ∈ w'.prewarms, p ∈ w.prewarms) :
    WarmGuarded (spinUpUpstream o host related w') := by
  unfold spinUpUpstream spinUpFailed
  split
  · exact h.teardown hprewarms
  · refine ⟨fun ha => ?_, fun p hp => h.prewarms p (hprewarms p hp), ?_⟩
    · rw [show w'.isPumpAlive = true from ha] at hidle
      cases hidle
    · intro _ p heq heq'
      cases heq
      cases heq'
      exact ho p rfl

private theorem same {w w' : World Priv} (h : WarmGuarded w)
    (halive : w'.isPumpAlive = true → w.isPumpAlive = true) (hguarded : Guarded w → Guarded w')
    (hprewarms : w'.prewarms = w.prewarms) (hlock : w'.lock = w.lock) : WarmGuarded w' :=
  h.frame halive hguarded (by rw [hprewarms]; exact fun _ hp => hp) (.inl hlock)

private theorem outside {w w' : World Priv} (h : WarmGuarded w) (ho : Outside w w') :
    WarmGuarded w' := by
  refine h.same ?_ ?_ ho.prewarms ho.lock
  · rw [ho.toCore]
    exact id
  · refine fun hg => hg.mono ?_ ho.closers.ge ?_ ?_
    · rw [World.Armed, World.Armed, ho.closeHandle, ho.timers]
      exact id
    · rw [ho.toCore]
      exact fun _ hc => .inl hc
    · rw [ho.toCore]
      exact id

/-- A holder of the lock gives way to another one for the same opener. -/
theorem opens {w w' : World Priv} (h : WarmGuarded w) (hcore : w'.isPumpAlive = w.isPumpAlive)
    (hguarded : Guarded w → Guarded w') (hprewarms : w'.prewarms = w.prewarms) {x x' : Holder}
    (hlock : w.lock = some x) (hlock' : w'.lock = some x') (ho : x'.opener? = x.opener?) :
    WarmGuarded w' where
  guarded ha := hguarded (h.guarded (hcore ▸ ha))
  prewarms p hp := h.prewarms p (hprewarms ▸ hp)
  opener y p hy hp := by
    cases hlock'.symm.trans hy
    exact h.opener x p hlock (ho ▸ hp)

private theorem handlerMoves {w : World Priv} (h : WarmGuarded w) {a : Action Priv} {c : ClientId}
    {pc : ClientPc} (hallowed : DetachesArmed w a) (hmoves : HandlerMoves c w a pc)
    (closing : ClientId → Bool) :
    WarmGuarded
      { w with clients := Function.update w.clients c pc, transportClosing := closing } := by
  refine h.client ?_ closing
  cases hmoves with
  | keyframeWaited | flushed => exact fun _ => trivial
  | flushFailed => cases hallowed
  | eof hpc | leaves hpc | closed hpc =>
    rw [hpc]
    exact False.elim

private theorem clientBursts {w w' : World Priv} (h : WarmGuarded w) (c : ClientId)
    (hprewarms : w'.prewarms = w.prewarms) (hlock : w'.lock = w.lock) :
    WarmGuarded (writeBurst c .awaitingKeyframe w') := by
  obtain ⟨pc, _, hpc, hw⟩ := writeBurst_eq c .awaitingKeyframe w'
  rw [hw]
  refine ⟨fun _ => .inr (.inr (.inl ⟨c, ?_⟩)), fun p hp => h.prewarms p (hprewarms ▸ hp),
    fun x p hx => h.opener x p (hlock ▸ hx)⟩
  change (Function.update w'.clients c pc c).Attaching
  rw [Function.update_self]
  rcases hpc with rfl | rfl <;> trivial

private theorem clientSnapshot {w : World Priv} (h : WarmGuarded w) (c : ClientId) :
    WarmGuarded (writeBurst c .awaitingRegister w) := by
  obtain ⟨pc, _, hpc, hw⟩ := writeBurst_eq c .awaitingRegister w
  rw [hw]
  refine h.same id (fun hg => hg.mono id le_rfl (fun d hd => .inl ?_) id) rfl rfl
  refine attaching_update (fun _ => ?_) d hd
  rcases hpc with rfl | rfl <;> trivial

/-- A handler that does not attach comes or goes. -/
theorem unattached {w w' : World Priv} (h : WarmGuarded w) {c : ClientId} {pc : ClientPc}
    (hpc : ¬(w.clients c).Attaching)
    (hcore : w'.toCore = { w.toCore with
      clients := Function.update w.clients c pc, nextClient := w'.nextClient })
    (harmed : w.Armed → w'.Armed) (hclosers : w.closers ≤ w'.closers)
    (hprewarms : w'.prewarms = w.prewarms)
    (hlock : w'.lock = w.lock ∨ ∀ x, w'.lock = some x → x.opener? = none) : WarmGuarded w' := by
  refine h.frame ?_ (fun hg => hg.mono harmed hclosers (fun d hd => .inl ?_) ?_) ?_ hlock
  · rw [hcore]
    exact id
  · rw [hcore]
    exact attaching_update (fun hc => absurd hc hpc) d hd
  · rw [hcore]
    exact id
  · rw [hprewarms]
    exact fun _ hp => hp

private theorem pump {w w' : World Priv} (h : WarmGuarded w) {a : Action Priv} {n : SessionId}
    (hallowed : DetachesArmed w a) (hsteps : PumpSteps crypto n w a w') : WarmGuarded w' := by
  have hframe := hsteps.frame
  refine h.same (hframe.alive hsteps.not_done) (fun hg => ?_) hframe.prewarms hframe.lock
  refine hg.mono ?_ hframe.closers.ge ?_ ?_
  · rw [World.Armed, World.Armed, hframe.closeHandle, hframe.timers]
    exact id
  · rw [hframe.clients]
    exact fun c hc => .inl hc
  · cases hsteps with
    | starts | ends | feeds | resumes | breaks | cancelled => exact id
    | produces lan decoder =>
      rw [pumpChunk_writer]
      exact id
    | detaches lan decoder c hpc hwriter => exact (hallowed hwriter).elim

end WarmGuarded

/-- Nothing pumps while a session is closed. -/
private theorem pumpTask_of_closing {w : World Priv} (hcoherent : Coherent w.lock w.toCore)
    (hlock : ClosingLan w.lock) : w.pumpTask = none := by
  refine (hcoherent.pumpTask_eq ?_).trans (hcoherent.detached hlock)
  intro hpump
  cases hholder : w.lock with
  | none =>
    rw [hholder] at hlock
    exact hlock
  | some x =>
    rw [hholder] at hlock hpump
    cases x with
    | awaitingPump => exact hlock
    | _ => exact hpump

private theorem warm_next {w : World Priv} (hcoherent : Coherent w.lock w.toCore)
    (h : WarmGuarded w) {a : Action Priv} (hallowed : DetachesArmed w a) (ha : a.Enabled w) :
    WarmGuarded (a.next crypto w) := by
  have houtcome : Outcome crypto w a (a.next crypto w) := next_outcome ha
  generalize a.next crypto w = w' at houtcome ⊢
  cases houtcome with
  | outside ho => exact h.outside ho
  | asyncPrewarm p =>
    refine ⟨h.guarded, fun q hq => ?_, h.opener⟩
    rcases List.mem_cons.mp hq with rfl | hq
    · exact hallowed
    · exact h.prewarms q hq
  | stopEnter | closeTearsDown | openingFails => exact h.teardown fun _ hp => hp
  | prewarmRenews p host related hlock hp halive stats handle timers next harmed =>
    exact ⟨fun _ => .inl (harmed (h.prewarms p hp)),
      fun q hq => h.prewarms q (List.mem_of_mem_erase hq), h.opener⟩
  | prewarmSpinsUp p host related hlock hp hidle =>
    refine h.spinUp hidle ?_ fun q hq => List.mem_of_mem_erase hq
    intro _ heq
    cases heq
    exact h.prewarms p hp
  | keyFetched o host related key hlock => exact h.opens rfl id rfl hlock rfl rfl
  | lanStarts o n priv hlock => exact h.opens rfl id rfl hlock rfl rfl
  | prewarmAttaches p n hlock handle timers next harmed =>
    exact ⟨fun _ => .inl (harmed (h.opener _ p hlock rfl)), h.prewarms, by simp⟩
  | clientAttaches c n hlock =>
    refine ⟨fun _ => .inr (.inr (.inl ⟨c, ?_⟩)), h.prewarms, by simp⟩
    change (Function.update w.clients c .awaitingKeyframe c).Attaching
    rw [Function.update_self]
    trivial
  | pumpJoined k n hlock =>
    obtain ⟨htask, hlan, _⟩ := hcoherent.awaiting k n hlock
    rw [teardownDetach, hlan]
    exact h.closed htask (fun _ hp => hp) (by rintro _ ⟨⟩; rfl)
  | lanClose k n hlock =>
    have htask := pumpTask_of_closing hcoherent (by rw [hlock]; trivial)
    exact h.closed htask (fun _ hp => hp) (by rintro _ ⟨⟩; rfl)
  | lanClosed k n hlock =>
    have htask := pumpTask_of_closing hcoherent (by rw [hlock]; trivial)
    rw [teardownReturn_eq]
    exact h.closed htask (fun _ hp => hp) fun _ hx => opener?_after hx
  | connect =>
    have hfresh := hcoherent.clientsFresh w.nextClient le_rfl
    exact h.unattached (by rw [hfresh]; exact id) rfl id le_rfl rfl (.inl rfl)
  | clientBursts c => exact h.clientBursts c rfl rfl
  | clientSpinsUp c host related hlock hpc hidle => exact h.spinUp hidle (by simp) fun _ hp => hp
  | clientRejected c hlock =>
    have hopening := hcoherent.opening _ c hlock rfl
    exact h.unattached (by rw [hopening]; exact id) rfl id le_rfl rfl (.inr (by simp))
  | handlerMoves c pc closing hmoves => exact h.handlerMoves hallowed hmoves closing
  | clientSnapshot c => exact h.clientSnapshot c
  | clientRegister c => exact h.same id (fun _ => .inr (.inr (.inr (by rintro ⟨⟩)))) rfl rfl
  | clientDetaches c hlock hpc hwriter t next timers observed harmed =>
    exact ⟨fun _ => .inl ⟨t, rfl, harmed⟩, h.prewarms, h.opener⟩
  | timerFires t => exact h.same id (fun _ => .inr (.inl (Nat.succ_pos _))) rfl rfl
  | closeSpares hlock hclosers hspares =>
    refine ⟨fun halive => ?_, h.prewarms, h.opener⟩
    refine .inr (.inr (.inr (hspares.resolve_right fun hidle => ?_)))
    rw [show w.isPumpAlive = true from halive] at hidle
    cases hidle
  | pump n hsteps => exact h.pump hallowed hsteps

/-- No orphaned session: whenever the lock is free, a live pump without a handler has a pending
close timer or a queued close task, in every run whose prewarms hold for a positive time and
whose viewers detach on the exits that arm the timer. -/
theorem live_session_guarded {w : World Priv}
    (h : (relay crypto).ReachableUnder DetachesArmed w) (halive : w.isPumpAlive = true)
    (hhandlers : ∀ c, ¬ (w.clients c).Admitted) : w.Armed ∨ 0 < w.closers := by
  have hcoherent := coherent_of_reachable h
  have hwarm : WarmGuarded w :=
    relay_invariant
      (fun _ _ _ => ⟨by rintro ⟨⟩, fun _ hp => absurd hp List.not_mem_nil, by rintro _ _ ⟨⟩⟩)
      (fun w a hw hP hallowed ha => warm_next (coherent_of_reachable hw) hP hallowed ha) h
  rcases hwarm.guarded halive with harmed | hclosers | ⟨c, hc⟩ | hwriter
  · exact .inl harmed
  · exact .inr hclosers
  · exact absurd hc.admitted (hhandlers c)
  · obtain ⟨c, hc⟩ := Option.ne_none_iff_exists'.mp hwriter
    exact absurd (hcoherent.writer c hc).admitted (hhandlers c)

/-- A prewarm whose timer is pending. -/
theorem live_session_guarded_prewarmed :
    ∃ w : World Unit, (relay basePointCrypto).Reachable w ∧ w.isPumpAlive = true ∧
      (w.Armed ∨ 0 < w.closers) := by
  obtain ⟨w, hw, halive, hnone⟩ :
      ∃ w, (relay basePointCrypto).ReachableUnder DetachesArmed w ∧
        w.isPumpAlive = true ∧ w.nextClient = 0 :=
    ReachableUnder.of_replay (prewarmOpens 0) ⟨none, 1, by decide, rfl⟩ (by decide +kernel)
  have habsent (c : ClientId) : w.clients c = .absent :=
    (coherent_of_reachable hw).clientsFresh c (hnone ▸ Nat.zero_le c)
  refine ⟨w, hw.reachable, halive, live_session_guarded hw halive fun c => ?_⟩
  rw [habsent c]
  exact not_false

/-- A client attaches, the pump's write to it breaks first, and its handler finds itself
unregistered and arms nothing. -/
def brokenPipeRun : List (Action Unit) :=
  attachRun ++
    [.pumpRead 0 0 0 (.ok Cpd7.cameraBytes), .pumpDrained 0 0 0 0 .brokenPipe, .clientEof 0,
     .clientLeave 0, .clientClosed 0]

theorem not_live_session_guarded :
    ¬ ∀ w : World Unit, (relay basePointCrypto).Reachable w → w.lock = none →
      w.isPumpAlive = true → (∀ c, ¬ (w.clients c).Admitted) →
      w.closeHandle ≠ none ∨ 0 < w.closers := by
  intro hguarded
  obtain ⟨w, hw, hlock, halive, hnext, hdone, hhandle, hclosers⟩ :
      ∃ w, (relay basePointCrypto).Reachable w ∧ w.lock = none ∧ w.isPumpAlive = true ∧
        w.nextClient = 1 ∧ w.clients 0 = .done ∧ w.closeHandle = none ∧ w.closers = 0 :=
    ReachableUnder.of_replay brokenPipeRun ⟨none, 1, by decide, rfl⟩ (by decide +kernel)
  have hhandlers (c : ClientId) : ¬ (w.clients c).Admitted := by
    cases c with
    | zero =>
      rw [hdone]
      exact not_false
    | succ c =>
      rw [(coherent_of_reachable hw).clientsFresh (c + 1) (hnext ▸ Nat.le_add_left 1 c)]
      exact not_false
  rcases hguarded w hw hlock halive hhandlers with h | h
  · exact h hhandle
  · omega

def Served (w : World Priv) (c : ClientId) : Prop :=
  (w.clients c).Attaching ∨ w.writer = some c

/-- A close task gets the lock with the session live, nobody registered and a client between
its admission and its registration. -/
def ClosesUnderClient (w : World Priv) : Prop :=
  w.isPumpAlive = true ∧ w.writer = none ∧ ∃ c, (w.clients c).Attaching

def NoneAttaching (w : World Priv) : Prop := ∀ c < w.nextClient, ¬ (w.clients c).Attaching

instance (w : World Priv) : Decidable (NoneAttaching w) :=
  inferInstanceAs (Decidable (∀ c < w.nextClient, ¬ (w.clients c).Attaching))

theorem NoneAttaching.all {lock : Option Holder} {w : World Priv}
    (hcoherent : Coherent lock w.toCore) (h : NoneAttaching w) (c : ClientId) :
    ¬ (w.clients c).Attaching := by
  by_cases hc : c < w.nextClient
  · exact h c hc
  · rw [hcoherent.clientsFresh c (Nat.not_lt.mp hc)]
    exact not_false

/-- At an admission no fired or forgotten close timer is outstanding, and no timer is armed
while a client is attaching. -/
def AdmitsTimerFree (w : World Priv) : Action Priv → Prop
  | .clientEnter _ _ _ =>
    w.isPumpAlive = true → w.closers = 0 ∧ ∀ t ∈ w.timers, w.closeHandle = some t
  | .lanStarted (.client _) _ => w.closers = 0 ∧ ∀ t ∈ w.timers, w.closeHandle = some t
  | .prewarmEnter _ _ _ | .lanStarted (.prewarm _) _ => NoneAttaching w
  | .clientLeave c => w.writer = some c → NoneAttaching w
  | _ => True

instance (w : World Priv) (a : Action Priv) : Decidable (AdmitsTimerFree w a) := by
  induction a using Action.casesOn with
  | lanStarted o n => induction o using Opener.casesOn <;> unfold AdmitsTimerFree <;> infer_instance
  | _ => unfold AdmitsTimerFree; infer_instance

def TimerFree (w : World Priv) : Prop :=
  (∃ c, (w.clients c).Attaching) → w.closers = 0 ∧ w.timers = []

namespace TimerFree

/-- A step with no new close timers and no new attaching clients. -/
theorem frame {w w' : World Priv} (h : TimerFree w) (hclosers : w'.closers = w.closers)
    (htimers : w.timers = [] → w'.timers = [])
    (hattaching : ∀ c, (w'.clients c).Attaching → (w.clients c).Attaching) : TimerFree w' := by
  intro hx
  obtain ⟨c, hc⟩ := hx
  obtain ⟨hnone, hempty⟩ := h ⟨c, hattaching c hc⟩
  exact ⟨hclosers.trans hnone, htimers hempty⟩

theorem vacuous {w : World Priv} (h : ∀ c, ¬ (w.clients c).Attaching) : TimerFree w :=
  fun ⟨c, hc⟩ => (h c hc).elim

theorem client {w : World Priv} (h : TimerFree w) {c : ClientId} {pc : ClientPc}
    (hpc : pc.Attaching → (w.clients c).Attaching) (closing : ClientId → Bool) :
    TimerFree
      { w with clients := Function.update w.clients c pc, transportClosing := closing } := by
  refine h.frame rfl id fun d hd => ?_
  by_cases hdc : d = c
  · subst hdc
    exact hpc (by simpa using hd)
  · simpa only [Function.update_of_ne hdc] using hd

theorem teardown {k : Closer} {w w' : World Priv} (h : TimerFree w)
    (hclosers : w'.closers = w.closers) (htimers : w'.timers = w.timers)
    (hattaching : ∀ c, (w'.clients c).Attaching → (w.clients c).Attaching) :
    TimerFree (teardownUpstream k w') := by
  obtain ⟨hc, hk, ht, _⟩ := teardownUpstream_timer k w'
  refine h.frame (hk.trans hclosers) (fun hempty => ?_) fun c hc' => hattaching c (hc ▸ hc')
  rw [ht]
  exact cancelClose_timers (by rw [htimers, hempty]; simp)

end TimerFree

private theorem timerFree_spinUp {o : Opener} {host related : String} {w w' : World Priv}
    (h : TimerFree w) (hclosers : w'.closers = w.closers) (htimers : w'.timers = w.timers)
    (hattaching : ∀ c, (w'.clients c).Attaching → (w.clients c).Attaching) :
    TimerFree (spinUpUpstream o host related w') := by
  unfold spinUpUpstream spinUpFailed
  split
  · exact h.teardown hclosers htimers hattaching
  · exact h.frame hclosers (fun hempty => htimers.trans hempty) hattaching

private theorem not_attaching_update {clients : ClientId → ClientPc} {c : ClientId}
    {pc : ClientPc} (hpc : ¬ pc.Attaching) (d : ClientId)
    (hd : (Function.update clients c pc d).Attaching) : (clients d).Attaching := by
  by_cases hdc : d = c
  · subst hdc
    rw [Function.update_self] at hd
    exact (hpc hd).elim
  · rwa [Function.update_of_ne hdc] at hd

private theorem timerFree_next {w : World Priv} (hcoherent : Coherent w.lock w.toCore)
    (h : TimerFree w) {a : Action Priv} (hallowed : AdmitsTimerFree w a) (ha : a.Enabled w) :
    TimerFree (a.next crypto w) := by
  have hleaves {c : ClientId} {pc : ClientPc} (hpc : ¬ pc.Attaching) (d : ClientId) :
      (Function.update w.clients c pc d).Attaching → (w.clients d).Attaching :=
    not_attaching_update hpc d
  have hnone (hclosers : 0 < w.closers) (c : ClientId) : ¬ (w.clients c).Attaching := fun hc =>
    absurd (h ⟨c, hc⟩).1 hclosers.ne'
  have houtcome : Outcome crypto w a (a.next crypto w) := next_outcome ha
  generalize a.next crypto w = w' at houtcome ⊢
  cases houtcome with
  | outside ho =>
    apply h.frame ho.closers (fun hempty => ho.timers.trans hempty)
    rw [ho.toCore]
    exact fun _ hc => hc
  | asyncPrewarm | keyFetched | lanStarts | lanClose => exact h.frame rfl id fun _ hc => hc
  | stopEnter | openingFails => exact h.teardown rfl rfl fun _ hc => hc
  | prewarmRenews => exact .vacuous (NoneAttaching.all hcoherent hallowed)
  | prewarmSpinsUp =>
    refine .vacuous ?_
    rw [spinUpUpstream_clients]
    exact NoneAttaching.all hcoherent hallowed
  | prewarmAttaches =>
    have hall := NoneAttaching.all hcoherent hallowed
    exact .vacuous hall
  | clientAttaches => exact fun _ => ⟨hallowed.1, cancelClose_timers hallowed.2⟩
  | pumpJoined k n hlock =>
    rw [teardownDetach, (hcoherent.awaiting k n hlock).2.1]
    exact h.frame rfl id fun _ hc => hc
  | lanClosed =>
    rw [teardownReturn_eq]
    exact h.frame rfl id fun _ hc => hc
  | connect => exact h.frame rfl id (hleaves (by simp [ClientPc.Attaching]))
  | clientBursts c host related hlock hpc halive =>
    obtain ⟨hclosers, htimers⟩ := hallowed halive
    obtain ⟨_, _, _, hw⟩ := writeBurst_eq c .awaitingKeyframe _
    rw [hw]
    exact fun _ => ⟨hclosers, cancelClose_timers htimers⟩
  | clientSpinsUp =>
    exact timerFree_spinUp h rfl rfl (hleaves (by simp [ClientPc.Attaching]))
  | clientRejected => exact h.frame rfl id (hleaves (by simp [ClientPc.Attaching]))
  | handlerMoves c pc closing hmoves => exact h.client hmoves.attaching closing
  | clientSnapshot c byEvent hlock hpc =>
    obtain ⟨pc, _, _, hw⟩ := writeBurst_eq c .awaitingRegister w
    rw [hw]
    have hclient : TimerFree { w with clients := Function.update w.clients c pc } :=
      h.client (fun _ => by rw [hpc]; trivial) w.transportClosing
    exact hclient.frame rfl id fun _ hc => hc
  | clientRegister => exact h.frame rfl id (hleaves (by simp [ClientPc.Attaching]))
  | clientDetaches c hlock hpc hwriter =>
    exact .vacuous fun d hd => NoneAttaching.all hcoherent (hallowed hwriter) d
      (hleaves (by simp [ClientPc.Attaching]) d hd)
  | timerFires t ht =>
    refine .vacuous fun c hc => ?_
    rw [(h ⟨c, hc⟩).2] at ht
    exact List.not_mem_nil ht
  | closeSpares hlock hclosers => exact .vacuous (hnone hclosers)
  | closeTearsDown hlock hclosers =>
    refine .vacuous ?_
    rw [(teardownUpstream_timer _ _).1]
    exact hnone hclosers
  | pump n hsteps =>
    have hframe := hsteps.frame
    apply h.frame hframe.closers (fun hempty => hframe.timers.trans hempty)
    rw [hframe.clients]
    exact fun _ hc => hc

/-- What a close task does: it takes a live session down exactly when nobody is registered. -/
private theorem maybeClose_tearsDown {w : World Priv} (halive : w.isPumpAlive = true) :
    (maybeCloseUpstream w).isPumpAlive = false ↔ w.writer = none := by
  unfold maybeCloseUpstream
  dsimp only
  cases hwriter : w.writer with
  | none =>
    rw [if_neg (by simp), if_pos halive]
    refine ⟨fun _ => rfl, fun _ => ?_⟩
    rw [Core.isPumpAlive, teardownUpstream_pumpTask]
    rfl
  | some c =>
    rw [if_pos (by simp)]
    refine ⟨fun hdead => ?_, by simp⟩
    have hsame : w.isPumpAlive = false := hdead
    rw [halive] at hsame
    cases hsame

/-- A close task takes the session down under an admitted client exactly when it gets the lock
before that client has registered. It never does in runs whose admissions leave no close timer
outstanding and that arm none while a client is attaching. -/
theorem close_spares_clients :
    (∀ w w' : World Priv, (relay crypto).Reachable w →
      (relay crypto).step .maybeCloseUpstream w = some w' →
      ((w.isPumpAlive = true ∧ w'.isPumpAlive = false ∧ ∃ c, Served w c) ↔
        ClosesUnderClient w)) ∧
    ∀ w w' : World Priv, (relay crypto).ReachableUnder AdmitsTimerFree w →
      (relay crypto).step .maybeCloseUpstream w = some w' →
      w.isPumpAlive = true → w'.isPumpAlive = false → ∀ c, ¬ Served w c := by
  constructor
  · intro w w' _ hstep
    obtain ⟨_, rfl⟩ := relay_step.mp hstep
    constructor
    · intro hx
      obtain ⟨halive, hdead, c, hserved⟩ := hx
      have hwriter := (maybeClose_tearsDown halive).mp hdead
      refine ⟨halive, hwriter, c, hserved.resolve_right ?_⟩
      rw [hwriter]
      intro heq
      cases heq
    · intro hx
      obtain ⟨halive, hwriter, c, hc⟩ := hx
      exact ⟨halive, (maybeClose_tearsDown halive).mpr hwriter, c, .inl hc⟩
  · intro w w' hw hstep halive hdead c hserved
    obtain ⟨⟨_, hclosers⟩, rfl⟩ := relay_step.mp hstep
    have hwriter := (maybeClose_tearsDown halive).mp hdead
    have htimerFree : TimerFree w := relay_invariant (fun _ _ _ => .vacuous fun _ => id)
      (fun _ _ hw hP hallowed ha => timerFree_next (coherent_of_reachable hw) hP hallowed ha) hw
    rcases hserved with hc | hc
    · exact absurd (htimerFree ⟨c, hc⟩).1 hclosers.ne'
    · rw [hwriter] at hc
      cases hc

/-- The warm window of a prewarm ends with nobody attached. -/
theorem close_spares_clients_expired :
    ∃ w w' : World Unit, (relay basePointCrypto).step .maybeCloseUpstream w = some w' ∧
      w.isPumpAlive = true ∧ w'.isPumpAlive = false ∧ ¬ ClosesUnderClient w ∧
      ∀ c, ¬ Served w c := by
  obtain ⟨w, hw, henabled, halive, hdead⟩ :
      ∃ w : World Unit, (relay basePointCrypto).ReachableUnder AdmitsTimerFree w ∧
        Action.Enabled w .maybeCloseUpstream ∧ w.isPumpAlive = true ∧
        (Action.next basePointCrypto w .maybeCloseUpstream).isPumpAlive = false :=
    ReachableUnder.of_replay (prewarmOpens 0 ++ [.timerFires 0]) ⟨none, 1, by decide, rfl⟩
      (by decide +kernel)
  have hstep : (relay basePointCrypto).step .maybeCloseUpstream w = some _ :=
    relay_step.mpr ⟨henabled, rfl⟩
  have hnone := close_spares_clients.2 w _ hw hstep halive hdead
  refine ⟨w, _, hstep, halive, hdead, fun hcloses => ?_, hnone⟩
  obtain ⟨_, _, c, hc⟩ :=
    (close_spares_clients.1 w _ hw.reachable hstep).mpr hcloses
  exact hnone c hc

def ConnectsAlone (w : World Priv) : Action Priv → Prop
  | .connect => ∀ c < w.nextClient, w.clients c = .done
  | _ => True

instance (w : World Priv) (a : Action Priv) : Decidable (ConnectsAlone w a) := by
  induction a using Action.casesOn <;> unfold ConnectsAlone <;> infer_instance

/-- The timer fires, the first client of all is admitted and waits for the keyframe, and then
the fired close task gets the lock. -/
theorem not_close_spares_clients :
    ¬ ∀ w w' : World Unit, (relay basePointCrypto).ReachableUnder ConnectsAlone w →
      (relay basePointCrypto).step .maybeCloseUpstream w = some w' →
      w.isPumpAlive = true → w'.isPumpAlive = false →
      ∀ c, w.clients c ≠ .awaitingKeyframe := by
  intro hspares
  obtain ⟨w, hw, henabled, halive, hdead, hwaiting⟩ :
      ∃ w : World Unit, (relay basePointCrypto).ReachableUnder ConnectsAlone w ∧
        Action.Enabled w .maybeCloseUpstream ∧ w.isPumpAlive = true ∧
        (Action.next basePointCrypto w .maybeCloseUpstream).isPumpAlive = false ∧
        w.clients 0 = .awaitingKeyframe :=
    ReachableUnder.of_replay
      ([.asyncStart, .serverBound (some 40000)] ++ prewarmOpens 0 ++
        [.timerFires 0, .connect, .clientEnter 0 "192.168.1.20" "Q01"])
      ⟨none, 1, by decide, rfl⟩ (by decide +kernel)
  exact hspares w _ hw (relay_step.mpr ⟨henabled, rfl⟩) halive hdead 0 hwaiting

end EzvizHp7.Relay
