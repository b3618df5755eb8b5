import EzvizHp7.Relay.Coherence

/-!
# The state listener

The camera entity pulls `has_active_viewer` and `is_warm` when the relay tells it to. `is_warm`
changes in the spin-up and the teardown, which tell the listener, and when the pump task ends by
itself, which does not.
-/

namespace EzvizHp7.Relay

open Cpd7 (Bytes Crypto basePointCrypto)
open Transition System World

variable {Priv Pub : Type} {crypto : Crypto Priv Pub}

def World.visible (w : World Priv) : Bool × Bool := (w.hasActiveViewer, w.isWarm)

/-- `set_state_listener`, with the pair at the registration for the one before any call. -/
def World.register (w : World Priv) : World Priv :=
  { w with stateListener := true, observed := some w.visible }

def Action.SetsListener : Action Priv → Prop
  | .setStateListener _ => True
  | _ => False

instance (a : Action Priv) : Decidable a.SetsListener := by
  induction a using Action.casesOn <;> unfold Action.SetsListener <;> infer_instance

/-- The relay from the registration of a listener on, which stays registered. -/
def watchedRelay (crypto : Crypto Priv Pub) : System (World Priv) (Action Priv) where
  init w := ∃ w₀, (relay crypto).Reachable w₀ ∧ w = w₀.register
  step a w := if a.SetsListener then none else (relay crypto).step a w

/-- The pump does not end by itself: the camera neither closes the stream nor falls silent for
the read timeout, and neither the read nor the drain raises. -/
def PumpGoesOn : Action Priv → Prop
  | .pumpRead _ _ _ (.ok (_ :: _)) => True
  | .pumpRead _ _ _ _ => False
  | .pumpDrained _ _ _ _ drained => drained ≠ .raised
  | _ => True

instance (a : Action Priv) : Decidable (PumpGoesOn a) := by
  induction a using Action.casesOn with
  | pumpRead n lan decoder raw =>
    induction raw using Except.casesOn with
    | error => exact .isFalse not_false
    | ok raw =>
      induction raw using List.casesOn with
      | nil => exact .isFalse not_false
      | cons => exact .isTrue trivial
  | _ =>
    unfold PumpGoesOn
    infer_instance

private theorem watchedRelay_step {a : Action Priv} {w w' : World Priv} :
    (watchedRelay crypto).step a w = some w' ↔
      ¬ a.SetsListener ∧ a.Enabled w ∧ a.next crypto w = w' := by
  unfold watchedRelay
  dsimp only
  split
  · simp_all
  · rw [relay_step]
    simp_all

/-- `_teardown_upstream` has dropped the pump task and not told the listener yet. -/
def TearingDown : Option Holder → Prop
  | some (.awaitingPump _ _) | some (.closingLan _ _) | some (.closedLan _ _) => True
  | _ => False

structure Watched (w : World Priv) : Prop where
  registered : w.stateListener = true
  shown : ¬ TearingDown w.lock → w.observed = some w.visible

namespace Watched

variable {w w' : World Priv}

private theorem keep (h : Watched w) (hregistered : w'.stateListener = w.stateListener)
    (hlock : w'.lock = w.lock) (hobserved : w'.observed = w.observed)
    (hvisible : w'.visible = w.visible) : Watched w' := by
  constructor
  · rw [hregistered]
    exact h.registered
  · rw [hlock, hobserved, hvisible]
    exact h.shown

private theorem notify (h : w.stateListener = true) :
    (notifyStateChange w).observed = some w.visible := by
  simp only [notifyStateChange, h, if_true, visible]

private theorem handBack (h : w.stateListener = true) (k : Closer) :
    Watched (teardownReturn k (notifyStateChange w)) := by
  rw [teardownReturn_eq]
  exact ⟨h, fun _ => notify h⟩

private theorem detach (h : w.stateListener = true) (k : Closer) :
    Watched (teardownDetach k w) := by
  unfold teardownDetach
  dsimp only
  split
  · exact ⟨h, fun hnot => absurd trivial hnot⟩
  · apply handBack
    exact h

private theorem teardown (h : w.stateListener = true) (k : Closer) :
    Watched (teardownUpstream k w) := by
  have hbegins := teardownUpstream_begins k w
  generalize teardownUpstream k w = w' at hbegins
  cases hbegins with
  | awaits | closes => exact ⟨h, fun hnot => absurd trivial hnot⟩
  | returns =>
    apply handBack
    exact h

private theorem spinUpFails (h : w.stateListener = true) (o : Opener) (e : String) :
    Watched (spinUpFailed o e w) := by
  apply teardown
  exact h

private theorem spinUp (h : Watched w) (hlock : w.lock = none) (o : Opener)
    (host related : String) : Watched (spinUpUpstream o host related w) := by
  unfold spinUpUpstream
  split
  · exact spinUpFails h.registered o _
  · exact ⟨h.registered, fun _ => h.shown (by rw [hlock]; exact id)⟩

private theorem relock (h : Watched w) (hlock : ¬ TearingDown w.lock)
    (hregistered : w'.stateListener = w.stateListener) (hobserved : w'.observed = w.observed)
    (hvisible : w'.visible = w.visible) : Watched w' := by
  constructor
  · rw [hregistered]
    exact h.registered
  · rw [hobserved, hvisible]
    exact fun _ => h.shown hlock

end Watched

private theorem isWarm_update {w : Core Priv} {n : SessionId} (pc : PumpPc)
    (hpc : w.pumps n ≠ .done) (hpc' : pc ≠ .done) :
    { w with pumps := Function.update w.pumps n pc }.isWarm = w.isWarm := by
  unfold Core.isWarm Core.isPumpAlive
  dsimp only
  cases w.pumpTask with
  | none => rfl
  | some m =>
    by_cases hm : m = n
    · subst hm
      simp [hpc, hpc']
    · simp [Function.update_of_ne hm]

private theorem rescheduleClose_watched {w : World Priv} (h : Watched w) (seconds : Rat) :
    Watched (rescheduleClose seconds w) := by
  obtain ⟨_, _, _, _, heq⟩ := rescheduleClose_eq seconds w
  rw [heq]
  exact h.keep rfl rfl rfl rfl

private theorem writeBurst_watched {w : World Priv} (h : Watched w) (c : ClientId) (pc : ClientPc) :
    Watched (writeBurst c pc w) := by
  obtain ⟨_, _, _, heq⟩ := writeBurst_eq c pc w
  rw [heq]
  exact h.keep rfl rfl rfl rfl

private theorem keyFetched_watched {w : World Priv} (h : Watched w) {o : Opener}
    (hlock : ¬ TearingDown w.lock) (key : Except String Bytes) :
    Watched (keyFetched o key w) := by
  unfold keyFetched
  split
  · exact .spinUpFails h.registered o _
  · split
    · exact .spinUpFails h.registered o _
    · exact h.relock hlock rfl rfl rfl

private theorem lanStart_watched {w : World Priv} (h : Watched w) {o : Opener} {n : SessionId}
    (hlock : ¬ TearingDown w.lock) (priv : Except String Priv) :
    Watched (lanStart o n priv w) := by
  unfold lanStart
  split
  · exact .spinUpFails h.registered o _
  · exact h.relock hlock rfl rfl rfl

private theorem lanStarted_watched {w : World Priv} (h : Watched w) (o : Opener) (n : SessionId) :
    Watched (lanStarted o n w) := by
  have hshown : (attachSession n w).observed = some (attachSession n w).visible :=
    Watched.notify h.registered
  cases o with
  | prewarm p =>
    unfold lanStarted
    dsimp only
    obtain ⟨_, _, _, _, heq⟩ := rescheduleClose_eq p.holdSeconds (attachSession n w)
    rw [heq]
    exact ⟨h.registered, fun _ => hshown⟩
  | client c => exact ⟨h.registered, fun _ => hshown⟩

private theorem prewarmEnter_watched {w : World Priv} (h : Watched w) (hlock : w.lock = none)
    (p : Prewarm) (host related : String) : Watched (prewarmEnter p host related w) := by
  unfold prewarmEnter
  dsimp only
  split
  · apply rescheduleClose_watched
    exact h.keep rfl rfl rfl rfl
  · apply Watched.spinUp
    · exact h.keep rfl rfl rfl rfl
    · exact hlock

private theorem clientEnter_watched {w : World Priv} (h : Watched w) (hlock : w.lock = none)
    (c : ClientId) (host related : String) : Watched (clientEnter c host related w) := by
  unfold clientEnter
  split
  · apply writeBurst_watched
    exact h.keep rfl rfl rfl rfl
  · apply Watched.spinUp
    · exact h.keep rfl rfl rfl rfl
    · exact hlock

private theorem clientLeave_watched {w : World Priv} (h : Watched w) (c : ClientId) :
    Watched (clientLeave c w) := by
  unfold clientLeave
  dsimp only
  split
  · obtain ⟨_, _, _, _, heq⟩ := rescheduleClose_eq postClientGraceSeconds { w with writer := none }
    rw [heq]
    exact ⟨h.registered, fun _ => Watched.notify h.registered⟩
  · exact h.keep rfl rfl rfl rfl

private theorem maybeCloseUpstream_watched {w : World Priv} (h : Watched w) :
    Watched (maybeCloseUpstream w) := by
  unfold maybeCloseUpstream
  dsimp only
  split
  · exact h.keep rfl rfl rfl rfl
  · split
    · apply Watched.teardown
      exact h.registered
    · exact h.keep rfl rfl rfl rfl

private theorem lanClosed_watched {w : World Priv} (h : Watched w) (k : Closer) :
    Watched (lanClosed k w) := by
  unfold lanClosed
  dsimp only
  split
  · apply Watched.handBack
    exact h.registered
  · apply Watched.handBack
    exact h.registered

private theorem pumpChunk_watched {w : World Priv} (h : Watched w) {n : SessionId}
    (hpc : w.pumps n ≠ .done) (lan decoder : SessionId) (plain : Bytes) :
    Watched (pumpChunk n lan decoder plain w) := by
  have hreading := isWarm_update (.reading lan decoder) hpc nofun
  unfold pumpChunk
  dsimp only
  split
  · rename_i c _
    split
    · exact h.keep rfl rfl rfl (congrArg (Prod.mk _) hreading)
    · have hdraining := isWarm_update (.draining lan decoder c) hpc nofun
      exact h.keep rfl rfl rfl (congrArg (Prod.mk _) hdraining)
  · exact h.keep rfl rfl rfl (congrArg (Prod.mk _) hreading)

private theorem pumpStart_watched {w : World Priv} (hcoherent : Coherent w.lock w.toCore)
    (h : Watched w) {n : SessionId} (hpc : w.pumps n = .created) : Watched (pumpStart n w) := by
  have hlan : w.lan = some n := hcoherent.lan_of_running (by rw [hpc]; trivial)
  have hreading := isWarm_update (w := w.toCore) (n := n) (.reading n n) (by simp [hpc]) nofun
  simp only [pumpStart, hlan, hcoherent.decoder_eq]
  exact h.keep rfl rfl rfl (congrArg (Prod.mk _) hreading)

private theorem pumpRead_watched {w : World Priv} (hcoherent : Coherent w.lock w.toCore)
    (h : Watched w) {n lan decoder : SessionId} (hpc : w.pumps n = .reading lan decoder)
    (b : UInt8) (raw : Bytes) :
    Watched (pumpRead crypto n lan decoder (.ok (b :: raw)) w) := by
  have hlan : w.lan = some n := hcoherent.lan_of_running (by rw [hpc]; trivial)
  have howns := hcoherent.owns n
  rw [hpc] at howns
  obtain ⟨rfl, rfl⟩ := howns
  obtain ⟨_, d, hd, _⟩ := hcoherent.key _ hlan
  obtain ⟨d', hfeed⟩ : ∃ d', Cpd7.feed crypto Cpd7.absorbPlain d (b :: raw) = .ok d' :=
    ⟨_, Cpd7.feed_eq ..⟩
  simp only [pumpRead, hd, Option.map_some, hfeed]
  split
  · exact h.keep rfl rfl rfl rfl
  · apply pumpChunk_watched
    · exact h.keep rfl rfl rfl rfl
    · simp [hpc]

private theorem pumpDrained_watched {w : World Priv} (h : Watched w) {n lan decoder : SessionId}
    {c : ClientId} (hpc : w.pumps n = .draining lan decoder c) {drained : Drained}
    (hgoes : drained ≠ .raised) : Watched (pumpDrained n lan decoder c drained w) := by
  have hreading := isWarm_update (w := w.toCore) (n := n) (.reading lan decoder) (by simp [hpc])
    nofun
  cases drained with
  | ok => exact h.keep rfl rfl rfl (congrArg (Prod.mk _) hreading)
  | brokenPipe =>
    unfold pumpDrained
    dsimp only
    split
    · exact ⟨h.registered, fun _ => Watched.notify h.registered⟩
    · exact h.keep rfl rfl rfl (congrArg (Prod.mk _) hreading)
  | raised => exact absurd rfl hgoes

private theorem watched_next {w : World Priv} (hcoherent : Coherent w.lock w.toCore)
    (h : Watched w) {a : Action Priv} (hlistens : ¬ a.SetsListener) (hgoes : PumpGoesOn a)
    (ha : a.Enabled w) : Watched (a.next crypto w) := by
  cases a with
  | setStateListener => exact absurd trivial hlistens
  | serverBound | serverFailed | serverClosed | asyncPrewarm | connect | keyframeWaited
  | clientEof | clientClosed | transportLost | timerFires | clockAdvances =>
    exact h.keep rfl rfl rfl rfl
  | asyncStart =>
    change Watched (asyncStart w)
    unfold asyncStart
    split <;> exact h.keep rfl rfl rfl rfl
  | asyncStop =>
    change Watched (asyncStop w)
    unfold asyncStop
    split
    · exact h
    · exact h.keep rfl rfl rfl rfl
  | stopEnter =>
    apply Watched.teardown
    exact h.registered
  | prewarmEnter p host related => exact prewarmEnter_watched h ha.1 p host related
  | keyFetched o host related key =>
    exact keyFetched_watched h (by rw [show w.lock = _ from ha]; exact id) key
  | lanStart o n priv =>
    exact lanStart_watched h (by rw [show w.lock = _ from ha]; exact id) priv
  | lanStarted o n => exact lanStarted_watched h o n
  | pumpJoined k n => exact .detach h.registered k
  | lanClose => exact ⟨h.registered, fun hnot => absurd trivial hnot⟩
  | lanClosed k => exact lanClosed_watched h k
  | clientEnter c host related => exact clientEnter_watched h ha.1 c host related
  | clientRejected c =>
    have hlock : w.lock = some (.rejecting c) := ha
    exact h.relock (by rw [hlock]; exact id) rfl rfl rfl
  | clientSnapshot c => exact writeBurst_watched h c _
  | clientFlushed c ok =>
    cases ok with
    | true => exact h.keep rfl rfl rfl rfl
    | false => exact h.keep rfl rfl rfl rfl
  | clientRegister c => exact ⟨h.registered, fun _ => Watched.notify h.registered⟩
  | clientLeave c => exact clientLeave_watched h c
  | maybeCloseUpstream => exact maybeCloseUpstream_watched h
  | pumpStart n => exact pumpStart_watched hcoherent h ha
  | pumpRead n lan decoder raw =>
    match raw, hgoes with
    | .ok (b :: raw), _ => exact pumpRead_watched hcoherent h ha b raw
  | pumpDrained n lan decoder c drained => exact pumpDrained_watched h ha hgoes
  | pumpCancelled n =>
    obtain ⟨k, hlock⟩ := hcoherent.cancelling n ha
    refine ⟨h.registered, fun hnot => absurd ?_ hnot⟩
    change TearingDown w.lock
    rw [hlock]
    trivial

private theorem rejecting_next {w : World Priv} (hcoherent : Coherent w.lock w.toCore)
    (h : ∀ c, w.lock = some (.rejecting c) → w.pumpTask = none) {a : Action Priv}
    (ha : a.Enabled w) {c : ClientId}
    (hlock : (a.next crypto w).lock = some (.rejecting c)) : (a.next crypto w).pumpTask = none := by
  have houtcome : Outcome crypto w a (a.next crypto w) := next_outcome ha
  generalize a.next crypto w = w' at houtcome hlock ⊢
  cases houtcome with
  | outside ho =>
    rw [ho.toCore]
    exact h c (ho.lock ▸ hlock)
  | asyncPrewarm | prewarmRenews | connect | handlerMoves | clientRegister | clientDetaches
  | timerFires | closeSpares => exact h c hlock
  | stopEnter | closeTearsDown | openingFails => exact teardownUpstream_pumpTask _ _
  | prewarmSpinsUp | clientSpinsUp =>
    unfold spinUpUpstream at hlock ⊢
    split
    · exact teardownUpstream_pumpTask _ _
    · rename_i haddress
      rw [haddress] at hlock
      cases hlock
  | keyFetched | lanStarts | lanClose | prewarmAttaches | clientAttaches | clientRejected =>
    cases hlock
  | pumpJoined k n hwaiting =>
    rw [teardownDetach, (hcoherent.awaiting k n hwaiting).2.1] at hlock
    cases hlock
  | lanClosed k n hclosed =>
    rw [teardownReturn_eq]
    change w.pumpTask = none
    rw [hcoherent.pumpTask_eq (by rw [hclosed]; exact id)]
    exact hcoherent.detached (by rw [hclosed]; trivial)
  | clientBursts _ _ _ hfree =>
    rw [writeBurst_lock] at hlock
    have hheld : w.lock = some (.rejecting c) := hlock
    rw [hfree] at hheld
    cases hheld
  | clientSnapshot _ _ hfree =>
    rw [writeBurst_lock, hfree] at hlock
    cases hlock
  | pump n hsteps =>
    rw [hsteps.frame.pumpTask]
    exact h c (hsteps.frame.lock ▸ hlock)

private theorem rejecting_of_reachable {w : World Priv} (h : (relay crypto).Reachable w) :
    ∀ c, w.lock = some (.rejecting c) → w.pumpTask = none := by
  apply relay_invariant (P := fun w : World Priv =>
    ∀ c, w.lock = some (.rejecting c) → w.pumpTask = none) ?_ ?_ h
  · exact fun _ _ _ _ hc => absurd hc nofun
  · exact fun w a hw hP _ ha _ hc => rejecting_next (coherent_of_reachable hw) hP ha hc

private structure Tracked (w : World Priv) : Prop where
  coherent : Coherent w.lock w.toCore
  rejecting : ∀ c, w.lock = some (.rejecting c) → w.pumpTask = none
  watched : Watched w

private theorem tracked_of_reachable {w : World Priv}
    (h : (watchedRelay crypto).ReachableUnder (fun _ a => PumpGoesOn a) w) : Tracked w := by
  apply h.invariant (P := Tracked)
  · intro w hw
    obtain ⟨w₀, hw₀, rfl⟩ := hw
    exact ⟨coherent_of_reachable (w := w₀) hw₀, rejecting_of_reachable (w := w₀) hw₀, rfl,
      fun _ => rfl⟩
  · intro w a w' _ hP hgoes hstep
    obtain ⟨hlistens, ha, rfl⟩ := watchedRelay_step.mp hstep
    exact ⟨coherent_next hP.coherent ha, fun c hc => rejecting_next hP.coherent hP.rejecting ha hc,
      watched_next hP.coherent hP.watched hlistens hgoes ha⟩

/-- A running pump leaves nobody at the lock's other phases. -/
private theorem lock_free {w : World Priv} (h : Tracked w) {n : SessionId}
    (hn : (w.pumps n).Running) : w.lock = none := by
  have htask := h.coherent.running n hn
  have hlan := h.coherent.lan_of_running hn
  cases hlock : w.lock with
  | none => rfl
  | some x =>
    exfalso
    cases x with
    | fetchingKey | starting | started =>
      exact h.coherent.idle (by rw [hlock]; trivial) n hn
    | awaitingPump k m =>
      have := (h.coherent.awaiting k m hlock).1
      rw [htask] at this
      cases this
    | closingLan | closedLan =>
      have := h.coherent.detached (by rw [hlock]; trivial)
      rw [hlan] at this
      cases this
    | rejecting c =>
      have := h.rejecting c hlock
      rw [htask] at this
      cases this

/-- The task is done, and the listener still has the pair from before. -/
private theorem ended_unnoticed {w w' : World Priv} (h : Tracked w) {n : SessionId}
    (hn : (w.pumps n).Running) (hlock : w'.lock = w.lock) (hobserved : w'.observed = w.observed)
    (htask : w'.pumpTask = w.pumpTask) (hdone : w'.pumps n = .done) :
    w'.lock = none ∧ w'.observed ≠ some w'.visible := by
  have hfree := lock_free h hn
  have hsome := h.coherent.running n hn
  have hwarm : w.isWarm = true := by
    refine (isPumpAlive_iff _).mpr ⟨n, hsome, fun hd => ?_⟩
    rw [hd] at hn
    exact hn
  have hcold : w'.isWarm = false := by
    simp [Core.isWarm, Core.isPumpAlive, htask, hsome, hdone]
  refine ⟨hlock.trans hfree, ?_⟩
  rw [hobserved, h.watched.shown (by rw [hfree]; exact id)]
  simp [visible, hwarm, hcold]

private theorem pumpEnd_unnoticed {w : World Priv} (h : Tracked w) {a : Action Priv}
    (ha : a.Enabled w) (hends : ¬ PumpGoesOn a) :
    (a.next crypto w).lock = none ∧
      (a.next crypto w).observed ≠ some (a.next crypto w).visible := by
  cases a with
  | pumpRead n lan decoder raw =>
    have hn : (w.pumps n).Running := by
      rw [show w.pumps n = _ from ha]
      trivial
    match raw with
    | .error _ | .ok [] => exact ended_unnoticed h hn rfl rfl rfl (Function.update_self ..)
    | .ok (_ :: _) => exact absurd trivial hends
  | pumpDrained n lan decoder c drained =>
    have hn : (w.pumps n).Running := by
      rw [show w.pumps n = _ from ha]
      trivial
    obtain rfl : drained = .raised := not_not.mp hends
    exact ended_unnoticed h hn rfl rfl rfl (Function.update_self ..)
  | _ => exact absurd trivial hends

/-- As long as the pump does not end by itself the listener has seen the current pair whenever
the lock is free; where it does, the lock is free and the pair is not what the listener saw. -/
theorem listener_complete (crypto : Crypto Priv Pub) :
    (∀ w : World Priv, (watchedRelay crypto).ReachableUnder (fun _ a => PumpGoesOn a) w →
      w.lock = none → w.observed = some (w.hasActiveViewer, w.isWarm)) ∧
    ∀ (w w' : World Priv) (a : Action Priv),
      (watchedRelay crypto).ReachableUnder (fun _ a => PumpGoesOn a) w →
      (watchedRelay crypto).step a w = some w' → ¬ PumpGoesOn a →
      w'.lock = none ∧ w'.observed ≠ some (w'.hasActiveViewer, w'.isWarm) := by
  constructor
  · intro w hw hlock
    exact (tracked_of_reachable hw).watched.shown (by rw [hlock]; exact id)
  · intro w w' a hw hstep hends
    obtain ⟨_, ha, rfl⟩ := watchedRelay_step.mp hstep
    exact pumpEnd_unnoticed (tracked_of_reachable hw) ha hends

theorem listener_complete_prewarmed :
    ∃ w : World Unit, (watchedRelay basePointCrypto).Reachable w ∧
      w.observed = some (true, true) := by
  have hinit : (watchedRelay basePointCrypto).init (World.initial Unit none 1).register :=
    ⟨_, .init ⟨none, 1, by decide, rfl⟩, rfl⟩
  obtain ⟨w, hw, hlock, hviewer, hwarm⟩ :
      ∃ w, (watchedRelay basePointCrypto).ReachableUnder (fun _ a => PumpGoesOn a) w ∧
        w.lock = none ∧ w.hasActiveViewer = true ∧ w.isWarm = true :=
    ReachableUnder.of_replay attachRun hinit (by decide +kernel)
  have hshown := (listener_complete basePointCrypto).1 w hw hlock
  rw [hviewer, hwarm] at hshown
  exact ⟨w, hw.reachable, hshown⟩

/-- A viewer watches, and the camera closes the stream. -/
theorem not_listener_complete :
    ¬ ∀ w : World Unit, (watchedRelay basePointCrypto).Reachable w → w.lock = none →
      w.observed = some (w.hasActiveViewer, w.isWarm) := by
  intro hcomplete
  have hinit : (watchedRelay basePointCrypto).init (World.initial Unit none 1).register :=
    ⟨_, .init ⟨none, 1, by decide, rfl⟩, rfl⟩
  obtain ⟨w, hw, hlock, hobserved, hcold⟩ :
      ∃ w, (watchedRelay basePointCrypto).Reachable w ∧ w.lock = none ∧
        w.observed = some (true, true) ∧ w.isWarm = false :=
    ReachableUnder.of_replay (attachRun ++ [.pumpRead 0 0 0 (.ok [])]) hinit (by decide +kernel)
  have hshown := hcomplete w hw hlock
  rw [hobserved, hcold] at hshown
  simp at hshown

end EzvizHp7.Relay
