import EzvizHp7.Relay.Delivery
import EzvizHp7.Relay.PumpLog

/-!
# Viewers and the upstream

What the viewers of a session can do to its pump. A session is compared with every run of the
relay that nobody connects to and that reads the same raw chunks.
-/

namespace EzvizHp7.Relay

open Cpd7 (Bytes Crypto basePointCrypto cameraBytes)
open Transition System World

variable {Priv Pub : Type}

def NobodyConnects (_ : World Priv) (a : Action Priv) : Prop := a ≠ .connect

/-- No pump was ended by a viewer, a session has appended what one with the same raw chunks and
without viewers appends, and no viewer is registered that a write or a drain failed for. -/
structure UpstreamKept (crypto : Crypto Priv Pub) (s : World Priv × PumpLog) : Prop where
  ends : ∀ n cause, s.2.ended n = some cause → cause.Upstream
  alone : ∀ t, (loggedRelay crypto).ReachableUnder (fun t a => NobodyConnects t.1 a) t →
    ∀ m n, t.1.lanPriv m = s.1.lanPriv n → t.2.raws m = s.2.raws n →
      appended m t.1.produced = appended n s.1.produced ∧
        (t.1.lan = some m → s.1.lan = some n →
          t.1.buffer = s.1.buffer ∧ t.1.sessionBytes = s.1.sessionBytes)
  unregistered : ∀ c ∈ s.2.failed, s.1.writer ≠ some c

/-- The pump catches what the drain raises: a broken pipe or a reset. -/
def DrainsCaught (_ : World Priv) : Action Priv → Prop
  | .pumpDrained _ _ _ _ drained => drained ≠ .raised
  | _ => True

instance (w : World Priv) (a : Action Priv) : Decidable (DrainsCaught w a) := by
  induction a using Action.casesOn <;> unfold DrainsCaught <;> infer_instance

variable {crypto : Crypto Priv Pub} {w : World Priv} {a : Action Priv}

private theorem unregistered_next (hcoherent : Coherent w.lock w.toCore) (ha : a.Enabled w)
    {c : ClientId}
    (hc : ((a.next crypto w).clients c).Unregistered) : (w.clients c).Unregistered := by
  have hmove {c₀ : ClientId} {pc : ClientPc}
      (hpc : pc.Unregistered → (w.clients c₀).Unregistered)
      (hc : (Function.update w.clients c₀ pc c).Unregistered) : (w.clients c).Unregistered := by
    by_cases h : c = c₀
    · subst h
      rw [Function.update_self] at hc
      exact hpc hc
    · rwa [Function.update_of_ne h] at hc
  have houtcome : Outcome crypto w a (a.next crypto w) := next_outcome ha
  generalize a.next crypto w = w' at houtcome hc
  cases houtcome with
  | outside ho => rwa [ho.toCore] at hc
  | asyncPrewarm | prewarmRenews | keyFetched | lanStarts | lanClose | timerFires | closeSpares
  | prewarmAttaches => exact hc
  | stopEnter | closeTearsDown => rwa [(teardownUpstream_timer _ _).1] at hc
  | openingFails => rwa [spinUpFailed, (teardownUpstream_timer _ _).1] at hc
  | prewarmSpinsUp => rwa [spinUpUpstream_clients] at hc
  | clientSpinsUp c₀ host related hlock hpc =>
    rw [spinUpUpstream_clients] at hc
    exact hmove (fun _ => by rw [hpc]; trivial) hc
  | clientAttaches c₀ n hlock =>
    exact hmove (fun _ => by rw [hcoherent.opening _ c₀ hlock rfl]; trivial) hc
  | pumpJoined k n hlock =>
    rw [teardownDetach, (hcoherent.awaiting k n hlock).2.1] at hc
    exact hc
  | lanClosed k => rwa [teardownReturn_eq] at hc
  | connect =>
    exact hmove (fun _ => by rw [hcoherent.clientsFresh w.nextClient le_rfl]; trivial) hc
  | clientBursts c₀ host related hlock hpc =>
    obtain ⟨_, _, _, hw⟩ := writeBurst_eq c₀ .awaitingKeyframe _
    rw [hw] at hc
    exact hmove (fun _ => by rw [hpc]; trivial) hc
  | clientRejected c₀ => exact hmove False.elim hc
  | handlerMoves c₀ pc closing hmoves => exact hmove hmoves.unregistered hc
  | clientSnapshot c₀ byEvent hlock hpc =>
    obtain ⟨_, _, _, hw⟩ := writeBurst_eq c₀ .awaitingRegister w
    rw [hw] at hc
    exact hmove (fun _ => by rw [hpc]; trivial) hc
  | clientRegister c₀ hlock hpc => exact hmove False.elim hc
  | clientDetaches c₀ => exact hmove False.elim hc
  | pump n hsteps => rwa [hsteps.frame.clients] at hc

private theorem teardownUpstream_writer (k : Closer) (w : World Priv) :
    (teardownUpstream k w).writer = w.writer := by
  have hbegins := teardownUpstream_begins k w
  generalize teardownUpstream k w = w' at hbegins
  cases hbegins with
  | awaits | closes => rfl
  | returns =>
    rw [teardownReturn_eq]
    rfl

private theorem spinUpUpstream_writer (o : Opener) (host related : String) (w : World Priv) :
    (spinUpUpstream o host related w).writer = w.writer := by
  unfold spinUpUpstream spinUpFailed
  split
  · exact teardownUpstream_writer _ _
  · rfl

private theorem writer_next (hcoherent : Coherent w.lock w.toCore) (ha : a.Enabled w) {c : ClientId}
    (hc : (a.next crypto w).writer = some c) :
    w.writer = some c ∨ w.clients c = .awaitingRegister := by
  have houtcome : Outcome crypto w a (a.next crypto w) := next_outcome ha
  generalize a.next crypto w = w' at houtcome hc
  cases houtcome with
  | outside ho =>
    rw [ho.toCore] at hc
    exact .inl hc
  | asyncPrewarm | prewarmRenews | keyFetched | lanStarts | lanClose | timerFires | closeSpares
  | prewarmAttaches | clientAttaches | connect | clientRejected | handlerMoves => exact .inl hc
  | stopEnter | closeTearsDown => exact .inl (by rwa [teardownUpstream_writer] at hc)
  | openingFails =>
    rw [spinUpFailed, teardownUpstream_writer] at hc
    exact .inl hc
  | prewarmSpinsUp | clientSpinsUp => exact .inl (by rwa [spinUpUpstream_writer] at hc)
  | pumpJoined k n hlock =>
    rw [teardownDetach, (hcoherent.awaiting k n hlock).2.1] at hc
    exact .inl hc
  | lanClosed k =>
    rw [teardownReturn_eq] at hc
    exact .inl hc
  | clientBursts c₀ =>
    obtain ⟨_, _, _, hw⟩ := writeBurst_eq c₀ .awaitingKeyframe _
    rw [hw] at hc
    exact .inl hc
  | clientSnapshot c₀ =>
    obtain ⟨_, _, _, hw⟩ := writeBurst_eq c₀ .awaitingRegister w
    rw [hw] at hc
    exact .inl hc
  | clientRegister c₀ hlock hpc =>
    cases hc
    exact .inr hpc
  | clientDetaches => cases hc
  | pump n hsteps =>
    cases hsteps with
    | starts | ends | feeds | resumes | breaks | cancelled => exact .inl hc
    | produces =>
      rw [pumpChunk_writer] at hc
      exact .inl hc
    | detaches => cases hc

private theorem pumpChunk_draining {n lan decoder m l d : SessionId} {plain : Bytes} {c : ClientId}
    (h : (pumpChunk n lan decoder plain w).pumps m = .draining l d c) :
    w.pumps m = .draining l d c ∨ w.writer = some c := by
  have hother {pc : PumpPc} (hpc : pc = .draining l d c → w.writer = some c)
      (h : Function.update w.pumps n pc m = .draining l d c) :
      w.pumps m = .draining l d c ∨ w.writer = some c := by
    by_cases hm : m = n
    · subst hm
      rw [Function.update_self] at h
      exact .inr (hpc h)
    · rw [Function.update_of_ne hm] at h
      exact .inl h
  unfold pumpChunk at h
  dsimp only at h
  split at h
  · rename_i hwriter
    split at h
    · exact hother (by simp) h
    · refine hother (fun heq => ?_) h
      cases heq
      exact hwriter
  · exact hother (by simp) h

private theorem draining_next (ha : a.Enabled w) {n lan decoder : SessionId} {c : ClientId}
    (h : (a.next crypto w).pumps n = .draining lan decoder c) :
    w.pumps n = .draining lan decoder c ∨ w.writer = some c := by
  have hupdate {m : SessionId} {pc : PumpPc} (hpc : pc ≠ .draining lan decoder c)
      (h : Function.update w.pumps m pc n = .draining lan decoder c) :
      w.pumps n = .draining lan decoder c ∨ w.writer = some c := by
    by_cases hnm : n = m
    · subst hnm
      rw [Function.update_self] at h
      exact absurd h hpc
    · rw [Function.update_of_ne hnm] at h
      exact .inl h
  cases ha? : a.pump? with
  | none =>
    have hundisturbed : Undisturbed n w (a.next crypto w) := undisturbed_of_not_pump ha? n
    rw [Undisturbed, h] at hundisturbed
    rcases hundisturbed with hold | hnew | hnew
    · exact .inl hold.symm
    · cases hnew
    · cases hnew
  | some m =>
    have hsteps : PumpSteps crypto m w a (a.next crypto w) := steps_of_pump ha ha?
    generalize a.next crypto w = w' at hsteps h
    cases hsteps with
    | feeds => exact .inl h
    | starts | ends | resumes | breaks | detaches | cancelled => exact hupdate (by simp) h
    | produces lan' decoder' raw d d' =>
      exact pumpChunk_draining
        (w := { w with decoders := Function.update w.decoders decoder' (some (Cpd7.take d').2) }) h

/-- The pump has only ever drained registered viewers, and one that a write failed for does not
come back. -/
structure Refused (w : World Priv) (failed : List ClientId) : Prop where
  draining : ∀ n lan decoder c, w.pumps n = .draining lan decoder c →
    ¬(w.clients c).Unregistered
  failed : ∀ c ∈ failed, w.writer ≠ some c ∧ ¬(w.clients c).Unregistered

private theorem refused_next (hcoherent : Coherent w.lock w.toCore) {log : PumpLog}
    (h : Refused w log.failed) (hcaught : DrainsCaught w a) (ha : a.Enabled w) :
    Refused (a.next crypto w) (log.failure a) := by
  have hregistered (c : ClientId) (hc : w.writer = some c) : ¬(w.clients c).Unregistered := by
    have hpc := hcoherent.writer c hc
    intro hnot
    cases hclient : w.clients c <;> rw [hclient] at hpc hnot <;> first | exact hpc | exact hnot
  have hstays (c : ClientId) (hpc : ¬(w.clients c).Unregistered) :
      ¬((a.next crypto w).clients c).Unregistered :=
    fun hnot => hpc (unregistered_next hcoherent ha hnot)
  have hkeeps (c : ClientId) (hc : c ∈ log.failed) : (a.next crypto w).writer ≠ some c ∧
      ¬((a.next crypto w).clients c).Unregistered := by
    obtain ⟨hwriter, hpc⟩ := h.failed c hc
    constructor
    · intro hset
      rcases writer_next hcoherent ha hset with hold | hwaits
      · exact hwriter hold
      · rw [hwaits] at hpc
        exact hpc trivial
    · exact hstays c hpc
  constructor
  · intro n lan decoder c hpc
    rcases draining_next ha hpc with hold | hwriter
    · exact hstays c (h.draining n lan decoder c hold)
    · exact hstays c (hregistered c hwriter)
  · intro c hc
    have hnew : c ∈ log.failed ∨ (∃ n lan decoder, a = .pumpDrained n lan decoder c .brokenPipe) ∨
        a = .clientFlushed c false := by
      unfold PumpLog.failure at hc
      split at hc
      · exact .inl hc
      · rename_i n lan decoder c₀ drained hok
        rcases List.mem_cons.1 hc with rfl | hc
        · cases drained with
          | ok => exact absurd rfl hok
          | brokenPipe => exact .inr (.inl ⟨n, lan, decoder, rfl⟩)
          | raised => exact absurd rfl hcaught
        · exact .inl hc
      · rcases List.mem_cons.1 hc with rfl | hc
        · exact .inr (.inr rfl)
        · exact .inl hc
      · exact .inl hc
    rcases hnew with hold | ⟨n, lan, decoder, rfl⟩ | rfl
    · exact hkeeps c hold
    · have hpc : w.pumps n = .draining lan decoder c := ha
      constructor
      · change (pumpDrained n lan decoder c .brokenPipe w).writer ≠ some c
        unfold pumpDrained
        dsimp only
        split
        · simp [notifyStateChange]
        · assumption
      · exact hstays c (h.draining n lan decoder c hpc)
    · have hpc : w.clients c = .flushing := ha
      constructor
      · intro hwriter
        exact hregistered c hwriter (by rw [hpc]; trivial)
      · change ¬(Function.update w.clients c .leaving c).Unregistered
        rw [Function.update_self]
        exact not_false

instance (w : World Priv) (a : Action Priv) : Decidable (NobodyConnects w a) := by
  induction a using Action.casesOn with
  | connect => exact .isFalse fun h => h rfl
  | _ => exact .isTrue (by simp [NobodyConnects])

def alarmOpens (priv : Priv) : List (Action Priv) :=
  [.asyncPrewarm ⟨60, "alarm"⟩, .prewarmEnter ⟨60, "alarm"⟩ "192.168.1.20" "Q01",
    .keyFetched (.prewarm ⟨60, "alarm"⟩) "192.168.1.20" "Q01" (.ok (List.replicate 16 0x41)),
    .lanStart (.prewarm ⟨60, "alarm"⟩) 0 (.ok priv), .lanStarted (.prewarm ⟨60, "alarm"⟩) 0,
    .pumpStart 0]

private theorem alarmOpens_reads (crypto : Crypto Priv Pub) (priv : Priv) :
    ∃ t, (loggedRelay crypto).ReachableUnder (fun t a => NobodyConnects t.1 a) t ∧
      t.1.pumps 0 = .reading 0 0 ∧ t.1.writer = none ∧ t.1.lan = some 0 ∧
      t.1.lanPriv 0 = some priv ∧ t.2.raws 0 = [] := by
  obtain ⟨t, hreplay, ht⟩ : ∃ t, (loggedRelay crypto).replay (fun t a => NobodyConnects t.1 a)
      (alarmOpens priv) (World.initial Priv none 1, .empty) = some t ∧
      t.1.pumps 0 = .reading 0 0 ∧ t.1.writer = none ∧ t.1.lan = some 0 ∧
      t.1.lanPriv 0 = some priv ∧ t.2.raws 0 = [] := ⟨_, rfl, rfl, rfl, rfl, rfl, rfl⟩
  exact ⟨t, (ReachableUnder.init (loggedRelay_init crypto)).replay hreplay, ht⟩

/-- Every sequence of raw chunks is read in a run that nobody connects to. -/
theorem exists_alone (crypto : Crypto Priv Pub) (priv : Priv) {raws : List Bytes}
    (hraws : ∀ raw ∈ raws, raw ≠ []) :
    ∃ t, (loggedRelay crypto).ReachableUnder (fun t a => NobodyConnects t.1 a) t ∧
      t.1.pumps 0 = .reading 0 0 ∧ t.1.writer = none ∧ t.1.lan = some 0 ∧
      t.1.lanPriv 0 = some priv ∧ t.2.raws 0 = raws := by
  induction raws using List.reverseRecOn with
  | nil => exact alarmOpens_reads crypto priv
  | append_singleton raws raw ih =>
    obtain ⟨t, ht, hpc, hwriter, hlan, hpriv, hread⟩ :=
      ih fun r hr => hraws r (List.mem_append_left _ hr)
    have hraw : raw ≠ [] := hraws raw (by simp)
    have hcoherent := coherent_of_reachable ht.of_recording
    obtain ⟨d, d', _, _, hnext⟩ := pumpRead_feeds crypto hcoherent hpc hraw
    let a : Action Priv := .pumpRead 0 0 0 (.ok raw)
    refine ⟨(a.next crypto t.1, PumpLog.note t.1 a (a.next crypto t.1) t.2),
      ht.step (a := a) (by simp [NobodyConnects, a])
        (recording_step.2 ⟨relay_step.2 ⟨hpc, rfl⟩, rfl⟩), ?_⟩
    have hlog : (PumpLog.note t.1 a (a.next crypto t.1) t.2).raws 0 = raws ++ [raw] := by
      obtain ⟨b, rest, rfl⟩ := List.exists_cons_of_ne_nil hraw
      simp [PumpLog.note, PumpLog.raw, a, hread]
    have hworld : (a.next crypto t.1).pumps 0 = .reading 0 0 ∧ (a.next crypto t.1).writer = none ∧
        (a.next crypto t.1).lan = some 0 ∧ (a.next crypto t.1).lanPriv 0 = some priv := by
      change (pumpRead crypto 0 0 0 (.ok raw) t.1).pumps 0 = _ ∧
        (pumpRead crypto 0 0 0 (.ok raw) t.1).writer = _ ∧
        (pumpRead crypto 0 0 0 (.ok raw) t.1).lan = _ ∧
        (pumpRead crypto 0 0 0 (.ok raw) t.1).lanPriv 0 = _
      rw [hnext]
      split
      · exact ⟨hpc, hwriter, hlan, hpriv⟩
      · simp [pumpChunk, hwriter, hlan, hpriv]
    exact ⟨hworld.1, hworld.2.1, hworld.2.2.1, hworld.2.2.2, hlog⟩

private theorem refused_of_reachable {s : World Priv × PumpLog}
    (h : (loggedRelay crypto).ReachableUnder (fun s a => DrainsCaught s.1 a) s) :
    Refused s.1 s.2.failed := by
  apply h.invariant
  · intro s hinit
    obtain ⟨⟨stats, clock, _, hworld⟩, hlog⟩ := hinit
    rw [hworld, hlog]
    refine ⟨fun n lan decoder c hpc => ?_, fun c hc => absurd hc List.not_mem_nil⟩
    cases hpc
  · intro s a s' hs hrefused hcaught hstep
    obtain ⟨hstep, hlog⟩ := recording_step.1 hstep
    obtain ⟨ha, hnext⟩ := relay_step.1 hstep
    rw [← hnext, hlog]
    exact refused_next (coherent_of_reachable hs.of_recording) hrefused hcaught ha

private theorem ended_of_reachable {s : World Priv × PumpLog}
    (h : (loggedRelay crypto).ReachableUnder (fun s a => DrainsCaught s.1 a) s) :
    ∀ n cause, s.2.ended n = some cause → cause.Upstream := by
  apply h.invariant
  · intro s hinit n cause hended
    rw [hinit.2] at hended
    cases hended
  · intro s a s' hs hends hcaught hstep n cause hended
    obtain ⟨hstep, hlog⟩ := recording_step.1 hstep
    obtain ⟨ha, hnext⟩ := relay_step.1 hstep
    rw [hlog] at hended
    change (if s.1.pumps n ≠ .done ∧ s'.1.pumps n = .done then some a.pumpEnd
      else s.2.ended n) = some cause at hended
    split at hended
    · rename_i hdone
      cases hended
      rw [← hnext] at hdone
      have hcoherent := coherent_of_reachable hs.of_recording
      refine (pumpEnd_of_ends hcoherent ha hdone.1 hdone.2).resolve_right fun hraised => ?_
      obtain ⟨_, _, _, rfl⟩ := hraised
      exact hcaught rfl
    · exact hends n cause hended

/-- Where a drain raises nothing but a broken pipe or a reset, no viewer ends a pump or changes
what it appends, and the viewer is no longer registered; the first time one raises anything else,
it ends the pump. Every sequence of raw chunks has its run without viewers. -/
theorem viewers_contained (crypto : Crypto Priv Pub) :
    (∀ s, (loggedRelay crypto).ReachableUnder (fun s a => DrainsCaught s.1 a) s →
      UpstreamKept crypto s) ∧
    (∀ s s' a, (loggedRelay crypto).ReachableUnder (fun s a => DrainsCaught s.1 a) s →
      (loggedRelay crypto).step a s = some s' → ¬DrainsCaught s.1 a → ¬UpstreamKept crypto s') ∧
    ∀ (priv : Priv) (raws : List Bytes), (∀ raw ∈ raws, raw ≠ []) →
      ∃ t, (loggedRelay crypto).ReachableUnder (fun t a => NobodyConnects t.1 a) t ∧
        ∃ m, t.1.lan = some m ∧ t.1.lanPriv m = some priv ∧ t.2.raws m = raws := by
  refine ⟨?_, ?_, ?_⟩
  · intro s hs
    have hpumped := pumped_of_reachable hs
    refine ⟨ended_of_reachable hs, ?_, fun c hc => ((refused_of_reachable hs).failed c hc).1⟩
    intro t ht m n hpriv hraws
    have halone := pumped_of_reachable ht
    have happended := hpumped.agrees halone hpriv hraws
    refine ⟨happended, fun hm hn => ?_⟩
    obtain ⟨hbuffer, hbytes⟩ := hpumped.buffer n hn
    obtain ⟨hbuffer', hbytes'⟩ := halone.buffer m hm
    rw [hbuffer', hbytes', happended]
    exact ⟨hbuffer.symm, hbytes.symm⟩
  · intro s s' a hs hstep hnot hkept
    obtain ⟨hstep, hlog⟩ := recording_step.1 hstep
    obtain ⟨ha, hnext⟩ := relay_step.1 hstep
    cases a with
    | pumpDrained n lan decoder c drained =>
      obtain rfl : drained = .raised := not_not.1 hnot
      have hpc : s.1.pumps n = .draining lan decoder c := ha
      have hdone : s'.1.pumps n = .done := by
        rw [← hnext]
        exact Function.update_self ..
      apply hkept.ends n (.viewer c)
      rw [hlog]
      exact if_pos ⟨by simp [hpc], hdone⟩
    | _ => exact hnot trivial
  · intro priv raws hraws
    obtain ⟨t, ht, _, _, hlan, hpriv, hread⟩ := exists_alone crypto priv hraws
    exact ⟨t, ht, 0, hlan, hpriv, hread⟩

/-- A viewer registers, and the drain of the next live chunk ends as given. -/
def drainedRun (drained : Drained) : List (Action Unit) :=
  [.asyncStart, .serverBound (some 40000)] ++ prewarmOpens 0 ++
    [.pumpRead 0 0 0 (.ok cameraBytes), .connect, .clientEnter 0 "192.168.1.20" "Q01",
     .clientFlushed 0 true, .clientRegister 0,
     .pumpRead 0 0 0 (.ok (Cpd7.frameBytes [0x15] (by decide))),
     .pumpDrained 0 0 0 0 drained]

theorem viewers_contained_brokenPipe :
    ∃ s : World Unit × PumpLog, s.2.failed = [0] ∧ s.1.pumps 0 = .reading 0 0 ∧
      UpstreamKept basePointCrypto s := by
  obtain ⟨s, hs, hfailed, hpc⟩ :
      ∃ s, (loggedRelay basePointCrypto).ReachableUnder (fun s a => DrainsCaught s.1 a) s ∧
        s.2.failed = [0] ∧ s.1.pumps 0 = .reading 0 0 :=
    ReachableUnder.of_replay (drainedRun .brokenPipe) (loggedRelay_init _) (by decide +kernel)
  exact ⟨s, hfailed, hpc, (viewers_contained basePointCrypto).1 s hs⟩

/-- The viewer's connection times out, and the pump ends. -/
theorem not_viewers_contained :
    ¬ ∀ s : World Unit × PumpLog, (loggedRelay basePointCrypto).Reachable s →
      UpstreamKept basePointCrypto s := by
  intro hkept
  obtain ⟨s, hs, hended⟩ :
      ∃ s, (loggedRelay basePointCrypto).Reachable s ∧ s.2.ended 0 = some (.viewer 0) :=
    ReachableUnder.of_replay (drainedRun .raised) (loggedRelay_init _) (by decide +kernel)
  exact (hkept s hs).ends 0 _ hended

end EzvizHp7.Relay
