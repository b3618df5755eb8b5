import EzvizHp7.Relay.Sessions

/-!
# The keyframe gate's hand-over

A viewer that found an empty buffer is let go by `_keyframe_seen` and takes its snapshot later,
under the lock. The event says that a complete keyframe was in the buffer when the pump set it;
the snapshot is of the buffer there is by then.
-/

namespace EzvizHp7.Relay

open Cpd7 (Bytes Cpd7Decoder Crypto Noise WireItem absorbPlain basePointCrypto cameraBytes
  dataFrame encodeItems feed noNoise plaintexts take xorKeystream zeroKey)
open Transition System World

variable {Priv Pub : Type} {crypto : Crypto Priv Pub}

def decodedChunk (crypto : Crypto Priv Pub) (w : World Priv) (decoder : SessionId) :
    Except String Bytes → Bytes
  | .error _ => []
  | .ok raw =>
    match (w.decoders decoder).map (feed crypto absorbPlain · raw) with
    | some (.ok d) => (take d).1
    | _ => []

/-- Waiting for the event, or woken by it and still without a snapshot. -/
def ClientPc.AwaitsRelease : ClientPc → Prop
  | .awaitingKeyframe | .awaitingSnapshot true => True
  | _ => False

/-- The step empties the buffer: a teardown that has no pump to wait for, or is done waiting. -/
def ClearsBuffer (w : World Priv) : Action Priv → Prop
  | .stopEnter => w.isPumpAlive = false
  | .prewarmEnter _ host related | .clientEnter _ host related =>
    w.isPumpAlive = false ∧ upstreamAddress host related ≠ .ok ()
  | .pumpJoined _ _ => True
  | a => a.FailsOpening

/-- A session starts with the event cleared. While it is set and a viewer has not got its
snapshot, no chunk puts a marker into the buffer without a complete keyframe behind it, and no
teardown empties the buffer of a viewer that was let go. -/
def HandsOver (crypto : Crypto Priv Pub) (w : World Priv) : Action Priv → Prop
  | .lanStarted _ _ => w.keyframeSeen = false
  | .pumpRead _ _ decoder raw =>
    w.keyframeSeen = true → (∃ c < w.nextClient, (w.clients c).AwaitsRelease) →
      KeyframeComplete (w.buffer ++ decodedChunk crypto w decoder raw)
  | a => ClearsBuffer w a → ∀ c < w.nextClient, w.clients c ≠ .awaitingSnapshot true

instance (pc : ClientPc) : Decidable pc.AwaitsRelease := by
  induction pc using ClientPc.casesOn with
  | awaitingKeyframe => exact .isTrue trivial
  | awaitingSnapshot byEvent =>
    induction byEvent using Bool.casesOn with
    | false => exact .isFalse not_false
    | true => exact .isTrue trivial
  | _ => exact .isFalse not_false

instance (a : Action Priv) : Decidable a.FailsOpening := by
  induction a using Action.casesOn with
  | keyFetched o host related key =>
    induction key using Except.casesOn with
    | error => exact .isTrue trivial
    | ok key => exact inferInstanceAs (Decidable (key.length ≠ 16))
  | lanStart o n priv =>
    induction priv using Except.casesOn with
    | error => exact .isTrue trivial
    | ok => exact .isFalse not_false
  | _ => exact .isFalse not_false

instance (w : World Priv) (a : Action Priv) : Decidable (ClearsBuffer w a) := by
  induction a using Action.casesOn <;> unfold ClearsBuffer <;> infer_instance

instance (w : World Priv) (a : Action Priv) : Decidable (HandsOver crypto w a) := by
  induction a using Action.casesOn <;> unfold HandsOver <;> infer_instance

/-- A viewer the event lets go, or has let go, has a complete keyframe in the buffer. -/
structure Handed (buffer : Bytes) (seen : Bool) (clients : ClientId → ClientPc) : Prop where
  nonempty : seen = true → buffer ≠ []
  complete : ∀ c, (clients c).AwaitsRelease → seen = true → KeyframeComplete buffer
  released : ∀ c, clients c = .awaitingSnapshot true → seen = true

namespace Handed

variable {buffer : Bytes} {seen : Bool} {clients : ClientId → ClientPc}

theorem move (h : Handed buffer seen clients) (c : ClientId) {pc : ClientPc}
    (hcomplete : pc.AwaitsRelease → seen = true → KeyframeComplete buffer)
    (hreleased : pc = .awaitingSnapshot true → seen = true) :
    Handed buffer seen (Function.update clients c pc) := by
  constructor
  · exact h.nonempty
  · intro d hd
    by_cases hdc : d = c
    · rw [hdc, Function.update_self] at hd
      exact hcomplete hd
    · rw [Function.update_of_ne hdc] at hd
      exact h.complete d hd
  · intro d hd
    by_cases hdc : d = c
    · rw [hdc, Function.update_self] at hd
      exact hreleased hd
    · rw [Function.update_of_ne hdc] at hd
      exact h.released d hd

theorem leave (h : Handed buffer seen clients) (c : ClientId) {pc : ClientPc}
    (hpc : ¬ pc.AwaitsRelease) : Handed buffer seen (Function.update clients c pc) := by
  apply h.move
  · exact fun hc => absurd hc hpc
  · rintro rfl
    exact absurd trivial hpc

theorem clear (hnone : ∀ c, clients c ≠ .awaitingSnapshot true) : Handed [] false clients :=
  ⟨fun hseen => Bool.noConfusion hseen, fun _ _ hseen => Bool.noConfusion hseen,
    fun c hc => absurd hc (hnone c)⟩

theorem chunk (h : Handed buffer seen clients) {plain : Bytes} (hplain : plain ≠ [])
    (target : Nat)
    (hcomplete : seen = true → (∃ c, (clients c).AwaitsRelease) →
      KeyframeComplete (buffer ++ plain)) :
    Handed (extendBuffer target buffer plain)
      (seen || decide (KeyframeComplete (extendBuffer target buffer plain))) clients := by
  constructor
  · exact fun _ => extendBuffer_ne_nil target hplain
  · intro c hc hseen
    cases hset : seen with
    | true => exact (hcomplete hset ⟨c, hc⟩).extend target
    | false =>
      rw [hset, Bool.false_or] at hseen
      exact of_decide_eq_true hseen
  · intro c hc
    rw [h.released c hc, Bool.true_or]

variable {w : World Priv}

theorem teardown (h : Handed w.buffer w.keyframeSeen w.clients) (k : Closer)
    (hnone : w.isPumpAlive = false → ∀ c, w.clients c ≠ .awaitingSnapshot true) :
    Handed (teardownUpstream k w).buffer (teardownUpstream k w).keyframeSeen
      (teardownUpstream k w).clients := by
  have hbegins := teardownUpstream_begins k w
  generalize teardownUpstream k w = w' at hbegins
  cases hbegins with
  | awaits => exact h
  | closes _ _ hidle => exact clear (hnone hidle)
  | returns _ hidle =>
    rw [teardownReturn_eq]
    exact clear (hnone hidle)

theorem spinUp (h : Handed w.buffer w.keyframeSeen w.clients) (o : Opener) (host related : String)
    (hnone : w.isPumpAlive = false → upstreamAddress host related ≠ .ok () →
      ∀ c, w.clients c ≠ .awaitingSnapshot true) :
    Handed (spinUpUpstream o host related w).buffer
      (spinUpUpstream o host related w).keyframeSeen
      (spinUpUpstream o host related w).clients := by
  unfold spinUpUpstream spinUpFailed
  split
  · rename_i e haddress
    apply teardown
    · exact h
    · intro hidle
      exact hnone hidle (by rw [haddress]; exact nofun)
  · exact h

end Handed

private theorem writeBurst_handed {w : World Priv} (c : ClientId) {pc : ClientPc}
    (h : Handed w.buffer w.keyframeSeen w.clients)
    (hempty : snapshotBufferForNewClient w.buffer = [] →
      Handed w.buffer w.keyframeSeen (Function.update w.clients c pc)) :
    Handed (writeBurst c pc w).buffer (writeBurst c pc w).keyframeSeen
      (writeBurst c pc w).clients := by
  unfold writeBurst
  dsimp only
  split
  · rename_i hburst
    exact hempty hburst
  · exact h.leave c id

private theorem pumpChunk_handed {w : World Priv} (n lan decoder : SessionId) (plain : Bytes)
    (h : Handed (extendBuffer bufferTrimTarget w.buffer plain) (w.keyframeSeen ||
      decide (KeyframeComplete (extendBuffer bufferTrimTarget w.buffer plain))) w.clients) :
    Handed (pumpChunk n lan decoder plain w).buffer
      (pumpChunk n lan decoder plain w).keyframeSeen
      (pumpChunk n lan decoder plain w).clients := by
  unfold pumpChunk
  dsimp only
  split
  · split <;> exact h
  · exact h

private theorem spares_of_fails {w : World Priv} {a : Action Priv} (h : HandsOver crypto w a)
    (hfails : a.FailsOpening) : ∀ c < w.nextClient, w.clients c ≠ .awaitingSnapshot true := by
  cases a with
  | keyFetched | lanStart => exact h hfails
  | _ => exact hfails.elim

private theorem handed_next {w : World Priv} (hcoherent : Coherent w.lock w.toCore)
    (h : Handed w.buffer w.keyframeSeen w.clients) {a : Action Priv}
    (hallowed : HandsOver crypto w a) (ha : a.Enabled w) :
    Handed (a.next crypto w).buffer (a.next crypto w).keyframeSeen (a.next crypto w).clients := by
  have hfresh {c : ClientId} (hc : w.clients c ≠ .absent) : c < w.nextClient := by
    by_contra hle
    exact hc (hcoherent.clientsFresh c (Nat.not_lt.mp hle))
  have hnone (hspared : ∀ c < w.nextClient, w.clients c ≠ .awaitingSnapshot true) (c : ClientId) :
      w.clients c ≠ .awaitingSnapshot true := by
    intro hc
    exact hspared c (hfresh (by rw [hc]; exact nofun)) hc
  have hattach (hunset : w.keyframeSeen = false) : Handed [] w.keyframeSeen w.clients := by
    rw [hunset]
    apply Handed.clear
    intro c hc
    rw [h.released c hc] at hunset
    cases hunset
  have houtcome : Outcome crypto w a (a.next crypto w) := next_outcome ha
  generalize a.next crypto w = w' at houtcome ⊢
  cases houtcome with
  | outside ho =>
    rw [ho.toCore]
    exact h
  | asyncPrewarm | prewarmRenews | keyFetched | lanStarts | lanClose | timerFires
  | closeSpares => exact h
  | stopEnter =>
    apply Handed.teardown
    · exact h
    · exact fun hidle => hnone (hallowed hidle)
  | prewarmSpinsUp =>
    apply Handed.spinUp
    · exact h
    · exact fun hidle haddress => hnone (hallowed ⟨hidle, haddress⟩)
  | openingFails _ _ _ hfails =>
    apply Handed.teardown
    · exact h
    · exact fun _ => hnone (spares_of_fails hallowed hfails)
  | prewarmAttaches => exact hattach hallowed
  | clientAttaches c =>
    have hunset : w.keyframeSeen = false := hallowed
    apply (hattach hunset).move c
    · intro _ hseen
      rw [hunset] at hseen
      cases hseen
    · exact nofun
  | pumpJoined k n hlock =>
    rw [teardownDetach, (hcoherent.awaiting k n hlock).2.1]
    exact .clear (hnone (hallowed trivial))
  | lanClosed k =>
    rw [teardownReturn_eq]
    exact h
  | connect => exact h.leave w.nextClient id
  | clientBursts c =>
    apply writeBurst_handed
    · exact h
    · intro hempty
      apply h.move c
      · exact fun _ hseen => absurd hempty (snapshot_ne_nil (h.nonempty hseen))
      · exact nofun
  | clientSpinsUp c host related hlock hpc =>
    apply Handed.spinUp
    · exact h.leave c id
    · intro hidle haddress d hd
      by_cases hdc : d = c
      · rw [hdc] at hd
        simp at hd
      · have hspared := hnone (hallowed ⟨hidle, haddress⟩) d
        exact hspared (by rwa [← Function.update_of_ne hdc ClientPc.opening w.clients])
  | clientRejected c => exact h.leave c id
  | handlerMoves c pc closing hmoves =>
    cases hmoves with
    | keyframeWaited byEvent hpc hseen =>
      apply h.move c
      · exact fun _ => h.complete c (by rw [hpc]; trivial)
      · intro hreleased
        cases hreleased
        exact hseen rfl
    | flushed | flushFailed | eof | leaves | closed => exact h.leave c id
  | clientSnapshot c => exact writeBurst_handed c h fun _ => h.leave c id
  | clientRegister c | clientDetaches c => exact h.leave c id
  | closeTearsDown _ _ _ halive =>
    apply Handed.teardown
    · exact h
    · exact fun hidle => absurd (halive.symm.trans hidle) (by decide)
  | pump n hsteps =>
    cases hsteps with
    | starts | ends | feeds | resumes | breaks | detaches | cancelled => exact h
    | produces lan decoder raw d d' hpc hdecoder hfeed hplain =>
      have hchunk : decodedChunk crypto w decoder (.ok raw) = (take d').1 := by
        simp [decodedChunk, hdecoder, hfeed]
      apply pumpChunk_handed
      apply h.chunk hplain
      intro hseen hwaiting
      obtain ⟨c, hc⟩ := hwaiting
      have hcomplete := hallowed hseen ⟨c, hfresh ?_, hc⟩
      · rwa [hchunk] at hcomplete
      · intro habsent
        rw [habsent] at hc
        exact hc

private theorem handed_of_reachable {w : World Priv}
    (h : (relay crypto).ReachableUnder (HandsOver crypto) w) :
    Handed w.buffer w.keyframeSeen w.clients := by
  apply relay_invariant (P := fun w : World Priv => Handed w.buffer w.keyframeSeen w.clients)
    ?_ ?_ h
  · intro stats clock _
    exact .clear (by simp [World.initial])
  · intro w a hw hP hallowed ha
    exact handed_next (coherent_of_reachable hw) hP hallowed ha

/-- A viewer that was let go by the event gets a complete keyframe. -/
theorem keyframe_handover {w w' : World Priv} {c : ClientId}
    (h : (relay crypto).ReachableUnder (HandsOver crypto) w)
    (hstep : (relay crypto).step (.clientSnapshot c true) w = some w') :
    ∃ p, (w'.logs c).burst = some p ∧ (w'.logs c).received = (w.logs c).received ++ [p] ∧
      KeyframeComplete p.data := by
  obtain ⟨⟨_, hpc⟩, rfl⟩ := relay_step.mp hstep
  have hhanded := handed_of_reachable h
  have hcomplete : KeyframeComplete w.buffer :=
    hhanded.complete c (by rw [hpc]; trivial) (hhanded.released c hpc)
  have hburst := snapshot_ne_nil hcomplete.ne_nil
  refine ⟨Journal.tail (w.lan.getD 0) w.produced (snapshotBufferForNewClient w.buffer), ?_, ?_,
    hcomplete.snapshot⟩
  all_goals simp [Action.next, clientSnapshot, writeBurst, hburst]

def sliceItems (n : Nat) : List (Noise × WireItem) :=
  List.replicate n (noNoise, .data (dataFrame (List.replicate 16 0xff) (by decide)))

private theorem plaintexts_sliceItems (n : Nat) :
    plaintexts (sliceItems n) = List.replicate n (List.replicate 16 0xff) := by
  induction n with
  | zero => rfl
  | succ n ih => exact congrArg (List.replicate 16 0xff :: ·) ih

def sliceBytes (n : Nat) : Bytes := encodeItems xorKeystream (sliceItems n)

private theorem feed_slices (n : Nat) (logged : Bool) :
    ∃ logged', feed basePointCrypto absorbPlain ⟨(), [], some zeroKey, true, logged, true, [], []⟩
        (sliceBytes n) =
      .ok ⟨(), [], some zeroKey, true, logged', true, [], List.replicate (n * 16) 0xff⟩ := by
  obtain ⟨logged', hfeed⟩ := Cpd7.feed_items basePointCrypto absorbPlain
    (fun nonce plain _ => congrArg Except.ok (Cpd7.xorKeystream_xorKeystream nonce plain) :
      ∀ nonce plain, nonce.length = 12 →
        basePointCrypto.chacha20Decrypt zeroKey nonce (xorKeystream nonce plain) = .ok plain)
    (fun nonce plain => by simp [xorKeystream]) () (sliceItems n) logged ⟨true, [], []⟩
  refine ⟨logged', hfeed.trans ?_⟩
  rw [plaintexts_sliceItems, Cpd7.foldl_absorbPlain_started, List.nil_append,
    List.flatten_replicate_replicate]

private theorem pumpRead_produces {w : World Priv} {n lan decoder : SessionId} {raw : Bytes}
    {d d' : Cpd7Decoder Priv} (hraw : raw ≠ []) (hdecoder : w.decoders decoder = some d)
    (hfeed : feed crypto absorbPlain d raw = .ok d') (hplain : (take d').1 ≠ []) :
    pumpRead crypto n lan decoder (.ok raw) w =
      pumpChunk n lan decoder (take d').1
        { w with decoders := Function.update w.decoders decoder (some (take d').2) } := by
  cases raw with
  | nil => exact absurd rfl hraw
  | cons b raw => simp [pumpRead, hdecoder, hfeed, hplain]

/-- A session whose buffer is filling up, with one viewer waiting for the event and another
about to enter. -/
private structure Filling (w : World Unit) : Prop where
  run : (relay basePointCrypto).ReachableUnder (HandsOver basePointCrypto) w
  lock : w.lock = none
  waiting : w.clients 0 = .awaitingKeyframe
  connecting : w.clients 1 = .connecting
  pumpTask : w.pumpTask = some 0
  pump : w.pumps 0 = .reading 0 0
  writer : w.writer = none
  decoder : ∃ logged,
    w.decoders 0 = some ⟨(), [], some zeroKey, true, logged, true, [], []⟩

private def keyframeHead : Bytes := [0, 0, 1, 0xba, 0, 0, 0, 1, 0x67, 0x42]

private theorem keyframeComplete_slices {n : Nat} (h : 65536 ≤ n) :
    KeyframeComplete (keyframeHead ++ List.replicate n 0xff) := by
  have hmarker : 5 ∈ Cpd7.markerOffsets (keyframeHead ++ List.replicate n 0xff) := by
    apply Cpd7.marker_append
    refine ⟨h264Sps3B, by decide, ?_⟩
    change h264Sps3B <+: keyframeHead.drop 5
    decide
  rcases rfindLastKeyframe_spec (keyframeHead ++ List.replicate n 0xff) with
    ⟨_, hnone⟩ | ⟨k, _, hk⟩
  · exact absurd hmarker (hnone 5)
  · refine (keyframeComplete_iff _).mpr ⟨k, hk, ?_⟩
    have hlt : k < 10 := markerOffsets_slices keyframeHead n k hk.1
    rw [List.length_append, List.length_replicate]
    change k + 64 * 1024 ≤ 10 + n
    omega

private theorem Filling.read {w : World Unit} (h : Filling w) (hunseen : w.keyframeSeen = false)
    {n : Nat} (hbuffer : w.buffer = keyframeHead ++ List.replicate n 0xff) (hn : n ≤ 100000) :
    ∃ w', Filling w' ∧ w'.buffer = keyframeHead ++ List.replicate (n + 900 * 16) 0xff ∧
      w'.keyframeSeen = decide (KeyframeComplete w'.buffer) := by
  obtain ⟨logged, hdecoder⟩ := h.decoder
  obtain ⟨logged', hfeed⟩ := feed_slices 900 logged
  have hextend : extendBuffer bufferTrimTarget w.buffer (List.replicate (900 * 16) 0xff) =
      keyframeHead ++ List.replicate (n + 900 * 16) 0xff := by
    rw [extendBuffer, hbuffer, List.append_assoc, List.replicate_append_replicate]
    apply if_neg
    rw [List.length_append, List.length_replicate]
    change ¬ 4 * 1024 * 1024 < 10 + (n + 900 * 16)
    omega
  have hread : (Action.pumpRead 0 0 0 (.ok (sliceBytes 900))).next basePointCrypto w =
      pumpChunk 0 0 0 (List.replicate (900 * 16) 0xff) { w with decoders := _ } :=
    pumpRead_produces (by decide +kernel) hdecoder hfeed
      ((List.replicate_eq_nil_iff _).not.mpr (by decide))
  have hallowed : HandsOver basePointCrypto w (.pumpRead 0 0 0 (.ok (sliceBytes 900))) := by
    intro hseen
    rw [hunseen] at hseen
    cases hseen
  have hstep := h.run.step hallowed (relay_step.mpr ⟨h.pump, hread⟩)
  simp only [pumpChunk, h.writer] at hstep
  refine ⟨_, ⟨hstep, h.lock, h.waiting, h.connecting, h.pumpTask,
    Function.update_self 0 _ w.pumps, rfl, logged', Function.update_self 0 _ w.decoders⟩, hextend,
    ?_⟩
  change (w.keyframeSeen || _) = _
  rw [hunseen, Bool.false_or]
  rfl

private theorem filled : ∃ w, Filling w ∧ w.keyframeSeen = true := by
  have hreads (k : Nat) : k ≤ 5 → ∃ w, Filling w ∧ (w.keyframeSeen = true ∨
      w.keyframeSeen = decide (KeyframeComplete w.buffer) ∧
        w.buffer = keyframeHead ++ List.replicate (k * (900 * 16)) 0xff) := by
    induction k with
    | zero =>
      intro _
      obtain ⟨w, hw, hlock, hwaiting, hconnecting, htask, hpump, hwriter, hdecoder, hseen,
          hbuffer⟩ :
          ∃ w, (relay basePointCrypto).ReachableUnder (HandsOver basePointCrypto) w ∧
            w.lock = none ∧ w.clients 0 = .awaitingKeyframe ∧ w.clients 1 = .connecting ∧
            w.pumpTask = some 0 ∧ w.pumps 0 = .reading 0 0 ∧ w.writer = none ∧
            w.decoders 0 = some ⟨(), [], some zeroKey, true, true, true, [], []⟩ ∧
            w.keyframeSeen = decide (KeyframeComplete w.buffer) ∧ w.buffer = keyframeHead :=
        ReachableUnder.of_replay
          ([.asyncStart, .serverBound (some 40000)] ++ prewarmOpens 0 ++
            [.connect, .clientEnter 0 "192.168.1.20" "Q01", .connect,
             .pumpRead 0 0 0 (.ok cameraBytes)])
          ⟨none, 1, by decide, rfl⟩ (by decide +kernel)
      exact ⟨w, ⟨hw, hlock, hwaiting, hconnecting, htask, hpump, hwriter, true, hdecoder⟩,
        .inr ⟨hseen, by simpa using hbuffer⟩⟩
    | succ k ih =>
      intro hk
      obtain ⟨w, hw, hseen | ⟨hseen, hbuffer⟩⟩ := ih (by omega)
      · exact ⟨w, hw, .inl hseen⟩
      · cases hset : w.keyframeSeen with
        | true => exact ⟨w, hw, .inl hset⟩
        | false =>
          obtain ⟨w', hw', hbuffer', hseen'⟩ := hw.read hset hbuffer (by omega)
          refine ⟨w', hw', .inr ⟨hseen', ?_⟩⟩
          rw [hbuffer', Nat.add_one_mul k (900 * 16)]
  obtain ⟨w, hw, hseen | ⟨hseen, hbuffer⟩⟩ := hreads 5 le_rfl
  · exact ⟨w, hw, hseen⟩
  · refine ⟨w, hw, hseen.trans (decide_eq_true ?_)⟩
    rw [hbuffer]
    exact keyframeComplete_slices (by decide)

/-- A viewer waits for the event, is let go by it and takes its snapshot. -/
theorem keyframe_handover_filled :
    ∃ w w' : World Unit, (relay basePointCrypto).Reachable w ∧
      (relay basePointCrypto).step (.clientSnapshot 0 true) w = some w' ∧
      ∃ p, (w'.logs 0).burst = some p ∧ KeyframeComplete p.data := by
  obtain ⟨w, hw, hseen⟩ := filled
  have hallowed : HandsOver basePointCrypto w (.keyframeWaited 0 true) := False.elim
  have hwaited := hw.run.step hallowed (relay_step.mpr ⟨⟨hw.waiting, fun _ => hseen⟩, rfl⟩)
  have hstep : (relay basePointCrypto).step (.clientSnapshot 0 true)
      (keyframeWaited 0 true w) = some _ :=
    relay_step.mpr ⟨⟨hw.lock, Function.update_self 0 _ w.clients⟩, rfl⟩
  obtain ⟨p, hburst, _, hcomplete⟩ := keyframe_handover hwaited hstep
  exact ⟨_, _, hwaited.reachable, hstep, p, hburst, hcomplete⟩

private theorem clientSnapshot_nothing {w : World Priv} {c : ClientId} (h : w.buffer = []) :
    ((clientSnapshot c w).logs c).received = (w.logs c).received := by
  have hburst : snapshotBufferForNewClient w.buffer = [] := by rw [h]; rfl
  simp [clientSnapshot, writeBurst, hburst]

/-- Where a session ended by itself after its first keyframe, the next cold viewer can be let go
at once and gets nothing. -/
theorem stale_gate_releases {w : World Priv} (h : (relay crypto).Reachable w)
    (hlock : w.lock = none) (hidle : w.isPumpAlive = false) (hseen : w.keyframeSeen = true)
    {c : ClientId} (hc : w.clients c = .connecting) (priv : Priv) :
    ∃ w₁ w₂ : World Priv, (relay crypto).Reachable w₁ ∧
      (relay crypto).step (.clientSnapshot c true) w₁ = some w₂ ∧
      (w₂.logs c).received = (w₁.logs c).received := by
  have hopening : clientEnter c "192.168.1.20" "Q01" w =
      { w with
        clients := Function.update w.clients c .opening
        lock := some (.fetchingKey (.client c) "192.168.1.20" "Q01") } := by
    simp [clientEnter, hidle, spinUpUpstream, upstreamAddress]
  have hentered := h.step (a := Action.clientEnter c "192.168.1.20" "Q01") trivial
    (relay_step.mpr ⟨⟨hlock, hc⟩, hopening⟩)
  have hfetched := hentered.step
    (a := Action.keyFetched (.client c) "192.168.1.20" "Q01" (.ok (List.replicate 16 0x41))) trivial
    (relay_step.mpr ⟨rfl, rfl⟩)
  have hopened := hfetched.step (a := Action.lanStart (.client c) w.nextSession (.ok priv)) trivial
    (relay_step.mpr ⟨rfl, rfl⟩)
  have hstarted := hopened.step (a := Action.lanStarted (.client c) w.nextSession) trivial
    (relay_step.mpr ⟨rfl, rfl⟩)
  have hwaited := hstarted.step (a := Action.keyframeWaited c true) trivial
    (relay_step.mpr ⟨⟨Function.update_self .., fun _ => hseen⟩, rfl⟩)
  exact ⟨_, _, hwaited, relay_step.mpr ⟨⟨rfl, Function.update_self ..⟩, rfl⟩,
    clientSnapshot_nothing rfl⟩

/-- The camera closes the stream after a keyframe, and the next viewer opens a new session. -/
theorem not_keyframe_handover :
    ¬ ∀ (w w' : World Unit) (c : ClientId), (relay basePointCrypto).Reachable w →
      (relay basePointCrypto).step (.clientSnapshot c true) w = some w' →
      ∃ p, (w'.logs c).burst = some p ∧ (w'.logs c).received = (w.logs c).received ++ [p] ∧
        KeyframeComplete p.data := by
  intro hgate
  obtain ⟨w, hw, hseen⟩ := filled
  have hended := hw.run.reachable.step (a := Action.pumpRead 0 0 0 (.ok [])) trivial
    (relay_step.mpr ⟨hw.pump, rfl⟩)
  obtain ⟨w₁, w₂, hreached, hstep, hnothing⟩ := stale_gate_releases hended hw.lock
    (by simp [Core.isPumpAlive, hw.pumpTask, Action.next, pumpRead]) hseen hw.connecting ()
  obtain ⟨p, _, hreceived, _⟩ := hgate w₁ w₂ 1 hreached hstep
  rw [hnothing] at hreceived
  simp at hreceived

end EzvizHp7.Relay
