import EzvizHp7.Relay.PumpLog
import EzvizHp7.Relay.Delivery

/-!
# From the doorbell to the viewer

The decoder, the pump, the buffer and the connection handler as one channel. Whatever the doorbell
encrypted, the reads cut up and the handlers interleaved, a viewer's piece of a session stands in
the plaintext at the offset it was recorded under.
-/

namespace EzvizHp7.Relay

open Cpd7
open Journal (Entry text)
open Transition System World

variable {Priv Pub : Type} {crypto : Crypto Priv Pub}

/-- The play socket of one session: the handshake frame, then items under the session key that
the handshake yields. -/
structure Broadcast (crypto : Crypto Priv Pub) (priv : Priv) where
  encrypt : Bytes → Bytes → Bytes
  key : Bytes
  wrapper : Bytes
  handshake : Handshake
  noise : Noise
  chan : UInt8
  items : List (Noise × WireItem)
  wrapper_clean : ¬ [0x24, 0x01] <:+: wrapper
  frame_length : (wrapper ++ handshake.packet).length ≤ 65535
  yields : handshake.Yields crypto priv key
  decrypts : ∀ nonce plain, nonce.length = 12 →
    crypto.chacha20Decrypt key nonce (encrypt nonce plain) = .ok plain
  encrypt_length : ∀ nonce plain, (encrypt nonce plain).length = plain.length

namespace Broadcast

variable {priv : Priv} (b : Broadcast crypto priv)

def bytes : Bytes :=
  b.noise.bytes ++ interleaved b.chan (b.wrapper ++ b.handshake.packet) ++
    encodeItems b.encrypt b.items

def plain : Bytes := (plaintexts b.items).flatten

theorem settled_gate :
    (settled crypto absorbPlain priv .fresh b.bytes).gate =
      (plaintexts b.items).foldl absorbPlain .fresh := by
  have hfirst := feed_handshake crypto absorbPlain b.handshake b.wrapper_clean b.frame_length
    b.yields b.noise b.chan .fresh
  rw [feed_init] at hfirst
  obtain ⟨logged, hitems⟩ := feed_items crypto absorbPlain b.decrypts b.encrypt_length priv
    b.items false .fresh
  have hwhole := feed_settled crypto absorbPlain priv .fresh
    (b.noise.bytes ++ interleaved b.chan (b.wrapper ++ b.handshake.packet))
    (encodeItems b.encrypt b.items)
  rw [Except.ok.inj hfirst, hitems] at hwhole
  exact congrArg StreamDecoder.gate (Except.ok.inj hwhole).symm

theorem settled_out :
    ((∀ i, i ∉ markerOffsets b.plain) →
      (settled crypto absorbPlain priv .fresh b.bytes).gate.out = []) ∧
    ∀ k, IsLeast (markerOffsets b.plain) k → ∃ start, EmissionStart b.plain k start ∧
      (settled crypto absorbPlain priv .fresh b.bytes).gate.out = b.plain.drop start := by
  have hgate : GateOf b.plain (settled crypto absorbPlain priv .fresh b.bytes).gate := by
    rw [b.settled_gate]
    exact gateOf_pieces _
  generalize (settled crypto absorbPlain priv .fresh b.bytes).gate = gate at hgate
  cases hgate with
  | waiting c hc hnone => exact ⟨fun _ => rfl, fun k hk => absurd hk.1 (hnone k)⟩
  | started k' start hk' hstart =>
    refine ⟨fun hnone => absurd hk'.1 (hnone k'), fun k hk => ⟨start, ?_, rfl⟩⟩
    exact hk'.unique hk ▸ hstart

end Broadcast

private theorem absorbPlain_emits (g : KeyframeGate) (plain : Bytes) :
    g.out <+: (absorbPlain g plain).out := by
  unfold absorbPlain
  split
  · exact List.prefix_append _ _
  · dsimp only
    split
    · exact List.prefix_append _ _
    · split <;> exact List.prefix_rfl

variable (crypto) in
private theorem settled_emits (priv : Priv) {stream stream' : Bytes} (h : stream <+: stream') :
    (settled crypto absorbPlain priv .fresh stream).gate.out <+:
      (settled crypto absorbPlain priv .fresh stream').gate.out := by
  obtain ⟨more, rfl⟩ := h
  refine feed_invariant crypto absorbPlain
    (P := fun d => (settled crypto absorbPlain priv .fresh stream).gate.out <+: d.gate.out)
    (fun _ _ => id) (fun d payload d' houtcome hd => ?_)
    (feed_settled crypto absorbPlain priv .fresh stream more) List.prefix_rfl
  cases houtcome with
  | data hfirst hkey logged plain => exact hd.trans (absorbPlain_emits _ _)
  | _ => exact hd

/-- Taking after every read collects what one decoder of the whole stream emits. -/
theorem pumpAlone_settled (priv : Priv) (raws : List Bytes) :
    (pumpAlone crypto priv raws).1.flatten =
      (settled crypto absorbPlain priv .fresh raws.flatten).gate.out := by
  have hrun : (pumpAlone crypto priv raws).2.gate.out = [] ∧
      putBack (pumpAlone crypto priv raws).1.flatten (pumpAlone crypto priv raws).2 =
        settled crypto absorbPlain priv .fresh raws.flatten := by
    induction raws using List.reverseRecOn with
    | nil => exact ⟨rfl, rfl⟩
    | append_singleton raws raw ih =>
      obtain ⟨d, hd⟩ : ∃ d, feed crypto absorbPlain (pumpAlone crypto priv raws).2 raw = .ok d :=
        ⟨_, feed_eq ..⟩
      have hnext := feed_putBack crypto (pumpAlone crypto priv raws).1.flatten hd
      rw [ih.2, feed_settled] at hnext
      have hchunks : (pumpAlone crypto priv (raws ++ [raw])).1.flatten =
          (pumpAlone crypto priv raws).1.flatten ++ (take d).1 := by
        rw [pumpAlone_append, pumpRaw, hd]
        by_cases hempty : (take d).1 = []
        · simp [hempty]
        · simp [hempty]
      have hdecoder : (pumpAlone crypto priv (raws ++ [raw])).2 = (take d).2 := by
        rw [pumpAlone_append, pumpRaw, hd]
      rw [hchunks, hdecoder, putBack_take, List.flatten_append, List.flatten_singleton]
      exact ⟨rfl, (Except.ok.inj hnext).symm⟩
  rw [← hrun.2]
  simp [putBack, hrun.1]

/-- A session's text is what its decoder emitted for the bytes that were read. -/
theorem Pumped.text_eq {w : World Priv} {raws : SessionId → List Bytes}
    (h : Pumped crypto w raws) {n : SessionId} {priv : Priv} (hpriv : w.lanPriv n = some priv) :
    text n w.produced = (settled crypto absorbPlain priv .fresh (raws n).flatten).gate.out := by
  have htext : text n w.produced = (appended n w.produced).flatten := by
    rw [text, appended, List.flatMap_def]
  rw [htext]
  by_cases hn : w.pumps n = .absent
  · obtain ⟨hraws, happended⟩ := h.absent n hn
    rw [hraws, happended]
    rfl
  · obtain ⟨priv', d, hpriv', _, hfed⟩ := h.fed n hn
    obtain rfl : priv' = priv := Option.some.inj (hpriv'.symm.trans hpriv)
    rw [← pumpAlone_settled, hfed]

/-- What a viewer has been sent of a session. -/
def World.sent (w : World Priv) (n : SessionId) (c : ClientId) : Bytes :=
  ((w.logs c).received.filter fun p => p.source = n).flatMap Journal.Piece.data

/-- What was produced between a viewer's snapshot and its registration. -/
def World.missed (w : World Priv) (c : ClientId) : List (Entry UInt8 Audience) :=
  (w.produced.take ((w.logs c).registeredAt.getD w.produced.length)).drop (w.logs c).snapshotAt

private theorem text_pieces (n : SessionId) (j : List (Entry UInt8 Audience)) :
    ((j.map Entry.piece).filter fun p => p.source = n).flatMap Journal.Piece.data = text n j := by
  simp [text, List.filter_map, List.flatMap_map, Function.comp_def]

private theorem missed_eq {w : World Priv} {c : ClientId} {split : Split}
    (hs : Share c (w.view c) split) : w.missed c = split.gap := by
  have hproduced : w.produced = split.taken ++ (split.gap ++
      (split.live ++ (split.lost ++ split.after))) := by
    have hall := hs.produced
    simp only [Split.all, List.append_assoc] at hall
    exact hall
  have hsnapshot : (w.logs c).snapshotAt = split.taken.length := hs.snapshotAt
  cases hregistered : (w.logs c).registeredAt with
  | none =>
    obtain ⟨_, hlive, hlost, hafter⟩ := hs.unregistered hregistered
    rw [World.missed, hregistered, Option.getD_none, List.take_length, hsnapshot, hproduced, hlive,
      hlost, hafter]
    simp
  | some r =>
    have hr := hs.registered r hregistered
    rw [World.missed, hregistered, Option.getD_some, hr, hsnapshot, hproduced, ← List.append_assoc,
      List.take_left, List.drop_left]

/-- A viewer's bytes of a session are two stretches of its text: one up to its snapshot, and one
that nothing follows while it is served; between them is what it missed. -/
structure Stretches (w : World Priv) (n : SessionId) (c : ClientId)
    (front burst live rest : Bytes) : Prop where
  joined : text n (w.produced.take (w.logs c).snapshotAt) = front ++ burst
  whole : text n w.produced = front ++ (burst ++ (text n (w.missed c) ++ (live ++ rest)))
  sent : w.sent n c = burst ++ live
  served : w.writer = some c → w.transportClosing c = false → rest = []

private theorem sent_stretches {w : World Priv} {c : ClientId} {split : Split}
    (hs : Share c (w.view c) split) (n : SessionId) :
    ∃ front burst live rest, Stretches w n c front burst live rest := by
  have hproduced : w.produced = split.all := hs.produced
  have hsnapshot : (w.logs c).snapshotAt = split.taken.length := hs.snapshotAt
  obtain ⟨front, burst, hfront, hburst⟩ : ∃ front burst, text n split.taken = front ++ burst ∧
      ((w.logs c).burst.toList.filter fun p => p.source = n).flatMap Journal.Piece.data =
        burst := by
    cases hb : (w.logs c).burst with
    | none => exact ⟨text n split.taken, [], (List.append_nil _).symm, rfl⟩
    | some p =>
      obtain ⟨m, data, _, _, ⟨front, hfront⟩, rfl⟩ := hs.burst p hb
      by_cases hm : m = n
      · subst hm
        exact ⟨front, data, hfront.symm, by simp [Journal.tail]⟩
      · exact ⟨text n split.taken, [], (List.append_nil _).symm, by simp [Journal.tail, hm]⟩
  refine ⟨front, burst, text n split.live, text n (split.lost ++ split.after), ?_, ?_, ?_, ?_⟩
  · rw [hproduced, hsnapshot, Split.all]
    simp only [List.append_assoc]
    rw [List.take_left, hfront]
  · rw [hproduced, missed_eq hs]
    simp only [Split.all, Journal.text_append, hfront, List.append_assoc]
  · have hreceived : (w.logs c).received = (w.logs c).burst.toList ++ split.live.map Entry.piece :=
      hs.received
    rw [World.sent, hreceived, List.filter_append, List.flatMap_append, hburst, text_pieces]
  · intro hwriter hopen
    rw [hs.transport hopen, hs.current hwriter]
    rfl

/-- Of the session nothing was emitted if the plaintext has no keyframe marker. Otherwise the
session's text is the plaintext from the start that belongs to the first marker, as far as it was
read, and every viewer has two stretches of it, each without a gap and at the offset it was recorded
under: one that ends at its snapshot, and one from its registration on. -/
theorem viewer_sees_broadcast {s : World Priv × PumpLog} (h : (loggedRelay crypto).Reachable s)
    {n : SessionId} {priv : Priv} (hpriv : s.1.lanPriv n = some priv)
    (b : Broadcast crypto priv) (hread : (s.2.raws n).flatten <+: b.bytes) :
    ((∀ i, i ∉ markerOffsets b.plain) → text n s.1.produced = []) ∧
    ∀ k, IsLeast (markerOffsets b.plain) k → ∃ start, EmissionStart b.plain k start ∧
      text n s.1.produced <+: b.plain.drop start ∧
      ((s.2.raws n).flatten = b.bytes → text n s.1.produced = b.plain.drop start) ∧
      ∀ c, (s.1.logs c).received.Pairwise Journal.Piece.Before ∧
        (∀ p ∈ (s.1.logs c).received, p.source = n → p.In (b.plain.drop start)) ∧
        ∃ front burst live rest, Stretches s.1 n c front burst live rest := by
  have hpumped : Pumped crypto s.1 s.2.raws :=
    @pumped_of_reachable _ _ _ (fun _ _ => True) s h
  have htext := hpumped.text_eq hpriv
  have hprefix := settled_emits crypto priv hread
  rw [← htext] at hprefix
  obtain ⟨hnone, hstart⟩ := b.settled_out
  constructor
  · intro hno
    rw [hnone hno] at hprefix
    exact List.prefix_nil.1 hprefix
  · intro k hk
    obtain ⟨start, hemission, hout⟩ := hstart k hk
    rw [hout] at hprefix
    refine ⟨start, hemission, hprefix, fun hwhole => ?_, fun c => ?_⟩
    · rw [htext, hwhole, hout]
    · have hrelay : (relay crypto).Reachable s.1 :=
        @ReachableUnder.of_recording _ _ _ _ _ _ (fun _ _ => True) s h
      obtain ⟨split, hshare⟩ := (delivered_of_reachable hrelay c).share
      obtain ⟨hordered, hin⟩ :=
        received_ordered (recorded_of_reachable hrelay).journal hshare
      refine ⟨hordered, fun p hp hsource => ?_, sent_stretches hshare n⟩
      exact (hsource ▸ hin p hp).widen hprefix

private theorem basePoint_wrapper_clean : ¬ [0x24, 0x01] <:+: ([] : Bytes) := by decide

private theorem basePoint_frame_length : ([] ++ basePointHandshake.packet).length ≤ 65535 := by
  decide +kernel

private theorem basePoint_yields : basePointHandshake.Yields basePointCrypto () zeroKey :=
  ⟨basePointX, basePointX, by decide, by decide, by decide⟩

private theorem xorKeystream_length (nonce plain : Bytes) :
    (xorKeystream nonce plain).length = plain.length := by
  simp [xorKeystream]

def keyframeBroadcast : Broadcast basePointCrypto () where
  encrypt := xorKeystream
  key := zeroKey
  wrapper := []
  handshake := basePointHandshake
  noise := noNoise
  chan := 0
  items := basePointItems ++
    [(noNoise, .data (dataFrame [0x11, 0x12] (Nat.le_of_ble_eq_true rfl))),
     (noNoise, .data (dataFrame [0x13] (Nat.le_of_ble_eq_true rfl))),
     (noNoise, .data (dataFrame [0x14] (Nat.le_of_ble_eq_true rfl)))]
  wrapper_clean := basePoint_wrapper_clean
  frame_length := basePoint_frame_length
  yields := basePoint_yields
  decrypts nonce plain _ := congrArg Except.ok (xorKeystream_xorKeystream nonce plain)
  encrypt_length := xorKeystream_length

theorem viewer_sees_broadcast_keyframe :
    ∃ s : World Unit × PumpLog,
      (s.1.logs 0).received =
        [⟨0, 0, [0, 0, 1, 0xba, 0, 0, 0, 1, 0x67, 0x42]⟩, ⟨0, 12, [0x13]⟩] ∧
      ∃ start, text 0 s.1.produced = keyframeBroadcast.plain.drop start ∧
        ∀ p ∈ (s.1.logs 0).received, p.source = 0 → p.In (keyframeBroadcast.plain.drop start) := by
  obtain ⟨s, hs, hpriv, hread, hreceived⟩ :
      ∃ s, (loggedRelay basePointCrypto).Reachable s ∧ s.1.lanPriv 0 = some () ∧
        (s.2.raws 0).flatten = keyframeBroadcast.bytes ∧
        (s.1.logs 0).received =
          [⟨0, 0, [0, 0, 1, 0xba, 0, 0, 0, 1, 0x67, 0x42]⟩, ⟨0, 12, [0x13]⟩] :=
    ReachableUnder.of_replay deliveryRun (loggedRelay_init _) (by decide +kernel)
  obtain ⟨k, hk⟩ : ∃ k, IsLeast (markerOffsets keyframeBroadcast.plain) k := by
    rcases findKeyframe_spec keyframeBroadcast.plain with ⟨hnone, _⟩ | ⟨k, _, hk⟩
    · exact absurd hnone (by decide)
    · exact ⟨k, hk⟩
  obtain ⟨start, _, _, hwhole, hviewers⟩ :=
    (viewer_sees_broadcast hs hpriv keyframeBroadcast (hread ▸ List.prefix_rfl)).2 k hk
  exact ⟨s, hreceived, start, hwhole hread, (hviewers 0).2.1⟩

end EzvizHp7.Relay
