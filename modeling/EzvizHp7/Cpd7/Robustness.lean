import EzvizHp7.Cpd7.Wire

/-!
# The decoder on hostile input

The bytes come from the network and may be anything, and every cryptographic call may fail. The
decoder never raises, always comes to rest with less than a frame in its buffer, holds back a
bounded amount of plaintext, and emits nothing without a key derived from a complete key field.
-/

namespace EzvizHp7.Cpd7

open Settle

variable {Priv Pub γ : Type} {crypto : Crypto Priv Pub}

/-- Fewer bytes than a frame header, or less than the frame its header announces. -/
def PartialFrame (buf : Bytes) : Prop :=
  buf.length < 4 ∨ ∃ chan hi lo rest, buf = 0x24 :: chan :: hi :: lo :: rest ∧
    rest.length < hi.toNat * 256 + lo.toNat

theorem PartialFrame.length_le {buf : Bytes} (h : PartialFrame buf) : buf.length ≤ 65538 := by
  rcases h with h | ⟨chan, hi, lo, rest, rfl, h⟩
  · omega
  · have := hi.toNat_lt
    have := lo.toNat_lt
    simp only [List.length_cons]
    omega

private theorem partialFrame_of_splitFrame {buf : Bytes} (h : splitFrame buf = none) :
    PartialFrame buf := by
  unfold splitFrame at h
  split at h
  · rename_i b0 chan hi lo rest
    split at h
    · cases h
    · rename_i h0
      dsimp only at h
      split at h
      · rename_i hlen
        have h0 : b0 = 0x24 := not_not.mp h0
        subst h0
        exact .inr ⟨chan, hi, lo, rest, rfl, hlen⟩
      · cases h
  · rename_i hshort
    refine .inl ?_
    match buf, hshort with
    | [], _ | [_], _ | [_, _], _ | [_, _, _], _ => simp
    | b0 :: chan :: hi :: lo :: rest, hshort => exact absurd rfl (hshort b0 chan hi lo rest)

/-- The loop ends because no round is possible, not for want of fuel. -/
theorem feed_rest (absorb : γ → Bytes → γ) {d d' : StreamDecoder Priv γ} {data : Bytes}
    (hd : splitFrame d.buf = none) (h : feed crypto absorb d data = .ok d') :
    splitFrame d'.buf = none := by
  rw [feed_eq] at h
  cases h
  split
  · exact hd
  · have hrest := settle_rest (μ := fun d => d.buf.length) (nextChunk_length crypto absorb)
      (n := (d.buf ++ data).length) (s := { d with buf := d.buf ++ data }) le_rfl
    rw [nextChunk_eq] at hrest
    exact Option.map_eq_none_iff.mp hrest

structure KeyframeGate.Bounded (g : KeyframeGate) : Prop where
  pending : g.pending.length ≤ maxPreKeyframeBuf
  waiting : g.mpegStarted = false → g.out = []
  started : g.mpegStarted = true → g.pending = []

theorem KeyframeGate.Bounded.absorbPlain {g : KeyframeGate} (h : g.Bounded) (plain : Bytes) :
    (absorbPlain g plain).Bounded := by
  unfold Cpd7.absorbPlain
  split
  · rename_i hstarted
    exact ⟨h.pending, fun hw => absurd (hstarted.symm.trans hw) (by decide), h.started⟩
  · rename_i hwaiting
    have hout : g.out = [] := h.waiting (Bool.eq_false_of_not_eq_true hwaiting)
    dsimp only
    split
    · exact ⟨Nat.zero_le _, fun hw => Bool.noConfusion hw, fun _ => rfl⟩
    · split
      · refine ⟨?_, fun _ => hout, fun hs => absurd hs hwaiting⟩
        simp only [List.length_drop, maxPreKeyframeBuf]
        omega
      · rename_i hlong
        exact ⟨Nat.not_lt.mp hlong, fun _ => hout, fun hs => absurd hs hwaiting⟩

theorem KeyframeGate.Bounded.take {g : KeyframeGate} (h : g.Bounded) : g.take.2.Bounded :=
  ⟨h.pending, fun _ => rfl, h.started⟩

/-- The key is the decryption of a complete key field of the packet, which its header length
byte may have shifted anywhere, and the public key next to it loads. -/
def KeyFromField (crypto : Crypto Priv Pub) (priv : Priv) (payload key : Bytes) : Prop :=
  ∃ pkt peer shared, pkt <:+ payload ∧
    let headerLen := (pkt.getD 2 0).toNat
    let encryptedKey := (pkt.drop (0x0B + headerLen)).take 32
    encryptedKey.length = 32 ∧
      crypto.loadDerPublicKey ((pkt.drop (0x2B + headerLen)).take 91) = .ok peer ∧
      crypto.exchange priv peer = .ok shared ∧
      crypto.aesEcbDecrypt shared encryptedKey = .ok key

/-- The public key field follows the key field, so where it is not empty the key field is
complete. -/
theorem keyFromField_of_deriveKeys (hempty : ∀ peer, crypto.loadDerPublicKey [] ≠ .ok peer)
    {priv : Priv} {payload key : Bytes} (h : deriveKeys crypto priv payload = .ok key) :
    KeyFromField crypto priv payload key := by
  unfold deriveKeys at h
  dsimp only at h
  split at h
  · cases h
  · simp only [bind, Except.bind] at h
    split at h
    · cases h
    · split at h
      · cases h
      · rename_i peer hpeer
        split at h
        · cases h
        · rename_i shared hshared
          refine ⟨_, peer, shared, List.drop_suffix _ _, ?_, hpeer, hshared, h⟩
          by_contra hshort
          refine hempty peer (Eq.trans (congrArg _ ?_) hpeer)
          rw [eq_comm, List.take_eq_nil_iff, List.drop_eq_nil_iff]
          rw [List.length_take, List.length_drop] at hshort
          omega

/-- The payload of the first frame that the fed bytes hold, behind bytes that start none. -/
def FirstFrame (fed payload : Bytes) : Prop :=
  ∃ before chan hi lo after, 0x24 ∉ before ∧ payload.length = hi.toNat * 256 + lo.toNat ∧
    fed = before ++ 0x24 :: chan :: hi :: lo :: (payload ++ after)

theorem FirstFrame.append {fed payload : Bytes} (h : FirstFrame fed payload) (more : Bytes) :
    FirstFrame (fed ++ more) payload := by
  obtain ⟨before, chan, hi, lo, after, hbefore, hlen, rfl⟩ := h
  refine ⟨before, chan, hi, lo, after ++ more, hbefore, hlen, ?_⟩
  simp only [List.append_assoc, List.cons_append]

private theorem splitFrame_cases {buf rest : Bytes} {frame : Option (UInt8 × Bytes)}
    (h : splitFrame buf = some (frame, rest)) :
    (frame = none ∧ ∃ b0, b0 ≠ 0x24 ∧ buf = b0 :: rest) ∨
    ∃ chan hi lo payload, frame = some (chan, payload) ∧
      payload.length = hi.toNat * 256 + lo.toNat ∧
      buf = 0x24 :: chan :: hi :: lo :: (payload ++ rest) := by
  unfold splitFrame at h
  split at h
  · rename_i b0 chan hi lo more
    split at h
    · rename_i hstray
      cases h
      exact .inl ⟨rfl, b0, hstray, rfl⟩
    · rename_i hstart
      dsimp only at h
      split at h
      · cases h
      · rename_i hlen
        cases h
        refine .inr ⟨chan, hi, lo, _, rfl, List.length_take_of_le (Nat.not_lt.mp hlen), ?_⟩
        rw [not_not.mp hstart, List.take_append_drop]
  · cases h

/-- Where a decoder stands in the fed bytes: in front of the first frame, or behind it with the key
that was derived from it, if one was. -/
structure Opened (crypto : Crypto Priv Pub) (priv : Priv) (fed : Bytes)
    (d : StreamDecoder Priv γ) : Prop where
  held : d.priv = priv
  waiting : d.firstChunkConsumed = false →
    d.chacha20Key = none ∧ ∃ before, 0x24 ∉ before ∧ fed = before ++ d.buf
  opened : d.firstChunkConsumed = true → ∃ payload, FirstFrame fed payload ∧
    ∀ key, d.chacha20Key = some key → deriveKeys crypto priv payload = .ok key

variable {priv : Priv} {fed : Bytes} {d d' : StreamDecoder Priv γ}

theorem Opened.receive (h : Opened crypto priv fed d) (data : Bytes) :
    Opened crypto priv (fed ++ data) { d with buf := d.buf ++ data } := by
  refine ⟨h.held, fun hwaiting => ?_, fun hopened => ?_⟩
  · obtain ⟨hkey, before, hbefore, rfl⟩ := h.waiting hwaiting
    exact ⟨hkey, before, hbefore, List.append_assoc ..⟩
  · obtain ⟨payload, hfirst, hkey⟩ := h.opened hopened
    exact ⟨payload, hfirst.append data, hkey⟩

theorem Opened.next {absorb : γ → Bytes → γ} (h : Opened crypto priv fed d)
    (hstep : nextChunk crypto absorb d = some d') : Opened crypto priv fed d' := by
  rw [nextChunk_eq] at hstep
  obtain ⟨⟨frame, rest⟩, hsplit, rfl⟩ := Option.map_eq_some_iff.mp hstep
  rcases splitFrame_cases hsplit with ⟨rfl, b0, hstray, hbuf⟩ |
      ⟨chan, hi, lo, payload, rfl, hlen, hbuf⟩
  · refine ⟨h.held, fun hwaiting => ?_, h.opened⟩
    obtain ⟨hkey, before, hbefore, hfed⟩ := h.waiting hwaiting
    refine ⟨hkey, before ++ [b0], ?_, ?_⟩
    · simp [hbefore, hstray.symm]
    · rw [hfed, hbuf, List.append_assoc]
      rfl
  · have houtcome := handled_outcome crypto absorb d chan payload
    simp only [applyFrame]
    generalize handled crypto absorb d chan payload = e at houtcome ⊢
    cases houtcome with
    | handshake hfirst key hkey =>
      obtain ⟨hnone, before, hbefore, hfed⟩ := h.waiting hfirst
      refine ⟨h.held, fun hwaiting => Bool.noConfusion hwaiting, fun _ => ?_⟩
      refine ⟨payload, ⟨before, chan, hi, lo, rest, hbefore, hlen, hbuf ▸ hfed⟩, fun k hk => ?_⟩
      have hk : key = some k := hk
      rcases hkey with hkept | ⟨derived, hset, hderived⟩
      · rw [hkept, hnone] at hk
        cases hk
      · rw [← Option.some.inj (hset.symm.trans hk), ← h.held]
        exact hderived
    | passed hfirst | data hfirst =>
      exact ⟨h.held, fun hwaiting => absurd (hfirst.symm.trans hwaiting) (by decide), h.opened⟩

theorem Opened.feed {absorb : γ → Bytes → γ} (h : Opened crypto priv fed d) {data : Bytes}
    (hfeed : feed crypto absorb d data = .ok d') : Opened crypto priv (fed ++ data) d' := by
  rw [feed_eq] at hfeed
  cases hfeed
  split
  · rename_i hempty
    rw [hempty, List.append_nil]
    exact h
  · exact settle_invariant (P := Opened crypto priv (fed ++ data))
      (fun e e' hstep he => he.next hstep) _ (h.receive data)

theorem Opened.runCalls {calls : List DecoderCall} {taken taken' : Bytes}
    {d d' : Cpd7Decoder Priv} (h : Opened crypto priv fed d)
    (hrun : runCalls crypto calls (taken, d) = .ok (taken', d')) :
    Opened crypto priv (fed ++ fedBytes calls) d' := by
  induction calls generalizing fed taken d with
  | nil =>
    cases hrun
    rw [fedBytes, List.append_nil]
    exact h
  | cons call calls ih =>
    cases call with
    | feed data =>
      obtain ⟨d₁, hd₁⟩ : ∃ d₁, Cpd7.feed crypto absorbPlain d data = .ok d₁ := ⟨_, feed_eq ..⟩
      rw [Cpd7.runCalls, hd₁] at hrun
      rw [fedBytes, ← List.append_assoc]
      exact ih (h.feed hd₁) hrun
    | take =>
      rw [Cpd7.runCalls] at hrun
      exact ih (d := (Cpd7.take d).2) ⟨h.held, h.waiting, h.opened⟩ hrun

/-- What holds of a decoder between calls, with `fed` and `taken` what has been fed to it and taken
from it so far. -/
structure Robust (crypto : Crypto Priv Pub) (priv : Priv) (fed taken : Bytes)
    (d : Cpd7Decoder Priv) : Prop where
  partialFrame : PartialFrame d.buf
  bufLength : d.buf.length ≤ 65538
  pending : d.gate.pending.length ≤ maxPreKeyframeBuf
  waiting : d.gate.mpegStarted = false → d.gate.out = []
  started : d.gate.mpegStarted = true → d.gate.pending = []
  unkeyed : d.chacha20Key = none → taken = [] ∧ d.gate.out = []
  keyed : ∀ key, d.chacha20Key = some key → ∃ payload, FirstFrame fed payload ∧
    deriveKeys crypto priv payload = .ok key ∧ KeyFromField crypto priv payload key

private structure Sound (d : Cpd7Decoder Priv) : Prop where
  gate : d.gate.Bounded
  fresh : d.firstChunkConsumed = false → d.chacha20Key = none
  unkeyed : d.chacha20Key = none → d.gate.out = []

private theorem sound_frame {d d' : Cpd7Decoder Priv} {payload : Bytes}
    (houtcome : FrameOutcome crypto absorbPlain d payload d') (h : Sound d) : Sound d' := by
  cases houtcome with
  | handshake hfirst key hkey =>
    exact ⟨h.gate, by simp, fun _ => h.unkeyed (h.fresh hfirst)⟩
  | passed hfirst logged => exact ⟨h.gate, h.fresh, h.unkeyed⟩
  | data hfirst hkey logged plain hplain =>
    exact ⟨h.gate.absorbPlain plain, h.fresh, fun hnone => absurd hnone hkey⟩

private theorem runCalls_sound (calls : List DecoderCall) {taken : Bytes} {d : Cpd7Decoder Priv}
    (hrest : splitFrame d.buf = none) (hsound : Sound d)
    (htaken : d.chacha20Key = none → taken = []) :
    ∃ taken' d', runCalls crypto calls (taken, d) = .ok (taken', d') ∧
      splitFrame d'.buf = none ∧ Sound d' ∧ (d'.chacha20Key = none → taken' = []) := by
  induction calls generalizing taken d with
  | nil => exact ⟨taken, d, rfl, hrest, hsound, htaken⟩
  | cons call calls ih =>
    cases call with
    | feed data =>
      obtain ⟨d₁, hd₁⟩ : ∃ d₁, feed crypto absorbPlain d data = .ok d₁ := ⟨_, feed_eq ..⟩
      have hsound₁ : Sound d₁ :=
        feed_invariant crypto absorbPlain (fun d b hd => ⟨hd.gate, hd.fresh, hd.unkeyed⟩)
          (fun d payload d' houtcome hd => sound_frame houtcome hd) hd₁ hsound
      have hkeep : d₁.chacha20Key = none → d.chacha20Key = none :=
        feed_invariant crypto absorbPlain
          (P := fun e : Cpd7Decoder Priv => (e.firstChunkConsumed = false → e.chacha20Key = none) ∧
            (e.chacha20Key = none → d.chacha20Key = none))
          (fun _ _ => id) (fun e payload e' houtcome he => by
            cases houtcome with
            | handshake hfirst key hkey => exact ⟨by simp, fun _ => he.2 (he.1 hfirst)⟩
            | passed => exact he
            | data => exact he) hd₁ ⟨hsound.fresh, id⟩ |>.2
      obtain ⟨taken', d', hrun, hend⟩ :=
        ih (feed_rest absorbPlain hrest hd₁) hsound₁ fun hnone => htaken (hkeep hnone)
      refine ⟨taken', d', ?_, hend⟩
      rw [runCalls, hd₁]
      exact hrun
    | take =>
      refine ih hrest ⟨hsound.gate.take, hsound.fresh, fun _ => rfl⟩ fun hnone => ?_
      have hout : d.gate.out = [] := hsound.unkeyed hnone
      rw [htaken hnone]
      exact hout

/-- Whatever is fed, in whatever pieces, and however the cryptographic calls behave. -/
theorem runCalls_robust (hempty : ∀ peer, crypto.loadDerPublicKey [] ≠ .ok peer) (priv : Priv)
    (calls : List DecoderCall) :
    ∃ taken d, runCalls crypto calls ([], .fresh priv) = .ok (taken, d) ∧
      Robust crypto priv (fedBytes calls) taken d ∧
      consumeOneChunk crypto absorbPlain d = .ok none ∧
      ∀ data, ∃ d', feed crypto absorbPlain d data = .ok d' ∧
        (d.firstChunkConsumed = true → d'.chacha20Key = d.chacha20Key) := by
  have hfresh : Sound (Cpd7Decoder.fresh priv) :=
    ⟨⟨Nat.zero_le _, fun _ => rfl, fun _ => rfl⟩, fun _ => rfl, fun _ => rfl⟩
  have hstart : Opened crypto priv [] (Cpd7Decoder.fresh priv) :=
    ⟨rfl, fun _ => ⟨rfl, [], List.not_mem_nil, rfl⟩, fun hopened => Bool.noConfusion hopened⟩
  obtain ⟨taken, d, hrun, hrest, hsound, htaken⟩ :
      ∃ taken d, runCalls crypto calls ([], Cpd7Decoder.fresh priv) = .ok (taken, d) ∧
        splitFrame d.buf = none ∧ Sound d ∧ (d.chacha20Key = none → taken = []) :=
    runCalls_sound calls rfl hfresh fun _ => rfl
  have hopened : Opened crypto priv (fedBytes calls) d := hstart.runCalls hrun
  have hrested := partialFrame_of_splitFrame hrest
  refine ⟨taken, d, hrun, ⟨hrested, hrested.length_le, hsound.gate.pending, hsound.gate.waiting,
    hsound.gate.started, fun hnone => ⟨htaken hnone, hsound.unkeyed hnone⟩, ?_⟩, ?_, ?_⟩
  · intro key hkey
    have hconsumed : d.firstChunkConsumed = true := by
      by_contra hwaiting
      rw [hsound.fresh (Bool.eq_false_of_not_eq_true hwaiting)] at hkey
      cases hkey
    obtain ⟨payload, hfirst, hderived⟩ := hopened.opened hconsumed
    have hderived := hderived key hkey
    exact ⟨payload, hfirst, hderived, keyFromField_of_deriveKeys hempty hderived⟩
  · rw [consumeOneChunk_eq, nextChunk_eq, hrest]
    rfl
  · intro data
    refine ⟨_, feed_eq crypto absorbPlain d data, fun hfirst => ?_⟩
    exact (feed_invariant crypto absorbPlain
      (P := fun e : Cpd7Decoder Priv =>
        e.firstChunkConsumed = true ∧ e.chacha20Key = d.chacha20Key)
      (fun _ _ => id) (fun e payload e' houtcome he => by
        cases houtcome with
        | handshake hfirst => rw [he.1] at hfirst; cases hfirst
        | passed => exact he
        | data => exact he) (feed_eq crypto absorbPlain d data) ⟨hfirst, rfl⟩).2

theorem runCalls_robust_basePoint :
    ∃ taken d, runCalls basePointCrypto [.feed cameraBytes, .take, .feed [0x24]]
        ([], .fresh ()) = .ok (taken, d) ∧
      Robust basePointCrypto () (cameraBytes ++ [0x24]) taken d := by
  have hempty (peer : Bytes) : basePointCrypto.loadDerPublicKey [] ≠ .ok peer := by
    intro hloaded
    cases hloaded
  obtain ⟨taken, d, hrun, hrobust, _⟩ :=
    runCalls_robust hempty () [.feed cameraBytes, .take, .feed [0x24]]
  exact ⟨taken, d, hrun, hrobust⟩

end EzvizHp7.Cpd7
