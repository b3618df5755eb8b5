import EzvizHp7.Cpd7.Decoder

/-!
# Feeding is independent of TCP segmentation

Every decision of the framing loop is stable under more bytes, so a stream may be cut anywhere
and drained at any time: the decoder and the output are those of one call on the whole stream.
-/

namespace EzvizHp7.Cpd7

open Settle

variable {Priv Pub γ : Type} (crypto : Crypto Priv Pub) (absorb : γ → Bytes → γ)

/-- `self._buf.extend(data)` -/
def StreamDecoder.push (d : StreamDecoder Priv γ) (data : Bytes) : StreamDecoder Priv γ :=
  { d with buf := d.buf ++ data }

theorem nextChunk_length (d d' : StreamDecoder Priv γ)
    (h : nextChunk crypto absorb d = some d') : d'.buf.length < d.buf.length := by
  rw [nextChunk_eq] at h
  obtain ⟨⟨frame, rest⟩, hsplit, rfl⟩ := Option.map_eq_some_iff.mp h
  exact splitFrame_length hsplit

/-- A round that is possible stays possible, and does the same, when more bytes have arrived. -/
theorem nextChunk_push (data : Bytes) (d d' : StreamDecoder Priv γ)
    (h : nextChunk crypto absorb d = some d') :
    nextChunk crypto absorb (d.push data) = some (d'.push data) := by
  rw [nextChunk_eq] at h ⊢
  obtain ⟨⟨frame, rest⟩, hsplit, rfl⟩ := Option.map_eq_some_iff.mp h
  have happend : splitFrame (d.push data).buf = some (frame, rest ++ data) :=
    splitFrame_append data hsplit
  rw [happend, Option.map_some]
  congr 1
  exact congrArg (·.withBuf (rest ++ data)) (applyFrame_withBuf crypto absorb _ d frame)

def settled (priv : Priv) (gate : γ) (stream : Bytes) : StreamDecoder Priv γ :=
  settle (nextChunk crypto absorb) stream.length ((StreamDecoder.init priv gate).push stream)

theorem feed_init (priv : Priv) (gate : γ) (stream : Bytes) :
    feed crypto absorb (.init priv gate) stream = .ok (settled crypto absorb priv gate stream) := by
  rw [feed_eq]
  split
  · rename_i hnil
    rw [hnil]
    rfl
  · rfl

private theorem settle_push_fuel {m n : Nat} (d : StreamDecoder Priv γ)
    (hm : d.buf.length ≤ m) (hn : d.buf.length ≤ n) :
    settle (nextChunk crypto absorb) m d = settle (nextChunk crypto absorb) n d :=
  settle_fuel (μ := fun d => d.buf.length) (nextChunk_length crypto absorb) hm hn

theorem feed_settled (priv : Priv) (gate : γ) (stream data : Bytes) :
    feed crypto absorb (settled crypto absorb priv gate stream) data =
      .ok (settled crypto absorb priv gate (stream ++ data)) := by
  rw [feed_eq]
  split
  · rename_i hnil
    rw [hnil, List.append_nil]
  · congr 1
    let d := settled crypto absorb priv gate stream
    have hlen : d.buf.length ≤ stream.length :=
      settle_invariant (P := fun e : StreamDecoder Priv γ => e.buf.length ≤ stream.length)
        (fun s s' hstep hs => (nextChunk_length crypto absorb s s' hstep).le.trans hs) _
        (by simp [StreamDecoder.push, StreamDecoder.init])
    have hpush : ((StreamDecoder.init priv gate).push stream).push data =
        (StreamDecoder.init priv gate).push (stream ++ data) := by
      simp [StreamDecoder.push]
    calc settle (nextChunk crypto absorb) (d.buf ++ data).length (d.push data)
        = settle (nextChunk crypto absorb) (stream ++ data).length (d.push data) :=
          settle_push_fuel crypto absorb _ le_rfl
            (by simp only [StreamDecoder.push, List.length_append]; omega)
      _ = settle (nextChunk crypto absorb) (stream ++ data).length
            (((StreamDecoder.init priv gate).push stream).push data) :=
          settle_settle (μ := fun d => d.buf.length) (nextChunk_length crypto absorb)
            (nextChunk_push crypto absorb data) _
            (by simp [StreamDecoder.push, StreamDecoder.init])
      _ = settled crypto absorb priv gate (stream ++ data) := by rw [hpush]; rfl

inductive DecoderCall
  | feed (data : Bytes)
  | take

def runCalls : List DecoderCall → Bytes × Cpd7Decoder Priv →
    Except String (Bytes × Cpd7Decoder Priv)
  | [], r => .ok r
  | .feed data :: calls, (taken, d) =>
    (feed crypto absorbPlain d data).bind fun d' => runCalls calls (taken, d')
  | .take :: calls, (taken, d) =>
    runCalls calls (taken ++ (take d).1, (take d).2)

def fedBytes : List DecoderCall → Bytes
  | [] => []
  | .feed data :: calls => data ++ fedBytes calls
  | .take :: calls => fedBytes calls

/-- The decoder with bytes already taken put back in front of its output. -/
def putBack (taken : Bytes) (d : Cpd7Decoder Priv) : Cpd7Decoder Priv :=
  { d with gate := { d.gate with out := taken ++ d.gate.out } }

theorem putBack_take (taken : Bytes) (d : Cpd7Decoder Priv) :
    putBack (taken ++ (take d).1) (take d).2 = putBack taken d := by
  simp [putBack, take, KeyframeGate.take]

private theorem absorbPlain_out (taken : Bytes) (g : KeyframeGate) (plain : Bytes) :
    absorbPlain { g with out := taken ++ g.out } plain =
      { absorbPlain g plain with out := taken ++ (absorbPlain g plain).out } := by
  simp only [absorbPlain]
  by_cases hstarted : g.mpegStarted = true
  · simp only [hstarted, if_true, List.append_assoc]
  · simp only [hstarted, Bool.false_eq_true, if_false]
    by_cases hkf : 0 ≤ findKeyframe (g.pending ++ plain)
    · simp only [if_pos hkf, List.append_assoc]
    · simp only [if_neg hkf]
      by_cases hlong : maxPreKeyframeBuf < (g.pending ++ plain).length
      · simp only [if_pos hlong]
      · simp only [if_neg hlong]

private theorem nextChunk_putBack (taken : Bytes) (d : Cpd7Decoder Priv) :
    nextChunk crypto absorbPlain (putBack taken d) =
      (nextChunk crypto absorbPlain d).map (putBack taken) := by
  have happly (frame : Option (UInt8 × Bytes)) :
      applyFrame crypto absorbPlain (putBack taken d) frame =
        putBack taken ((applyFrame crypto absorbPlain d frame).withBuf d.buf) :=
    applyFrame_map crypto absorbPlain
      (f := fun g : KeyframeGate => { g with out := taken ++ g.out }) (absorbPlain_out taken)
      d.buf d frame
  rw [nextChunk_eq, nextChunk_eq, Option.map_map]
  change (splitFrame d.buf).map _ = _
  congr 1
  funext r
  rw [happly]
  rfl

theorem feed_putBack (taken : Bytes) {d d' : Cpd7Decoder Priv} {data : Bytes}
    (h : feed crypto absorbPlain d data = .ok d') :
    feed crypto absorbPlain (putBack taken d) data = .ok (putBack taken d') := by
  rw [feed_eq] at h ⊢
  rw [← Except.ok.inj h]
  split
  · rfl
  · congr 1
    exact settle_map (nextChunk_putBack crypto taken) _ (d.push data)

private theorem runCalls_putBack (priv : Priv) (calls : List DecoderCall) {stream taken : Bytes}
    {d : Cpd7Decoder Priv}
    (h : putBack taken d = settled crypto absorbPlain priv .fresh stream) :
    ∃ taken' d', runCalls crypto calls (taken, d) = .ok (taken', d') ∧
      putBack taken' d' = settled crypto absorbPlain priv .fresh (stream ++ fedBytes calls) := by
  induction calls generalizing stream taken d with
  | nil => exact ⟨taken, d, rfl, by rw [fedBytes, List.append_nil, h]⟩
  | cons call calls ih =>
    cases call with
    | feed data =>
      obtain ⟨d₁, hd₁⟩ : ∃ d₁, feed crypto absorbPlain d data = .ok d₁ := ⟨_, feed_eq ..⟩
      have hnext : putBack taken d₁ =
          settled crypto absorbPlain priv .fresh (stream ++ data) := by
        have hp := feed_putBack crypto taken hd₁
        rw [h, feed_settled] at hp
        exact (Except.ok.inj hp).symm
      obtain ⟨taken', d', hrun, hend⟩ := ih hnext
      refine ⟨taken', d', ?_, by rw [fedBytes, ← List.append_assoc, hend]⟩
      rw [runCalls, hd₁]
      exact hrun
    | take => exact ih (by rw [putBack_take, h])

/-- Cutting the stream differently and taking in between changes neither the collected output
nor the decoder in the end. -/
theorem runCalls_segmentation (priv : Priv) (calls : List DecoderCall) :
    ∃ taken d whole, runCalls crypto calls ([], .fresh priv) = .ok (taken, d) ∧
      feed crypto absorbPlain (Cpd7Decoder.fresh priv) (fedBytes calls) = .ok whole ∧
      taken ++ (take d).1 = (take whole).1 ∧ (take d).2 = (take whole).2 := by
  have hinit : putBack [] (Cpd7Decoder.fresh priv) =
      settled crypto absorbPlain priv .fresh [] := rfl
  obtain ⟨taken, d, hrun, hend⟩ := runCalls_putBack crypto priv calls hinit
  rw [List.nil_append] at hend
  refine ⟨taken, d, _, hrun, feed_init crypto absorbPlain priv .fresh _, ?_⟩
  rw [← hend]
  exact ⟨rfl, rfl⟩

end EzvizHp7.Cpd7
