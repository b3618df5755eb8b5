import EzvizHp7.Cpd7.Crypto
import EzvizHp7.Library.Settle

/-!
# The incremental stream decoder

`StreamDecoder` splits the play socket's bytes into interleaved frames, derives the session key
from the first one and decrypts the others. The plaintext goes to a sink: the keyframe gate in
the source, an arbitrary type here wherever only the framing matters.
-/

namespace EzvizHp7.Cpd7

open Occurrence Settle

def hmacTrailerSize : Nat := 32

/-- The fields of a decoder; `gate` holds those of its plaintext sink. -/
structure StreamDecoder (Priv γ : Type) where
  priv : Priv
  buf : Bytes
  chacha20Key : Option Bytes
  firstChunkConsumed : Bool
  firstDecryptLogged : Bool
  gate : γ
  deriving DecidableEq

def StreamDecoder.init {Priv γ : Type} (priv : Priv) (gate : γ) : StreamDecoder Priv γ :=
  ⟨priv, [], none, false, false, gate⟩

variable {Priv Pub γ : Type} (crypto : Crypto Priv Pub) (absorb : γ → Bytes → γ)

def deriveKeys (priv : Priv) (chunk0 : Bytes) : Except String Bytes := do
  let off := find [0x24, 0x01] chunk0
  if off < 0 then
    throw ("handshake chunk missing $\\x01 marker (first 32B: " ++ hex (chunk0.take 32) ++ ")")
  let pkt := chunk0.drop off.toNat
  if pkt.length < 0x2B + 91 then
    throw ("handshake packet too short: " ++ toString pkt.length ++ "B")
  let headerLen := (pkt.getD 2 0).toNat
  let encryptedKey := (pkt.drop (0x0B + headerLen)).take 32
  let peerPub := (pkt.drop (0x2B + headerLen)).take 91
  let peer ← crypto.loadDerPublicKey peerPub
  let shared ← crypto.exchange priv peer
  crypto.aesEcbDecrypt shared encryptedKey

def decryptDataChunk (d : StreamDecoder Priv γ) (chunk : Bytes) :
    Except String (StreamDecoder Priv γ × Bytes) :=
  if chunk.length < 4 then .ok (d, [])
  else
    match d.chacha20Key with
    | none => .ok (d, [])
    | some key =>
      let pkt := chunk.drop 4
      if pkt.take 2 ≠ [0x24, 0x02] then .ok (d, [])
      else if pkt.length < 0x0B + hmacTrailerSize then .ok (d, [])
      else
        (nonce12b ((pkt.drop 7).take 4)).map fun nonce =>
          let body := (pkt.drop 0x0B).take (pkt.length - hmacTrailerSize - 0x0B)
          match crypto.chacha20Decrypt key nonce body with
          | .error _ => (d, [])
          | .ok plain =>
            if d.firstDecryptLogged = false ∧ plain ≠ [] then
              ({ d with firstDecryptLogged := true }, plain)
            else (d, plain)

def handleChunk (d : StreamDecoder Priv γ) (chan : UInt8) (payload : Bytes) :
    Except String (StreamDecoder Priv γ) :=
  if d.firstChunkConsumed = false then
    let d := { d with firstChunkConsumed := true }
    match deriveKeys crypto d.priv payload with
    | .ok key => .ok { d with chacha20Key := some key }
    | .error _ => .ok d
  else if chan ≠ 0x01 then .ok d
  else if d.chacha20Key = none then .ok d
  else
    (decryptDataChunk crypto d payload).map fun (d, plain) =>
      if plain ≠ [] then { d with gate := absorb d.gate plain } else d

/-- One round of the loop in `feed`: `none` when more data is needed, else the decoder with a
frame handled or a stray byte skipped. -/
def consumeOneChunk (d : StreamDecoder Priv γ) : Except String (Option (StreamDecoder Priv γ)) :=
  match d.buf with
  | b0 :: chan :: hi :: lo :: rest =>
    if b0 ≠ 0x24 then .ok (some { d with buf := chan :: hi :: lo :: rest })
    else
      let plen := hi.toNat * 256 + lo.toNat
      if rest.length < plen then .ok none
      else
        (handleChunk crypto absorb { d with buf := rest.drop plen } chan (rest.take plen)).map some
  | _ => .ok none

/-- `while self._consume_one_chunk(): pass`, with fuel. -/
def consumeChunks : Nat → StreamDecoder Priv γ → Except String (StreamDecoder Priv γ)
  | 0, d => .ok d
  | n + 1, d =>
    match consumeOneChunk crypto absorb d with
    | .error e => .error e
    | .ok none => .ok d
    | .ok (some d') => consumeChunks n d'

/-- Every round removes at least one byte, so the buffered length is fuel enough. -/
def feed (d : StreamDecoder Priv γ) (data : Bytes) : Except String (StreamDecoder Priv γ) :=
  if data = [] then .ok d
  else
    let d := { d with buf := d.buf ++ data }
    consumeChunks crypto absorb d.buf.length d

/-- The decoder of the source: its sink is the keyframe gate. -/
abbrev Cpd7Decoder (Priv : Type) := StreamDecoder Priv KeyframeGate

def Cpd7Decoder.fresh (priv : Priv) : Cpd7Decoder Priv := .init priv .fresh

def take (d : Cpd7Decoder Priv) : Bytes × Cpd7Decoder Priv :=
  (d.gate.take.1, { d with gate := d.gate.take.2 })

private theorem decryptDataChunk_ok (d : StreamDecoder Priv γ) (chunk : Bytes) :
    ∃ r, decryptDataChunk crypto d chunk = .ok r := by
  unfold decryptDataChunk
  split
  · exact ⟨_, rfl⟩
  · split
    · exact ⟨_, rfl⟩
    · dsimp only
      split
      · exact ⟨_, rfl⟩
      · split
        · exact ⟨_, rfl⟩
        · rename_i hlen
          have hfour : (((chunk.drop 4).drop 7).take 4).length = 4 := by
            simp only [List.length_take, List.length_drop, hmacTrailerSize] at hlen ⊢
            omega
          obtain ⟨nonce, hnonce, _⟩ := nonce12b_ok hfour
          rw [hnonce]
          exact ⟨_, rfl⟩

private theorem handleChunk_ok (d : StreamDecoder Priv γ) (chan : UInt8) (payload : Bytes) :
    ∃ d', handleChunk crypto absorb d chan payload = .ok d' := by
  unfold handleChunk
  split
  · dsimp only
    split <;> exact ⟨_, rfl⟩
  · split
    · exact ⟨_, rfl⟩
    · split
      · exact ⟨_, rfl⟩
      · obtain ⟨r, hr⟩ := decryptDataChunk_ok crypto d payload
        rw [hr]
        exact ⟨_, rfl⟩

private theorem consumeOneChunk_ok (d : StreamDecoder Priv γ) :
    ∃ r, consumeOneChunk crypto absorb d = .ok r := by
  unfold consumeOneChunk
  split
  · split
    · exact ⟨_, rfl⟩
    · dsimp only
      split
      · exact ⟨_, rfl⟩
      · rename_i rest _ _
        obtain ⟨d', hd'⟩ := handleChunk_ok crypto absorb _ _ _
        rw [hd']
        exact ⟨_, rfl⟩
  · exact ⟨_, rfl⟩

def nextChunk (d : StreamDecoder Priv γ) : Option (StreamDecoder Priv γ) :=
  (consumeOneChunk crypto absorb d).toOption.join

theorem consumeOneChunk_eq (d : StreamDecoder Priv γ) :
    consumeOneChunk crypto absorb d = .ok (nextChunk crypto absorb d) := by
  obtain ⟨r, hr⟩ := consumeOneChunk_ok crypto absorb d
  rw [nextChunk, hr]
  cases r <;> rfl

private theorem consumeChunks_eq (n : Nat) (d : StreamDecoder Priv γ) :
    consumeChunks crypto absorb n d = .ok (settle (nextChunk crypto absorb) n d) := by
  induction n generalizing d with
  | zero => rfl
  | succ n ih =>
    rw [consumeChunks, settle, consumeOneChunk_eq]
    cases nextChunk crypto absorb d with
    | none => rfl
    | some d' => exact ih d'

theorem feed_eq (d : StreamDecoder Priv γ) (data : Bytes) :
    feed crypto absorb d data = .ok (if data = [] then d else
      settle (nextChunk crypto absorb) (d.buf ++ data).length { d with buf := d.buf ++ data }) := by
  unfold feed
  split
  · rfl
  · exact consumeChunks_eq crypto absorb _ _

theorem decryptDataChunk_skips {d : StreamDecoder Priv γ} {chunk : Bytes}
    (h : chunk.length < 15 + hmacTrailerSize ∨ (chunk.drop 4).take 2 ≠ [0x24, 0x02]) :
    decryptDataChunk crypto d chunk = .ok (d, []) := by
  unfold decryptDataChunk
  split
  · rfl
  · rename_i hfour
    cases d.chacha20Key with
    | none => rfl
    | some key =>
      dsimp only
      split
      · rfl
      · rename_i hmagic
        have hshort := h.resolve_right fun hne => hmagic hne
        rw [if_pos (by rw [List.length_drop]; omega)]

theorem decryptDataChunk_decrypts {d : StreamDecoder Priv γ} {chunk key nonce plain : Bytes}
    (hkey : d.chacha20Key = some key) (hlen : 15 + hmacTrailerSize ≤ chunk.length)
    (hmagic : (chunk.drop 4).take 2 = [0x24, 0x02])
    (hnonce : nonce12b (((chunk.drop 4).drop 7).take 4) = .ok nonce)
    (hplain : crypto.chacha20Decrypt key nonce (((chunk.drop 4).drop 0x0B).take
      ((chunk.drop 4).length - hmacTrailerSize - 0x0B)) = .ok plain) :
    ∃ logged, decryptDataChunk crypto d chunk =
      .ok ({ d with firstDecryptLogged := logged }, plain) := by
  obtain ⟨priv, buf, _, first, logged, gate⟩ := d
  cases hkey
  unfold decryptDataChunk
  rw [if_neg (by omega)]
  dsimp only
  rw [if_neg (by rw [hmagic]; decide), if_neg (by rw [List.length_drop]; omega), hnonce]
  simp only [Except.map, hplain]
  split
  · exact ⟨true, rfl⟩
  · exact ⟨logged, rfl⟩

theorem handleChunk_otherChannel {d : StreamDecoder Priv γ} (hfirst : d.firstChunkConsumed = true)
    {chan : UInt8} (hchan : chan ≠ 0x01) (payload : Bytes) :
    handleChunk crypto absorb d chan payload = .ok d := by
  rw [handleChunk, if_neg (by rw [hfirst]; decide), if_pos hchan]

theorem handleChunk_data {d d' : StreamDecoder Priv γ} (hfirst : d.firstChunkConsumed = true)
    (hkey : d.chacha20Key ≠ none) {payload plain : Bytes}
    (h : decryptDataChunk crypto d payload = .ok (d', plain)) :
    handleChunk crypto absorb d 0x01 payload =
      .ok (if plain ≠ [] then { d' with gate := absorb d'.gate plain } else d') := by
  rw [handleChunk, if_neg (by rw [hfirst]; decide), if_neg (by decide), if_neg hkey, h]
  rfl

private theorem decryptDataChunk_map (f : γ → γ) (b : Bytes) (d : StreamDecoder Priv γ)
    (chunk : Bytes) :
    decryptDataChunk crypto { d with buf := b, gate := f d.gate } chunk =
      (decryptDataChunk crypto d chunk).map
        fun r => ({ r.1 with buf := b, gate := f r.1.gate }, r.2) := by
  obtain ⟨priv, buf, chacha20Key, first, logged, gate⟩ := d
  unfold decryptDataChunk
  split
  · rfl
  · dsimp only
    cases chacha20Key with
    | none => rfl
    | some key =>
      dsimp only
      split
      · rfl
      · split
        · rfl
        · cases nonce12b (((chunk.drop 4).drop 7).take 4) with
          | error e => rfl
          | ok nonce =>
            simp only [Except.map]
            split
            · rfl
            · split <;> rfl

/-- Handling a frame does not look at the buffer, and looks at the sink only to absorb. -/
theorem handleChunk_map {f : γ → γ} (hf : ∀ g plain, absorb (f g) plain = f (absorb g plain))
    (b : Bytes) (d : StreamDecoder Priv γ) (chan : UInt8) (payload : Bytes) :
    handleChunk crypto absorb { d with buf := b, gate := f d.gate } chan payload =
      (handleChunk crypto absorb d chan payload).map
        fun d' => { d' with buf := b, gate := f d'.gate } := by
  unfold handleChunk
  dsimp only
  split
  · cases deriveKeys crypto d.priv payload <;> rfl
  · split
    · rfl
    · split
      · rfl
      · rw [decryptDataChunk_map]
        cases decryptDataChunk crypto d payload with
        | error e => rfl
        | ok r =>
          simp only [Except.map]
          split
          · rw [hf]
          · rfl

def handled (d : StreamDecoder Priv γ) (chan : UInt8) (payload : Bytes) : StreamDecoder Priv γ :=
  (handleChunk crypto absorb d chan payload).toOption.getD d

private theorem handleChunk_eq (d : StreamDecoder Priv γ) (chan : UInt8) (payload : Bytes) :
    handleChunk crypto absorb d chan payload = .ok (handled crypto absorb d chan payload) := by
  obtain ⟨d', hd'⟩ := handleChunk_ok crypto absorb d chan payload
  rw [handled, hd']
  rfl

private theorem handled_map {f : γ → γ} (hf : ∀ g plain, absorb (f g) plain = f (absorb g plain))
    (b : Bytes) (d : StreamDecoder Priv γ) (chan : UInt8) (payload : Bytes) :
    handled crypto absorb { d with buf := b, gate := f d.gate } chan payload =
      { handled crypto absorb d chan payload with
        buf := b, gate := f (handled crypto absorb d chan payload).gate } := by
  have h := handleChunk_map crypto absorb hf b d chan payload
  rw [handleChunk_eq, handleChunk_eq] at h
  exact Except.ok.inj h

/-- What the first buffered bytes call for: `none` to wait, else the bytes left and the frame
taken off them, no frame for a stray byte. -/
def splitFrame : Bytes → Option (Option (UInt8 × Bytes) × Bytes)
  | b0 :: chan :: hi :: lo :: rest =>
    if b0 ≠ 0x24 then some (none, chan :: hi :: lo :: rest)
    else
      let plen := hi.toNat * 256 + lo.toNat
      if rest.length < plen then none else some (some (chan, rest.take plen), rest.drop plen)
  | _ => none

def applyFrame (d : StreamDecoder Priv γ) : Option (UInt8 × Bytes) → StreamDecoder Priv γ
  | none => d
  | some (chan, payload) => handled crypto absorb d chan payload

def StreamDecoder.withBuf (d : StreamDecoder Priv γ) (b : Bytes) : StreamDecoder Priv γ :=
  { d with buf := b }

theorem applyFrame_map {f : γ → γ} (hf : ∀ g plain, absorb (f g) plain = f (absorb g plain))
    (b : Bytes) (d : StreamDecoder Priv γ) (frame : Option (UInt8 × Bytes)) :
    applyFrame crypto absorb { d with buf := b, gate := f d.gate } frame =
      { applyFrame crypto absorb d frame with
        buf := b, gate := f (applyFrame crypto absorb d frame).gate } := by
  cases frame with
  | none => rfl
  | some frame => exact handled_map crypto absorb hf b d frame.1 frame.2

theorem applyFrame_withBuf (b : Bytes) (d : StreamDecoder Priv γ)
    (frame : Option (UInt8 × Bytes)) :
    applyFrame crypto absorb (d.withBuf b) frame = (applyFrame crypto absorb d frame).withBuf b :=
  applyFrame_map crypto absorb (f := id) (fun _ _ => rfl) b d frame

theorem nextChunk_eq (d : StreamDecoder Priv γ) :
    nextChunk crypto absorb d =
      (splitFrame d.buf).map fun r => (applyFrame crypto absorb d r.1).withBuf r.2 := by
  rw [nextChunk]
  unfold consumeOneChunk splitFrame
  split
  · rename_i b0 chan hi lo rest hbuf
    split
    · rfl
    · dsimp only
      split
      · rfl
      · rw [handleChunk_eq]
        exact congrArg some (applyFrame_withBuf crypto absorb _ d (some (chan, _)))
  · rfl

theorem splitFrame_length {buf rest : Bytes} {frame : Option (UInt8 × Bytes)}
    (h : splitFrame buf = some (frame, rest)) : rest.length < buf.length := by
  unfold splitFrame at h
  split at h
  · split at h
    · cases h
      simp
    · dsimp only at h
      split at h
      · cases h
      · cases h
        simp only [List.length_drop, List.length_cons]
        omega
  · cases h

/-- More bytes behind the buffer change no decision. -/
theorem splitFrame_append {buf rest : Bytes} {frame : Option (UInt8 × Bytes)} (more : Bytes)
    (h : splitFrame buf = some (frame, rest)) :
    splitFrame (buf ++ more) = some (frame, rest ++ more) := by
  unfold splitFrame at h
  split at h
  · rename_i b0 chan hi lo rest'
    simp only [List.cons_append, splitFrame]
    split at h
    · rename_i h0
      cases h
      rw [if_pos h0]
      rfl
    · rename_i h0
      rw [if_neg h0]
      dsimp only at h
      split at h
      · cases h
      · rename_i hlen
        cases h
        rw [if_neg (by rw [List.length_append]; omega),
          List.take_append_of_le_length (by omega), List.drop_append_of_le_length (by omega)]
  · cases h

/-- The decoder after one frame: the first one may set the key, the others leave it alone and
hand non-empty plaintext to the sink, which takes a key. -/
inductive FrameOutcome (d : StreamDecoder Priv γ) (payload : Bytes) : StreamDecoder Priv γ → Prop
  | handshake (hfirst : d.firstChunkConsumed = false) (key : Option Bytes)
      (hkey : key = d.chacha20Key ∨
        ∃ derived, key = some derived ∧ deriveKeys crypto d.priv payload = .ok derived) :
      FrameOutcome d payload { d with firstChunkConsumed := true, chacha20Key := key }
  | passed (hfirst : d.firstChunkConsumed = true) (logged : Bool) :
      FrameOutcome d payload { d with firstDecryptLogged := logged }
  | data (hfirst : d.firstChunkConsumed = true) (hkey : d.chacha20Key ≠ none) (logged : Bool)
      (plain : Bytes) (hplain : plain ≠ []) :
      FrameOutcome d payload
        { d with firstDecryptLogged := logged, gate := absorb d.gate plain }

private theorem decryptDataChunk_logged {d : StreamDecoder Priv γ} {chunk : Bytes}
    {r : StreamDecoder Priv γ × Bytes} (h : decryptDataChunk crypto d chunk = .ok r) :
    ∃ logged, r.1 = { d with firstDecryptLogged := logged } := by
  unfold decryptDataChunk at h
  split at h
  · cases h
    exact ⟨d.firstDecryptLogged, rfl⟩
  · split at h
    · cases h
      exact ⟨d.firstDecryptLogged, rfl⟩
    · dsimp only at h
      split at h
      · cases h
        exact ⟨d.firstDecryptLogged, rfl⟩
      · split at h
        · cases h
          exact ⟨d.firstDecryptLogged, rfl⟩
        · cases hnonce : nonce12b (((chunk.drop 4).drop 7).take 4) with
          | error e =>
            rw [hnonce] at h
            cases h
          | ok nonce =>
            rw [hnonce] at h
            cases h
            dsimp only
            split
            · exact ⟨d.firstDecryptLogged, rfl⟩
            · split
              · exact ⟨true, rfl⟩
              · exact ⟨d.firstDecryptLogged, rfl⟩

theorem handled_outcome (d : StreamDecoder Priv γ) (chan : UInt8) (payload : Bytes) :
    FrameOutcome crypto absorb d payload (handled crypto absorb d chan payload) := by
  have h := handleChunk_eq crypto absorb d chan payload
  generalize handled crypto absorb d chan payload = d' at h ⊢
  unfold handleChunk at h
  split at h
  · rename_i hfirst
    dsimp only at h
    split at h
    · rename_i key hkey
      rw [← Except.ok.inj h]
      exact .handshake hfirst (some key) (.inr ⟨key, rfl, hkey⟩)
    · rw [← Except.ok.inj h]
      exact .handshake hfirst d.chacha20Key (.inl rfl)
  · rename_i hfirst
    have hfirst : d.firstChunkConsumed = true := Bool.eq_true_of_not_eq_false hfirst
    split at h
    · rw [← Except.ok.inj h]
      exact .passed hfirst d.firstDecryptLogged
    · split at h
      · rw [← Except.ok.inj h]
        exact .passed hfirst d.firstDecryptLogged
      · rename_i hkey
        cases hr : decryptDataChunk crypto d payload with
        | error e =>
          rw [hr] at h
          cases h
        | ok r =>
          obtain ⟨logged, hlogged⟩ := decryptDataChunk_logged crypto hr
          rw [hr] at h
          rw [← Except.ok.inj h]
          dsimp only
          rw [hlogged]
          split
          · rename_i hplain
            exact .data hfirst hkey logged r.2 hplain
          · exact .passed hfirst logged

/-- What no frame breaks, wherever it leaves the rest of the buffer, no call of `feed` breaks. -/
theorem feed_invariant {P : StreamDecoder Priv γ → Prop}
    (hbuf : ∀ d b, P d → P (d.withBuf b))
    (hframe : ∀ d payload d', FrameOutcome crypto absorb d payload d' → P d → P d')
    {d d' : StreamDecoder Priv γ} {data : Bytes} (h : feed crypto absorb d data = .ok d')
    (hd : P d) : P d' := by
  rw [feed_eq] at h
  cases h
  split
  · exact hd
  · refine settle_invariant (P := P) (fun e e' hstep he => ?_) _ (hbuf d _ hd)
    rw [nextChunk_eq] at hstep
    obtain ⟨⟨frame, rest⟩, _, rfl⟩ := Option.map_eq_some_iff.mp hstep
    apply hbuf
    cases frame with
    | none => exact he
    | some frame => exact hframe e frame.2 _ (handled_outcome crypto absorb e frame.1 frame.2) he

theorem feed_priv {d d' : StreamDecoder Priv γ} {data : Bytes}
    (h : feed crypto absorb d data = .ok d') : d'.priv = d.priv := by
  refine feed_invariant crypto absorb (P := fun e : StreamDecoder Priv γ => e.priv = d.priv)
    (fun _ _ => id) (fun e payload e' houtcome he => ?_) h rfl
  cases houtcome <;> exact he

end EzvizHp7.Cpd7
