import EzvizHp7.Cpd7.Segmentation

/-!
# The camera's wire format

The encoder side of the play socket: interleaved frames carrying the handshake packet and the
encrypted data packets, with frames the decoder ignores and stray bytes in between. Decoding
such a stream hands exactly the plaintexts of its data frames to the sink.
-/

namespace EzvizHp7.Cpd7

open Occurrence Settle

variable {Priv Pub γ : Type} (crypto : Crypto Priv Pub) (absorb : γ → Bytes → γ)

def interleaved (chan : UInt8) (payload : Bytes) : Bytes :=
  0x24 :: chan :: UInt8.ofNat (payload.length / 256) :: UInt8.ofNat payload.length :: payload

/-- The handshake packet: the key field at `0x0B + headerLen` and the public key at
`0x2B + headerLen`, both present in full. -/
structure Handshake where
  headerLen : UInt8
  filler : Bytes
  encryptedKey : Bytes
  peerPub : Bytes
  rest : Bytes
  filler_length : filler.length = 0x0B - 3 + headerLen.toNat
  encryptedKey_length : encryptedKey.length = 32
  peerPub_length : peerPub.length = 91

def Handshake.packet (hs : Handshake) : Bytes :=
  0x24 :: 0x01 :: hs.headerLen :: (hs.filler ++ (hs.encryptedKey ++ (hs.peerPub ++ hs.rest)))

/-- Loading the public key, the exchange and the AES step yield the session key `key` from the
two fields of the handshake. -/
def Handshake.Yields (hs : Handshake) (priv : Priv) (key : Bytes) : Prop :=
  ∃ peer shared, crypto.loadDerPublicKey hs.peerPub = .ok peer ∧
    crypto.exchange priv peer = .ok shared ∧
    crypto.aesEcbDecrypt shared hs.encryptedKey = .ok key

structure DataFrame where
  outer : Bytes
  header : Bytes
  nonce : Bytes
  plain : Bytes
  trailer : Bytes
  outer_length : outer.length = 4
  header_length : header.length = 5
  nonce_length : nonce.length = 4
  plain_length : plain.length ≤ 65488
  trailer_length : trailer.length = hmacTrailerSize

def DataFrame.cipherNonce (f : DataFrame) : Bytes := (nonce12b f.nonce).toOption.getD []

def DataFrame.payload (encrypt : Bytes → Bytes → Bytes) (f : DataFrame) : Bytes :=
  f.outer ++ (0x24 :: 0x02 :: (f.header ++ (f.nonce ++
    (encrypt f.cipherNonce f.plain ++ f.trailer))))

inductive WireItem
  | data (f : DataFrame)
  | otherChannel (chan : UInt8) (payload : Bytes) (hchan : chan ≠ 0x01)
      (hlen : payload.length ≤ 65535)
  | ignored (payload : Bytes) (hlen : payload.length ≤ 65535)
      (hskip : payload.length < 47 ∨ (payload.drop 4).take 2 ≠ [0x24, 0x02])

def WireItem.chan : WireItem → UInt8
  | .otherChannel chan _ _ _ => chan
  | _ => 0x01

def WireItem.payload (encrypt : Bytes → Bytes → Bytes) : WireItem → Bytes
  | .data f => f.payload encrypt
  | .otherChannel _ payload _ _ => payload
  | .ignored payload _ _ => payload

def WireItem.plain? : WireItem → Option Bytes
  | .data f => if f.plain = [] then none else some f.plain
  | _ => none

/-- Bytes between frames that cannot be taken for the start of one. -/
structure Noise where
  bytes : Bytes
  clean : 0x24 ∉ bytes

def encodeItems (encrypt : Bytes → Bytes → Bytes) (items : List (Noise × WireItem)) : Bytes :=
  items.flatMap fun (noise, item) =>
    noise.bytes ++ interleaved item.chan (item.payload encrypt)

def plaintexts (items : List (Noise × WireItem)) : List Bytes :=
  items.filterMap fun (_, item) => item.plain?

private theorem plen_interleaved {n : Nat} (h : n ≤ 65535) :
    (UInt8.ofNat (n / 256)).toNat * 256 + (UInt8.ofNat n).toNat = n := by
  simp only [UInt8.toNat_ofNat']
  omega

private theorem splitFrame_interleaved (chan : UInt8) {payload : Bytes} (more : Bytes)
    (hlen : payload.length ≤ 65535) :
    splitFrame (interleaved chan payload ++ more) = some (some (chan, payload), more) := by
  simp only [interleaved, List.cons_append, splitFrame, plen_interleaved hlen]
  rw [if_neg (by decide), if_neg (by simp), List.take_left, List.drop_left]

private theorem splitFrame_stray {b : UInt8} {more : Bytes} (hb : b ≠ 0x24)
    (hlen : 3 ≤ more.length) : splitFrame (b :: more) = some (none, more) := by
  match more, hlen with
  | chan :: hi :: lo :: rest, _ => rw [splitFrame, if_pos hb]

private def settleFrom (d : StreamDecoder Priv γ) (buf : Bytes) : StreamDecoder Priv γ :=
  settle (nextChunk crypto absorb) buf.length (d.withBuf buf)

private theorem settleFrom_split (d : StreamDecoder Priv γ) {buf rest : Bytes}
    {frame : Option (UInt8 × Bytes)} (h : splitFrame buf = some (frame, rest)) :
    settleFrom crypto absorb d buf =
      settleFrom crypto absorb (applyFrame crypto absorb d frame) rest := by
  have hnext : nextChunk crypto absorb (d.withBuf buf) =
      some ((applyFrame crypto absorb d frame).withBuf rest) := by
    rw [nextChunk_eq]
    change (splitFrame buf).map _ = _
    rw [h, Option.map_some, applyFrame_withBuf]
    rfl
  have hlen := splitFrame_length h
  apply (settle_step (nextChunk_length crypto absorb) hnext le_rfl).trans
  exact settle_fuel (nextChunk_length crypto absorb)
    (by simp only [StreamDecoder.withBuf]; omega) (by simp only [StreamDecoder.withBuf]; omega)

private theorem settleFrom_noise (d : StreamDecoder Priv γ) {noise more : Bytes}
    (hclean : 0x24 ∉ noise) (hlen : 4 ≤ more.length) :
    settleFrom crypto absorb d (noise ++ more) = settleFrom crypto absorb d more := by
  induction noise with
  | nil => rfl
  | cons b noise ih =>
    have hb : b ≠ 0x24 := fun h => hclean (by simp [h])
    have hsplit : splitFrame (b :: (noise ++ more)) = some (none, noise ++ more) :=
      splitFrame_stray hb (by rw [List.length_append]; omega)
    rw [List.cons_append, settleFrom_split crypto absorb d hsplit]
    exact ih fun h => hclean (List.mem_cons_of_mem _ h)

private theorem settleFrom_interleaved (d : StreamDecoder Priv γ) (chan : UInt8)
    {payload : Bytes} (more : Bytes) (hlen : payload.length ≤ 65535) :
    settleFrom crypto absorb d (interleaved chan payload ++ more) =
      settleFrom crypto absorb (handled crypto absorb d chan payload) more :=
  settleFrom_split crypto absorb d (splitFrame_interleaved chan more hlen)

private theorem find_handshake {w : Bytes} (hw : ¬ [0x24, 0x01] <:+: w) (hs : Handshake) :
    find [0x24, 0x01] (w ++ hs.packet) = w.length := by
  have hat : w.length ∈ offsets [0x24, 0x01] (w ++ hs.packet) := by
    change _ <+: (w ++ hs.packet).drop w.length
    rw [List.drop_left, Handshake.packet]
    exact List.prefix_append [0x24, 0x01] _
  have hleast : IsLeast (offsets [0x24, 0x01] (w ++ hs.packet)) w.length := by
    refine ⟨hat, fun i hi => ?_⟩
    by_contra hlt
    by_cases hin : i + 2 ≤ w.length
    · refine hw (List.IsInfix.trans (List.IsPrefix.isInfix ?_) (List.drop_suffix i w).isInfix)
      exact offsets_of_append (by simpa using hin) hi
    · have hagree := offsets_agree (by omega) hi hat
      rw [show w.length - i = 1 by omega] at hagree
      exact absurd hagree (by decide)
  exact find_of_least (by decide) hleast

private theorem deriveKeys_handshake {w : Bytes} (hw : ¬ [0x24, 0x01] <:+: w) (hs : Handshake)
    {priv : Priv} {key : Bytes} (hkey : hs.Yields crypto priv key) :
    deriveKeys crypto priv (w ++ hs.packet) = .ok key := by
  obtain ⟨peer, shared, hpeer, hshared, haes⟩ := hkey
  have hlong : ¬ hs.packet.length < 0x2B + 91 := by
    simp only [Handshake.packet, List.length_cons, List.length_append, hs.filler_length,
      hs.encryptedKey_length, hs.peerPub_length]
    omega
  have hheader : hs.packet.getD 2 0 = hs.headerLen := rfl
  have hfields : hs.packet.drop (0x0B + hs.headerLen.toNat) =
      hs.encryptedKey ++ (hs.peerPub ++ hs.rest) := by
    rw [show 0x0B + hs.headerLen.toNat = 3 + hs.filler.length by rw [hs.filler_length]; omega,
      ← List.drop_drop]
    exact List.drop_left
  have henc : (hs.packet.drop (0x0B + hs.headerLen.toNat)).take 32 = hs.encryptedKey := by
    rw [hfields, ← hs.encryptedKey_length, List.take_left]
  have hpub : (hs.packet.drop (0x2B + hs.headerLen.toNat)).take 91 = hs.peerPub := by
    rw [show 0x2B + hs.headerLen.toNat = 0x0B + hs.headerLen.toNat + hs.encryptedKey.length by
      rw [hs.encryptedKey_length]; omega, ← List.drop_drop, hfields, List.drop_left,
      ← hs.peerPub_length, List.take_left]
  have hneg : ¬ ((w.length : Int) < 0) := by omega
  simp only [deriveKeys, find_handshake hw hs, hneg, if_false, Int.toNat_natCast, List.drop_left,
    hlong, hheader, henc, hpub]
  simp only [bind, Except.bind, hpeer, hshared, haes]

section items

variable {encrypt : Bytes → Bytes → Bytes}

private theorem cipherNonce_spec (f : DataFrame) :
    nonce12b f.nonce = .ok f.cipherNonce ∧ f.cipherNonce.length = 12 := by
  obtain ⟨nonce, hnonce, hlen⟩ := nonce12b_ok f.nonce_length
  rw [DataFrame.cipherNonce, hnonce]
  exact ⟨rfl, hlen⟩

private theorem payload_length
    (hlength : ∀ nonce plain, (encrypt nonce plain).length = plain.length) (f : DataFrame) :
    (f.payload encrypt).length = 47 + f.plain.length := by
  simp only [DataFrame.payload, List.length_append, List.length_cons, f.outer_length,
    f.header_length, f.nonce_length, f.trailer_length, hlength, hmacTrailerSize]
  omega

private theorem item_length (hlength : ∀ nonce plain, (encrypt nonce plain).length = plain.length)
    (item : WireItem) : (item.payload encrypt).length ≤ 65535 := by
  cases item with
  | data f =>
    have := payload_length hlength f
    have := f.plain_length
    simp only [WireItem.payload]
    omega
  | otherChannel chan payload hchan hlen => exact hlen
  | ignored payload hlen hskip => exact hlen

private theorem dataPacket_fields
    (hlength : ∀ nonce plain, (encrypt nonce plain).length = plain.length) (f : DataFrame) :
    let pkt := (f.payload encrypt).drop 4
    pkt.length = 43 + f.plain.length ∧ pkt.take 2 = [0x24, 0x02] ∧
      (pkt.drop 7).take 4 = f.nonce ∧
      (pkt.drop 0x0B).take (pkt.length - hmacTrailerSize - 0x0B) =
        encrypt f.cipherNonce f.plain := by
  intro pkt
  have hpkt : pkt = 0x24 :: 0x02 :: (f.header ++ (f.nonce ++
      (encrypt f.cipherNonce f.plain ++ f.trailer))) := by
    change (f.outer ++ _).drop 4 = _
    rw [← f.outer_length, List.drop_left]
  have hlen : pkt.length = 43 + f.plain.length := by
    change ((f.payload encrypt).drop 4).length = _
    rw [List.length_drop, payload_length hlength]
    omega
  have hnonce : pkt.drop 7 = f.nonce ++ (encrypt f.cipherNonce f.plain ++ f.trailer) := by
    rw [hpkt, show 7 = 2 + f.header.length by rw [f.header_length], ← List.drop_drop]
    exact List.drop_left
  have hbody : pkt.drop 0x0B = encrypt f.cipherNonce f.plain ++ f.trailer := by
    rw [show 0x0B = 7 + f.nonce.length by rw [f.nonce_length], ← List.drop_drop, hnonce,
      List.drop_left]
  refine ⟨hlen, by rw [hpkt]; rfl, by rw [hnonce, ← f.nonce_length, List.take_left], ?_⟩
  rw [hbody, hlen, show 43 + f.plain.length - hmacTrailerSize - 0x0B =
    (encrypt f.cipherNonce f.plain).length by rw [hlength, hmacTrailerSize]; omega,
    List.take_left]

private def keyed (priv : Priv) (key : Bytes) (logged : Bool) (gate : γ) :
    StreamDecoder Priv γ := ⟨priv, [], some key, true, logged, gate⟩

private theorem handled_item {key : Bytes}
    (hround : ∀ nonce plain, nonce.length = 12 →
      crypto.chacha20Decrypt key nonce (encrypt nonce plain) = .ok plain)
    (hlength : ∀ nonce plain, (encrypt nonce plain).length = plain.length)
    (priv : Priv) (logged : Bool) (gate : γ) (item : WireItem) :
    ∃ logged', handled crypto absorb (keyed priv key logged gate) item.chan
      (item.payload encrypt) =
        keyed priv key logged' (item.plain?.toList.foldl absorb gate) := by
  cases item with
  | data f =>
    obtain ⟨hlen, hmagic, hnonce, hbody⟩ := dataPacket_fields hlength f
    obtain ⟨hcipher, htwelve⟩ := cipherNonce_spec f
    have hpayload := payload_length hlength f
    obtain ⟨logged', hdecrypt⟩ := decryptDataChunk_decrypts crypto
      (d := keyed priv key logged gate) rfl (by rw [hpayload, hmacTrailerSize]; omega) hmagic
      (hnonce ▸ hcipher) (hbody ▸ hround _ f.plain htwelve)
    refine ⟨logged', ?_⟩
    change (handleChunk crypto absorb _ 0x01 (f.payload encrypt)).toOption.getD _ = _
    rw [handleChunk_data crypto absorb rfl (by simp [keyed]) hdecrypt]
    by_cases hplain : f.plain = []
    · simp [WireItem.plain?, hplain, keyed, Except.toOption]
    · simp [WireItem.plain?, hplain, keyed, Except.toOption]
  | otherChannel chan payload hchan hlen =>
    refine ⟨logged, ?_⟩
    change (handleChunk crypto absorb _ chan payload).toOption.getD _ = _
    rw [handleChunk_otherChannel crypto absorb rfl hchan]
    rfl
  | ignored payload hlen hskip =>
    have hdecrypt := decryptDataChunk_skips crypto (d := keyed priv key logged gate) hskip
    refine ⟨logged, ?_⟩
    change (handleChunk crypto absorb _ 0x01 payload).toOption.getD _ = _
    rw [handleChunk_data crypto absorb rfl (by simp [keyed]) hdecrypt]
    rfl

private theorem interleaved_length (chan : UInt8) (payload : Bytes) :
    4 ≤ (interleaved chan payload).length := by
  simp [interleaved]

private theorem settleFrom_items {key : Bytes}
    (hround : ∀ nonce plain, nonce.length = 12 →
      crypto.chacha20Decrypt key nonce (encrypt nonce plain) = .ok plain)
    (hlength : ∀ nonce plain, (encrypt nonce plain).length = plain.length)
    (priv : Priv) (items : List (Noise × WireItem)) (logged : Bool) (gate : γ) :
    ∃ logged', settleFrom crypto absorb (keyed priv key logged gate) (encodeItems encrypt items) =
      keyed priv key logged' ((plaintexts items).foldl absorb gate) := by
  induction items generalizing logged gate with
  | nil => exact ⟨logged, rfl⟩
  | cons head items ih =>
    obtain ⟨noise, item⟩ := head
    obtain ⟨logged₁, hitem⟩ := handled_item crypto absorb hround hlength priv logged gate item
    obtain ⟨logged₂, hrest⟩ := ih logged₁ (item.plain?.toList.foldl absorb gate)
    refine ⟨logged₂, ?_⟩
    have hframe := interleaved_length item.chan (item.payload encrypt)
    rw [encodeItems, List.flatMap_cons, List.append_assoc,
      settleFrom_noise crypto absorb _ noise.clean (by rw [List.length_append]; omega),
      settleFrom_interleaved crypto absorb _ _ _ (item_length hlength item), hitem]
    apply hrest.trans
    simp only [plaintexts, List.filterMap_cons]
    cases item.plain? <;> rfl

/-- Decoding undoes encoding: after the handshake frame and any items, with noise anywhere
between the frames, the sink has received exactly the non-empty plaintexts of the data frames,
in order, and no byte is left over. The sink is arbitrary; for the decoder of the source it is
the keyframe gate with `absorbPlain`. -/
theorem feed_encoded (hs : Handshake) {w : Bytes} (hw : ¬ [0x24, 0x01] <:+: w)
    (hframe : (w ++ hs.packet).length ≤ 65535) {priv : Priv} {key : Bytes}
    (hkey : hs.Yields crypto priv key)
    (hround : ∀ nonce plain, nonce.length = 12 →
      crypto.chacha20Decrypt key nonce (encrypt nonce plain) = .ok plain)
    (hlength : ∀ nonce plain, (encrypt nonce plain).length = plain.length)
    (noise : Noise) (chan : UInt8) (items : List (Noise × WireItem)) (gate : γ) :
    ∃ logged, feed crypto absorb (.init priv gate)
        (noise.bytes ++ (interleaved chan (w ++ hs.packet) ++ encodeItems encrypt items)) =
      .ok { priv := priv, buf := [], chacha20Key := some key, firstChunkConsumed := true,
            firstDecryptLogged := logged, gate := (plaintexts items).foldl absorb gate } := by
  obtain ⟨logged, hitems⟩ :=
    settleFrom_items crypto absorb hround hlength priv items false gate
  refine ⟨logged, ?_⟩
  have hlong := interleaved_length chan (w ++ hs.packet)
  have hfirst : handled crypto absorb (.init priv gate) chan (w ++ hs.packet) =
      keyed priv key false gate := by
    have hderive := deriveKeys_handshake crypto hw hs hkey
    simp only [handled, handleChunk, StreamDecoder.init, if_true, hderive]
    rfl
  rw [feed_init]
  congr 1
  change settleFrom crypto absorb (.init priv gate) _ = _
  rw [settleFrom_noise crypto absorb _ noise.clean (by rw [List.length_append]; omega),
    settleFrom_interleaved crypto absorb _ _ _ hframe, hfirst]
  exact hitems

theorem feed_items {key : Bytes}
    (hround : ∀ nonce plain, nonce.length = 12 →
      crypto.chacha20Decrypt key nonce (encrypt nonce plain) = .ok plain)
    (hlength : ∀ nonce plain, (encrypt nonce plain).length = plain.length)
    (priv : Priv) (items : List (Noise × WireItem)) (logged : Bool) (gate : γ) :
    ∃ logged', feed crypto absorb
        { priv := priv, buf := [], chacha20Key := some key, firstChunkConsumed := true,
          firstDecryptLogged := logged, gate := gate } (encodeItems encrypt items) =
      .ok { priv := priv, buf := [], chacha20Key := some key, firstChunkConsumed := true,
            firstDecryptLogged := logged', gate := (plaintexts items).foldl absorb gate } := by
  obtain ⟨logged', hitems⟩ :=
    settleFrom_items crypto absorb hround hlength priv items logged gate
  refine ⟨logged', ?_⟩
  rw [feed_eq]
  congr 1
  refine Eq.trans ?_ hitems
  split
  · rename_i hnil
    rw [hnil]
    rfl
  · rfl

theorem feed_handshake (hs : Handshake) {w : Bytes} (hw : ¬ [0x24, 0x01] <:+: w)
    (hframe : (w ++ hs.packet).length ≤ 65535) {priv : Priv} {key : Bytes}
    (hkey : hs.Yields crypto priv key) (noise : Noise) (chan : UInt8) (gate : γ) :
    feed crypto absorb (.init priv gate) (noise.bytes ++ interleaved chan (w ++ hs.packet)) =
      .ok { priv := priv, buf := [], chacha20Key := some key, firstChunkConsumed := true,
            firstDecryptLogged := false, gate := gate } := by
  have hlong := interleaved_length chan (w ++ hs.packet)
  have hfirst : handled crypto absorb (.init priv gate) chan (w ++ hs.packet) =
      keyed priv key false gate := by
    have hderive := deriveKeys_handshake crypto hw hs hkey
    simp only [handled, handleChunk, StreamDecoder.init, if_true, hderive]
    rfl
  have hsplit := settleFrom_interleaved crypto absorb (.init priv gate) chan [] hframe
  rw [List.append_nil, hfirst] at hsplit
  rw [feed_init]
  congr 1
  change settleFrom crypto absorb (.init priv gate) _ = _
  rw [settleFrom_noise crypto absorb _ noise.clean hlong, hsplit]
  rfl

end items

def basePointX : Bytes :=
  [0x6b, 0x17, 0xd1, 0xf2, 0xe1, 0x2c, 0x42, 0x47, 0xf8, 0xbc, 0xe6, 0xe5, 0x63, 0xa4, 0x40, 0xf2,
   0x77, 0x03, 0x7d, 0x81, 0x2d, 0xeb, 0x33, 0xa0, 0xf4, 0xa1, 0x39, 0x45, 0xd8, 0x98, 0xc2, 0x96]

def basePointY : Bytes :=
  [0x4f, 0xe3, 0x42, 0xe2, 0xfe, 0x1a, 0x7f, 0x9b, 0x8e, 0xe7, 0xeb, 0x4a, 0x7c, 0x0f, 0x9e, 0x16,
   0x2b, 0xce, 0x33, 0x57, 0x6b, 0x31, 0x5e, 0xce, 0xcb, 0xb6, 0x40, 0x68, 0x37, 0xbf, 0x51, 0xf5]

/-- The DER prefix of an uncompressed P-256 point. -/
def derPrefix : Bytes :=
  [0x30, 0x59, 0x30, 0x13, 0x06, 0x07, 0x2a, 0x86, 0x48, 0xce, 0x3d, 0x02, 0x01, 0x06, 0x08, 0x2a,
   0x86, 0x48, 0xce, 0x3d, 0x03, 0x01, 0x07, 0x03, 0x42, 0x00, 0x04]

def keyFieldHalf : Bytes :=
  [0x50, 0x30, 0x95, 0x78, 0x88, 0x9d, 0xc0, 0x44, 0xbd, 0x1c, 0x97, 0xc0, 0x3b, 0xae, 0x91, 0xa0]

def zeroKey : Bytes := List.replicate 32 0

def zeroKeystream : Bytes :=
  [0x76, 0xb8, 0xe0, 0xad, 0xa0, 0xf1, 0x3d, 0x90, 0x40, 0x5d, 0x6a, 0xe5, 0x53, 0x86, 0xbd, 0x28]

def xorKeystream (_nonce data : Bytes) : Bytes :=
  data.mapIdx fun i b => b ^^^ zeroKeystream.getD i 0

/-- The private key is the scalar one and the camera's public key the base point of P-256, so the
exchange is the point's first coordinate. The key field is the encryption of the zero session key
under it. -/
def basePointCrypto : Crypto Unit Bytes where
  loadDerPublicKey der :=
    if der = derPrefix ++ (basePointX ++ basePointY) then .ok basePointX
    else .error "Could not deserialize key data."
  exchange _ pub := .ok pub
  aesEcbDecrypt key data :=
    if key = basePointX ∧ data = keyFieldHalf ++ keyFieldHalf then .ok zeroKey
    else .error "Invalid key size"
  chacha20Decrypt _ nonce body := .ok (xorKeystream nonce body)

def basePointHandshake : Handshake where
  headerLen := 0
  filler := List.replicate 8 0
  encryptedKey := keyFieldHalf ++ keyFieldHalf
  peerPub := derPrefix ++ (basePointX ++ basePointY)
  rest := []
  filler_length := by decide
  encryptedKey_length := by decide
  peerPub_length := by decide

def dataFrame (plain : Bytes) (hlen : plain.length ≤ 65488) : DataFrame where
  outer := List.replicate 4 0
  header := List.replicate 5 0
  nonce := List.replicate 4 0
  plain := plain
  trailer := List.replicate 32 0
  outer_length := by decide
  header_length := by decide
  nonce_length := by decide
  plain_length := hlen
  trailer_length := by decide

def noNoise : Noise := ⟨[], by decide⟩

/-- A keyframe in two pieces, the second after a stray byte and a frame on channel 2. -/
def basePointItems : List (Noise × WireItem) :=
  [(noNoise, .data (dataFrame [0, 0, 1, 0xba, 0, 0, 0, 1] (by decide))),
   (⟨[0xff], by decide⟩, .otherChannel 2 [0x24] (by decide) (by decide)),
   (noNoise, .data (dataFrame [0x67, 0x42] (by decide)))]

def cameraBytes : Bytes :=
  interleaved 0 basePointHandshake.packet ++ encodeItems xorKeystream basePointItems

def frameBytes (plain : Bytes) (hlen : plain.length ≤ 65488) : Bytes :=
  encodeItems xorKeystream [(noNoise, .data (dataFrame plain hlen))]

theorem xorKeystream_xorKeystream (nonce data : Bytes) :
    xorKeystream nonce (xorKeystream nonce data) = data := by
  apply List.ext_getElem
  · simp [xorKeystream]
  · intro i h₁ h₂
    simp only [xorKeystream, List.getElem_mapIdx]
    rw [UInt8.xor_assoc, UInt8.xor_self, UInt8.xor_zero]

theorem feed_encoded_basePoint :
    ∃ logged, feed basePointCrypto absorbPlain (.init () .fresh)
        ([] ++ (interleaved 0 ([0x49, 0x4d] ++ basePointHandshake.packet) ++
          encodeItems xorKeystream basePointItems)) =
      .ok { priv := (), buf := [], chacha20Key := some zeroKey, firstChunkConsumed := true,
            firstDecryptLogged := logged,
            gate := ⟨true, [], [0, 0, 1, 0xba, 0, 0, 0, 1, 0x67, 0x42]⟩ } :=
  feed_encoded basePointCrypto absorbPlain basePointHandshake (w := [0x49, 0x4d])
    (by decide) (by decide +kernel)
    ⟨basePointX, basePointX, by decide, by decide, by decide⟩
    (fun nonce plain _ => congrArg Except.ok (xorKeystream_xorKeystream nonce plain))
    (fun nonce plain => by simp [xorKeystream])
    noNoise 0 basePointItems .fresh

end EzvizHp7.Cpd7
