import EzvizHp7.Library.BigEndian
import EzvizHp7.Library.Slices
import EzvizHp7.Cpd7.Wire

/-!
# The handshake packet, parsed twice

`parse_ecdh_packet` reads the fields of a handshake at fixed offsets, `_derive_keys` of the stream
decoder shifts them by the header length byte. They read the same key only where the shift does
not show.
-/

namespace EzvizHp7.Cpd7

open Occurrence Slices

def ecdhMagic : UInt8 := 0x24
def ecdhTypeReq : UInt8 := 0x01
def ecdhTypeData : UInt8 := 0x02

def offType : Nat := 1
def offHeaderLen : Nat := 2
def offPayloadLen : Nat := 3
def offMarker : Nat := 5
def offSubtype : Nat := 6
def offNonceRaw : Nat := 7
def offEncryptedKey : Nat := 0x0B
def offPeerPubkey : Nat := 0x2B
def headerFixed : Nat := 0x86

def trailerSize : Nat := 4 + 4 + 32

/-- The dictionary of the parsed fields; the last two are only there for a request. -/
structure EcdhPacket where
  pktType : UInt8
  headerLen : UInt8
  payloadLen : Nat
  subType : UInt8
  nonceRaw : Bytes
  payload : Bytes
  trailer : Bytes
  encryptedKey : Option Bytes
  peerPubkey : Option Bytes
  deriving DecidableEq, Repr

def parseEcdhPacket (data : Bytes) : Option EcdhPacket :=
  if data.length < headerFixed + trailerSize then none
  else if data.getD 0 0 ≠ ecdhMagic then none
  else
    let pktType := data.getD offType 0
    if pktType ≠ ecdhTypeReq ∧ pktType ≠ ecdhTypeData then none
    else if data.getD offMarker 0 ≠ 0x01 then none
    else
      let payloadLenRaw := BigEndian.value (slice offPayloadLen 2 data)
      some
        { pktType := pktType
          headerLen := data.getD offHeaderLen 0
          payloadLen := payloadLenRaw
          subType := data.getD offSubtype 0
          nonceRaw := slice offNonceRaw 4 data
          payload := slice headerFixed payloadLenRaw data
          trailer := slice (headerFixed + payloadLenRaw) trailerSize data
          encryptedKey :=
            if pktType = ecdhTypeReq then some (slice offEncryptedKey 32 data) else none
          peerPubkey :=
            if pktType = ecdhTypeReq then some (slice offPeerPubkey 91 data) else none }

section

variable {Priv Pub : Type} (crypto : Crypto Priv Pub)

def deriveSharedSecret (ourPriv : Priv) (peerPubkeyDer : Bytes) : Except String Bytes := do
  let peerPub ← crypto.loadDerPublicKey peerPubkeyDer
  crypto.exchange ourPriv peerPub

/-- `finalize` is `decryptor.finalize()` after the update with the data. -/
def deriveChacha20Key (finalize : (key data : Bytes) → Except String Bytes)
    (sharedSecret encryptedKey : Bytes) : Except String Bytes := do
  let updated ← crypto.aesEcbDecrypt sharedSecret encryptedKey
  let finalized ← finalize sharedSecret encryptedKey
  return updated ++ finalized

/-- The fields that `_derive_keys` selects: the encrypted key and the peer's public key. -/
def handshakeFields (chunk0 : Bytes) : Except String (Bytes × Bytes) := do
  let off := find [0x24, 0x01] chunk0
  if off < 0 then
    throw ("handshake chunk missing $\\x01 marker (first 32B: " ++ hex (chunk0.take 32) ++ ")")
  let pkt := chunk0.drop off.toNat
  if pkt.length < 0x2B + 91 then
    throw ("handshake packet too short: " ++ toString pkt.length ++ "B")
  let headerLen := (pkt.getD 2 0).toNat
  return (slice (0x0B + headerLen) 32 pkt, slice (0x2B + headerLen) 91 pkt)

private theorem deriveKeys_fields (priv : Priv) (chunk0 : Bytes) :
    deriveKeys crypto priv chunk0 =
      handshakeFields chunk0 >>= fun fields =>
        deriveSharedSecret crypto priv fields.2 >>= fun shared =>
          crypto.aesEcbDecrypt shared fields.1 := by
  unfold deriveKeys handshakeFields deriveSharedSecret
  dsimp only
  split
  · rfl
  · split
    · rfl
    · simp only [bind, Except.bind, pure, Except.pure, slice]
      cases crypto.loadDerPublicKey _ <;> rfl

/-- `derive_shared_secret` followed by `derive_chacha20_key`. -/
def sessionKey (finalize : (key data : Bytes) → Except String Bytes) (ourPriv : Priv)
    (peerPubkeyDer encryptedKey : Bytes) : Except String Bytes := do
  let sharedSecret ← deriveSharedSecret crypto ourPriv peerPubkeyDer
  deriveChacha20Key crypto finalize sharedSecret encryptedKey

private theorem sessionKey_of_blocks {finalize : (key data : Bytes) → Except String Bytes}
    (hfinalize : ∀ key data, 16 ∣ data.length → finalize key data = .ok []) (priv : Priv)
    (peerPub : Bytes) {encryptedKey : Bytes} (hblocks : 16 ∣ encryptedKey.length) :
    sessionKey crypto finalize priv peerPub encryptedKey =
      deriveSharedSecret crypto priv peerPub >>= fun shared =>
        crypto.aesEcbDecrypt shared encryptedKey := by
  have hkey (shared : Bytes) : deriveChacha20Key crypto finalize shared encryptedKey =
      crypto.aesEcbDecrypt shared encryptedKey := by
    rw [deriveChacha20Key, hfinalize shared encryptedKey hblocks]
    cases crypto.aesEcbDecrypt shared encryptedKey with
    | error e => rfl
    | ok updated => exact congrArg Except.ok (List.append_nil updated)
  rw [sessionKey, funext hkey]

end

structure IsRequest (data : Bytes) (packet : EcdhPacket) : Prop where
  long : headerFixed + trailerSize ≤ data.length
  marker : [0x24, 0x01] <+: data
  encryptedKey : packet.encryptedKey = some (slice offEncryptedKey 32 data)
  peerPubkey : packet.peerPubkey = some (slice offPeerPubkey 91 data)

private theorem isRequest_of_parse {data : Bytes} {packet : EcdhPacket}
    (h : parseEcdhPacket data = some packet) (hreq : packet.pktType = ecdhTypeReq) :
    IsRequest data packet := by
  unfold parseEcdhPacket at h
  dsimp only at h
  split at h
  · cases h
  · rename_i hlong
    split at h
    · cases h
    · rename_i hmagic
      split at h
      · cases h
      · split at h
        · cases h
        · cases h
          have hreq : data.getD offType 0 = ecdhTypeReq := hreq
          refine ⟨Nat.not_lt.mp hlong, ?_, if_pos hreq, if_pos hreq⟩
          match data, hlong with
          | [], hlong | [_], hlong => simp [headerFixed, trailerSize] at hlong
          | b0 :: b1 :: rest, _ =>
            have hmagic : b0 = ecdhMagic := not_not.mp hmagic
            have hreq : b1 = ecdhTypeReq := hreq
            rw [hmagic, hreq]
            exact ⟨rest, rfl⟩

private theorem accepts_request {data : Bytes} (hlong : headerFixed + trailerSize ≤ data.length)
    (hmarker : [0x24, 0x01] <+: data) (hflag : data.getD offMarker 0 = 0x01) :
    ∃ packet, parseEcdhPacket data = some packet ∧ packet.pktType = ecdhTypeReq := by
  obtain ⟨rest, rfl⟩ := hmarker
  have hmagic : ([0x24, 0x01] ++ rest).getD 0 0 = ecdhMagic := rfl
  have htype : ([0x24, 0x01] ++ rest).getD offType 0 = ecdhTypeReq := rfl
  unfold parseEcdhPacket
  rw [if_neg (Nat.not_lt.mpr hlong), if_neg (not_not.mpr hmagic)]
  dsimp only
  rw [if_neg fun hne => hne.1 htype, if_neg (not_not.mpr hflag)]
  exact ⟨_, rfl, htype⟩

private theorem handshakeFields_of_request {data : Bytes} {packet : EcdhPacket}
    (h : IsRequest data packet) : handshakeFields data =
      .ok (slice (offEncryptedKey + (data.getD offHeaderLen 0).toNat) 32 data,
        slice (offPeerPubkey + (data.getD offHeaderLen 0).toNat) 91 data) := by
  have hlong := h.long
  have hshort : ¬ data.length < 0x2B + 91 := by
    simp only [headerFixed, trailerSize] at hlong
    omega
  have hfind : find [0x24, 0x01] data = (0 : Nat) :=
    find_of_least (by decide) ⟨h.marker, fun _ _ => Nat.zero_le _⟩
  unfold handshakeFields
  simp only [hfind, Int.toNat_natCast, List.drop_zero, hshort, if_false]
  rfl

section

variable {Priv Pub : Type}

/-- Both parsers select the same complete fields, and the key derived from the parsed ones is the
decoder's. -/
def HandshakesAgree (crypto : Crypto Priv Pub)
    (finalize : (key data : Bytes) → Except String Bytes) (priv : Priv) (data : Bytes)
    (packet : EcdhPacket) : Prop :=
  ∃ encryptedKey peerPubkey, packet.encryptedKey = some encryptedKey ∧
    packet.peerPubkey = some peerPubkey ∧ encryptedKey.length = 32 ∧ peerPubkey.length = 91 ∧
    handshakeFields data = .ok (encryptedKey, peerPubkey) ∧
    sessionKey crypto finalize priv peerPubkey encryptedKey = deriveKeys crypto priv data

/-- The bytes from the encrypted key on repeat after `header_len` bytes, up to the end of the
shifted public key. -/
def ShiftHidden (data : Bytes) (headerLen : Nat) : Prop :=
  headerFixed + headerLen ≤ data.length ∧
    (slice offEncryptedKey (32 + 91 + headerLen) data).HasPeriod headerLen

private theorem shiftHidden_iff {data : Bytes} (hlong : headerFixed + trailerSize ≤ data.length)
    (headerLen : Nat) :
    ShiftHidden data headerLen ↔
      slice offEncryptedKey 32 data = slice (offEncryptedKey + headerLen) 32 data ∧
        slice offPeerPubkey 91 data = slice (offPeerPubkey + headerLen) 91 data := by
  have hfields : offEncryptedKey + (32 + 91) ≤ data.length := by
    simp only [headerFixed, trailerSize, offEncryptedKey] at hlong ⊢
    omega
  have hboth : slice offEncryptedKey (32 + 91) data =
      slice (offEncryptedKey + headerLen) (32 + 91) data ↔ ShiftHidden data headerLen :=
    slice_eq_shifted_iff hfields (by decide)
  rw [← hboth]
  exact slices_eq_shifted_iff.symm

private theorem shiftHidden_zero {data : Bytes} (hlong : headerFixed + trailerSize ≤ data.length) :
    ShiftHidden data 0 :=
  (shiftHidden_iff hlong 0).2 ⟨rfl, rfl⟩

variable (crypto : Crypto Priv Pub) {finalize : (key data : Bytes) → Except String Bytes}

/-- On an accepted request the parsers agree where the header length is zero or its shift does not
show. -/
theorem handshakes_agree_iff
    (hfinalize : ∀ key data, 16 ∣ data.length → finalize key data = .ok []) (priv : Priv)
    {data : Bytes} {packet : EcdhPacket} (hparse : parseEcdhPacket data = some packet)
    (hreq : packet.pktType = ecdhTypeReq) :
    HandshakesAgree crypto finalize priv data packet ↔
      data.getD offHeaderLen 0 = 0 ∨ ShiftHidden data (data.getD offHeaderLen 0).toNat := by
  have hrequest := isRequest_of_parse hparse hreq
  have hlong := hrequest.long
  have hdecoder := handshakeFields_of_request hrequest
  have hhidden := shiftHidden_iff hlong (data.getD offHeaderLen 0).toNat
  constructor
  · intro ⟨encryptedKey, peerPubkey, hkey, hpub, _, _, hselected, _⟩
    rw [hrequest.encryptedKey, Option.some.injEq] at hkey
    rw [hrequest.peerPubkey, Option.some.injEq] at hpub
    rw [hdecoder, ← hkey, ← hpub, Except.ok.injEq, Prod.mk.injEq] at hselected
    exact .inr (hhidden.2 ⟨hselected.1.symm, hselected.2.symm⟩)
  · intro hcondition
    have hshift : ShiftHidden data (data.getD offHeaderLen 0).toNat := by
      rcases hcondition with hzero | hshift
      · rw [hzero]
        exact shiftHidden_zero hlong
      · exact hshift
    obtain ⟨hkey, hpub⟩ := hhidden.1 hshift
    rw [← hkey, ← hpub] at hdecoder
    simp only [headerFixed, trailerSize] at hlong
    have hkeyLength : (slice offEncryptedKey 32 data).length = 32 :=
      slice_length_of_le (by simp only [offEncryptedKey]; omega)
    have hpubLength : (slice offPeerPubkey 91 data).length = 91 :=
      slice_length_of_le (by simp only [offPeerPubkey]; omega)
    refine ⟨_, _, hrequest.encryptedKey, hrequest.peerPubkey, hkeyLength, hpubLength, hdecoder, ?_⟩
    rw [deriveKeys_fields, hdecoder]
    exact sessionKey_of_blocks crypto hfinalize priv _ ⟨2, hkeyLength⟩

end

def ecbFinalize (_key data : Bytes) : Except String Bytes :=
  if 16 ∣ data.length then .ok []
  else .error "The length of the provided data is not a multiple of the block length."

def basePointRequest (headerLen : UInt8) : Bytes :=
  [0x24, 0x01, headerLen, 0, 0, 0x01, 0, 0, 0, 0, 0] ++ (List.replicate headerLen.toNat 0 ++
    (basePointHandshake.encryptedKey ++ (basePointHandshake.peerPub ++
      List.replicate trailerSize 0)))

private theorem basePointRequest_accepted (headerLen : UInt8) :
    ∃ packet, parseEcdhPacket (basePointRequest headerLen) = some packet ∧
      packet.pktType = ecdhTypeReq := by
  apply accepts_request
  · simp only [basePointRequest, List.length_append, List.length_replicate,
      basePointHandshake.encryptedKey_length, basePointHandshake.peerPub_length, List.length_cons,
      List.length_nil, headerFixed]
    omega
  · exact ⟨_, rfl⟩
  · rfl

theorem handshakes_agree_iff_unshifted :
    ∃ packet, parseEcdhPacket (basePointRequest 0) = some packet ∧
      HandshakesAgree basePointCrypto ecbFinalize () (basePointRequest 0) packet := by
  obtain ⟨packet, hparse, hreq⟩ := basePointRequest_accepted 0
  refine ⟨packet, hparse, (handshakes_agree_iff basePointCrypto ?_ () hparse hreq).2 (.inl rfl)⟩
  exact fun key data hblocks => if_pos hblocks

/-- With a header length of one the decoder selects the camera's fields, the parser those one byte
in front of them. -/
theorem not_handshakes_agree :
    ¬ ∀ data packet, parseEcdhPacket data = some packet → packet.pktType = ecdhTypeReq →
      0x2B + 91 ≤ data.length →
        HandshakesAgree basePointCrypto ecbFinalize () data packet := by
  intro hagree
  obtain ⟨packet, hparse, hreq⟩ := basePointRequest_accepted 1
  have hrequest := isRequest_of_parse hparse hreq
  obtain ⟨encryptedKey, _, hkey, _, _, _, hselected, _⟩ :=
    hagree _ packet hparse hreq (le_trans (by decide) hrequest.long)
  rw [hrequest.encryptedKey, Option.some.injEq] at hkey
  rw [handshakeFields_of_request hrequest, Except.ok.injEq, Prod.mk.injEq, ← hkey] at hselected
  have hfirst := congrArg List.head? hselected.1
  have hdecoder : (0x50 : UInt8) = 0x00 := Option.some.inj hfirst
  revert hdecoder
  decide

end EzvizHp7.Cpd7
