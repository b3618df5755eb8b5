import EzvizHp7.Cpd7.EcdhPacket

/-!
# The layout of an ECDH packet

What `parse_ecdh_packet` accepts, as a record whose fields have the lengths of the layout. The
parser does not check that the announced payload is there; where it and the trailer are, parsing
and writing the layout are inverse to each other.
-/

namespace EzvizHp7.Cpd7

open Slices

/-- The fields of a packet. The two between the nonce and the payload are only filler in a data
packet. -/
structure EcdhLayout where
  request : Bool
  headerLen : UInt8
  subType : UInt8
  nonceRaw : Bytes
  encryptedKey : Bytes
  peerPubkey : Bytes
  payload : Bytes
  trailer : Bytes
  nonceRaw_length : nonceRaw.length = 4
  encryptedKey_length : encryptedKey.length = 32
  peerPubkey_length : peerPubkey.length = 91
  payload_length : payload.length < 256 ^ 2
  trailer_length : trailer.length = trailerSize

namespace EcdhLayout

variable (l : EcdhLayout)

def pktType : UInt8 := if l.request then ecdhTypeReq else ecdhTypeData

def lead : Bytes :=
  [ecdhMagic, l.pktType, l.headerLen] ++
    (BigEndian.bytes 2 l.payload.length ++ [0x01, l.subType])

def encode : Bytes :=
  l.lead ++ (l.nonceRaw ++ (l.encryptedKey ++ (l.peerPubkey ++ (l.payload ++ l.trailer))))

def packet : EcdhPacket where
  pktType := l.pktType
  headerLen := l.headerLen
  payloadLen := l.payload.length
  subType := l.subType
  nonceRaw := l.nonceRaw
  payload := l.payload
  trailer := l.trailer
  encryptedKey := if l.pktType = ecdhTypeReq then some l.encryptedKey else none
  peerPubkey := if l.pktType = ecdhTypeReq then some l.peerPubkey else none

@[simp] theorem lead_length : l.lead.length = offNonceRaw := by
  simp [lead, BigEndian.bytes_length l.payload_length, offNonceRaw]

theorem pktType_known : l.pktType = ecdhTypeReq ∨ l.pktType = ecdhTypeData := by
  unfold pktType
  split
  · exact .inl rfl
  · exact .inr rfl

theorem lead_bytes (more : Bytes) :
    (l.lead ++ more).getD 0 0 = ecdhMagic ∧ (l.lead ++ more).getD offType 0 = l.pktType ∧
      (l.lead ++ more).getD offHeaderLen 0 = l.headerLen ∧
      (l.lead ++ more).getD offMarker 0 = 0x01 ∧
      (l.lead ++ more).getD offSubtype 0 = l.subType := by
  obtain ⟨hi, lo, hlen⟩ : ∃ hi lo, BigEndian.bytes 2 l.payload.length = [hi, lo] := by
    match h : BigEndian.bytes 2 l.payload.length, BigEndian.bytes_length l.payload_length with
    | [hi, lo], _ => exact ⟨hi, lo, rfl⟩
  simp [lead, hlen, offType, offHeaderLen, offMarker, offSubtype]

/-- Where the fields are in anything that starts with the packet. -/
structure Located (data : Bytes) : Prop where
  long : headerFixed + l.payload.length + trailerSize ≤ data.length
  payloadLen : slice offPayloadLen 2 data = BigEndian.bytes 2 l.payload.length
  nonceRaw : slice offNonceRaw 4 data = l.nonceRaw
  encryptedKey : slice offEncryptedKey 32 data = l.encryptedKey
  peerPubkey : slice offPeerPubkey 91 data = l.peerPubkey
  payload : slice headerFixed l.payload.length data = l.payload
  trailer : slice (headerFixed + l.payload.length) trailerSize data = l.trailer

theorem located (more : Bytes) : l.Located (l.encode ++ more) := by
  have hlead := l.lead_length
  have hnonce := l.nonceRaw_length
  have hkey := l.encryptedKey_length
  have hpub := l.peerPubkey_length
  have htrailer := l.trailer_length
  have hsize := BigEndian.bytes_length l.payload_length
  have hencode : l.encode ++ more = l.lead ++ (l.nonceRaw ++ (l.encryptedKey ++ (l.peerPubkey ++
      (l.payload ++ (l.trailer ++ more))))) := by
    simp only [encode, List.append_assoc]
  rw [hencode]
  simp only [offNonceRaw] at hlead
  constructor
  · simp only [List.length_append, hlead, hnonce, hkey, hpub, htrailer, headerFixed]
    omega
  · rw [lead, List.append_assoc, List.append_assoc]
    exact slice_field rfl hsize
  · exact slice_field l.lead_length hnonce
  · rw [← List.append_assoc]
    exact slice_field (by simp [hlead, hnonce, offEncryptedKey]) hkey
  · rw [← List.append_assoc, ← List.append_assoc]
    exact slice_field (by simp [hlead, hnonce, hkey, offPeerPubkey]) hpub
  · rw [← List.append_assoc, ← List.append_assoc, ← List.append_assoc]
    exact slice_field (by simp [hlead, hnonce, hkey, hpub, headerFixed]) rfl
  · rw [← List.append_assoc, ← List.append_assoc, ← List.append_assoc, ← List.append_assoc]
    have hfront : (l.lead ++ l.nonceRaw ++ l.encryptedKey ++ l.peerPubkey ++ l.payload).length =
        headerFixed + l.payload.length := by
      simp only [List.length_append, hlead, hnonce, hkey, hpub, headerFixed]
    exact slice_field hfront htrailer

theorem parse_encode (more : Bytes) :
    parseEcdhPacket (l.encode ++ more) = some l.packet := by
  have hlocated := l.located more
  obtain ⟨hmagic, htype, hheaderLen, hmarker, hsubType⟩ := l.lead_bytes
    (l.nonceRaw ++ (l.encryptedKey ++ (l.peerPubkey ++ (l.payload ++ (l.trailer ++ more)))))
  have hencode : l.encode ++ more = l.lead ++ (l.nonceRaw ++ (l.encryptedKey ++ (l.peerPubkey ++
      (l.payload ++ (l.trailer ++ more))))) := by
    simp only [encode, List.append_assoc]
  rw [← hencode] at hmagic htype hheaderLen hmarker hsubType
  have hlong : ¬ (l.encode ++ more).length < headerFixed + trailerSize := by
    have := hlocated.long
    omega
  have hknown : ¬ (l.pktType ≠ ecdhTypeReq ∧ l.pktType ≠ ecdhTypeData) := by
    rcases l.pktType_known with h | h <;> simp [h]
  have hsize : BigEndian.value (slice offPayloadLen 2 (l.encode ++ more)) = l.payload.length := by
    rw [hlocated.payloadLen, BigEndian.value_bytes l.payload_length]
  simp only [parseEcdhPacket, if_neg hlong, hmagic, htype, hmarker, if_neg hknown, hsize,
    hheaderLen, hsubType, hlocated.nonceRaw, hlocated.encryptedKey, hlocated.peerPubkey,
    hlocated.payload, hlocated.trailer, ne_eq, not_true_eq_false, if_false, packet]

end EcdhLayout

/-- What the parser has checked, and what it returned then. -/
structure Accepted (data : Bytes) (r : EcdhPacket) : Prop where
  long : headerFixed + trailerSize ≤ data.length
  magic : data.getD 0 0 = ecdhMagic
  known : r.pktType = ecdhTypeReq ∨ r.pktType = ecdhTypeData
  marker : data.getD offMarker 0 = 0x01
  pktType : r.pktType = data.getD offType 0
  headerLen : r.headerLen = data.getD offHeaderLen 0
  payloadLen : r.payloadLen = BigEndian.value (slice offPayloadLen 2 data)
  subType : r.subType = data.getD offSubtype 0
  nonceRaw : r.nonceRaw = slice offNonceRaw 4 data
  payload : r.payload = slice headerFixed r.payloadLen data
  trailer : r.trailer = slice (headerFixed + r.payloadLen) trailerSize data
  encryptedKey : r.encryptedKey =
    if r.pktType = ecdhTypeReq then some (slice offEncryptedKey 32 data) else none
  peerPubkey : r.peerPubkey =
    if r.pktType = ecdhTypeReq then some (slice offPeerPubkey 91 data) else none

private theorem parseEcdhPacket_accepted {data : Bytes} {r : EcdhPacket}
    (h : parseEcdhPacket data = some r) : Accepted data r := by
  simp only [parseEcdhPacket] at h
  split at h
  · cases h
  rename_i hlong
  split at h
  · cases h
  rename_i hmagic
  split at h
  · cases h
  rename_i hknown
  split at h
  · cases h
  rename_i hmarker
  cases h
  constructor <;> first | rfl | skip
  · omega
  · exact not_not.1 hmagic
  · by_contra hneither
    exact hknown (not_or.1 hneither)
  · exact not_not.1 hmarker

private theorem lead_of_take {data : Bytes} (hlong : offNonceRaw ≤ data.length) :
    data.take offNonceRaw = [data.getD 0 0, data.getD offType 0, data.getD offHeaderLen 0] ++
      (slice offPayloadLen 2 data ++ [data.getD offMarker 0, data.getD offSubtype 0]) := by
  match data, hlong with
  | _ :: _ :: _ :: _ :: _ :: _ :: _ :: _, _ => rfl

theorem Accepted.layout {data : Bytes} {r : EcdhPacket} (h : Accepted data r)
    (hcomplete : r.trailer.length = trailerSize) :
    ∃ (l : EcdhLayout) (more : Bytes), data = l.encode ++ more ∧ r = l.packet := by
  have hall : headerFixed + r.payloadLen + trailerSize ≤ data.length := by
    rw [h.trailer, slice_length] at hcomplete
    simp only [trailerSize] at hcomplete ⊢
    omega
  have hpayload : (slice headerFixed r.payloadLen data).length = r.payloadLen := by
    apply slice_length_of_le
    omega
  have hlenField : (slice offPayloadLen 2 data).length = 2 := by
    apply slice_length_of_le
    have := h.long
    simp only [offPayloadLen, headerFixed, trailerSize] at this ⊢
    omega
  have hlt : r.payloadLen < 256 ^ 2 := by
    have hvalue := BigEndian.value_lt (slice offPayloadLen 2 data)
    rwa [hlenField, ← h.payloadLen] at hvalue
  have hfields : offPeerPubkey + 91 ≤ data.length := by
    have := h.long
    simp only [offPeerPubkey, headerFixed, trailerSize] at this ⊢
    omega
  let l : EcdhLayout :=
    { request := r.pktType = ecdhTypeReq
      headerLen := r.headerLen
      subType := r.subType
      nonceRaw := slice offNonceRaw 4 data
      encryptedKey := slice offEncryptedKey 32 data
      peerPubkey := slice offPeerPubkey 91 data
      payload := slice headerFixed r.payloadLen data
      trailer := r.trailer
      nonceRaw_length := slice_length_of_le
        (Nat.le_trans (by decide : offNonceRaw + 4 ≤ offPeerPubkey + 91) hfields)
      encryptedKey_length := slice_length_of_le
        (Nat.le_trans (by decide : offEncryptedKey + 32 ≤ offPeerPubkey + 91) hfields)
      peerPubkey_length := slice_length_of_le hfields
      payload_length := hpayload.symm ▸ hlt
      trailer_length := hcomplete }
  have htype : l.pktType = r.pktType := by
    rcases h.known with hreq | hdata
    · simp [l, EcdhLayout.pktType, hreq]
    · simp [l, EcdhLayout.pktType, hdata, ecdhTypeData, ecdhTypeReq]
  have hlead : l.lead = data.take offNonceRaw := by
    have hbytes : BigEndian.bytes 2 l.payload.length = slice offPayloadLen 2 data := by
      have hback := BigEndian.bytes_value (slice offPayloadLen 2 data)
      rw [hlenField, ← h.payloadLen] at hback
      rw [← hback]
      exact congrArg _ hpayload
    rw [lead_of_take (Nat.le_trans (by decide) hfields), h.magic, h.marker, ← h.pktType,
      ← h.headerLen, ← h.subType, ← hbytes, ← htype]
    rfl
  refine ⟨l, data.drop (headerFixed + r.payloadLen + trailerSize), ?_, ?_⟩
  · -- from the last field to the first, each with what follows it
    have hsplit : l.encode ++ data.drop (headerFixed + r.payloadLen + trailerSize) =
        data.take offNonceRaw ++ (slice offNonceRaw 4 data ++ (slice offEncryptedKey 32 data ++
          (slice offPeerPubkey 91 data ++ (slice headerFixed r.payloadLen data ++
            (slice (headerFixed + r.payloadLen) trailerSize data ++
              data.drop (headerFixed + r.payloadLen + trailerSize)))))) := by
      simp only [EcdhLayout.encode, hlead, List.append_assoc, ← h.trailer]
      rfl
    rw [hsplit, slice_append_drop, slice_append_drop]
    have hpub := slice_append_drop offPeerPubkey 91 data
    have hkey := slice_append_drop offEncryptedKey 32 data
    have hnonce := slice_append_drop offNonceRaw 4 data
    rw [show headerFixed = offPeerPubkey + 91 from rfl, hpub,
      show offPeerPubkey = offEncryptedKey + 32 from rfl, hkey,
      show offEncryptedKey = offNonceRaw + 4 from rfl, hnonce, List.take_append_drop]
  · have hr : r = ⟨r.pktType, r.headerLen, r.payloadLen, r.subType, r.nonceRaw, r.payload,
        r.trailer, r.encryptedKey, r.peerPubkey⟩ := rfl
    rw [hr, h.encryptedKey, h.peerPubkey, h.nonceRaw, h.payload]
    simp only [EcdhLayout.packet, htype]
    have : l.payload.length = r.payloadLen := hpayload
    rw [this]

/-- Parsing gives back exactly the layouts that were written: what a packet with all its bytes is
parsed to is the layout it is the encoding of, and no other input gives a complete packet. -/
theorem parseEcdhPacket_complete_iff (data : Bytes) (r : EcdhPacket) :
    parseEcdhPacket data = some r ∧ r.trailer.length = trailerSize ↔
      ∃ (l : EcdhLayout) (more : Bytes), data = l.encode ++ more ∧ r = l.packet := by
  constructor
  · intro ⟨hparsed, hcomplete⟩
    exact (parseEcdhPacket_accepted hparsed).layout hcomplete
  · intro ⟨l, more, hdata, hr⟩
    rw [hdata, hr]
    exact ⟨l.parse_encode more, l.trailer_length⟩

end EzvizHp7.Cpd7
