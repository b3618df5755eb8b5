import EzvizHp7.Control.Cas
import EzvizHp7.Library.Raising

/-!
# What the CAS reader accepts

The header and the packets that `_parse_cas_header` and `_recv_cas_response` take are given by
their layout: the version, the gap and the tail may be anything.
-/

namespace EzvizHp7.Control

open Cpd7 (Bytes)
open Segments Delivery

/-- The header with these fields; the parser looks neither at the version nor at the gap. -/
def CasHeader.bytes (hdr : CasHeader) (version gap : Bytes) : Bytes :=
  magic ++ version ++ Packet.word hdr.sessionId ++ gap ++ Packet.word hdr.cmd ++
    Packet.word hdr.flags ++ Packet.word hdr.bodyLen ++ Packet.word hdr.extra

structure CasHeader.Fits (hdr : CasHeader) : Prop where
  sessionId : hdr.sessionId < 2 ^ 32
  cmd : hdr.cmd < 2 ^ 32
  flags : hdr.flags < 2 ^ 32
  bodyLen : hdr.bodyLen < 2 ^ 32
  extra : hdr.extra < 2 ^ 32

theorem CasHeader.Fits.bytes_length {hdr : CasHeader} (h : hdr.Fits) {version gap : Bytes}
    (hversion : version.length = 4) (hgap : gap.length = 4) :
    (hdr.bytes version gap).length = casHeaderSize := by
  simp only [CasHeader.bytes, List.length_append, hversion, hgap, Packet.word_length h.sessionId,
    Packet.word_length h.cmd, Packet.word_length h.flags, Packet.word_length h.bodyLen,
    Packet.word_length h.extra]
  rfl

private theorem exists_four {data : Bytes} (h : data.length = 4) :
    ∃ b0 b1 b2 b3, data = [b0, b1, b2, b3] := by
  match data, h with
  | [b0, b1, b2, b3], _ => exact ⟨b0, b1, b2, b3, rfl⟩

theorem parseCasHeader_bytes {hdr : CasHeader} (h : hdr.Fits) {version gap : Bytes}
    (hversion : version.length = 4) (hgap : gap.length = 4) :
    parseCasHeader (hdr.bytes version gap) = .ok hdr := by
  have hlen := h.bytes_length hversion hgap
  obtain ⟨v0, v1, v2, v3, rfl⟩ := exists_four hversion
  obtain ⟨g0, g1, g2, g3, rfl⟩ := exists_four hgap
  obtain ⟨s0, s1, s2, s3, hs⟩ := exists_four (Packet.word_length h.sessionId)
  obtain ⟨c0, c1, c2, c3, hc⟩ := exists_four (Packet.word_length h.cmd)
  obtain ⟨f0, f1, f2, f3, hf⟩ := exists_four (Packet.word_length h.flags)
  obtain ⟨l0, l1, l2, l3, hl⟩ := exists_four (Packet.word_length h.bodyLen)
  obtain ⟨e0, e1, e2, e3, he⟩ := exists_four (Packet.word_length h.extra)
  have hmagic : (hdr.bytes [v0, v1, v2, v3] [g0, g1, g2, g3]).take 4 = magic := rfl
  have hsession : slice 8 12 (hdr.bytes [v0, v1, v2, v3] [g0, g1, g2, g3]) =
      Packet.word hdr.sessionId := by
    rw [CasHeader.bytes, hs]
    rfl
  have hcmd : slice 16 20 (hdr.bytes [v0, v1, v2, v3] [g0, g1, g2, g3]) = Packet.word hdr.cmd := by
    rw [CasHeader.bytes, hs, hc]
    rfl
  have hflags : slice 20 24 (hdr.bytes [v0, v1, v2, v3] [g0, g1, g2, g3]) =
      Packet.word hdr.flags := by
    rw [CasHeader.bytes, hs, hc, hf]
    rfl
  have hbody : slice 24 28 (hdr.bytes [v0, v1, v2, v3] [g0, g1, g2, g3]) =
      Packet.word hdr.bodyLen := by
    rw [CasHeader.bytes, hs, hc, hf, hl]
    rfl
  have hextra : slice 28 32 (hdr.bytes [v0, v1, v2, v3] [g0, g1, g2, g3]) =
      Packet.word hdr.extra := by
    rw [CasHeader.bytes, hs, hc, hf, hl, he]
    rfl
  simp only [parseCasHeader, hlen, hmagic, hsession, hcmd, hflags, hbody, hextra,
    Packet.unpackI_word h.sessionId, Packet.unpackI_word h.cmd, Packet.unpackI_word h.flags,
    Packet.unpackI_word h.bodyLen, Packet.unpackI_word h.extra, ne_eq, not_true_eq_false, if_false]
  rfl

private theorem unpackI_eq_ok {data : Bytes} {n : Nat} (h : unpackI data = .ok n) :
    n < 2 ^ 32 ∧ data = Packet.word n := by
  unfold unpackI at h
  split at h
  · rename_i hlen
    cases h
    constructor
    · exact lt_of_lt_of_eq (BigEndian.value_lt data) (by rw [hlen]; rfl)
    · rw [Packet.word, ← hlen, BigEndian.bytes_value]
  · cases h

private theorem drop_slice_append {start stop : Nat} (h : start ≤ stop) (data : Bytes) :
    data.drop start = slice start stop data ++ data.drop stop := by
  have hstop : data.drop stop = (data.drop start).drop (stop - start) := by
    rw [List.drop_drop, Nat.add_sub_cancel' h]
  rw [hstop, slice, List.take_append_drop]

/-- The parser takes exactly the headers of this layout. -/
theorem parseCasHeader_eq_ok {data : Bytes} {hdr : CasHeader} :
    parseCasHeader data = .ok hdr ↔
      hdr.Fits ∧ ∃ version gap, version.length = 4 ∧ gap.length = 4 ∧
        data = hdr.bytes version gap := by
  constructor
  · intro h
    by_cases hlen : data.length = casHeaderSize
    · by_cases hmagic : data.take 4 = magic
      · simp only [parseCasHeader, hlen, hmagic, ne_eq, not_true_eq_false, if_false,
          Except.bind_eq_ok] at h
        obtain ⟨sessionId, hsession, cmd, hcmd, flags, hflags, bodyLen, hbody, extra, hextra,
          hdr_eq⟩ := h
        cases hdr_eq
        obtain ⟨hsession_lt, hsession⟩ := unpackI_eq_ok (Except.mapError_eq_ok.1 hsession)
        obtain ⟨hcmd_lt, hcmd⟩ := unpackI_eq_ok (Except.mapError_eq_ok.1 hcmd)
        obtain ⟨hflags_lt, hflags⟩ := unpackI_eq_ok (Except.mapError_eq_ok.1 hflags)
        obtain ⟨hbody_lt, hbody⟩ := unpackI_eq_ok (Except.mapError_eq_ok.1 hbody)
        obtain ⟨hextra_lt, hextra⟩ := unpackI_eq_ok (Except.mapError_eq_ok.1 hextra)
        refine ⟨⟨hsession_lt, hcmd_lt, hflags_lt, hbody_lt, hextra_lt⟩, slice 4 8 data,
          slice 12 16 data, ?_, ?_, ?_⟩
        · simp [slice, hlen, casHeaderSize]
        · simp [slice, hlen, casHeaderSize]
        · have hend : data.drop 32 = [] := List.drop_eq_nil_of_le (le_of_eq hlen)
          rw [CasHeader.bytes, ← hsession, ← hcmd, ← hflags, ← hbody, ← hextra, ← hmagic]
          conv_lhs =>
            rw [← List.take_append_drop 4 data, drop_slice_append (show 4 ≤ 8 by decide),
              drop_slice_append (show 8 ≤ 12 by decide),
              drop_slice_append (show 12 ≤ 16 by decide),
              drop_slice_append (show 16 ≤ 20 by decide),
              drop_slice_append (show 20 ≤ 24 by decide),
              drop_slice_append (show 24 ≤ 28 by decide),
              drop_slice_append (show 28 ≤ 32 by decide), hend, List.append_nil]
          simp only [List.append_assoc]
      · simp [parseCasHeader, hlen, hmagic, throw, throwThe, MonadExceptOf.throw, bind,
          Except.bind] at h
    · simp [parseCasHeader, hlen, throw, throwThe, MonadExceptOf.throw, bind, Except.bind] at h
  · rintro ⟨hfits, version, gap, hversion, hgap, rfl⟩
    exact parseCasHeader_bytes hfits hversion hgap

/-- The stream starts with a packet of this header and body, and goes on with the rest. -/
structure Framed (unread : Bytes) (hdr : CasHeader) (body rest : Bytes) : Prop where
  fits : hdr.Fits
  body_length : body.length = hdr.bodyLen
  layout : ∃ version gap tail, version.length = 4 ∧ gap.length = 4 ∧ tail.length = casTailSize ∧
    unread = hdr.bytes version gap ++ (body ++ (tail ++ rest))

private theorem recvExact_eq_ok {n : Nat} {sock sock' : Socket} {data : Bytes}
    (h : recvExact n sock = .ok (data, sock')) :
    sock.unread = data ++ sock'.unread ∧ data.length = n :=
  readExact_eq_ok (Except.mapError_eq_ok.1 h)

private theorem recvBody_eq_ok {n : Nat} {sock sock' : Socket} {data : Bytes}
    (h : recvBody n sock = .ok (data, sock')) :
    sock.unread = data ++ sock'.unread ∧ data.length = n := by
  by_cases hpos : 0 < n
  · rw [recvBody, if_pos hpos] at h
    exact recvExact_eq_ok h
  · rw [recvBody, if_neg hpos] at h
    cases h
    exact ⟨rfl, (Nat.eq_zero_of_not_pos hpos).symm⟩

theorem Framed.of_recv {sock sock' : Socket} {hdr : CasHeader} {body : Bytes}
    (h : recvCasResponse sock = .ok ((hdr, body), sock')) :
    Framed sock.unread hdr body sock'.unread := by
  simp only [recvCasResponse, Except.bind_eq_ok, Prod.exists] at h
  obtain ⟨header, sock₁, hheader, hdr', hparse, body', sock₂, hbody, tail, sock₃, htail, hret⟩ := h
  cases hret
  obtain ⟨hunread, -⟩ := recvExact_eq_ok hheader
  obtain ⟨hunread₁, hbody_length⟩ := recvBody_eq_ok hbody
  obtain ⟨hunread₂, htail_length⟩ := recvExact_eq_ok htail
  obtain ⟨hfits, version, gap, hversion, hgap, rfl⟩ := parseCasHeader_eq_ok.1 hparse
  exact ⟨hfits, hbody_length, version, gap, tail, hversion, hgap, htail_length,
    by rw [hunread, hunread₁, hunread₂]⟩

theorem Framed.recv {sock : Socket} {hdr : CasHeader} {body rest : Bytes}
    (h : Framed sock.unread hdr body rest) :
    ∃ sock', recvCasResponse sock = .ok ((hdr, body), sock') ∧ sock'.unread = rest := by
  obtain ⟨version, gap, tail, hversion, hgap, htail, hunread⟩ := h.layout
  obtain ⟨sock₁, hheader, hunread₁⟩ := recvExact_append hunread (h.fits.bytes_length hversion hgap)
  obtain ⟨sock₂, hbody, hunread₂⟩ := recvBody_append hunread₁
  obtain ⟨sock₃, htail', hunread₃⟩ := recvExact_append hunread₂ htail
  rw [h.body_length] at hbody
  refine ⟨sock₃, ?_, hunread₃⟩
  simp only [recvCasResponse, hheader, parseCasHeader_bytes h.fits hversion hgap, hbody, htail',
    bind, Except.bind, pure, Except.pure]

def StartsWith (data : Bytes) (hdr : CasHeader) (more : Bytes) : Prop :=
  hdr.Fits ∧ ∃ version gap, version.length = 4 ∧ gap.length = 4 ∧
    data = hdr.bytes version gap ++ more

/-- A header is due, and these are not the first bytes of one. -/
def Foreign (data : Bytes) : Prop := casHeaderSize ≤ data.length ∧ data.take 4 ≠ magic

/-- The stream is over before the packet is. -/
def Incomplete (unread : Bytes) : Prop :=
  unread.length < casHeaderSize ∨
    ∃ hdr more, StartsWith unread hdr more ∧ more.length < hdr.bodyLen + casTailSize

private theorem unpackI_of_length {data : Bytes} (h : data.length = 4) :
    ∃ n, unpackI data = .ok n := by
  rw [unpackI, if_pos h]
  exact ⟨_, rfl⟩

theorem parseCasHeader_foreign {data : Bytes} (hlen : data.length = casHeaderSize)
    (hmagic : data.take 4 ≠ magic) :
    ∃ message, parseCasHeader data = .error (.valueError message) := by
  rw [parseCasHeader, if_neg (not_not.2 hlen), if_pos hmagic]
  exact ⟨_, rfl⟩

theorem startsWith_of_magic {data : Bytes} (hlen : casHeaderSize ≤ data.length)
    (hmagic : data.take 4 = magic) : ∃ hdr, StartsWith data hdr (data.drop casHeaderSize) := by
  have htake : (data.take casHeaderSize).length = casHeaderSize := List.length_take_of_le hlen
  have hmagic' : (data.take casHeaderSize).take 4 = magic := by
    rw [List.take_take]
    exact hmagic
  have hword (start : Nat) (h : start + 4 ≤ casHeaderSize) :
      (slice start (start + 4) (data.take casHeaderSize)).length = 4 := by
    rw [slice, List.length_take, List.length_drop, htake]
    omega
  obtain ⟨sessionId, hsession⟩ := unpackI_of_length (hword 8 (by decide))
  obtain ⟨cmd, hcmd⟩ := unpackI_of_length (hword 16 (by decide))
  obtain ⟨flags, hflags⟩ := unpackI_of_length (hword 20 (by decide))
  obtain ⟨bodyLen, hbody⟩ := unpackI_of_length (hword 24 (by decide))
  obtain ⟨extra, hextra⟩ := unpackI_of_length (hword 28 (by decide))
  have hparsed : parseCasHeader (data.take casHeaderSize) =
      .ok ⟨sessionId, cmd, flags, bodyLen, extra⟩ := by
    simp only [parseCasHeader, htake, hmagic', hsession, hcmd, hflags, hbody, hextra, ne_eq,
      not_true_eq_false, if_false]
    rfl
  obtain ⟨hfits, version, gap, hversion, hgap, hbytes⟩ := parseCasHeader_eq_ok.1 hparsed
  refine ⟨_, hfits, version, gap, hversion, hgap, ?_⟩
  rw [← hbytes, List.take_append_drop]

/-- A stream is a packet and what follows it, or the packet is incomplete, or there is none. -/
theorem stream_kinds (unread : Bytes) :
    Incomplete unread ∨ Foreign unread ∨ ∃ hdr body rest, Framed unread hdr body rest := by
  by_cases hlen : casHeaderSize ≤ unread.length
  · by_cases hmagic : unread.take 4 = magic
    · obtain ⟨hdr, hfits, version, gap, hversion, hgap, hunread⟩ := startsWith_of_magic hlen hmagic
      generalize unread.drop casHeaderSize = more at hunread
      by_cases hmore : more.length < hdr.bodyLen + casTailSize
      · exact .inl (.inr ⟨hdr, more, ⟨hfits, version, gap, hversion, hgap, hunread⟩, hmore⟩)
      · have hbody : (more.take hdr.bodyLen).length = hdr.bodyLen :=
          List.length_take_of_le (by omega)
        have htail : ((more.drop hdr.bodyLen).take casTailSize).length = casTailSize :=
          List.length_take_of_le (by rw [List.length_drop]; omega)
        refine .inr (.inr ⟨hdr, more.take hdr.bodyLen,
          (more.drop hdr.bodyLen).drop casTailSize, hfits, hbody, version, gap, _, hversion, hgap,
          htail, ?_⟩)
        rw [hunread, List.take_append_drop, List.take_append_drop]
    · exact .inr (.inl ⟨hlen, hmagic⟩)
  · exact .inl (.inl (Nat.not_le.1 hlen))

private theorem recvExact_short {n : Nat} {sock : Socket} (h : sock.unread.length < n) :
    ∃ message, recvExact n sock = .error (.osError message) := by
  cases hread : sock.readExact n with
  | ok result =>
    obtain ⟨hunread, hlen⟩ := readExact_eq_ok hread
    rw [hunread, List.length_append, hlen] at h
    omega
  | error short =>
    rw [recvExact, hread]
    cases short <;> exact ⟨_, rfl⟩

private theorem recvBody_short {n : Nat} {sock : Socket} (h : sock.unread.length < n) :
    ∃ message, recvBody n sock = .error (.osError message) := by
  rw [recvBody, if_pos (Nat.zero_lt_of_lt h)]
  exact recvExact_short h

theorem Incomplete.recv {sock : Socket} (h : Incomplete sock.unread) :
    ∃ message, recvCasResponse sock = .error (.osError message) := by
  rcases h with hshort | ⟨hdr, more, ⟨hfits, version, gap, hversion, hgap, hunread⟩, hmore⟩
  · obtain ⟨message, hheader⟩ := recvExact_short hshort
    refine ⟨message, ?_⟩
    simp only [recvCasResponse, hheader, bind, Except.bind]
  · obtain ⟨sock₁, hheader, hunread₁⟩ :=
      recvExact_append hunread (hfits.bytes_length hversion hgap)
    by_cases hbody : sock₁.unread.length < hdr.bodyLen
    · obtain ⟨message, hbody⟩ := recvBody_short hbody
      refine ⟨message, ?_⟩
      simp only [recvCasResponse, hheader, parseCasHeader_bytes hfits hversion hgap, hbody, bind,
        Except.bind]
    · have hlen : (more.take hdr.bodyLen).length = hdr.bodyLen := by
        rw [hunread₁] at hbody
        exact List.length_take_of_le (by omega)
      have hsplit : sock₁.unread = more.take hdr.bodyLen ++ more.drop hdr.bodyLen := by
        rw [hunread₁, List.take_append_drop]
      obtain ⟨sock₂, hbody', hunread₂⟩ := recvBody_append hsplit
      rw [hlen] at hbody'
      obtain ⟨message, htail⟩ : ∃ message, recvExact casTailSize sock₂ =
          .error (.osError message) := by
        apply recvExact_short
        rw [hunread₁] at hbody
        rw [hunread₂, List.length_drop]
        omega
      refine ⟨message, ?_⟩
      simp only [recvCasResponse, hheader, parseCasHeader_bytes hfits hversion hgap, hbody', htail,
        bind, Except.bind]

theorem Foreign.recv {sock : Socket} (h : Foreign sock.unread) :
    ∃ message, recvCasResponse sock = .error (.valueError message) := by
  have hlen : (sock.unread.take casHeaderSize).length = casHeaderSize :=
    List.length_take_of_le h.1
  obtain ⟨sock₁, hheader, -⟩ :=
    recvExact_append (List.take_append_drop casHeaderSize sock.unread).symm hlen
  have hmagic : (sock.unread.take casHeaderSize).take 4 ≠ magic := by
    rw [List.take_take]
    exact h.2
  obtain ⟨message, hparse⟩ := parseCasHeader_foreign hlen hmagic
  refine ⟨message, ?_⟩
  simp only [recvCasResponse, hheader, hparse, bind, Except.bind]

end EzvizHp7.Control
