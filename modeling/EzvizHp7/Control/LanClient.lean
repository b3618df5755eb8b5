import EzvizHp7.Control.Layout

/-!
# Control packets on the LAN

`_build_packet`, `_parse_response` and `_recv_response` of the LAN client. AES-CBC and its
padding come from a third-party package and are parameters that may fail on any input.
-/

namespace EzvizHp7.Control

open Cpd7 (Bytes hex)
open Segments Delivery

/-- What the client uses of its cipher package. -/
structure ControlCipher where
  pad : Bytes → Bytes
  unpad : Bytes → Except String Bytes
  cbcEncrypt : (key iv data : Bytes) → Except String Bytes
  cbcDecrypt : (key iv data : Bytes) → Except String Bytes

def aesIv : Bytes := [0x30, 0x31, 0x32, 0x33, 0x34, 0x35, 0x36, 0x37, 0, 0, 0, 0, 0, 0, 0, 0]

inductive LanError
  | connectionError (message : String)
  | structError (message : String)
  | cipherError (message : String)
  | osError (message : String)
  deriving DecidableEq, Repr

structure ResponseMeta where
  seq : Nat
  cmd : Nat
  bodyLen : Nat
  deriving DecidableEq, Repr

section

variable (cipher : ControlCipher) (md5 : Bytes → Digest)

def encrypt (key plaintext : Bytes) : Except String Bytes :=
  cipher.cbcEncrypt key aesIv (cipher.pad plaintext)

def decrypt (key ciphertext : Bytes) : Except String Bytes := do
  let data ← cipher.cbcDecrypt key aesIv ciphertext
  cipher.unpad data

/-- Decryption undoes encryption under every AES-128 key. -/
def ControlCipher.Inverts : Prop :=
  ∀ key plaintext ciphertext : Bytes, key.length = 16 →
    encrypt cipher key plaintext = .ok ciphertext → decrypt cipher key ciphertext = .ok plaintext

def framePacket (seq cmd : Nat) (body : Bytes) : Except LanError Bytes := do
  let seq ← (packI seq).mapError .structError
  let cmd ← (packI cmd).mapError .structError
  let bodyLen ← (packI body.length).mapError .structError
  let header := magic ++ [0x01, 0x00, 0x00, 0x00] ++ seq ++ [0x00, 0x00, 0x00, 0x00] ++ cmd ++
    [0xff, 0xff, 0xff, 0xff] ++ bodyLen ++ [0x00, 0x00, 0x00, 0x00]
  return header ++ body ++ hexdigest (md5 body)

def buildPacket (seq cmd : Nat) (plaintextXml key : Bytes) : Except LanError Bytes := do
  let body ← (encrypt cipher key plaintextXml).mapError .cipherError
  framePacket md5 seq cmd body

/-- `b"<?xml"` -/
def xmlPrefix : Bytes := [0x3c, 0x3f, 0x78, 0x6d, 0x6c]

def parseResponse (wire key : Bytes) : Except LanError (ResponseMeta × Bytes) := do
  if wire.take 4 ≠ magic then
    throw (.connectionError ("bad magic: " ++ hex (wire.take 4)))
  let seq ← (unpackI (slice 8 12 wire)).mapError .structError
  let cmd ← (unpackI (slice 16 20 wire)).mapError .structError
  let bodyLen ← (unpackI (slice 24 28 wire)).mapError .structError
  let body := slice headerLen (headerLen + bodyLen) wire
  let plain ←
    if xmlPrefix <+: body then .ok body else (decrypt cipher key body).mapError .cipherError
  return (⟨seq, cmd, bodyLen⟩, plain)

end

/-- `recv` until `n` bytes are there; a closed peer raises `closed`. -/
def recvAll (n : Nat) (closed : String) (sock : Socket) : Except LanError (Bytes × Socket) :=
  (sock.readExact n).mapError fun
    | .closed _ => .connectionError closed
    | .broken e => .osError e

def recvResponse (sock : Socket) : Except LanError (Bytes × Socket) := do
  let (header, sock) ← recvAll headerLen "peer closed during header" sock
  let bodyLen ← (unpackI (slice 24 28 header)).mapError .structError
  let (rest, sock) ← recvAll (bodyLen + trailerLen) "peer closed during body" sock
  return (header ++ rest, sock)

variable {cipher : ControlCipher} {md5 : Bytes → Digest}

def lanPacket (md5 : Bytes → Digest) (seq cmd : Nat) (body : Bytes) (hseq : seq < 2 ^ 32)
    (hcmd : cmd < 2 ^ 32) (hbody : body.length < 2 ^ 32) : Packet where
  session := seq
  cmd := cmd
  flags := 0xFFFFFFFF
  extra := 0
  body := body
  tail := hexdigest (md5 body)
  session_lt := hseq
  cmd_lt := hcmd
  flags_lt := by decide
  extra_lt := by decide
  body_lt := hbody
  tail_length := hexdigest_length _

theorem framePacket_eq {seq cmd : Nat} {body : Bytes} (hseq : seq < 2 ^ 32) (hcmd : cmd < 2 ^ 32)
    (hbody : body.length < 2 ^ 32) :
    framePacket md5 seq cmd body = .ok (lanPacket md5 seq cmd body hseq hcmd hbody).encode := by
  have hflags : Packet.word 0xFFFFFFFF = [0xff, 0xff, 0xff, 0xff] := by decide
  have hextra : Packet.word 0 = [0x00, 0x00, 0x00, 0x00] := by decide
  simp only [framePacket, Packet.packI_word hseq, Packet.packI_word hcmd, Packet.packI_word hbody,
    Packet.encode, Packet.header, lanPacket, hflags, hextra]
  rfl

private theorem recvAll_append {data rest : Bytes} {sock : Socket} (h : sock.unread = data ++ rest)
    {n : Nat} (hn : data.length = n) (closed : String) :
    ∃ sock', recvAll n closed sock = .ok (data, sock') ∧ sock'.unread = rest ∧
      sock'.ending = sock.ending := by
  obtain ⟨sock', hread, hrest, hending⟩ := readExact_append h hn
  exact ⟨sock', by rw [recvAll, hread]; rfl, hrest, hending⟩

private theorem recvAll_closed {n : Nat} {sock : Socket} (hclosed : sock.ending = none)
    (hlen : sock.unread.length < n) (message : String) :
    recvAll n message sock = .error (.connectionError message) := by
  rw [recvAll, readExact_closed hclosed hlen]
  rfl

theorem recvResponse_encode (p : Packet) {rest : Bytes} {sock : Socket}
    (h : sock.unread = p.encode ++ rest) :
    ∃ sock', recvResponse sock = .ok (p.encode, sock') ∧ sock'.unread = rest := by
  rw [Packet.encode, List.append_assoc, List.append_assoc] at h
  obtain ⟨sock₁, hheader, hunread, _⟩ :=
    recvAll_append h p.header_length "peer closed during header"
  rw [← List.append_assoc] at hunread
  have htail : (p.body ++ p.tail).length = p.body.length + trailerLen := by
    rw [List.length_append, p.tail_length]
  obtain ⟨sock₂, hbody, hrest, _⟩ := recvAll_append hunread htail "peer closed during body"
  have hlen : slice 24 28 p.header = Packet.word p.body.length := by
    have hreads := p.reads_append []
    rw [List.append_nil] at hreads
    exact hreads.bodyLen
  refine ⟨sock₂, ?_, hrest⟩
  simp only [recvResponse, hheader, hlen, Packet.unpackI_word p.body_lt, hbody, Packet.encode,
    List.append_assoc, Except.mapError, bind, Except.bind, pure, Except.pure]

private theorem recvResponse_truncated (p : Packet) {sock : Socket} (hclosed : sock.ending = none)
    (hfront : sock.unread <+: p.encode) (hlen : sock.unread.length < p.encode.length) :
    ∃ message, recvResponse sock = .error (.connectionError message) := by
  obtain ⟨missing, hmissing⟩ := hfront
  by_cases hheader : sock.unread.length < headerLen
  · refine ⟨"peer closed during header", ?_⟩
    simp only [recvResponse, recvAll_closed hclosed hheader]
    rfl
  · refine ⟨"peer closed during body", ?_⟩
    have hsplit : sock.unread = p.header ++ sock.unread.drop headerLen := by
      have htake : sock.unread.take headerLen = p.header := by
        have hfirst : (sock.unread ++ missing).take headerLen = sock.unread.take headerLen :=
          List.take_append_of_le_length (by omega)
        rw [← hfirst, hmissing, Packet.encode, List.append_assoc, List.take_left' p.header_length]
      rw [← htake, List.take_append_drop]
    obtain ⟨sock₁, hread, hunread, hending⟩ :=
      recvAll_append hsplit p.header_length "peer closed during header"
    have hbodyLen : slice 24 28 p.header = Packet.word p.body.length := by
      have hreads := p.reads_append []
      rw [List.append_nil] at hreads
      exact hreads.bodyLen
    have hshort : sock₁.unread.length < p.body.length + trailerLen := by
      rw [hunread, List.length_drop]
      rw [Packet.encode, List.length_append, List.length_append, p.header_length,
        p.tail_length] at hlen
      omega
    simp only [recvResponse, hread, hbodyLen, Packet.unpackI_word p.body_lt,
      recvAll_closed (hending.trans hclosed) hshort, Except.mapError, bind, Except.bind]

theorem slice_body (p : Packet) :
    slice headerLen (headerLen + p.body.length) p.encode = p.body := by
  rw [slice, Packet.encode, List.append_assoc, List.drop_left' p.header_length,
    Nat.add_sub_cancel_left, List.take_left]

private theorem parseResponse_encode (p : Packet) (key : Bytes) :
    parseResponse cipher p.encode key =
      (if xmlPrefix <+: p.body then .ok p.body
        else (decrypt cipher key p.body).mapError .cipherError).map
        fun plain => (⟨p.session, p.cmd, p.body.length⟩, plain) := by
  have hreads := p.reads_append (p.body ++ p.tail)
  rw [← List.append_assoc, ← Packet.encode] at hreads
  simp only [parseResponse, hreads.magic, hreads.session, hreads.cmd, hreads.bodyLen, slice_body,
    Packet.unpackI_word p.session_lt, Packet.unpackI_word p.cmd_lt,
    Packet.unpackI_word p.body_lt, ne_eq, not_true_eq_false, if_false, Except.mapError, bind,
    Except.bind, pure, Except.pure]
  split <;> rfl

/-- A packet on the wire is read off every stream that starts with it and parses to `info` and
`plain`, and every stream that is closed inside it raises `ConnectionError`. -/
structure Received (cipher : ControlCipher) (wire key : Bytes) (info : ResponseMeta)
    (plain : Bytes) : Prop where
  reads : ∀ (rest : Bytes) (sock : Socket), sock.unread = wire ++ rest →
    ∃ sock', recvResponse sock = .ok (wire, sock') ∧ sock'.unread = rest
  parses : parseResponse cipher wire key = .ok (info, plain)
  truncated : ∀ sock : Socket, sock.ending = none → sock.unread <+: wire →
    sock.unread.length < wire.length →
    ∃ message, recvResponse sock = .error (.connectionError message)

private theorem received_encode (p : Packet) {key plain : Bytes}
    (hplain : (if xmlPrefix <+: p.body then .ok p.body
      else (decrypt cipher key p.body).mapError LanError.cipherError) = .ok plain) :
    Received cipher p.encode key ⟨p.session, p.cmd, p.body.length⟩ plain where
  reads _ _ h := recvResponse_encode p h
  parses := by rw [parseResponse_encode, hplain]; rfl
  truncated _ hclosed hfront hlen := recvResponse_truncated p hclosed hfront hlen

/-- What one side builds the other reads, parses and decrypts, under any segmentation; an error
reply in plain XML comes through unchanged. -/
theorem received_buildPacket (hinverts : cipher.Inverts) {seq cmd : Nat} (hseq : seq < 2 ^ 32)
    (hcmd : cmd < 2 ^ 32) :
    (∀ key xml ciphertext : Bytes, key.length = 16 →
      encrypt cipher key xml = .ok ciphertext → ciphertext.length < 2 ^ 32 →
      ¬ xmlPrefix <+: ciphertext →
      ∃ wire, buildPacket cipher md5 seq cmd xml key = .ok wire ∧
        Received cipher wire key ⟨seq, cmd, ciphertext.length⟩ xml) ∧
    ∀ key xml : Bytes, xmlPrefix <+: xml → xml.length < 2 ^ 32 →
      ∃ wire, framePacket md5 seq cmd xml = .ok wire ∧
        Received cipher wire key ⟨seq, cmd, xml.length⟩ xml := by
  constructor
  · intro key xml ciphertext hkey hencrypt hlen hxml
    have hdecrypt := hinverts key xml ciphertext hkey hencrypt
    refine ⟨_, ?_, received_encode (lanPacket md5 seq cmd ciphertext hseq hcmd hlen) ?_⟩
    · rw [buildPacket, hencrypt]
      exact framePacket_eq hseq hcmd hlen
    · change (if xmlPrefix <+: ciphertext then _
        else (decrypt cipher key ciphertext).mapError LanError.cipherError) = _
      rw [if_neg hxml, hdecrypt]
      rfl
  · intro key xml hxml hlen
    exact ⟨_, framePacket_eq hseq hcmd hlen,
      received_encode (lanPacket md5 seq cmd xml hseq hcmd hlen) (if_pos hxml)⟩

def pkcs7Pad (data : Bytes) : Bytes :=
  data ++ List.replicate (16 - data.length % 16) (UInt8.ofNat (16 - data.length % 16))

def pkcs7Unpad (data : Bytes) : Except String Bytes :=
  match data.getLast? with
  | none => .error "Zero-length input cannot be unpadded"
  | some b =>
    let n := b.toNat
    if 1 ≤ n ∧ n ≤ 16 ∧ data.drop (data.length - n) = List.replicate n b then
      .ok (data.take (data.length - n))
    else .error "Padding is incorrect."

theorem pkcs7Pad_last (data : Bytes) :
    ∃ b, (pkcs7Pad data).getLast? = some b ∧ b.toNat = 16 - data.length % 16 := by
  refine ⟨UInt8.ofNat (16 - data.length % 16), ?_, UInt8.toNat_ofNat_of_lt (by
    change 16 - data.length % 16 < 256
    omega)⟩
  have hpos : 16 - data.length % 16 ≠ 0 := by omega
  rw [pkcs7Pad, List.getLast?_append, List.getLast?_replicate, if_neg hpos]
  rfl

theorem pkcs7Unpad_pad (data : Bytes) : pkcs7Unpad (pkcs7Pad data) = .ok data := by
  obtain ⟨b, hlast, hb⟩ := pkcs7Pad_last data
  have hbyte : b = UInt8.ofNat (16 - data.length % 16) := by rw [← hb, UInt8.ofNat_toNat]
  have hlen : (pkcs7Pad data).length - b.toNat = data.length := by
    rw [pkcs7Pad, List.length_append, List.length_replicate]
    omega
  have hpadding : (pkcs7Pad data).drop data.length = List.replicate b.toNat b := by
    rw [pkcs7Pad, List.drop_left, hb, hbyte]
  rw [pkcs7Unpad, hlast]
  dsimp only
  rw [hlen, if_pos ⟨by omega, by omega, hpadding⟩, pkcs7Pad, List.take_left]

/-- `b"0123456789abcdef"` -/
def tinyKey : Bytes :=
  [0x30, 0x31, 0x32, 0x33, 0x34, 0x35, 0x36, 0x37, 0x38, 0x39, 0x61, 0x62, 0x63, 0x64, 0x65, 0x66]

def tinyXml : Bytes := [0x3c, 0x61, 0x2f, 0x3e]

/-- Its AES-128-CBC encryption under `tinyKey`. -/
def tinyCiphertext : Bytes :=
  [0xf1, 0x99, 0xe2, 0xa5, 0xfe, 0x06, 0xfc, 0xb6, 0x24, 0xec, 0x72, 0x96, 0x65, 0x1d, 0x19, 0x65]

def tinyDigest : Digest :=
  ⟨[0x94, 0x17, 0x20, 0x91, 0x62, 0x01, 0x65, 0x40, 0x95, 0xef, 0x0e, 0x5b, 0x1f, 0x6b, 0x91, 0xe5],
    by decide⟩

/-- AES-CBC on the one block above; elsewhere only the padding. -/
def tinyCipher : ControlCipher where
  pad := pkcs7Pad
  unpad := pkcs7Unpad
  cbcEncrypt key _ data :=
    .ok (if key = tinyKey ∧ data = pkcs7Pad tinyXml then tinyCiphertext else data)
  cbcDecrypt key _ data :=
    .ok (if key = tinyKey ∧ data = tinyCiphertext then pkcs7Pad tinyXml else data)

private theorem tinyCipher_inverts : tinyCipher.Inverts := by
  intro key plaintext ciphertext _ hencrypt
  obtain rfl := Except.ok.inj hencrypt
  obtain ⟨b, hlast, hb⟩ := pkcs7Pad_last plaintext
  have hother : pkcs7Pad plaintext ≠ tinyCiphertext := by
    intro heq
    rw [heq] at hlast
    obtain rfl := Option.some.inj hlast
    change 0x65 = 16 - plaintext.length % 16 at hb
    omega
  have hdata : (if key = tinyKey ∧ (if key = tinyKey ∧ pkcs7Pad plaintext = pkcs7Pad tinyXml
      then tinyCiphertext else pkcs7Pad plaintext) = tinyCiphertext then pkcs7Pad tinyXml
      else if key = tinyKey ∧ pkcs7Pad plaintext = pkcs7Pad tinyXml then tinyCiphertext
      else pkcs7Pad plaintext) = pkcs7Pad plaintext := by
    by_cases h : key = tinyKey ∧ pkcs7Pad plaintext = pkcs7Pad tinyXml
    · rw [if_pos h, if_pos ⟨h.1, rfl⟩, h.2]
    · rw [if_neg h, if_neg fun h' => hother h'.2]
  change pkcs7Unpad _ = _
  exact (congrArg pkcs7Unpad hdata).trans (pkcs7Unpad_pad plaintext)

theorem received_buildPacket_tiny :
    ∃ wire, buildPacket tinyCipher (fun _ => tinyDigest) 1 0x2013 tinyXml tinyKey = .ok wire ∧
      Received tinyCipher wire tinyKey ⟨1, 0x2013, 16⟩ tinyXml :=
  (received_buildPacket tinyCipher_inverts (by decide) (by decide)).1 tinyKey tinyXml
    tinyCiphertext (by decide) (by decide) (by decide) (by decide)

end EzvizHp7.Control
