import EzvizHp7.Control.LanClient

/-!
# Control packets on the CAS connection

The CAS client has an encoder and a streaming reader of its own for the packet layout of the LAN
client. Both encoders write the same layout, and either reader takes the packets of both sides.
-/

namespace EzvizHp7.Control

open Cpd7 (Bytes hex)
open Segments Delivery

def casHeaderSize : Nat := 32

def casTailSize : Nat := 32

structure CasHeader where
  sessionId : Nat
  cmd : Nat
  flags : Nat
  bodyLen : Nat
  extra : Nat
  deriving DecidableEq, Repr

inductive CasError
  | structError (message : String)
  | valueError (message : String)
  | osError (message : String)
  deriving DecidableEq, Repr

/-- `random` is what `random.randint` draws where no session id is given. -/
def makeCasHeader (random cmd bodyLen : Nat) (sessionId : Option Nat) (flags extra : Nat) :
    Except CasError Bytes := do
  let sessionId ← (packI (sessionId.getD random)).mapError .structError
  let cmd ← (packI cmd).mapError .structError
  let flags ← (packI flags).mapError .structError
  let bodyLen ← (packI bodyLen).mapError .structError
  let extra ← (packI extra).mapError .structError
  return magic ++ [0x01, 0x00, 0x00, 0x00] ++ sessionId ++ [0x00, 0x00, 0x00, 0x00] ++ cmd ++
    flags ++ bodyLen ++ extra

def makeCasTail (md5 : Bytes → Digest) (body : Bytes) : Bytes := hexdigest (md5 body)

def buildCasPacket (md5 : Bytes → Digest) (random cmd : Nat) (body : Bytes)
    (sessionId : Option Nat) (extra : Nat) : Except CasError Bytes := do
  let header ← makeCasHeader random cmd body.length sessionId 0 extra
  return header ++ body ++ makeCasTail md5 body

def recvExact (n : Nat) (sock : Socket) : Except CasError (Bytes × Socket) :=
  (sock.readExact n).mapError fun
    | .closed got =>
      .osError ("connection closed after " ++ toString got.length ++ "/" ++ toString n ++ " bytes")
    | .broken e => .osError e

def parseCasHeader (data : Bytes) : Except CasError CasHeader := do
  if data.length ≠ casHeaderSize then
    throw (.valueError ("header must be 32 bytes, got " ++ toString data.length))
  if data.take 4 ≠ magic then
    throw (.valueError ("bad magic: " ++ hex (data.take 4)))
  let sessionId ← (unpackI (slice 8 12 data)).mapError .structError
  let cmd ← (unpackI (slice 16 20 data)).mapError .structError
  let flags ← (unpackI (slice 20 24 data)).mapError .structError
  let bodyLen ← (unpackI (slice 24 28 data)).mapError .structError
  let extra ← (unpackI (slice 28 32 data)).mapError .structError
  return ⟨sessionId, cmd, flags, bodyLen, extra⟩

/-- `_recv_exact(sock, n) if n > 0 else b""` -/
def recvBody (n : Nat) (sock : Socket) : Except CasError (Bytes × Socket) :=
  if 0 < n then recvExact n sock else .ok ([], sock)

/-- A tail that does not match the body is only logged. -/
def recvCasResponse (sock : Socket) : Except CasError ((CasHeader × Bytes) × Socket) := do
  let (hdrBytes, sock) ← recvExact casHeaderSize sock
  let hdr ← parseCasHeader hdrBytes
  let (body, sock) ← recvBody hdr.bodyLen sock
  let (_, sock) ← recvExact casTailSize sock
  return ((hdr, body), sock)

variable {cipher : ControlCipher} {md5 : Bytes → Digest}

private theorem makeCasTail_length (md5 : Bytes → Digest) (body : Bytes) :
    (makeCasTail md5 body).length = trailerLen := hexdigest_length _

def casPacket (md5 : Bytes → Digest) (cmd session extra : Nat) (body : Bytes)
    (hcmd : cmd < 2 ^ 32) (hsession : session < 2 ^ 32) (hextra : extra < 2 ^ 32)
    (hbody : body.length < 2 ^ 32) : Packet where
  session := session
  cmd := cmd
  flags := 0
  extra := extra
  body := body
  tail := makeCasTail md5 body
  session_lt := hsession
  cmd_lt := hcmd
  flags_lt := Packet.zero_lt_word
  extra_lt := hextra
  body_lt := hbody
  tail_length := makeCasTail_length md5 body

theorem buildCasPacket_eq (random : Nat) {cmd session extra : Nat} {body : Bytes}
    (hcmd : cmd < 2 ^ 32) (hsession : session < 2 ^ 32) (hextra : extra < 2 ^ 32)
    (hbody : body.length < 2 ^ 32) :
    buildCasPacket md5 random cmd body (some session) extra =
      .ok (casPacket md5 cmd session extra body hcmd hsession hextra hbody).encode := by
  have hflags : packI 0 = .ok (Packet.word 0) := Packet.packI_word (by decide)
  simp only [buildCasPacket, makeCasHeader, Option.getD_some, Packet.packI_word hsession,
    Packet.packI_word hcmd, hflags, Packet.packI_word hbody, Packet.packI_word hextra]
  rfl

def Packet.casHeader (p : Packet) : CasHeader :=
  ⟨p.session, p.cmd, p.flags, p.body.length, p.extra⟩

theorem parseCasHeader_header (p : Packet) : parseCasHeader p.header = .ok p.casHeader := by
  have hreads := p.reads_append []
  rw [List.append_nil] at hreads
  have hlen : p.header.length = casHeaderSize := p.header_length
  simp only [parseCasHeader, hlen, hreads.magic, hreads.session, hreads.cmd, hreads.flags,
    hreads.bodyLen, hreads.extra, Packet.unpackI_word p.session_lt, Packet.unpackI_word p.cmd_lt,
    Packet.unpackI_word p.flags_lt, Packet.unpackI_word p.body_lt,
    Packet.unpackI_word p.extra_lt, ne_eq, not_true_eq_false, if_false]
  rfl

theorem recvExact_append {data rest : Bytes} {sock : Socket}
    (h : sock.unread = data ++ rest) {n : Nat} (hn : data.length = n) :
    ∃ sock', recvExact n sock = .ok (data, sock') ∧ sock'.unread = rest := by
  obtain ⟨sock', hread, hrest, _⟩ := readExact_append h hn
  exact ⟨sock', by rw [recvExact, hread]; rfl, hrest⟩

theorem recvBody_append {body rest : Bytes} {sock : Socket}
    (h : sock.unread = body ++ rest) :
    ∃ sock', recvBody body.length sock = .ok (body, sock') ∧ sock'.unread = rest := by
  by_cases hpos : 0 < body.length
  · rw [recvBody, if_pos hpos]
    exact recvExact_append h rfl
  · have hnil : body = [] := List.eq_nil_of_length_eq_zero (by omega)
    subst hnil
    exact ⟨sock, rfl, h⟩

theorem recvCasResponse_encode (p : Packet) {rest : Bytes} {sock : Socket}
    (h : sock.unread = p.encode ++ rest) :
    ∃ sock', recvCasResponse sock = .ok ((p.casHeader, p.body), sock') ∧ sock'.unread = rest := by
  rw [Packet.encode, List.append_assoc, List.append_assoc] at h
  obtain ⟨sock₁, hheader, hunread₁⟩ := recvExact_append h p.header_length
  obtain ⟨sock₂, hbody, hunread₂⟩ := recvBody_append hunread₁
  obtain ⟨sock₃, htail, hunread₃⟩ := recvExact_append hunread₂ p.tail_length
  have hheader' : recvExact casHeaderSize sock = .ok (p.header, sock₁) := hheader
  have hbody' : recvBody p.casHeader.bodyLen sock₁ = .ok (p.body, sock₂) := hbody
  have htail' : recvExact casTailSize sock₂ = .ok (p.tail, sock₃) := htail
  refine ⟨sock₃, ?_, hunread₃⟩
  simp only [recvCasResponse, hheader', parseCasHeader_header, hbody', htail', bind, Except.bind,
    pure, Except.pure]

/-- Both readers take the same packet off a stream and leave the same rest. -/
structure ReadAlike (wire : Bytes) (hdr : CasHeader) (body rest : Bytes) (sock : Socket) :
    Prop where
  cas : ∃ sock', recvCasResponse sock = .ok ((hdr, body), sock') ∧ sock'.unread = rest
  lan : ∃ sock', recvResponse sock = .ok (wire, sock') ∧ sock'.unread = rest

private theorem readAlike_encode (p : Packet) {rest : Bytes} {sock : Socket}
    (h : sock.unread = p.encode ++ rest) :
    ReadAlike p.encode p.casHeader p.body rest sock :=
  ⟨recvCasResponse_encode p h, recvResponse_encode p h⟩

/-- A packet of the CAS client is read back with its fields and flags 0, one of the LAN client
with its sequence number as session, all flags set and as body the ciphertext that
`_parse_response` takes; and the LAN reader consumes exactly what the CAS reader does. -/
theorem readers_agree (random : Nat) {cmd session extra : Nat} (hcmd : cmd < 2 ^ 32)
    (hsession : session < 2 ^ 32) (hextra : extra < 2 ^ 32) :
    (∀ body : Bytes, body.length < 2 ^ 32 →
      ∃ wire, buildCasPacket md5 random cmd body (some session) extra = .ok wire ∧
        ∀ (rest : Bytes) (sock : Socket), sock.unread = wire ++ rest →
          ReadAlike wire ⟨session, cmd, 0, body.length, extra⟩ body rest sock) ∧
    ∀ xml key ciphertext : Bytes, encrypt cipher key xml = .ok ciphertext →
      ciphertext.length < 2 ^ 32 →
      ∃ wire, buildPacket cipher md5 session cmd xml key = .ok wire ∧
        slice headerLen (headerLen + ciphertext.length) wire = ciphertext ∧
        ∀ (rest : Bytes) (sock : Socket), sock.unread = wire ++ rest →
          ReadAlike wire ⟨session, cmd, 0xFFFFFFFF, ciphertext.length, 0⟩ ciphertext rest sock := by
  constructor
  · intro body hbody
    exact ⟨_, buildCasPacket_eq random hcmd hsession hextra hbody,
      fun rest sock h => readAlike_encode _ h⟩
  · intro xml key ciphertext hencrypt hlen
    refine ⟨_, ?_, ?_, fun rest sock h =>
      readAlike_encode (lanPacket md5 session cmd ciphertext hsession hcmd hlen) h⟩
    · rw [buildPacket, hencrypt]
      exact framePacket_eq hsession hcmd hlen
    · exact slice_body (lanPacket md5 session cmd ciphertext hsession hcmd hlen)

theorem readers_agree_tiny :
    ∃ wire, buildPacket tinyCipher (fun _ => tinyDigest) 1 0x2013 tinyXml tinyKey = .ok wire ∧
      slice headerLen (headerLen + 16) wire = tinyCiphertext ∧
      ∀ (rest : Bytes) (sock : Socket), sock.unread = wire ++ rest →
        ReadAlike wire ⟨1, 0x2013, 0xFFFFFFFF, 16, 0⟩ tinyCiphertext rest sock :=
  (readers_agree 7 (by decide) (by decide) Packet.zero_lt_word).2 tinyXml tinyKey
    tinyCiphertext (by decide) (by decide)

end EzvizHp7.Control
