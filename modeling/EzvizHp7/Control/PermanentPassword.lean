import EzvizHp7.Control.CasLayout
import EzvizHp7.Control.LanStart
import EzvizHp7.Library.TagSearch
import EzvizHp7.Library.Utf8

/-!
# The permanent password

`query_permanent_password` of the CAS client. The request for the device travels encrypted inside
the request for the server, a packet behind an XML text in the body of another packet, and so does
the answer. The TLS connection is one that may fail at every call.
-/

namespace EzvizHp7.Control

open Cpd7 (Bytes)
open TagSearch (Pattern)

inductive CasCallError
  | pyEzvizError (message : String)
  | packet (e : CasError)
  | keyError (message : String)
  | indexError (message : String)
  | unicodeEncodeError (message : String)
  | cipherError (message : String)
  deriving DecidableEq, Repr

/-- With `service_urls["sysConf"]`, where the token has it. -/
structure EzvizCAS where
  token : Cloud.Token
  sysConf : Option (List String)

def sysconfCasHostIdx : Nat := 15

def sysconfCasPortIdx : Nat := 16

def getCasHostPort (cas : EzvizCAS) : Except CasCallError (String × String) :=
  match cas.sysConf with
  | none => .error (.keyError "'sysConf'")
  | some sysConf =>
    match sysConf[sysconfCasHostIdx]?, sysConf[sysconfCasPortIdx]? with
    | some host, some port => .ok (host, port)
    | _, _ => .error (.indexError "list index out of range")

/-- A connection or a TLS handshake that fails leaves no socket. -/
structure CasConnection where
  connected : Except String Unit
  sent : Except String Unit
  received : Socket
  closed : Except String Unit

/-- The sockets of the process, and what has been sent to the server. -/
structure CasWorld where
  sockets : Sockets
  sent : List Bytes

abbrev CasMethod := EStateM CasCallError CasWorld

section

variable (cipher : ControlCipher) (md5 : Bytes → Digest)

def aesIvInner : Bytes :=
  [0x30, 0x31, 0x32, 0x33, 0x34, 0x35, 0x36, 0x37, 0, 0, 0, 0, 0, 0, 0, 0]

def aes128CbcEncrypt (key plaintext : Bytes) : Except String Bytes :=
  cipher.cbcEncrypt key aesIvInner (cipher.pad plaintext)

def aes128CbcDecrypt (key ciphertext : Bytes) : Except String Bytes := do
  let data ← cipher.cbcDecrypt key aesIvInner ciphertext
  cipher.unpad data

def performCas {α : Type} : Except CasCallError α → CasMethod α
  | .ok a => pure a
  | .error e => throw e

def casOs {α : Type} (outcome : Except String α) : Except CasCallError α :=
  outcome.mapError fun message => .packet (.osError message)

def casTlsConnect (c : CasConnection) : CasMethod Nat := do
  performCas (casOs c.connected)
  let w ← get
  set { w with sockets := w.sockets.make }
  return w.sockets.next

def closeCas (s : Nat) (c : CasConnection) : CasMethod Unit := do
  modify fun w => { w with sockets := w.sockets.close s }
  performCas (casOs c.closed)

/-- `sock.sendall` -/
def sendAll (c : CasConnection) (wire : Bytes) : CasMethod Unit := do
  performCas (casOs c.sent)
  modify fun w => { w with sent := w.sent ++ [wire] }

def sendAndRecv (cas : EzvizCAS) (c : CasConnection) (random cmd : Nat) (body : Bytes)
    (extra : Nat) : CasMethod (CasHeader × Bytes) := do
  let _ ← performCas (getCasHostPort cas)
  let sock ← casTlsConnect c
  tryFinally
    (do
      let pkt ← performCas ((buildCasPacket md5 random cmd body none extra).mapError .packet)
      sendAll c pkt
      let (response, _) ← performCas ((recvCasResponse c.received).mapError .packet)
      return response)
    (closeCas sock c)

def innerXml (operationCode : String) : Bytes :=
  utf8 ("<?xml version=\"1.0\" encoding=\"utf-8\"?>" ++
    "<Request>" ++
    "<OperationCode>" ++ operationCode ++ "</OperationCode>" ++
    "</Request>")

def outerXml (sessionId serial : String) (messageLength : Nat) : Bytes :=
  utf8 ("<?xml version=\"1.0\" encoding=\"utf-8\"?>" ++
    "<Request>" ++
    "<Verify ClientSession=\"" ++ sessionId ++ "\" ToDevice=\"" ++ serial ++
      "\" ClientType=\"3\"/>" ++
    "<Message Length=\"" ++ toString messageLength ++ "\"/>" ++
    "</Request>")

/-- The zeros of the decimal digits of Unicode 15.0; nine digits follow each of them. -/
def decimalZeros : List Nat :=
  [0x30, 0x660, 0x6f0, 0x7c0, 0x966, 0x9e6, 0xa66, 0xae6, 0xb66, 0xbe6, 0xc66, 0xce6, 0xd66,
    0xde6, 0xe50, 0xed0, 0xf20, 0x1040, 0x1090, 0x17e0, 0x1810, 0x1946, 0x19d0, 0x1a80, 0x1a90,
    0x1b50, 0x1bb0, 0x1c40, 0x1c50, 0xa620, 0xa8d0, 0xa900, 0xa9d0, 0xa9f0, 0xaa50, 0xabf0,
    0xff10, 0x104a0, 0x10d30, 0x11066, 0x110f0, 0x11136, 0x111d0, 0x112f0, 0x11450, 0x114d0,
    0x11650, 0x116c0, 0x11730, 0x118e0, 0x11950, 0x11c50, 0x11d50, 0x11da0, 0x11f50, 0x16a60,
    0x16ac0, 0x16b50, 0x1d7ce, 0x1d7d8, 0x1d7e2, 0x1d7ec, 0x1d7f6, 0x1e140, 0x1e2f0, 0x1e4f0,
    0x1e950, 0x1fbf0]

/-- `\d` -/
def isDecimal (c : Char) : Bool :=
  decimalZeros.any fun first => first ≤ c.toNat && c.toNat < first + 10

/-- `<Result>(\d+)</Result>` -/
def resultPattern : Pattern Char where
  opening := "<Result>".toList
  inRun := isDecimal
  stop := '<'
  closing := "/Result>".toList
  stop_ends := by decide

/-- `Key="([^"]+)"` -/
def keyPattern : Pattern Char where
  opening := "Key=\"".toList
  inRun := (· ≠ '"')
  stop := '"'
  closing := []
  stop_ends := by decide

def permanentCode (innerText : List Char) : Except CasCallError String :=
  if resultPattern.search innerText ≠ some ['0'] then
    .error (.pyEzvizError ("QueryPermanentPassword failed: " ++ String.ofList innerText))
  else
    match keyPattern.search innerText with
    | none =>
      .error (.pyEzvizError ("No Key in PermanentCode response: " ++ String.ofList innerText))
    | some permanentPwd => .ok (String.ofList permanentPwd)

/-- A tail of the inner packet that does not match is only logged. -/
def readAnswer (aesKey : Bytes) (hdr : CasHeader) (rspBody : Bytes) :
    Except CasCallError String := do
  let innerRsp := rspBody.drop hdr.extra
  if innerRsp.length < casHeaderSize + casTailSize then
    throw (.pyEzvizError ("inner response too short: " ++ toString innerRsp.length ++ "B"))
  let innerRspHdr ← (parseCasHeader (innerRsp.take casHeaderSize)).mapError .packet
  let innerCt := slice casHeaderSize (casHeaderSize + innerRspHdr.bodyLen) innerRsp
  let innerPlaintext ←
    if innerRspHdr.flags = 0xFFFFFFFF then
      (aes128CbcDecrypt cipher aesKey innerCt).mapError .cipherError
    else .ok innerCt
  permanentCode (Utf8.decodeReplacing innerPlaintext)

def aesKeyOf (keyHex : String) : Except CasCallError Bytes := do
  let aesKey ← (Cloud.Hp7Api.encodeAscii keyHex).mapError fun e => .unicodeEncodeError e.text
  if aesKey.length ≠ 16 then
    throw (.pyEzvizError ("AES key must be 16 bytes, got " ++ toString aesKey.length ++
      " (key_hex=" ++ Cloud.reprStr keyHex ++ ")"))
  return aesKey

def innerPacket (random : Nat) (aesKey : Bytes) (operationCode : String) :
    Except CasCallError Bytes := do
  let innerCiphertext ←
    (aes128CbcEncrypt cipher aesKey (innerXml operationCode)).mapError .cipherError
  let innerHdr ←
    (makeCasHeader random 0x2845 innerCiphertext.length none 0 0).mapError .packet
  return innerHdr ++ innerCiphertext ++ makeCasTail md5 innerCiphertext

/-- What `random.randint` draws for the inner and for the outer packet. -/
structure Randoms where
  inner : Nat
  outer : Nat
  inner_lt : inner < 2 ^ 32
  outer_lt : outer < 2 ^ 32

def queryPermanentPassword (cas : EzvizCAS) (c : CasConnection) (random : Randoms)
    (serial operationCode keyHex : String) : CasMethod String := do
  let aesKey ← performCas (aesKeyOf keyHex)
  let inner ← performCas (innerPacket cipher md5 random.inner aesKey operationCode)
  let outer := outerXml ((cas.token.lookup "session_id").getD "") serial inner.length
  let (hdr, rspBody) ←
    sendAndRecv md5 cas c random.outer 0x2005 (outer ++ inner) outer.length
  performCas (readAnswer cipher aesKey hdr rspBody)

end

private theorem permanentCode_eq_ok {text : List Char} {password : String} :
    permanentCode text = .ok password ↔
      resultPattern.First ['0'] text ∧ keyPattern.First password.toList text := by
  rw [← Pattern.search_eq_some, ← Pattern.search_eq_some]
  unfold permanentCode
  split
  · rename_i hresult
    simp [hresult]
  · rename_i hresult
    cases hkey : keyPattern.search text with
    | none => simp
    | some run =>
      simp only [not_not.1 hresult, Except.ok.injEq, Option.some.injEq, true_and]
      rw [← String.toList_inj, String.toList_ofList]

private theorem permanentCode_error {text : List Char} {e : CasCallError}
    (h : permanentCode text = .error e) : ∃ message, e = .pyEzvizError message := by
  unfold permanentCode at h
  split at h
  · cases h
    exact ⟨_, rfl⟩
  · split at h
    · cases h
      exact ⟨_, rfl⟩
    · cases h

variable {cipher : ControlCipher} {md5 : Bytes → Digest}

/-- A packet that carries another one behind an XML text. -/
structure Packet.Carries (outer : Packet) (xml : Bytes) (inner : Packet) (more : Bytes) : Prop where
  extra : outer.extra = xml.length
  body : outer.body = xml ++ (inner.encode ++ more)

private theorem makeCasHeader_eq {random cmd extra : Nat} {body : Bytes} (hcmd : cmd < 2 ^ 32)
    (hrandom : random < 2 ^ 32) (hextra : extra < 2 ^ 32) (hbody : body.length < 2 ^ 32) :
    makeCasHeader random cmd body.length none 0 extra =
      .ok (casPacket md5 cmd random extra body hcmd hrandom hextra hbody).header := by
  have hflags : packI 0 = .ok (Packet.word 0) := Packet.packI_word (by decide)
  simp only [makeCasHeader, Option.getD_none, Packet.packI_word hrandom,
    Packet.packI_word hcmd, hflags, Packet.packI_word hbody, Packet.packI_word hextra]
  rfl

/-- What has to go well for a request to be sent. -/
structure Asking (cipher : ControlCipher) (cas : EzvizCAS) (c : CasConnection)
    (serial operationCode keyHex : String) where
  aesKey : Bytes
  ciphertext : Bytes
  address : String × String
  key : aesKeyOf keyHex = .ok aesKey
  encrypted : aes128CbcEncrypt cipher aesKey (innerXml operationCode) = .ok ciphertext
  ciphertext_lt : ciphertext.length + 64 < 2 ^ 32
  outer_lt : (outerXml ((cas.token.lookup "session_id").getD "") serial
    (ciphertext.length + 64)).length + (ciphertext.length + 64) < 2 ^ 32
  resolved : getCasHostPort cas = .ok address
  connected : c.connected = .ok ()
  sent : c.sent = .ok ()

namespace Asking

variable {cas : EzvizCAS} {c : CasConnection} {serial operationCode keyHex : String}
  (h : Asking cipher cas c serial operationCode keyHex)

variable (md5)

def inner (random : Randoms) : Packet :=
  casPacket md5 0x2845 random.inner 0 h.ciphertext (by decide) random.inner_lt
    Packet.zero_lt_word (Nat.lt_of_le_of_lt (Nat.le_add_right _ 64) h.ciphertext_lt)

private theorem inner_length (random : Randoms) :
    (h.inner md5 random).encode.length = h.ciphertext.length + 64 := by
  have htail : (h.inner md5 random).tail.length = 32 := (h.inner md5 random).tail_length
  have hheader : (h.inner md5 random).header.length = 32 := (h.inner md5 random).header_length
  have hbody : (h.inner md5 random).body = h.ciphertext := rfl
  simp only [Packet.encode, List.length_append, htail, hheader, hbody]
  omega

def xml : Bytes :=
  outerXml ((cas.token.lookup "session_id").getD "") serial (h.ciphertext.length + 64)

private theorem outer_length (random : Randoms) :
    (h.xml ++ (h.inner md5 random).encode).length < 2 ^ 32 := by
  rw [List.length_append, h.inner_length md5]
  exact h.outer_lt

def outer (random : Randoms) : Packet :=
  casPacket md5 0x2005 random.outer h.xml.length (h.xml ++ (h.inner md5 random).encode)
    (by decide) random.outer_lt
    (Nat.lt_of_le_of_lt (Nat.le_add_right _ _) h.outer_lt) (h.outer_length md5 random)

private theorem carries (random : Randoms) :
    (h.outer md5 random).Carries h.xml (h.inner md5 random) [] where
  extra := rfl
  body := by
    rw [List.append_nil]
    rfl

private theorem innerPacket_eq (random : Randoms) :
    innerPacket cipher md5 random.inner h.aesKey operationCode =
      .ok (h.inner md5 random).encode := by
  have hbody : h.ciphertext.length < 2 ^ 32 :=
    Nat.lt_of_le_of_lt (Nat.le_add_right _ 64) h.ciphertext_lt
  have hheader : makeCasHeader random.inner 0x2845 h.ciphertext.length none 0 0 =
      .ok (h.inner md5 random).header :=
    makeCasHeader_eq (by decide) random.inner_lt Packet.zero_lt_word hbody
  simp only [innerPacket, h.encrypted, hheader, Except.mapError, bind, Except.bind]
  rfl

private theorem buildCasPacket_eq (random : Randoms) :
    buildCasPacket md5 random.outer 0x2005 (h.xml ++ (h.inner md5 random).encode) none
      h.xml.length = .ok (h.outer md5 random).encode :=
  Control.buildCasPacket_eq random.outer (by decide) random.outer_lt
    (Nat.lt_of_le_of_lt (Nat.le_add_right _ _) h.outer_lt) (h.outer_length md5 random)

end Asking

@[simp] theorem performCas_run {α : Type} (outcome : Except CasCallError α) (w : CasWorld) :
    (performCas outcome).run w = match outcome with
      | .ok a => .ok a w
      | .error e => .error e w := by
  cases outcome <;> rfl

@[simp] theorem performCas_left {α : Type} (outcome : Except CasCallError α) (w : CasWorld) :
    (performCas outcome).left w = w := by
  cases outcome <;> rfl

@[simp] theorem closeCas_left (s : Nat) (c : CasConnection) (w : CasWorld) :
    (closeCas s c).left w = { w with sockets := w.sockets.close s } := by
  simp [closeCas, EStateM.left_bind]

/-- A socket was made, used to send a packet, and closed. -/
def CasWorld.exchanged (wire : Bytes) (w : CasWorld) : CasWorld where
  sockets := w.sockets.make.close w.sockets.next
  sent := w.sent ++ [wire]

private theorem casTlsConnect_run (c : CasConnection) (w : CasWorld) :
    (casTlsConnect c).run w = match c.connected with
      | .ok _ => .ok w.sockets.next { w with sockets := w.sockets.make }
      | .error message => .error (.packet (.osError message)) w := by
  cases hconnected : c.connected <;> simp [casTlsConnect, hconnected, casOs, Except.mapError]

private theorem sendAll_recv_left (c : CasConnection) (wire : Bytes)
    (response : Except CasCallError ((CasHeader × Bytes) × Socket)) (w : CasWorld) :
    (do sendAll c wire
        let (response, _) ← performCas response
        return response : CasMethod (CasHeader × Bytes)).left w =
      match c.sent with
      | .ok _ => { w with sent := w.sent ++ [wire] }
      | .error _ => w := by
  cases hsent : c.sent <;> cases response <;>
    simp [sendAll, EStateM.left, hsent, casOs, Except.mapError]

theorem sendAndRecv_run {cas : EzvizCAS} {c : CasConnection} {address : String × String}
    (hresolved : getCasHostPort cas = .ok address) (hconnected : c.connected = .ok ())
    (hsent : c.sent = .ok ()) {random cmd extra : Nat} {body wire : Bytes}
    (hbuild : buildCasPacket md5 random cmd body none extra = .ok wire) (w : CasWorld) :
    (sendAndRecv md5 cas c random cmd body extra).run w =
      match recvCasResponse c.received, c.closed with
      | .ok (response, _), .ok _ => .ok response (w.exchanged wire)
      | .error e, .ok _ => .error (.packet e) (w.exchanged wire)
      | _, .error message => .error (.packet (.osError message)) (w.exchanged wire) := by
  cases hreceived : recvCasResponse c.received <;> cases hclosed : c.closed <;>
    simp [sendAndRecv, hresolved, hconnected, hsent, hbuild, casTlsConnect_run, sendAll, casOs,
      closeCas, hreceived, hclosed, Except.mapError, CasWorld.exchanged]

/-- What a call may leave: a packet more that was sent, or none, and no socket. -/
inductive CasWorld.Spared (w : CasWorld) : CasWorld → Prop
  | untouched : Spared w w
  | unsent : Spared w { w with sockets := w.sockets.make.close w.sockets.next }
  | exchanged (wire : Bytes) : Spared w (w.exchanged wire)

theorem sendAndRecv_spares (cas : EzvizCAS) (c : CasConnection) (random cmd : Nat) (body : Bytes)
    (extra : Nat) (w : CasWorld) :
    w.Spared ((sendAndRecv md5 cas c random cmd body extra).left w) := by
  rw [sendAndRecv, EStateM.left_bind, performCas_run]
  cases getCasHostPort cas with
  | error e => exact .untouched
  | ok address =>
    dsimp only
    rw [EStateM.left_bind, casTlsConnect_run]
    cases c.connected with
    | error message => exact .untouched
    | ok =>
      dsimp only
      rw [EStateM.left_tryFinally, closeCas_left, EStateM.left_bind, performCas_run]
      cases (buildCasPacket md5 random cmd body none extra).mapError CasCallError.packet with
      | error e => exact .unsent
      | ok wire =>
        dsimp only
        rw [sendAll_recv_left]
        cases c.sent with
        | ok => exact .exchanged wire
        | error message => exact .unsent

theorem CasWorld.Spared.live {w w' : CasWorld} (h : w.Spared w') :
    w'.sockets.live = w.sockets.live := by
  cases h with
  | untouched => rfl
  | unsent => exact Sockets.close_make_live w.sockets
  | exchanged wire => exact Sockets.close_make_live w.sockets

/-- Whatever fails, no socket stays open, and at most one packet is sent. -/
theorem queryPermanentPassword_spares (cas : EzvizCAS) (c : CasConnection) (random : Randoms)
    (serial operationCode keyHex : String) (w : CasWorld) :
    w.Spared
      ((queryPermanentPassword cipher md5 cas c random serial operationCode keyHex).left w) := by
  rw [queryPermanentPassword, EStateM.left_bind, performCas_run]
  cases aesKeyOf keyHex with
  | error e => exact .untouched
  | ok aesKey =>
    dsimp only
    rw [EStateM.left_bind, performCas_run]
    cases innerPacket cipher md5 random.inner aesKey operationCode with
    | error e => exact .untouched
    | ok inner =>
      dsimp only
      generalize outerXml _ _ _ = outer
      apply EStateM.left_bind_of
      · exact sendAndRecv_spares ..
      · intro response w' hw'
        rw [performCas_left]
        exact hw'

namespace Asking

variable {cas : EzvizCAS} {c : CasConnection} {serial operationCode keyHex : String}
  (h : Asking cipher cas c serial operationCode keyHex) (random : Randoms) (w : CasWorld)

variable (md5)

private theorem sendAndRecv_run :
    (sendAndRecv md5 cas c random.outer 0x2005 (h.xml ++ (h.inner md5 random).encode)
        h.xml.length).run w =
      match recvCasResponse c.received, c.closed with
      | .ok (response, _), .ok _ => .ok response (w.exchanged (h.outer md5 random).encode)
      | .error e, .ok _ => .error (.packet e) (w.exchanged (h.outer md5 random).encode)
      | _, .error message =>
        .error (.packet (.osError message)) (w.exchanged (h.outer md5 random).encode) :=
  Control.sendAndRecv_run h.resolved h.connected h.sent (h.buildCasPacket_eq md5 random) w

private theorem query_run :
    (queryPermanentPassword cipher md5 cas c random serial operationCode keyHex).run w =
      match recvCasResponse c.received, c.closed with
      | .ok ((hdr, rspBody), _), .ok _ =>
        (performCas (readAnswer cipher h.aesKey hdr rspBody)).run
          (w.exchanged (h.outer md5 random).encode)
      | .error e, .ok _ => .error (.packet e) (w.exchanged (h.outer md5 random).encode)
      | _, .error message =>
        .error (.packet (.osError message)) (w.exchanged (h.outer md5 random).encode) := by
  have hlen : (h.inner md5 random).encode.length = h.ciphertext.length + 64 :=
    h.inner_length md5 random
  have hsend := h.sendAndRecv_run md5 random w
  simp only [queryPermanentPassword, EStateM.run_bind, performCas_run, h.key, h.innerPacket_eq md5,
    hlen]
  have hxml : outerXml ((cas.token.lookup "session_id").getD "") serial
      (h.ciphertext.length + 64) = h.xml := rfl
  rw [hxml, hsend]
  cases recvCasResponse c.received <;> cases c.closed <;> rfl

private theorem query_left :
    (queryPermanentPassword cipher md5 cas c random serial operationCode keyHex).left w =
      w.exchanged (h.outer md5 random).encode := by
  rw [EStateM.left, h.query_run md5]
  cases recvCasResponse c.received with
  | error e => cases c.closed <;> rfl
  | ok response =>
    cases c.closed with
    | error message => rfl
    | ok =>
      dsimp only
      rw [performCas_run]
      cases readAnswer cipher h.aesKey response.1.1 response.1.2 <;> rfl

end Asking

private theorem aesKeyOf_length {keyHex : String} {aesKey : Bytes}
    (h : aesKeyOf keyHex = .ok aesKey) : aesKey.length = 16 := by
  unfold aesKeyOf at h
  cases hascii : Cloud.Hp7Api.encodeAscii keyHex with
  | error e =>
    rw [hascii] at h
    cases h
  | ok key =>
    by_cases hlen : key.length = 16
    · simp [hascii, hlen, Except.mapError, bind, Except.bind, pure, Except.pure] at h
      rw [← h, hlen]
    · simp [hascii, hlen, Except.mapError, bind, Except.bind, throw, throwThe,
        MonadExceptOf.throw] at h

/-- A packet is read off every stream that starts with it, with these fields and this body. -/
def Packet.ReadFrom (wire : Bytes) (p : Packet) : Prop :=
  ∀ (rest : Bytes) (sock : Socket), sock.unread = wire ++ rest →
    ∃ sock', recvCasResponse sock = .ok ((p.casHeader, p.body), sock') ∧ sock'.unread = rest

variable (md5) in
/-- However a call ends, no socket stays open, and at most one packet is sent. Where it is sent, the
reader takes it off any stream; its `extra` is where the text ends and the packet for the device
begins, and that one is the operation code, encrypted with the key. -/
theorem queryPermanentPassword_asks (hinverts : cipher.Inverts) (cas : EzvizCAS)
    (c : CasConnection) (serial operationCode keyHex : String) (random : Randoms) (w : CasWorld) :
    w.Spared
      ((queryPermanentPassword cipher md5 cas c random serial operationCode keyHex).left w) ∧
    ((queryPermanentPassword cipher md5 cas c random serial operationCode keyHex).left
      w).sockets.live = w.sockets.live ∧
    ∀ h : Asking cipher cas c serial operationCode keyHex,
      ∃ w' wire, ∃ outer inner : Packet,
        (queryPermanentPassword cipher md5 cas c random serial operationCode keyHex).left w = w' ∧
        w'.sent = w.sent ++ [wire] ∧ outer.ReadFrom wire ∧ outer.cmd = 0x2005 ∧
        outer.session = random.outer ∧
        outer.body.take outer.extra =
          outerXml ((cas.token.lookup "session_id").getD "") serial
            (outer.body.drop outer.extra).length ∧
        inner.ReadFrom (outer.body.drop outer.extra) ∧ inner.cmd = 0x2845 ∧
        inner.session = random.inner ∧
        aes128CbcDecrypt cipher h.aesKey inner.body = .ok (innerXml operationCode) := by
  have hspares : w.Spared
      ((queryPermanentPassword cipher md5 cas c random serial operationCode keyHex).left w) :=
    queryPermanentPassword_spares cas c random serial operationCode keyHex w
  refine ⟨hspares, hspares.live, fun h => ?_⟩
  have hcarries := h.carries md5 random
  have hdrop : (h.outer md5 random).body.drop (h.outer md5 random).extra =
      (h.inner md5 random).encode := by
    rw [hcarries.extra, hcarries.body, List.drop_left, List.append_nil]
  have hkey := aesKeyOf_length h.key
  refine ⟨_, _, h.outer md5 random, h.inner md5 random, h.query_left md5 random w, rfl, ?_, rfl,
    rfl, ?_, ?_, rfl, rfl, ?_⟩
  · exact fun rest sock hunread => recvCasResponse_encode _ hunread
  · rw [hdrop, h.inner_length md5, hcarries.extra, hcarries.body, List.take_left]
    rfl
  · rw [hdrop]
    exact fun rest sock hunread => recvCasResponse_encode _ hunread
  · exact hinverts h.aesKey (innerXml operationCode) h.ciphertext hkey h.encrypted

/-- The server sends a whole packet with these bytes behind the text. -/
def Answers (unread inner : Bytes) : Prop :=
  ∃ hdr body rest, Framed unread hdr body rest ∧ inner = body.drop hdr.extra

/-- A packet for the client, with as much of its body as is there. -/
structure InnerPacket (inner : Bytes) (hdr : CasHeader) (innerCt : Bytes) : Prop where
  long : casHeaderSize + casTailSize ≤ inner.length
  header : ∃ more, StartsWith inner hdr more ∧ innerCt = more.take hdr.bodyLen

/-- All flags are set where the body is encrypted. -/
def CasHeader.plaintext (cipher : ControlCipher) (aesKey : Bytes) (hdr : CasHeader)
    (body : Bytes) : Except String Bytes :=
  if hdr.flags = 0xFFFFFFFF then aes128CbcDecrypt cipher aesKey body else .ok body

/-- The text of the packet for the client. -/
def Tells (cipher : ControlCipher) (aesKey inner : Bytes) (text : List Char) : Prop :=
  ∃ hdr innerCt plaintext, InnerPacket inner hdr innerCt ∧
    hdr.plaintext cipher aesKey innerCt = .ok plaintext ∧ Utf8.decodeReplacing plaintext = text

/-- The first result is 0, and the first key is the password. -/
def Grants (text : List Char) (password : String) : Prop :=
  resultPattern.First ['0'] text ∧ keyPattern.First password.toList text

theorem Packet.innerPacket (p : Packet) : InnerPacket p.encode p.casHeader p.body := by
  have hheader : p.header.length = casHeaderSize := p.header_length
  have htail : p.tail.length = casTailSize := p.tail_length
  obtain ⟨hfits, version, gap, hversion, hgap, hbytes⟩ :=
    parseCasHeader_eq_ok.1 (parseCasHeader_header p)
  constructor
  · simp only [Packet.encode, List.length_append, hheader, htail]
    omega
  · refine ⟨p.body ++ p.tail, ⟨hfits, version, gap, hversion, hgap, ?_⟩, ?_⟩
    · rw [← hbytes, Packet.encode, List.append_assoc]
    · exact List.take_left.symm

private theorem inner_kinds (inner : Bytes) : inner.length < casHeaderSize + casTailSize ∨
    casHeaderSize + casTailSize ≤ inner.length ∧ Foreign inner ∨
      ∃ hdr innerCt, InnerPacket inner hdr innerCt := by
  by_cases hlen : casHeaderSize + casTailSize ≤ inner.length
  · have hheader : casHeaderSize ≤ inner.length := Nat.le_of_add_right_le hlen
    by_cases hmagic : inner.take 4 = magic
    · obtain ⟨hdr, hstarts⟩ := startsWith_of_magic hheader hmagic
      exact .inr (.inr ⟨hdr, _, hlen, _, hstarts, rfl⟩)
    · exact .inr (.inl ⟨hlen, hheader, hmagic⟩)
  · exact .inl (Nat.not_le.1 hlen)

section

variable {aesKey rspBody inner : Bytes} {hdr : CasHeader}

variable (cipher aesKey) in
private theorem readAnswer_short
    (h : (rspBody.drop hdr.extra).length < casHeaderSize + casTailSize) :
    ∃ message, readAnswer cipher aesKey hdr rspBody = .error (.pyEzvizError message) := by
  simp only [readAnswer, if_pos h, bind, Except.bind, throw, throwThe, MonadExceptOf.throw]
  exact ⟨_, rfl⟩

variable (cipher aesKey) in
private theorem readAnswer_foreign
    (hlen : casHeaderSize + casTailSize ≤ (rspBody.drop hdr.extra).length)
    (h : Foreign (rspBody.drop hdr.extra)) :
    ∃ message, readAnswer cipher aesKey hdr rspBody = .error (.packet (.valueError message)) := by
  have htake : ((rspBody.drop hdr.extra).take casHeaderSize).length = casHeaderSize :=
    List.length_take_of_le h.1
  have hmagic : ((rspBody.drop hdr.extra).take casHeaderSize).take 4 ≠ magic := by
    rw [List.take_take]
    exact h.2
  obtain ⟨message, hparse⟩ := parseCasHeader_foreign htake hmagic
  refine ⟨message, ?_⟩
  simp only [readAnswer, if_neg (Nat.not_lt.2 hlen), hparse, Except.mapError, bind, Except.bind]

private theorem readAnswer_inner {innerHdr : CasHeader} {innerCt : Bytes}
    (h : InnerPacket (rspBody.drop hdr.extra) innerHdr innerCt) :
    readAnswer cipher aesKey hdr rspBody =
      match innerHdr.plaintext cipher aesKey innerCt with
      | .ok plaintext => permanentCode (Utf8.decodeReplacing plaintext)
      | .error message => .error (.cipherError message) := by
  obtain ⟨hlen, more, ⟨hfits, version, gap, hversion, hgap, hinner⟩, rfl⟩ := h
  have hheader := hfits.bytes_length hversion hgap
  have htake : (rspBody.drop hdr.extra).take casHeaderSize = innerHdr.bytes version gap := by
    rw [hinner]
    exact List.take_left' hheader
  have hslice : slice casHeaderSize (casHeaderSize + innerHdr.bodyLen) (rspBody.drop hdr.extra) =
      more.take innerHdr.bodyLen := by
    rw [hinner, slice, List.drop_left' hheader, Nat.add_sub_cancel_left]
  unfold readAnswer CasHeader.plaintext
  dsimp only
  generalize rspBody.drop hdr.extra = innerRsp at *
  by_cases hall : innerHdr.flags = 0xFFFFFFFF
  · cases hdecrypt : aes128CbcDecrypt cipher aesKey (more.take innerHdr.bodyLen) <;>
      simp [Nat.not_lt.2 hlen, htake, parseCasHeader_bytes hfits hversion hgap, hslice, hall,
        hdecrypt, Except.mapError, bind, Except.bind]
  · simp [Nat.not_lt.2 hlen, htake, parseCasHeader_bytes hfits hversion hgap, hslice, hall,
      Except.mapError, bind, Except.bind]

end

/-- How a call ends: with a password, or with an error of a class. -/
inductive QueryEnd
  | returns (password : String)
  | pyEzvizError
  | valueError
  | osError
  | cipherError (message : String)

def queryEnd : EStateM.Result CasCallError CasWorld String → Option QueryEnd
  | .ok password _ => some (.returns password)
  | .error (.pyEzvizError _) _ => some .pyEzvizError
  | .error (.packet (.valueError _)) _ => some .valueError
  | .error (.packet (.osError _)) _ => some .osError
  | .error (.cipherError message) _ => some (.cipherError message)
  | .error _ _ => none

/-- What the server sends, and the end of the connection, call for this end. -/
def QueryEnd.Due (cipher : ControlCipher) (aesKey unread : Bytes) (closed : Except String Unit) :
    QueryEnd → Prop
  | .returns password => closed = .ok () ∧ ∃ inner text, Answers unread inner ∧
      Tells cipher aesKey inner text ∧ Grants text password
  | .pyEzvizError => closed = .ok () ∧ ∃ inner, Answers unread inner ∧
      (inner.length < casHeaderSize + casTailSize ∨
        ∃ text, Tells cipher aesKey inner text ∧ ∀ password, ¬Grants text password)
  | .valueError => closed = .ok () ∧ (Foreign unread ∨ ∃ inner, Answers unread inner ∧
      casHeaderSize + casTailSize ≤ inner.length ∧ Foreign inner)
  | .osError => (∃ message, closed = .error message) ∨ Incomplete unread
  | .cipherError message => closed = .ok () ∧ ∃ inner hdr innerCt, Answers unread inner ∧
      InnerPacket inner hdr innerCt ∧ hdr.plaintext cipher aesKey innerCt = .error message

/-- One of the ends is always due. -/
theorem exists_due (cipher : ControlCipher) (aesKey unread : Bytes)
    (closed : Except String Unit) : ∃ e : QueryEnd, e.Due cipher aesKey unread closed := by
  cases closed with
  | error message => exact ⟨.osError, .inl ⟨message, rfl⟩⟩
  | ok =>
    rcases stream_kinds unread with hshort | hforeign | ⟨hdr, body, rest, hframed⟩
    · exact ⟨.osError, .inr hshort⟩
    · exact ⟨.valueError, rfl, .inl hforeign⟩
    · have hanswers : Answers unread (body.drop hdr.extra) := ⟨hdr, body, rest, hframed, rfl⟩
      rcases inner_kinds (body.drop hdr.extra) with hlen | ⟨hlen, hforeign⟩ |
          ⟨innerHdr, innerCt, hinner⟩
      · exact ⟨.pyEzvizError, rfl, _, hanswers, .inl hlen⟩
      · exact ⟨.valueError, rfl, .inr ⟨_, hanswers, hlen, hforeign⟩⟩
      · cases hplain : innerHdr.plaintext cipher aesKey innerCt with
        | error message =>
          exact ⟨.cipherError message, rfl, _, innerHdr, innerCt, hanswers, hinner, hplain⟩
        | ok plaintext =>
          have htells : Tells cipher aesKey (body.drop hdr.extra)
              (Utf8.decodeReplacing plaintext) :=
            ⟨innerHdr, innerCt, plaintext, hinner, hplain, rfl⟩
          by_cases hgrants : ∃ password, Grants (Utf8.decodeReplacing plaintext) password
          · obtain ⟨password, hgrants⟩ := hgrants
            exact ⟨.returns password, rfl, _, _, hanswers, htells, hgrants⟩
          · exact ⟨.pyEzvizError, rfl, _, hanswers, .inr ⟨_, htells, not_exists.1 hgrants⟩⟩

variable (md5) in
private theorem Asking.queryEnd_of_due {cas : EzvizCAS} {c : CasConnection}
    {serial operationCode keyHex : String}
    (h : Asking cipher cas c serial operationCode keyHex) (random : Randoms) (w : CasWorld)
    {e : QueryEnd} (hdue : e.Due cipher h.aesKey c.received.unread c.closed) :
    queryEnd ((queryPermanentPassword cipher md5 cas c random serial operationCode keyHex).run w) =
      some e := by
  rw [h.query_run md5]
  have hreads {inner : Bytes} (hanswers : Answers c.received.unread inner) :
      ∃ hdr body sock', inner = body.drop hdr.extra ∧
        recvCasResponse c.received = .ok ((hdr, body), sock') := by
    obtain ⟨hdr, body, rest, hframed, rfl⟩ := hanswers
    obtain ⟨sock', hreceived, -⟩ := hframed.recv
    exact ⟨hdr, body, sock', rfl, hreceived⟩
  have htold {inner : Bytes} {text : List Char} (hanswers : Answers c.received.unread inner)
      (htells : Tells cipher h.aesKey inner text) : ∃ hdr body sock',
        recvCasResponse c.received = .ok ((hdr, body), sock') ∧
          readAnswer cipher h.aesKey hdr body = permanentCode text := by
    obtain ⟨hdr, body, sock', rfl, hreceived⟩ := hreads hanswers
    obtain ⟨innerHdr, innerCt, plaintext, hinner, hplain, rfl⟩ := htells
    refine ⟨hdr, body, sock', hreceived, ?_⟩
    rw [readAnswer_inner hinner, hplain]
  cases e with
  | returns password =>
    obtain ⟨hclosed, inner, text, hanswers, htells, hgrants⟩ := hdue
    obtain ⟨hdr, body, sock', hreceived, hread⟩ := htold hanswers htells
    simp [hreceived, hclosed, hread, permanentCode_eq_ok.2 hgrants, queryEnd]
  | pyEzvizError =>
    obtain ⟨hclosed, inner, hanswers, hshort | ⟨text, htells, hnone⟩⟩ := hdue
    · obtain ⟨hdr, body, sock', rfl, hreceived⟩ := hreads hanswers
      obtain ⟨message, hread⟩ := readAnswer_short cipher h.aesKey hshort
      simp [hreceived, hclosed, hread, queryEnd]
    · obtain ⟨hdr, body, sock', hreceived, hread⟩ := htold hanswers htells
      cases hcode : permanentCode text with
      | ok password => exact absurd (permanentCode_eq_ok.1 hcode) (hnone password)
      | error err =>
        obtain ⟨message, rfl⟩ := permanentCode_error hcode
        simp [hreceived, hclosed, hread, hcode, queryEnd]
  | valueError =>
    obtain ⟨hclosed, hforeign | ⟨inner, hanswers, hlen, hforeign⟩⟩ := hdue
    · obtain ⟨message, hreceived⟩ := hforeign.recv
      simp [hreceived, hclosed, queryEnd]
    · obtain ⟨hdr, body, sock', rfl, hreceived⟩ := hreads hanswers
      obtain ⟨message, hread⟩ := readAnswer_foreign cipher h.aesKey hlen hforeign
      simp [hreceived, hclosed, hread, queryEnd]
  | osError =>
    rcases hdue with ⟨message, hclosed⟩ | hshort
    · cases hreceived : recvCasResponse c.received <;> simp [hclosed, queryEnd]
    · obtain ⟨message, hreceived⟩ := hshort.recv
      cases hclosed : c.closed <;> simp [hreceived, queryEnd]
  | cipherError message =>
    obtain ⟨hclosed, inner, innerHdr, innerCt, hanswers, hinner, hplain⟩ := hdue
    obtain ⟨hdr, body, sock', rfl, hreceived⟩ := hreads hanswers
    simp [hreceived, hclosed, readAnswer_inner hinner, hplain, queryEnd]

variable (md5) in
/-- Once the request can be sent, the call ends as the bytes of the server call for, whatever they
are: with the first key of an answer whose first result is 0, with `PyEzvizError` where the packet
for the client is too short or its text has no such result or no key, with `ValueError` where one of
the two headers has another magic, with the error of the cipher where the body cannot be decrypted,
and with `OSError` where the packet is not complete or the socket cannot be closed. -/
theorem queryPermanentPassword_answers {cas : EzvizCAS} {c : CasConnection}
    {serial operationCode keyHex : String}
    (h : Asking cipher cas c serial operationCode keyHex) (random : Randoms) (w : CasWorld) :
    (∃ e, queryEnd
      ((queryPermanentPassword cipher md5 cas c random serial operationCode keyHex).run w) =
        some e) ∧
    ∀ e, queryEnd
      ((queryPermanentPassword cipher md5 cas c random serial operationCode keyHex).run w) =
        some e ↔ e.Due cipher h.aesKey c.received.unread c.closed := by
  obtain ⟨e₀, hdue⟩ := exists_due cipher h.aesKey c.received.unread c.closed
  have hends := h.queryEnd_of_due md5 random w hdue
  refine ⟨⟨e₀, hends⟩, fun e => ⟨fun hend => ?_, h.queryEnd_of_due md5 random w⟩⟩
  obtain rfl : e₀ = e := Option.some.inj (hends.symm.trans hend)
  exact hdue

/-- A cipher that encrypts one message as AES does, and is the identity elsewhere. -/
def recordedCipher (key message ciphertext : Bytes) : ControlCipher where
  pad := pkcs7Pad
  unpad := pkcs7Unpad
  cbcEncrypt key' _ data :=
    .ok (if key' = key ∧ data = pkcs7Pad message then ciphertext else data)
  cbcDecrypt key' _ data :=
    .ok (if key' = key ∧ data = ciphertext then pkcs7Pad message else data)

private theorem recordedCipher_inverts {key message ciphertext : Bytes}
    (h : ∀ plaintext, pkcs7Pad plaintext ≠ ciphertext) :
    (recordedCipher key message ciphertext).Inverts := by
  intro key' plaintext ciphertext' _ hencrypt
  obtain rfl := Except.ok.inj hencrypt
  have hdata : (if key' = key ∧ (if key' = key ∧ pkcs7Pad plaintext = pkcs7Pad message
      then ciphertext else pkcs7Pad plaintext) = ciphertext then pkcs7Pad message
      else if key' = key ∧ pkcs7Pad plaintext = pkcs7Pad message then ciphertext
      else pkcs7Pad plaintext) = pkcs7Pad plaintext := by
    by_cases hrecorded : key' = key ∧ pkcs7Pad plaintext = pkcs7Pad message
    · rw [if_pos hrecorded, if_pos ⟨hrecorded.1, rfl⟩, hrecorded.2]
    · rw [if_neg hrecorded, if_neg fun h' => h plaintext h'.2]
  change pkcs7Unpad _ = _
  exact (congrArg pkcs7Unpad hdata).trans (pkcs7Unpad_pad plaintext)

/-- The AES-128-CBC encryption of the request for `OP` under `tinyKey`. -/
def opCiphertext : Bytes :=
  [0x93, 0x8c, 0x62, 0xf7, 0x98, 0xa1, 0x96, 0x15, 0xe5, 0x56, 0x41, 0x54, 0x51, 0x24, 0x84, 0x80,
    0xa2, 0x18, 0x1d, 0x41, 0xf5, 0x7b, 0xfb, 0x10, 0xee, 0xb5, 0xa9, 0x13, 0xd5, 0x1c, 0x5f, 0x6e,
    0xa8, 0x66, 0x2c, 0x77, 0xf0, 0x31, 0xb0, 0x13, 0x55, 0xe6, 0x22, 0x0e, 0xb4, 0x4f, 0xe7, 0xda,
    0xb3, 0xa9, 0xdf, 0x81, 0x3d, 0x74, 0xce, 0x0f, 0xd4, 0x98, 0xe8, 0xd5, 0x4f, 0x42, 0xed, 0xda,
    0x4c, 0x04, 0x3f, 0x65, 0xfb, 0x3c, 0x87, 0xe8, 0x9e, 0x5a, 0x6e, 0x47, 0x09, 0xcb, 0x6e, 0x0e,
    0xc1, 0x92, 0x54, 0xdc, 0x82, 0x3a, 0xd4, 0x26, 0xd6, 0x18, 0x6c, 0xbc, 0x40, 0x8c, 0x62, 0xc7]

def opDigest : Digest :=
  ⟨[0xc7, 0x05, 0xe6, 0xac, 0x95, 0xc4, 0x60, 0x16, 0xde, 0x4c, 0xbe, 0xac, 0x42, 0xb6, 0x0b, 0x61],
    by decide⟩

def transferDigest : Digest :=
  ⟨[0x5c, 0x8a, 0x38, 0x8e, 0x88, 0x94, 0x53, 0xee, 0x18, 0x77, 0xb1, 0xf0, 0x7f, 0x5a, 0x5b, 0xd3],
    by decide⟩

def opMd5 (data : Bytes) : Digest := if data = opCiphertext then opDigest else transferDigest

def opCipher : ControlCipher := recordedCipher tinyKey (innerXml "OP") opCiphertext

/-- The last byte of the ciphertext is no padding. -/
theorem opCipher_inverts : opCipher.Inverts := by
  apply recordedCipher_inverts
  intro plaintext hpad
  obtain ⟨b, hlast, hb⟩ := pkcs7Pad_last plaintext
  rw [hpad] at hlast
  obtain rfl := Option.some.inj hlast
  change 0xc7 = 16 - plaintext.length % 16 at hb
  omega

def opClient : EzvizCAS where
  token := [("session_id", "s0")]
  sysConf := some (List.replicate 15 "" ++ ["cas.example", "6500"])

def opRandoms : Randoms := ⟨7, 9, by decide, by decide⟩

def answering (wire : Bytes) (h : ∀ p ∈ [wire], p ≠ []) : CasConnection :=
  ⟨.ok (), .ok (), ⟨[wire], none, h⟩, .ok ()⟩

private theorem opKey : aesKeyOf "0123456789abcdef" = .ok tinyKey := by decide +kernel

private theorem opEncrypted : aes128CbcEncrypt opCipher tinyKey
    (innerXml "OP") = .ok opCiphertext := by
  simp [aes128CbcEncrypt, opCipher, recordedCipher]

private theorem opCiphertext_lt : opCiphertext.length + 64 < 2 ^ 32 := by decide

private theorem opOuter_lt : (outerXml ((opClient.token.lookup "session_id").getD "") "BE1234567"
    (opCiphertext.length + 64)).length + (opCiphertext.length + 64) < 2 ^ 32 := by
  decide +kernel

def opAsking (c : CasConnection) (hconnected : c.connected = .ok ()) (hsent : c.sent = .ok ()) :
    Asking opCipher opClient c "BE1234567" "OP" "0123456789abcdef" where
  aesKey := tinyKey
  ciphertext := opCiphertext
  address := ("cas.example", "6500")
  key := opKey
  encrypted := opEncrypted
  ciphertext_lt := opCiphertext_lt
  outer_lt := opOuter_lt
  resolved := rfl
  connected := hconnected
  sent := hsent

def abcText : List Char :=
  "<Response><Result>0</Result><PermanentCode Key=\"ABC\"/></Response>".toList

def abcXml : Bytes := utf8 "<Response Length=\"0\"/>"

private theorem abcBody_lt : (abcText.flatMap String.utf8EncodeChar).length < 2 ^ 32 := by
  decide +kernel

theorem abcTail_length : (List.replicate 32 (0x30 : UInt8)).length = trailerLen := by decide

def abcInner : Packet where
  session := 1
  cmd := 0x2845
  flags := 0
  extra := 0
  body := abcText.flatMap String.utf8EncodeChar
  tail := List.replicate 32 0x30
  session_lt := by decide
  cmd_lt := by decide
  flags_lt := Packet.zero_lt_word
  extra_lt := Packet.zero_lt_word
  body_lt := abcBody_lt
  tail_length := abcTail_length

private theorem abcXml_lt : abcXml.length < 2 ^ 32 := by decide +kernel

private theorem abcOuter_lt : (abcXml ++ abcInner.encode).length < 2 ^ 32 := by decide +kernel

def abcOuter : Packet where
  session := 9
  cmd := 0x2006
  flags := 0
  extra := abcXml.length
  body := abcXml ++ abcInner.encode
  tail := List.replicate 32 0x30
  session_lt := by decide
  cmd_lt := by decide
  flags_lt := Packet.zero_lt_word
  extra_lt := abcXml_lt
  body_lt := abcOuter_lt
  tail_length := abcTail_length

private theorem abcOuter_ne_nil : ∀ p ∈ [abcOuter.encode], p ≠ [] := by
  simp [Packet.encode, Packet.header, magic]

private theorem abcAnswers :
    Answers (answering abcOuter.encode abcOuter_ne_nil).received.unread abcInner.encode := by
  have hunread : (answering abcOuter.encode abcOuter_ne_nil).received.unread =
      abcOuter.encode ++ [] := rfl
  obtain ⟨sock', hreceived, -⟩ := recvCasResponse_encode abcOuter hunread
  refine ⟨abcOuter.casHeader, abcOuter.body, _, Framed.of_recv hreceived, ?_⟩
  exact List.drop_left.symm

private theorem abcTells : Tells opCipher tinyKey abcInner.encode abcText :=
  ⟨_, _, abcText.flatMap String.utf8EncodeChar, abcInner.innerPacket, rfl,
    Utf8.decodeReplacing_encode abcText⟩

private theorem abcGrants : Grants abcText "ABC" :=
  ⟨Pattern.search_eq_some.1 (by decide +kernel), Pattern.search_eq_some.1 (by decide +kernel)⟩

private theorem noSocket_fresh : ∀ s ∈ ([] : List Nat), s < 0 := by simp

def noSocket : CasWorld := ⟨⟨[], 0, noSocket_fresh⟩, []⟩

theorem queryPermanentPassword_asks_op :
    ∃ w' wire, ∃ outer inner : Packet,
      (queryPermanentPassword opCipher opMd5 opClient
        (answering abcOuter.encode abcOuter_ne_nil) opRandoms "BE1234567" "OP"
        "0123456789abcdef").left noSocket = w' ∧
      w'.sockets.live = [] ∧ w'.sent = [wire] ∧ outer.ReadFrom wire ∧
      inner.ReadFrom (outer.body.drop outer.extra) ∧
      aes128CbcDecrypt opCipher tinyKey inner.body = .ok (innerXml "OP") := by
  obtain ⟨_, hlive, hasks⟩ := queryPermanentPassword_asks opMd5 opCipher_inverts opClient
    (answering abcOuter.encode abcOuter_ne_nil) "BE1234567" "OP" "0123456789abcdef" opRandoms
    noSocket
  obtain ⟨w', wire, outer, inner, hleft, hsent, hreads, _, _, _, hinner, _, _, hdecrypt⟩ :=
    hasks (opAsking (answering abcOuter.encode abcOuter_ne_nil) rfl rfl)
  exact ⟨w', wire, outer, inner, hleft, hleft ▸ hlive, hsent, hreads, hinner, hdecrypt⟩

theorem queryPermanentPassword_answers_abc :
    queryEnd ((queryPermanentPassword opCipher opMd5 opClient
      (answering abcOuter.encode abcOuter_ne_nil) opRandoms "BE1234567" "OP"
      "0123456789abcdef").run noSocket) = some (.returns "ABC") := by
  obtain ⟨_, hends⟩ := queryPermanentPassword_answers opMd5
    (opAsking (answering abcOuter.encode abcOuter_ne_nil) rfl rfl) opRandoms noSocket
  exact (hends (.returns "ABC")).2 ⟨rfl, _, _, abcAnswers, abcTells, abcGrants⟩

end EzvizHp7.Control
