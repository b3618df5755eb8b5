import EzvizHp7.Control.CasLayout
import EzvizHp7.Control.JwtSign
import EzvizHp7.Control.PermanentPassword

/-!
# The request for the control key

`cas_get_encryption` of the CAS client. The request names the session of the token and carries the
sign that is in it. What `xmltodict` makes of the body of the answer is a parameter.
-/

namespace EzvizHp7.Control

open Cloud (Token Document)
open Cpd7 (Bytes)
open Json (CodePoint Str codePoint)

/-- The entry `service_urls` of a token. -/
structure ServiceUrls where
  sysConf : Option (List String)

/-- `EzvizCAS(token)` -/
def EzvizCAS.new (serviceUrls : String → ServiceUrls) (token : Option Token) :
    Except CasCallError EzvizCAS :=
  match Cloud.serviceUrls token with
  | some urls => .ok ⟨token.getD [], (serviceUrls urls).sysConf⟩
  | none =>
    .error (.pyEzvizError "Missing service_urls in token; call EzvizClient.login() first")

inductive DirectConnectError
  | cas (e : CasCallError)
  | jwt (e : JwtError)
  | xml (message : String)
  deriving DecidableEq, Repr

abbrev DirectMethod := EStateM DirectConnectError CasWorld

def strOf (text : String) : Str := text.toList.map codePoint

def charOf (c : CodePoint) : Option Char :=
  if c.val.isValidChar then some (Char.ofNat c.val) else none

/-- `str.encode()`; the codec's message lacks the character and its position here. -/
def encodeStr (text : Str) : Except CasCallError Bytes :=
  match text.mapM charOf with
  | some chars => .ok (encodeUtf8 chars)
  | none =>
    .error (.unicodeEncodeError "'utf-8' codec can't encode characters: surrogates not allowed")

def directConnectText (sessionId : String) (sign : Str) (devserial : String) : Str :=
  strOf ("<?xml version=\"1.0\" encoding=\"utf-8\"?>" ++
      "<Request>" ++
      "<ClientID>" ++ sessionId ++ "</ClientID>" ++
      "<Sign>") ++ sign ++
    strOf ("</Sign>" ++
      "<DevSerial>" ++ devserial ++ "</DevSerial>" ++
      "<ClientType>3</ClientType>" ++
      "</Request>")

/-- `body` of `cas_get_encryption` -/
def directConnectBody (cas : EzvizCAS) (sign : Str) (devserial : String) :
    Except CasCallError Bytes :=
  match cas.token.lookup "session_id" with
  | none => .error (.keyError "'session_id'")
  | some sessionId => encodeStr (directConnectText sessionId sign devserial)

section

variable (limit : Nat) (md5 : Bytes → Digest) (parse : Bytes → Except String Document)

/-- `_extract_sign_from_jwt(self._token)` -/
def EzvizCAS.sign (cas : EzvizCAS) : Except JwtError Str :=
  extractSignFromJwt limit ((cas.token.lookup "session_id").map strOf)

def casGetEncryption (cas : EzvizCAS) (c : CasConnection) (random : Nat) (devserial : String) :
    DirectMethod Document := do
  let sign ← ofExcept ((cas.sign limit).mapError .jwt)
  let body ← ofExcept ((directConnectBody cas sign devserial).mapError .cas)
  let (_, rspBody) ← (sendAndRecv md5 cas c random 0x2001 body 0).adaptExcept .cas
  ofExcept ((parse rspBody).mapError .xml)

end

private theorem codePoint_charOf {c : CodePoint} {char : Char} (h : charOf c = some char) :
    codePoint char = c := by
  unfold charOf at h
  split at h
  · rename_i hvalid
    cases h
    have hval : (Char.ofNat c.val).toNat = c.val := by
      rw [Char.ofNat, dif_pos hvalid]
      rfl
    rw [codePoint, hval]
    exact Fin.ofNat_val_eq_self c
  · cases h

private theorem map_codePoint_of_mapM {text : Str} {chars : List Char}
    (h : text.mapM charOf = some chars) : chars.map codePoint = text := by
  induction text generalizing chars with
  | nil =>
    cases h
    rfl
  | cons c text ih =>
    simp only [List.mapM_cons, bind, Option.bind_eq_some_iff, pure, Option.some.injEq] at h
    obtain ⟨char, hchar, chars, hchars, rfl⟩ := h
    rw [List.map_cons, codePoint_charOf hchar, ih hchars]

theorem encodeStr_eq_ok {text : Str} {body : Bytes} (h : encodeStr text = .ok body) :
    ∃ chars, decodeUtf8 body = .ok chars ∧ chars.map codePoint = text := by
  unfold encodeStr at h
  split at h
  · rename_i chars hchars
    cases h
    exact ⟨chars, decodeUtf8_encode chars, map_codePoint_of_mapM hchars⟩
  · cases h

variable {limit : Nat} {md5 : Bytes → Digest} {parse : Bytes → Except String Document}

/-- What has to go well for a request to be sent. -/
structure Connecting (limit : Nat) (cas : EzvizCAS) (c : CasConnection) (devserial : String) where
  sessionId : String
  sign : Str
  body : Bytes
  address : String × String
  session : cas.token.lookup "session_id" = some sessionId
  signed : cas.sign limit = .ok sign
  encoded : encodeStr (directConnectText sessionId sign devserial) = .ok body
  body_lt : body.length < 2 ^ 32
  resolved : getCasHostPort cas = .ok address
  connected : c.connected = .ok ()
  sent : c.sent = .ok ()

@[simp] theorem ofExcept_run {ε σ α : Type} (outcome : Except ε α) (s : σ) :
    (ofExcept outcome : EStateM ε σ α).run s = match outcome with
      | .ok a => .ok a s
      | .error e => .error e s := by
  cases outcome <;> rfl

@[simp] theorem adaptExcept_run {ε ε' σ α : Type} (f : ε → ε') (m : EStateM ε σ α) (s : σ) :
    (m.adaptExcept f).run s = match m.run s with
      | .ok a s' => .ok a s'
      | .error e s' => .error (f e) s' := by
  rw [EStateM.run, EStateM.adaptExcept]
  cases h : m s <;> simp [EStateM.run, h]

namespace Connecting

variable {cas : EzvizCAS} {c : CasConnection} {devserial : String}
  (h : Connecting limit cas c devserial) {random : Nat} (hrandom : random < 2 ^ 32)

variable (md5)

def packet : Packet :=
  casPacket md5 0x2001 random 0 h.body (by decide) hrandom Packet.zero_lt_word h.body_lt

theorem buildCasPacket_eq :
    buildCasPacket md5 random 0x2001 h.body none 0 = .ok (h.packet md5 hrandom).encode :=
  Control.buildCasPacket_eq random (by decide) hrandom Packet.zero_lt_word h.body_lt

variable (parse)

theorem run_eq (w : CasWorld) :
    (casGetEncryption limit md5 parse cas c random devserial).run w =
      match recvCasResponse c.received, c.closed with
      | .ok ((_, rspBody), _), .ok _ =>
        (ofExcept ((parse rspBody).mapError .xml) : DirectMethod Document).run
          (w.exchanged (h.packet md5 hrandom).encode)
      | .error e, .ok _ =>
        .error (.cas (.packet e)) (w.exchanged (h.packet md5 hrandom).encode)
      | _, .error message =>
        .error (.cas (.packet (.osError message)))
          (w.exchanged (h.packet md5 hrandom).encode) := by
  have hsend := sendAndRecv_run h.resolved h.connected h.sent (h.buildCasPacket_eq md5 hrandom) w
  have hbody : directConnectBody cas h.sign devserial = .ok h.body := by
    rw [directConnectBody, h.session]
    exact h.encoded
  simp only [casGetEncryption, EStateM.run_bind, ofExcept_run, h.signed, hbody, Except.mapError,
    adaptExcept_run, hsend]
  cases recvCasResponse c.received <;> cases c.closed <;> rfl

theorem left_eq (w : CasWorld) :
    (casGetEncryption limit md5 parse cas c random devserial).left w =
      w.exchanged (h.packet md5 hrandom).encode := by
  rw [EStateM.left, h.run_eq md5 parse hrandom]
  cases recvCasResponse c.received with
  | error e => cases c.closed <;> rfl
  | ok response =>
    cases c.closed with
    | error message => rfl
    | ok =>
      dsimp only
      rw [ofExcept_run]
      cases parse response.1.2 <;> rfl

/-- A document is returned of a packet in front of the stream. -/
theorem run_eq_ok {w w' : CasWorld} {doc : Document} :
    (casGetEncryption limit md5 parse cas c random devserial).run w = .ok doc w' ↔
      w' = w.exchanged (h.packet md5 hrandom).encode ∧ c.closed = .ok () ∧
        ∃ hdr body rest, Framed c.received.unread hdr body rest ∧ parse body = .ok doc := by
  have hrun := h.run_eq md5 parse hrandom w
  constructor
  · intro hok
    rw [hrun] at hok
    cases hreceived : recvCasResponse c.received with
    | error e => cases hclosed : c.closed <;> simp [hreceived, hclosed] at hok
    | ok response =>
      obtain ⟨⟨hdr, body⟩, sock'⟩ := response
      cases hclosed : c.closed with
      | error message => simp [hreceived, hclosed] at hok
      | ok =>
        cases hparse : parse body with
        | error message => simp [hreceived, hclosed, hparse, Except.mapError] at hok
        | ok doc' =>
          simp only [hreceived, hclosed, hparse, Except.mapError, ofExcept_run,
            EStateM.Result.ok.injEq] at hok
          exact ⟨hok.2.symm, rfl, hdr, body, _, Framed.of_recv hreceived,
            hparse.trans (congrArg _ hok.1)⟩
  · rintro ⟨rfl, hclosed, hdr, body, rest, hframed, hparse⟩
    obtain ⟨sock', hreceived, -⟩ := hframed.recv
    simp [hrun, hreceived, hclosed, hparse, Except.mapError]

end Connecting

/-- What is sent as the sign: the claim in the token, and the token itself where there is none. -/
def Signed (limit : Nat) (raw sign : Str) : Prop :=
  Signs limit raw sign ∨ (∀ s, ¬Signs limit raw s) ∧ sign = raw

theorem Extracts.signed {raw sign : Str} (h : Extracts limit raw)
    (hsign : extractSignFromJwt limit (some raw) = .ok sign) : Signed limit raw sign := by
  by_cases hany : ∃ s, Signs limit raw s
  · obtain ⟨s, hs⟩ := hany
    cases hsign.symm.trans (h.sign s hs)
    exact .inl hs
  · have hnone : ∀ s, ¬Signs limit raw s := fun s hs => hany ⟨s, hs⟩
    cases hsign.symm.trans (h.fallback hnone)
    exact .inr ⟨hnone, rfl⟩

private theorem signed_of_extract {raw sign : Str}
    (h : extractSignFromJwt limit (some raw) = .ok sign) : Signed limit raw sign := by
  rcases second_or_none raw with hdot | ⟨payload, hsecond⟩
  · exact (extracts_of_single hdot).signed h
  · cases hdecode : decodePayload limit payload with
    | error e =>
      by_cases hnesting : e = .jsonError .recursionError
      · rw [extract_of_second limit hsecond, payloadSign_of_error hdecode, hnesting] at h
        cases h
      · exact (extracts_of_caught hsecond hdecode (decodePayload_caught hdecode hnesting)).signed h
    | ok value =>
      by_cases hvalue : ∃ members, value = .object members
      · obtain ⟨members, rfl⟩ := hvalue
        exact (extracts_of_object hsecond hdecode).signed h
      · rw [extract_of_second limit hsecond,
          payloadSign_of_other hdecode fun members heq => hvalue ⟨members, heq⟩] at h
        cases h

theorem Connecting.signed_sign {cas : EzvizCAS} {c : CasConnection} {devserial : String}
    (h : Connecting limit cas c devserial) : Signed limit (strOf h.sessionId) h.sign := by
  have hsigned := h.signed
  rw [EzvizCAS.sign, h.session] at hsigned
  exact signed_of_extract hsigned

theorem casGetEncryption_spares (cas : EzvizCAS) (c : CasConnection) (random : Nat)
    (devserial : String) (w : CasWorld) :
    w.Spared ((casGetEncryption limit md5 parse cas c random devserial).left w) := by
  rw [casGetEncryption, EStateM.left_bind, ofExcept_run]
  cases (cas.sign limit).mapError DirectConnectError.jwt with
  | error e => exact .untouched
  | ok sign =>
    dsimp only
    rw [EStateM.left_bind, ofExcept_run]
    cases (directConnectBody cas sign devserial).mapError DirectConnectError.cas with
    | error e => exact .untouched
    | ok body =>
      have hspares : w.Spared ((sendAndRecv md5 cas c random 0x2001 body 0).left w) :=
        sendAndRecv_spares ..
      dsimp only
      apply EStateM.left_bind_of
      · rw [EStateM.left, adaptExcept_run]
        rw [EStateM.left] at hspares
        cases hrun : (sendAndRecv md5 cas c random 0x2001 body 0).run w <;>
          simpa only [hrun] using hspares
      · intro response w' hw'
        rw [EStateM.left, ofExcept_run]
        cases (parse response.2).mapError DirectConnectError.xml <;> exact hw'

theorem ofExcept_run_eq_ok {ε σ α : Type} {outcome : Except ε α} {s s' : σ} {a : α} :
    (ofExcept outcome : EStateM ε σ α).run s = .ok a s' ↔ outcome = .ok a ∧ s = s' := by
  cases outcome <;> simp

private theorem performCas_run_eq_ok {α : Type} {outcome : Except CasCallError α} {w w' : CasWorld}
    {a : α} : (performCas outcome).run w = .ok a w' ↔ outcome = .ok a ∧ w = w' := by
  cases outcome <;> simp

private theorem casOs_eq_ok {α : Type} {outcome : Except String α} {a : α} :
    casOs outcome = .ok a ↔ outcome = .ok a := Except.mapError_eq_ok

private theorem length_of_buildCasPacket {random cmd extra : Nat} {body wire : Bytes}
    (h : buildCasPacket md5 random cmd body none extra = .ok wire) : body.length < 2 ^ 32 := by
  by_contra hlong
  have hpack : packI body.length = .error "'I' format requires 0 <= number <= 4294967295" :=
    if_neg hlong
  simp only [buildCasPacket, makeCasHeader, Except.bind_eq_ok, hpack] at h
  obtain ⟨_, ⟨_, _, _, _, _, _, _, hbody, _⟩, _⟩ := h
  cases hbody

private theorem sendAndRecv_ok {cas : EzvizCAS} {c : CasConnection} {random cmd extra : Nat}
    {body : Bytes} {w w' : CasWorld} {response : CasHeader × Bytes}
    (h : (sendAndRecv md5 cas c random cmd body extra).run w = .ok response w') :
    (∃ address, getCasHostPort cas = .ok address) ∧ c.connected = .ok () ∧ c.sent = .ok () ∧
      body.length < 2 ^ 32 := by
  obtain ⟨address, w₁, haddress, h⟩ := EStateM.run_bind_eq_ok.1 h
  obtain ⟨sock, w₂, hconnect, h⟩ := EStateM.run_bind_eq_ok.1 h
  obtain ⟨w₃, _, hbody, -⟩ := EStateM.run_tryFinally_eq_ok.1 h
  obtain ⟨wire, w₄, hbuild, hbody⟩ := EStateM.run_bind_eq_ok.1 hbody
  obtain ⟨_, w₅, hsend, -⟩ := EStateM.run_bind_eq_ok.1 hbody
  obtain ⟨_, w₆, hconnected, -⟩ := EStateM.run_bind_eq_ok.1 hconnect
  obtain ⟨_, w₇, hsent, -⟩ := EStateM.run_bind_eq_ok.1 hsend
  rw [performCas_run_eq_ok] at haddress hbuild hconnected hsent
  exact ⟨⟨address, haddress.1⟩, casOs_eq_ok.1 hconnected.1, casOs_eq_ok.1 hsent.1,
    length_of_buildCasPacket (Except.mapError_eq_ok.1 hbuild.1)⟩

theorem connecting_of_ok {cas : EzvizCAS} {c : CasConnection} {random : Nat} {devserial : String}
    {w w' : CasWorld} {doc : Document}
    (h : (casGetEncryption limit md5 parse cas c random devserial).run w = .ok doc w') :
    Nonempty (Connecting limit cas c devserial) := by
  obtain ⟨sign, w₁, hsign, h⟩ := EStateM.run_bind_eq_ok.1 h
  obtain ⟨body, w₂, hbody, h⟩ := EStateM.run_bind_eq_ok.1 h
  obtain ⟨response, w₃, hsend, -⟩ := EStateM.run_bind_eq_ok.1 h
  rw [ofExcept_run_eq_ok, Except.mapError_eq_ok] at hsign hbody
  rw [adaptExcept_run] at hsend
  cases hrun : (sendAndRecv md5 cas c random 0x2001 body 0).run w₂ with
  | error e w₄ => simp [hrun] at hsend
  | ok response' w₄ =>
    obtain ⟨⟨address, hresolved⟩, hconnected, hsent, hlt⟩ := sendAndRecv_ok hrun
    cases hsession : cas.token.lookup "session_id" with
    | none => simp [directConnectBody, hsession] at hbody
    | some sessionId =>
      simp only [directConnectBody, hsession] at hbody
      exact ⟨⟨sessionId, sign, body, address, hsession, hsign.1, hbody.1, hlt, hresolved,
        hconnected, hsent⟩⟩

variable (md5 parse) in
/-- One exchange: the packet that is sent can be read off any stream, it names the session of the
token, the sign in it and the device, and the socket is closed; a document is returned exactly
where the server's bytes start with a packet whose body parses to it. -/
theorem casGetEncryption_exchanges {cas : EzvizCAS} {c : CasConnection} {devserial : String}
    (h : Connecting limit cas c devserial) {random : Nat} (hrandom : random < 2 ^ 32)
    (w : CasWorld) :
    ∃ w' wire text, ∃ packet : Packet,
      (casGetEncryption limit md5 parse cas c random devserial).left w = w' ∧
      w'.sockets.live = w.sockets.live ∧ w'.sent = w.sent ++ [wire] ∧ packet.ReadFrom wire ∧
      packet.cmd = 0x2001 ∧ packet.session = random ∧ packet.flags = 0 ∧ packet.extra = 0 ∧
      decodeUtf8 packet.body = .ok text ∧
      text.map codePoint = directConnectText h.sessionId h.sign devserial ∧
      Signed limit (strOf h.sessionId) h.sign ∧
      ∀ doc,
        (casGetEncryption limit md5 parse cas c random devserial).run w = .ok doc w' ↔
          c.closed = .ok () ∧
            ∃ hdr body rest, Framed c.received.unread hdr body rest ∧ parse body = .ok doc := by
  obtain ⟨text, hdecode, htext⟩ := encodeStr_eq_ok h.encoded
  refine ⟨_, _, text, h.packet md5 hrandom, h.left_eq md5 parse hrandom w, ?_, rfl, ?_, rfl, rfl,
    rfl, rfl, hdecode, htext, h.signed_sign, ?_⟩
  · exact Sockets.close_make_live w.sockets
  · exact fun rest sock hunread => recvCasResponse_encode _ hunread
  · intro doc
    rw [h.run_eq_ok md5 parse hrandom, and_iff_right rfl]

def keyRequest : Bytes :=
  utf8 ("<?xml version=\"1.0\" encoding=\"utf-8\"?><Request><ClientID>s0</ClientID>" ++
    "<Sign>s0</Sign><DevSerial>BE1234567</DevSerial><ClientType>3</ClientType></Request>")

def keyRequestDigest : Digest :=
  ⟨[0x55, 0xf8, 0x1f, 0xe2, 0x15, 0xe3, 0xfd, 0x86, 0x87, 0x74, 0x86, 0xf5, 0xa7, 0x54, 0xa2, 0xfe],
    by decide⟩

def keyXml : Bytes := utf8 "<Response><Session Key=\"0123456789abcdef\"/></Response>"

def keyDocument : Document :=
  .dict [("Response", .dict [("Session", .dict [("@Key", "0123456789abcdef")])])]

def parseKey (body : Bytes) : Except String Document :=
  if body = keyXml then .ok keyDocument else .error "no element found"

private theorem keySigned : opClient.sign 1 = .ok (strOf "s0") := by decide +kernel

private theorem keyEncoded : encodeStr (directConnectText "s0" (strOf "s0") "BE1234567") =
    .ok keyRequest := by
  decide +kernel

private theorem keyRequest_lt : keyRequest.length < 2 ^ 32 := by decide +kernel

private theorem keySession : opClient.token.lookup "session_id" = some "s0" := rfl

private theorem keyResolved : getCasHostPort opClient = .ok ("cas.example", "6500") := rfl

/-- The session `s0`, which has no claims in it, is its own sign. -/
def keyConnecting (c : CasConnection) (hconnected : c.connected = .ok ())
    (hsent : c.sent = .ok ()) : Connecting 1 opClient c "BE1234567" where
  sessionId := "s0"
  sign := strOf "s0"
  body := keyRequest
  address := ("cas.example", "6500")
  session := keySession
  signed := keySigned
  encoded := keyEncoded
  body_lt := keyRequest_lt
  resolved := keyResolved
  connected := hconnected
  sent := hsent

private theorem keyXml_lt : keyXml.length < 2 ^ 32 := by decide +kernel

private theorem nine_lt_word : 9 < 2 ^ 32 := by decide

private theorem keyCmd_lt : 0x2002 < 2 ^ 32 := by decide

def keyPacket : Packet where
  session := 9
  cmd := 0x2002
  flags := 0
  extra := 0
  body := keyXml
  tail := List.replicate 32 0x30
  session_lt := nine_lt_word
  cmd_lt := keyCmd_lt
  flags_lt := Packet.zero_lt_word
  extra_lt := Packet.zero_lt_word
  body_lt := keyXml_lt
  tail_length := abcTail_length

private theorem keyPacket_ne_nil : ∀ p ∈ [keyPacket.encode], p ≠ [] := by
  simp [Packet.encode, Packet.header, magic]

private theorem seven_lt_word : 7 < 2 ^ 32 := by decide

private theorem keyFramed : ∃ hdr body rest,
    Framed (answering keyPacket.encode keyPacket_ne_nil).received.unread hdr body rest ∧
      parseKey body = .ok keyDocument := by
  have hunread : (answering keyPacket.encode keyPacket_ne_nil).received.unread =
      keyPacket.encode ++ [] := rfl
  obtain ⟨sock', hreceived, -⟩ := recvCasResponse_encode keyPacket hunread
  exact ⟨_, _, _, Framed.of_recv hreceived, if_pos rfl⟩

theorem casGetEncryption_exchanges_s0 :
    ∃ w', w'.sockets.live = [] ∧
      (casGetEncryption 1 (fun _ => keyRequestDigest) parseKey opClient
        (answering keyPacket.encode keyPacket_ne_nil) 7 "BE1234567").run noSocket =
        .ok keyDocument w' := by
  obtain ⟨w', _, _, _, _, hlive, _, _, _, _, _, _, _, _, _, hreturns⟩ :=
    casGetEncryption_exchanges (fun _ => keyRequestDigest) parseKey
      (keyConnecting (answering keyPacket.encode keyPacket_ne_nil) rfl rfl) seven_lt_word noSocket
  exact ⟨w', hlive, (hreturns keyDocument).2 ⟨rfl, keyFramed⟩⟩

end EzvizHp7.Control
