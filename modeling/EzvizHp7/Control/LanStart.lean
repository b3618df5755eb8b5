import EzvizHp7.Cloud.KeyRotation
import EzvizHp7.Library.Raising

/-!
# The sockets of a LAN start

`Cpd7LanClient.start` opens a socket to learn its own address, one for each of two commands and
the one that the stream comes over. Every call on a socket may fail, and the doorbell may send
anything.
-/

namespace EzvizHp7.Control

open Cpd7 (Bytes)

inductive StartError
  | lan (e : LanError)
  | runtimeError (message : String)
  | valueError (message : String)
  /-- The `ConnectionError` with the front of a response that names no session. -/
  | noSession (response : Bytes)
  deriving DecidableEq, Repr

/-- The sockets that are open. They are numbered as they are made. -/
structure Sockets where
  live : List Nat
  next : Nat
  fresh : ∀ s ∈ live, s < next

namespace Sockets

def make (sockets : Sockets) : Sockets where
  live := sockets.live ++ [sockets.next]
  next := sockets.next + 1
  fresh := by
    intro s hs
    rcases List.mem_append.1 hs with hs | hs
    · exact Nat.lt_succ_of_lt (sockets.fresh s hs)
    · rw [List.mem_singleton.1 hs]
      exact Nat.lt_succ_self sockets.next

def close (s : Nat) (sockets : Sockets) : Sockets where
  live := sockets.live.filter (· ≠ s)
  next := sockets.next
  fresh s' hs' := sockets.fresh s' (List.mem_of_mem_filter hs')

@[simp] theorem make_live (sockets : Sockets) :
    sockets.make.live = sockets.live ++ [sockets.next] := rfl

@[simp] theorem close_make_live (sockets : Sockets) :
    (sockets.make.close sockets.next).live = sockets.live := by
  have hold : sockets.live.filter (· ≠ sockets.next) = sockets.live := by
    rw [List.filter_eq_self]
    intro s hs
    simpa using Nat.ne_of_lt (sockets.fresh s hs)
  simp only [close, make_live, List.filter_append, hold]
  simp

end Sockets

structure Connection where
  connected : Except String Unit
  sent : Except String Unit
  timeoutSet : Except String Unit
  received : Socket
  closed : Except String Unit

structure Network where
  udpMade : Except String Unit
  udpConnected : Except String Unit
  sockname : Except String String
  udpClosed : Except String Unit
  init : Connection
  invite : Connection
  play : Connection

structure Drawn (Priv : Type) where
  keypair : Priv × String
  timestamp : Nat
  uuid : String

structure Cpd7LanClient (Priv : Type) where
  related : String
  channel : Int
  aesKey : Bytes
  rxPort : Nat
  encryptStream : Bool
  playSock : Option Nat
  ecdhPriv : Option Priv
  ecdhPubB64 : Option String

structure LanWorld (Priv : Type) where
  client : Cpd7LanClient Priv
  sockets : Sockets

abbrev Method (Priv : Type) := EStateM StartError (LanWorld Priv)

def initSessionId : Nat := 10011

def placeholderOpCode : String := "ABCDEFG"

/-- `str.encode()` -/
def utf8 (text : String) : Bytes := text.toUTF8.toList

def xmlInit (session : Nat) : Bytes :=
  utf8 ("<?xml version=\"1.0\" encoding=\"utf-8\"?>\n" ++
    "<Request>\n" ++
    "\t<OperationCode>" ++ placeholderOpCode ++ "</OperationCode>\n" ++
    "\t<Session>" ++ toString session ++ "</Session>\n" ++
    "</Request>\n")

def xmlInvite (relatedDevice : String) (channel : Int) (encryptStream : Bool)
    (_receiverAddr : String) (receiverPort : Nat) (pubkeyB64 : String) (timestamp : Nat)
    (uid : String) : Bytes :=
  let encStr := if encryptStream then "TRUE" else "FALSE"
  let pubkeyXml := if pubkeyB64 ≠ "" then "\n\t<PublicKey>" ++ pubkeyB64 ++ "</PublicKey>" else ""
  utf8 ("<?xml version=\"1.0\" encoding=\"utf-8\"?>\n" ++
    "<Request>\n" ++
    "\t<OperationCode>" ++ placeholderOpCode ++ "</OperationCode>\n" ++
    "\t<Channel RelatedDevice=\"" ++ relatedDevice ++ "\">" ++ toString channel ++
      "</Channel>\n" ++
    "\t<ReceiverInfo Address=\"\" Port=\"" ++ toString receiverPort ++ "\" " ++
      "ServerType=\"1\" StreamType=\"MAIN\" NewStreamType=\"1\" TransProto=\"TCP\" />\n" ++
    "\t<IsEncrypt>" ++ encStr ++ "</IsEncrypt>\n" ++
    "\t<ReceiverInfoEx SessionID=\"\" Port=\"" ++ toString receiverPort ++ "\" />\n" ++
    "\t<Authentication Ticket=\"\" BizCode=\"biz=1\" Interval=\"180\" />\n" ++
    "\t<Uuid>" ++ uid ++ "</Uuid>\n" ++
    "\t<Timestamp>" ++ toString timestamp ++ "</Timestamp>" ++
    pubkeyXml ++ "\n" ++
    "</Request>\n")

def xmlPlay (session : Nat) : Bytes :=
  utf8 ("<?xml version=\"1.0\" encoding=\"utf-8\"?>\n" ++
    "<Request>\n" ++
    "\t<Session>" ++ toString session ++ "</Session>\n" ++
    "\t<Rate>1</Rate>\n" ++
    "\t<Mode>-1</Mode>\n" ++
    "</Request>\n")

/-- `m.group(1)` of a match at the start of the data. -/
def matchDigits (data : Bytes) : Option Bytes :=
  let openTag : Bytes := [0x3c, 0x53, 0x65, 0x73, 0x73, 0x69, 0x6f, 0x6e, 0x3e]
  let closeTag : Bytes := [0x3c, 0x2f, 0x53, 0x65, 0x73, 0x73, 0x69, 0x6f, 0x6e, 0x3e]
  let digits := (data.drop 9).takeWhile fun b => 0x30 ≤ b ∧ b ≤ 0x39
  if openTag <+: data ∧ digits ≠ [] ∧ closeTag <+: data.drop (9 + digits.length) then some digits
  else none

def searchDigits : Bytes → Option Bytes
  | [] => none
  | b :: data => (matchDigits (b :: data)).or (searchDigits data)

def digitsValue (digits : Bytes) : Nat := digits.foldl (fun n b => 10 * n + (b.toNat - 0x30)) 0

private theorem matchSession_eq (data : Bytes) :
    Cloud.matchSession data = (matchDigits data).map digitsValue := by
  simp only [Cloud.matchSession, matchDigits]
  split <;> rfl

private theorem searchSession_eq (data : Bytes) :
    Cloud.searchSession data = (searchDigits data).map digitsValue := by
  induction data with
  | nil => rfl
  | cons b data ih =>
    rw [Cloud.searchSession, searchDigits, matchSession_eq, ih]
    cases matchDigits (b :: data) <;> rfl

/-- `int` refuses to convert more digits than this. -/
def maxStrDigits : Nat := 4300

def parseSession (plain : Bytes) : Except StartError Nat :=
  match searchDigits plain with
  | none => .error (.noSession (plain.take 200))
  | some digits =>
    if maxStrDigits < digits.length then
      .error (.valueError "Exceeds the limit (4300 digits) for integer string conversion")
    else .ok (digitsValue digits)

private theorem searchSession_of_parse {plain : Bytes} {session : Nat}
    (h : parseSession plain = .ok session) : Cloud.searchSession plain = some session := by
  rw [searchSession_eq]
  unfold parseSession at h
  split at h
  · cases h
  · rename_i digits hdigits
    split at h
    · cases h
    · cases h
      rw [hdigits]
      rfl

section

variable {Priv : Type} (cipher : ControlCipher) (md5 : Bytes → Digest)

def perform {α : Type} : Except StartError α → Method Priv α
  | .ok a => pure a
  | .error e => throw e

def call {α : Type} (outcome : Except String α) : Method Priv α :=
  perform (outcome.mapError fun message => .lan (.osError message))

def makeSocket (outcome : Except String Unit) : Method Priv Nat := do
  call outcome
  let w ← get
  set { w with sockets := w.sockets.make }
  return w.sockets.next

/-- The socket is closed even where `close` reports an error. -/
def closeSocket (s : Nat) (outcome : Except String Unit) : Method Priv Unit := do
  modify fun w => { w with sockets := w.sockets.close s }
  call outcome

def discoverLocalIp (net : Network) : Method Priv String := do
  let s ← makeSocket net.udpMade
  call net.udpConnected
  tryFinally (call net.sockname) (closeSocket s net.udpClosed)

/-- `socket.create_connection` closes the sockets that it fails on. -/
def createConnection (c : Connection) : Method Priv Nat := makeSocket c.connected

def request (key : Bytes) (c : Connection) (seq cmd : Nat) (xml : Bytes) :
    Except LanError Bytes := do
  let _ ← buildPacket cipher md5 seq cmd xml key
  c.sent.mapError .osError
  c.timeoutSet.mapError .osError
  let (resp, _) ← recvResponse c.received
  return resp

def sendCmd (key : Bytes) (c : Connection) (seq cmd : Nat) (xml : Bytes) :
    Except LanError (ResponseMeta × Bytes) := do
  let resp ← request cipher md5 key c seq cmd xml
  parseResponse cipher resp key

def exchange (key : Bytes) (c : Connection) (cmd : Nat) (xml : Bytes) :
    Method Priv (ResponseMeta × Bytes) := do
  let s ← createConnection c
  tryFinally (perform ((sendCmd cipher md5 key c 1 cmd xml).mapError .lan)) (closeSocket s c.closed)

def play (key : Bytes) (c : Connection) (xml : Bytes) : Method Priv Unit := do
  let s ← createConnection c
  tryCatch
    (do let _ ← perform ((sendCmd cipher md5 key c 1 0x3105 xml).mapError .lan))
    fun e => do
      closeSocket s c.closed
      throw e
  modify fun w => { w with client := { w.client with playSock := some s } }

/-- `start` of a client that has no socket yet. -/
def handshake (net : Network) (drawn : Drawn Priv) : Method Priv Unit := do
  modify fun w => { w with client := { w.client with
    ecdhPriv := some drawn.keypair.1
    ecdhPubB64 := some drawn.keypair.2 } }
  let myIp ← discoverLocalIp net
  let client := (← get).client
  let _ ← exchange cipher md5 client.aesKey net.init 0x2013 (xmlInit initSessionId)
  let (_, plain) ← exchange cipher md5 client.aesKey net.invite 0x2011
    (xmlInvite client.related client.channel client.encryptStream myIp client.rxPort
      (client.ecdhPubB64.getD "") drawn.timestamp drawn.uuid)
  let session ← perform (parseSession plain)
  play cipher md5 client.aesKey net.play (xmlPlay session)

def start (net : Network) (drawn : Drawn Priv) : Method Priv Unit := do
  if (← get).client.playSock.isSome then throw (.runtimeError "already started")
  else handshake cipher md5 net drawn

/-- It returns with one new socket open, the one that the client keeps, or raises with the sockets
as they were. -/
def Atomic (w w₁ : LanWorld Priv) (m : Method Priv Unit) : Prop :=
  (∃ w' s, m.run w₁ = .ok () w' ∧ w.sockets.next ≤ s ∧ w'.client.playSock = some s ∧
    w'.sockets.live = w.sockets.live ++ [s]) ∨
  ∃ e w', m.run w₁ = .error e w' ∧ w'.client.playSock = w.client.playSock ∧
    w'.sockets.live = w.sockets.live

structure Clean (w w' : LanWorld Priv) : Prop where
  live : w'.sockets.live = w.sockets.live
  next : w.sockets.next ≤ w'.sockets.next
  playSock : w'.client.playSock = w.client.playSock

open EStateM (Keeps)

variable {cipher md5}

@[simp] theorem perform_run {α : Type} (outcome : Except StartError α) (w : LanWorld Priv) :
    (perform outcome).run w = match outcome with
      | .ok a => .ok a w
      | .error e => .error e w := by
  cases outcome <;> rfl

@[simp] theorem perform_left {α : Type} (outcome : Except StartError α) (w : LanWorld Priv) :
    (perform outcome).left w = w := by
  cases outcome <;> rfl

@[simp] theorem call_left {α : Type} (outcome : Except String α) (w : LanWorld Priv) :
    (call outcome).left w = w := perform_left _ w

@[simp] theorem makeSocket_run (outcome : Except String Unit) (w : LanWorld Priv) :
    (makeSocket outcome).run w = match outcome with
      | .ok _ => .ok w.sockets.next { w with sockets := w.sockets.make }
      | .error message => .error (.lan (.osError message)) w := by
  cases outcome <;> rfl

@[simp] theorem closeSocket_left (s : Nat) (outcome : Except String Unit) (w : LanWorld Priv) :
    (closeSocket s outcome).left w = { w with sockets := w.sockets.close s } := by
  cases outcome <;> rfl

variable {w : LanWorld Priv}

theorem Clean.make_close {w₁ : LanWorld Priv} (h : Clean w w₁) :
    Clean w { w₁ with sockets := w₁.sockets.make.close w₁.sockets.next } where
  live := (Sockets.close_make_live _).trans h.live
  next := Nat.le_succ_of_le h.next
  playSock := h.playSock

private theorem discoverLocalIp_keeps {net : Network}
    (h : net.udpMade = .ok () → net.udpConnected = .ok ()) :
    Keeps (Clean w) (discoverLocalIp net) := by
  intro w₁ hw₁
  rw [discoverLocalIp, EStateM.left_bind, makeSocket_run]
  cases hmade : net.udpMade with
  | error message => exact hw₁
  | ok =>
    have hconnected : (call net.udpConnected : Method Priv Unit) = pure () := by
      rw [h hmade]
      rfl
    rw [hconnected]
    simpa [EStateM.left_tryFinally] using hw₁.make_close

private theorem exchange_keeps (key : Bytes) (c : Connection) (cmd : Nat) (xml : Bytes) :
    Keeps (Clean w) (exchange cipher md5 key c cmd xml) := by
  intro w₁ hw₁
  rw [exchange, EStateM.left_bind, createConnection, makeSocket_run]
  cases c.connected with
  | error message => exact hw₁
  | ok =>
    simpa [EStateM.left_tryFinally] using hw₁.make_close

private theorem play_atomic {w₁ : LanWorld Priv} (hw₁ : Clean w w₁) (key : Bytes) (c : Connection)
    (xml : Bytes) : Atomic w w₁ (play cipher md5 key c xml) := by
  cases hconnected : c.connected with
  | error message =>
    exact .inr ⟨.lan (.osError message), w₁, by simp [play, createConnection, hconnected],
      hw₁.playSock, hw₁.live⟩
  | ok =>
    cases hsent : sendCmd cipher md5 key c 1 0x3105 xml with
    | ok reply =>
      left
      refine ⟨{ w₁ with
        sockets := w₁.sockets.make
        client := { w₁.client with playSock := some w₁.sockets.next } }, w₁.sockets.next,
        ?_, hw₁.next, rfl, ?_⟩
      · simp [play, createConnection, hconnected, hsent, Except.mapError]
      · simp [hw₁.live]
    | error e =>
      right
      have hclose := hw₁.make_close
      cases hclosed : c.closed with
      | ok =>
        refine ⟨.lan e, _, ?_, hclose.playSock, hclose.live⟩
        simp [play, createConnection, hconnected, hsent, hclosed, Except.mapError, closeSocket,
          call, perform]
      | error message =>
        refine ⟨.lan (.osError message), _, ?_, hclose.playSock, hclose.live⟩
        simp [play, createConnection, hconnected, hsent, hclosed, Except.mapError, closeSocket,
          call, perform]

theorem Atomic.bind {α : Type} {w₁ : LanWorld Priv} {m : Method Priv α} {f : α → Method Priv Unit}
    (hw₁ : Clean w w₁) (hm : Keeps (Clean w) m)
    (hf : ∀ a w₂, Clean w w₂ → Atomic w w₂ (f a)) : Atomic w w₁ (m >>= f) := by
  have hleft := hm w₁ hw₁
  cases hrun : m.run w₁ with
  | ok a w₂ =>
    rw [EStateM.left_of_ok hrun] at hleft
    rcases hf a w₂ hleft with ⟨w', s, hreturns, hrest⟩ | ⟨e, w', hraises, hrest⟩
    · exact .inl ⟨w', s, by simp [hrun, hreturns], hrest⟩
    · exact .inr ⟨e, w', by simp [hrun, hraises], hrest⟩
  | error e w₂ =>
    rw [EStateM.left_of_error hrun] at hleft
    exact .inr ⟨e, w₂, by simp [hrun], hleft.playSock, hleft.live⟩

theorem handshake_atomic {net : Network} {drawn : Drawn Priv} {w₁ : LanWorld Priv}
    (hudp : net.udpMade = .ok () → net.udpConnected = .ok ()) (hw₁ : Clean w w₁) :
    Atomic w w₁ (handshake cipher md5 net drawn) := by
  refine .bind hw₁ (.modify fun _ hw' => ⟨hw'.live, hw'.next, hw'.playSock⟩) ?_
  intro _ w₂ hw₂
  refine .bind hw₂ (discoverLocalIp_keeps hudp) ?_
  intro myIp w₃ hw₃
  refine .bind hw₃ .get ?_
  intro r w₄ hw₄
  refine .bind hw₄ (exchange_keeps r.client.aesKey net.init _ _) ?_
  intro _ w₅ hw₅
  refine .bind hw₅ (exchange_keeps r.client.aesKey net.invite _ _) ?_
  intro reply w₆ hw₆
  refine .bind hw₆ (fun w' hw' => by rwa [perform_left]) ?_
  intro session w₇ hw₇
  exact play_atomic hw₇ r.client.aesKey net.play (xmlPlay session)

private theorem start_leaks (cipher : ControlCipher) (md5 : Bytes → Digest) {net : Network}
    (drawn : Drawn Priv) {message : String}
    (hfresh : w.client.playSock = none) (hmade : net.udpMade = .ok ())
    (hconnected : net.udpConnected = .error message) :
    ∃ w', (start cipher md5 net drawn).run w = .error (.lan (.osError message)) w' ∧
      w'.sockets.live = w.sockets.live ++ [w.sockets.next] := by
  refine ⟨{
    client := { w.client with
      ecdhPriv := some drawn.keypair.1
      ecdhPubB64 := some drawn.keypair.2 }
    sockets := w.sockets.make }, ?_, rfl⟩
  simp [start, handshake, discoverLocalIp, hfresh, hmade, hconnected, call, Except.mapError]

/-- Only a datagram socket that does not connect is left behind. -/
theorem start_atomic_iff (cipher : ControlCipher) (md5 : Bytes → Digest) (net : Network)
    (drawn : Drawn Priv) (w : LanWorld Priv) :
    Atomic w w (start cipher md5 net drawn) ↔
      (w.client.playSock = none → net.udpMade = .ok () → net.udpConnected = .ok ()) := by
  cases hfresh : w.client.playSock with
  | some s =>
    simp only [reduceCtorEq, false_implies, iff_true]
    exact .inr ⟨.runtimeError "already started", w, by simp [start, hfresh], rfl, rfl⟩
  | none =>
    rw [imp_iff_right rfl]
    constructor
    · intro hatomic hmade
      cases hconnected : net.udpConnected with
      | ok => rfl
      | error message =>
        obtain ⟨w', hrun, hlive⟩ :=
          start_leaks cipher md5 drawn hfresh hmade hconnected
        rcases hatomic with ⟨_, _, hreturns, _⟩ | ⟨_, _, hraises, _, hkept⟩
        · rw [hrun] at hreturns
          cases hreturns
        · rw [hrun] at hraises
          cases hraises
          simp [hlive] at hkept
    · intro hudp
      have hclean : Clean w w := ⟨rfl, Nat.le_refl _, rfl⟩
      refine .bind hclean .get ?_
      intro r w₁ hw₁
      split
      · exact .inr ⟨_, w₁, rfl, hw₁.playSock, hw₁.live⟩
      · exact handshake_atomic hudp hw₁

end

def unreachable : Network :=
  let dead : Connection :=
    ⟨.error "[Errno 101] Network is unreachable", .ok (), .ok (), ⟨[], none, by simp⟩, .ok ()⟩
  ⟨.ok (), .error "[Errno 101] Network is unreachable", .ok "", .ok (), dead, dead, dead⟩

def newClient : LanWorld Unit :=
  ⟨⟨"BE0000000", 1, tinyKey, 10105, true, none, none, none⟩, ⟨[], 0, by simp⟩⟩

theorem not_start_atomic :
    ¬ ∀ (cipher : ControlCipher) (md5 : Bytes → Digest) (net : Network) (drawn : Drawn Unit)
      (w : LanWorld Unit), Atomic w w (start cipher md5 net drawn) := by
  intro hatomic
  let drawn : Drawn Unit := ⟨((), ""), 0, ""⟩
  have hleaks : ∃ w', (start tinyCipher (fun _ => tinyDigest) unreachable drawn).run newClient =
      .error (.lan (.osError "[Errno 101] Network is unreachable")) w' ∧
        w'.sockets.live = newClient.sockets.live ++ [newClient.sockets.next] :=
    start_leaks tinyCipher (fun _ => tinyDigest) drawn rfl rfl rfl
  obtain ⟨w', hrun, hlive⟩ := hleaks
  rcases hatomic tinyCipher (fun _ => tinyDigest) unreachable drawn newClient with
    ⟨_, _, hreturns, _⟩ | ⟨_, _, hraises, _, hkept⟩
  · rw [hrun] at hreturns
    cases hreturns
  · rw [hrun] at hraises
    cases hraises
    simp [hlive] at hkept

section

variable {Priv : Type}

def Network.replies (cipher : ControlCipher) (md5 : Bytes → Digest) (net : Network)
    (drawn : Drawn Priv) (client : Cpd7LanClient Priv) : Cloud.Exchange Priv where
  keypair := drawn.keypair.1
  localIp := do
    net.udpMade
    net.udpConnected
    let _ ← net.sockname
    net.udpClosed
  init := (request cipher md5 client.aesKey net.init 1 0x2013 (xmlInit initSessionId)).mapError
    Cloud.errorText
  invite := (request cipher md5 client.aesKey net.invite 1 0x2011
    (xmlInvite client.related client.channel client.encryptStream "" client.rxPort
      drawn.keypair.2 drawn.timestamp drawn.uuid)).mapError Cloud.errorText
  play session := (request cipher md5 client.aesKey net.play 1 0x3105 (xmlPlay session)).mapError
    Cloud.errorText

variable {cipher : ControlCipher} {md5 : Bytes → Digest}

private theorem sendCmd_reply {key : Bytes} {c : Connection} {seq cmd : Nat} {xml : Bytes}
    {reply : ResponseMeta × Bytes} (h : sendCmd cipher md5 key c seq cmd xml = .ok reply) :
    Cloud.sendCmd cipher key ((request cipher md5 key c seq cmd xml).mapError Cloud.errorText) =
      .ok reply.2 := by
  cases hrequest : request cipher md5 key c seq cmd xml with
  | error e =>
    rw [sendCmd, hrequest] at h
    cases h
  | ok wire =>
    have hparse : parseResponse cipher wire key = .ok reply := by
      rw [sendCmd, hrequest] at h
      exact h
    simp only [Cloud.sendCmd, Except.mapError, hparse, bind, Except.bind]
    rfl

private theorem perform_ok {α : Type} {outcome : Except StartError α} {w w' : LanWorld Priv}
    {a : α} : (perform outcome).run w = .ok a w' ↔ outcome = .ok a ∧ w' = w := by
  cases outcome <;> simp [eq_comm]

private theorem call_ok {α : Type} {outcome : Except String α} {w w' : LanWorld Priv} {a : α} :
    (call outcome).run w = .ok a w' ↔ outcome = .ok a ∧ w' = w := by
  rw [call, perform_ok]
  cases outcome <;> simp [Except.mapError]

private theorem makeSocket_ok {outcome : Except String Unit} {w w' : LanWorld Priv} {s : Nat}
    (h : (makeSocket outcome).run w = .ok s w') : outcome = .ok () ∧ w'.client = w.client := by
  cases outcome with
  | error message => simp at h
  | ok =>
    simp only [makeSocket_run, EStateM.Result.ok.injEq] at h
    exact ⟨rfl, by rw [← h.2]⟩

private theorem closeSocket_ok {s : Nat} {outcome : Except String Unit} {w w' : LanWorld Priv}
    {u : Unit}
    (h : (closeSocket s outcome).run w = .ok u w') : outcome = .ok () ∧ w'.client = w.client := by
  obtain ⟨_, t, hmodify, hcall⟩ := EStateM.run_bind_eq_ok.1 h
  obtain ⟨houtcome, rfl⟩ := call_ok.1 hcall
  cases hmodify
  exact ⟨houtcome, rfl⟩

private theorem discoverLocalIp_ok {net : Network} {w w' : LanWorld Priv} {ip : String}
    (h : (discoverLocalIp net).run w = .ok ip w') :
    net.udpMade = .ok () ∧ net.udpConnected = .ok () ∧ net.sockname = .ok ip ∧
      net.udpClosed = .ok () ∧ w'.client = w.client := by
  obtain ⟨s, w₁, hmake, h⟩ := EStateM.run_bind_eq_ok.1 h
  obtain ⟨_, w₂, hconnect, h⟩ := EStateM.run_bind_eq_ok.1 h
  obtain ⟨w₃, _, hname, hclose⟩ := EStateM.run_tryFinally_eq_ok.1 h
  obtain ⟨hmade, hclient⟩ := makeSocket_ok hmake
  obtain ⟨hconnected, rfl⟩ := call_ok.1 hconnect
  obtain ⟨hnamed, rfl⟩ := call_ok.1 hname
  obtain ⟨hclosed, hclient'⟩ := closeSocket_ok hclose
  exact ⟨hmade, hconnected, hnamed, hclosed, hclient'.trans hclient⟩

private theorem exchange_ok {key : Bytes} {c : Connection} {cmd : Nat} {xml : Bytes}
    {w w' : LanWorld Priv}
    {reply : ResponseMeta × Bytes} (h : (exchange cipher md5 key c cmd xml).run w = .ok reply w') :
    sendCmd cipher md5 key c 1 cmd xml = .ok reply ∧ w'.client = w.client := by
  obtain ⟨s, w₁, hmake, h⟩ := EStateM.run_bind_eq_ok.1 h
  obtain ⟨w₂, _, hsend, hclose⟩ := EStateM.run_tryFinally_eq_ok.1 h
  obtain ⟨hsent, rfl⟩ := perform_ok.1 hsend
  refine ⟨?_, (closeSocket_ok hclose).2.trans (makeSocket_ok hmake).2⟩
  cases hreply : sendCmd cipher md5 key c 1 cmd xml with
  | error e => simp [hreply, Except.mapError] at hsent
  | ok reply' => simpa [hreply, Except.mapError] using hsent

private theorem play_ok {key : Bytes} {c : Connection} {xml : Bytes} {w w' : LanWorld Priv}
    {u : Unit} (h : (play cipher md5 key c xml).run w = .ok u w') :
    (∃ reply, sendCmd cipher md5 key c 1 0x3105 xml = .ok reply) ∧
      w'.client.ecdhPriv = w.client.ecdhPriv := by
  obtain ⟨s, w₁, hmake, h⟩ := EStateM.run_bind_eq_ok.1 h
  have hclient := (makeSocket_ok hmake).2
  cases hsend : sendCmd cipher md5 key c 1 0x3105 xml with
  | ok reply =>
    simp [hsend, Except.mapError] at h
    exact ⟨⟨reply, rfl⟩, by rw [← h, ← hclient]⟩
  | error e =>
    cases hclosed : c.closed <;>
      simp [hsend, hclosed, Except.mapError, closeSocket, call] at h

/-- A start that returns has met the replies of a start that succeeds. -/
theorem lanClientStart_of_start {net : Network} {drawn : Drawn Priv} {w w' : LanWorld Priv}
    (h : (start cipher md5 net drawn).run w = .ok () w') :
    Cloud.lanClientStart cipher w.client.aesKey (net.replies cipher md5 drawn w.client) =
        .ok drawn.keypair.1 ∧
      w'.client.ecdhPriv = some drawn.keypair.1 := by
  obtain ⟨r, w₀, hget, h⟩ := EStateM.run_bind_eq_ok.1 h
  cases hget
  split at h
  · cases h
  · obtain ⟨_, w₁, hmodify, h⟩ := EStateM.run_bind_eq_ok.1 h
    obtain ⟨myIp, w₂, hdiscover, h⟩ := EStateM.run_bind_eq_ok.1 h
    obtain ⟨r, w₃, hget, h⟩ := EStateM.run_bind_eq_ok.1 h
    obtain ⟨initReply, w₄, hinit, h⟩ := EStateM.run_bind_eq_ok.1 h
    obtain ⟨inviteReply, w₅, hinvite, h⟩ := EStateM.run_bind_eq_ok.1 h
    obtain ⟨session, w₆, hparse, hplay⟩ := EStateM.run_bind_eq_ok.1 h
    cases hmodify
    cases hget
    obtain ⟨hmade, hconnected, hnamed, hclosed, hclient⟩ := discoverLocalIp_ok hdiscover
    rw [hclient] at hinit hinvite hplay
    obtain ⟨hinitSent, hclient'⟩ := exchange_ok hinit
    obtain ⟨hinviteSent, hclient''⟩ := exchange_ok hinvite
    obtain ⟨hsession, rfl⟩ := perform_ok.1 hparse
    obtain ⟨⟨playReply, hplaySent⟩, hpriv⟩ := play_ok hplay
    have hsearch := searchSession_of_parse hsession
    let e := net.replies cipher md5 drawn w.client
    have hlocal : e.localIp = .ok () := by
      simp only [e, Network.replies, hmade, hconnected, hnamed, hclosed]
      rfl
    have hinitReply : Cloud.sendCmd cipher w.client.aesKey e.init = .ok initReply.2 :=
      sendCmd_reply hinitSent
    have hinviteReply : Cloud.sendCmd cipher w.client.aesKey e.invite = .ok inviteReply.2 :=
      sendCmd_reply hinviteSent
    have hplayReply : Cloud.sendCmd cipher w.client.aesKey (e.play session) = .ok playReply.2 :=
      sendCmd_reply hplaySent
    constructor
    · change Cloud.lanClientStart cipher w.client.aesKey e = _
      simp only [Cloud.lanClientStart, hlocal, hinitReply, hinviteReply, hsearch, hplayReply,
        Except.mapError, bind, Except.bind]
      rfl
    · rw [hpriv, hclient'', hclient', hclient]

end

end EzvizHp7.Control
