import EzvizHp7.Library.Transition
import EzvizHp7.Relay.State

/-!
# The relay's coroutines

Every definition is what one coroutine does from an await to the next; the code in between is
atomic. An action is enabled where its coroutine can resume: a coroutine that waits for
`_state_lock` resumes when the lock is free, in any order, and releasing the lock is not an
await. Cancellation of the callers is left out, the pump's by `_teardown_upstream` is in.
-/

namespace EzvizHp7.Relay

open Cpd7 (Bytes Cpd7Decoder Crypto KeyframeGate absorbPlain feed take)

def postClientGraceSeconds : Rat := 5

variable {Priv Pub : Type}

namespace World

def bump (f : ActivityStats → ActivityStats) (w : World Priv) : World Priv :=
  { w with stats := w.stats.map f }

def notifyStateChange (w : World Priv) : World Priv :=
  { w with
    observed :=
      if w.stateListener then some (w.hasActiveViewer, w.isWarm) else w.observed }

def cancelClose (w : World Priv) : World Priv :=
  { w with
    closeHandle := none
    timers :=
      match w.closeHandle with
      | some t => w.timers.filter (· ≠ t)
      | none => w.timers }

/-- Nothing is armed for a delay that is not positive. -/
def rescheduleClose (seconds : Rat) (w : World Priv) : World Priv :=
  if seconds ≤ 0 then w.cancelClose
  else
    { w.cancelClose with
      closeHandle := some w.nextTimer
      timers := w.nextTimer :: w.cancelClose.timers
      nextTimer := w.nextTimer + 1 }

/-- The caller goes on: a failed opening releases the lock, a failed handler first closes its
client's transport under it. -/
def teardownReturn (k : Closer) (w : World Priv) : World Priv :=
  match k with
  | .opener (.client c) =>
    { w with
      lock := some (.rejecting c)
      transportClosing := Function.update w.transportClosing c true }
  | .opener (.prewarm _) => { w with lock := none }
  | .timer => { w with lock := none }
  | .stop => { w with lock := none, stopped := true }

def teardownDetach (k : Closer) (w : World Priv) : World Priv :=
  let detached := { w with lan := none, decoder := none, buffer := [], keyframeSeen := false }
  match w.lan with
  | some n => { detached with lock := some (.closingLan k n) }
  | none => teardownReturn k (notifyStateChange detached)

/-- It suspends at the cancelled pump and at `lan.close`, and then returns to the coroutine that
called it. -/
def teardownUpstream (k : Closer) (w : World Priv) : World Priv :=
  let detached := { w.cancelClose with pumpTask := none }
  match w.pumpTask with
  | some n =>
    if w.pumps n = .done then teardownDetach k detached
    else
      { detached with
        pumps := Function.update w.pumps n .cancelling
        lock := some (.awaitingPump k n) }
  | none => teardownDetach k detached

def pumpJoined (k : Closer) (w : World Priv) : World Priv := teardownDetach k w

def lanClose (k : Closer) (n : SessionId) (w : World Priv) : World Priv :=
  { w with lanOpen := Function.update w.lanOpen n false, lock := some (.closedLan k n) }

def lanClosed (k : Closer) (w : World Priv) : World Priv :=
  let duration := if w.sessionStartedAt ≠ 0 then w.clock - w.sessionStartedAt else 0
  let counted :=
    if w.sessionStartedAt ≠ 0 then
      w.bump fun s =>
        { s with
          lanSessionTotalSeconds := s.lanSessionTotalSeconds + duration
          lanSessionTotalBytes := s.lanSessionTotalBytes + w.sessionBytes }
    else w
  teardownReturn k (notifyStateChange { counted with sessionStartedAt := 0, sessionBytes := 0 })

/-- The errors `_spin_up_upstream` raises before its first await. -/
def upstreamAddress (host related : String) : Except String Unit :=
  if host = "" ∨ host = "0.0.0.0" then .error "doorbell LAN IP unknown"
  else if related = "" then .error "related-device sub-serial unknown"
  else .ok ()

/-- The check of `Cpd7LanClient.__init__`. -/
def checkAesKey (key : Bytes) : Except String Unit :=
  if key.length ≠ 16 then
    .error ("AES-128 control key must be 16 ASCII bytes, got " ++ toString key.length)
  else .ok ()

/-- Either caller counts the failure and tears down. -/
def spinUpFailed (o : Opener) (error : String) (w : World Priv) : World Priv :=
  let counted := w.bump fun s =>
    { s with errorsLan := s.errorsLan + 1, lanSessionsFailed := s.lanSessionsFailed + 1 }
  teardownUpstream (.opener o) { counted with failures := w.failures ++ [error] }

def spinUpUpstream (o : Opener) (host related : String) (w : World Priv) : World Priv :=
  match upstreamAddress host related with
  | .error e => spinUpFailed o e w
  | .ok () => { w with lock := some (.fetchingKey o host related) }

def keyFetched (o : Opener) (key : Except String Bytes) (w : World Priv) : World Priv :=
  match key with
  | .error e => spinUpFailed o e w
  | .ok key =>
    match checkAesKey key with
    | .error e => spinUpFailed o e w
    | .ok () =>
      { w with nextSession := w.nextSession + 1, lock := some (.starting o w.nextSession) }

def lanStart (o : Opener) (n : SessionId) (priv : Except String Priv) (w : World Priv) :
    World Priv :=
  match priv with
  | .error e => spinUpFailed o e w
  | .ok priv =>
    { w with
      lanPriv := Function.update w.lanPriv n (some priv)
      lanOpen := Function.update w.lanOpen n true
      lock := some (.started o n) }

/-- The rest of `_spin_up_upstream`. -/
def attachSession (n : SessionId) (w : World Priv) : World Priv :=
  notifyStateChange
    { w.bump fun s => { s with lanSessionsStarted := s.lanSessionsStarted + 1 } with
      lan := some n
      decoder := some n
      decoders := Function.update w.decoders n ((w.lanPriv n).map Cpd7Decoder.fresh)
      buffer := []
      pumpTask := some n
      pumps := Function.update w.pumps n .created
      sessionStartedAt := w.clock
      sessionBytes := 0 }

/-- And of its caller's critical section. -/
def lanStarted (o : Opener) (n : SessionId) (w : World Priv) : World Priv :=
  match o with
  | .prewarm p => { (w.attachSession n).rescheduleClose p.holdSeconds with lock := none }
  | .client c =>
    { (w.attachSession n).cancelClose with
      lock := none
      clients := Function.update w.clients c .awaitingKeyframe }

def asyncStart (w : World Priv) : World Priv :=
  if w.server.isSome then { w with stopped := false }
  else { w with startsBinding := w.startsBinding + 1, stopped := false }

/-- A server is bound; without a socket it is kept and `async_start` raises. -/
def serverBound (port : Option Nat) (w : World Priv) : World Priv :=
  { w with
    startsBinding := w.startsBinding - 1
    server := some w.nextServer
    listening := w.nextServer :: w.listening
    nextServer := w.nextServer + 1
    port := port.getD w.port }

def serverFailed (w : World Priv) : World Priv :=
  { w with startsBinding := w.startsBinding - 1 }

def asyncStop (w : World Priv) : World Priv :=
  match w.server with
  | none => w
  | some s =>
    { w with listening := w.listening.filter (· ≠ s), stopsClosing := w.stopsClosing + 1 }

def serverClosed (w : World Priv) : World Priv :=
  { w with
    stopsClosing := w.stopsClosing - 1
    stopsWaiting := w.stopsWaiting + 1
    server := none
    port := 0 }

def stopEnter (w : World Priv) : World Priv :=
  teardownUpstream .stop { w with stopsWaiting := w.stopsWaiting - 1 }

def asyncPrewarm (p : Prewarm) (w : World Priv) : World Priv :=
  { w with prewarms := p :: w.prewarms }

def prewarmEnter (p : Prewarm) (host related : String) (w : World Priv) : World Priv :=
  let counted := { w with prewarms := w.prewarms.erase p }.bump fun s =>
    { s with
      prewarmsTriggered := s.prewarmsTriggered + 1
      prewarmsDueToMotion := s.prewarmsDueToMotion + if p.trigger = "motion" then 1 else 0
      prewarmsDueToAlarm := s.prewarmsDueToAlarm + if p.trigger = "alarm" then 1 else 0 }
  if w.isPumpAlive then
    (counted.bump fun s =>
      { s with prewarmsSkippedAlreadyWarm := s.prewarmsSkippedAlreadyWarm + 1 }).rescheduleClose
        p.holdSeconds
  else spinUpUpstream (.prewarm p) host related counted

def connect (w : World Priv) : World Priv :=
  { w.bump fun s => { s with relayClientsAttached := s.relayClientsAttached + 1 } with
    clients := Function.update w.clients w.nextClient .connecting
    nextClient := w.nextClient + 1 }

/-- What the handler does with a snapshot: write the burst and wait for the drain, or go on
with nothing to write. -/
def writeBurst (c : ClientId) (otherwise : ClientPc) (w : World Priv) : World Priv :=
  let burst := snapshotBufferForNewClient w.buffer
  let log := w.logs c
  if burst = [] then
    { w with
      clients := Function.update w.clients c otherwise
      logs := Function.update w.logs c
        { log with snapshotAt := w.produced.length, snapshotLan := w.lan } }
  else
    let piece := Journal.tail (w.lan.getD 0) w.produced burst
    { w with
      clients := Function.update w.clients c .flushing
      logs := Function.update w.logs c
        { log with
          received := log.received ++ [piece]
          burst := some piece
          snapshotAt := w.produced.length
          snapshotLan := w.lan } }

def clientEnter (c : ClientId) (host related : String) (w : World Priv) : World Priv :=
  if w.isPumpAlive then
    writeBurst c .awaitingKeyframe (w.bump fun s =>
      { s with relayClientsAttachedWarm := s.relayClientsAttachedWarm + 1 }).cancelClose
  else
    spinUpUpstream (.client c) host related
      { w with clients := Function.update w.clients c .opening }

/-- `writer.wait_closed()` after a failed opening, still under the lock. -/
def clientRejected (c : ClientId) (w : World Priv) : World Priv :=
  { w with lock := none, clients := Function.update w.clients c .done }

def keyframeWaited (c : ClientId) (byEvent : Bool) (w : World Priv) : World Priv :=
  { w with clients := Function.update w.clients c (.awaitingSnapshot byEvent) }

def clientSnapshot (c : ClientId) (w : World Priv) : World Priv :=
  writeBurst c .awaitingRegister w

/-- The drain of the burst; where it raises the connection is lost and the handler leaves. -/
def clientFlushed (c : ClientId) (ok : Bool) (w : World Priv) : World Priv :=
  if ok then { w with clients := Function.update w.clients c .awaitingRegister }
  else
    { w with
      clients := Function.update w.clients c .leaving
      transportClosing := Function.update w.transportClosing c true }

def clientRegister (c : ClientId) (w : World Priv) : World Priv :=
  notifyStateChange
    { w with
      writer := some c
      clients := Function.update w.clients c .streaming
      logs := Function.update w.logs c
        { w.logs c with registeredAt := some w.produced.length } }

def clientEof (c : ClientId) (w : World Priv) : World Priv :=
  { w with clients := Function.update w.clients c .leaving }

def clientLeave (c : ClientId) (w : World Priv) : World Priv :=
  let left :=
    if w.writer = some c then
      notifyStateChange ({ w with writer := none }.rescheduleClose postClientGraceSeconds)
    else w
  { left with
    clients := Function.update w.clients c .closing
    transportClosing := Function.update w.transportClosing c true }

def clientClosed (c : ClientId) (w : World Priv) : World Priv :=
  { w with clients := Function.update w.clients c .done }

def transportLost (c : ClientId) (w : World Priv) : World Priv :=
  { w with transportClosing := Function.update w.transportClosing c true }

def timerFires (t : TimerId) (w : World Priv) : World Priv :=
  { w with timers := w.timers.filter (· ≠ t), closers := w.closers + 1 }

def maybeCloseUpstream (w : World Priv) : World Priv :=
  let entered := { w with closers := w.closers - 1, closeHandle := none }
  if w.writer.isSome then entered
  else if w.isPumpAlive then teardownUpstream .timer entered
  else entered

/-- The pump's first step: it picks up the session's objects. -/
def pumpStart (n : SessionId) (w : World Priv) : World Priv :=
  match w.lan, w.decoder with
  | some lan, some decoder =>
    { w with pumps := Function.update w.pumps n (.reading lan decoder) }
  | _, _ => { w with pumps := Function.update w.pumps n .done }

def pumpError (n : SessionId) (w : World Priv) : World Priv :=
  { w.bump fun s => { s with errorsRelayPump := s.errorsRelayPump + 1 } with
    pumps := Function.update w.pumps n .done }

/-- A decoded chunk: the buffer, the keyframe event and the live write, up to the drain. -/
def pumpChunk (n lan decoder : SessionId) (plain : Bytes) (w : World Priv) : World Priv :=
  let buffer := extendBuffer bufferTrimTarget w.buffer plain
  let lastKf := rfindLastKeyframe buffer
  let closing := w.writer.any w.transportClosing
  let entry := Journal.next n w.produced plain ⟨w.writer, closing⟩
  let absorbed :=
    { w with
      buffer := buffer
      sessionBytes := w.sessionBytes + plain.length
      keyframeSeen :=
        w.keyframeSeen || (0 ≤ lastKf ∧ keyframeMinTailBytes ≤ buffer.length - lastKf : Bool)
      produced := w.produced ++ [entry] }
  match w.writer with
  | some c =>
    if w.transportClosing c then
      { absorbed with pumps := Function.update w.pumps n (.reading lan decoder) }
    else
      { absorbed with
        pumps := Function.update w.pumps n (.draining lan decoder c)
        logs := Function.update w.logs c
          { w.logs c with received := (w.logs c).received ++ [entry.piece] } }
  | none => { absorbed with pumps := Function.update w.pumps n (.reading lan decoder) }

variable (crypto : Crypto Priv Pub)

/-- `read_chunk` returns: nothing at the end of the stream or a read timeout. -/
def pumpRead (n lan decoder : SessionId) (raw : Except String Bytes) (w : World Priv) :
    World Priv :=
  match raw with
  | .error _ => pumpError n w
  | .ok [] => { w with pumps := Function.update w.pumps n .done }
  | .ok raw =>
    match (w.decoders decoder).map (feed crypto absorbPlain · raw) with
    | some (.ok d) =>
      let (plain, d) := take d
      let fed := { w with decoders := Function.update w.decoders decoder (some d) }
      if plain = [] then fed else pumpChunk n lan decoder plain fed
    | _ => pumpError n w

/-- How `writer.drain()` ends in the pump. -/
inductive Drained
  | ok
  | brokenPipe
  | raised
  deriving DecidableEq, Repr

/-- A broken pipe or a reset unregisters the writer if it is still the same; any other
exception ends the pump. -/
def pumpDrained (n lan decoder : SessionId) (c : ClientId) (drained : Drained)
    (w : World Priv) : World Priv :=
  match drained with
  | .ok => { w with pumps := Function.update w.pumps n (.reading lan decoder) }
  | .brokenPipe =>
    let reading :=
      { w with
        pumps := Function.update w.pumps n (.reading lan decoder)
        transportClosing := Function.update w.transportClosing c true }
    if w.writer = some c then notifyStateChange { reading with writer := none } else reading
  | .raised => pumpError n w

def pumpCancelled (n : SessionId) (w : World Priv) : World Priv :=
  { w with pumps := Function.update w.pumps n .done }

end World

inductive Action (Priv : Type)
  | setStateListener (on : Bool)
  | asyncStart
  | serverBound (port : Option Nat)
  | serverFailed
  | asyncStop
  | serverClosed
  | stopEnter
  | asyncPrewarm (p : Prewarm)
  | prewarmEnter (p : Prewarm) (host related : String)
  | keyFetched (o : Opener) (host related : String) (key : Except String Bytes)
  | lanStart (o : Opener) (n : SessionId) (priv : Except String Priv)
  | lanStarted (o : Opener) (n : SessionId)
  | pumpJoined (k : Closer) (n : SessionId)
  | lanClose (k : Closer) (n : SessionId)
  | lanClosed (k : Closer) (n : SessionId)
  | connect
  | clientEnter (c : ClientId) (host related : String)
  | clientRejected (c : ClientId)
  | keyframeWaited (c : ClientId) (byEvent : Bool)
  | clientSnapshot (c : ClientId) (byEvent : Bool)
  | clientFlushed (c : ClientId) (ok : Bool)
  | clientRegister (c : ClientId)
  | clientEof (c : ClientId)
  | clientLeave (c : ClientId)
  | clientClosed (c : ClientId)
  | transportLost (c : ClientId)
  | timerFires (t : TimerId)
  | maybeCloseUpstream
  | pumpStart (n : SessionId)
  | pumpRead (n lan decoder : SessionId) (raw : Except String Bytes)
  | pumpDrained (n lan decoder : SessionId) (c : ClientId) (drained : World.Drained)
  | pumpCancelled (n : SessionId)
  | clockAdvances (seconds : Rat)

/-- Where a coroutine can resume. -/
def Action.Enabled (w : World Priv) : Action Priv → Prop
  | .setStateListener _ | .asyncStart | .asyncStop | .asyncPrewarm _ => True
  | .serverBound _ | .serverFailed => 0 < w.startsBinding
  | .serverClosed => 0 < w.stopsClosing
  | .stopEnter => w.lock = none ∧ 0 < w.stopsWaiting
  | .prewarmEnter p _ _ => w.lock = none ∧ p ∈ w.prewarms
  | .keyFetched o host related _ => w.lock = some (.fetchingKey o host related)
  | .lanStart o n _ => w.lock = some (.starting o n)
  | .lanStarted o n => w.lock = some (.started o n)
  | .pumpJoined k n => w.lock = some (.awaitingPump k n) ∧ w.pumps n = .done
  | .lanClose k n => w.lock = some (.closingLan k n)
  | .lanClosed k n => w.lock = some (.closedLan k n)
  | .connect => w.listening ≠ []
  | .clientEnter c _ _ => w.lock = none ∧ w.clients c = .connecting
  | .clientRejected c => w.lock = some (.rejecting c)
  | .keyframeWaited c byEvent =>
    w.clients c = .awaitingKeyframe ∧ (byEvent = true → w.keyframeSeen = true)
  | .clientSnapshot c byEvent => w.lock = none ∧ w.clients c = .awaitingSnapshot byEvent
  | .clientFlushed c _ => w.clients c = .flushing
  | .clientRegister c => w.lock = none ∧ w.clients c = .awaitingRegister
  | .clientEof c => w.clients c = .streaming
  | .clientLeave c => w.lock = none ∧ w.clients c = .leaving
  | .clientClosed c => w.clients c = .closing
  | .transportLost c => w.clients c ≠ .absent
  | .timerFires t => t ∈ w.timers
  | .maybeCloseUpstream => w.lock = none ∧ 0 < w.closers
  | .pumpStart n => w.pumps n = .created
  | .pumpRead n lan decoder _ => w.pumps n = .reading lan decoder
  | .pumpDrained n lan decoder c _ => w.pumps n = .draining lan decoder c
  | .pumpCancelled n => w.pumps n = .cancelling
  | .clockAdvances seconds => 0 ≤ seconds

def Action.next (crypto : Crypto Priv Pub) (w : World Priv) : Action Priv → World Priv
  | .setStateListener on => { w with stateListener := on }
  | .asyncStart => w.asyncStart
  | .serverBound port => w.serverBound port
  | .serverFailed => w.serverFailed
  | .asyncStop => w.asyncStop
  | .serverClosed => w.serverClosed
  | .stopEnter => w.stopEnter
  | .asyncPrewarm p => w.asyncPrewarm p
  | .prewarmEnter p host related => w.prewarmEnter p host related
  | .keyFetched o _ _ key => w.keyFetched o key
  | .lanStart o n priv => w.lanStart o n priv
  | .lanStarted o n => w.lanStarted o n
  | .pumpJoined k _ => w.pumpJoined k
  | .lanClose k n => w.lanClose k n
  | .lanClosed k _ => w.lanClosed k
  | .connect => w.connect
  | .clientEnter c host related => w.clientEnter c host related
  | .clientRejected c => w.clientRejected c
  | .keyframeWaited c byEvent => w.keyframeWaited c byEvent
  | .clientSnapshot c _ => w.clientSnapshot c
  | .clientFlushed c ok => w.clientFlushed c ok
  | .clientRegister c => w.clientRegister c
  | .clientEof c => w.clientEof c
  | .clientLeave c => w.clientLeave c
  | .clientClosed c => w.clientClosed c
  | .transportLost c => w.transportLost c
  | .timerFires t => w.timerFires t
  | .maybeCloseUpstream => w.maybeCloseUpstream
  | .pumpStart n => w.pumpStart n
  | .pumpRead n lan decoder raw => w.pumpRead crypto n lan decoder raw
  | .pumpDrained n lan decoder c drained => w.pumpDrained n lan decoder c drained
  | .pumpCancelled n => w.pumpCancelled n
  | .clockAdvances seconds => { w with clock := w.clock + seconds }

instance (w : World Priv) (a : Action Priv) : Decidable (a.Enabled w) := by
  induction a using Action.casesOn <;> unfold Action.Enabled <;> infer_instance

/-- A fresh relay; the monotonic clock has been running. -/
def relay (crypto : Crypto Priv Pub) : Transition.System (World Priv) (Action Priv) where
  init w := ∃ stats clock, 0 < clock ∧ w = World.initial Priv stats clock
  step a w := if a.Enabled w then some (a.next crypto w) else none

variable {crypto : Crypto Priv Pub}

theorem relay_step {a : Action Priv} {w w' : World Priv} :
    (relay crypto).step a w = some w' ↔ a.Enabled w ∧ a.next crypto w = w' := by
  simp [relay]

/-- A property of a fresh relay that every allowed enabled action keeps. -/
theorem relay_invariant {allowed : World Priv → Action Priv → Prop} {P : World Priv → Prop}
    (hinit : ∀ stats clock, 0 < clock → P (World.initial Priv stats clock))
    (hnext : ∀ w a, (relay crypto).ReachableUnder allowed w → P w → allowed w a →
      a.Enabled w → P (a.next crypto w))
    {w : World Priv} (h : (relay crypto).ReachableUnder allowed w) : P w := by
  refine h.invariant ?_ fun w a w' hw hP hallowed hstep => ?_
  · intro _ hx
    obtain ⟨stats, clock, hclock, rfl⟩ := hx
    exact hinit stats clock hclock
  · obtain ⟨henabled, rfl⟩ := relay_step.mp hstep
    exact hnext w a hw hP hallowed henabled

end EzvizHp7.Relay
