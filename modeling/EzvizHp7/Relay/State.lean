import EzvizHp7.Cpd7.Decoder
import EzvizHp7.Library.Journal
import EzvizHp7.Relay.Buffer
import Mathlib.Logic.Function.Basic

/-!
# The relay's state

The fields of `CpdMpegPsRelay`, the coroutines that are suspended somewhere in it, the objects
they hold on to, and a history of what was decoded and written. Every coroutine is described by
the await it is suspended at. Sessions are numbered by the LAN clients that were constructed, so
one number names a session's LAN client, its decoder and its pump task.
-/

namespace EzvizHp7.Relay

open Cpd7 (Bytes Cpd7Decoder)

abbrev SessionId := Nat
abbrev ClientId := Nat
abbrev TimerId := Nat
abbrev ServerId := Nat

structure Prewarm where
  holdSeconds : Rat
  trigger : String
  deriving DecidableEq, Repr

inductive Opener
  | prewarm (p : Prewarm)
  | client (c : ClientId)
  deriving DecidableEq, Repr

inductive Closer
  | opener (o : Opener)
  | timer
  | stop
  deriving DecidableEq, Repr

/-- Where the coroutine that holds `_state_lock` is suspended. -/
inductive Holder
  | fetchingKey (o : Opener) (host related : String)
  | starting (o : Opener) (n : SessionId)
  | started (o : Opener) (n : SessionId)
  | awaitingPump (k : Closer) (n : SessionId)
  | closingLan (k : Closer) (n : SessionId)
  | closedLan (k : Closer) (n : SessionId)
  | rejecting (c : ClientId)
  deriving DecidableEq, Repr

/-- The pump task, with its local `lan` and `decoder`. A cancelled one has only its exit left. -/
inductive PumpPc
  | absent
  | created
  | reading (lan decoder : SessionId)
  | draining (lan decoder : SessionId) (c : ClientId)
  | cancelling
  | done
  deriving DecidableEq, Repr

/-- `_handle_client`, from the connection to its return. -/
inductive ClientPc
  | absent
  | connecting
  | opening
  | awaitingKeyframe
  | awaitingSnapshot (byEvent : Bool)
  | flushing
  | awaitingRegister
  | streaming
  | leaving
  | closing
  | done
  deriving DecidableEq, Repr

structure ActivityStats where
  lanSessionsStarted : Nat
  lanSessionsFailed : Nat
  lanSessionTotalBytes : Nat
  lanSessionTotalSeconds : Rat
  relayClientsAttached : Nat
  relayClientsAttachedWarm : Nat
  prewarmsTriggered : Nat
  prewarmsDueToMotion : Nat
  prewarmsDueToAlarm : Nat
  prewarmsSkippedAlreadyWarm : Nat
  errorsLan : Nat
  errorsRelayPump : Nat
  deriving DecidableEq, Repr

/-- Who a decoded chunk was meant for: the registered writer and whether its transport was
closing. -/
structure Audience where
  writer : Option ClientId
  closing : Bool
  deriving DecidableEq, Repr

/-- What was written to one client, and when it took its snapshot and registered, counted in
chunks produced so far. -/
structure ViewerLog where
  received : List (Journal.Piece UInt8)
  burst : Option (Journal.Piece UInt8)
  snapshotAt : Nat
  snapshotLan : Option SessionId
  registeredAt : Option Nat

def ViewerLog.empty : ViewerLog := ⟨[], none, 0, none, none⟩

/-- The session fields and the tasks and objects they refer to. -/
structure Core (Priv : Type) where
  lan : Option SessionId
  decoder : Option SessionId
  pumpTask : Option SessionId
  buffer : Bytes
  writer : Option ClientId
  keyframeSeen : Bool
  sessionStartedAt : Rat
  sessionBytes : Nat
  clients : ClientId → ClientPc
  nextClient : ClientId
  pumps : SessionId → PumpPc
  nextSession : SessionId
  lanPriv : SessionId → Option Priv
  /-- From the success of `start()` until `close()` is called. -/
  lanOpen : SessionId → Bool
  decoders : SessionId → Option (Cpd7Decoder Priv)

structure World (Priv : Type) extends Core Priv where
  /-- The holder of `_state_lock`. -/
  lock : Option Holder
  server : Option ServerId
  port : Nat
  stateListener : Bool
  closeHandle : Option TimerId
  stats : Option ActivityStats
  /-- Coroutines waiting for the lock before their first critical section. -/
  prewarms : List Prewarm
  closers : Nat
  stopsWaiting : Nat
  /-- Calls of `async_start` and `async_stop` suspended at the server. -/
  startsBinding : Nat
  stopsClosing : Nat
  /-- Timers that have neither fired nor been cancelled. -/
  timers : List TimerId
  nextTimer : TimerId
  listening : List ServerId
  nextServer : ServerId
  transportClosing : ClientId → Bool
  clock : Rat
  /-- The properties the listener last saw. -/
  observed : Option (Bool × Bool)
  failures : List String
  /-- An `async_stop` of a started relay has returned and no `async_start` was called since. -/
  stopped : Bool
  produced : List (Journal.Entry UInt8 Audience)
  logs : ClientId → ViewerLog

def World.initial (Priv : Type) (stats : Option ActivityStats) (clock : Rat) : World Priv where
  server := none
  port := 0
  stateListener := false
  lan := none
  decoder := none
  pumpTask := none
  buffer := []
  writer := none
  closeHandle := none
  keyframeSeen := false
  sessionStartedAt := 0
  sessionBytes := 0
  stats := stats
  lock := none
  prewarms := []
  closers := 0
  stopsWaiting := 0
  startsBinding := 0
  stopsClosing := 0
  clients := fun _ => .absent
  nextClient := 0
  pumps := fun _ => .absent
  nextSession := 0
  lanPriv := fun _ => none
  lanOpen := fun _ => false
  decoders := fun _ => none
  timers := []
  nextTimer := 0
  listening := []
  nextServer := 0
  transportClosing := fun _ => false
  clock := clock
  observed := none
  failures := []
  stopped := false
  produced := []
  logs := fun _ => .empty

variable {Priv : Type}

def Core.hasActiveViewer (w : Core Priv) : Bool := w.writer.isSome

def Core.isPumpAlive (w : Core Priv) : Bool := w.pumpTask.any fun n => w.pumps n ≠ .done

def Core.isWarm (w : Core Priv) : Bool := w.isPumpAlive

theorem isPumpAlive_iff (w : Core Priv) :
    w.isPumpAlive = true ↔ ∃ n, w.pumpTask = some n ∧ w.pumps n ≠ .done := by
  simp [Core.isPumpAlive, Option.any_eq_true]

/-- Admitted and not yet registered: the first critical section is left, `_writer` not set. -/
def ClientPc.Attaching : ClientPc → Prop
  | .awaitingKeyframe | .awaitingSnapshot _ | .flushing | .awaitingRegister => True
  | _ => False

/-- Between the admission and the end of the handler. -/
def ClientPc.Admitted : ClientPc → Prop
  | .absent | .connecting | .opening | .done => False
  | _ => True

def ClientPc.Registered : ClientPc → Prop
  | .streaming | .leaving => True
  | _ => False

def PumpPc.Running : PumpPc → Prop
  | .created | .reading _ _ | .draining _ _ _ => True
  | _ => False

theorem ClientPc.Attaching.admitted {pc : ClientPc} (h : pc.Attaching) : pc.Admitted := by
  cases pc <;> trivial

theorem ClientPc.Registered.admitted {pc : ClientPc} (h : pc.Registered) : pc.Admitted := by
  cases pc <;> trivial

instance (pc : ClientPc) : Decidable pc.Attaching := by
  cases pc <;> unfold ClientPc.Attaching <;> infer_instance

instance (pc : ClientPc) : Decidable pc.Admitted := by
  cases pc <;> unfold ClientPc.Admitted <;> infer_instance

def Opener.client? : Opener → Option ClientId
  | .prewarm _ => none
  | .client c => some c

def Closer.client? : Closer → Option ClientId
  | .opener o => o.client?
  | _ => none

def Holder.client? : Holder → Option ClientId
  | .fetchingKey o _ _ | .starting o _ | .started o _ => o.client?
  | .awaitingPump k _ | .closingLan k _ | .closedLan k _ => k.client?
  | .rejecting c => some c

def Holder.opener? : Holder → Option Opener
  | .fetchingKey o _ _ | .starting o _ | .started o _ => some o
  | _ => none

end EzvizHp7.Relay
