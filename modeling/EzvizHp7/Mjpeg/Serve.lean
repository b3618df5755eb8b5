import EzvizHp7.Cpd7.Crypto
import EzvizHp7.Library.Raising

/-!
# The MJPEG request

`serve_mjpeg` and `_terminate`. Each await gives what the HTTP client, ffmpeg and a cancellation
make of it. Headers and log lines are left out, but for what the last line says of the session.
-/

namespace EzvizHp7.Mjpeg

open Cpd7 (Bytes)

/-- A class that an `except` clause names, another `Exception`, or what only a `finally` sees. -/
inductive Raised
  | cancelledError
  | connectionResetError
  | connectionAbortedError
  | processLookupError
  | timeoutError
  | exception (name : String)
  | baseException (name : String)
  deriving DecidableEq, Repr

def Raised.name? : Raised → Option String
  | .cancelledError => none
  | .connectionResetError => some "ConnectionResetError"
  | .connectionAbortedError => some "ConnectionAbortedError"
  | .processLookupError => some "ProcessLookupError"
  | .timeoutError => some "TimeoutError"
  | .exception name => some name
  | .baseException _ => none

/-- The reads of ffmpeg's output, each with the write that follows it, up to the one that ends
the loop. -/
inductive Reads
  | raised (e : Raised)
  | read (chunk : Bytes) (written : Except Raised Unit) (rest : Reads)

structure Exit where
  returncode : Option Int
  terminated : Except Raised Unit
  waited : Except Raised Unit
  killed : Except Raised Unit
  waitedAgain : Except Raised Unit

structure Behaviour where
  spawned : Except Raised Unit
  prepared : Except Raised Unit
  reads : Reads
  exit : Exit
  drained : Except Raised Unit
  eofWritten : Except Raised Unit

inductive Op
  | spawn
  | prepare
  | createDrainTask
  | write (chunk : Bytes)
  | terminate
  | sigterm
  | exited
  | sigkill
  | cancelDrainTask
  | awaitDrainTask
  | writeEof
  deriving DecidableEq, Repr

structure ActivityStats where
  mjpegSessions : Nat
  errorsMjpeg : Nat
  deriving DecidableEq, Repr

structure Session where
  stats : Option ActivityStats
  totalBytes : Nat
  endReason : String
  ops : List Op
  deriving DecidableEq, Repr

abbrev Method := EStateM Raised Session

def note (op : Op) : Method Unit := modify fun s => { s with ops := s.ops ++ [op] }

def perform (op : Op) : Except Raised Unit → Method Unit
  | .ok () => note op
  | .error e => throw e

/-- The body with an `except` clause, and whether it came to its end. -/
def attempt (caught : List Raised) (body : Method Unit) : Method Bool :=
  tryCatch (do body; return true) fun e => if e ∈ caught then return false else throw e

/-- The body of `_terminate`. -/
def shutDown (x : Exit) : Method Unit := do
  if x.returncode.isSome then return
  if !(← attempt [.processLookupError] (perform .sigterm x.terminated)) then return
  if ← attempt [.timeoutError] (perform .exited x.waited) then return
  if !(← attempt [.processLookupError] (perform .sigkill x.killed)) then return
  let _ ← attempt [.timeoutError] (perform .exited x.waitedAgain)
  return

def terminate (x : Exit) : Method Unit := do
  note .terminate
  shutDown x

/-- The loop, with the reason it ends for. -/
def stream : Reads → Method String
  | .raised e => throw e
  | .read chunk written rest =>
    if chunk = [] then return "ffmpeg_eof"
    else do
      modify fun s => { s with totalBytes := s.totalBytes + chunk.length }
      if ← attempt [.connectionResetError, .connectionAbortedError] (perform (.write chunk) written)
      then stream rest
      else return "client_disconnected"

def countError (s : Session) : Session :=
  { s with stats := s.stats.map fun stats => { stats with errorsMjpeg := stats.errorsMjpeg + 1 } }

/-- The two `except` clauses. -/
def failed (e : Raised) : Method Unit := do
  if e = .cancelledError then modify fun s => { s with endReason := "cancelled" }
  else
    match e.name? with
    | some name => modify fun s => { countError s with endReason := "error:" ++ name }
    | none => pure ()
  throw e

/-- The `finally` clause. -/
def cleanUp (b : Behaviour) : Method Unit := do
  terminate b.exit
  note .cancelDrainTask
  let _ ← attempt [.cancelledError] (perform .awaitDrainTask b.drained)
  let _ ← attempt [.connectionResetError, .connectionAbortedError]
    (perform .writeEof b.eofWritten)
  return

def serveMjpeg (b : Behaviour) : Method Unit := do
  modify fun s => { s with
    stats := s.stats.map fun stats => { stats with mjpegSessions := stats.mjpegSessions + 1 } }
  perform .spawn b.spawned
  perform .prepare b.prepared
  note .createDrainTask
  modify fun s => { s with totalBytes := 0, endReason := "ok" }
  tryFinally
    (tryCatch (do
      let reason ← stream b.reads
      modify fun s => { s with endReason := reason }) failed)
    (cleanUp b)

/-- The session when control has left `serve_mjpeg`. -/
def left (b : Behaviour) (stats : Option ActivityStats) : Session :=
  (serveMjpeg b).left ⟨stats, 0, "ok", []⟩

/-- A process that was spawned is terminated before control leaves. -/
def Terminates (b : Behaviour) (stats : Option ActivityStats) : Prop :=
  .spawn ∈ (left b stats).ops → .terminate ∈ (left b stats).ops

/-- The process is known to be gone, or it was killed. -/
def Gone (x : Exit) (ops : List Op) : Prop :=
  x.returncode.isSome = true ∨ x.terminated = .error .processLookupError ∨ .exited ∈ ops ∨
    x.killed = .error .processLookupError ∨ .sigkill ∈ ops

@[simp] theorem perform_ok (op : Op) (u : Unit) : perform op (.ok u) = note op := rfl

@[simp] theorem perform_error (op : Op) (e : Raised) : perform op (.error e) = throw e := rfl

@[simp] theorem note_run (op : Op) (s : Session) :
    (note op).run s = .ok () { s with ops := s.ops ++ [op] } := rfl

theorem attempt_run (caught : List Raised) (op : Op) (outcome : Except Raised Unit)
    (s : Session) : (attempt caught (perform op outcome)).run s = match outcome with
      | .ok _ => .ok true { s with ops := s.ops ++ [op] }
      | .error e => if e ∈ caught then .ok false s else .error e s := by
  cases outcome with
  | ok => simp [attempt]
  | error e => simp [attempt]

open EStateM (Keeps)

variable {op : Op}

private theorem note_keeps (op' : Op) : Keeps (fun s => op ∈ s.ops) (note op') :=
  .modify fun _ hs => List.mem_append_left [op'] hs

private theorem perform_keeps (op' : Op) (outcome : Except Raised Unit) :
    Keeps (fun s => op ∈ s.ops) (perform op' outcome) := by
  cases outcome with
  | ok => exact note_keeps op'
  | error e => exact .raise e

private theorem attempt_keeps (caught : List Raised) {body : Method Unit}
    (h : Keeps (fun s => op ∈ s.ops) body) : Keeps (fun s => op ∈ s.ops) (attempt caught body) :=
  .tryCatch (.bind h fun _ => .pure true) fun e => .ite (.pure false) (.raise e)

private theorem shutDown_keeps (x : Exit) : Keeps (fun s => op ∈ s.ops) (shutDown x) := by
  have hsignals (caught : List Raised) (op' : Op) (outcome : Except Raised Unit) :
      Keeps (fun s => op ∈ s.ops) (attempt caught (perform op' outcome)) :=
    attempt_keeps caught (perform_keeps op' outcome)
  refine .ite (.pure ()) (.bind (hsignals _ _ _) fun _ => .ite (.pure ()) ?_)
  refine .bind (hsignals _ _ _) fun _ => .ite (.pure ()) ?_
  refine .bind (hsignals _ _ _) fun _ => .ite (.pure ()) ?_
  exact .bind (hsignals _ _ _) fun _ => .pure ()

private theorem terminate_left (x : Exit) (s : Session) : .terminate ∈ ((terminate x).left s).ops :=
  EStateM.left_bind_of (P := fun s : Session => Op.terminate ∈ s.ops) (by simp [EStateM.left])
    fun _ => shutDown_keeps x

private theorem cleanUp_left (b : Behaviour) (s : Session) : .terminate ∈
    ((cleanUp b).left s).ops := by
  refine EStateM.left_bind_of (P := fun s : Session => Op.terminate ∈ s.ops)
    (terminate_left b.exit s) ?_
  intro _
  refine .bind (note_keeps _) fun _ => ?_
  refine .bind (attempt_keeps _ (perform_keeps _ _)) fun _ => ?_
  exact .bind (attempt_keeps _ (perform_keeps _ _)) fun _ => .pure ()

/-- Where `_terminate` returns, ffmpeg is gone or was killed. -/
theorem terminate_gone {x : Exit} {s s' : Session} (h : (terminate x).run s = .ok () s') :
    Gone x s'.ops := by
  cases hcode : x.returncode with
  | some code => exact .inl (by simp [hcode])
  | none =>
    simp only [terminate, shutDown, EStateM.run_bind, note_run, EStateM.run_ite, attempt_run,
      hcode] at h
    cases hterminated : x.terminated with
    | error e =>
      by_cases hgone : e = .processLookupError
      · exact .inr (.inl (by rw [hterminated, hgone]))
      · simp [hterminated, hgone] at h
    | ok =>
      cases hwaited : x.waited with
      | ok =>
        simp [hterminated, hwaited] at h
        exact .inr (.inr (.inl (by simp [← h])))
      | error e =>
        by_cases htimeout : e = .timeoutError
        · cases hkilled : x.killed with
          | error e' =>
            by_cases hgone : e' = .processLookupError
            · exact .inr (.inr (.inr (.inl (by rw [hkilled, hgone]))))
            · simp [hterminated, hwaited, htimeout, hkilled, hgone] at h
          | ok =>
            refine .inr (.inr (.inr (.inr ?_)))
            cases hagain : x.waitedAgain with
            | ok =>
              simp [hterminated, hwaited, htimeout, hkilled, hagain] at h
              simp [← h]
            | error e' =>
              by_cases hstays : e' = .timeoutError
              · simp [hterminated, hwaited, htimeout, hkilled, hagain, hstays] at h
                simp [← h]
              · simp [hterminated, hwaited, htimeout, hkilled, hagain, hstays] at h
        · simp [hterminated, hwaited, htimeout] at h

/-- Only a failing `prepare` leaves the process behind. -/
theorem terminates_iff (b : Behaviour) (stats : Option ActivityStats) :
    Terminates b stats ↔ (b.spawned = .ok () → b.prepared = .ok ()) := by
  cases hspawned : b.spawned with
  | error e => simp [Terminates, left, serveMjpeg, EStateM.left_bind, hspawned]
  | ok =>
    cases hprepared : b.prepared with
    | error e => simp [Terminates, left, serveMjpeg, EStateM.left_bind, hspawned, hprepared]
    | ok =>
      simp [Terminates, left, serveMjpeg, EStateM.left_bind, EStateM.left_tryFinally, hspawned,
        hprepared, cleanUp_left]

def goneEarly : Behaviour where
  spawned := .ok ()
  prepared := .error .connectionResetError
  reads := .read [] (.ok ()) (.raised .cancelledError)
  exit := ⟨none, .ok (), .ok (), .ok (), .ok ()⟩
  drained := .ok ()
  eofWritten := .ok ()

theorem not_terminates :
    ¬ ∀ (b : Behaviour) (stats : Option ActivityStats), Terminates b stats := by
  intro hterminates
  have hops : (left goneEarly none).ops = [.spawn] := rfl
  have hleft := hterminates goneEarly none
  simp [Terminates, hops] at hleft

end EzvizHp7.Mjpeg
