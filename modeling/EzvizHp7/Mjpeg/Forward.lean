import EzvizHp7.Mjpeg.Serve

/-!
# What the browser is sent

The response body of an MJPEG request is a prefix of what ffmpeg writes, and the log line and the
counters tell of the session what became of it.
-/

namespace EzvizHp7.Mjpeg

open Cpd7 (Bytes)
open EStateM (Keeps)

namespace Reads

/-- What ffmpeg writes, whether or not it is read. -/
def output : Reads → List Bytes
  | .raised _ => []
  | .read chunk _ rest => chunk :: rest.output

def received : Reads → List Bytes
  | .raised _ => []
  | .read chunk written rest =>
    if chunk = [] then []
    else
      match written with
      | .ok () => chunk :: rest.received
      | .error _ => [chunk]

def forwarded : Reads → List Bytes
  | .raised _ => []
  | .read chunk written rest =>
    if chunk = [] then []
    else
      match written with
      | .ok () => chunk :: rest.forwarded
      | .error _ => []

def ending : Reads → Except Raised String
  | .raised e => .error e
  | .read chunk written rest =>
    if chunk = [] then .ok "ffmpeg_eof"
    else
      match written with
      | .ok () => rest.ending
      | .error e =>
        if e ∈ [.connectionResetError, .connectionAbortedError] then .ok "client_disconnected"
        else .error e

theorem forwarded_front (reads : Reads) : reads.forwarded <+: reads.output := by
  induction reads with
  | raised e => simp [forwarded]
  | read chunk written rest ih =>
    by_cases hend : chunk = []
    · simp [forwarded, hend]
    · cases written with
      | ok => simpa [forwarded, output, hend] using ih
      | error e => simp [forwarded, hend]

end Reads

def Session.streamed (s : Session) (reads : Reads) : Session :=
  { s with
    totalBytes := s.totalBytes + reads.received.flatten.length
    ops := s.ops ++ reads.forwarded.map Op.write }

private theorem stream_run (reads : Reads) (s : Session) :
    (stream reads).run s = match reads.ending with
      | .ok reason => .ok reason (s.streamed reads)
      | .error e => .error e (s.streamed reads) := by
  induction reads generalizing s with
  | raised e => simp [stream, Reads.ending, Session.streamed, Reads.received, Reads.forwarded]
  | read chunk written rest ih =>
    by_cases hend : chunk = []
    · simp [stream, Reads.ending, Session.streamed, Reads.received, Reads.forwarded, hend]
    · cases written with
      | ok =>
        simp only [stream, hend, if_false, EStateM.run_bind, EStateM.run_modify, attempt_run,
          if_true, ih, Reads.ending]
        simp [Session.streamed, Reads.received, Reads.forwarded, hend, Nat.add_assoc]
      | error e =>
        by_cases hgone : e ∈ [.connectionResetError, .connectionAbortedError]
        · simp only [stream, hend, if_false, EStateM.run_bind, EStateM.run_modify, attempt_run,
            EStateM.run_ite, hgone, if_true, Reads.ending]
          simp [Session.streamed, Reads.received, Reads.forwarded, hend]
        · simp only [stream, hend, if_false, EStateM.run_bind, EStateM.run_modify, attempt_run,
            hgone, Reads.ending]
          simp [Session.streamed, Reads.received, Reads.forwarded, hend]

/-- What the last line of the log gives for the reason. -/
def reasonFor : Except Raised String → String
  | .ok reason => reason
  | .error .cancelledError => "cancelled"
  | .error e =>
    match e.name? with
    | some name => "error:" ++ name
    | none => "ok"

/-- An error of the session is counted, but not a cancellation. -/
def countsError : Except Raised String → Bool
  | .ok _ => false
  | .error e => e ≠ .cancelledError && e.name?.isSome

def Op.chunk? : Op → Option Bytes
  | .write chunk => some chunk
  | _ => none

def body (ops : List Op) : List Bytes := ops.filterMap Op.chunk?

private theorem body_map_write (chunks : List Bytes) : body (chunks.map Op.write) = chunks := by
  induction chunks with
  | nil => rfl
  | cons chunk chunks ih => exact congrArg (chunk :: ·) ih

/-- The session is closed after this: ffmpeg is terminated, nothing is written to the body any more,
and what is told of the session is told. -/
structure Closing (s s' : Session) : Prop where
  ops : ∃ closing, s'.ops = s.ops ++ .terminate :: closing ∧ body closing = []
  totalBytes : s'.totalBytes = s.totalBytes
  endReason : s'.endReason = s.endReason
  stats : s'.stats = s.stats

section Closing

variable {s : Session}

theorem Closing.note {s' : Session} (h : Closing s s') {op : Op} (hop : op.chunk? = none) :
    Closing s { s' with ops := s'.ops ++ [op] } where
  ops := by
    obtain ⟨closing, hops, hbody⟩ := h.ops
    refine ⟨closing ++ [op], ?_, ?_⟩
    · rw [hops, List.append_assoc, List.cons_append]
    · rw [body, List.filterMap_append, ← body, hbody, List.filterMap_cons_none hop]
      rfl
  totalBytes := h.totalBytes
  endReason := h.endReason
  stats := h.stats

private theorem note_closing {op : Op} (hop : op.chunk? = none) : Keeps (Closing s) (note op) :=
  .modify fun _ hs => hs.note hop

private theorem attempt_closing (caught : List Raised) {op : Op} (outcome : Except Raised Unit)
    (hop : op.chunk? = none) : Keeps (Closing s) (attempt caught (perform op outcome)) := by
  refine .tryCatch (.bind ?_ fun _ => .pure true) fun e => .ite (.pure false) (.raise e)
  cases outcome with
  | ok => exact note_closing hop
  | error e => exact .raise e

private theorem shutDown_closing (x : Exit) : Keeps (Closing s) (shutDown x) := by
  refine .ite (.pure ()) (.bind (attempt_closing _ _ rfl) fun _ => .ite (.pure ()) ?_)
  refine .bind (attempt_closing _ _ rfl) fun _ => .ite (.pure ()) ?_
  refine .bind (attempt_closing _ _ rfl) fun _ => .ite (.pure ()) ?_
  exact .bind (attempt_closing _ _ rfl) fun _ => .pure ()

private theorem terminate_closing (x : Exit) (s : Session) : Closing s ((terminate x).left s) := by
  apply EStateM.left_bind_of
  · exact ⟨⟨[], rfl, rfl⟩, rfl, rfl, rfl⟩
  · exact fun _ => shutDown_closing x

private theorem cleanUp_closing (b : Behaviour) (s : Session) : Closing s ((cleanUp b).left s) := by
  apply EStateM.left_bind_of (terminate_closing b.exit s)
  intro _
  refine .bind (note_closing rfl) fun _ => ?_
  refine .bind (attempt_closing _ _ rfl) fun _ => ?_
  exact .bind (attempt_closing _ _ rfl) fun _ => .pure ()

end Closing

/-- The counters after a session. -/
def ActivityStats.after (ending : Except Raised String) (stats : ActivityStats) :
    ActivityStats where
  mjpegSessions := stats.mjpegSessions + 1
  errorsMjpeg := stats.errorsMjpeg + if countsError ending then 1 else 0

/-- What a request does with ffmpeg's output, and what it tells of it. -/
structure Forwards (b : Behaviour) (stats : Option ActivityStats) : Prop where
  /-- The body is a part of the output, from its beginning on. -/
  front : (body (left b stats).ops).flatten <+: b.reads.output.flatten
  /-- Nothing is read, written or counted as an error before the headers are out. -/
  failed : ¬(b.spawned = .ok () ∧ b.prepared = .ok ()) →
    body (left b stats).ops = [] ∧ (left b stats).totalBytes = 0 ∧
      (left b stats).stats = stats.map fun s => { s with mjpegSessions := s.mjpegSessions + 1 }
  /-- After that the loop decides, and what it has written is followed by the termination. -/
  streamed : b.spawned = .ok () → b.prepared = .ok () →
    (∃ closing, (left b stats).ops = [.spawn, .prepare, .createDrainTask] ++
      b.reads.forwarded.map Op.write ++ .terminate :: closing ∧ body closing = []) ∧
    (left b stats).totalBytes = b.reads.received.flatten.length ∧
    (left b stats).endReason = reasonFor b.reads.ending ∧
    (left b stats).stats = stats.map (ActivityStats.after b.reads.ending)

private theorem failed_left (e : Raised) {s : Session} (hreason : s.endReason = "ok") :
    (failed e).left s = { s with
      endReason := reasonFor (.error e)
      stats := s.stats.map fun stats => { stats with
        errorsMjpeg := stats.errorsMjpeg + if countsError (.error e) then 1 else 0 } } := by
  obtain ⟨stats, totalBytes, endReason, ops⟩ := s
  obtain rfl : endReason = "ok" := hreason
  cases e <;>
    simp [failed, EStateM.left, Raised.name?, reasonFor, countsError, countError]

private theorem loop_left (reads : Reads) {s : Session} (hreason : s.endReason = "ok") :
    (tryCatch (do
      let reason ← stream reads
      modify fun s => { s with endReason := reason }) failed : Method Unit).left s =
      { s.streamed reads with
        endReason := reasonFor reads.ending
        stats := s.stats.map fun stats => { stats with
          errorsMjpeg := stats.errorsMjpeg + if countsError reads.ending then 1 else 0 } } := by
  have hrun := stream_run reads s
  cases hending : reads.ending with
  | ok reason =>
    rw [hending] at hrun
    simp [EStateM.left, hrun, reasonFor, countsError, Session.streamed]
  | error e =>
    rw [hending] at hrun
    have hfailed := failed_left e (s := s.streamed reads) hreason
    rw [EStateM.left, EStateM.run_tryCatch, EStateM.run_bind, hrun]
    exact hfailed

def streaming (stats : Option ActivityStats) : Session where
  stats := stats.map fun s => { s with mjpegSessions := s.mjpegSessions + 1 }
  totalBytes := 0
  endReason := "ok"
  ops := [.spawn, .prepare, .createDrainTask]

private theorem left_streamed {b : Behaviour} (stats : Option ActivityStats)
    (hspawned : b.spawned = .ok ())
    (hprepared : b.prepared = .ok ()) : Closing { (streaming stats).streamed b.reads with
      endReason := reasonFor b.reads.ending
      stats := stats.map (ActivityStats.after b.reads.ending) } (left b stats) := by
  have hleft : left b stats = (cleanUp b).left ((tryCatch (do
      let reason ← stream b.reads
      modify fun s => { s with endReason := reason }) failed : Method Unit).left
        (streaming stats)) := by
    simp [left, serveMjpeg, EStateM.left_bind, EStateM.left_tryFinally, hspawned, hprepared,
      streaming]
  have hstats : (streaming stats).stats.map (fun stats => { stats with
      errorsMjpeg := stats.errorsMjpeg + if countsError b.reads.ending then 1 else 0 }) =
        stats.map (ActivityStats.after b.reads.ending) := by
    rw [streaming, Option.map_map]
    rfl
  rw [hleft, loop_left b.reads rfl, hstats]
  exact cleanUp_closing b _

private theorem left_failed {b : Behaviour} (stats : Option ActivityStats)
    (h : ¬(b.spawned = .ok () ∧ b.prepared = .ok ())) :
    body (left b stats).ops = [] ∧ (left b stats).totalBytes = 0 ∧
      (left b stats).stats =
        stats.map fun s => { s with mjpegSessions := s.mjpegSessions + 1 } := by
  cases hspawned : b.spawned with
  | error e => simp [left, serveMjpeg, EStateM.left_bind, hspawned, body]
  | ok =>
    cases hprepared : b.prepared with
    | error e => simp [left, serveMjpeg, EStateM.left_bind, hspawned, hprepared, body, Op.chunk?]
    | ok => exact absurd ⟨hspawned, hprepared⟩ h

/-- The body is always the front of ffmpeg's output, and the session's account of it is right. -/
theorem mjpeg_forwards (b : Behaviour) (stats : Option ActivityStats) : Forwards b stats where
  front := by
    by_cases h : b.spawned = .ok () ∧ b.prepared = .ok ()
    · obtain ⟨closing, hops, hbody⟩ := (left_streamed stats h.1 h.2).ops
      have hforwarded : body (left b stats).ops = b.reads.forwarded := by
        rw [hops, body, List.filterMap_append, List.filterMap_cons_none rfl, ← body, ← body,
          hbody, List.append_nil, ← body_map_write b.reads.forwarded]
        rfl
      obtain ⟨rest, hrest⟩ := b.reads.forwarded_front
      rw [hforwarded, ← hrest, List.flatten_append]
      exact List.prefix_append _ _
    · rw [(left_failed stats h).1]
      exact List.nil_prefix
  failed := left_failed stats
  streamed hspawned hprepared := by
    have hclosing := left_streamed stats hspawned hprepared
    refine ⟨hclosing.ops, ?_, hclosing.endReason, hclosing.stats⟩
    rw [hclosing.totalBytes]
    exact Nat.zero_add _

/-- The browser goes after the first frame. -/
example : (left { goneEarly with
    prepared := .ok ()
    reads := .read [0xff] (.ok ()) (.read [0xd8] (.error .connectionResetError)
      (.raised .cancelledError)) } (some ⟨0, 0⟩)) =
    ⟨some ⟨1, 0⟩, 2, "client_disconnected",
      [.spawn, .prepare, .createDrainTask, .write [0xff], .terminate, .sigterm, .exited,
        .cancelDrainTask, .awaitDrainTask, .writeEof]⟩ := by decide

end EzvizHp7.Mjpeg
