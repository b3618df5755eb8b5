import EzvizHp7.Relay.Step

/-!
# What the steps change

One lemma for each piece of a coroutine that branches: which fields it sets, which it leaves
alone, and in which state it leaves the timer and the lock.
-/

namespace EzvizHp7.Relay

open Cpd7 (Bytes Crypto)
open World

variable {Priv Pub : Type}

def World.Armed (w : World Priv) : Prop := ∃ t, w.closeHandle = some t ∧ t ∈ w.timers

/-- Rescheduling by a positive delay leaves a pending timer in the handle. -/
theorem rescheduleClose_eq (seconds : Rat) (w : World Priv) :
    ∃ handle timers next, (0 < seconds → ∃ t, handle = some t ∧ t ∈ timers) ∧
      rescheduleClose seconds w =
        { w with closeHandle := handle, timers := timers, nextTimer := next } := by
  unfold rescheduleClose
  split
  · rename_i hseconds
    exact ⟨_, _, _, fun hpos => absurd hseconds (Rat.not_le.mpr hpos), rfl⟩
  · exact ⟨_, _, _, fun _ => ⟨w.nextTimer, rfl, List.mem_cons_self⟩, rfl⟩

theorem cancelClose_timers {w : World Priv} (h : ∀ t ∈ w.timers, w.closeHandle = some t) :
    (cancelClose w).timers = [] := by
  unfold cancelClose
  dsimp only
  split
  · rename_i t hhandle
    rw [List.filter_eq_nil_iff]
    intro t' ht'
    have := h t' ht'
    rw [hhandle] at this
    cases this
    simp
  · rename_i hhandle
    rw [List.eq_nil_iff_forall_not_mem]
    intro t ht
    have := h t ht
    rw [hhandle] at this
    cases this

def Closer.after : Closer → Option Holder
  | .opener (.client c) => some (.rejecting c)
  | _ => none

theorem teardownReturn_eq (k : Closer) (w : World Priv) :
    teardownReturn k w =
      { w with
        lock := k.after
        stopped := w.stopped || (k = .stop : Bool)
        transportClosing :=
          match k.client? with
          | some c => Function.update w.transportClosing c true
          | none => w.transportClosing } := by
  match k with
  | .opener (.client _) | .opener (.prewarm _) | .timer => simp [teardownReturn, Closer.after,
      Closer.client?, Opener.client?]
  | .stop => simp [teardownReturn, Closer.after, Closer.client?]

/-- How a teardown begins: the live pump is cancelled and awaited, a finished one is detached
and the LAN client closes, or nothing is attached and the caller goes on. -/
inductive TeardownBegins (k : Closer) (w : World Priv) : World Priv → Prop
  | awaits (n : SessionId) (htask : w.pumpTask = some n) (halive : w.pumps n ≠ .done) :
      TeardownBegins k w
        { w.cancelClose with
          pumpTask := none
          pumps := Function.update w.pumps n .cancelling
          lock := some (.awaitingPump k n) }
  | closes (n : SessionId) (hlan : w.lan = some n) (hidle : w.isPumpAlive = false) :
      TeardownBegins k w
        { w.cancelClose with
          pumpTask := none
          lan := none
          decoder := none
          buffer := []
          keyframeSeen := false
          lock := some (.closingLan k n) }
  | returns (hlan : w.lan = none) (hidle : w.isPumpAlive = false) :
      TeardownBegins k w (teardownReturn k (notifyStateChange
        { w.cancelClose with
          pumpTask := none
          lan := none
          decoder := none
          buffer := []
          keyframeSeen := false }))

theorem teardownUpstream_begins (k : Closer) (w : World Priv) :
    TeardownBegins k w (teardownUpstream k w) := by
  have hdetach (hidle : w.isPumpAlive = false) :
      TeardownBegins k w (teardownDetach k { w.cancelClose with pumpTask := none }) := by
    unfold teardownDetach
    dsimp only
    split
    · rename_i n hlan
      exact .closes n hlan hidle
    · rename_i hlan
      exact .returns hlan hidle
  unfold teardownUpstream
  dsimp only
  split
  · rename_i n htask
    split
    · rename_i hdone
      exact hdetach (by simp [Core.isPumpAlive, htask, hdone])
    · rename_i hdone
      exact .awaits n htask hdone
  · rename_i htask
    exact hdetach (by simp [Core.isPumpAlive, htask])

theorem teardownUpstream_timer (k : Closer) (w : World Priv) :
    (teardownUpstream k w).clients = w.clients ∧
      (teardownUpstream k w).closers = w.closers ∧
      (teardownUpstream k w).timers = w.cancelClose.timers ∧
      (teardownUpstream k w).prewarms = w.prewarms := by
  have h := teardownUpstream_begins k w
  generalize teardownUpstream k w = w' at h
  cases h with
  | awaits | closes => exact ⟨rfl, rfl, rfl, rfl⟩
  | returns => rw [teardownReturn_eq]; exact ⟨rfl, rfl, rfl, rfl⟩

theorem teardownUpstream_pumpTask (k : Closer) (w : World Priv) :
    (teardownUpstream k w).pumpTask = none := by
  have h := teardownUpstream_begins k w
  generalize teardownUpstream k w = w' at h
  cases h with
  | awaits | closes => rfl
  | returns => rw [teardownReturn_eq]; rfl

theorem spinUpUpstream_clients (o : Opener) (host related : String) (w : World Priv) :
    (spinUpUpstream o host related w).clients = w.clients := by
  unfold spinUpUpstream spinUpFailed
  split
  · exact (teardownUpstream_timer _ _).1
  · rfl

theorem writeBurst_eq (c : ClientId) (otherwise : ClientPc) (w : World Priv) :
    ∃ pc logs, (pc = otherwise ∨ pc = .flushing) ∧ writeBurst c otherwise w =
      { w with clients := Function.update w.clients c pc, logs := logs } := by
  unfold writeBurst
  dsimp only
  split
  · exact ⟨_, _, .inl rfl, rfl⟩
  · exact ⟨_, _, .inr rfl, rfl⟩

theorem writeBurst_lock (c : ClientId) (pc : ClientPc) (w : World Priv) :
    (writeBurst c pc w).lock = w.lock := by
  obtain ⟨_, _, _, h⟩ := writeBurst_eq c pc w
  rw [h]

/-- What a decoded chunk does to the session fields; the pump goes on to read, or to drain the
writer it has written to. -/
theorem pumpChunk_toCore (n lan decoder : SessionId) (plain : Bytes) (w : World Priv) :
    ∃ seen pc, (pc = .reading lan decoder ∨ ∃ c, pc = .draining lan decoder c) ∧
      (pumpChunk n lan decoder plain w).toCore =
        { w.toCore with
          buffer := extendBuffer bufferTrimTarget w.buffer plain
          sessionBytes := w.sessionBytes + plain.length
          keyframeSeen := seen
          pumps := Function.update w.pumps n pc } := by
  unfold pumpChunk
  dsimp only
  split
  · rename_i c _
    split
    · exact ⟨_, .reading lan decoder, .inl rfl, rfl⟩
    · exact ⟨_, .draining lan decoder c, .inr ⟨c, rfl⟩, rfl⟩
  · exact ⟨_, .reading lan decoder, .inl rfl, rfl⟩

/-- What no step of pump `n` changes. -/
structure PumpFrame (n : SessionId) (w w' : World Priv) : Prop where
  lock : w'.lock = w.lock
  lan : w'.lan = w.lan
  pumpTask : w'.pumpTask = w.pumpTask
  clients : w'.clients = w.clients
  nextClient : w'.nextClient = w.nextClient
  nextSession : w'.nextSession = w.nextSession
  others : ∀ m, m ≠ n → w'.pumps m = w.pumps m
  lanOpen : w'.lanOpen = w.lanOpen
  closeHandle : w'.closeHandle = w.closeHandle
  timers : w'.timers = w.timers
  closers : w'.closers = w.closers
  prewarms : w'.prewarms = w.prewarms
  stopped : w'.stopped = w.stopped

theorem PumpFrame.alive {n : SessionId} {w w' : World Priv} (h : PumpFrame n w w')
    (hn : w.pumps n ≠ .done) (halive : w'.isPumpAlive = true) : w.isPumpAlive = true := by
  obtain ⟨m, htask, hm⟩ := (isPumpAlive_iff _).mp halive
  refine (isPumpAlive_iff _).mpr ⟨m, h.pumpTask ▸ htask, ?_⟩
  by_cases hmn : m = n
  · rwa [hmn]
  · rwa [← h.others m hmn]

theorem setPump_frame (n : SessionId) (w : World Priv) (pc : PumpPc) :
    PumpFrame n w { w with pumps := Function.update w.pumps n pc } :=
  ⟨rfl, rfl, rfl, rfl, rfl, rfl, fun _ hm => Function.update_of_ne hm _ _, rfl, rfl, rfl, rfl,
    rfl, rfl⟩

theorem pumpChunk_frame (n lan decoder : SessionId) (plain : Bytes) (w : World Priv) :
    PumpFrame n w (pumpChunk n lan decoder plain w) := by
  unfold pumpChunk
  dsimp only
  split
  · split <;> exact { setPump_frame n w _ with }
  · exact { setPump_frame n w _ with }

theorem pumpChunk_writer (n lan decoder : SessionId) (plain : Bytes) (w : World Priv) :
    (pumpChunk n lan decoder plain w).writer = w.writer := by
  obtain ⟨_, _, _, hcore⟩ := pumpChunk_toCore n lan decoder plain w
  rw [hcore]

end EzvizHp7.Relay
