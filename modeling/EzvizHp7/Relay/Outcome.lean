import EzvizHp7.Relay.Frames

/-!
# What an enabled action can do

One inductive for the branches of every coroutine, with the guards that hold on them. The
invariants are proved from it and do not unfold the coroutines.
-/

namespace EzvizHp7.Relay

open Cpd7 (Bytes Cpd7Decoder Crypto absorbPlain feed take)
open World

variable {Priv Pub : Type}

theorem closing_update {closing : ClientId → Bool} {c d : ClientId} (h : closing d = true) :
    Function.update closing c true d = true := by
  by_cases hdc : d = c
  · rw [hdc]
    exact Function.update_self ..
  · rwa [Function.update_of_ne hdc]

/-- Nothing the sessions, the clients or the timers depend on. -/
structure Outside (w w' : World Priv) : Prop where
  toCore : w'.toCore = w.toCore
  lock : w'.lock = w.lock
  closeHandle : w'.closeHandle = w.closeHandle
  timers : w'.timers = w.timers
  closers : w'.closers = w.closers
  prewarms : w'.prewarms = w.prewarms
  produced : w'.produced = w.produced
  logs : w'.logs = w.logs
  stopped : w'.stopped = true → w.stopped = true
  transport : ∀ c, w.transportClosing c = true → w'.transportClosing c = true

/-- The moves of a handler that change nothing but its own place and its transport. -/
inductive HandlerMoves (c : ClientId) (w : World Priv) : Action Priv → ClientPc → Prop
  | keyframeWaited (byEvent : Bool) (hpc : w.clients c = .awaitingKeyframe)
      (hseen : byEvent = true → w.keyframeSeen = true) :
      HandlerMoves c w (.keyframeWaited c byEvent) (.awaitingSnapshot byEvent)
  | flushed (hpc : w.clients c = .flushing) :
      HandlerMoves c w (.clientFlushed c true) .awaitingRegister
  | flushFailed (hpc : w.clients c = .flushing) :
      HandlerMoves c w (.clientFlushed c false) .leaving
  | eof (hpc : w.clients c = .streaming) : HandlerMoves c w (.clientEof c) .leaving
  | leaves (hpc : w.clients c = .leaving) (hwriter : w.writer ≠ some c) :
      HandlerMoves c w (.clientLeave c) .closing
  | closed (hpc : w.clients c = .closing) : HandlerMoves c w (.clientClosed c) .done

theorem HandlerMoves.attaching {c : ClientId} {w : World Priv} {a : Action Priv} {pc : ClientPc}
    (h : HandlerMoves c w a pc) (hpc : pc.Attaching) : (w.clients c).Attaching := by
  cases h with
  | keyframeWaited byEvent hold | flushed hold =>
    rw [hold]
    trivial
  | flushFailed | eof | leaves | closed => exact hpc.elim

inductive PumpSteps (crypto : Crypto Priv Pub) (n : SessionId) (w : World Priv) :
    Action Priv → World Priv → Prop
  | starts (lan decoder : SessionId) (hpc : w.pumps n = .created) (hlan : w.lan = some lan)
      (hdecoder : w.decoder = some decoder) :
      PumpSteps crypto n w (.pumpStart n)
        { w with pumps := Function.update w.pumps n (.reading lan decoder) }
  | ends {a : Action Priv} (hpc : (w.pumps n).Running) (stats : Option ActivityStats) :
      PumpSteps crypto n w a
        { w with stats := stats, pumps := Function.update w.pumps n .done }
  | feeds (lan decoder : SessionId) (raw : Bytes) (d d' : Cpd7Decoder Priv)
      (hpc : w.pumps n = .reading lan decoder) (hdecoder : w.decoders decoder = some d)
      (hfeed : feed crypto absorbPlain d raw = .ok d') (hplain : (take d').1 = []) :
      PumpSteps crypto n w (.pumpRead n lan decoder (.ok raw))
        { w with decoders := Function.update w.decoders decoder (some (take d').2) }
  | produces (lan decoder : SessionId) (raw : Bytes) (d d' : Cpd7Decoder Priv)
      (hpc : w.pumps n = .reading lan decoder) (hdecoder : w.decoders decoder = some d)
      (hfeed : feed crypto absorbPlain d raw = .ok d') (hplain : (take d').1 ≠ []) :
      PumpSteps crypto n w (.pumpRead n lan decoder (.ok raw))
        (pumpChunk n lan decoder (take d').1
          { w with decoders := Function.update w.decoders decoder (some (take d').2) })
  | resumes (lan decoder : SessionId) (c : ClientId) (hpc : w.pumps n = .draining lan decoder c) :
      PumpSteps crypto n w (.pumpDrained n lan decoder c .ok)
        { w with pumps := Function.update w.pumps n (.reading lan decoder) }
  | breaks (lan decoder : SessionId) (c : ClientId) (hpc : w.pumps n = .draining lan decoder c)
      (hwriter : w.writer ≠ some c) :
      PumpSteps crypto n w (.pumpDrained n lan decoder c .brokenPipe)
        { w with
          pumps := Function.update w.pumps n (.reading lan decoder)
          transportClosing := Function.update w.transportClosing c true }
  | detaches (lan decoder : SessionId) (c : ClientId)
      (hpc : w.pumps n = .draining lan decoder c) (hwriter : w.writer = some c)
      (observed : Option (Bool × Bool)) :
      PumpSteps crypto n w (.pumpDrained n lan decoder c .brokenPipe)
        { w with
          pumps := Function.update w.pumps n (.reading lan decoder)
          transportClosing := Function.update w.transportClosing c true
          writer := none
          observed := observed }
  | cancelled (hpc : w.pumps n = .cancelling) :
      PumpSteps crypto n w (.pumpCancelled n)
        { w with pumps := Function.update w.pumps n .done }

/-- The key fetch raises or brings no AES-128 key, or the LAN start raises. -/
def Action.FailsOpening : Action Priv → Prop
  | .keyFetched _ _ _ (.error _) => True
  | .keyFetched _ _ _ (.ok key) => key.length ≠ 16
  | .lanStart _ _ (.error _) => True
  | _ => False

/-- The branches of the coroutines. -/
inductive Outcome (crypto : Crypto Priv Pub) (w : World Priv) : Action Priv → World Priv → Prop
  | outside {a : Action Priv} {w' : World Priv} (h : Outside w w') : Outcome crypto w a w'
  | asyncPrewarm (p : Prewarm) :
      Outcome crypto w (.asyncPrewarm p) { w with prewarms := p :: w.prewarms }
  | stopEnter (hlock : w.lock = none) :
      Outcome crypto w .stopEnter
        (teardownUpstream .stop { w with stopsWaiting := w.stopsWaiting - 1 })
  | prewarmRenews (p : Prewarm) (host related : String) (hlock : w.lock = none)
      (hp : p ∈ w.prewarms) (halive : w.isPumpAlive = true) (stats : Option ActivityStats)
      (handle : Option TimerId) (timers : List TimerId) (next : TimerId)
      (harmed : 0 < p.holdSeconds → ∃ t, handle = some t ∧ t ∈ timers) :
      Outcome crypto w (.prewarmEnter p host related)
        { w with
          prewarms := w.prewarms.erase p
          stats := stats
          closeHandle := handle
          timers := timers
          nextTimer := next }
  | prewarmSpinsUp (p : Prewarm) (host related : String) (hlock : w.lock = none)
      (hp : p ∈ w.prewarms) (hidle : w.isPumpAlive = false) (stats : Option ActivityStats) :
      Outcome crypto w (.prewarmEnter p host related)
        (spinUpUpstream (.prewarm p) host related
          { w with prewarms := w.prewarms.erase p, stats := stats })
  | openingFails {a : Action Priv} (o : Opener) (e : String)
      (hlock : (∃ host related, w.lock = some (.fetchingKey o host related)) ∨
        ∃ n, w.lock = some (.starting o n))
      (hfails : a.FailsOpening) :
      Outcome crypto w a (spinUpFailed o e w)
  | keyFetched (o : Opener) (host related : String) (key : Bytes)
      (hlock : w.lock = some (.fetchingKey o host related)) :
      Outcome crypto w (.keyFetched o host related (.ok key))
        { w with nextSession := w.nextSession + 1, lock := some (.starting o w.nextSession) }
  | lanStarts (o : Opener) (n : SessionId) (priv : Priv)
      (hlock : w.lock = some (.starting o n)) :
      Outcome crypto w (.lanStart o n (.ok priv))
        { w with
          lanPriv := Function.update w.lanPriv n (some priv)
          lanOpen := Function.update w.lanOpen n true
          lock := some (.started o n) }
  | prewarmAttaches (p : Prewarm) (n : SessionId)
      (hlock : w.lock = some (.started (.prewarm p) n)) (handle : Option TimerId)
      (timers : List TimerId) (next : TimerId)
      (harmed : 0 < p.holdSeconds → ∃ t, handle = some t ∧ t ∈ timers) :
      Outcome crypto w (.lanStarted (.prewarm p) n)
        { attachSession n w with
          closeHandle := handle
          timers := timers
          nextTimer := next
          lock := none }
  | clientAttaches (c : ClientId) (n : SessionId)
      (hlock : w.lock = some (.started (.client c) n)) :
      Outcome crypto w (.lanStarted (.client c) n)
        { (attachSession n w).cancelClose with
          lock := none
          clients := Function.update w.clients c .awaitingKeyframe }
  | pumpJoined (k : Closer) (n : SessionId) (hlock : w.lock = some (.awaitingPump k n))
      (hdone : w.pumps n = .done) : Outcome crypto w (.pumpJoined k n) (teardownDetach k w)
  | lanClose (k : Closer) (n : SessionId) (hlock : w.lock = some (.closingLan k n)) :
      Outcome crypto w (.lanClose k n)
        { w with
          lanOpen := Function.update w.lanOpen n false
          lock := some (.closedLan k n) }
  | lanClosed (k : Closer) (n : SessionId) (hlock : w.lock = some (.closedLan k n))
      (stats : Option ActivityStats) (observed : Option (Bool × Bool)) :
      Outcome crypto w (.lanClosed k n)
        (teardownReturn k
          { w with
            stats := stats
            observed := observed
            sessionStartedAt := 0
            sessionBytes := 0 })
  | connect (stats : Option ActivityStats) :
      Outcome crypto w .connect
        { w with
          stats := stats
          clients := Function.update w.clients w.nextClient .connecting
          nextClient := w.nextClient + 1 }
  | clientBursts (c : ClientId) (host related : String) (hlock : w.lock = none)
      (hpc : w.clients c = .connecting) (halive : w.isPumpAlive = true)
      (stats : Option ActivityStats) :
      Outcome crypto w (.clientEnter c host related)
        (writeBurst c .awaitingKeyframe { w.cancelClose with stats := stats })
  | clientSpinsUp (c : ClientId) (host related : String) (hlock : w.lock = none)
      (hpc : w.clients c = .connecting) (hidle : w.isPumpAlive = false) :
      Outcome crypto w (.clientEnter c host related)
        (spinUpUpstream (.client c) host related
          { w with clients := Function.update w.clients c .opening })
  | clientRejected (c : ClientId) (hlock : w.lock = some (.rejecting c)) :
      Outcome crypto w (.clientRejected c)
        { w with lock := none, clients := Function.update w.clients c .done }
  | handlerMoves {a : Action Priv} (c : ClientId) (pc : ClientPc) (closing : ClientId → Bool)
      (hmoves : HandlerMoves c w a pc)
      (hclosing : closing = w.transportClosing ∨
        closing = Function.update w.transportClosing c true) :
      Outcome crypto w a
        { w with
          clients := Function.update w.clients c pc
          transportClosing := closing }
  | clientSnapshot (c : ClientId) (byEvent : Bool) (hlock : w.lock = none)
      (hpc : w.clients c = .awaitingSnapshot byEvent) :
      Outcome crypto w (.clientSnapshot c byEvent) (writeBurst c .awaitingRegister w)
  | clientRegister (c : ClientId) (hlock : w.lock = none)
      (hpc : w.clients c = .awaitingRegister) :
      Outcome crypto w (.clientRegister c) (clientRegister c w)
  | clientDetaches (c : ClientId) (hlock : w.lock = none) (hpc : w.clients c = .leaving)
      (hwriter : w.writer = some c) (t next : TimerId) (timers : List TimerId)
      (observed : Option (Bool × Bool)) (harmed : t ∈ timers) :
      Outcome crypto w (.clientLeave c)
        { w with
          writer := none
          closeHandle := some t
          timers := timers
          nextTimer := next
          observed := observed
          clients := Function.update w.clients c .closing
          transportClosing := Function.update w.transportClosing c true }
  | timerFires (t : TimerId) (ht : t ∈ w.timers) :
      Outcome crypto w (.timerFires t)
        { w with timers := w.timers.filter (· ≠ t), closers := w.closers + 1 }
  | closeSpares (hlock : w.lock = none) (hclosers : 0 < w.closers)
      (hspares : w.writer ≠ none ∨ w.isPumpAlive = false) :
      Outcome crypto w .maybeCloseUpstream
        { w with closers := w.closers - 1, closeHandle := none }
  | closeTearsDown (hlock : w.lock = none) (hclosers : 0 < w.closers) (hwriter : w.writer = none)
      (halive : w.isPumpAlive = true) :
      Outcome crypto w .maybeCloseUpstream
        (teardownUpstream .timer { w with closers := w.closers - 1, closeHandle := none })
  | pump {a : Action Priv} {w' : World Priv} (n : SessionId)
      (hsteps : PumpSteps crypto n w a w') : Outcome crypto w a w'

namespace PumpSteps

variable {crypto : Crypto Priv Pub} {n : SessionId} {w w' : World Priv} {a : Action Priv}

theorem not_done (h : PumpSteps crypto n w a w') : w.pumps n ≠ .done := by
  cases h with
  | ends hpc =>
    intro hdone
    rw [hdone] at hpc
    exact hpc
  | starts lan decoder hpc | feeds lan decoder raw d d' hpc | produces lan decoder raw d d' hpc
  | resumes lan decoder c hpc | breaks lan decoder c hpc | detaches lan decoder c hpc
  | cancelled hpc => simp [hpc]

theorem frame (h : PumpSteps crypto n w a w') : PumpFrame n w w' := by
  cases h with
  | starts | ends | resumes | breaks | detaches | cancelled => exact { setPump_frame n w _ with }
  | feeds => exact ⟨rfl, rfl, rfl, rfl, rfl, rfl, fun _ _ => rfl, rfl, rfl, rfl, rfl, rfl, rfl⟩
  | produces lan decoder => exact { pumpChunk_frame n lan decoder _ _ with }

end PumpSteps

variable {crypto : Crypto Priv Pub} {w : World Priv}

private theorem keyFetched_outcome {o : Opener} {host related : String}
    {key : Except String Bytes} (hlock : w.lock = some (.fetchingKey o host related)) :
    Outcome crypto w (.keyFetched o host related key) (keyFetched o key w) := by
  cases key with
  | error e => exact .openingFails o e (.inl ⟨host, related, hlock⟩) trivial
  | ok key =>
    unfold keyFetched checkAesKey
    dsimp only
    by_cases hkey : key.length = 16
    · rw [if_neg (not_not.mpr hkey)]
      exact .keyFetched o host related key hlock
    · rw [if_pos hkey]
      exact .openingFails o _ (.inl ⟨host, related, hlock⟩) hkey

private theorem lanStarted_outcome {o : Opener} {n : SessionId}
    (hlock : w.lock = some (.started o n)) :
    Outcome crypto w (.lanStarted o n) (lanStarted o n w) := by
  cases o with
  | prewarm p =>
    obtain ⟨handle, timers, next, harmed, h⟩ :=
      rescheduleClose_eq p.holdSeconds (attachSession n w)
    rw [lanStarted, h]
    exact .prewarmAttaches p n hlock handle timers next harmed
  | client c => exact .clientAttaches c n hlock

private theorem prewarmEnter_outcome {p : Prewarm} (host related : String)
    (hlock : w.lock = none) (hp : p ∈ w.prewarms) :
    Outcome crypto w (.prewarmEnter p host related) (prewarmEnter p host related w) := by
  unfold prewarmEnter
  dsimp only
  split
  · rename_i halive
    obtain ⟨handle, timers, next, harmed, h⟩ := rescheduleClose_eq p.holdSeconds _
    rw [h]
    exact .prewarmRenews p host related hlock hp halive _ handle timers next harmed
  · rename_i hidle
    exact .prewarmSpinsUp p host related hlock hp (Bool.eq_false_of_not_eq_true hidle) _

private theorem clientEnter_outcome {c : ClientId} (host related : String)
    (hlock : w.lock = none) (hpc : w.clients c = .connecting) :
    Outcome crypto w (.clientEnter c host related) (clientEnter c host related w) := by
  unfold clientEnter
  split
  · rename_i halive
    exact .clientBursts c host related hlock hpc halive _
  · rename_i hidle
    exact .clientSpinsUp c host related hlock hpc (Bool.eq_false_of_not_eq_true hidle)

private theorem clientLeave_outcome {c : ClientId} (hlock : w.lock = none)
    (hpc : w.clients c = .leaving) :
    Outcome crypto w (.clientLeave c) (clientLeave c w) := by
  unfold clientLeave
  dsimp only
  split
  · rename_i hwriter
    rw [rescheduleClose, if_neg (by decide)]
    exact .clientDetaches c hlock hpc hwriter _ _ _ _ List.mem_cons_self
  · rename_i hwriter
    exact .handlerMoves c .closing _ (.leaves hpc hwriter) (.inr rfl)

private theorem maybeCloseUpstream_outcome (hlock : w.lock = none) (hclosers : 0 < w.closers) :
    Outcome crypto w .maybeCloseUpstream (maybeCloseUpstream w) := by
  unfold maybeCloseUpstream
  dsimp only
  split
  · rename_i hwriter
    exact .closeSpares hlock hclosers (.inl (Option.isSome_iff_ne_none.mp hwriter))
  · rename_i hwriter
    split
    · rename_i halive
      exact .closeTearsDown hlock hclosers (Option.not_isSome_iff_eq_none.mp hwriter) halive
    · rename_i hidle
      exact .closeSpares hlock hclosers (.inr (Bool.eq_false_of_not_eq_true hidle))

theorem pumpStart_steps {n : SessionId} (hpc : w.pumps n = .created) :
    PumpSteps crypto n w (.pumpStart n) (pumpStart n w) := by
  unfold pumpStart
  split
  · rename_i lan decoder hlan hdecoder
    exact .starts lan decoder hpc hlan hdecoder
  · exact .ends (by rw [hpc]; trivial) w.stats

theorem pumpRead_steps {n lan decoder : SessionId} (raw : Except String Bytes)
    (hpc : w.pumps n = .reading lan decoder) :
    PumpSteps crypto n w (.pumpRead n lan decoder raw) (pumpRead crypto n lan decoder raw w) := by
  have hrunning : (w.pumps n).Running := by rw [hpc]; trivial
  unfold pumpRead pumpError
  split
  · exact .ends hrunning _
  · exact .ends hrunning w.stats
  · split
    · rename_i d' hd'
      obtain ⟨d, hdecoder, hfeed⟩ := Option.map_eq_some_iff.mp hd'
      dsimp only
      split
      · rename_i hplain
        exact .feeds lan decoder _ d d' hpc hdecoder hfeed hplain
      · rename_i hplain
        exact .produces lan decoder _ d d' hpc hdecoder hfeed hplain
    · exact .ends hrunning _

theorem pumpDrained_steps {n lan decoder : SessionId} {c : ClientId} (drained : Drained)
    (hpc : w.pumps n = .draining lan decoder c) :
    PumpSteps crypto n w (.pumpDrained n lan decoder c drained)
      (pumpDrained n lan decoder c drained w) := by
  cases drained with
  | ok => exact .resumes lan decoder c hpc
  | brokenPipe =>
    unfold pumpDrained
    dsimp only
    split
    · rename_i hwriter
      exact .detaches lan decoder c hpc hwriter _
    · rename_i hwriter
      exact .breaks lan decoder c hpc hwriter
  | raised => exact .ends (by rw [hpc]; trivial) _

theorem next_outcome {a : Action Priv} (ha : a.Enabled w) :
    Outcome crypto w a (a.next crypto w) := by
  cases a with
  | setStateListener | serverBound | serverFailed | serverClosed | clockAdvances =>
    exact .outside ⟨rfl, rfl, rfl, rfl, rfl, rfl, rfl, rfl, id, fun _ => id⟩
  | asyncStart =>
    change Outcome crypto w _ (asyncStart w)
    unfold asyncStart
    split <;>
    exact .outside ⟨rfl, rfl, rfl, rfl, rfl, rfl, rfl, rfl, by simp, fun _ => id⟩
  | asyncStop =>
    change Outcome crypto w _ (asyncStop w)
    unfold asyncStop
    split <;> exact .outside ⟨rfl, rfl, rfl, rfl, rfl, rfl, rfl, rfl, id, fun _ => id⟩
  | transportLost c =>
    refine .outside ⟨rfl, rfl, rfl, rfl, rfl, rfl, rfl, rfl, id, fun d hd => ?_⟩
    exact closing_update hd
  | stopEnter => exact .stopEnter ha.1
  | asyncPrewarm p => exact .asyncPrewarm p
  | prewarmEnter p host related => exact prewarmEnter_outcome host related ha.1 ha.2
  | keyFetched o host related key => exact keyFetched_outcome ha
  | lanStart o n priv =>
    cases priv with
    | error e => exact .openingFails o e (.inr ⟨n, ha⟩) trivial
    | ok priv => exact .lanStarts o n priv ha
  | lanStarted o n => exact lanStarted_outcome ha
  | pumpJoined k n => exact .pumpJoined k n ha.1 ha.2
  | lanClose k n => exact .lanClose k n ha
  | lanClosed k n =>
    change Outcome crypto w _ (lanClosed k w)
    unfold lanClosed
    dsimp only
    split <;> exact .lanClosed k n ha _ _
  | connect => exact .connect _
  | clientEnter c host related => exact clientEnter_outcome host related ha.1 ha.2
  | clientRejected c => exact .clientRejected c ha
  | keyframeWaited c byEvent =>
    exact .handlerMoves c _ _ (.keyframeWaited byEvent ha.1 ha.2) (.inl rfl)
  | clientSnapshot c byEvent => exact .clientSnapshot c byEvent ha.1 ha.2
  | clientFlushed c ok =>
    cases ok with
    | true => exact .handlerMoves c _ _ (.flushed ha) (.inl rfl)
    | false => exact .handlerMoves c _ _ (.flushFailed ha) (.inr rfl)
  | clientRegister c => exact .clientRegister c ha.1 ha.2
  | clientEof c => exact .handlerMoves c _ _ (.eof ha) (.inl rfl)
  | clientLeave c => exact clientLeave_outcome ha.1 ha.2
  | clientClosed c => exact .handlerMoves c _ _ (.closed ha) (.inl rfl)
  | timerFires t => exact .timerFires t ha
  | maybeCloseUpstream => exact maybeCloseUpstream_outcome ha.1 ha.2
  | pumpStart n => exact .pump n (pumpStart_steps ha)
  | pumpRead n lan decoder raw => exact .pump n (pumpRead_steps raw ha)
  | pumpDrained n lan decoder c drained => exact .pump n (pumpDrained_steps drained ha)
  | pumpCancelled n => exact .pump n (.cancelled ha)

end EzvizHp7.Relay
