import EzvizHp7.Relay.Recorded

/-!
# The raw chunks of a session

A record of what each pump has read and of what its last step was about, next to the relay. What
a session appends to the buffer is what the pump's loop makes of these raw chunks and nothing
else. A `write` that raises in the pump is the drain after it raising at once.
-/

namespace EzvizHp7.Relay

open Cpd7 (Bytes Cpd7Decoder Crypto absorbPlain feed take)
open Journal (Entry)
open Transition System World

variable {Priv Pub : Type}

/-- What a pump's last step was about. -/
inductive PumpEnd
  | upstreamEof
  | readError
  | decoderError
  | cancelled
  | viewer (c : ClientId)
  | other
  deriving DecidableEq, Repr

def PumpEnd.Upstream : PumpEnd → Prop
  | .upstreamEof | .readError | .decoderError | .cancelled => True
  | .viewer _ | .other => False

def Action.pumpEnd : Action Priv → PumpEnd
  | .pumpRead _ _ _ (.error _) => .readError
  | .pumpRead _ _ _ (.ok []) => .upstreamEof
  | .pumpRead _ _ _ (.ok _) => .decoderError
  | .pumpCancelled _ => .cancelled
  | .pumpDrained _ _ _ c _ => .viewer c
  | _ => .other

/-- The raw chunks each pump has read, how each pump ended, and the viewers that a write or a
drain failed for. -/
structure PumpLog where
  raws : SessionId → List Bytes
  ended : SessionId → Option PumpEnd
  failed : List ClientId

def PumpLog.raw (log : PumpLog) : Action Priv → SessionId → List Bytes
  | .pumpRead n _ _ (.ok (b :: raw)) =>
    Function.update log.raws n (log.raws n ++ [b :: raw])
  | _ => log.raws

def PumpLog.failure (log : PumpLog) : Action Priv → List ClientId
  | .pumpDrained _ _ _ _ .ok => log.failed
  | .pumpDrained _ _ _ c _ => c :: log.failed
  | .clientFlushed c false => c :: log.failed
  | _ => log.failed

def PumpLog.note (w : World Priv) (a : Action Priv) (w' : World Priv) (log : PumpLog) :
    PumpLog where
  raws := log.raw a
  ended n := if w.pumps n ≠ .done ∧ w'.pumps n = .done then some a.pumpEnd else log.ended n
  failed := log.failure a

def PumpLog.empty : PumpLog := ⟨fun _ => [], fun _ => none, []⟩

def loggedRelay (crypto : Crypto Priv Pub) : System (World Priv × PumpLog) (Action Priv) :=
  (relay crypto).recording .empty PumpLog.note

theorem loggedRelay_init (crypto : Crypto Priv Pub) :
    (loggedRelay crypto).init (World.initial Priv none 1, .empty) :=
  ⟨⟨none, 1, by decide, rfl⟩, rfl⟩

def appended (n : SessionId) (produced : List (Entry UInt8 Audience)) : List Bytes :=
  (produced.filter fun e => e.piece.source = n).map fun e => e.piece.data

def Action.pump? : Action Priv → Option SessionId
  | .pumpStart n | .pumpRead n _ _ _ | .pumpDrained n _ _ _ _ | .pumpCancelled n => some n
  | _ => none

/-- The pump is where it was, or it was created or is being cancelled. -/
def Undisturbed (n : SessionId) (w w' : World Priv) : Prop :=
  w'.pumps n = w.pumps n ∨ w'.pumps n = .created ∨ w'.pumps n = .cancelling

private theorem update_undisturbed {n m : SessionId} {pc : PumpPc} {w w' : World Priv}
    (h : w'.pumps = Function.update w.pumps m pc) (hpc : pc = .created ∨ pc = .cancelling) :
    Undisturbed n w w' := by
  rw [Undisturbed, h]
  by_cases hnm : n = m
  · subst hnm
    rw [Function.update_self]
    exact .inr hpc
  · exact .inl (Function.update_of_ne hnm _ _)

private theorem teardownUpstream_undisturbed (k : Closer) (n : SessionId) {w w₀ : World Priv}
    (h : w₀.pumps = w.pumps) : Undisturbed n w (teardownUpstream k w₀) := by
  have hbegins := teardownUpstream_begins k w₀
  generalize teardownUpstream k w₀ = w' at hbegins
  cases hbegins with
  | awaits m =>
    rw [h]
    exact update_undisturbed rfl (.inr rfl)
  | closes => exact .inl (congrFun h n)
  | returns =>
    rw [teardownReturn_eq]
    exact .inl (congrFun h n)

private theorem spinUpFailed_undisturbed (o : Opener) (e : String) (n : SessionId)
    (w : World Priv) : Undisturbed n w (spinUpFailed o e w) := by
  apply teardownUpstream_undisturbed
  rfl

private theorem spinUpUpstream_undisturbed (o : Opener) (host related : String) (n : SessionId)
    {w w₀ : World Priv} (h : w₀.pumps = w.pumps) :
    Undisturbed n w (spinUpUpstream o host related w₀) := by
  unfold spinUpUpstream
  split
  · apply teardownUpstream_undisturbed
    exact h
  · exact .inl (congrFun h n)

variable {crypto : Crypto Priv Pub} {w : World Priv} {a : Action Priv}

private theorem maybeCloseUpstream_undisturbed (n : SessionId) :
    Undisturbed n w (maybeCloseUpstream w) := by
  unfold maybeCloseUpstream
  dsimp only
  split
  · exact .inl rfl
  · split
    · apply teardownUpstream_undisturbed
      rfl
    · exact .inl rfl

private theorem prewarmEnter_undisturbed (p : Prewarm) (host related : String) (n : SessionId) :
    Undisturbed n w (prewarmEnter p host related w) := by
  unfold prewarmEnter
  dsimp only
  split
  · obtain ⟨_, _, _, _, h⟩ := rescheduleClose_eq p.holdSeconds _
    rw [h]
    exact .inl rfl
  · apply spinUpUpstream_undisturbed
    rfl

private theorem clientEnter_undisturbed (c : ClientId) (host related : String) (n : SessionId) :
    Undisturbed n w (clientEnter c host related w) := by
  unfold clientEnter
  split
  · obtain ⟨_, _, _, h⟩ := writeBurst_eq c .awaitingKeyframe _
    rw [h]
    exact .inl rfl
  · apply spinUpUpstream_undisturbed
    rfl

private theorem keyFetched_undisturbed (o : Opener) (key : Except String Bytes) (n : SessionId) :
    Undisturbed n w (keyFetched o key w) := by
  unfold keyFetched
  split
  · exact spinUpFailed_undisturbed o _ n w
  · split
    · exact spinUpFailed_undisturbed o _ n w
    · exact .inl rfl

private theorem lanStart_undisturbed (o : Opener) (m : SessionId) (priv : Except String Priv)
    (n : SessionId) : Undisturbed n w (lanStart o m priv w) := by
  unfold lanStart
  split
  · exact spinUpFailed_undisturbed o _ n w
  · exact .inl rfl

private theorem lanStarted_undisturbed (o : Opener) (m n : SessionId) :
    Undisturbed n w (lanStarted o m w) := by
  apply update_undisturbed (m := m)
  · unfold lanStarted
    split
    · obtain ⟨_, _, _, _, h⟩ := rescheduleClose_eq _ (attachSession m w)
      rw [h]
      rfl
    · rfl
  · exact .inl rfl

private theorem teardownDetach_undisturbed (k : Closer) (n : SessionId) :
    Undisturbed n w (teardownDetach k w) := by
  unfold teardownDetach
  dsimp only
  split
  · exact .inl rfl
  · rw [teardownReturn_eq]
    exact .inl rfl

private theorem lanClosed_undisturbed (k : Closer) (n : SessionId) :
    Undisturbed n w (lanClosed k w) := by
  unfold lanClosed
  dsimp only
  split <;>
  · rw [teardownReturn_eq]
    exact .inl rfl

private theorem clientLeave_undisturbed (c : ClientId) (n : SessionId) :
    Undisturbed n w (clientLeave c w) := by
  unfold clientLeave
  dsimp only
  split
  · obtain ⟨_, _, _, _, h⟩ := rescheduleClose_eq postClientGraceSeconds { w with writer := none }
    rw [h]
    exact .inl rfl
  · exact .inl rfl

theorem undisturbed_of_not_pump (ha : a.pump? = none) (n : SessionId) :
    Undisturbed n w (a.next crypto w) := by
  cases a with
  | pumpStart | pumpRead | pumpDrained | pumpCancelled => cases ha
  | stopEnter =>
    apply teardownUpstream_undisturbed
    rfl
  | maybeCloseUpstream => exact maybeCloseUpstream_undisturbed n
  | prewarmEnter p host related => exact prewarmEnter_undisturbed p host related n
  | clientEnter c host related => exact clientEnter_undisturbed c host related n
  | keyFetched o host related key => exact keyFetched_undisturbed o key n
  | lanStart o m priv => exact lanStart_undisturbed o m priv n
  | lanStarted o m => exact lanStarted_undisturbed o m n
  | pumpJoined k m => exact teardownDetach_undisturbed k n
  | lanClosed k m => exact lanClosed_undisturbed k n
  | asyncStart =>
    change Undisturbed n w (asyncStart w)
    unfold asyncStart
    split <;> exact .inl rfl
  | asyncStop =>
    change Undisturbed n w (asyncStop w)
    unfold asyncStop
    split <;> exact .inl rfl
  | clientSnapshot c byEvent =>
    obtain ⟨_, _, _, h⟩ := writeBurst_eq c .awaitingRegister w
    change Undisturbed n w (writeBurst c .awaitingRegister w)
    rw [h]
    exact .inl rfl
  | clientFlushed c ok =>
    change Undisturbed n w (clientFlushed c ok w)
    unfold clientFlushed
    split <;> exact .inl rfl
  | clientLeave c => exact clientLeave_undisturbed c n
  | _ => exact .inl rfl

theorem steps_of_pump (ha : a.Enabled w) {n : SessionId} (hn : a.pump? = some n) :
    PumpSteps crypto n w a (a.next crypto w) := by
  cases a with
  | pumpStart m =>
    cases hn
    exact pumpStart_steps ha
  | pumpRead m lan decoder raw =>
    cases hn
    exact pumpRead_steps raw ha
  | pumpDrained m lan decoder c drained =>
    cases hn
    exact pumpDrained_steps drained ha
  | pumpCancelled m =>
    cases hn
    exact .cancelled ha
  | _ => cases hn

/-- Only its own steps end a pump. -/
theorem pump_of_ends (ha : a.Enabled w) {n : SessionId} (hn : w.pumps n ≠ .done)
    (hdone : (a.next crypto w).pumps n = .done) : a.pump? = some n := by
  cases ha? : a.pump? with
  | none =>
    have hundisturbed : Undisturbed n w (a.next crypto w) := undisturbed_of_not_pump ha? n
    rw [Undisturbed, hdone] at hundisturbed
    rcases hundisturbed with hold | hnew | hnew
    · exact absurd hold.symm hn
    · cases hnew
    · cases hnew
  | some m =>
    have hsteps : PumpSteps crypto m w a (a.next crypto w) := steps_of_pump ha ha?
    by_contra hnm
    rw [Option.some.injEq] at hnm
    exact hn ((hsteps.frame.others n (Ne.symm hnm)).symm.trans hdone)

/-- Under the relay's invariant a pump ends on what came from upstream, or on a drain. -/
theorem pumpEnd_of_ends (hcoherent : Coherent w.lock w.toCore) (ha : a.Enabled w)
    {n : SessionId} (hn : w.pumps n ≠ .done) (hdone : (a.next crypto w).pumps n = .done) :
    a.pumpEnd.Upstream ∨ ∃ lan decoder c, a = .pumpDrained n lan decoder c .raised := by
  have hpump := pump_of_ends ha hn hdone
  cases a with
  | pumpCancelled => exact .inl trivial
  | pumpRead m lan decoder raw =>
    left
    match raw with
    | .error _ | .ok [] | .ok (_ :: _) => trivial
  | pumpStart m =>
    cases hpump
    have hpc : w.pumps n = .created := ha
    have hlan := hcoherent.lan_of_running (n := n) (by rw [hpc]; trivial)
    have hdecoder := hcoherent.decoder_eq.trans hlan
    change (pumpStart n w).pumps n = .done at hdone
    simp [pumpStart, hlan, hdecoder] at hdone
  | pumpDrained m lan decoder c drained =>
    cases hpump
    cases drained with
    | raised => exact .inr ⟨lan, decoder, c, rfl⟩
    | ok =>
      change Function.update w.pumps n (.reading lan decoder) n = .done at hdone
      simp at hdone
    | brokenPipe =>
      change (pumpDrained n lan decoder c .brokenPipe w).pumps n = .done at hdone
      unfold pumpDrained at hdone
      dsimp only at hdone
      split at hdone <;> simp [notifyStateChange] at hdone
  | _ => cases hpump

/-- A round of the pump's loop with nobody attached: the decoder, and what is appended. -/
def pumpRaw (crypto : Crypto Priv Pub) (s : List Bytes × Cpd7Decoder Priv) (raw : Bytes) :
    List Bytes × Cpd7Decoder Priv :=
  match feed crypto absorbPlain s.2 raw with
  | .error _ => s
  | .ok d => (if (take d).1 = [] then s.1 else s.1 ++ [(take d).1], (take d).2)

def pumpAlone (crypto : Crypto Priv Pub) (priv : Priv) (raws : List Bytes) :
    List Bytes × Cpd7Decoder Priv :=
  raws.foldl (pumpRaw crypto) ([], .fresh priv)

theorem pumpAlone_append (priv : Priv) (raws : List Bytes) (raw : Bytes) :
    pumpAlone crypto priv (raws ++ [raw]) = pumpRaw crypto (pumpAlone crypto priv raws) raw := by
  rw [pumpAlone, List.foldl_append]
  rfl

private theorem appended_next (m n : SessionId) (produced : List (Entry UInt8 Audience))
    (plain : Bytes) (note : Audience) :
    appended m (produced ++ [Journal.next n produced plain note]) =
      appended m produced ++ if n = m then [plain] else [] := by
  by_cases h : n = m <;> simp [appended, Journal.next, h]

/-- Every session that was attached has fed its decoder the raw chunks and appended what came out,
and the buffer and the byte count are made of that. -/
structure Pumped (crypto : Crypto Priv Pub) (w : World Priv) (raws : SessionId → List Bytes) :
    Prop where
  absent : ∀ n, w.pumps n = .absent → raws n = [] ∧ appended n w.produced = []
  fed : ∀ n, w.pumps n ≠ .absent → ∃ priv d, w.lanPriv n = some priv ∧ w.decoders n = some d ∧
    pumpAlone crypto priv (raws n) = (appended n w.produced, d)
  buffer : ∀ n, w.lan = some n →
    w.buffer = (appended n w.produced).foldl (extendBuffer bufferTrimTarget) [] ∧
      w.sessionBytes = ((appended n w.produced).map List.length).sum

namespace Pumped

variable {raws : SessionId → List Bytes} {w' : World Priv}

private theorem frame (h : Pumped crypto w raws)
    (hpumps : ∀ n, w'.pumps n = .absent ↔ w.pumps n = .absent)
    (hpriv : ∀ n, w.pumps n ≠ .absent → w'.lanPriv n = w.lanPriv n)
    (hdecoders : w'.decoders = w.decoders) (hproduced : w'.produced = w.produced)
    (hlan : ∀ n, w'.lan = some n →
      w.lan = some n ∧ w'.buffer = w.buffer ∧ w'.sessionBytes = w.sessionBytes) :
    Pumped crypto w' raws := by
  constructor
  · intro n hn
    rw [hproduced]
    exact h.absent n ((hpumps n).1 hn)
  · intro n hn
    have hold : w.pumps n ≠ .absent := fun habsent => hn ((hpumps n).2 habsent)
    rw [hpriv n hold, hdecoders, hproduced]
    exact h.fed n hold
  · intro n hn
    obtain ⟨hold, hbuffer, hbytes⟩ := hlan n hn
    rw [hbuffer, hbytes, hproduced]
    exact h.buffer n hold

private theorem same (h : Pumped crypto w raws) (hpumps : w'.pumps = w.pumps)
    (hpriv : w'.lanPriv = w.lanPriv) (hdecoders : w'.decoders = w.decoders)
    (hproduced : w'.produced = w.produced) (hlan : w'.lan = w.lan)
    (hbuffer : w'.buffer = w.buffer) (hbytes : w'.sessionBytes = w.sessionBytes) :
    Pumped crypto w' raws :=
  h.frame (fun n => by rw [hpumps]) (fun n _ => by rw [hpriv]) hdecoders hproduced fun n hn =>
    ⟨hlan ▸ hn, hbuffer, hbytes⟩

private theorem move (h : Pumped crypto w raws) {n : SessionId} {pc : PumpPc}
    (hn : w.pumps n ≠ .absent) (hpc : pc ≠ .absent)
    (hpumps : w'.pumps = Function.update w.pumps n pc)
    (hpriv : w'.lanPriv = w.lanPriv) (hdecoders : w'.decoders = w.decoders)
    (hproduced : w'.produced = w.produced)
    (hlan : ∀ n, w'.lan = some n →
      w.lan = some n ∧ w'.buffer = w.buffer ∧ w'.sessionBytes = w.sessionBytes) :
    Pumped crypto w' raws := by
  refine h.frame (fun m => ?_) (fun m _ => by rw [hpriv]) hdecoders hproduced hlan
  rw [hpumps]
  by_cases hmn : m = n
  · subst hmn
    simp [hpc, hn]
  · rw [Function.update_of_ne hmn]

private theorem teardown (h : Pumped crypto w raws) (hcoherent : ∀ n, w.pumpTask = some n →
      w.pumps n ≠ .absent) (k : Closer) : Pumped crypto (teardownUpstream k w) raws := by
  have hbegins := teardownUpstream_begins k w
  generalize teardownUpstream k w = w' at hbegins
  cases hbegins with
  | awaits n htask =>
    exact h.move (hcoherent n htask) (by simp) rfl rfl rfl rfl fun m hm => ⟨hm, rfl, rfl⟩
  | closes =>
    refine h.frame (fun _ => Iff.rfl) (fun _ _ => rfl) rfl rfl fun n hn => ?_
    cases hn
  | returns =>
    rw [teardownReturn_eq]
    refine h.frame (fun _ => Iff.rfl) (fun _ _ => rfl) rfl rfl fun n hn => ?_
    cases hn

private theorem spinUp (h : Pumped crypto w raws) (hcoherent : ∀ n, w.pumpTask = some n →
      w.pumps n ≠ .absent) (o : Opener) (host related : String) :
    Pumped crypto (spinUpUpstream o host related w) raws := by
  unfold spinUpUpstream spinUpFailed
  split
  · apply teardown
    · exact h.same rfl rfl rfl rfl rfl rfl rfl
    · exact hcoherent
  · exact h.same rfl rfl rfl rfl rfl rfl rfl

private theorem attach (h : Pumped crypto w raws) {n : SessionId} {priv : Priv}
    (habsent : w.pumps n = .absent) (hpriv : w.lanPriv n = some priv) :
    Pumped crypto (attachSession n w) raws := by
  obtain ⟨hraws, happended⟩ := h.absent n habsent
  constructor
  · intro m hm
    change Function.update w.pumps n .created m = .absent at hm
    by_cases hmn : m = n
    · simp [hmn] at hm
    · rw [Function.update_of_ne hmn] at hm
      exact h.absent m hm
  · intro m hm
    change Function.update w.pumps n .created m ≠ .absent at hm
    by_cases hmn : m = n
    · subst hmn
      refine ⟨priv, .fresh priv, hpriv, ?_, ?_⟩
      · change Function.update w.decoders m ((w.lanPriv m).map Cpd7Decoder.fresh) m = _
        rw [Function.update_self, hpriv]
        rfl
      · change pumpAlone crypto priv (raws m) = (appended m w.produced, _)
        rw [hraws, happended]
        rfl
    · rw [Function.update_of_ne hmn] at hm
      obtain ⟨priv', d, hpriv', hd, hfed⟩ := h.fed m hm
      refine ⟨priv', d, hpriv', ?_, hfed⟩
      change Function.update w.decoders n _ m = _
      rwa [Function.update_of_ne hmn]
  · intro m hm
    change some n = some m at hm
    cases hm
    change [] = (appended n w.produced).foldl _ [] ∧ 0 = ((appended n w.produced).map _).sum
    rw [happended]
    exact ⟨rfl, rfl⟩

private theorem read (h : Pumped crypto w raws) {n : SessionId} {raw : Bytes}
    {d d' : Cpd7Decoder Priv} (hn : w.pumps n ≠ .absent) (hd : w.decoders n = some d)
    (hfeed : feed crypto absorbPlain d raw = .ok d')
    (hpumps : ∀ m, w'.pumps m = .absent ↔ w.pumps m = .absent) (hpriv : w'.lanPriv = w.lanPriv)
    (hdecoders : w'.decoders = Function.update w.decoders n (some (take d').2))
    (happended : ∀ m, appended m w'.produced = appended m w.produced ++
      if n = m ∧ (take d').1 ≠ [] then [(take d').1] else [])
    (hlan : w'.lan = some n) (hlan' : w.lan = some n)
    (hbuffer : w'.buffer = if (take d').1 = [] then w.buffer
      else extendBuffer bufferTrimTarget w.buffer (take d').1)
    (hbytes : w'.sessionBytes = w.sessionBytes + (take d').1.length) :
    Pumped crypto w' (Function.update raws n (raws n ++ [raw])) := by
  have hother (m : SessionId) (hmn : m ≠ n) :
      appended m w'.produced = appended m w.produced := by
    rw [happended, if_neg fun hnm => hmn hnm.1.symm, List.append_nil]
  constructor
  · intro m hm
    have hmn : m ≠ n := by
      intro heq
      subst heq
      exact hn ((hpumps m).1 hm)
    rw [Function.update_of_ne hmn, hother m hmn]
    exact h.absent m ((hpumps m).1 hm)
  · intro m hm
    have hold : w.pumps m ≠ .absent := fun habsent => hm ((hpumps m).2 habsent)
    obtain ⟨priv, e, hpriv', he, hfed⟩ := h.fed m hold
    rw [hpriv, hdecoders]
    by_cases hmn : m = n
    · subst hmn
      obtain rfl : d = e := Option.some.inj (hd.symm.trans he)
      refine ⟨priv, (take d').2, hpriv', by simp, ?_⟩
      rw [Function.update_self, pumpAlone_append, hfed, pumpRaw, hfeed, happended]
      by_cases hplain : (take d').1 = [] <;> simp [hplain]
    · rw [Function.update_of_ne hmn, Function.update_of_ne hmn, hother m hmn]
      exact ⟨priv, e, hpriv', he, hfed⟩
  · intro m hm
    rw [hlan] at hm
    cases hm
    obtain ⟨hold, hcount⟩ := h.buffer n hlan'
    rw [hbuffer, hbytes, happended, hcount]
    by_cases hplain : (take d').1 = []
    · simp [hplain, hold]
    · simp [hplain, hold]

end Pumped

private theorem appended_pumpChunk (m n lan decoder : SessionId) (plain : Bytes) (w : World Priv) :
    appended m (pumpChunk n lan decoder plain w).produced =
      appended m w.produced ++ if n = m then [plain] else [] := by
  rw [← appended_next m n w.produced plain ⟨w.writer, w.writer.any w.transportClosing⟩]
  unfold pumpChunk
  dsimp only
  split
  · split <;> rfl
  · rfl

theorem pumpRead_feeds (crypto : Crypto Priv Pub) (hcoherent : Coherent w.lock w.toCore)
    {n lan decoder : SessionId} (hpc : w.pumps n = .reading lan decoder) {raw : Bytes}
    (hraw : raw ≠ []) :
    ∃ d d', w.decoders n = some d ∧ feed crypto absorbPlain d raw = .ok d' ∧
      pumpRead crypto n lan decoder (.ok raw) w =
        if (take d').1 = [] then
          { w with decoders := Function.update w.decoders n (some (take d').2) }
        else pumpChunk n n n (take d').1
          { w with decoders := Function.update w.decoders n (some (take d').2) } := by
  obtain ⟨rfl, rfl⟩ : n = lan ∧ n = decoder := by
    have howns := hcoherent.owns n
    rw [hpc] at howns
    exact ⟨howns.1.symm, howns.2.symm⟩
  have hlan := hcoherent.lan_of_running (n := n) (by rw [hpc]; trivial)
  obtain ⟨_, d, hd, _⟩ := hcoherent.key n hlan
  obtain ⟨d', hfeed⟩ : ∃ d', feed crypto absorbPlain d raw = .ok d' :=
    ⟨_, Cpd7.feed_eq crypto absorbPlain d raw⟩
  refine ⟨d, d', hd, hfeed, ?_⟩
  cases raw with
  | nil => exact absurd rfl hraw
  | cons b raw => simp only [pumpRead, hd, Option.map_some, hfeed]

private theorem pumpRead_pumped (hcoherent : Coherent w.lock w.toCore)
    {raws : SessionId → List Bytes}
    (h : Pumped crypto w raws) {n lan decoder : SessionId} (hpc : w.pumps n = .reading lan decoder)
    {raw : Bytes} (hraw : raw ≠ []) :
    Pumped crypto (pumpRead crypto n lan decoder (.ok raw) w)
      (Function.update raws n (raws n ++ [raw])) := by
  have hlan := hcoherent.lan_of_running (n := n) (by rw [hpc]; trivial)
  have habsent : w.pumps n ≠ .absent := by simp [hpc]
  obtain ⟨d, d', hd, hfeed, hread⟩ := pumpRead_feeds crypto hcoherent hpc hraw
  rw [hread]
  split
  · rename_i hplain
    refine h.read habsent hd hfeed (fun _ => Iff.rfl) rfl rfl ?_ hlan hlan ?_ ?_
    · simp [hplain]
    · rw [if_pos hplain]
    · simp [hplain]
  · rename_i hplain
    obtain ⟨seen, pc, hpc', hcore⟩ := pumpChunk_toCore n n n (take d').1
      { w with decoders := Function.update w.decoders n (some (take d').2) }
    refine h.read habsent hd hfeed ?_ ?_ ?_ ?_ ?_ hlan ?_ ?_
    · intro m
      rw [hcore]
      by_cases hm : m = n
      · subst hm
        rcases hpc' with rfl | ⟨_, rfl⟩ <;> simp [hpc]
      · simp [Function.update_of_ne hm]
    · rw [hcore]
    · rw [hcore]
    · intro m
      rw [appended_pumpChunk]
      simp [hplain]
    · rw [hcore]
      exact hlan
    · rw [hcore, if_neg hplain]
    · rw [hcore]

private theorem pumped_next (hcoherent : Coherent w.lock w.toCore) {log : PumpLog}
    (h : Pumped crypto w log.raws) (ha : a.Enabled w) :
    Pumped crypto (a.next crypto w) (log.raw a) := by
  have htask (n : SessionId) (hn : w.pumpTask = some n) (hlock : ¬AwaitingPump w.lock) :
      w.pumps n ≠ .absent :=
    (hcoherent.current n ((hcoherent.pumpTask_eq hlock).symm.trans hn)).2
  by_cases hread : ∃ n lan decoder raw, a = .pumpRead n lan decoder raw
  · obtain ⟨n, lan, decoder, raw, rfl⟩ := hread
    have hpc : w.pumps n = .reading lan decoder := ha
    have habsent : w.pumps n ≠ .absent := by simp [hpc]
    match raw with
    | .error _ | .ok [] =>
      exact h.move habsent (by simp) rfl rfl rfl rfl fun m hm => ⟨hm, rfl, rfl⟩
    | .ok (b :: raw) => exact pumpRead_pumped hcoherent h hpc (List.cons_ne_nil b raw)
  · have hraw : log.raw a = log.raws := by
      unfold PumpLog.raw
      split
      · exact absurd ⟨_, _, _, _, rfl⟩ hread
      · rfl
    rw [hraw]
    have houtcome : Outcome crypto w a (a.next crypto w) := next_outcome ha
    generalize a.next crypto w = w' at houtcome ⊢
    cases houtcome with
    | outside ho =>
      have hcore := ho.toCore
      exact h.same (congrArg Core.pumps hcore) (congrArg Core.lanPriv hcore)
        (congrArg Core.decoders hcore) ho.produced (congrArg Core.lan hcore)
        (congrArg Core.buffer hcore) (congrArg Core.sessionBytes hcore)
    | asyncPrewarm | prewarmRenews | keyFetched | connect | clientRejected | handlerMoves
    | clientRegister | clientDetaches | timerFires | closeSpares | lanClose =>
      exact h.same rfl rfl rfl rfl rfl rfl rfl
    | stopEnter hlock =>
      apply Pumped.teardown
      · exact h.same rfl rfl rfl rfl rfl rfl rfl
      · exact fun n hn => htask n hn (by simp [hlock, AwaitingPump])
    | closeTearsDown hlock =>
      apply Pumped.teardown
      · exact h.same rfl rfl rfl rfl rfl rfl rfl
      · exact fun n hn => htask n hn (by simp [hlock, AwaitingPump])
    | openingFails o e hlock =>
      apply Pumped.teardown
      · exact h.same rfl rfl rfl rfl rfl rfl rfl
      · intro n hn
        apply htask n hn
        rcases hlock with ⟨_, _, hlock⟩ | ⟨_, hlock⟩ <;> simp [hlock, AwaitingPump]
    | prewarmSpinsUp p host related hlock =>
      apply Pumped.spinUp
      · exact h.same rfl rfl rfl rfl rfl rfl rfl
      · exact fun n hn => htask n hn (by simp [hlock, AwaitingPump])
    | clientSpinsUp c host related hlock =>
      apply Pumped.spinUp
      · exact h.same rfl rfl rfl rfl rfl rfl rfl
      · exact fun n hn => htask n hn (by simp [hlock, AwaitingPump])
    | lanStarts o n priv hlock =>
      refine h.frame (fun _ => Iff.rfl) (fun m hm => ?_) rfl rfl fun m hm => ⟨hm, rfl, rfl⟩
      apply Function.update_of_ne
      intro hmn
      subst hmn
      exact hm (hcoherent.starting o m (.inl hlock)).2.1
    | prewarmAttaches p n hlock =>
      obtain ⟨_, priv, hpriv⟩ := hcoherent.started _ n hlock
      have hattach := h.attach (hcoherent.starting _ n (.inr hlock)).2.1 hpriv
      exact hattach.same rfl rfl rfl rfl rfl rfl rfl
    | clientAttaches c n hlock =>
      obtain ⟨_, priv, hpriv⟩ := hcoherent.started _ n hlock
      have hattach := h.attach (hcoherent.starting _ n (.inr hlock)).2.1 hpriv
      exact hattach.same rfl rfl rfl rfl rfl rfl rfl
    | pumpJoined k n hlock =>
      rw [teardownDetach, (hcoherent.awaiting k n hlock).2.1]
      refine h.frame (fun _ => Iff.rfl) (fun _ _ => rfl) rfl rfl fun m hm => ?_
      cases hm
    | lanClosed k n hlock =>
      rw [teardownReturn_eq]
      refine h.frame (fun _ => Iff.rfl) (fun _ _ => rfl) rfl rfl fun m hm => ?_
      have hlan := hcoherent.detached (by rw [hlock]; trivial)
      have hm : w.lan = some m := hm
      rw [hlan] at hm
      cases hm
    | clientBursts c =>
      obtain ⟨_, _, _, hw⟩ := writeBurst_eq c .awaitingKeyframe _
      rw [hw]
      exact h.same rfl rfl rfl rfl rfl rfl rfl
    | clientSnapshot c =>
      obtain ⟨_, _, _, hw⟩ := writeBurst_eq c .awaitingRegister w
      rw [hw]
      exact h.same rfl rfl rfl rfl rfl rfl rfl
    | pump n hsteps =>
      cases hsteps with
      | feeds | produces => exact absurd ⟨_, _, _, _, rfl⟩ hread
      | ends hpc =>
        have habsent : w.pumps n ≠ .absent := by
          intro hn
          rw [hn] at hpc
          exact hpc
        exact h.move habsent (by simp) rfl rfl rfl rfl fun m hm => ⟨hm, rfl, rfl⟩
      | starts lan decoder hpc | resumes lan decoder c hpc | breaks lan decoder c hpc
      | detaches lan decoder c hpc | cancelled hpc =>
        exact h.move (n := n) (by simp [hpc]) (by simp) rfl rfl rfl rfl fun m hm => ⟨hm, rfl, rfl⟩

theorem pumped_of_reachable {allowed : World Priv → Action Priv → Prop} {s : World Priv × PumpLog}
    (h : (loggedRelay crypto).ReachableUnder (fun s a => allowed s.1 a) s) :
    Pumped crypto s.1 s.2.raws := by
  apply h.invariant
  · intro s hinit
    obtain ⟨⟨stats, clock, _, hworld⟩, hlog⟩ := hinit
    rw [hworld, hlog]
    refine ⟨fun _ _ => ⟨rfl, rfl⟩, fun n hn => absurd rfl hn, fun n hn => ?_⟩
    cases hn
  · intro s a s' hs hpumped _ hstep
    obtain ⟨hstep, hlog⟩ := recording_step.1 hstep
    obtain ⟨ha, hnext⟩ := relay_step.1 hstep
    rw [← hnext, hlog]
    exact pumped_next (coherent_of_reachable hs.of_recording) hpumped ha

theorem Pumped.agrees {w w' : World Priv} {raws raws' : SessionId → List Bytes}
    (h : Pumped crypto w raws) (h' : Pumped crypto w' raws') {m n : SessionId}
    (hpriv : w'.lanPriv m = w.lanPriv n) (hraws : raws' m = raws n) :
    appended m w'.produced = appended n w.produced := by
  have hempty {w : World Priv} {raws : SessionId → List Bytes} (h : Pumped crypto w raws)
      {n : SessionId} (hraws : raws n = []) : appended n w.produced = [] := by
    by_cases hn : w.pumps n = .absent
    · exact (h.absent n hn).2
    · obtain ⟨priv, d, _, _, hfed⟩ := h.fed n hn
      rw [hraws] at hfed
      exact (congrArg Prod.fst hfed).symm
  by_cases hm : w'.pumps m = .absent
  · have hnil := (h'.absent m hm).1
    rw [hempty h' hnil, hempty h (hraws.symm.trans hnil)]
  · by_cases hn : w.pumps n = .absent
    · have hnil := (h.absent n hn).1
      rw [hempty h hnil, hempty h' (hraws.trans hnil)]
    · obtain ⟨priv', d', hpriv', _, hfed'⟩ := h'.fed m hm
      obtain ⟨priv, d, hpriv'', _, hfed⟩ := h.fed n hn
      obtain rfl : priv' = priv :=
        Option.some.inj ((hpriv'.symm.trans hpriv).trans hpriv'')
      rw [hraws, hfed] at hfed'
      exact (congrArg Prod.fst hfed').symm

end EzvizHp7.Relay
