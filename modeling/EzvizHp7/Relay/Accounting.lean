import EzvizHp7.Relay.Sessions

/-!
# The byte and session counters

`lan_session_total_bytes` takes over a session's bytes when the session is torn down, and
`_session_bytes` starts over when the next one is attached. A pump that ends by itself leaves its
session attached, so a session may be replaced before anything was taken over.
-/

namespace EzvizHp7.Relay

open Cpd7 (Bytes Crypto basePointCrypto cameraBytes)
open Transition System World

variable {Priv Pub : Type}

/-- The decoded bytes that all pumps have produced. -/
def World.decodedBytes (w : World Priv) : Nat := (w.produced.map fun e => e.piece.data.length).sum

def World.spinningUp (w : World Priv) : Bool := w.lock.any fun h => h.opener?.isSome

/-- Without a live pump these enter `_spin_up_upstream`. -/
def Action.entersSpinUp (w : World Priv) : Action Priv → Bool
  | .prewarmEnter _ _ _ | .clientEnter _ _ _ => !w.isPumpAlive
  | _ => false

/-- A spin-up is completed, by a return or by an exception. -/
def countAttempt (w : World Priv) (a : Action Priv) (w' : World Priv) (attempts : Nat) : Nat :=
  if (w.spinningUp || a.entersSpinUp w) && !w'.spinningUp then attempts + 1 else attempts

def ActivityStats.zero : ActivityStats := ⟨0, 0, 0, 0, 0, 0, 0, 0, 0, 0, 0, 0⟩

def countedRelay (crypto : Crypto Priv Pub) : System (World Priv × Nat) (Action Priv) :=
  ((relay crypto).recording 0 countAttempt).restrict fun s => s.1.stats = some .zero

/-- Whenever nobody holds the lock, every decoded byte is counted once and every completed
spin-up as started or as failed. -/
def Conserved (s : World Priv × Nat) : Prop :=
  ∃ stats, s.1.stats = some stats ∧ (s.1.lock = none →
    stats.lanSessionTotalBytes + s.1.sessionBytes = s.1.decodedBytes ∧
      stats.lanSessionsStarted + stats.lanSessionsFailed = s.2)

/-- No session is attached over one whose bytes were not taken over. -/
def AttachesSettled (w : World Priv) : Action Priv → Prop
  | .lanStarted _ _ => w.sessionBytes = 0
  | _ => True

instance (w : World Priv) (a : Action Priv) : Decidable (AttachesSettled w a) := by
  induction a using Action.casesOn <;> unfold AttachesSettled <;> infer_instance

structure Ledger where
  totalBytes : Nat
  started : Nat
  failed : Nat

def ActivityStats.ledger (s : ActivityStats) : Ledger :=
  ⟨s.lanSessionTotalBytes, s.lanSessionsStarted, s.lanSessionsFailed⟩

def World.ledger (w : World Priv) : Option Ledger := w.stats.map ActivityStats.ledger

/-- There is a session whose bytes are still to be taken over. -/
def World.InSession (w : World Priv) : Prop := w.lan ≠ none ∨ ClosingLan w.lock

/-- Nothing is decoded and no session begins. -/
structure Books (w w' : World Priv) : Prop where
  sessionBytes : w'.sessionBytes = w.sessionBytes
  produced : w'.produced = w.produced
  clock : w.clock ≤ w'.clock
  session : w'.InSession → w.InSession ∧ w'.sessionStartedAt = w.sessionStartedAt

/-- Everything a step can do to the counters. -/
inductive LedgerStep (w : World Priv) (a : Action Priv) (w' : World Priv) : Prop
  | keeps (hbooks : Books w w') (hledger : w'.ledger = w.ledger)
      (hspin : w'.spinningUp = true ∨ w.spinningUp = false ∧ a.entersSpinUp w = false)
  | fails (hbooks : Books w w')
      (hledger : w'.ledger = w.ledger.map fun l => { l with failed := l.failed + 1 })
      (hspin : (w.spinningUp || a.entersSpinUp w) = true) (hspin' : w'.spinningUp = false)
  | attaches (o : Opener) (n : SessionId) (ha : a = .lanStarted o n)
      (hledger : w'.ledger = w.ledger.map fun l => { l with started := l.started + 1 })
      (hbytes : w'.sessionBytes = 0) (hproduced : w'.produced = w.produced)
      (hclock : w'.clock = w.clock) (hstarted : w'.sessionStartedAt = w.clock)
      (hspin : w.spinningUp = true) (hlock : w'.lock = none)
  | settles (hsession : w.InSession) (hsession' : ¬w'.InSession)
      (hledger : w'.ledger = w.ledger.map fun l =>
        { l with
          totalBytes := l.totalBytes + if w.sessionStartedAt ≠ 0 then w.sessionBytes else 0 })
      (hbytes : w'.sessionBytes = 0) (hproduced : w'.produced = w.produced)
      (hclock : w'.clock = w.clock) (hspin : w.spinningUp = false)
      (hentered : a.entersSpinUp w = false)
  | produces (plain : Bytes) (hledger : w'.ledger = w.ledger)
      (hbytes : w'.sessionBytes = w.sessionBytes + plain.length)
      (hproduced : w'.decodedBytes = w.decodedBytes + plain.length) (hclock : w'.clock = w.clock)
      (hsession : w'.InSession → w.InSession)
      (hstarted : w'.sessionStartedAt = w.sessionStartedAt)
      (hspin : w'.spinningUp = w.spinningUp) (hentered : a.entersSpinUp w = false)

private theorem ledger_map {w w' : World Priv} {f : ActivityStats → ActivityStats}
    {g : Ledger → Ledger}
    (hstats : w'.stats = w.stats.map f) (hf : ∀ s, (f s).ledger = g s.ledger) :
    w'.ledger = w.ledger.map g := by
  rw [World.ledger, World.ledger, hstats, Option.map_map, Option.map_map]
  exact congrArg (w.stats.map ·) (funext hf)

private theorem ledger_bump {w w' : World Priv} {f : ActivityStats → ActivityStats}
    (hstats : w'.stats = w.stats.map f) (hf : ∀ s, (f s).ledger = s.ledger) :
    w'.ledger = w.ledger := by
  rw [ledger_map (g := id) hstats hf, Option.map_id, id]

namespace Books

variable {w w' w'' : World Priv}

theorem refl (w : World Priv) : Books w w := ⟨rfl, rfl, le_rfl, fun h => ⟨h, rfl⟩⟩

theorem trans (h : Books w w') (h' : Books w' w'') : Books w w'' where
  sessionBytes := h'.sessionBytes.trans h.sessionBytes
  produced := h'.produced.trans h.produced
  clock := h.clock.trans h'.clock
  session hs := by
    obtain ⟨hs', hstarted'⟩ := h'.session hs
    obtain ⟨hs'', hstarted⟩ := h.session hs'
    exact ⟨hs'', hstarted'.trans hstarted⟩

theorem same (hbytes : w'.sessionBytes = w.sessionBytes) (hproduced : w'.produced = w.produced)
    (hclock : w.clock ≤ w'.clock) (hlan : w'.lan = w.lan)
    (hlock : ClosingLan w'.lock → ClosingLan w.lock)
    (hstarted : w'.sessionStartedAt = w.sessionStartedAt) : Books w w' :=
  ⟨hbytes, hproduced, hclock, fun hs =>
    ⟨hs.imp (fun hne => by rwa [← hlan]) hlock, hstarted⟩⟩

/-- A teardown has nothing attached to close. -/
theorem returned (hbytes : w'.sessionBytes = w.sessionBytes)
    (hproduced : w'.produced = w.produced) (hclock : w.clock ≤ w'.clock) (hlan : w'.lan = none)
    (k : Closer) : Books w (teardownReturn k w') := by
  rw [teardownReturn_eq]
  refine ⟨hbytes, hproduced, hclock, fun hs => ?_⟩
  exfalso
  rcases hs with hs | hs
  · exact hs hlan
  · exact k.after_not_closing hs

end Books

private theorem teardownReturn_spinningUp (k : Closer) (w : World Priv) :
    (teardownReturn k w).spinningUp = false := by
  match k with
  | .opener (.client _) | .opener (.prewarm _) | .timer | .stop => rfl

private theorem teardownUpstream_books (k : Closer) (w : World Priv) :
    Books w (teardownUpstream k w) ∧ (teardownUpstream k w).ledger = w.ledger ∧
      (teardownUpstream k w).spinningUp = false := by
  have hbegins := teardownUpstream_begins k w
  generalize teardownUpstream k w = w' at hbegins
  cases hbegins with
  | awaits n => exact ⟨.same rfl rfl le_rfl rfl False.elim rfl, rfl, rfl⟩
  | closes n hlan => exact ⟨⟨rfl, rfl, le_rfl, fun _ => ⟨.inl (by simp [hlan]), rfl⟩⟩, rfl, rfl⟩
  | returns hlan =>
    refine ⟨?_, ?_, teardownReturn_spinningUp k _⟩
    · apply Books.returned
      · rfl
      · rfl
      · exact le_rfl
      · rfl
    · rw [teardownReturn_eq]
      rfl

variable {crypto : Crypto Priv Pub} {w : World Priv} {a : Action Priv}

private theorem spinUpFailed_step (o : Opener) (e : String) {w₀ : World Priv} (hbooks : Books w w₀)
    (hledger : w₀.ledger = w.ledger) (hspin : (w.spinningUp || a.entersSpinUp w) = true) :
    LedgerStep w a (spinUpFailed o e w₀) := by
  let counted : World Priv :=
    { w₀.bump fun s =>
        { s with errorsLan := s.errorsLan + 1, lanSessionsFailed := s.lanSessionsFailed + 1 } with
      failures := w₀.failures ++ [e] }
  have hcounted : Books w₀ counted := ⟨rfl, rfl, le_rfl, fun hs => ⟨hs, rfl⟩⟩
  have hfailed : counted.ledger = w₀.ledger.map fun l => { l with failed := l.failed + 1 } :=
    ledger_map rfl fun _ => rfl
  obtain ⟨hbooks', hledger', hspin'⟩ := teardownUpstream_books (.opener o) counted
  refine .fails ((hbooks.trans hcounted).trans hbooks') ?_ hspin hspin'
  rw [← hledger, ← hfailed]
  exact hledger'

private theorem spinUpUpstream_step (o : Opener) (host related : String) {w₀ : World Priv}
    (hbooks : Books w w₀) (hledger : w₀.ledger = w.ledger)
    (hspin : (w.spinningUp || a.entersSpinUp w) = true) :
    LedgerStep w a (spinUpUpstream o host related w₀) := by
  unfold spinUpUpstream
  split
  · exact spinUpFailed_step o _ hbooks hledger hspin
  · refine .keeps (hbooks.trans (.same rfl rfl le_rfl rfl False.elim rfl)) hledger (.inl rfl)

/-- A step that touches neither the counters nor the lock. -/
theorem LedgerStep.idle {w' : World Priv} (hbooks : Books w w') (hledger : w'.ledger = w.ledger)
    (hlock : w'.lock = w.lock) (hentered : a.entersSpinUp w = false) : LedgerStep w a w' := by
  refine .keeps hbooks hledger ?_
  cases hspin : w.spinningUp with
  | false => exact .inr ⟨rfl, hentered⟩
  | true =>
    left
    rw [World.spinningUp, hlock]
    exact hspin

def World.accounts (w : World Priv) :
    Option Ledger × Nat × List (Journal.Entry UInt8 Audience) × Rat × Option SessionId ×
      Option Holder × Rat :=
  (w.ledger, w.sessionBytes, w.produced, w.clock, w.lan, w.lock, w.sessionStartedAt)

private theorem books_of_eq {w₀ : World Priv}
    (h : (w₀.sessionBytes, w₀.produced, w₀.clock, w₀.lan, w₀.lock, w₀.sessionStartedAt) =
      (w.sessionBytes, w.produced, w.clock, w.lan, w.lock, w.sessionStartedAt)) :
    Books w w₀ := by
  simp only [Prod.mk.injEq] at h
  obtain ⟨hbytes, hproduced, hclock, hlan, hlock, hstarted⟩ := h
  refine .same hbytes hproduced hclock.ge hlan ?_ hstarted
  rw [hlock]
  exact id

theorem LedgerStep.untouched {w' : World Priv} (h : w'.accounts = w.accounts)
    (hentered : a.entersSpinUp w = false) : LedgerStep w a w' := by
  have hrest := congrArg Prod.snd h
  have hlock : w'.lock = w.lock := congrArg (fun p => p.2.2.2.2.1) hrest
  exact .idle (books_of_eq hrest) (congrArg Prod.fst h) hlock hentered

private theorem pumpChunk_step {n lan decoder : SessionId} (plain : Bytes) {w₀ : World Priv}
    (hbytes : w₀.sessionBytes = w.sessionBytes) (hproduced : w₀.produced = w.produced)
    (hledger : w₀.ledger = w.ledger) (hclock : w₀.clock = w.clock) (hlan : w₀.lan = w.lan)
    (hlock : w₀.lock = w.lock) (hstarted : w₀.sessionStartedAt = w.sessionStartedAt)
    (hentered : a.entersSpinUp w = false) :
    LedgerStep w a (pumpChunk n lan decoder plain w₀) := by
  obtain ⟨seen, pc, _, hcore⟩ := pumpChunk_toCore n lan decoder plain w₀
  have hframe := pumpChunk_frame n lan decoder plain w₀
  have hrest : (pumpChunk n lan decoder plain w₀).stats = w₀.stats ∧
      (pumpChunk n lan decoder plain w₀).clock = w₀.clock ∧
      (pumpChunk n lan decoder plain w₀).decodedBytes = w₀.decodedBytes + plain.length := by
    unfold pumpChunk
    dsimp only
    split
    · split <;> exact ⟨rfl, rfl, by simp [World.decodedBytes, Journal.next]⟩
    · exact ⟨rfl, rfl, by simp [World.decodedBytes, Journal.next]⟩
  obtain ⟨hstats, hclock', hdecoded⟩ := hrest
  refine .produces plain ?_ ?_ ?_ (hclock'.trans hclock) ?_ ?_ ?_ hentered
  · rw [World.ledger, hstats]
    exact hledger
  · rw [hcore, ← hbytes]
  · rw [hdecoded, World.decodedBytes, hproduced, World.decodedBytes]
  · intro hs
    rwa [World.InSession, hframe.lan, hframe.lock, hlan, hlock] at hs
  · rw [hcore]
    exact hstarted
  · rw [World.spinningUp, hframe.lock, hlock, World.spinningUp]

private theorem teardown_step (k : Closer) {w₀ : World Priv} (hbooks : Books w w₀)
    (hledger : w₀.ledger = w.ledger) (hspin : w.spinningUp = false)
    (hentered : a.entersSpinUp w = false) : LedgerStep w a (teardownUpstream k w₀) := by
  obtain ⟨hbooks', hledger', _⟩ := teardownUpstream_books k w₀
  exact .keeps (hbooks.trans hbooks') (hledger'.trans hledger) (.inr ⟨hspin, hentered⟩)

private theorem lanStarted_books (o : Opener) (n : SessionId) (w : World Priv) :
    (lanStarted o n w).ledger = w.ledger.map (fun l => { l with started := l.started + 1 }) ∧
      (lanStarted o n w).sessionBytes = 0 ∧ (lanStarted o n w).produced = w.produced ∧
      (lanStarted o n w).clock = w.clock ∧ (lanStarted o n w).sessionStartedAt = w.clock ∧
      (lanStarted o n w).lock = none := by
  have hledger : (attachSession n w).ledger =
      w.ledger.map fun l => { l with started := l.started + 1 } := ledger_map rfl fun _ => rfl
  unfold lanStarted
  split
  · obtain ⟨_, _, _, _, hw⟩ := rescheduleClose_eq _ (attachSession n w)
    rw [hw]
    exact ⟨hledger, rfl, rfl, rfl, rfl, rfl⟩
  · exact ⟨hledger, rfl, rfl, rfl, rfl, rfl⟩

private theorem spinningUp_of_lock {h : Holder} (hlock : w.lock = some h) :
    w.spinningUp = h.opener?.isSome := by
  rw [World.spinningUp, hlock]
  rfl

private theorem spinningUp_of_free (hlock : w.lock = none) : w.spinningUp = false := by
  rw [World.spinningUp, hlock]
  rfl

private theorem maybeCloseUpstream_step (hlock : w.lock = none) :
    LedgerStep w .maybeCloseUpstream (maybeCloseUpstream w) := by
  unfold maybeCloseUpstream
  dsimp only
  split
  · exact .untouched rfl rfl
  · split
    · exact teardown_step _ (books_of_eq rfl) rfl (spinningUp_of_free hlock) rfl
    · exact .untouched rfl rfl

private theorem prewarmEnter_step (p : Prewarm) (host related : String) :
    LedgerStep w (.prewarmEnter p host related) (prewarmEnter p host related w) := by
  unfold prewarmEnter
  dsimp only
  split
  · rename_i halive
    obtain ⟨_, _, _, _, hw⟩ := rescheduleClose_eq p.holdSeconds _
    rw [hw]
    refine .idle (books_of_eq rfl) ?_ rfl (by simp [Action.entersSpinUp, halive])
    change (Option.map _ (Option.map _ w.stats)).map _ = w.stats.map _
    rw [Option.map_map, Option.map_map]
    rfl
  · rename_i hdead
    apply spinUpUpstream_step
    · exact books_of_eq rfl
    · exact ledger_bump rfl fun _ => rfl
    · simp [Action.entersSpinUp, hdead]

private theorem clientEnter_step (c : ClientId) (host related : String) :
    LedgerStep w (.clientEnter c host related) (clientEnter c host related w) := by
  unfold clientEnter
  split
  · rename_i halive
    obtain ⟨_, _, _, hw⟩ := writeBurst_eq c .awaitingKeyframe _
    rw [hw]
    exact .idle (books_of_eq rfl) (ledger_bump rfl fun _ => rfl) rfl
      (by simp [Action.entersSpinUp, halive])
  · rename_i hdead
    apply spinUpUpstream_step
    · exact books_of_eq rfl
    · rfl
    · simp [Action.entersSpinUp, hdead]

private theorem keyFetched_step {o : Opener} {host related : String} (key : Except String Bytes)
    (hlock : w.lock = some (.fetchingKey o host related)) :
    LedgerStep w (.keyFetched o host related key) (keyFetched o key w) := by
  have hspin : w.spinningUp = true := spinningUp_of_lock hlock
  unfold keyFetched
  split
  · exact spinUpFailed_step o _ (.refl w) rfl (by simp [hspin])
  · split
    · exact spinUpFailed_step o _ (.refl w) rfl (by simp [hspin])
    · exact .keeps (.same rfl rfl le_rfl rfl False.elim rfl) rfl (.inl rfl)

private theorem lanStart_step {o : Opener} {n : SessionId} (priv : Except String Priv)
    (hlock : w.lock = some (.starting o n)) :
    LedgerStep w (.lanStart o n priv) (lanStart o n priv w) := by
  have hspin : w.spinningUp = true := spinningUp_of_lock hlock
  unfold lanStart
  split
  · exact spinUpFailed_step o _ (.refl w) rfl (by simp [hspin])
  · exact .keeps (.same rfl rfl le_rfl rfl False.elim rfl) rfl (.inl rfl)

private theorem pumpJoined_step {k : Closer} {n : SessionId} (hcoherent : Coherent w.lock w.toCore)
    (hlock : w.lock = some (.awaitingPump k n)) :
    LedgerStep w (.pumpJoined k n) (teardownDetach k w) := by
  obtain ⟨_, hlan, _⟩ := hcoherent.awaiting k n hlock
  rw [teardownDetach, hlan]
  refine .keeps ⟨rfl, rfl, le_rfl, fun _ => ⟨.inl ?_, rfl⟩⟩ rfl
    (.inr ⟨spinningUp_of_lock hlock, rfl⟩)
  simp [hlan]

private theorem lanClosed_step {k : Closer} {n : SessionId} (hcoherent : Coherent w.lock w.toCore)
    (hlock : w.lock = some (.closedLan k n)) : LedgerStep w (.lanClosed k n) (lanClosed k w) := by
  have hlan : w.lan = none := hcoherent.detached (by rw [hlock]; trivial)
  have hspin : w.spinningUp = false := spinningUp_of_lock hlock
  have hsession : w.InSession := .inr (by rw [hlock]; trivial)
  have hafter {w' : World Priv} (hlan' : w'.lan = w.lan) (hlock' : w'.lock = k.after) :
      ¬w'.InSession := by
    rintro (hs | hs)
    · exact hs (hlan'.trans hlan)
    · rw [hlock'] at hs
      exact k.after_not_closing hs
  unfold lanClosed
  rw [teardownReturn_eq]
  by_cases hstarted : w.sessionStartedAt = 0
  · simp only [hstarted, ne_eq, not_true_eq_false, if_false]
    refine .settles hsession (hafter rfl rfl) ?_ rfl rfl rfl hspin rfl
    simp only [hstarted, ne_eq, not_true_eq_false, if_false]
    exact (congrFun Option.map_id w.ledger).symm
  · simp only [ne_eq, hstarted, not_false_eq_true, if_true]
    refine .settles hsession (hafter rfl rfl) ?_ rfl rfl rfl hspin rfl
    simp only [ne_eq, hstarted, not_false_eq_true, if_true]
    exact ledger_map rfl fun _ => rfl

private theorem clientLeave_step (c : ClientId) : LedgerStep w (.clientLeave c)
    (clientLeave c w) := by
  unfold clientLeave
  dsimp only
  split
  · obtain ⟨_, _, _, _, hw⟩ := rescheduleClose_eq postClientGraceSeconds { w with writer := none }
    rw [hw]
    exact .untouched rfl rfl
  · exact .untouched rfl rfl

private theorem pumpRead_step (n lan decoder : SessionId) (raw : Except String Bytes) :
    LedgerStep w (.pumpRead n lan decoder raw) (pumpRead crypto n lan decoder raw w) := by
  have hends : LedgerStep w (.pumpRead n lan decoder raw) (pumpError n w) :=
    .idle (books_of_eq rfl) (ledger_bump rfl fun _ => rfl) rfl rfl
  unfold pumpRead
  split
  · exact hends
  · exact .untouched rfl rfl
  · split
    · dsimp only
      split
      · exact .untouched rfl rfl
      · exact pumpChunk_step _ rfl rfl rfl rfl rfl rfl rfl rfl
    · exact hends

private theorem pumpDrained_step (n lan decoder : SessionId) (c : ClientId) (drained : Drained) :
    LedgerStep w (.pumpDrained n lan decoder c drained)
      (pumpDrained n lan decoder c drained w) := by
  cases drained with
  | ok => exact .untouched rfl rfl
  | brokenPipe =>
    unfold pumpDrained
    dsimp only
    split <;> exact .untouched rfl rfl
  | raised => exact .idle (books_of_eq rfl) (ledger_bump rfl fun _ => rfl) rfl rfl

private theorem ledger_next (hcoherent : Coherent w.lock w.toCore) (ha : a.Enabled w) :
    LedgerStep w a (a.next crypto w) := by
  cases a with
  | setStateListener | serverBound | serverFailed | serverClosed | asyncPrewarm | keyframeWaited
  | clientRegister | clientEof | clientClosed | transportLost | timerFires | pumpCancelled =>
    exact .untouched rfl rfl
  | clockAdvances seconds =>
    refine .idle ⟨rfl, rfl, ?_, fun hs => ⟨hs, rfl⟩⟩ rfl rfl rfl
    exact le_add_of_nonneg_right ha
  | asyncStart =>
    change LedgerStep w _ (asyncStart w)
    unfold asyncStart
    split <;> exact .untouched rfl rfl
  | asyncStop =>
    change LedgerStep w _ (asyncStop w)
    unfold asyncStop
    split <;> exact .untouched rfl rfl
  | connect => exact .idle (books_of_eq rfl) (ledger_bump rfl fun _ => rfl) rfl rfl
  | stopEnter => exact teardown_step _ (books_of_eq rfl) rfl (spinningUp_of_free ha.1) rfl
  | maybeCloseUpstream => exact maybeCloseUpstream_step ha.1
  | prewarmEnter p host related => exact prewarmEnter_step p host related
  | clientEnter c host related => exact clientEnter_step c host related
  | keyFetched o host related key => exact keyFetched_step key ha
  | lanStart o n priv => exact lanStart_step priv ha
  | lanStarted o n =>
    obtain ⟨hledger, hbytes, hproduced, hclock, hstarted, hlock⟩ := lanStarted_books o n w
    exact .attaches o n rfl hledger hbytes hproduced hclock hstarted (spinningUp_of_lock ha) hlock
  | pumpJoined k n => exact pumpJoined_step hcoherent ha.1
  | lanClose k n =>
    have hlock : w.lock = some (.closingLan k n) := ha
    refine .keeps (.same rfl rfl le_rfl rfl (fun _ => ?_) rfl) rfl
      (.inr ⟨spinningUp_of_lock hlock, rfl⟩)
    rw [hlock]
    trivial
  | lanClosed k n => exact lanClosed_step hcoherent ha
  | clientRejected c =>
    exact .keeps (.same rfl rfl le_rfl rfl False.elim rfl) rfl (.inr ⟨spinningUp_of_lock ha, rfl⟩)
  | clientSnapshot c byEvent =>
    obtain ⟨_, _, _, hw⟩ := writeBurst_eq c .awaitingRegister w
    change LedgerStep w _ (writeBurst c .awaitingRegister w)
    rw [hw]
    exact .untouched rfl rfl
  | clientFlushed c ok =>
    change LedgerStep w _ (clientFlushed c ok w)
    unfold clientFlushed
    split <;> exact .untouched rfl rfl
  | clientLeave c => exact clientLeave_step c
  | pumpStart n =>
    change LedgerStep w _ (pumpStart n w)
    unfold pumpStart
    split <;> exact .untouched rfl rfl
  | pumpRead n lan decoder raw => exact pumpRead_step n lan decoder raw
  | pumpDrained n lan decoder c drained => exact pumpDrained_step n lan decoder c drained

private theorem decodedBytes_eq {w w' : World Priv} (h : w'.produced = w.produced) :
    w'.decodedBytes = w.decodedBytes := by
  rw [World.decodedBytes, h, World.decodedBytes]

/-- The books are kept, every completed spin-up is counted, and a session that has bytes to take
over knows when it began. -/
structure Kept (s : World Priv × Nat) : Prop where
  clock : 0 < s.1.clock
  session : s.1.InSession → 0 < s.1.sessionStartedAt
  attempts : ∃ l, s.1.ledger = some l ∧ l.started + l.failed = s.2

/-- Every decoded byte is in one of the two counters. -/
def Balanced (w : World Priv) : Prop :=
  ∃ l, w.ledger = some l ∧ l.totalBytes + w.sessionBytes = w.decodedBytes

namespace LedgerStep

variable {w' : World Priv} {n : Nat}

theorem kept (hstep : LedgerStep w a w') (h : Kept (w, n)) :
    Kept (w', countAttempt w a w' n) := by
  obtain ⟨l, hl, hcount⟩ := h.attempts
  have hcount : l.started + l.failed = n := hcount
  have hclock : 0 < w.clock := h.clock
  have hsession : w.InSession → 0 < w.sessionStartedAt := h.session
  cases hstep with
  | keeps hbooks hledger hspin =>
    constructor
    · exact hclock.trans_le hbooks.clock
    · intro hs
      obtain ⟨hs', hstarted⟩ := hbooks.session hs
      exact (hsession hs').trans_eq hstarted.symm
    · refine ⟨l, hledger.trans hl, ?_⟩
      rcases hspin with hspin | ⟨hspin, hentered⟩
      · simpa [countAttempt, hspin] using hcount
      · simpa [countAttempt, hspin, hentered] using hcount
  | fails hbooks hledger hspin hspin' =>
    constructor
    · exact hclock.trans_le hbooks.clock
    · intro hs
      obtain ⟨hs', hstarted⟩ := hbooks.session hs
      exact (hsession hs').trans_eq hstarted.symm
    · refine ⟨_, by rw [hledger, hl]; rfl, ?_⟩
      simp only [countAttempt, hspin, hspin', Bool.not_false, Bool.and_self, if_true, ← hcount]
      exact (Nat.add_assoc ..).symm
  | attaches o m ha hledger hbytes hproduced hclock' hstarted hspin hlock =>
    have hspin' : w'.spinningUp = false := by
      rw [World.spinningUp, hlock]
      rfl
    constructor
    · exact hclock.trans_eq hclock'.symm
    · exact fun _ => hclock.trans_eq hstarted.symm
    · refine ⟨_, by rw [hledger, hl]; rfl, ?_⟩
      simp only [countAttempt, hspin, hspin', Bool.true_or, Bool.not_false, Bool.and_self,
        if_true, ← hcount]
      exact Nat.add_right_comm ..
  | settles _ hsession' hledger _ _ hclock' hspin hentered =>
    constructor
    · exact hclock.trans_eq hclock'.symm
    · exact fun hs => absurd hs hsession'
    · refine ⟨_, by rw [hledger, hl]; rfl, ?_⟩
      simpa [countAttempt, hspin, hentered] using hcount
  | produces plain hledger _ _ hclock' hsession' hstarted hspin hentered =>
    constructor
    · exact hclock.trans_eq hclock'.symm
    · exact fun hs => (hsession (hsession' hs)).trans_eq hstarted.symm
    · refine ⟨l, hledger.trans hl, ?_⟩
      cases hw : w.spinningUp with
      | false => simpa [countAttempt, hw, hspin, hentered] using hcount
      | true => simpa [countAttempt, hw, hspin, hentered] using hcount

theorem balanced (hstep : LedgerStep w a w') (h : Balanced w)
    (hstarted : w.InSession → 0 < w.sessionStartedAt) (hsettled : AttachesSettled w a) :
    Balanced w' := by
  obtain ⟨l, hl, hbytes⟩ := h
  cases hstep with
  | keeps hbooks hledger =>
    refine ⟨l, hledger.trans hl, ?_⟩
    rwa [hbooks.sessionBytes, decodedBytes_eq hbooks.produced]
  | fails hbooks hledger =>
    refine ⟨_, by rw [hledger, hl]; rfl, ?_⟩
    rwa [hbooks.sessionBytes, decodedBytes_eq hbooks.produced]
  | attaches o m ha hledger hbytes' hproduced =>
    subst ha
    have hzero : w.sessionBytes = 0 := hsettled
    refine ⟨_, by rw [hledger, hl]; rfl, ?_⟩
    rwa [hbytes', decodedBytes_eq hproduced, ← hzero]
  | settles hsession _ hledger hbytes' hproduced =>
    refine ⟨_, by rw [hledger, hl]; rfl, ?_⟩
    rw [hbytes', decodedBytes_eq hproduced, ← hbytes]
    simp [(hstarted hsession).ne']
  | produces plain hledger hbytes' hproduced =>
    refine ⟨l, hledger.trans hl, ?_⟩
    rw [hbytes', hproduced, ← hbytes]
    exact (Nat.add_assoc ..).symm

end LedgerStep

/-- Attaching over a session loses its bytes. -/
theorem lanStarted_loses (h : Balanced w) (hbytes : w.sessionBytes ≠ 0) (o : Opener)
    (n : SessionId) : ¬Balanced (lanStarted o n w) := by
  obtain ⟨l, hl, hbalanced⟩ := h
  obtain ⟨hledger, hbytes', hproduced, _⟩ := lanStarted_books o n w
  rintro ⟨l', hl', hbalanced'⟩
  rw [hledger, hl] at hl'
  cases hl'
  rw [hbytes', decodedBytes_eq hproduced, ← hbalanced] at hbalanced'
  exact hbytes (Nat.add_left_cancel hbalanced').symm

private theorem countedRelay_step {s s' : World Priv × Nat}
    (hs : (countedRelay crypto).Reachable s) (hstep : (countedRelay crypto).step a s = some s') :
    LedgerStep s.1 a s'.1 ∧ s'.1 = a.next crypto s.1 ∧ s'.2 = countAttempt s.1 a s'.1 s.2 := by
  obtain ⟨hstep, hcount⟩ := (@recording_step _ _ (relay crypto) _ 0 countAttempt a s s').1 hstep
  obtain ⟨ha, hnext⟩ := relay_step.1 hstep
  have hrun : (relay crypto).Reachable s.1 := hs.of_restrict.of_recording
  refine ⟨?_, hnext.symm, hcount⟩
  rw [← hnext]
  exact ledger_next (coherent_of_reachable hrun) ha

private theorem kept_of_reachable {s : World Priv × Nat} (h : (countedRelay crypto).Reachable s) :
    Kept s := by
  refine h.invariant ?_ fun s a s' hs hkept _ hstep => ?_
  · rintro ⟨_, _⟩ ⟨⟨⟨stats, clock, hclock, rfl⟩, rfl⟩, hstats⟩
    obtain rfl : stats = some .zero := hstats
    exact ⟨hclock, fun hs => hs.elim (fun hlan => absurd rfl hlan) False.elim, _, rfl, rfl⟩
  · obtain ⟨hledger, _, hcount⟩ := countedRelay_step hs hstep
    have hkept' := hledger.kept hkept
    rwa [← hcount] at hkept'

private theorem balanced_of_reachable {s : World Priv × Nat}
    (h : (countedRelay crypto).ReachableUnder (fun s a => AttachesSettled s.1 a) s) :
    Balanced s.1 := by
  refine h.invariant (P := fun s => Balanced s.1) ?_ fun s a s' hs hbalanced hsettled hstep => ?_
  · rintro ⟨_, _⟩ ⟨⟨⟨stats, clock, hclock, rfl⟩, rfl⟩, hstats⟩
    obtain rfl : stats = some .zero := hstats
    exact ⟨_, rfl, rfl⟩
  · obtain ⟨hledger, _, _⟩ := countedRelay_step hs.reachable hstep
    exact hledger.balanced hbalanced (kept_of_reachable hs.reachable).session hsettled

theorem Kept.stats {s : World Priv × Nat} (h : Kept s) : ∃ stats, s.1.stats = some stats ∧
    stats.lanSessionsStarted + stats.lanSessionsFailed = s.2 := by
  obtain ⟨l, hl, hcount⟩ := h.attempts
  obtain ⟨stats, hstats, rfl⟩ := Option.map_eq_some_iff.1 hl
  exact ⟨stats, hstats, hcount⟩

theorem Balanced.stats {stats : ActivityStats} (h : Balanced w) (hstats : w.stats = some stats) :
    stats.lanSessionTotalBytes + w.sessionBytes = w.decodedBytes := by
  obtain ⟨l, hl, hbytes⟩ := h
  rw [World.ledger, hstats] at hl
  cases hl
  exact hbytes

/-- Where no session is attached over one with bytes, the counters agree at every free lock. The
first that is leaves the bytes short, but every completed spin-up is still counted. -/
theorem bytes_conserved (crypto : Crypto Priv Pub) :
    (∀ s, (countedRelay crypto).ReachableUnder (fun s a => AttachesSettled s.1 a) s →
      Conserved s) ∧
    (∀ s s' a, (countedRelay crypto).ReachableUnder (fun s a => AttachesSettled s.1 a) s →
      (countedRelay crypto).step a s = some s' → ¬AttachesSettled s.1 a → ¬Conserved s') ∧
    ∀ s, (countedRelay crypto).Reachable s → ∃ stats, s.1.stats = some stats ∧
      stats.lanSessionsStarted + stats.lanSessionsFailed = s.2 := by
  refine ⟨?_, ?_, fun s hs => (kept_of_reachable hs).stats⟩
  · intro s hs
    obtain ⟨stats, hstats, hcount⟩ := (kept_of_reachable hs.reachable).stats
    exact ⟨stats, hstats, fun _ => ⟨(balanced_of_reachable hs).stats hstats, hcount⟩⟩
  · rintro s s' a hs hstep hunsettled ⟨stats, hstats, hconserved⟩
    obtain ⟨_, hnext, _⟩ := countedRelay_step hs.reachable hstep
    cases a with
    | lanStarted o n =>
      have hloses : ¬Balanced s'.1 := by
        rw [hnext]
        exact lanStarted_loses (balanced_of_reachable hs) hunsettled o n
      have hfree : s'.1.lock = none := by
        rw [hnext]
        exact (lanStarted_books o n s.1).2.2.2.2.2
      apply hloses
      refine ⟨stats.ledger, by rw [World.ledger, hstats]; rfl, ?_⟩
      exact (hconserved hfree).1
    | _ => exact hunsettled trivial

def sessionEnds : List (Action Unit) :=
  prewarmOpens 0 ++ [.pumpRead 0 0 0 (.ok cameraBytes), .pumpRead 0 0 0 (.ok [])]

private theorem countedRelay_init (crypto : Crypto Priv Pub) :
    (countedRelay crypto).init (World.initial Priv (some .zero) 1, 0) :=
  ⟨⟨⟨_, 1, by decide, rfl⟩, rfl⟩, rfl⟩

/-- The timer tears the ended session down before the next one. -/
theorem bytes_conserved_tornDown :
    ∃ s : World Unit × Nat, s.1.decodedBytes ≠ 0 ∧ s.2 = 2 ∧ Conserved s := by
  obtain ⟨s, hs, hdecoded, hcount⟩ :
      ∃ s, (countedRelay basePointCrypto).ReachableUnder (fun s a => AttachesSettled s.1 a) s ∧
        s.1.decodedBytes ≠ 0 ∧ s.2 = 2 :=
    ReachableUnder.of_replay (prewarmOpens 0 ++
      [.pumpRead 0 0 0 (.ok cameraBytes), .timerFires 0, .maybeCloseUpstream, .pumpCancelled 0,
       .pumpJoined .timer 0, .lanClose .timer 0, .lanClosed .timer 0] ++ prewarmOpens 1)
      (countedRelay_init _) (by decide +kernel)
  exact ⟨s, hdecoded, hcount, (bytes_conserved basePointCrypto).1 s hs⟩

/-- The next session is attached over one whose pump ended by itself. -/
theorem not_bytes_conserved :
    ¬ ∀ s : World Unit × Nat, (countedRelay basePointCrypto).Reachable s → Conserved s := by
  intro hconserved
  obtain ⟨s, hs, hfree, hbytes⟩ :
      ∃ s, (countedRelay basePointCrypto).Reachable s ∧ s.1.lock = none ∧
        ∃ stats ∈ s.1.stats,
          stats.lanSessionTotalBytes + s.1.sessionBytes ≠ s.1.decodedBytes :=
    ReachableUnder.of_replay (sessionEnds ++ prewarmOpens 1) (countedRelay_init _)
      (by decide +kernel)
  obtain ⟨stats, hstats, hequal⟩ := hconserved s hs
  obtain ⟨stats', hstats', hne⟩ := hbytes
  cases hstats.symm.trans hstats'
  exact hne (hequal hfree).1

end EzvizHp7.Relay
