import EzvizHp7.Relay.Coherence

/-!
# The journal of decoded chunks

The sessions write to the journal one after the other, each at its own offsets, and the buffer
is what is left of the attached session's text.
-/

namespace EzvizHp7.Relay

open Cpd7 (Bytes Crypto)
open Journal (Entry)
open Transition System World

variable {Priv Pub : Type} {crypto : Crypto Priv Pub}

def Starting (lock : Option Holder) (n : SessionId) : Prop :=
  ∃ o, lock = some (.starting o n) ∨ lock = some (.started o n)

private theorem none_not_starting (n : SessionId) : ¬ Starting none n := by
  intro ⟨_, hn⟩
  rcases hn with hn | hn <;> cases hn

theorem Closer.after_not_starting (k : Closer) (n : SessionId) : ¬ Starting k.after n := by
  rintro ⟨_, hn | hn⟩ <;>
  · cases k with
    | opener o => cases o <;> cases hn
    | timer | stop => cases hn

/-- Sessions write to the journal in order, and the buffer is what is left of the attached
session's text. -/
structure Recorded (lock : Option Holder) (nextSession : SessionId) (lan : Option SessionId)
    (buffer : Bytes) (produced : List (Entry UInt8 Audience)) : Prop where
  journal : Journal.WellFormed produced
  sources : ∀ e ∈ produced, e.piece.source < nextSession
  last : ∀ n, lan = some n → ∀ e ∈ produced, e.piece.source ≤ n
  buffer : ∀ n, lan = some n → BufferOf (Journal.text n produced) buffer
  starting : ∀ n, Starting lock n → ∀ e ∈ produced, e.piece.source < n

namespace Recorded

variable {lock : Option Holder} {nextSession : SessionId} {lan : Option SessionId}
  {buffer : Bytes} {produced : List (Entry UInt8 Audience)}

theorem relock (h : Recorded lock nextSession lan buffer produced) {lock' : Option Holder}
    (hstarting : ∀ n, Starting lock' n → Starting lock n) :
    Recorded lock' nextSession lan buffer produced :=
  { h with starting := fun n hn => h.starting n (hstarting n hn) }

theorem detach (h : Recorded lock nextSession lan buffer produced) {lock' : Option Holder}
    (buffer' : Bytes) (hstarting : ∀ n, ¬ Starting lock' n) :
    Recorded lock' nextSession none buffer' produced :=
  { h with
    last := by
      intro n hn
      cases hn
    buffer := by
      intro n hn
      cases hn
    starting := fun n hn => (hstarting n hn).elim }

theorem attach (h : Recorded lock nextSession lan buffer produced) {n : SessionId}
    (hn : Starting lock n) : Recorded none nextSession (some n) [] produced := by
  have hbefore := h.starting n hn
  have htext : Journal.text n produced = [] := by
    rw [Journal.text, List.filter_eq_nil_iff.mpr]
    · rfl
    · intro e he
      simpa using (hbefore e he).ne
  constructor
  · exact h.journal
  · exact h.sources
  · intro m hm e he
    cases hm
    exact (hbefore e he).le
  · intro m hm
    cases hm
    rw [htext]
    exact ⟨0, .start, rfl⟩
  · intro m hm
    exact (none_not_starting m hm).elim

theorem append {n : SessionId} (h : Recorded lock nextSession (some n) buffer produced)
    (hnext : n < nextSession) (hlock : ∀ m, ¬ Starting lock m) (target : Nat) (plain : Bytes)
    (note : Audience) :
    Recorded lock nextSession (some n) (extendBuffer target buffer plain)
      (produced ++ [Journal.next n produced plain note]) := by
  have hlast := h.last n rfl
  have hmem {e : Entry UInt8 Audience}
      (he : e ∈ produced ++ [Journal.next n produced plain note]) :
      e ∈ produced ∨ e.piece.source = n := by
    rcases List.mem_append.mp he with he | he
    · exact .inl he
    · rw [List.mem_singleton.mp he]
      exact .inr rfl
  constructor
  · exact .append n plain note h.journal hlast
  · intro e he
    rcases hmem he with he | he
    · exact h.sources e he
    · rwa [he]
  · intro m hm e he
    cases hm
    rcases hmem he with he | he
    · exact hlast e he
    · exact he.le
  · intro m hm
    cases hm
    rw [Journal.text_next, if_pos rfl]
    exact (h.buffer n rfl).extend target plain
  · exact fun m hm => (hlock m hm).elim

theorem teardown {k : Closer} {w : World Priv}
    (h : Recorded lock w.nextSession w.lan w.buffer w.produced) :
    Recorded (teardownUpstream k w).lock (teardownUpstream k w).nextSession
      (teardownUpstream k w).lan (teardownUpstream k w).buffer
      (teardownUpstream k w).produced := by
  have hbegins := teardownUpstream_begins k w
  generalize teardownUpstream k w = w' at hbegins
  cases hbegins with
  | awaits =>
    apply h.relock
    intro n hn
    obtain ⟨_, hn | hn⟩ := hn <;> cases hn
  | closes =>
    apply h.detach []
    intro n hn
    obtain ⟨_, hn | hn⟩ := hn <;> cases hn
  | returns =>
    rw [teardownReturn_eq]
    exact h.detach [] k.after_not_starting

theorem spinUp {o : Opener} {host related : String} {w : World Priv}
    (h : Recorded lock w.nextSession w.lan w.buffer w.produced) :
    Recorded (spinUpUpstream o host related w).lock (spinUpUpstream o host related w).nextSession
      (spinUpUpstream o host related w).lan (spinUpUpstream o host related w).buffer
      (spinUpUpstream o host related w).produced := by
  unfold spinUpUpstream spinUpFailed
  split
  · apply teardown
    exact h
  · apply h.relock
    intro n hn
    obtain ⟨_, hn | hn⟩ := hn <;> cases hn

theorem chunk {w : World Priv} (hcoherent : Coherent w.lock w.toCore)
    (h : Recorded w.lock w.nextSession w.lan w.buffer w.produced) {n : SessionId}
    (lan decoder : SessionId) (plain : Bytes) (hn : (w.pumps n).Running) :
    Recorded (pumpChunk n lan decoder plain w).lock (pumpChunk n lan decoder plain w).nextSession
      (pumpChunk n lan decoder plain w).lan (pumpChunk n lan decoder plain w).buffer
      (pumpChunk n lan decoder plain w).produced := by
  have hlan := hcoherent.lan_of_running hn
  have hnext := (hcoherent.current n hlan).1
  have hlock (m : SessionId) : ¬ Starting w.lock m := by
    intro ⟨_, hm⟩
    refine hcoherent.idle ?_ n hn
    rcases hm with hm | hm <;> rw [hm] <;> trivial
  rw [hlan] at h
  unfold pumpChunk
  dsimp only
  split
  · split
    · rw [hlan]
      exact h.append hnext hlock bufferTrimTarget plain _
    · rw [hlan]
      exact h.append hnext hlock bufferTrimTarget plain _
  · rw [hlan]
    exact h.append hnext hlock bufferTrimTarget plain _

end Recorded

private theorem recorded_next {w : World Priv} (hcoherent : Coherent w.lock w.toCore)
    (h : Recorded w.lock w.nextSession w.lan w.buffer w.produced) {a : Action Priv}
    (ha : a.Enabled w) :
    Recorded (a.next crypto w).lock (a.next crypto w).nextSession (a.next crypto w).lan
      (a.next crypto w).buffer (a.next crypto w).produced := by
  have houtcome : Outcome crypto w a (a.next crypto w) := next_outcome ha
  generalize a.next crypto w = w' at houtcome ⊢
  cases houtcome with
  | outside ho =>
    rw [ho.lock, ho.toCore, ho.produced]
    exact h
  | asyncPrewarm | prewarmRenews | connect | handlerMoves | clientRegister | clientDetaches
  | timerFires | closeSpares => exact h
  | stopEnter | closeTearsDown | openingFails =>
    apply Recorded.teardown
    exact h
  | prewarmSpinsUp | clientSpinsUp =>
    apply Recorded.spinUp
    exact h
  | keyFetched =>
    refine { h with sources := fun e he => Nat.lt_succ_of_lt (h.sources e he), starting := ?_ }
    intro n hn
    obtain ⟨_, hn | hn⟩ := hn <;> cases hn
    exact h.sources
  | lanStarts o n priv hlock =>
    apply h.relock
    intro m hm
    obtain ⟨_, hm | hm⟩ := hm <;> cases hm
    exact ⟨o, .inl hlock⟩
  | prewarmAttaches p n hlock => exact h.attach ⟨_, .inr hlock⟩
  | clientAttaches c n hlock => exact h.attach ⟨_, .inr hlock⟩
  | pumpJoined k n hlock =>
    rw [teardownDetach, (hcoherent.awaiting k n hlock).2.1]
    apply h.detach []
    intro m hm
    obtain ⟨_, hm | hm⟩ := hm <;> cases hm
  | lanClose =>
    apply h.relock
    intro m hm
    obtain ⟨_, hm | hm⟩ := hm <;> cases hm
  | lanClosed k =>
    rw [teardownReturn_eq]
    exact h.relock fun m hm => (k.after_not_starting m hm).elim
  | clientBursts c =>
    obtain ⟨_, _, _, hw⟩ := writeBurst_eq c .awaitingKeyframe _
    rw [hw]
    exact h
  | clientRejected => exact h.relock fun m hm => (none_not_starting m hm).elim
  | clientSnapshot c =>
    obtain ⟨_, _, _, hw⟩ := writeBurst_eq c .awaitingRegister w
    rw [hw]
    exact h
  | pump n hsteps =>
    cases hsteps with
    | starts | ends | feeds | resumes | breaks | detaches | cancelled => exact h
    | produces lan decoder raw d d' hpc hd hfeed =>
      have hpriv : d'.priv = d.priv := Cpd7.feed_priv crypto Cpd7.absorbPlain hfeed
      have hfed : Coherent w.lock { w.toCore with
          decoders := Function.update w.decoders decoder (some (Cpd7.take d').2) } :=
        hcoherent.decode hd hpriv
      apply Recorded.chunk
      · exact hfed
      · exact h
      · change (w.pumps n).Running
        rw [hpc]
        trivial

theorem recorded_of_reachable {allowed : World Priv → Action Priv → Prop} {w : World Priv}
    (h : (relay crypto).ReachableUnder allowed w) :
    Recorded w.lock w.nextSession w.lan w.buffer w.produced := by
  apply relay_invariant (P := fun w : World Priv =>
    Recorded w.lock w.nextSession w.lan w.buffer w.produced) ?_ ?_ h
  · intro stats clock _
    refine ⟨.nil, fun e he => absurd he List.not_mem_nil, ?_, ?_, ?_⟩
    · intro n hn
      cases hn
    · intro n hn
      cases hn
    · exact fun n hn => (none_not_starting n hn).elim
  · intro w a hw hP _ ha
    exact recorded_next (coherent_of_reachable hw) hP ha

end EzvizHp7.Relay
