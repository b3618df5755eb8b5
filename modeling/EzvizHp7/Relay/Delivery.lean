import EzvizHp7.Relay.Recorded
import EzvizHp7.Relay.Sessions

/-!
# Per-viewer delivery

What is written to a viewer against what the pump has produced: one burst, a tail of the current
session's plaintext, and then the chunks produced while the viewer was registered and its
transport was open.
-/

namespace EzvizHp7.Relay

open Cpd7 (Bytes Crypto basePointCrypto cameraBytes frameBytes)
open Journal (Entry)
open Transition System World

variable {Priv Pub : Type} {crypto : Crypto Priv Pub}

/-- The journal as one viewer sees it: what its snapshot was taken from, what came between the
snapshot and the registration, what was written to it live, what was lost on its closing
transport, and what came after its registration. -/
structure Split where
  taken : List (Entry UInt8 Audience)
  gap : List (Entry UInt8 Audience)
  live : List (Entry UInt8 Audience)
  lost : List (Entry UInt8 Audience)
  after : List (Entry UInt8 Audience)

def Split.all (s : Split) : List (Entry UInt8 Audience) :=
  s.taken ++ s.gap ++ s.live ++ s.lost ++ s.after

structure View where
  produced : List (Entry UInt8 Audience)
  log : ViewerLog
  writer : Option ClientId
  closing : Bool
  pc : ClientPc

def World.view (w : World Priv) (c : ClientId) : View :=
  ⟨w.produced, w.logs c, w.writer, w.transportClosing c, w.clients c⟩

structure Share (c : ClientId) (v : View) (s : Split) : Prop where
  produced : v.produced = s.all
  snapshotAt : v.log.snapshotAt = s.taken.length
  before : ∀ e ∈ s.taken ++ s.gap, e.note.writer ≠ some c
  live : ∀ e ∈ s.live, e.note = ⟨some c, false⟩
  lost : ∀ e ∈ s.lost, e.note = ⟨some c, true⟩
  after : ∀ e ∈ s.after, e.note.writer ≠ some c
  received : v.log.received = v.log.burst.toList ++ s.live.map Entry.piece
  burst : ∀ p, v.log.burst = some p → ∃ n data, v.log.snapshotLan = some n ∧
    data ≠ [] ∧ data <:+ Journal.text n s.taken ∧ p = Journal.tail n s.taken data
  unregistered : v.log.registeredAt = none →
    v.writer ≠ some c ∧ s.live = [] ∧ s.lost = [] ∧ s.after = []
  registered : ∀ r, v.log.registeredAt = some r → r = (s.taken ++ s.gap).length
  current : v.writer = some c → s.after = []
  transport : v.closing = false → s.lost = []

def ClientPc.Unserved : ClientPc → Prop
  | .absent | .connecting | .opening | .awaitingKeyframe | .awaitingSnapshot _ => True
  | _ => False

def ClientPc.Unregistered : ClientPc → Prop
  | .absent | .connecting | .opening | .awaitingKeyframe | .awaitingSnapshot _ | .flushing
  | .awaitingRegister => True
  | _ => False

theorem ClientPc.Unserved.unregistered {pc : ClientPc} (h : pc.Unserved) : pc.Unregistered := by
  cases pc <;> trivial

theorem HandlerMoves.unserved {c : ClientId} {w : World Priv} {a : Action Priv} {pc : ClientPc}
    (h : HandlerMoves c w a pc) (hpc : pc.Unserved) : (w.clients c).Unserved := by
  cases h with
  | keyframeWaited byEvent hold =>
    rw [hold]
    trivial
  | flushed | flushFailed | eof | leaves | closed => exact hpc.elim

theorem HandlerMoves.unregistered {c : ClientId} {w : World Priv} {a : Action Priv}
    {pc : ClientPc} (h : HandlerMoves c w a pc) (hpc : pc.Unregistered) :
    (w.clients c).Unregistered := by
  cases h with
  | keyframeWaited byEvent hold | flushed hold =>
    rw [hold]
    trivial
  | flushFailed | eof | leaves | closed => exact hpc.elim

structure Delivered (c : ClientId) (v : View) : Prop where
  share : ∃ s, Share c v s
  unserved : v.pc.Unserved → v.log.burst = none
  unregistered : v.pc.Unregistered → v.log.registeredAt = none

/-- Nothing is written for the viewer; it may lose its registration or its transport. -/
structure Quiet (c : ClientId) (v v' : View) : Prop where
  produced : v'.produced = v.produced
  log : v'.log = v.log
  writer : v'.writer = some c → v.writer = some c
  closing : v.closing = true → v'.closing = true
  unserved : v'.pc.Unserved → v.pc.Unserved
  unregistered : v'.pc.Unregistered → v.pc.Unregistered

namespace Quiet

variable {c : ClientId}

private theorem refl (v : View) : Quiet c v v := ⟨rfl, rfl, id, id, id, id⟩

private theorem trans {v v' v'' : View} (h : Quiet c v v') (h' : Quiet c v' v'') :
    Quiet c v v'' where
  produced := h'.produced.trans h.produced
  log := h'.log.trans h.log
  writer hw := h.writer (h'.writer hw)
  closing hc := h'.closing (h.closing hc)
  unserved hc := h.unserved (h'.unserved hc)
  unregistered hc := h.unregistered (h'.unregistered hc)

private theorem delivered {v v' : View} (h : Quiet c v v') (hv : Delivered c v) :
    Delivered c v' := by
  obtain ⟨s, hs⟩ := hv.share
  obtain ⟨produced, log, writer, closing, pc⟩ := v'
  obtain rfl : produced = v.produced := h.produced
  obtain rfl : log = v.log := h.log
  have hshare : Share c ⟨v.produced, v.log, writer, closing, pc⟩ s :=
    { hs with
      unregistered := by
        intro hnone
        obtain ⟨hw, hrest⟩ := hs.unregistered hnone
        exact ⟨fun hw' => hw (h.writer hw'), hrest⟩
      current := fun hw' => hs.current (h.writer hw')
      transport := by
        intro hopen
        apply hs.transport
        rw [Bool.eq_false_iff]
        intro hclosing
        rw [show closing = true from h.closing hclosing] at hopen
        cases hopen }
  exact ⟨⟨s, hshare⟩, fun hpc => hv.unserved (h.unserved hpc),
    fun hpc => hv.unregistered (h.unregistered hpc)⟩

private theorem closeTransport (w : World Priv) (c₀ : ClientId) :
    Quiet c (w.view c)
      ({ w with transportClosing := Function.update w.transportClosing c₀ true }.view c) :=
  ⟨rfl, rfl, id, closing_update, id, id⟩

private theorem unregister (w : World Priv) :
    Quiet c (w.view c) ({ w with writer := none }.view c) := by
  refine ⟨rfl, rfl, ?_, id, id, id⟩
  intro hw
  cases hw

private theorem move (w : World Priv) (c₀ : ClientId) (pc : ClientPc)
    (hunserved : pc.Unserved → (w.clients c₀).Unserved)
    (hunregistered : pc.Unregistered → (w.clients c₀).Unregistered) :
    Quiet c (w.view c)
      ({ w with clients := Function.update w.clients c₀ pc }.view c) := by
  have hother {P : ClientPc → Prop} (hpc : P pc → P (w.clients c₀))
      (hc : P (Function.update w.clients c₀ pc c)) : P (w.clients c) := by
    by_cases h : c = c₀
    · rw [h, Function.update_self] at hc
      rw [h]
      exact hpc hc
    · rwa [Function.update_of_ne h] at hc
  exact ⟨rfl, rfl, id, id, hother hunserved, hother hunregistered⟩

private theorem foreign {w : World Priv} {c₀ : ClientId} (hne : c ≠ c₀) (writer : Option ClientId)
    (pc : ClientPc) (log : ViewerLog) (hwriter : writer = some c → w.writer = some c) :
    Quiet c (w.view c)
      ({ w with
          writer := writer
          clients := Function.update w.clients c₀ pc
          logs := Function.update w.logs c₀ log }.view c) := by
  have hview : { w with
      writer := writer
      clients := Function.update w.clients c₀ pc
      logs := Function.update w.logs c₀ log }.view c = { w.view c with writer := writer } := by
    simp [World.view, Function.update_of_ne hne]
  rw [hview]
  exact ⟨rfl, rfl, hwriter, id, id, id⟩

variable {v : View} {w w' : World Priv}

private theorem outside (h : Outside w w') : Quiet c (w.view c) (w'.view c) where
  produced := h.produced
  log := congrFun h.logs c
  writer hw := by
    have hwriter : w'.writer = some c := hw
    rwa [h.toCore] at hwriter
  closing := h.transport c
  unserved hc := by
    have hpc : (w'.clients c).Unserved := hc
    rwa [h.toCore] at hpc
  unregistered hc := by
    have hpc : (w'.clients c).Unregistered := hc
    rwa [h.toCore] at hpc

private theorem handBack (h : Quiet c v (w.view c)) (k : Closer) :
    Quiet c v ((teardownReturn k w).view c) := by
  rw [teardownReturn_eq]
  match k with
  | .opener (.client c₀) => exact h.trans (closeTransport w c₀)
  | .opener (.prewarm _) | .timer | .stop => exact h

private theorem detach (h : Quiet c v (w.view c)) (k : Closer) :
    Quiet c v ((teardownDetach k w).view c) := by
  unfold teardownDetach
  dsimp only
  split
  · exact h
  · apply handBack
    exact h

private theorem teardown (h : Quiet c v (w.view c)) (k : Closer) :
    Quiet c v ((teardownUpstream k w).view c) := by
  have hbegins := teardownUpstream_begins k w
  generalize teardownUpstream k w = w' at hbegins
  cases hbegins with
  | awaits | closes => exact h
  | returns =>
    apply handBack
    exact h

private theorem spinUp (h : Quiet c v (w.view c)) (o : Opener) (host related : String) :
    Quiet c v ((spinUpUpstream o host related w).view c) := by
  unfold spinUpUpstream World.spinUpFailed
  split
  · apply teardown
    exact h
  · exact h

end Quiet

theorem Delivered.none_own {c : ClientId} {v : View} (h : Delivered c v)
    (hpc : v.pc.Unregistered) :
    v.writer ≠ some c ∧ ∀ e ∈ v.produced, e.note.writer ≠ some c := by
  obtain ⟨s, hs⟩ := h.share
  obtain ⟨hwriter, hlive, hlost, hafter⟩ := hs.unregistered (h.unregistered hpc)
  refine ⟨hwriter, fun e he => hs.before e ?_⟩
  simpa [hs.produced, Split.all, hlive, hlost, hafter] using he

theorem Delivered.unwritten {c : ClientId} {v : View} (h : Delivered c v)
    (hpc : v.pc.Unserved) : v.log.received = [] := by
  obtain ⟨s, hs⟩ := h.share
  obtain ⟨_, hlive, _⟩ := hs.unregistered (h.unregistered hpc.unregistered)
  rw [hs.received, h.unserved hpc, hlive]
  rfl

theorem Delivered.snapshot {c : ClientId} {v : View} (h : Delivered c v) (hpc : v.pc.Unserved)
    (lan : Option SessionId) (burst : Option (Journal.Piece UInt8)) (pc : ClientPc)
    (hburst : ∀ p, burst = some p → ∃ n data, lan = some n ∧ data ≠ [] ∧
      data <:+ Journal.text n v.produced ∧ p = Journal.tail n v.produced data)
    (hunserved : pc.Unserved → burst = none) :
    Delivered c
      { v with
        pc := pc
        log :=
          { v.log with
            received := v.log.received ++ burst.toList
            burst := burst
            snapshotAt := v.produced.length
            snapshotLan := lan } } := by
  obtain ⟨hwriter, hown⟩ := h.none_own hpc.unregistered
  have hregistered := h.unregistered hpc.unregistered
  refine ⟨⟨⟨v.produced, [], [], [], []⟩, ?_⟩, hunserved, fun _ => hregistered⟩
  constructor
  · simp [Split.all]
  · rfl
  · simpa using hown
  · simp
  · simp
  · simp
  · simp [h.unwritten hpc]
  · exact hburst
  · exact fun _ => ⟨hwriter, rfl, rfl, rfl⟩
  · intro r hr
    rw [hregistered] at hr
    cases hr
  · exact fun _ => rfl
  · exact fun _ => rfl

theorem Delivered.register {c : ClientId} {v : View} (h : Delivered c v)
    (hpc : v.pc.Unregistered) :
    Delivered c
      { v with
        pc := .streaming
        writer := some c
        log := { v.log with registeredAt := some v.produced.length } } := by
  obtain ⟨s, hs⟩ := h.share
  obtain ⟨_, hlive, hlost, hafter⟩ := hs.unregistered (h.unregistered hpc)
  refine ⟨⟨s, ?_⟩, False.elim, False.elim⟩
  exact
    { hs with
      unregistered := by
        intro hnone
        cases hnone
      registered := by
        intro r hr
        cases hr
        simp [hs.produced, Split.all, hlive, hlost, hafter]
      current := fun _ => hafter }

namespace Share

variable {c : ClientId} {v : View} {s : Split} {e : Entry UInt8 Audience}

private theorem mem_append {P : Entry UInt8 Audience → Prop} {entries : List (Entry UInt8 Audience)}
    (h : ∀ f ∈ entries, P f) (he : P e) : ∀ f ∈ entries ++ [e], P f := by
  intro f hf
  rcases List.mem_append.mp hf with hf | hf
  · exact h f hf
  · rwa [List.mem_singleton.mp hf]

theorem toGap (h : Share c v s) (hregistered : v.log.registeredAt = none)
    (he : e.note.writer ≠ some c) :
    Share c { v with produced := v.produced ++ [e] } { s with gap := s.gap ++ [e] } := by
  obtain ⟨_, hlive, hlost, hafter⟩ := h.unregistered hregistered
  exact
    { h with
      produced := by simp [h.produced, Split.all, hlive, hlost, hafter]
      before := by
        rw [← List.append_assoc]
        exact mem_append h.before he
      registered := by
        intro r hr
        rw [hregistered] at hr
        cases hr }

theorem toLive (h : Share c v s) (hwriter : v.writer = some c) (hclosing : v.closing = false)
    (he : e.note = ⟨some c, false⟩) :
    Share c
      { v with
        produced := v.produced ++ [e]
        log := { v.log with received := v.log.received ++ [e.piece] } }
      { s with live := s.live ++ [e] } :=
  { h with
    produced := by simp [h.produced, Split.all, h.transport hclosing, h.current hwriter]
    live := mem_append h.live he
    received := by simp [h.received]
    unregistered := fun hnone => absurd hwriter (h.unregistered hnone).1 }

theorem toLost (h : Share c v s) (hwriter : v.writer = some c) (hclosing : v.closing = true)
    (he : e.note = ⟨some c, true⟩) :
    Share c { v with produced := v.produced ++ [e] } { s with lost := s.lost ++ [e] } :=
  { h with
    produced := by simp [h.produced, Split.all, h.current hwriter]
    lost := mem_append h.lost he
    unregistered := fun hnone => absurd hwriter (h.unregistered hnone).1
    transport := by
      intro hopen
      rw [show v.closing = false from hopen] at hclosing
      cases hclosing }

theorem toAfter (h : Share c v s) {r : Nat} (hregistered : v.log.registeredAt = some r)
    (hwriter : v.writer ≠ some c) (he : e.note.writer ≠ some c) :
    Share c { v with produced := v.produced ++ [e] } { s with after := s.after ++ [e] } :=
  { h with
    produced := by simp [h.produced, Split.all]
    after := mem_append h.after he
    unregistered := by
      intro hnone
      rw [show v.log.registeredAt = none from hnone] at hregistered
      cases hregistered
    current := fun hw => absurd hw hwriter }

end Share

theorem Delivered.chunk_other {c : ClientId} {v : View} (h : Delivered c v)
    {e : Entry UInt8 Audience} (he : e.note.writer = v.writer) (hwriter : v.writer ≠ some c) :
    Delivered c { v with produced := v.produced ++ [e] } := by
  obtain ⟨s, hs⟩ := h.share
  have hnote : e.note.writer ≠ some c := by rwa [he]
  have hshare : ∃ s, Share c { v with produced := v.produced ++ [e] } s := by
    cases hregistered : v.log.registeredAt with
    | none => exact ⟨_, hs.toGap hregistered hnote⟩
    | some r => exact ⟨_, hs.toAfter hregistered hwriter hnote⟩
  exact ⟨hshare, h.unserved, h.unregistered⟩

theorem Delivered.chunk_own {c : ClientId} {v : View} (h : Delivered c v)
    {e : Entry UInt8 Audience} (he : e.note = ⟨some c, v.closing⟩) (hwriter : v.writer = some c) :
    Delivered c
      { v with
        produced := v.produced ++ [e]
        log :=
          { v.log with
            received := v.log.received ++ if v.closing then [] else [e.piece] } } := by
  obtain ⟨s, hs⟩ := h.share
  obtain ⟨produced, log, writer, closing, pc⟩ := v
  refine ⟨?_, h.unserved, h.unregistered⟩
  cases closing with
  | false => exact ⟨_, hs.toLive hwriter rfl he⟩
  | true =>
    simp only [if_true, List.append_nil]
    exact ⟨_, hs.toLost hwriter rfl he⟩

/-- A snapshot is a tail of the attached session's text. -/
private theorem writeBurst_delivered {w : World Priv} (hcoherent : Coherent w.lock w.toCore)
    (hrecorded : Recorded w.lock w.nextSession w.lan w.buffer w.produced)
    (h : ∀ c, Delivered c (w.view c)) {c : ClientId} {otherwise : ClientPc}
    (hpc : (w.clients c).Unserved) (c' : ClientId) :
    Delivered c' ((writeBurst c otherwise w).view c') := by
  by_cases hc : c' = c
  · subst hc
    unfold writeBurst
    dsimp only
    split
    · have hnone : (w.logs c').burst = none := (h c').unserved hpc
      have hsnapshot := (h c').snapshot hpc w.lan none otherwise (by simp) (fun _ => rfl)
      simpa [World.view, hnone] using hsnapshot
    · rename_i hburst
      have hbuffer : w.buffer ≠ [] := by
        intro hnil
        apply hburst
        rw [hnil]
        rfl
      obtain ⟨n, hlan⟩ := Option.ne_none_iff_exists'.mp fun hnone =>
        hbuffer (hcoherent.cleared hnone).1
      have hsuffix := (snapshot_suffix w.buffer).trans (hrecorded.buffer n hlan).suffix
      have hsnapshot := (h c').snapshot hpc w.lan
        (some (Journal.tail n w.produced (snapshotBufferForNewClient w.buffer))) .flushing ?_
        False.elim
      · simpa [World.view, hlan] using hsnapshot
      · intro p hp
        cases hp
        exact ⟨n, _, hlan, hburst, hsuffix, rfl⟩
  · apply Quiet.delivered ?_ (h c')
    obtain ⟨pc, log, hw⟩ : ∃ pc log, writeBurst c otherwise w =
        { w with
          clients := Function.update w.clients c pc
          logs := Function.update w.logs c log } := by
      unfold writeBurst
      dsimp only
      split <;> exact ⟨_, _, rfl⟩
    rw [hw]
    exact .foreign hc w.writer pc log id

private theorem clientRegister_delivered {w : World Priv} (h : ∀ c, Delivered c (w.view c))
    {c : ClientId} (hpc : (w.clients c).Unregistered) (c' : ClientId) :
    Delivered c' ((clientRegister c w).view c') := by
  by_cases hc : c' = c
  · subst hc
    simpa [World.view, clientRegister, notifyStateChange] using (h c').register hpc
  · have hother : some c = some c' → w.writer = some c' := fun hsome =>
      (hc (Option.some.inj hsome).symm).elim
    exact (Quiet.foreign hc (some c) .streaming _ hother).delivered (h c')

private theorem pumpChunk_delivered {w : World Priv} (h : ∀ c, Delivered c (w.view c))
    (n lan decoder : SessionId) (plain : Bytes) (c : ClientId) :
    Delivered c ((pumpChunk n lan decoder plain w).view c) := by
  unfold pumpChunk
  dsimp only
  split
  · rename_i owner hwriter
    by_cases hc : c = owner
    · subst hc
      have hown := (h c).chunk_own
        (e := Journal.next n w.produced plain ⟨some c, w.transportClosing c⟩) rfl hwriter
      split
      · rename_i hclosing
        simpa [World.view, hwriter, hclosing] using hown
      · rename_i hclosing
        simpa [World.view, hwriter, hclosing] using hown
    · have hne : w.writer ≠ some c := fun hw => hc (Option.some.inj (hw.symm.trans hwriter))
      split
      · exact (h c).chunk_other rfl hne
      · have hother := (h c).chunk_other (e := Journal.next n w.produced plain
          ⟨w.writer, w.writer.any w.transportClosing⟩) rfl hne
        simpa [World.view, Function.update_of_ne hc] using hother
  · rename_i hnone
    exact (h c).chunk_other rfl (by simp [World.view, hnone])

private theorem delivered_next {w : World Priv} (hcoherent : Coherent w.lock w.toCore)
    (hrecorded : Recorded w.lock w.nextSession w.lan w.buffer w.produced)
    (h : ∀ c, Delivered c (w.view c)) {a : Action Priv} (ha : a.Enabled w) (c : ClientId) :
    Delivered c ((a.next crypto w).view c) := by
  have hself : Quiet c (w.view c) (w.view c) := .refl _
  have houtcome : Outcome crypto w a (a.next crypto w) := next_outcome ha
  generalize a.next crypto w = w' at houtcome ⊢
  cases houtcome with
  | outside ho => exact (Quiet.outside ho).delivered (h c)
  | asyncPrewarm | prewarmRenews | keyFetched | lanStarts | prewarmAttaches | lanClose
  | timerFires | closeSpares => exact h c
  | stopEnter | closeTearsDown | openingFails =>
    apply Quiet.delivered (.teardown ?_ _) (h c)
    exact hself
  | prewarmSpinsUp =>
    apply Quiet.delivered (.spinUp ?_ _ _ _) (h c)
    exact hself
  | clientAttaches c₀ n hlock =>
    have hopening : w.clients c₀ = .opening := hcoherent.opening _ c₀ hlock rfl
    have hentered : Quiet c (w.view c)
        ({ w with clients := Function.update w.clients c₀ .awaitingKeyframe }.view c) :=
      .move w c₀ _ (by rw [hopening]; exact id) (by rw [hopening]; exact id)
    exact hentered.delivered (h c)
  | pumpJoined k => exact (hself.detach k).delivered (h c)
  | lanClosed k =>
    apply Quiet.delivered (.handBack ?_ k) (h c)
    exact hself
  | connect =>
    have habsent := hcoherent.clientsFresh w.nextClient le_rfl
    have hentered : Quiet c (w.view c)
        ({ w with clients := Function.update w.clients w.nextClient .connecting }.view c) :=
      .move w w.nextClient _ (by rw [habsent]; exact id) (by rw [habsent]; exact id)
    exact hentered.delivered (h c)
  | clientBursts c₀ host related hlock hpc =>
    apply writeBurst_delivered
    · exact hcoherent
    · exact hrecorded
    · exact h
    · change (w.clients c₀).Unserved
      rw [hpc]
      trivial
  | clientSpinsUp c₀ host related hlock hpc =>
    apply Quiet.delivered (.spinUp ?_ _ _ _) (h c)
    exact .move w c₀ _ (by rw [hpc]; exact id) (by rw [hpc]; exact id)
  | clientRejected c₀ =>
    have hleft : Quiet c (w.view c)
        ({ w with clients := Function.update w.clients c₀ .done }.view c) :=
      .move w c₀ _ False.elim False.elim
    exact hleft.delivered (h c)
  | handlerMoves c₀ pc closing hmoves hclosing =>
    have hmoved : Quiet c (w.view c)
        ({ w with clients := Function.update w.clients c₀ pc }.view c) :=
      .move w c₀ pc hmoves.unserved hmoves.unregistered
    rcases hclosing with rfl | rfl
    · exact hmoved.delivered (h c)
    · exact (hmoved.trans (.closeTransport _ c₀)).delivered (h c)
  | clientSnapshot c₀ byEvent hlock hpc =>
    apply writeBurst_delivered hcoherent hrecorded h
    rw [hpc]
    trivial
  | clientRegister c₀ hlock hpc =>
    apply clientRegister_delivered h
    rw [hpc]
    trivial
  | clientDetaches c₀ =>
    have hleft : Quiet c (w.view c)
        ({ w with clients := Function.update w.clients c₀ .closing }.view c) :=
      .move w c₀ _ False.elim False.elim
    exact ((hleft.trans (.closeTransport _ c₀)).trans (.unregister _)).delivered (h c)
  | pump n hsteps =>
    cases hsteps with
    | starts | ends | feeds | resumes | cancelled => exact h c
    | produces lan decoder =>
      apply pumpChunk_delivered
      exact h
    | breaks lan decoder c₀ => exact (Quiet.closeTransport w c₀).delivered (h c)
    | detaches lan decoder c₀ =>
      exact ((Quiet.closeTransport w c₀).trans (.unregister _)).delivered (h c)

theorem delivered_of_reachable {allowed : World Priv → Action Priv → Prop} {w : World Priv}
    (h : (relay crypto).ReachableUnder allowed w) : ∀ c, Delivered c (w.view c) := by
  apply relay_invariant (P := fun w : World Priv => ∀ c, Delivered c (w.view c)) ?_ ?_ h
  · intro stats clock _ c
    refine ⟨⟨⟨[], [], [], [], []⟩, ?_⟩, fun _ => rfl, fun _ => rfl⟩
    constructor <;> simp [World.view, World.initial, ViewerLog.empty, Split.all]
  · intro w a hw hP _ ha
    exact delivered_next (coherent_of_reachable hw) (recorded_of_reachable hw) hP ha

theorem received_ordered {c : ClientId} {v : View} {s : Split}
    (hjournal : Journal.WellFormed v.produced) (hs : Share c v s) :
    v.log.received.Pairwise Journal.Piece.Before ∧
      ∀ p ∈ v.log.received, p.In (Journal.text p.source v.produced) := by
  have htake : v.produced.take s.taken.length = s.taken := by
    rw [hs.produced, Split.all]
    simp only [List.append_assoc]
    exact List.take_left
  have hdrop : v.produced.drop s.taken.length = s.gap ++ s.live ++ s.lost ++ s.after := by
    rw [hs.produced, Split.all]
    simp only [List.append_assoc]
    exact List.drop_left
  have hsublist : s.live.Sublist (v.produced.drop s.taken.length) := by
    rw [hdrop, List.append_assoc, List.append_assoc]
    exact (List.sublist_append_left s.live _).trans (List.sublist_append_right s.gap _)
  have hlive : ∀ e ∈ s.live, e.piece.In (Journal.text e.piece.source v.produced) := by
    intro e he
    exact (hjournal.piece_in e (List.mem_of_mem_drop (hsublist.subset he))).2
  rw [hs.received]
  cases hburst : v.log.burst with
  | none =>
    constructor
    · rw [Option.toList_none, List.nil_append, List.pairwise_map]
      exact (hjournal.pairwise.sublist (List.drop_sublist _ _)).sublist hsublist
    · intro p hp
      obtain ⟨e, he, rfl⟩ := List.mem_map.mp hp
      exact hlive e he
  | some p =>
    obtain ⟨n, data, _, hne, hsuffix, rfl⟩ := hs.burst p hburst
    rw [← htake] at hsuffix ⊢
    refine ⟨hjournal.pairwise_tail s.taken.length hne hsuffix hsublist, ?_⟩
    intro q hq
    rcases List.mem_cons.mp hq with rfl | hq
    · exact Journal.tail_in hsuffix
    · obtain ⟨e, he, rfl⟩ := List.mem_map.mp hq
      exact hlive e he

/-- The journal splits at the snapshot, the registration, the closing of the transport and the
end of the registration. The viewer gets a tail of the session's text at the snapshot, which may
be empty, then every chunk produced while it is registered and its transport is not closing,
once and in order. Of the burst's session nothing else is missing from its start on but what was
produced between the snapshot and the registration. -/
theorem viewer_delivery {w : World Priv} (h : (relay crypto).Reachable w) (c : ClientId) :
    ∃ taken gap live lost after : List (Entry UInt8 Audience),
      w.produced = taken ++ gap ++ live ++ lost ++ after ∧
      taken.length = (w.logs c).snapshotAt ∧
      (∀ r, (w.logs c).registeredAt = some r → r = (taken ++ gap).length) ∧
      (∀ e ∈ taken ++ gap ++ after, e.note.writer ≠ some c) ∧
      (∀ e ∈ live, e.note = ⟨some c, false⟩) ∧
      (∀ e ∈ lost, e.note = ⟨some c, true⟩) ∧
      (w.writer = some c → (w.logs c).registeredAt ≠ none ∧ after = []) ∧
      (w.transportClosing c = false → lost = []) ∧
      (w.logs c).received = (w.logs c).burst.toList ++ live.map Entry.piece ∧
      (∀ p, (w.logs c).burst = some p → (w.logs c).snapshotLan = some p.source ∧
        ∃ front, Journal.text p.source taken = front ++ p.data ∧ p.offset = front.length ∧
          Journal.text p.source (taken ++ gap ++ live) =
            front ++ p.data ++ Journal.text p.source gap ++ Journal.text p.source live) ∧
      (w.logs c).received.Pairwise Journal.Piece.Before ∧
      ∀ p ∈ (w.logs c).received, p.In (Journal.text p.source w.produced) := by
  obtain ⟨s, hs⟩ := (delivered_of_reachable h c).share
  obtain ⟨hordered, hin⟩ := received_ordered (recorded_of_reachable h).journal hs
  refine ⟨s.taken, s.gap, s.live, s.lost, s.after, hs.produced, hs.snapshotAt.symm,
    hs.registered, ?_, hs.live, hs.lost, ?_, hs.transport, hs.received, ?_, hordered, hin⟩
  · intro e he
    rcases List.mem_append.mp he with he | he
    · exact hs.before e he
    · exact hs.after e he
  · exact fun hw => ⟨fun hnone => (hs.unregistered hnone).1 hw, hs.current hw⟩
  · intro p hp
    obtain ⟨n, data, hlan, _, ⟨front, hfront⟩, rfl⟩ := hs.burst p hp
    refine ⟨hlan, front, hfront.symm, ?_, ?_⟩
    · rw [Journal.tail, ← hfront, List.length_append, Nat.add_sub_cancel]
    · rw [Journal.text_append, Journal.text_append]
      exact congrArg (· ++ _ ++ _) hfront.symm

/-- A viewer takes a burst, misses a chunk before it registers, gets the next one, and loses the
last to its closing transport. -/
def deliveryRun : List (Action Unit) :=
  [.asyncStart, .serverBound (some 40000)] ++ prewarmOpens 0 ++
    [.pumpRead 0 0 0 (.ok cameraBytes), .connect, .clientEnter 0 "192.168.1.20" "Q01",
     .pumpRead 0 0 0 (.ok (frameBytes [0x11, 0x12] (by decide))), .clientFlushed 0 true,
     .clientRegister 0, .pumpRead 0 0 0 (.ok (frameBytes [0x13] (by decide))),
     .pumpDrained 0 0 0 0 .ok, .transportLost 0,
     .pumpRead 0 0 0 (.ok (frameBytes [0x14] (by decide)))]

theorem viewer_delivery_deliveryRun :
    ∃ w : World Unit, (relay basePointCrypto).Reachable w ∧ w.produced.length = 4 ∧
      (w.logs 0).received =
        [⟨0, 0, [0, 0, 1, 0xba, 0, 0, 0, 1, 0x67, 0x42]⟩, ⟨0, 12, [0x13]⟩] ∧
      (w.logs 0).received.Pairwise Journal.Piece.Before := by
  obtain ⟨w, hw, hlength, hreceived⟩ :
      ∃ w, (relay basePointCrypto).Reachable w ∧ w.produced.length = 4 ∧
        (w.logs 0).received =
          [⟨0, 0, [0, 0, 1, 0xba, 0, 0, 0, 1, 0x67, 0x42]⟩, ⟨0, 12, [0x13]⟩] :=
    ReachableUnder.of_replay deliveryRun ⟨none, 1, by decide, rfl⟩ (by decide +kernel)
  obtain ⟨_, _, _, _, _, _, _, _, _, _, _, _, _, _, _, hordered, _⟩ := viewer_delivery hw 0
  exact ⟨w, hw, hlength, hreceived, hordered⟩

end EzvizHp7.Relay
