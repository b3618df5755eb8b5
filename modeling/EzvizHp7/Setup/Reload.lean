import EzvizHp7.Setup.Lifecycle

/-!
# What a reload carries over

The live-view mode that the camera was built for, and the feature code of the entry.
-/

namespace EzvizHp7.Setup

open Config (EntryData)
open Transition System

/-- A relay is known by its port. -/
structure Hp7Camera where
  relay : Option Nat
  liveViewMode : String

def relayUrl (port : Nat) : String := "tcp://127.0.0.1:" ++ toString port

/-- What `handle_async_mjpeg_stream` does: the base class, nothing, or `serve_mjpeg`. -/
inductive MjpegAnswer
  | deferred
  | nothing
  | served (upstreamUrl : String)
  deriving DecidableEq, Repr

namespace Hp7Camera

def supportsStream (c : Hp7Camera) : Bool := c.liveViewMode = liveViewHls

def upstreamUrl (localIp : Option String) (c : Hp7Camera) : Option String :=
  match c.relay with
  | none | some 0 => none
  | some port =>
    let host := localIp.getD ""
    if host = "" ∨ host = "0.0.0.0" then none else some (relayUrl port)

def streamSource (localIp : Option String) (c : Hp7Camera) : Option String :=
  if c.liveViewMode ≠ liveViewHls then none else c.upstreamUrl localIp

def handleAsyncMjpegStream (localIp : Option String) (c : Hp7Camera) : MjpegAnswer :=
  if c.liveViewMode ≠ liveViewMjpeg then .deferred
  else
    match c.upstreamUrl localIp with
    | none => .nothing
    | some url => .served url

end Hp7Camera

/-- The camera that the platform adds for a record; a relay listens on its port. -/
def Record.camera {T : Type} (port : Nat) (r : Record T) : Hp7Camera where
  relay := if r.relay then some port else none
  liveViewMode := r.liveViewMode

structure Hp7Camera.Shows (c : Hp7Camera) (mode : String) : Prop where
  supportsStream : c.supportsStream = true ↔ mode = liveViewHls
  streamSource : ∀ localIp url, c.streamSource localIp = some url ↔
    mode = liveViewHls ∧ c.upstreamUrl localIp = some url
  mjpeg : ∀ localIp url, c.handleAsyncMjpegStream localIp = .served url ↔
    mode = liveViewMjpeg ∧ c.upstreamUrl localIp = some url

theorem Hp7Camera.shows (c : Hp7Camera) : c.Shows c.liveViewMode := by
  constructor
  · simp [Hp7Camera.supportsStream]
  · intro localIp url
    simp [Hp7Camera.streamSource]
  · intro localIp url
    unfold Hp7Camera.handleAsyncMjpegStream
    by_cases hmode : c.liveViewMode = liveViewMjpeg
    · cases hurl : c.upstreamUrl localIp <;> simp [hmode]
    · simp [hmode]

variable {T : Type}

/-- The record has the selected mode, a reload waits, or the change went unheard. -/
structure Shown (w : World T) (changedLate : Bool) : Prop where
  offered : currentOption w.options ∈ liveViewOptions
  forwarding : w.phase = .forwarding → ∀ r ∈ w.record,
    r.liveViewMode = currentOption w.options ∨ changedLate = true
  loaded : w.phase = .loaded → ∀ r ∈ w.record,
    r.liveViewMode = currentOption w.options ∨ 0 < w.reloads ∨ changedLate = true

theorem Shown.of_phase {w : World T} {changedLate : Bool}
    (h : currentOption w.options ∈ liveViewOptions) (hforwarding : w.phase ≠ .forwarding)
    (hloaded : w.phase ≠ .loaded) : Shown w changedLate :=
  ⟨h, fun hphase => absurd hphase hforwarding, fun hphase => absurd hphase hloaded⟩

/-- An unload leaves the options alone, and the entry unloaded or beyond repair. -/
theorem unload_world (w : World T) (platformsOk : Bool) (logout : Except Cloud.Exc Unit)
    (next : Phase) :
    (w.asyncUnloadEntry platformsOk logout next).options = w.options ∧
      ((w.asyncUnloadEntry platformsOk logout next).phase = .failedUnload ∨
        (w.asyncUnloadEntry platformsOk logout next).phase = next) := by
  have hpop : w.popRecord.options = w.options := by
    unfold World.popRecord
    split <;> rfl
  unfold World.asyncUnloadEntry
  split
  · exact ⟨rfl, .inl rfl⟩
  · split
    · exact ⟨hpop, .inl rfl⟩
    · exact ⟨hpop, .inr rfl⟩

private theorem updateListeners_loaded {w : World T} {last : Option (Nat × Bool)}
    (h : w.Registered last) (hphase : w.phase = .loaded) : w.updateListeners = 1 := by
  simp only [World.Registered, hphase] at h
  obtain ⟨r, alarmTime, _, _, hsubscriptions⟩ := h
  cases hrelay : r.relay with
  | false =>
    simp only [World.updateListeners, hsubscriptions, Record.installed, hrelay]
    rfl
  | true =>
    simp only [World.updateListeners, hsubscriptions, Record.installed, hrelay]
    rfl

variable [DecidableEq T]

theorem Shown.step {w w' : World T} {a : Action T} {h : History} (hshown : Shown w h.changedLate)
    (hregistered : w.Registered h.lastLoaded) (hstepped : Stepped w a w') :
    Shown w' (note w a w' h).changedLate := by
  cases hstepped with
  | setsUp s hcode hidle =>
    have hsetUp := asyncSetupEntry_setUp w.attempts w.data w.options s
    unfold World.setup
    generalize asyncSetupEntry w.attempts w.data w.options s = outcome at hsetUp ⊢
    cases hsetUp with
    | raises exc harguments =>
      exact .of_phase hshown.offered (by simp [World.cameTo]) (by simp [World.cameTo])
    | notReady client message hdata =>
      exact .of_phase hshown.offered (by simp [World.cameTo]) (by simp [World.cameTo])
    | stores r hdata hattempt hmode hcode hfirst =>
      refine ⟨hshown.offered, fun _ r' hr' => ?_, by simp [World.cameTo]⟩
      cases hr'
      exact .inl hmode
  | forwards ok hphase =>
    cases hrecord : w.record with
    | none =>
      have hforwarded : w.forwarded ok = { w with phase := .setupError } := by
        cases ok <;> simp [World.forwarded, hrecord]
      rw [hforwarded]
      exact .of_phase hshown.offered (by simp) (by simp)
    | some r =>
      cases ok with
      | false =>
        show Shown { w with phase := .setupError } _
        exact .of_phase hshown.offered (by simp) (by simp)
      | true =>
        rw [World.forwarded_true hrecord]
        refine ⟨hshown.offered, by simp, fun _ r' hr' => ?_⟩
        exact (hshown.forwarding hphase r' hr').imp_right .inr
  | unloads a hmanages hphase n platformsOk logout next hnext =>
    obtain ⟨hoptions, hleaves⟩ := unload_world (w.withReloads n) platformsOk logout next
    have hne : ((w.withReloads n).asyncUnloadEntry platformsOk logout next).phase ≠ .forwarding ∧
        ((w.withReloads n).asyncUnloadEntry platformsOk logout next).phase ≠ .loaded := by
      rcases hleaves with hfailed | hleft
      · simp [hfailed]
      · rw [hleft]
        exact hnext.ne
    refine .of_phase ?_ hne.1 hne.2
    rw [hoptions]
    exact hshown.offered
  | reloads a hmanages hidle n => exact .of_phase hshown.offered (by simp) (by simp)
  | refuses a hmanages hphase n =>
    refine .of_phase hshown.offered ?_ ?_
    · simp [World.withReloads, hphase]
    · simp [World.withReloads, hphase]
  | changes a hmanages ha option hoption =>
    have hlate : (note w a (w.updateOptions (some option)) h).changedLate =
        (h.changedLate ||
          (w.phase = .forwarding &&
            (w.updateOptions (some option)).options ≠ w.options : Bool)) := by
      rcases ha with ⟨_, rfl⟩ | ⟨_, rfl⟩ <;> rfl
    rw [hlate]
    by_cases hsame : w.options = some option
    · simpa [World.updateOptions, hsame] using hshown
    · simp only [World.updateOptions, if_neg hsame]
      refine ⟨hoption, fun hphase r hr => ?_, fun hphase r hr => ?_⟩
      · right
        have hphase : w.phase = .forwarding := hphase
        simp [hphase, Ne.symm hsame]
      · have hlisteners := updateListeners_loaded hregistered hphase
        right
        left
        simp [hlisteners]
  | stays option => simpa [note] using hshown
  | updates data =>
    refine ⟨hshown.offered, fun hphase r hr => ?_, fun hphase r hr => ?_⟩
    · obtain ⟨r', hr', rfl⟩ := Option.map_eq_some_iff.1 hr
      exact hshown.forwarding hphase r' hr'
    · obtain ⟨r', hr', rfl⟩ := Option.map_eq_some_iff.1 hr
      exact hshown.loaded hphase r' hr'

private theorem shown {s : World T × History} (h : (entry T).Reachable s) :
    Shown s.1 s.2.changedLate := by
  refine ReachableUnder.invariant (P := fun s => Shown s.1 s.2.changedLate) ?_ ?_ h
  · intro s ⟨⟨hphase, _, _, _, _, _, _, _, hoffered⟩, _⟩
    exact .of_phase hoffered (by simp [hphase]) (by simp [hphase])
  · intro s a s' hreach hs _ hstep
    obtain ⟨hstepped, hnote⟩ := entry_stepped hstep
    rw [hnote]
    exact hs.step (kept hreach).1 hstepped

/-- Whenever the entry is loaded and no reload waits, its camera shows the live view in the way
that is selected, unless the selection changed while the platforms were set up. -/
theorem loaded_showsSelected {s : World T × History} (h : (entry T).Reachable s)
    (hloaded : s.1.phase = .loaded) (hreloads : s.1.reloads = 0) (hlate : s.2.changedLate = false)
    (port : Nat) :
    currentOption s.1.options ∈ liveViewOptions ∧
      ∃ r, s.1.record = some r ∧ (r.camera port).Shows (currentOption s.1.options) := by
  have hshown := shown h
  have hregistered := (kept h).1
  simp only [World.Registered, hloaded] at hregistered
  obtain ⟨r, _, hrecord, _⟩ := hregistered
  refine ⟨hshown.offered, r, hrecord, ?_⟩
  have hmode : r.liveViewMode = currentOption s.1.options := by
    simpa [hreloads, hlate] using hshown.loaded hloaded r hrecord
  rw [← hmode]
  exact (r.camera port).shows

/-- HLS is selected while the entry is loaded with MJPEG, and the update listener reloads it. -/
def hlsRun : List (Action String) :=
  [.setup (answered (.ok noAlarm)), .forwarded true, .select liveViewHls,
    .reload true true (.ok ()), .setup (answered (.ok noAlarm)), .forwarded true]

theorem loaded_showsSelected_hlsRun :
    ∃ s, (entry String).Reachable s ∧ currentOption s.1.options = liveViewHls ∧
      ∃ r, s.1.record = some r ∧ (r.camera 8558).Shows (currentOption s.1.options) := by
  obtain ⟨s, hs, hphase, hreloads, hlate, hoption⟩ : ∃ s, (entry String).Reachable s ∧
      s.1.phase = .loaded ∧ s.1.reloads = 0 ∧ s.2.changedLate = false ∧
        currentOption s.1.options = liveViewHls :=
    ReachableUnder.of_replay hlsRun (freshEntry_init doorbellEntry) (by decide)
  exact ⟨s, hs, hoption, (loaded_showsSelected hs hphase hreloads hlate 8558).2⟩

/-- The entry is the one that was there at first, or that with a feature code in place of none and
without its token, and the clients were constructed with what it has. -/
structure Coded (d : EntryData) (w : World T) : Prop where
  data : w.data = d ∨ d.creds.featureCode.getD "" = "" ∧ ∃ code, code ≠ "" ∧
    w.data = { d with creds := { d.creds with featureCode := some code, token := none } }
  constructed : ∀ p ∈ w.constructed,
    p = (w.data.creds.featureCode, w.data.creds.token) ∧ p.1.getD "" ≠ ""

omit [DecidableEq T] in
theorem Coded.congr {d : EntryData} {w w' : World T} (h : Coded d w) (hdata : w'.data = w.data)
    (hconstructed : w'.constructed = w.constructed) : Coded d w' := by
  constructor
  · rw [hdata]
    exact h.data
  · rw [hdata, hconstructed]
    exact h.constructed

omit [DecidableEq T] in
theorem Coded.withFeatureCode {d : EntryData} {w : World T} (h : Coded d w) {tokenHex : String}
    (hcode : tokenHex ≠ "") {w' : World T} (hdata : w'.data = withFeatureCode tokenHex w.data)
    (hconstructed : w'.constructed =
      w.constructed ++ [(w'.data.creds.featureCode, w'.data.creds.token)]) : Coded d w' := by
  obtain ⟨code, hsome, hne⟩ := withFeatureCode_featureCode tokenHex hcode w.data
  rw [← hdata] at hsome
  by_cases hold : w.data.creds.featureCode.getD "" = ""
  · have hnone : w.constructed = [] := by
      rw [List.eq_nil_iff_forall_not_mem]
      intro p hp
      obtain ⟨rfl, hp⟩ := h.constructed p hp
      exact hp hold
    have hd : w.data = d := by
      rcases h.data with hd | ⟨_, code', hne', hd⟩
      · exact hd
      · rw [hd] at hold
        exact absurd hold hne'
    constructor
    · right
      rw [hd] at hold hdata
      refine ⟨hold, tokenHex, hcode, ?_⟩
      rw [hdata, Setup.withFeatureCode, if_pos hold]
    · rw [hconstructed, hnone]
      simp [hsome, hne]
  · have hsame : w'.data = w.data := by
      rw [hdata, Setup.withFeatureCode, if_neg hold]
    constructor
    · rw [hsame]
      exact h.data
    · rw [hconstructed, hsame]
      intro p hp
      rcases List.mem_append.1 hp with hp | hp
      · exact h.constructed p hp
      · rw [List.mem_singleton.1 hp]
        exact ⟨rfl, hold⟩

theorem Coded.step {d : EntryData} {w w' : World T} {a : Action T} (h : Coded d w)
    (hstepped : Stepped w a w') : Coded d w' := by
  cases hstepped with
  | setsUp s hcode hidle =>
    have hsetUp := asyncSetupEntry_setUp w.attempts w.data w.options s
    unfold World.setup
    generalize asyncSetupEntry w.attempts w.data w.options s = outcome at hsetUp ⊢
    cases hsetUp with
    | raises exc harguments =>
      apply h.congr
      · rfl
      · simp [World.cameTo]
    | notReady client message hdata => exact h.withFeatureCode hcode hdata rfl
    | stores r hdata hattempt hmode hfeature hfirst => exact h.withFeatureCode hcode hdata rfl
  | forwards ok hphase =>
    unfold World.forwarded
    split
    · exact h.congr rfl rfl
    · exact h.congr rfl rfl
  | unloads a hmanages hphase n platformsOk logout next hnext =>
    have hpop : Coded d (w.withReloads n).popRecord := by
      unfold World.popRecord
      split
      · exact h.congr rfl rfl
      · exact h.congr rfl rfl
    unfold World.asyncUnloadEntry
    split
    · exact h.congr rfl rfl
    · split
      · exact hpop.congr rfl rfl
      · exact hpop.congr rfl rfl
  | reloads a hmanages hidle n => exact h.congr rfl rfl
  | refuses a hmanages hphase n => exact h.congr rfl rfl
  | changes a hmanages ha option hoption =>
    unfold World.updateOptions
    split
    · exact h
    · exact h.congr rfl rfl
  | stays option => exact h
  | updates data => exact h.congr rfl rfl

omit [DecidableEq T] in
/-- Saving the code calls no update listener, since none is there during a setup. -/
theorem setup_reloads {w : World T} {last : Option (Nat × Bool)} (h : w.Registered last)
    (hidle : w.phase.Idle) (s : SetupReplies T) : (w.setup s).reloads = w.reloads := by
  rw [hidle.registered] at h
  unfold World.setup World.cameTo
  dsimp only
  have hnone : w.updateListeners = 0 := by simp [World.updateListeners, h]
  split <;> simp [hnone]

/-- Over any run an entry gets at most one feature code of its own, and only where it had none; it
then loses the token of another code. Every client is constructed with the code and the token of
the entry, and saving the code does not reload it. -/
theorem entry_featureCode {d : EntryData} {s : World T × History}
    (h : ((entry T).restrict fun s => s.1.data = d).Reachable s) :
    (s.1.data = d ∨ d.creds.featureCode.getD "" = "" ∧ ∃ code, code ≠ "" ∧
        s.1.data = { d with creds := { d.creds with featureCode := some code, token := none } }) ∧
      (∀ p ∈ s.1.constructed,
        p = (s.1.data.creds.featureCode, s.1.data.creds.token) ∧ p.1.getD "" ≠ "") ∧
      ∀ replies w', s.1.step (.setup replies) = some w' → w'.reloads = s.1.reloads := by
  have hcoded : Coded d s.1 := by
    refine ReachableUnder.invariant (P := fun s => Coded d s.1) ?_ ?_ h
    · intro s ⟨⟨⟨_, _, _, _, _, _, _, hconstructed, _⟩, _⟩, hdata⟩
      exact ⟨.inl hdata, by simp [hconstructed]⟩
    · intro s a s' _ hs _ hstep
      exact hs.step (entry_stepped hstep).1
  refine ⟨hcoded.data, hcoded.constructed, fun replies w' hstep => ?_⟩
  have hregistered := (kept h.of_restrict).1
  simp only [World.step] at hstep
  split at hstep
  · rename_i hguard
    cases hstep
    exact setup_reloads hregistered hguard.2 replies
  · cases hstep

def codelessEntry : EntryData :=
  ⟨{ Config.filledIn with token := some [("session_id", "s0")] }, "BE1234567-CAM"⟩

theorem entry_featureCode_unluckyRun :
    ∃ s, ((entry String).restrict fun s => s.1.data = codelessEntry).Reachable s ∧
      s.1.data = ⟨{ Config.filledIn with featureCode := some "c1" }, "BE1234567-CAM"⟩ ∧
      ∀ p ∈ s.1.constructed,
        p = (s.1.data.creds.featureCode, s.1.data.creds.token) ∧ p.1.getD "" ≠ "" := by
  have hinit : ((entry String).restrict fun s => s.1.data = codelessEntry).init
      (freshEntry String codelessEntry, ⟨[], false, none⟩) :=
    ⟨freshEntry_init codelessEntry, rfl⟩
  obtain ⟨s, hs, hdata⟩ : ∃ s,
      ((entry String).restrict fun s => s.1.data = codelessEntry).Reachable s ∧
        s.1.data = ⟨{ Config.filledIn with featureCode := some "c1" }, "BE1234567-CAM"⟩ :=
    ReachableUnder.of_replay unluckyRun hinit (by decide)
  exact ⟨s, hs, hdata, (entry_featureCode hs).2.1⟩

end EzvizHp7.Setup
