import EzvizHp7.Setup.Lifecycle

/-!
# Alarms over reloads

The pre-warm listener of a setup starts with the alarm time that its coordinator has by then. A
reload in between neither repeats a pre-warm nor pre-warms for what was there before.
-/

namespace EzvizHp7.Setup

open Config (EntryData)
open Events (Snapshot)
open Transition System

variable {T : Type} [DecidableEq T]

/-- The alarm times that the coordinators of a run have had: that of a first refresh, and of an
update where it has one. The pre-warm listener starts with what is there after the platforms. -/
def noteSeen (s : World T × History) (a : Action T) (_ : World T × History)
    (seen : List (Option T)) : List (Option T) :=
  match a with
  | .setup replies =>
    match (asyncSetupEntry s.1.attempts s.1.data s.1.options replies).result with
    | .stored r => seen ++ [r.data.lastAlarmTime]
    | _ => seen
  | .coordinatorUpdate data =>
    match s.1.phase, data.lastAlarmTime with
    | .forwarding, time => seen ++ [time]
    | _, none => seen
    | _, some time => seen ++ [some time]
  | _ => seen

def alarmedEntry (T : Type) [DecidableEq T] :
    Transition.System ((World T × History) × List (Option T)) (Action T) :=
  (entry T).recording [] noteSeen

def lastSeen (seen : List (Option T)) : Option T := seen.getLast?.getD none

/-- What was pre-warmed for are changes of the alarm time, and a listener knows the last one. -/
structure Warmed (w : World T) (seen : List (Option T)) : Prop where
  forwarding : w.phase = .forwarding → ∀ r ∈ w.record, r.data.lastAlarmTime = lastSeen seen
  listener : ∀ n time, .prewarm n time ∈ w.subscriptions → time = lastSeen seen
  prewarmed : (w.prewarmed.map fun p => some p.2.1).Sublist (Changes.changes none seen)

omit [DecidableEq T] in
private theorem lastSeen_append (seen : List (Option T)) (time : Option T) :
    lastSeen (seen ++ [time]) = time := by
  simp [lastSeen]

theorem Warmed.see {w : World T} {seen : List (Option T)} (h : Warmed w seen)
    (hphase : w.phase ≠ .forwarding) (hnone : w.subscriptions = []) (time : Option T) :
    Warmed w (seen ++ [time]) := by
  constructor
  · exact fun hforwarding => absurd hforwarding hphase
  · simp [hnone]
  · rw [Changes.changes_append]
    exact h.prewarmed.trans (List.sublist_append_left _ _)

private theorem onUpdate_some {data : Snapshot T} {time : T} (h : data.lastAlarmTime = some time)
    (alarmTime : Option T) :
    (Events.onUpdate data alarmTime).2 = some time ∧
      ((Events.onUpdate data alarmTime).1.toList.map fun c => some c.1) =
        if some time = alarmTime then [] else [some time] := by
  unfold Events.onUpdate
  rw [h]
  dsimp only
  split
  · rename_i hsame
    exact ⟨hsame.symm, rfl⟩
  · exact ⟨rfl, rfl⟩

private theorem onUpdate_none {data : Snapshot T} (h : data.lastAlarmTime = none)
    (alarmTime : Option T) : Events.onUpdate data alarmTime = (none, alarmTime) := by
  simp [Events.onUpdate, h]

private theorem installed_calls (r : Record T) (alarmTime : Option T) (data : Snapshot T) :
    ((r.installed alarmTime).filterMap fun s => (s.onUpdate data).2).map (fun p => some p.2.1) =
      if r.relay then (Events.onUpdate data alarmTime).1.toList.map fun c => some c.1 else [] := by
  cases hrelay : r.relay with
  | false => simp [Record.installed, Subscription.onUpdate, hrelay]
  | true =>
    cases hcall : (Events.onUpdate data alarmTime).1 <;>
      simp [Record.installed, Subscription.onUpdate, hrelay, hcall]

theorem Warmed.update {w : World T} {seen : List (Option T)} (h : Warmed w seen)
    (hphase : w.phase ≠ .forwarding) {r : Record T} {alarmTime : Option T}
    (hinstalled : w.subscriptions = r.installed alarmTime) (data : Snapshot T) :
    Warmed (w.coordinatorUpdate data) (seen ++ (data.lastAlarmTime.map some).toList) := by
  have hlistener : r.relay = true → alarmTime = lastSeen seen := by
    intro hrelay
    apply h.listener r.attempt
    simp [hinstalled, Record.installed, hrelay]
  have hsubscriptions : (w.coordinatorUpdate data).subscriptions =
      r.installed (Events.onUpdate data alarmTime).2 := by
    simp only [World.coordinatorUpdate, hinstalled]
    exact onUpdate_installed r alarmTime data
  have hcalls := installed_calls r alarmTime data
  have hprewarmed : (w.coordinatorUpdate data).prewarmed.map (fun p => some p.2.1) =
      w.prewarmed.map (fun p => some p.2.1) ++
        if r.relay then (Events.onUpdate data alarmTime).1.toList.map (fun c => some c.1)
        else [] := by
    rw [← hcalls, ← hinstalled, ← List.map_append]
    rfl
  constructor
  · exact fun hforwarding => absurd hforwarding hphase
  · intro n time htime
    rw [hsubscriptions] at htime
    cases hrelay : r.relay with
    | false => simp [Record.installed, hrelay] at htime
    | true =>
      simp only [Record.installed, hrelay, if_true, List.cons_append, List.nil_append,
        List.mem_cons, reduceCtorEq, Subscription.prewarm.injEq, List.not_mem_nil, or_false,
        false_or] at htime
      rw [htime.2]
      cases hdata : data.lastAlarmTime with
      | none =>
        rw [onUpdate_none hdata]
        simpa using hlistener hrelay
      | some time' =>
        rw [(onUpdate_some hdata alarmTime).1]
        simp [lastSeen]
  · rw [hprewarmed]
    cases hdata : data.lastAlarmTime with
    | none =>
      rw [onUpdate_none hdata]
      simpa using h.prewarmed
    | some time' =>
      rw [(onUpdate_some hdata alarmTime).2, Option.map_some, Option.toList_some,
        Changes.changes_append]
      apply h.prewarmed.append
      cases hrelay : r.relay with
      | false => simp
      | true =>
        rw [hlistener hrelay]
        exact List.Sublist.refl _

theorem Warmed.congr {w w' : World T} {seen : List (Option T)} (h : Warmed w seen)
    (hphase : w'.phase ≠ .forwarding)
    (hsubscriptions : w'.subscriptions = w.subscriptions ∨ w'.subscriptions = [])
    (hprewarmed : w'.prewarmed = w.prewarmed) : Warmed w' seen := by
  constructor
  · exact fun hforwarding => absurd hforwarding hphase
  · rcases hsubscriptions with hsame | hnone
    · rw [hsame]
      exact h.listener
    · simp [hnone]
  · rw [hprewarmed]
    exact h.prewarmed

omit [DecidableEq T] in
private theorem noteSeen_update {s s' : World T × History} (hphase : s.1.phase ≠ .forwarding)
    (data : Snapshot T) (seen : List (Option T)) :
    noteSeen s (.coordinatorUpdate data) s' seen =
      seen ++ (data.lastAlarmTime.map some).toList := by
  cases hs : s.1.phase with
  | forwarding => exact absurd hs hphase
  | notLoaded | setupRetry | setupError | reloading | loaded | failedUnload =>
    cases htime : data.lastAlarmTime <;> simp [noteSeen, hs, htime]

omit [DecidableEq T] in
private theorem noteSeen_manages {a : Action T} (h : a.manages = true) (s s' : World T × History)
    (seen : List (Option T)) : noteSeen s a s' seen = seen := by
  cases a <;> first | rfl | simp [Action.manages] at h

theorem Warmed.setup {s s' : World T × History} {seen : List (Option T)}
    (hwarmed : Warmed s.1 seen) (hregistered : s.1.Registered s.2.lastLoaded)
    (hidle : s.1.phase.Idle) (replies : SetupReplies T) :
    Warmed (s.1.setup replies) (noteSeen s (.setup replies) s' seen) := by
  rw [hidle.registered] at hregistered
  have hsetUp := asyncSetupEntry_setUp s.1.attempts s.1.data s.1.options replies
  simp only [World.setup, noteSeen]
  generalize asyncSetupEntry s.1.attempts s.1.data s.1.options replies = outcome at hsetUp ⊢
  cases hsetUp with
  | raises exc harguments =>
    apply hwarmed.congr
    · simp [World.cameTo]
    · exact .inl rfl
    · rfl
  | notReady client message hdata =>
    apply hwarmed.congr
    · simp [World.cameTo]
    · exact .inl rfl
    · rfl
  | stores r hdata hattempt hmode hcode hfirst =>
    constructor
    · intro _ r' hr'
      cases hr'
      exact (lastSeen_append _ _).symm
    · simp [World.cameTo, hregistered]
    · rw [Changes.changes_append]
      exact hwarmed.prewarmed.trans (List.sublist_append_left _ _)

theorem Warmed.coordinatorUpdate {s s' : World T × History} {seen : List (Option T)}
    (hwarmed : Warmed s.1 seen) (hregistered : s.1.Registered s.2.lastLoaded) (data : Snapshot T) :
    Warmed (s.1.coordinatorUpdate data) (noteSeen s (.coordinatorUpdate data) s' seen) := by
  have hquiet (hnone : s.1.subscriptions = []) :
      (s.1.coordinatorUpdate data).subscriptions = [] ∧
        (s.1.coordinatorUpdate data).prewarmed = s.1.prewarmed := by
    simp [World.coordinatorUpdate, hnone]
  by_cases hforwarding : s.1.phase = .forwarding
  · simp only [World.Registered, hforwarding] at hregistered
    obtain ⟨hsubscriptions, hprewarmed⟩ := hquiet hregistered
    simp only [noteSeen, hforwarding]
    constructor
    · intro _ r hr
      obtain ⟨r', _, rfl⟩ := Option.map_eq_some_iff.1 hr
      exact (lastSeen_append _ _).symm
    · simp [hsubscriptions]
    · rw [hprewarmed, Changes.changes_append]
      exact hwarmed.prewarmed.trans (List.sublist_append_left _ _)
  · rw [noteSeen_update hforwarding]
    cases hphase : s.1.phase with
    | forwarding => exact absurd hphase hforwarding
    | loaded =>
      simp only [World.Registered, hphase] at hregistered
      obtain ⟨r, alarmTime, _, _, hinstalled⟩ := hregistered
      exact hwarmed.update hforwarding hinstalled data
    | failedUnload =>
      simp only [World.Registered, hphase] at hregistered
      obtain ⟨r, alarmTime, _, hinstalled⟩ := hregistered
      exact hwarmed.update hforwarding hinstalled data
    | notLoaded | setupRetry | setupError | reloading =>
      simp only [World.Registered, hphase] at hregistered
      obtain ⟨hsubscriptions, hprewarmed⟩ := hquiet hregistered
      have hcongr : Warmed (s.1.coordinatorUpdate data) seen :=
        hwarmed.congr hforwarding (.inr hsubscriptions) hprewarmed
      cases htime : data.lastAlarmTime with
      | none => simpa using hcongr
      | some time => exact hcongr.see hforwarding hsubscriptions (some time)

theorem Warmed.forwarded {w : World T} {seen : List (Option T)} {last : Option (Nat × Bool)}
    (h : Warmed w seen)
    (hphase : w.phase = .forwarding) (hregistered : w.Registered last) (ok : Bool) :
    Warmed (w.forwarded ok) seen := by
  simp only [World.Registered, hphase] at hregistered
  have hraised : Warmed { w with phase := .setupError } seen := by
    apply h.congr
    · simp
    · exact .inl rfl
    · rfl
  cases hrecord : w.record with
  | none =>
    cases ok <;> simpa [World.forwarded, hrecord] using hraised
  | some r =>
    cases ok with
    | false => exact hraised
    | true =>
      rw [World.forwarded_true hrecord]
      constructor
      · simp
      · intro n time htime
        simp only [hregistered, List.nil_append, Record.installed] at htime
        rw [← h.forwarding hphase r hrecord]
        cases hrelay : r.relay with
        | false => simp [hrelay] at htime
        | true =>
          simp only [hrelay, if_true, List.cons_append, List.nil_append, List.mem_cons,
            reduceCtorEq, Subscription.prewarm.injEq, List.not_mem_nil, or_false, false_or]
            at htime
          exact htime.2
      · exact h.prewarmed

theorem Warmed.unload {w : World T} {seen : List (Option T)} (h : Warmed w seen)
    (platformsOk : Bool) (logout : Except Cloud.Exc Unit) {next : Phase}
    (hnext : next ≠ .forwarding) : Warmed (w.asyncUnloadEntry platformsOk logout next) seen := by
  have hpop : w.popRecord.subscriptions = w.subscriptions ∧
      w.popRecord.prewarmed = w.prewarmed := by
    unfold World.popRecord
    split <;> exact ⟨rfl, rfl⟩
  unfold World.asyncUnloadEntry
  split
  · apply h.congr
    · simp
    · exact .inl rfl
    · rfl
  · split
    · apply h.congr
      · simp
      · exact .inl hpop.1
      · exact hpop.2
    · apply h.congr
      · exact hnext
      · exact .inr rfl
      · exact hpop.2

theorem Warmed.step {s s' : World T × History} {a : Action T} {seen : List (Option T)}
    (hwarmed : Warmed s.1 seen) (hregistered : s.1.Registered s.2.lastLoaded)
    (hstepped : Stepped s.1 a s'.1) : Warmed s'.1 (noteSeen s a s' seen) := by
  obtain ⟨w', h'⟩ := s'
  have hstepped : Stepped s.1 a w' := hstepped
  cases hstepped with
  | setsUp replies hcode hidle => exact hwarmed.setup hregistered hidle replies
  | forwards ok hphase => exact hwarmed.forwarded hphase hregistered ok
  | unloads a hmanages hphase n platformsOk logout next hnext =>
    rw [noteSeen_manages hmanages]
    have hsame : Warmed (s.1.withReloads n) seen := ⟨hwarmed.1, hwarmed.2, hwarmed.3⟩
    exact hsame.unload platformsOk logout hnext.ne.1
  | reloads a hmanages hidle n =>
    rw [noteSeen_manages hmanages]
    apply hwarmed.congr
    · simp
    · exact .inl rfl
    · rfl
  | refuses a hmanages hphase n =>
    rw [noteSeen_manages hmanages]
    exact ⟨hwarmed.1, hwarmed.2, hwarmed.3⟩
  | changes a hmanages ha option hoption =>
    rw [noteSeen_manages hmanages]
    unfold World.updateOptions
    split
    · exact hwarmed
    · exact ⟨hwarmed.1, hwarmed.2, hwarmed.3⟩
  | stays option => exact hwarmed
  | updates data => exact hwarmed.coordinatorUpdate hregistered data

private theorem warmed {s : (World T × History) × List (Option T)}
    (h : (alarmedEntry T).Reachable s) : Warmed s.1.1 s.2 := by
  refine ReachableUnder.invariant (P := fun s => Warmed s.1.1 s.2) ?_ ?_ h
  · intro s ⟨⟨⟨hphase, _, _, _, hsubscriptions, _, hprewarmed, _⟩, _⟩, _⟩
    constructor <;> simp [hphase, hsubscriptions, hprewarmed]
  · intro s a s' hreach hs _ hstep
    obtain ⟨hentry, hseen⟩ := recording_step.1 hstep
    rw [hseen]
    exact hs.step (kept (ReachableUnder.of_recording hreach)).1 (entry_stepped hentry).1

/-- An update pre-warms only for a time that was not there before. -/
theorem Warmed.news {w : World T} {seen : List (Option T)} (h : Warmed w seen)
    {data : Snapshot T} {call : Nat × T × Relay.Prewarm}
    (hcall : call ∈ w.subscriptions.filterMap fun s => (s.onUpdate data).2) :
    data.lastAlarmTime = some call.2.1 ∧ some call.2.1 ≠ lastSeen seen := by
  obtain ⟨subscription, hsubscription, hcall⟩ := List.mem_filterMap.1 hcall
  cases subscription with
  | updateListener | aesRefresh | statsSummary => cases hcall
  | prewarm attempt alarmTime =>
    have hknown := h.listener attempt alarmTime hsubscription
    obtain ⟨c, hc, rfl⟩ : ∃ c, (Events.onUpdate data alarmTime).1 = some c ∧
        (attempt, c.1, c.2) = call := Option.map_eq_some_iff.1 hcall
    cases htime : data.lastAlarmTime with
    | none =>
      rw [onUpdate_none htime] at hc
      cases hc
    | some time =>
      have hcalls := (onUpdate_some htime alarmTime).2
      rw [hc] at hcalls
      by_cases hsame : some time = alarmTime
      · simp [hsame] at hcalls
      · have htime : c.1 = time := by simpa [hsame] using hcalls
        rw [← hknown, htime]
        exact ⟨rfl, hsame⟩

/-- Whatever is loaded, reloaded and updated in between, the alarm times that were pre-warmed for
are changes of the alarm time, in their order. None is pre-warmed for twice unless it comes back
after another one, and an update pre-warms for none that was there before. -/
theorem prewarmed_once {s : (World T × History) × List (Option T)}
    (h : (alarmedEntry T).Reachable s) :
    (s.1.1.prewarmed.map fun p => some p.2.1).Sublist (Changes.changes none s.2) ∧
      (¬Changes.ComesBack (none :: s.2) → (s.1.1.prewarmed.map fun p => p.2.1).Nodup) ∧
      (∀ n time, .prewarm n time ∈ s.1.1.subscriptions → time = lastSeen s.2) ∧
      ∀ data, ∃ calls, (s.1.1.coordinatorUpdate data).prewarmed = s.1.1.prewarmed ++ calls ∧
        ∀ call ∈ calls, data.lastAlarmTime = some call.2.1 ∧ some call.2.1 ≠ lastSeen s.2 := by
  have hwarmed := warmed h
  have hsublist := hwarmed.prewarmed
  refine ⟨hsublist, fun hcomesBack => ?_, hwarmed.listener,
    fun data => ⟨_, rfl, fun call => hwarmed.news⟩⟩
  have hnodup := hsublist.nodup (Changes.nodup_changes.2 hcomesBack)
  have hmap : (s.1.1.prewarmed.map fun p => some p.2.1) =
      (s.1.1.prewarmed.map fun p => p.2.1).map some := by simp
  rw [hmap] at hnodup
  exact hnodup.of_map

def ringing (time : String) : Snapshot String :=
  ⟨some "Your doorbell is ringing", some (.str "2701"), some time⟩

/-- The doorbell rang before the entry was loaded, and rings once more after a reload. -/
def ringRun : List (Action String) :=
  [.setup (answered (.ok (ringing "08:00"))), .forwarded true,
    .coordinatorUpdate (ringing "08:00"), .reload false true (.ok ()),
    .setup (answered (.ok (ringing "08:00"))), .forwarded true,
    .coordinatorUpdate (ringing "09:30"), .coordinatorUpdate (ringing "09:30")]

theorem prewarmed_once_ringRun :
    ∃ s, (alarmedEntry String).Reachable s ∧
      (s.1.1.prewarmed.map fun p => p.2.1) = ["09:30"] ∧
      (s.1.1.prewarmed.map fun p => p.2.1).Nodup := by
  have hinit : (alarmedEntry String).init
      ((freshEntry String doorbellEntry, ⟨[], false, none⟩), []) :=
    ⟨freshEntry_init doorbellEntry, rfl⟩
  obtain ⟨s, hs, hprewarmed, hseen⟩ : ∃ s, (alarmedEntry String).Reachable s ∧
      (s.1.1.prewarmed.map fun p => p.2.1) = ["09:30"] ∧
      s.2 = [some "08:00", some "08:00", some "08:00", some "09:30", some "09:30"] :=
    ReachableUnder.of_replay ringRun hinit (by decide)
  refine ⟨s, hs, hprewarmed, (prewarmed_once hs).2.1 ?_⟩
  rw [hseen]
  exact Changes.nodup_changes.1 (by decide)

end EzvizHp7.Setup
