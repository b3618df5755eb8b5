import EzvizHp7.Library.Changes
import EzvizHp7.Library.Mealy
import EzvizHp7.Relay.State

/-!
# One alarm, one pulse

The alarm sensors and the pre-warm hook listen to the same coordinator. Either remembers the time
of the alarm it acted on last and acts on any other one; the alarm's time is all it knows of the
event. The times are ordered as the events were.
-/

namespace EzvizHp7.Events

open Relay (Prewarm)

inductive AlarmCode
  | int (n : Int)
  | str (s : String)
  deriving DecidableEq, Repr

def AlarmCode.truthy : AlarmCode → Bool
  | .int n => n ≠ 0
  | .str s => s ≠ ""

def AlarmCode.toStr : AlarmCode → String
  | .int n => toString n
  | .str s => s

structure Snapshot (T : Type) where
  alarmName : Option String
  alarmTypeCode : Option AlarmCode
  lastAlarmTime : Option T

def pulseSeconds : Rat := 3

structure Hp7BinaryAlarm (T : Type) where
  serial : String
  matchValues : List String
  localActions : List String
  matchCodes : List String
  lastTrigger : Option Rat
  prevAlarmTime : Option T
  seenFirstUpdate : Bool
  offTimer : Option Rat

structure AlarmKind where
  matchValues : List String
  translationKey : String
  localActions : List String
  matchCodes : List String

def doorbellRinging : AlarmKind :=
  ⟨["Your doorbell is ringing"], "doorbell_ringing", [], ["2701"]⟩

namespace Hp7BinaryAlarm

variable {T : Type}

def init (T : Type) (serial : String) (kind : AlarmKind) : Hp7BinaryAlarm T where
  serial := serial
  matchValues := kind.matchValues
  localActions := kind.localActions
  matchCodes := kind.matchCodes
  lastTrigger := none
  prevAlarmTime := none
  seenFirstUpdate := false
  offTimer := none

def isOn (now : Rat) (s : Hp7BinaryAlarm T) : Bool :=
  s.lastTrigger.any fun trigger => now - trigger < pulseSeconds

def matchesAlarm (name : Option String) (code : Option AlarmCode) (s : Hp7BinaryAlarm T) : Bool :=
  code.any (fun c => c.truthy && s.matchCodes.contains c.toStr) || name.any s.matchValues.contains

/-- `_last_trigger` is set and the switch-off is scheduled anew. -/
def pulse (now : Rat) (s : Hp7BinaryAlarm T) : Hp7BinaryAlarm T :=
  { s with lastTrigger := some now, offTimer := some (now + pulseSeconds) }

def handleLocalUnlock (now : Rat) (serial action : String) (s : Hp7BinaryAlarm T) :
    Hp7BinaryAlarm T :=
  if serial ≠ s.serial ∨ action ∉ s.localActions then s else s.pulse now

variable [DecidableEq T]

/-- With the alarm time that pulsed the sensor. -/
def handleCoordinatorUpdate (now : Rat) (data : Snapshot T) (s : Hp7BinaryAlarm T) :
    Option T × Hp7BinaryAlarm T :=
  if !s.seenFirstUpdate then
    (none, { s with seenFirstUpdate := true, prevAlarmTime := data.lastAlarmTime })
  else
    match data.lastAlarmTime with
    | none => (none, s)
    | some time =>
      if s.matchesAlarm data.alarmName data.alarmTypeCode ∧ some time ≠ s.prevAlarmTime then
        (some time, { s with prevAlarmTime := some time }.pulse now)
      else (none, s)

end Hp7BinaryAlarm

inductive SensorEvent (T : Type)
  | coordinatorUpdate (now : Rat) (data : Snapshot T)
  | localUnlock (now : Rat) (serial action : String)

section Events

variable {T : Type}

def SensorEvent.data? : SensorEvent T → Option (Snapshot T)
  | .coordinatorUpdate _ data => some data
  | .localUnlock _ _ _ => none

def updates (events : List (SensorEvent T)) : List (Snapshot T) :=
  events.filterMap SensorEvent.data?

def times (data : List (Snapshot T)) : List T := data.filterMap Snapshot.lastAlarmTime

private theorem updates_append (past : List (SensorEvent T × Option T)) (e : SensorEvent T)
    (out : Option T) : updates ((past ++ [(e, out)]).map Prod.fst) =
      updates (past.map Prod.fst) ++ e.data?.toList := by
  simp only [updates, List.map_append, List.filterMap_append]
  cases h : e.data? <;> simp [h]

def AlarmKind.accepts (kind : AlarmKind) (data : Snapshot T) : Bool :=
  (Hp7BinaryAlarm.init T "" kind).matchesAlarm data.alarmName data.alarmTypeCode

/-- The time of the last update that the sensor compared its memory with: a matching one, or the
first one of all. -/
def lastCompared (kind : AlarmKind) : List (Snapshot T) → Option T
  | [] => none
  | first :: rest => (times (rest.filter kind.accepts)).getLast?.or first.lastAlarmTime

private theorem lastCompared_append (kind : AlarmKind) {data : List (Snapshot T)}
    (hdata : data ≠ []) (d : Snapshot T) :
    lastCompared kind (data ++ [d]) =
      if kind.accepts d then d.lastAlarmTime.or (lastCompared kind data)
      else lastCompared kind data := by
  cases data with
  | nil => exact absurd rfl hdata
  | cons first rest =>
    simp only [lastCompared, List.cons_append, List.filter_append, times, List.filterMap_append,
      List.getLast?_append]
    cases haccepts : kind.accepts d <;> cases htime : d.lastAlarmTime <;>
      simp [haccepts, htime]

variable [DecidableEq T]

def handle (e : SensorEvent T) (s : Hp7BinaryAlarm T) : Option T × Hp7BinaryAlarm T :=
  match e with
  | .coordinatorUpdate now data => s.handleCoordinatorUpdate now data
  | .localUnlock now serial action => (none, s.handleLocalUnlock now serial action)

def prewarmHoldSeconds : Rat := 60

/-- `_on_update` of `_install_event_prewarm`: the alarm time that is acted on and the call. -/
def onUpdate (data : Snapshot T) (alarmTime : Option T) : Option (T × Prewarm) × Option T :=
  match data.lastAlarmTime with
  | none => (none, alarmTime)
  | some now =>
    if some now = alarmTime then (none, alarmTime)
    else (some (now, ⟨prewarmHoldSeconds, "alarm"⟩), some now)

def pulses (s : Hp7BinaryAlarm T) (events : List (SensorEvent T)) : List T :=
  (Mealy.log handle s events).filterMap Prod.snd

def prewarms (installed : Option T) (data : List (Snapshot T)) : List T :=
  (Mealy.log onUpdate installed data).filterMap fun e => e.2.map Prod.fst

structure Remembers (kind : AlarmKind) (past : List (SensorEvent T × Option T))
    (s : Hp7BinaryAlarm T) : Prop where
  matching : ∀ data : Snapshot T,
    s.matchesAlarm data.alarmName data.alarmTypeCode = kind.accepts data
  seen : s.seenFirstUpdate = true ↔ updates (past.map Prod.fst) ≠ []
  prev : s.prevAlarmTime = lastCompared kind (updates (past.map Prod.fst))

/-- Everything an event can do to the sensor's memory. -/
inductive Handled (s : Hp7BinaryAlarm T) (e : SensorEvent T) (out : Option T)
    (s' : Hp7BinaryAlarm T) : Prop
  | unlocks (hdata : e.data? = none) (hout : out = none)
      (hseen : s'.seenFirstUpdate = s.seenFirstUpdate) (hprev : s'.prevAlarmTime = s.prevAlarmTime)
  | seeds (data : Snapshot T) (hdata : e.data? = some data) (hfirst : s.seenFirstUpdate = false)
      (hout : out = none) (hseen : s'.seenFirstUpdate = true)
      (hprev : s'.prevAlarmTime = data.lastAlarmTime)
  | ignores (data : Snapshot T) (hdata : e.data? = some data) (hseen : s.seenFirstUpdate = true)
      (hsame : s.matchesAlarm data.alarmName data.alarmTypeCode = true →
        data.lastAlarmTime = none ∨ data.lastAlarmTime = s.prevAlarmTime)
      (hout : out = none) (hs : s' = s)
  | pulses (data : Snapshot T) (time : T) (hdata : e.data? = some data)
      (hseen : s.seenFirstUpdate = true)
      (hmatches : s.matchesAlarm data.alarmName data.alarmTypeCode = true)
      (htime : data.lastAlarmTime = some time) (hnew : some time ≠ s.prevAlarmTime)
      (hout : out = some time) (hseen' : s'.seenFirstUpdate = true)
      (hprev : s'.prevAlarmTime = some time)

theorem handle_handled (e : SensorEvent T) (s : Hp7BinaryAlarm T) :
    Handled s e (handle e s).1 (handle e s).2 := by
  cases e with
  | localUnlock now serial action =>
    have hkeeps : (s.handleLocalUnlock now serial action).seenFirstUpdate = s.seenFirstUpdate ∧
        (s.handleLocalUnlock now serial action).prevAlarmTime = s.prevAlarmTime := by
      unfold Hp7BinaryAlarm.handleLocalUnlock
      split <;> exact ⟨rfl, rfl⟩
    exact .unlocks rfl rfl hkeeps.1 hkeeps.2
  | coordinatorUpdate now data =>
    unfold handle Hp7BinaryAlarm.handleCoordinatorUpdate
    dsimp only
    split
    · rename_i hfirst
      exact .seeds data rfl (by simpa using hfirst) rfl rfl rfl
    · rename_i hseen
      have hseen : s.seenFirstUpdate = true := by simpa using hseen
      cases htime : data.lastAlarmTime with
      | none => exact .ignores data rfl hseen (fun _ => .inl htime) rfl rfl
      | some time =>
        dsimp only
        split
        · rename_i hnew
          exact .pulses data time rfl hseen hnew.1 htime hnew.2 rfl hseen rfl
        · rename_i hold
          refine .ignores data rfl hseen (fun hmatches => .inr ?_) rfl rfl
          rw [htime]
          exact not_not.1 fun hne => hold ⟨hmatches, hne⟩

private theorem isOn_of_silent {now : Rat} {data : Snapshot T} {s : Hp7BinaryAlarm T}
    (h : (handle (.coordinatorUpdate now data) s).1 = none) (later : Rat) :
    (handle (.coordinatorUpdate now data) s).2.isOn later = s.isOn later := by
  unfold handle Hp7BinaryAlarm.handleCoordinatorUpdate at h ⊢
  dsimp only at h ⊢
  split
  · rfl
  · rename_i hseen
    rw [if_neg hseen] at h
    cases htime : data.lastAlarmTime with
    | none => rfl
    | some time =>
      rw [htime] at h
      dsimp only at h ⊢
      split
      · rename_i hnew
        rw [if_pos hnew] at h
        cases h
      · rfl

theorem handle_matchesAlarm (e : SensorEvent T) (s : Hp7BinaryAlarm T) (name : Option String)
    (code : Option AlarmCode) :
    (handle e s).2.matchesAlarm name code = s.matchesAlarm name code := by
  cases e with
  | localUnlock now serial action =>
    unfold handle Hp7BinaryAlarm.handleLocalUnlock
    dsimp only
    split <;> rfl
  | coordinatorUpdate now data =>
    unfold handle Hp7BinaryAlarm.handleCoordinatorUpdate
    dsimp only
    split
    · rfl
    · cases data.lastAlarmTime with
      | none => rfl
      | some time =>
        dsimp only
        split <;> rfl

variable {kind : AlarmKind} {past : List (SensorEvent T × Option T)} {s : Hp7BinaryAlarm T}

theorem Remembers.handle (h : Remembers kind past s) (e : SensorEvent T) :
    Remembers kind (past ++ [(e, (handle e s).1)]) (handle e s).2 := by
  constructor
  · intro data
    rw [handle_matchesAlarm, h.matching]
  · rw [updates_append]
    cases handle_handled e s with
    | unlocks hdata _ hseen _ => simp [hdata, hseen, h.seen]
    | seeds data hdata _ _ hseen _ => simp [hdata, hseen]
    | ignores data hdata hseen _ _ hs => simp [hdata, hs, hseen]
    | pulses data time hdata _ _ _ _ _ hseen _ => simp [hdata, hseen]
  · rw [updates_append]
    cases handle_handled e s with
    | unlocks hdata _ _ hprev => simp [hdata, hprev, h.prev]
    | seeds data hdata hfirst _ _ hprev =>
      have hnone : updates (past.map Prod.fst) = [] := by
        simpa [hfirst] using h.seen
      simp [hdata, hprev, hnone, lastCompared, times]
    | ignores data hdata hseen hsame _ hs =>
      rw [hdata, Option.toList_some, lastCompared_append kind (h.seen.1 hseen), hs, h.prev]
      split
      · rename_i haccepts
        rw [← h.matching] at haccepts
        rcases hsame haccepts with htime | htime
        · simp [htime]
        · rw [htime, h.prev, Option.or_self]
      · rfl
    | pulses data time hdata hseen hmatches htime hnew _ _ hprev =>
      rw [h.matching] at hmatches
      rw [hdata, Option.toList_some, lastCompared_append kind (h.seen.1 hseen), hprev, htime]
      simp [hmatches]

theorem Remembers.pulses_iff (h : Remembers kind past s) (e : SensorEvent T) (time : T) :
    (Events.handle e s).1 = some time ↔
      ∃ data, e.data? = some data ∧ updates (past.map Prod.fst) ≠ [] ∧
        kind.accepts data = true ∧ data.lastAlarmTime = some time ∧
        lastCompared kind (updates (past.map Prod.fst)) ≠ some time := by
  rw [← h.prev, ← h.seen]
  cases handle_handled e s with
  | unlocks hdata hout => simp [hdata, hout]
  | seeds data hdata hfirst hout => simp [hdata, hfirst, hout]
  | ignores data hdata hseen hsame hout =>
    rw [h.matching] at hsame
    simp only [hdata, hseen, hout, Option.some.injEq, exists_eq_left', true_and, false_iff,
      reduceCtorEq]
    intro hand
    obtain ⟨haccepts, htime, hne⟩ := hand
    rcases hsame haccepts with hnone | hprev
    · rw [hnone] at htime
      cases htime
    · exact hne (hprev.symm.trans htime)
  | pulses data time' hdata hseen hmatches htime hnew hout =>
    rw [h.matching] at hmatches
    simp only [hdata, hseen, hout, htime, hmatches, Option.some.injEq, exists_eq_left', true_and]
    constructor
    · intro heq
      exact ⟨heq, fun hprev => hnew (heq ▸ hprev.symm)⟩
    · exact And.left

/-- An update that pulses the sensor has an alarm time newer than all times of the updates
before. -/
def PulsesNewer [LT T] (kind : AlarmKind) (serial : String) (events : List (SensorEvent T)) :
    Prop :=
  ∀ past e rest time,
    Mealy.log handle (.init T serial kind) events = past ++ e :: rest → e.2 = some time →
      ∀ time' ∈ times (updates (past.map Prod.fst)), time' < time

/-- The run gives no alarm time two pulses or two pre-warms, and an update whose alarm time is not
newer than one of an earlier update does not turn the sensor on. -/
structure FiresOnce [LT T] (kind : AlarmKind) (serial : String) (installed : Option T)
    (events : List (SensorEvent T)) : Prop where
  pulses : (pulses (.init T serial kind) events).Nodup
  prewarms : (prewarms installed (updates events)).Nodup
  newer : PulsesNewer kind serial events
  staysOff : ∀ before now data later time, events = before ++ .coordinatorUpdate now data :: later →
    data.lastAlarmTime = some time → (∃ time' ∈ times (updates before), ¬time' < time) →
      (Mealy.after handle (.init T serial kind) before).isOn now = false →
        (handle (.coordinatorUpdate now data)
          (Mealy.after handle (.init T serial kind) before)).2.isOn now = false

/-- The alarm time of a matching update is the one that the sensor compared with last or newer
than all before it, and no time returns that has already replaced another one. -/
structure NeverReturns [LT T] (kind : AlarmKind) (installed : Option T)
    (events : List (SensorEvent T)) : Prop where
  matching : ∀ before e later data time, events = before ++ e :: later →
    e.data? = some data → updates before ≠ [] → kind.accepts data = true →
      data.lastAlarmTime = some time →
        lastCompared kind (updates before) = some time ∨
          ∀ time' ∈ times (updates before), time' < time
  anyAlarm : ¬Changes.ComesBack (installed :: (times (updates events)).map some)

private theorem remembers_log (kind : AlarmKind) (serial : String) (events : List (SensorEvent T)) :
    Remembers kind (Mealy.log handle (.init T serial kind) events)
      (Mealy.after handle (.init T serial kind) events) := by
  refine Mealy.invariant (P := Remembers kind) ?_ ?_ fun _ _ => trivial
  · constructor
    · intro data
      rfl
    · simp [updates, Hp7BinaryAlarm.init]
    · rfl
  · intro past s e _ h
    exact h.handle e

private theorem log_pulses {serial : String} {events : List (SensorEvent T)}
    {past rest : List (SensorEvent T × Option T)} {e : SensorEvent T × Option T}
    (h : Mealy.log handle (.init T serial kind) events = past ++ e :: rest) (time : T) :
    e.2 = some time ↔
      ∃ data, e.1.data? = some data ∧ updates (past.map Prod.fst) ≠ [] ∧
        kind.accepts data = true ∧ data.lastAlarmTime = some time ∧
        lastCompared kind (updates (past.map Prod.fst)) ≠ some time := by
  obtain ⟨before, e, later, _, rfl, rfl⟩ := Mealy.log_split h
  exact (remembers_log kind serial before).pulses_iff e time

private theorem pulse_mem_times {serial : String} {events : List (SensorEvent T)}
    {past rest : List (SensorEvent T × Option T)}
    (h : Mealy.log handle (.init T serial kind) events = past ++ rest)
    {d : SensorEvent T × Option T} (hd : d ∈ past) {time : T} (htime : d.2 = some time) :
    time ∈ times (updates (past.map Prod.fst)) := by
  obtain ⟨before, after, rfl⟩ := List.append_of_mem hd
  rw [List.append_assoc, List.cons_append] at h
  obtain ⟨data, hdata, _, _, htime, _⟩ := (log_pulses h time).1 htime
  rw [times, List.mem_filterMap]
  refine ⟨data, ?_, htime⟩
  rw [updates, List.mem_filterMap]
  exact ⟨d.1, List.mem_map_of_mem (by simp), hdata⟩

private theorem prewarms_changes (installed : Option T) (data : List (Snapshot T)) :
    (prewarms installed data).map some = Changes.changes installed ((times data).map some) := by
  induction data generalizing installed with
  | nil => rfl
  | cons d data ih =>
    cases htime : d.lastAlarmTime with
    | none =>
      have hupdate : onUpdate d installed = (none, installed) := by simp [onUpdate, htime]
      simpa [prewarms, times, Mealy.log, hupdate, htime] using ih installed
    | some time =>
      by_cases hsame : some time = installed
      · subst hsame
        have hupdate : onUpdate d (some time) = (none, some time) := by simp [onUpdate, htime]
        simpa [prewarms, times, Mealy.log, hupdate, htime, Changes.changes] using ih (some time)
      · have hupdate : onUpdate d installed =
            (some (time, ⟨prewarmHoldSeconds, "alarm"⟩), some time) := by
          simp [onUpdate, htime, hsame]
        simpa [prewarms, times, Mealy.log, hupdate, htime, Changes.changes, hsame] using
          ih (some time)

private theorem prewarms_nodup (installed : Option T) (data : List (Snapshot T)) :
    (prewarms installed data).Nodup ↔
      ¬Changes.ComesBack (installed :: (times data).map some) := by
  rw [← Changes.nodup_changes, ← prewarms_changes]
  exact (List.nodup_map_iff (Option.some_injective T)).symm

private theorem pulses_nodup [Preorder T] {serial : String} {events : List (SensorEvent T)}
    (hnewer : PulsesNewer kind serial events) :
    (pulses (.init T serial kind) events).Nodup := by
  have hpairs : (Mealy.log handle (.init T serial kind) events).Pairwise fun d e =>
      ∀ time' ∈ d.2, ∀ time ∈ e.2, time' < time := by
    apply Mealy.pairwise_of_past
    intro past e rest hlog d hd time' htime' time htime
    exact hnewer past e rest time hlog htime time' (pulse_mem_times hlog hd htime')
  rw [pulses, List.Nodup, List.pairwise_filterMap]
  apply hpairs.imp
  intro d e hlt time' htime' time htime
  exact (hlt time' htime' time htime).ne

/-- An update can only pulse with an old time where a matching one brings it. -/
theorem newer_iff [LT T] (kind : AlarmKind) (serial : String) (events : List (SensorEvent T)) :
    PulsesNewer kind serial events ↔
      ∀ before e later data time, events = before ++ e :: later →
        e.data? = some data → updates before ≠ [] → kind.accepts data = true →
          data.lastAlarmTime = some time →
            lastCompared kind (updates before) = some time ∨
              ∀ time' ∈ times (updates before), time' < time := by
  constructor
  · intro hnewer before e later data time hevents hdata hbefore haccepts htime
    by_cases hlast : lastCompared kind (updates before) = some time
    · exact .inl hlast
    · right
      subst hevents
      have hlog := Mealy.log_append handle (.init T serial kind) before (e :: later)
      have hpast := Mealy.log_inputs handle (.init T serial kind) before
      have hout := ((remembers_log kind serial before).pulses_iff e time).2
        ⟨data, hdata, by rwa [hpast], haccepts, htime, by rwa [hpast]⟩
      have hold := hnewer _ _ _ time hlog hout
      rwa [hpast] at hold
  · intro hmatching past e rest time hlog hout
    obtain ⟨data, hdata, hbefore, haccepts, htime, hlast⟩ := (log_pulses hlog time).1 hout
    obtain ⟨before, e, later, hevents, rfl, rfl⟩ := Mealy.log_split hlog
    rw [Mealy.log_inputs] at hbefore hlast ⊢
    exact (hmatching before e later data time hevents hdata hbefore haccepts htime).resolve_left
      hlast

private theorem staysOff_of_newer [LT T] {kind : AlarmKind} {serial : String}
    {before later : List (SensorEvent T)} {now : Rat} {data : Snapshot T} {time : T}
    (hnewer : PulsesNewer kind serial (before ++ .coordinatorUpdate now data :: later))
    (htime : data.lastAlarmTime = some time)
    (hold : ∃ time' ∈ times (updates before), ¬time' < time)
    (hoff : (Mealy.after handle (.init T serial kind) before).isOn now = false) :
    (handle (.coordinatorUpdate now data)
      (Mealy.after handle (.init T serial kind) before)).2.isOn now = false := by
  obtain ⟨time', hmem, hnot⟩ := hold
  have hlog := Mealy.log_append handle (.init T serial kind) before
    (.coordinatorUpdate now data :: later)
  have hpast := Mealy.log_inputs handle (.init T serial kind) before
  rw [isOn_of_silent _ now, hoff]
  cases hout : (handle (.coordinatorUpdate now data)
      (Mealy.after handle (.init T serial kind) before)).1 with
  | none => rfl
  | some pulsed =>
    obtain ⟨data', hdata, _, _, hpulsed, _⟩ :=
      ((remembers_log kind serial before).pulses_iff _ pulsed).1 hout
    have hnew := hnewer _ _ _ pulsed hlog hout time' (by rwa [hpast])
    obtain rfl : data = data' := Option.some.inj hdata
    obtain rfl : time = pulsed := Option.some.inj (htime.symm.trans hpulsed)
    exact absurd hnew hnot

/-- Every alarm fires once in exactly the runs in which no alarm time returns. -/
theorem alarm_fires_once [Preorder T] (kind : AlarmKind) (serial : String) (installed : Option T)
    (events : List (SensorEvent T)) :
    FiresOnce kind serial installed events ↔ NeverReturns kind installed events := by
  constructor
  · intro h
    constructor
    · exact (newer_iff kind serial events).1 h.newer
    · exact (prewarms_nodup installed (updates events)).1 h.prewarms
  · intro h
    have hnewer := (newer_iff kind serial events).2 h.matching
    constructor
    · exact pulses_nodup hnewer
    · exact (prewarms_nodup installed (updates events)).2 h.anyAlarm
    · exact hnewer
    · intro before now data later time hevents htime hold hoff
      subst hevents
      exact staysOff_of_newer hnewer htime hold hoff

end Events

/-- The doorbell rings twice, and the second ring is deleted in the app. -/
def deletedRing : List (SensorEvent String) :=
  let ring (time : String) : Snapshot String :=
    ⟨some "Your doorbell is ringing", some (.str "2701"), some time⟩
  [.coordinatorUpdate 0 ⟨none, none, none⟩,
    .coordinatorUpdate 15 (ring "2026-05-20 12:00:00"),
    .coordinatorUpdate 600 (ring "2026-05-20 12:09:50"),
    .coordinatorUpdate 615 (ring "2026-05-20 12:00:00")]

/-- The first ring pulses the doorbell sensor again. -/
theorem not_alarm_fires_once :
    ¬ ∀ (kind : AlarmKind) (serial : String) (installed : Option String)
      (events : List (SensorEvent String)), FiresOnce kind serial installed events := by
  intro honce
  have hpulses := (honce doorbellRinging "BE0000000" none deletedRing).pulses
  revert hpulses
  decide +kernel

end EzvizHp7.Events
