import EzvizHp7.Events.AlarmPulse
import EzvizHp7.Library.Timers
import EzvizHp7.Library.Transition

/-!
# The switch-off timer

A pulsed alarm sensor asks the event loop to be called back when the pulse is over, and keeps the
handle to cancel that call when the next pulse comes first. The clock is exact and never goes
back, and the loop makes a call that was not cancelled once and not before it is due.
-/

namespace EzvizHp7.Events

open Transition System

/-- `Hp7BinaryAlarm` with the handle of its call in place of the time that call is due. -/
structure AlarmEntity (T : Type) where
  serial : String
  matchValues : List String
  localActions : List String
  matchCodes : List String
  lastTrigger : Option Rat
  prevAlarmTime : Option T
  seenFirstUpdate : Bool
  offUnsub : Option Nat

inductive StateWrite
  | called
  | addedJob
  deriving DecidableEq, Repr

structure Hass (T : Type) where
  now : Rat
  timers : Timers Rat
  alarm : AlarmEntity T
  writes : List StateWrite

inductive HassEvent (T : Type)
  | coordinatorUpdate (data : Snapshot T)
  | localUnlock (serial action : String)
  | timer (handle : Nat)

namespace AlarmEntity

variable {T : Type}

def init (T : Type) (serial : String) (kind : AlarmKind) : AlarmEntity T where
  serial := serial
  matchValues := kind.matchValues
  localActions := kind.localActions
  matchCodes := kind.matchCodes
  lastTrigger := none
  prevAlarmTime := none
  seenFirstUpdate := false
  offUnsub := none

def sensor (offTimer : Option Rat) (a : AlarmEntity T) : Hp7BinaryAlarm T where
  serial := a.serial
  matchValues := a.matchValues
  localActions := a.localActions
  matchCodes := a.matchCodes
  lastTrigger := a.lastTrigger
  prevAlarmTime := a.prevAlarmTime
  seenFirstUpdate := a.seenFirstUpdate
  offTimer := offTimer

def isOn (now : Rat) (a : AlarmEntity T) : Bool := (a.sensor none).isOn now

def matchesAlarm (name : Option String) (code : Option AlarmCode) (a : AlarmEntity T) : Bool :=
  (a.sensor none).matchesAlarm name code

/-- The event is an unlock of the sensor's own or an update with a new alarm for it. -/
def Triggers (a : AlarmEntity T) : HassEvent T → Prop
  | .coordinatorUpdate data =>
    a.seenFirstUpdate = true ∧ a.matchesAlarm data.alarmName data.alarmTypeCode = true ∧
      data.lastAlarmTime ≠ none ∧ data.lastAlarmTime ≠ a.prevAlarmTime
  | .localUnlock serial action => serial = a.serial ∧ action ∈ a.localActions
  | .timer _ => False

instance [DecidableEq T] (a : AlarmEntity T) (e : HassEvent T) : Decidable (a.Triggers e) :=
  match e with
  | .coordinatorUpdate data => inferInstanceAs (Decidable (a.seenFirstUpdate = true ∧
      a.matchesAlarm data.alarmName data.alarmTypeCode = true ∧ data.lastAlarmTime ≠ none ∧
      data.lastAlarmTime ≠ a.prevAlarmTime))
  | .localUnlock serial action => inferInstanceAs (Decidable (serial = a.serial ∧
      action ∈ a.localActions))
  | .timer _ => inferInstanceAs (Decidable False)

end AlarmEntity

namespace Hass

variable {T : Type}

def asyncWriteHaState (w : Hass T) : Hass T := { w with writes := w.writes ++ [.called] }

/-- `_off_unsub()`, if there is one. -/
def unsubscribed (w : Hass T) : Timers Rat :=
  match w.alarm.offUnsub with
  | some handle => w.timers.cancel handle
  | none => w.timers

def scheduleStateUpdate (w : Hass T) : Hass T :=
  let (handle, timers) := w.unsubscribed.callLater (w.now + pulseSeconds)
  { w with timers := timers, alarm := { w.alarm with offUnsub := some handle } }

/-- `_cb`. -/
def offCallback (w : Hass T) : Hass T :=
  { w with alarm := { w.alarm with offUnsub := none }, writes := w.writes ++ [.addedJob] }

def pulse (w : Hass T) : Hass T :=
  { w with alarm := { w.alarm with lastTrigger := some w.now } }.scheduleStateUpdate

def handleLocalUnlock (serial action : String) (w : Hass T) : Hass T :=
  if serial ≠ w.alarm.serial ∨ action ∉ w.alarm.localActions then w
  else w.pulse.asyncWriteHaState

def sensor (w : Hass T) : Hp7BinaryAlarm T :=
  w.alarm.sensor (w.alarm.offUnsub.bind w.timers.due?)

@[simp] theorem unsubscribed_next (w : Hass T) : w.unsubscribed.next = w.timers.next := by
  unfold unsubscribed
  split <;> rfl

@[simp] theorem handleLocalUnlock_now (serial action : String) (w : Hass T) :
    (w.handleLocalUnlock serial action).now = w.now := by
  unfold handleLocalUnlock
  split <;> rfl

theorem pulse_sensor (w : Hass T) : w.pulse.sensor = w.sensor.pulse w.now := by
  have hdue := w.unsubscribed.due?_callLater (w.now + pulseSeconds)
  exact congrArg (w.pulse.alarm.sensor ·) hdue

theorem handleLocalUnlock_sensor (serial action : String) (w : Hass T) :
    (w.handleLocalUnlock serial action).sensor =
      w.sensor.handleLocalUnlock w.now serial action := by
  unfold handleLocalUnlock Hp7BinaryAlarm.handleLocalUnlock
  change (if serial ≠ w.alarm.serial ∨ action ∉ w.alarm.localActions then w
    else w.pulse.asyncWriteHaState).sensor =
      if serial ≠ w.alarm.serial ∨ action ∉ w.alarm.localActions then w.sensor
      else w.sensor.pulse w.now
  split
  · rfl
  · exact w.pulse_sensor

variable [DecidableEq T]

def handleCoordinatorUpdate (data : Snapshot T) (w : Hass T) : Hass T :=
  if !w.alarm.seenFirstUpdate then
    { w with
      alarm :=
        { w.alarm with seenFirstUpdate := true, prevAlarmTime := data.lastAlarmTime }
    }.asyncWriteHaState
  else
    match data.lastAlarmTime with
    | none => w.asyncWriteHaState
    | some time =>
      if w.alarm.matchesAlarm data.alarmName data.alarmTypeCode ∧
          some time ≠ w.alarm.prevAlarmTime then
        { w with alarm := { w.alarm with prevAlarmTime := some time } }.pulse.asyncWriteHaState
      else w.asyncWriteHaState

def fire (handle : Nat) (w : Hass T) : Option (Hass T) :=
  (w.timers.due? handle).bind fun due =>
    if due ≤ w.now then some { w with timers := w.timers.cancel handle }.offCallback else none

def dispatch (e : HassEvent T) (w : Hass T) : Option (Hass T) :=
  match e with
  | .coordinatorUpdate data => some (w.handleCoordinatorUpdate data)
  | .localUnlock serial action => some (w.handleLocalUnlock serial action)
  | .timer handle => w.fire handle

def step (e : Rat × HassEvent T) (w : Hass T) : Option (Hass T) :=
  if w.now ≤ e.1 then { w with now := e.1 }.dispatch e.2 else none

/-- Everything an event can do to the sensor's pulse and to its call. -/
inductive Dispatched (w : Hass T) (e : Rat × HassEvent T) (w' : Hass T) : Prop
  | pulses (htriggers : w.alarm.Triggers e.2) (htrigger : w'.alarm.lastTrigger = some e.1)
      (hunsub : w'.alarm.offUnsub = some w.timers.next)
      (htimers : w'.timers = (w.unsubscribed.callLater (e.1 + pulseSeconds)).2)
  | stays (hquiet : ¬w.alarm.Triggers e.2) (hevent : ∀ handle, e.2 ≠ .timer handle)
      (htrigger : w'.alarm.lastTrigger = w.alarm.lastTrigger)
      (hunsub : w'.alarm.offUnsub = w.alarm.offUnsub) (htimers : w'.timers = w.timers)
  | fires (handle : Nat) (due : Rat) (hevent : e.2 = .timer handle)
      (hdue : w.timers.due? handle = some due) (hnow : due ≤ e.1)
      (htrigger : w'.alarm.lastTrigger = w.alarm.lastTrigger)
      (hunsub : w'.alarm.offUnsub = none) (htimers : w'.timers = w.timers.cancel handle)
      (hwrites : w'.writes = w.writes ++ [.addedJob])

@[simp] theorem handleCoordinatorUpdate_now (data : Snapshot T) (w : Hass T) :
    (w.handleCoordinatorUpdate data).now = w.now := by
  unfold handleCoordinatorUpdate
  split
  · rfl
  · cases data.lastAlarmTime with
    | none => rfl
    | some time =>
      dsimp only
      split <;> rfl

omit [DecidableEq T] in
theorem handleLocalUnlock_dispatched (now : Rat) (serial action : String) (w : Hass T) :
    Dispatched w (now, .localUnlock serial action)
      ({ w with now := now }.handleLocalUnlock serial action) := by
  unfold handleLocalUnlock
  split
  · rename_i hother
    refine .stays ?_ (by simp) rfl rfl rfl
    intro hown
    rcases hother with hserial | haction
    · exact hserial hown.1
    · exact haction hown.2
  · rename_i hown
    have hown : serial = w.alarm.serial ∧ action ∈ w.alarm.localActions := by
      simpa only [not_or, ne_eq, not_not] using hown
    exact .pulses hown rfl (congrArg some w.unsubscribed_next) rfl

theorem handleCoordinatorUpdate_dispatched (now : Rat) (data : Snapshot T) (w : Hass T) :
    Dispatched w (now, .coordinatorUpdate data)
      ({ w with now := now }.handleCoordinatorUpdate data) := by
  unfold handleCoordinatorUpdate
  dsimp only
  split
  · rename_i hfirst
    refine .stays ?_ (by simp) rfl rfl rfl
    intro hseen
    simp [hseen.1] at hfirst
  · rename_i hseen
    have hseen : w.alarm.seenFirstUpdate = true := by simpa using hseen
    cases htime : data.lastAlarmTime with
    | none =>
      refine .stays ?_ (by simp) rfl rfl rfl
      intro hnew
      exact hnew.2.2.1 htime
    | some time =>
      dsimp only
      split
      · rename_i hnew
        refine .pulses ⟨hseen, hnew.1, ?_, ?_⟩ rfl (congrArg some w.unsubscribed_next) rfl
        · simp [htime]
        · simpa [htime] using hnew.2
      · rename_i hold
        refine .stays ?_ (by simp) rfl rfl rfl
        intro hnew
        exact hold ⟨hnew.2.1, htime ▸ hnew.2.2.2⟩

theorem step_dispatched {e : Rat × HassEvent T} {w w' : Hass T} (h : w.step e = some w') :
    w.now ≤ e.1 ∧ w'.now = e.1 ∧ Dispatched w e w' := by
  rw [step] at h
  split at h
  · rename_i hnow
    refine ⟨hnow, ?_⟩
    rcases e with ⟨now, e⟩
    cases e with
    | coordinatorUpdate data =>
      cases h
      exact ⟨handleCoordinatorUpdate_now data _, handleCoordinatorUpdate_dispatched now data w⟩
    | localUnlock serial action =>
      cases h
      exact ⟨handleLocalUnlock_now serial action _,
        handleLocalUnlock_dispatched now serial action w⟩
    | timer handle =>
      obtain ⟨due, hdue, h⟩ := Option.bind_eq_some_iff.1 h
      split at h
      · rename_i hpast
        cases h
        exact ⟨rfl, .fires handle due rfl hdue hpast rfl rfl rfl rfl⟩
      · cases h
  · cases h

theorem handleCoordinatorUpdate_sensor (data : Snapshot T) (w : Hass T) :
    (w.handleCoordinatorUpdate data).sensor =
      (w.sensor.handleCoordinatorUpdate w.now data).2 := by
  unfold handleCoordinatorUpdate Hp7BinaryAlarm.handleCoordinatorUpdate
  have hseen : w.sensor.seenFirstUpdate = w.alarm.seenFirstUpdate := rfl
  rw [hseen]
  split
  · rfl
  · cases data.lastAlarmTime with
    | none => rfl
    | some time =>
      have hnew : (w.sensor.matchesAlarm data.alarmName data.alarmTypeCode = true ∧
          some time ≠ w.sensor.prevAlarmTime) =
          (w.alarm.matchesAlarm data.alarmName data.alarmTypeCode = true ∧
            some time ≠ w.alarm.prevAlarmTime) := rfl
      simp only [hnew]
      split
      · exact pulse_sensor { w with alarm := { w.alarm with prevAlarmTime := some time } }
      · rfl

/-- The loop's call is the abstract sensor's switch-off time. -/
theorem step_sensor {e : Rat × HassEvent T} {w w' : Hass T} (h : w.step e = some w') :
    w'.sensor =
      match e.2 with
      | .coordinatorUpdate data => (handle (.coordinatorUpdate e.1 data) w.sensor).2
      | .localUnlock serial action => (handle (.localUnlock e.1 serial action) w.sensor).2
      | .timer _ => { w.sensor with offTimer := none } := by
  rw [step] at h
  split at h
  · rcases e with ⟨now, e⟩
    cases e with
    | coordinatorUpdate data =>
      cases h
      exact handleCoordinatorUpdate_sensor data { w with now := now }
    | localUnlock serial action =>
      cases h
      exact handleLocalUnlock_sensor serial action { w with now := now }
    | timer handle =>
      obtain ⟨due, _, h⟩ := Option.bind_eq_some_iff.1 h
      split at h
      · cases h
        rfl
      · cases h
  · cases h

end Hass

/-- What happened to the sensor. A trigger has the handle that the loop gives to the first call it
is asked for then. -/
inductive Occurred
  | trigger (time : Rat) (callback : Nat)
  | fired (callback : Nat)
  deriving DecidableEq, Repr

def Occurred.trigger? : Occurred → Option (Rat × Nat)
  | .trigger time callback => some (time, callback)
  | .fired _ => none

def latestTrigger (past : List Occurred) : Option (Rat × Nat) :=
  (past.filterMap Occurred.trigger?).getLast?

section Runs

variable {T : Type} [DecidableEq T]

def occurred (w : Hass T) (e : Rat × HassEvent T) : List Occurred :=
  match e.2 with
  | .timer handle => [.fired handle]
  | event => if w.alarm.Triggers event then [.trigger e.1 w.timers.next] else []

def hass (T : Type) [DecidableEq T] (serial : String) (kind : AlarmKind) :
    System (Hass T) (Rat × HassEvent T) where
  init w := w.alarm = .init T serial kind ∧ w.timers.pending = []
  step := Hass.step

def recordedHass (T : Type) [DecidableEq T] (serial : String) (kind : AlarmKind) :
    System (Hass T × List Occurred) (Rat × HassEvent T) :=
  (hass T serial kind).recording [] fun w e _ past => past ++ occurred w e

/-- At most one call is pending, the one of the latest trigger until it is made, and the sensor
is on only while it is. -/
structure Disciplined (past : List Occurred) (w : Hass T) : Prop where
  atMostOne : w.timers.pending.length ≤ 1
  pending_iff : ∀ callback due, (callback, due) ∈ w.timers.pending ↔
    ∃ time, latestTrigger past = some (time, callback) ∧ .fired callback ∉ past ∧
      due = time + pulseSeconds
  on : ∀ now, w.now ≤ now → w.alarm.isOn now = true → w.timers.pending ≠ []

/-- A call that is made finds the sensor off, and has its state written. -/
def FiresOff (w : Hass T) : Prop :=
  ∀ now callback w', w.step (now, .timer callback) = some w' →
    (∀ later, now ≤ later → w'.alarm.isOn later = false) ∧ w'.writes = w.writes ++ [.addedJob]

/-- Between the pulses, in one, or after one. -/
inductive Phase (past : List Occurred) (w : Hass T) : Prop
  | idle (hlatest : latestTrigger past = none) (htrigger : w.alarm.lastTrigger = none)
      (hunsub : w.alarm.offUnsub = none) (hpending : w.timers.pending = [])
  | on (time : Rat) (callback : Nat) (hlatest : latestTrigger past = some (time, callback))
      (hfired : .fired callback ∉ past) (htrigger : w.alarm.lastTrigger = some time)
      (hunsub : w.alarm.offUnsub = some callback)
      (hpending : w.timers.pending = [(callback, time + pulseSeconds)])
  | off (time : Rat) (callback : Nat) (hlatest : latestTrigger past = some (time, callback))
      (hfired : .fired callback ∈ past) (htrigger : w.alarm.lastTrigger = some time)
      (hover : time + pulseSeconds ≤ w.now) (hunsub : w.alarm.offUnsub = none)
      (hpending : w.timers.pending = [])

structure PulseInv (past : List Occurred) (w : Hass T) : Prop where
  phase : Phase past w
  known : ∀ callback, .fired callback ∈ past → callback < w.timers.next

@[simp] theorem latestTrigger_trigger (past : List Occurred) (time : Rat) (callback : Nat) :
    latestTrigger (past ++ [.trigger time callback]) = some (time, callback) := by
  simp [latestTrigger, Occurred.trigger?]

@[simp] theorem latestTrigger_fired (past : List Occurred) (callback : Nat) :
    latestTrigger (past ++ [.fired callback]) = latestTrigger past := by
  simp [latestTrigger, Occurred.trigger?]

private theorem occurred_of_triggers {w : Hass T} {e : Rat × HassEvent T}
    (h : w.alarm.Triggers e.2) : occurred w e = [.trigger e.1 w.timers.next] := by
  rcases e with ⟨now, e⟩
  cases e with
  | timer handle => cases h
  | coordinatorUpdate data => exact if_pos h
  | localUnlock serial action => exact if_pos h

private theorem occurred_of_quiet {w : Hass T} {e : Rat × HassEvent T}
    (hquiet : ¬w.alarm.Triggers e.2)
    (hevent : ∀ handle, e.2 ≠ .timer handle) : occurred w e = [] := by
  rcases e with ⟨now, e⟩
  cases e with
  | timer handle => exact absurd rfl (hevent handle)
  | coordinatorUpdate data => exact if_neg hquiet
  | localUnlock serial action => exact if_neg hquiet

private theorem occurred_of_timer {w : Hass T} {e : Rat × HassEvent T} {handle : Nat}
    (h : e.2 = .timer handle) : occurred w e = [.fired handle] := by
  rw [occurred, h]

variable {past : List Occurred} {w w' : Hass T} {e : Rat × HassEvent T}

omit [DecidableEq T] in
theorem Phase.unsubscribed_pending (h : Phase past w) : w.unsubscribed.pending = [] := by
  cases h with
  | idle _ _ hunsub hpending => simpa [Hass.unsubscribed, hunsub] using hpending
  | on time callback _ _ _ hunsub hpending =>
    simpa [Hass.unsubscribed, hunsub] using Timers.cancel_pending_of_singleton hpending
  | off _ _ _ _ _ _ hunsub hpending => simpa [Hass.unsubscribed, hunsub] using hpending

omit [DecidableEq T] in
theorem Phase.stays (h : Phase past w) (hnow : w.now ≤ w'.now)
    (htrigger : w'.alarm.lastTrigger = w.alarm.lastTrigger)
    (hunsub : w'.alarm.offUnsub = w.alarm.offUnsub) (htimers : w'.timers = w.timers) :
    Phase past w' := by
  cases h with
  | idle hlatest htrigger' hunsub' hpending =>
    exact .idle hlatest (htrigger.trans htrigger') (hunsub.trans hunsub') (htimers ▸ hpending)
  | on time callback hlatest hfired htrigger' hunsub' hpending =>
    exact .on time callback hlatest hfired (htrigger.trans htrigger') (hunsub.trans hunsub')
      (htimers ▸ hpending)
  | off time callback hlatest hfired htrigger' hover hunsub' hpending =>
    exact .off time callback hlatest hfired (htrigger.trans htrigger') (hover.trans hnow)
      (hunsub.trans hunsub') (htimers ▸ hpending)

omit [DecidableEq T] in
/-- Only the call of the latest trigger can be made, and not before the pulse is over. -/
theorem Phase.due? (h : Phase past w) {handle : Nat} {due : Rat}
    (hdue : w.timers.due? handle = some due) :
    ∃ time, latestTrigger past = some (time, handle) ∧ w.alarm.lastTrigger = some time ∧
      due = time + pulseSeconds ∧ w.timers.pending = [(handle, due)] := by
  cases h with
  | idle _ _ _ hpending => simp [Timers.due?_of_nil hpending] at hdue
  | off _ _ _ _ _ _ _ hpending => simp [Timers.due?_of_nil hpending] at hdue
  | on time callback hlatest _ htrigger _ hpending =>
    rw [Timers.due?_of_singleton hpending] at hdue
    split at hdue
    · rename_i hhandle
      cases hdue
      subst hhandle
      exact ⟨time, hlatest, htrigger, rfl, hpending⟩
    · cases hdue

theorem PulseInv.step (h : PulseInv past w) (hstep : w.step e = some w') :
    PulseInv (past ++ occurred w e) w' := by
  obtain ⟨hnow, hnow', hdispatched⟩ := Hass.step_dispatched hstep
  cases hdispatched with
  | pulses htriggers htrigger hunsub htimers =>
    rw [occurred_of_triggers htriggers]
    have hnext : .fired w.timers.next ∉ past := fun hmem => Nat.lt_irrefl _ (h.known _ hmem)
    constructor
    · refine .on e.1 w.timers.next (by simp) (by simp [hnext]) htrigger hunsub ?_
      simp [htimers, h.phase.unsubscribed_pending]
    · intro callback hmem
      have hmem : .fired callback ∈ past := by simpa using hmem
      simpa [htimers] using Nat.lt_succ_of_lt (h.known callback hmem)
  | stays hquiet hevent htrigger hunsub htimers =>
    rw [occurred_of_quiet hquiet hevent, List.append_nil]
    exact ⟨h.phase.stays (hnow'.symm ▸ hnow) htrigger hunsub htimers, htimers ▸ h.known⟩
  | fires handle due hevent hdue hpast htrigger hunsub htimers _ =>
    rw [occurred_of_timer hevent]
    obtain ⟨time, hlatest, htrigger', hdue, hpending⟩ := h.phase.due? hdue
    have hhandle : handle < w.timers.next := w.timers.fresh (handle, due) (by simp [hpending])
    constructor
    · refine .off time handle (by simpa using hlatest) (by simp) (htrigger.trans htrigger') ?_
        hunsub ?_
      · rw [hnow', ← hdue]
        exact hpast
      · rw [htimers]
        exact Timers.cancel_pending_of_singleton hpending
    · intro callback hmem
      rw [htimers, Timers.cancel_next]
      rcases List.mem_append.1 hmem with hmem | hmem
      · exact h.known callback hmem
      · cases List.mem_singleton.1 hmem
        exact hhandle

private theorem recordedHass_inv {serial : String} {kind : AlarmKind} {s : Hass T × List Occurred}
    (h : (recordedHass T serial kind).Reachable s) : PulseInv s.2 s.1 := by
  refine ReachableUnder.invariant (P := fun s => PulseInv s.2 s.1) ?_ ?_ h
  · intro s hinit
    obtain ⟨⟨halarm, hpending⟩, hpast⟩ := hinit
    rw [hpast]
    constructor
    · exact .idle rfl (by simp [halarm, AlarmEntity.init]) (by simp [halarm, AlarmEntity.init])
        hpending
    · intro callback hmem
      cases hmem
  · intro s e s' _ hinv _ hstep
    obtain ⟨hstep, hpast⟩ := recording_step.1 hstep
    rw [hpast]
    exact hinv.step hstep

omit [DecidableEq T] in
private theorem isOn_iff {now : Rat} {a : AlarmEntity T} :
    a.isOn now = true ↔ ∃ time, a.lastTrigger = some time ∧ now < time + pulseSeconds := by
  cases htrigger : a.lastTrigger with
  | none => simp [AlarmEntity.isOn, Hp7BinaryAlarm.isOn, AlarmEntity.sensor, htrigger]
  | some time =>
    simp [AlarmEntity.isOn, Hp7BinaryAlarm.isOn, AlarmEntity.sensor, htrigger,
      sub_lt_iff_lt_add']

omit [DecidableEq T] in
theorem Phase.disciplined (h : Phase past w) : Disciplined past w := by
  cases h with
  | idle hlatest htrigger _ hpending =>
    constructor
    · simp [hpending]
    · simp [hpending, hlatest]
    · simp [isOn_iff, htrigger]
  | on time callback hlatest hfired _ _ hpending =>
    constructor
    · simp [hpending]
    · intro callback' due
      rw [hpending, List.mem_singleton, Prod.mk.injEq, hlatest]
      constructor
      · rintro ⟨rfl, rfl⟩
        exact ⟨time, rfl, hfired, rfl⟩
      · rintro ⟨time', hsame, _, rfl⟩
        cases hsame
        exact ⟨rfl, rfl⟩
    · simp [hpending]
  | off time callback hlatest hfired htrigger hover _ hpending =>
    constructor
    · simp [hpending]
    · intro callback' due
      rw [hpending, hlatest]
      constructor
      · intro hmem
        cases hmem
      · rintro ⟨time', hsame, hunfired, _⟩
        cases hsame
        exact absurd hfired hunfired
    · intro now hnow hon
      obtain ⟨time', hsame, hlt⟩ := isOn_iff.1 hon
      rw [htrigger] at hsame
      cases hsame
      exact absurd (hover.trans hnow) (not_le.2 hlt)

theorem Phase.firesOff (h : Phase past w) : FiresOff w := by
  intro now callback w' hstep
  obtain ⟨_, _, hdispatched⟩ := Hass.step_dispatched hstep
  cases hdispatched with
  | pulses htriggers => cases htriggers
  | stays _ hevent => exact absurd rfl (hevent callback)
  | fires handle due _ hdue hpast htrigger _ _ hwrites =>
    obtain ⟨time, _, htrigger', hdue, _⟩ := h.due? hdue
    refine ⟨?_, hwrites⟩
    intro later hlater
    rw [← Bool.not_eq_true, isOn_iff]
    rintro ⟨time', hsame, hlt⟩
    rw [htrigger, htrigger'] at hsame
    cases hsame
    rw [← hdue] at hlt
    exact absurd (hpast.trans hlater) (not_le.2 hlt)

/-- Whatever the order of updates, unlocks and calls, the one pending call is the one due when the
latest pulse is over. -/
theorem pulse_discipline {serial : String} {kind : AlarmKind} {s : Hass T × List Occurred}
    (h : (recordedHass T serial kind).Reachable s) : Disciplined s.2 s.1 ∧ FiresOff s.1 :=
  have hphase := (recordedHass_inv h).phase
  ⟨hphase.disciplined, hphase.firesOff⟩

end Runs

def gateOpen : AlarmKind :=
  ⟨["EZVIZ app open the gate", "Monitor open the gate"], "gate_open", ["unlock_gate"], ["10243"]⟩

/-- The gate is opened from here, and two seconds later its alarm comes in. -/
def openedTwice : List (Rat × HassEvent String) :=
  [(0, .coordinatorUpdate ⟨none, none, none⟩),
    (10, .localUnlock "BE0000000" "unlock_gate"),
    (12, .coordinatorUpdate
      ⟨some "EZVIZ app open the gate", some (.str "10243"), some "2026-05-20 12:00:00"⟩)]

theorem pulse_discipline_openedTwice :
    ∃ s : Hass String × List Occurred, s.1.timers.pending = [(1, 15)] ∧
      (s.1.step (15, .timer 1)).isSome = true ∧ Disciplined s.2 s.1 ∧ FiresOff s.1 := by
  have hinit : (recordedHass String "BE0000000" gateOpen).init
      (⟨0, ⟨[], 0, by simp⟩, .init String "BE0000000" gateOpen, []⟩, []) := ⟨⟨rfl, rfl⟩, rfl⟩
  obtain ⟨s, hs, hpending, hfires⟩ :
      ∃ s, (recordedHass String "BE0000000" gateOpen).ReachableUnder (fun _ _ => True) s ∧
        s.1.timers.pending = [(1, 15)] ∧ (s.1.step (15, .timer 1)).isSome = true :=
    ReachableUnder.of_replay openedTwice hinit (by decide +kernel)
  exact ⟨s, hpending, hfires, pulse_discipline hs⟩

end EzvizHp7.Events
