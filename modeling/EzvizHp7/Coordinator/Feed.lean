import EzvizHp7.Coordinator.CloudPolls
import EzvizHp7.Coordinator.Ledger
import EzvizHp7.Library.LastWrite

/-!
# From the cloud to a sensor

The coordinator polls through the client and keeps what the last good poll returned; the sensors
are told when it likes. A sensor of this system behaves as one that hears the device's messages
itself.
-/

namespace EzvizHp7.Coordinator

open Cloud (Exc Replies)
open Events (AlarmKind Hp7BinaryAlarm SensorEvent Snapshot)
open Setup (Value)

variable (camera : EzvizCamera)

/-- What the cloud answers during one refresh, where it is asked, and the clock. -/
structure CloudTick where
  replies : Replies
  messages : Except Exc Value
  now : Rat
  staticReplies : Replies
  infos : Except Exc Value

/-- The data is that of the last refresh that returned any. -/
structure Feed where
  polls : Polls
  coordinator : Hp7Coordinator Value
  data : Option (Dict Value)
  sensor : Hp7BinaryAlarm Value

inductive FeedEvent
  | refresh (t : CloudTick)
  | notify (now : Rat)
  | localUnlock (now : Rat) (serial action : String)

inductive Output
  | refreshed (tick : Tick Value) (update : Update Value)
  | handled (pulse : Option Value)

/-- The text is all that the coordinator uses of an exception. -/
def outcome {α : Type} : EStateM.Result Exc Polls α → Except String α
  | .ok a _ => .ok a
  | .error exc _ => .error exc.text

/-- The data, the empty dictionary before there is any. -/
def Feed.current (s : Feed) : Dict Value := s.data.getD ∅

def Feed.tick (t : CloudTick) (s : Feed) : Tick Value where
  alarms := outcome ((getAlarms camera s.coordinator.serial t.replies t.messages).run s.polls)
  now := t.now
  staticStatus :=
    outcome ((getStaticStatus camera s.coordinator.serial t.staticReplies t.infos).run
      ((getAlarms camera s.coordinator.serial t.replies t.messages).left s.polls))

def Feed.pollsAfter (t : CloudTick) (update : Update Value) (s : Feed) : Polls :=
  let polls := (getAlarms camera s.coordinator.serial t.replies t.messages).left s.polls
  if .staticStatus ∈ update.calls then
    (getStaticStatus camera s.coordinator.serial t.staticReplies t.infos).left polls
  else polls

def feedStep (e : FeedEvent) (s : Feed) : Output × Feed :=
  match e with
  | .refresh t =>
    let u := s.coordinator.asyncUpdateData Value.truthy (s.tick camera t)
    (.refreshed (s.tick camera t) u.1,
      { s with
        polls := s.pollsAfter camera t u.1
        coordinator := u.2
        data := u.1.result.toOption.or s.data })
  | .notify now =>
    let u := s.sensor.handleCoordinatorUpdate now (snapshot s.current)
    (.handled u.1, { s with sensor := u.2 })
  | .localUnlock now serial action =>
    (.handled none, { s with sensor := s.sensor.handleLocalUnlock now serial action })

def Feed.init (api : Cloud.Hp7Api) (stats : Option ActivityStats) (serial : String)
    (kind : AlarmKind) : Feed where
  polls := ⟨⟨api, []⟩, ∅, []⟩
  coordinator := .init Value serial stats
  data := none
  sensor := .init Value serial kind

def Output.pulse? : Output → Option Value
  | .refreshed _ _ => none
  | .handled pulse => pulse

def hears (serial : String) (e : FeedEvent × Output) : Option (Snapshot Value) :=
  match e with
  | (.refresh t, .refreshed _ update) =>
    if update.result.isOk then
      some (told ((message camera serial t.messages).toOption.getD none))
    else none
  | _ => none

def silence : Snapshot Value := ⟨none, none, none⟩

def heard (serial : String) (past : List (FeedEvent × Output)) : Snapshot Value :=
  LastWrite.value (hears camera serial) silence past

/-- The events of a sensor that hears the device itself, after it has heard `now`. -/
def sensorEvents (serial : String) (last : Snapshot Value) :
    List (FeedEvent × Output) → List (SensorEvent Value)
  | [] => []
  | e :: rest =>
    match e.1 with
    | .refresh _ => sensorEvents serial ((hears camera serial e).getD last) rest
    | .notify now => .coordinatorUpdate now last :: sensorEvents serial last rest
    | .localUnlock now serial' action =>
      .localUnlock now serial' action :: sensorEvents serial last rest

private theorem snapshot_empty : snapshot ∅ = silence := rfl

theorem refresh_told {t : CloudTick} {s : Feed} {merged : Dict Value}
    (h : (s.coordinator.asyncUpdateData Value.truthy (s.tick camera t)).1.result = .ok merged) :
    snapshot merged =
        told ((message camera s.coordinator.serial t.messages).toOption.getD none) ∧
      (∃ alarms, (s.tick camera t).alarms = .ok alarms ∧
        alarms.lookup "image_encryption" = none ∧
        merged = alarms ∪
          (s.coordinator.asyncUpdateData Value.truthy (s.tick camera t)).2.cachedStatic) := by
  obtain ⟨⟨alarms, halarms, hmerged⟩, _⟩ :=
    (asyncUpdateData_ticked Value.truthy (s.tick camera t) s.coordinator).returns h
  have hreturn : ∃ p, (getAlarms camera s.coordinator.serial t.replies t.messages).run s.polls =
      .ok alarms p := by
    cases hrun : (getAlarms camera s.coordinator.serial t.replies t.messages).run s.polls with
    | ok a p =>
      simp only [Feed.tick, hrun, outcome, Except.ok.injEq] at halarms
      exact ⟨p, by rw [halarms]⟩
    | error exc p => simp [Feed.tick, hrun, outcome] at halarms
  obtain ⟨_, hreturn⟩ := hreturn
  obtain ⟨alarm, hmessage, htold, hflag⟩ := alarms_ok camera (getAlarms_ok camera hreturn)
  constructor
  · rw [hmerged, htold, hmessage]
    rfl
  · exact ⟨alarms, halarms, hflag, hmerged⟩

theorem feedStep_serial (e : FeedEvent) (s : Feed) :
    (feedStep camera e s).2.coordinator.serial = s.coordinator.serial := by
  cases e with
  | refresh t => exact asyncUpdateData_serial Value.truthy _ _
  | notify now => rfl
  | localUnlock now serial action => rfl

private theorem feedStep_hears (e : FeedEvent) (s : Feed) :
    snapshot (feedStep camera e s).2.current =
      (hears camera s.coordinator.serial (e, (feedStep camera e s).1)).getD
        (snapshot s.current) := by
  cases e with
  | notify now => rfl
  | localUnlock now serial action => rfl
  | refresh t =>
    cases hresult :
        (s.coordinator.asyncUpdateData Value.truthy (s.tick camera t)).1.result with
    | error exc => simp [feedStep, Feed.current, hears, hresult, Except.toOption, Except.isOk,
        Except.toBool]
    | ok merged =>
      simp [feedStep, Feed.current, hears, hresult, Except.toOption, Except.isOk,
        Except.toBool, (refresh_told camera hresult).1]

private theorem pulses_sensorEvents (s : Feed) (events : List FeedEvent) :
    (Mealy.log (feedStep camera) s events).filterMap (fun e => e.2.pulse?) =
      Events.pulses s.sensor (sensorEvents camera s.coordinator.serial (snapshot s.current)
        (Mealy.log (feedStep camera) s events)) := by
  induction events generalizing s with
  | nil => rfl
  | cons e events ih =>
    have hih := ih (feedStep camera e s).2
    rw [feedStep_serial, feedStep_hears] at hih
    cases e with
    | refresh t => exact hih
    | notify now =>
      rw [Mealy.log, sensorEvents, Events.pulses, Mealy.log, List.filterMap_cons,
        List.filterMap_cons, hih]
      rfl
    | localUnlock now serial action =>
      rw [Mealy.log, sensorEvents, Events.pulses, Mealy.log, List.filterMap_cons,
        List.filterMap_cons, hih]
      rfl

private theorem feed_serial (s : Feed) (events : List FeedEvent) :
    (Mealy.after (feedStep camera) s events).coordinator.serial = s.coordinator.serial := by
  induction events generalizing s with
  | nil => rfl
  | cons e events ih => exact (ih _).trans (feedStep_serial camera e s)

private theorem feed_heard (s : Feed) (hsilent : snapshot s.current = silence)
    (events : List FeedEvent) : snapshot (Mealy.after (feedStep camera) s events).current =
      heard camera s.coordinator.serial (Mealy.log (feedStep camera) s events) := by
  induction events using List.reverseRecOn with
  | nil => exact hsilent
  | append_singleton events e ih =>
    rw [Mealy.after_append, Mealy.log_append]
    change snapshot (feedStep camera e (Mealy.after (feedStep camera) s events)).2.current =
      LastWrite.value _ _ (_ ++ [(e, (feedStep camera e _).1)])
    rw [feedStep_hears, feed_serial, ih, LastWrite.value_append]
    rfl

private theorem feed_matchesAlarm (s : Feed) (events : List FeedEvent) (name : Option String)
    (code : Option Events.AlarmCode) :
    (Mealy.after (feedStep camera) s events).sensor.matchesAlarm name code =
      s.sensor.matchesAlarm name code := by
  induction events generalizing s with
  | nil => rfl
  | cons e events ih =>
    rw [Mealy.after, ih]
    cases e with
    | refresh t => rfl
    | notify now => exact Events.handle_matchesAlarm (.coordinatorUpdate now _) s.sensor name code
    | localUnlock now serial action =>
      exact Events.handle_matchesAlarm (.localUnlock now serial action) s.sensor name code

/-- The message is the first one of the device in the answer. -/
structure IsLatest (serial : String) (messages : Except Exc Value) (m : Entries) : Prop where
  answer : ∃ response, messages = .ok response ∧ latestMessage serial response = .ok (some m)
  device : m.lookup "deviceSerial" = some (.str serial)

/-- What a run tells the sensor. -/
structure HearsDevice (serial : String) (kind : AlarmKind) (log : List (FeedEvent × Output)) :
    Prop where
  /-- The pulses are those of a sensor that hears the device itself. -/
  transparent : log.filterMap (fun e => e.2.pulse?) =
    Events.pulses (.init Value serial kind) (sensorEvents camera serial silence log)
  /-- Each pulse has a message of the device behind it, which the last good refresh brought. -/
  provenance : ∀ past now time rest, log = past ++ (.notify now, .handled (some time)) :: rest →
    ∃ before t tick update after m alarm,
      past = before ++ (.refresh t, .refreshed tick update) :: after ∧
      (∀ e ∈ after, hears camera serial e = none) ∧
      IsLatest serial t.messages m ∧ camera.normalizeUnifiedMessage m = .ok alarm ∧
      kind.accepts (told (some alarm)) = true ∧ (told (some alarm)).lastAlarmTime = some time

omit camera in
private theorem latestMessage_device {serial : String} {response : Value} {m : Entries}
    (h : latestMessage serial response = .ok (some m)) :
    m.lookup "deviceSerial" = some (.str serial) := by
  simp only [latestMessage, Except.bind_eq_ok] at h
  obtain ⟨_, _, _, _, h⟩ := h
  split at h
  · rename_i items _
    simp only [pure, Except.pure, Except.ok.injEq] at h
    obtain ⟨item, _, hitem⟩ := List.exists_of_findSome?_eq_some h
    cases item with
    | dict entries =>
      simp only [isFrom] at hitem
      split at hitem
      · rename_i hserial
        rw [← Option.some.inj hitem]
        exact hserial
      · cases hitem
    | _ => cases hitem
  · cases h

private theorem isLatest_of_message {serial : String} {messages : Except Exc Value}
    {alarm : Entries} (h : message camera serial messages = .ok (some alarm)) :
    ∃ m, IsLatest serial messages m ∧ camera.normalizeUnifiedMessage m = .ok alarm := by
  simp only [message, Except.bind_eq_ok] at h
  obtain ⟨response, hresponse, latest, hlatest, halarm⟩ := h
  cases latest with
  | none => simp [normalised] at halarm
  | some m =>
    refine ⟨m, ⟨⟨response, hresponse, hlatest⟩, latestMessage_device hlatest⟩, ?_⟩
    cases hnormalised : camera.normalizeUnifiedMessage m with
    | error exc => simp [normalised, hnormalised, Except.map] at halarm
    | ok alarm' => simpa [normalised, hnormalised, Except.map] using halarm

private theorem hears_refresh {serial : String} {e : FeedEvent × Output} {snap : Snapshot Value}
    (h : hears camera serial e = some snap) :
    ∃ t tick update, e = (.refresh t, .refreshed tick update) ∧
      snap = told ((message camera serial t.messages).toOption.getD none) := by
  obtain ⟨event, output⟩ := e
  cases event with
  | notify now => cases h
  | localUnlock now serial' action => cases h
  | refresh t =>
    cases output with
    | handled pulse => cases h
    | refreshed tick update =>
      simp only [hears] at h
      split at h
      · exact ⟨t, tick, update, rfl, (Option.some.inj h).symm⟩
      · cases h

/-- Where something was heard, a refresh brought it. -/
theorem heard_alarm {serial : String} {past : List (FeedEvent × Output)} {time : Value}
    (h : (heard camera serial past).lastAlarmTime = some time) :
    ∃ before t tick update after alarm,
      past = before ++ (.refresh t, .refreshed tick update) :: after ∧
      (∀ e ∈ after, hears camera serial e = none) ∧
      message camera serial t.messages = .ok (some alarm) ∧
      heard camera serial past = told (some alarm) := by
  cases hlast : (past.filterMap (hears camera serial)).getLast? with
  | none => simp [heard, LastWrite.value, hlast, silence] at h
  | some snap =>
    have hheard : heard camera serial past = snap := by
      rw [heard, LastWrite.value, hlast, Option.getD_some]
    obtain ⟨before, e, after, hpast, he, hafter⟩ := LastWrite.exists_last hlast
    rw [hheard] at h ⊢
    obtain ⟨t, tick, update, rfl, hsnap⟩ := hears_refresh camera he
    cases halarm : (message camera serial t.messages).toOption.getD none with
    | none => simp [hsnap, halarm, told, time?] at h
    | some alarm =>
      refine ⟨before, t, tick, update, after, alarm, hpast, hafter, ?_, ?_⟩
      · cases hmessage : message camera serial t.messages with
        | error exc => simp [hmessage, Except.toOption] at halarm
        | ok latest =>
          simp only [hmessage, Except.toOption, Option.getD_some] at halarm
          rw [halarm]
      · rw [hsnap, halarm]

/-- A sensor pulses for what the cloud has of its own device, whatever happens when. -/
theorem sensor_hears_device (api : Cloud.Hp7Api) (stats : Option ActivityStats) (serial : String)
    (kind : AlarmKind) (events : List FeedEvent) :
    HearsDevice camera serial kind
      (Mealy.log (feedStep camera) (.init api stats serial kind) events) where
  transparent := pulses_sensorEvents camera (.init api stats serial kind) events
  provenance past now time rest h := by
    obtain ⟨before, e, later, _, hpast, he⟩ := Mealy.log_split h
    obtain ⟨rfl, hout⟩ := Prod.mk.inj he
    have hpulse := (Output.handled.inj hout).symm
    have hheard := feed_heard camera (.init api stats serial kind) snapshot_empty before
    rw [← hpast] at hheard
    have hmatching := feed_matchesAlarm camera (.init api stats serial kind) before
    generalize Mealy.after (feedStep camera) (.init api stats serial kind) before = s at *
    cases Events.handle_handled (.coordinatorUpdate now (snapshot s.current)) s.sensor with
    | unlocks hdata => cases hdata
    | seeds _ _ _ hout => cases hout.symm.trans hpulse
    | ignores _ _ _ _ hout => cases hout.symm.trans hpulse
    | pulses data time' hdata _ hmatches htime _ hout =>
      obtain rfl := Option.some.inj hdata
      obtain rfl : time' = time := Option.some.inj (hout.symm.trans hpulse)
      rw [hmatching] at hmatches
      rw [hheard] at hmatches htime
      obtain ⟨before, t, tick, update, after, alarm, hpast, hafter, hmessage, htold⟩ :=
        heard_alarm camera htime
      obtain ⟨m, hlatest, hnormalised⟩ := isLatest_of_message camera hmessage
      rw [htold] at hmatches htime
      exact ⟨before, t, tick, update, after, m, alarm, hpast, hafter, hlatest, hnormalised,
        hmatches, htime⟩

end EzvizHp7.Coordinator
