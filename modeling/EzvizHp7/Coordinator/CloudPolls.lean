import EzvizHp7.Coordinator.Polling
import EzvizHp7.Events.Unlock
import EzvizHp7.Setup.DeviceInfos

/-!
# The two cloud polls

`get_alarms` and `get_static_status` of `Hp7Api`, over answers of any shape, and the way of a
message through them and the coordinator to a sensor. The camera helper that the client's own one
is built on is a parameter.
-/

namespace EzvizHp7.Setup.Value

mutual
def decEq : (a b : Value) → Decidable (a = b)
  | .none, .none => .isTrue rfl
  | .bool b, .bool c => decidable_of_iff (b = c) (by simp)
  | .number m, .number n => decidable_of_iff (m = n) (by simp)
  | .str s, .str t => decidable_of_iff (s = t) (by simp)
  | .list vs, .list ws =>
    match decEqList vs ws with
    | .isTrue h => .isTrue (congrArg list h)
    | .isFalse h => .isFalse (by simpa using h)
  | .dict vs, .dict ws =>
    match decEqDict vs ws with
    | .isTrue h => .isTrue (congrArg dict h)
    | .isFalse h => .isFalse (by simpa using h)
  | .none, .bool _ | .none, .number _ | .none, .str _ | .none, .list _ | .none, .dict _
  | .bool _, .none | .bool _, .number _ | .bool _, .str _ | .bool _, .list _ | .bool _, .dict _
  | .number _, .none | .number _, .bool _ | .number _, .str _ | .number _, .list _
  | .number _, .dict _ | .str _, .none | .str _, .bool _ | .str _, .number _ | .str _, .list _
  | .str _, .dict _ | .list _, .none | .list _, .bool _ | .list _, .number _ | .list _, .str _
  | .list _, .dict _ | .dict _, .none | .dict _, .bool _ | .dict _, .number _ | .dict _, .str _
  | .dict _, .list _ => .isFalse (by simp)
  termination_by structural a => a
def decEqList : (a b : List Value) → Decidable (a = b)
  | [], [] => .isTrue rfl
  | [], _ :: _ => .isFalse (by simp)
  | _ :: _, [] => .isFalse (by simp)
  | v :: vs, w :: ws =>
    match decEq v w, decEqList vs ws with
    | .isTrue h, .isTrue h' => .isTrue (by rw [h, h'])
    | .isFalse h, _ => .isFalse (by simp [h])
    | _, .isFalse h => .isFalse (by simp [h])
  termination_by structural a => a
def decEqDict : (a b : List (String × Value)) → Decidable (a = b)
  | [], [] => .isTrue rfl
  | [], _ :: _ => .isFalse (by simp)
  | _ :: _, [] => .isFalse (by simp)
  | e :: vs, f :: ws =>
    match decEqEntry e f, decEqDict vs ws with
    | .isTrue h, .isTrue h' => .isTrue (by rw [h, h'])
    | .isFalse h, _ => .isFalse (by simp [h])
    | _, .isFalse h => .isFalse (by simp [h])
  termination_by structural a => a
def decEqEntry : (a b : String × Value) → Decidable (a = b)
  | (k, v), (l, w) =>
    match decEq v w with
    | .isTrue h => decidable_of_iff (k = l) (by simp [h])
    | .isFalse h => .isFalse (by simp [h])
  termination_by structural a => a
end

instance : DecidableEq Value := decEq

end EzvizHp7.Setup.Value

namespace EzvizHp7.Coordinator

open Cloud (Exc Method Replies Traced)
open Cloud.Hp7Api (ensureClient)
open Events (AlarmCode AlarmKind Hp7BinaryAlarm SensorEvent Snapshot)
open Setup (Value)

abbrev Entries := List (String × Value)

/-- How the parser of the alarm's time ends, with the motion state that it leaves behind. A
`ValueError` or a `TypeError` is the one kind of failure, everything else the other. -/
inductive MotionTrigger
  | done (trigger : Entries)
  | badFormat (trigger : Entries)
  | raises (exc : Exc)

/-- What is used of `EzvizCamera`. -/
structure EzvizCamera where
  /-- The constructor, with the motion state that it begins with. -/
  init : String → Value → Except Exc Entries
  fetchKey : Value → List String → Value → Except Exc Value
  localIp : Value → Except Exc Value
  normalizeUnifiedMessage : Entries → Except Exc Entries
  motionTrigger : Entries → Entries → MotionTrigger
  /-- `str` of a value that is not a string. -/
  str : Value → String

variable (camera : EzvizCamera)

namespace EzvizCamera

/-- `dev.get(key) or {}` -/
def getOrEmpty (dev : Value) (key : String) : Except Exc Value := do
  return (← dev.get key .none).or (.dict [])

def localRtspPort (device : Value) : Except Exc String := do
  let port ← camera.fetchKey device ["CONNECTION", "localRtspPort"] (.str "554")
  -- `False` is equal to 0
  if port = .number 0 ∨ port = .bool false ∨ port = .str "0" ∨ port = .none then
    return "554"
  match port with
  | .str port => return port
  | port => return camera.str port

def statusStaticDict (device : Value) : Except Exc Entries := do
  let port ← camera.localRtspPort device
  let name ← camera.fetchKey device ["deviceInfos", "name"] .none
  let version ← camera.fetchKey device ["deviceInfos", "version"] .none
  let isNeedUpgrade ← camera.fetchKey device ["UPGRADE", "isNeedUpgrade"] .none
  let status ← camera.fetchKey device ["deviceInfos", "status"] .none
  let wanIp ← camera.fetchKey device ["CONNECTION", "netIp"] .none
  let wifi ← getOrEmpty device "WIFI"
  let localIp ← camera.localIp device
  let isEncrypt ← camera.fetchKey device ["STATUS", "isEncrypt"] .none
  return [("name", name), ("version", version),
    ("upgrade_available", .bool (isNeedUpgrade = .number 3)), ("status", status),
    ("wan_ip", wanIp), ("WIFI", wifi), ("local_ip", localIp), ("local_rtsp_port", .str port),
    ("image_encryption", .bool isEncrypt.truthy)]

def defaultAlarmPicUrl : String :=
  "https://eustatics.ezvizlife.com/ovs_mall/web/img/index/EZVIZ_logo.png?ver=3007907502"

/-- The motion state after the alarm; a time that cannot be parsed does not fail the poll. -/
def motionState (trigger lastAlarm : Entries) : Except Exc Entries :=
  if (lastAlarm.lookup "alarmStartTimeStr").any Value.truthy then
    match camera.motionTrigger trigger lastAlarm with
    | .done trigger | .badFormat trigger => .ok trigger
    | .raises exc => .error exc
  else .ok trigger

def statusAlarmDict (trigger : Entries) (latestAlarm : Option Entries) : Except Exc Entries := do
  let lastAlarm := latestAlarm.getD []
  let trigger ← camera.motionState trigger lastAlarm
  return [("Seconds_Last_Trigger", (trigger.lookup "timepassed").getD .none),
    ("last_alarm_time", (lastAlarm.lookup "alarmStartTimeStr").getD .none),
    ("last_alarm_pic", (lastAlarm.lookup "picUrl").getD (.str defaultAlarmPicUrl)),
    ("last_alarm_type_name", (lastAlarm.lookup "sampleName").getD (.str "NoAlarm")),
    ("last_alarm_type_code", (lastAlarm.lookup "alarmType").getD (.str "0000")),
    ("Motion_Trigger", (trigger.lookup "alarm_trigger_active").getD .none)]

end EzvizCamera

/-- The client, the serials that it has warned about and the warnings in the log. -/
structure Polls where
  api : Traced
  warnedImageEncryption : AList fun _ : String => Bool
  warnings : List String

abbrev PollMethod := EStateM Exc Polls

def onClient {α : Type} (m : Method α) : PollMethod α := fun p =>
  match m.run p.api with
  | .ok a api => .ok a { p with api := api }
  | .error exc api => .error exc { p with api := api }

def notInitialised : Exc := ⟨[.runtimeError], "EZVIZ HP7 cloud client not initialised"⟩

def read (status : Entries) (key : String) : Value := (status.lookup key).getD .none

def isFrom (serial : String) : Value → Option Entries
  | .dict m => if m.lookup "deviceSerial" = some (.str serial) then some m else none
  | _ => none

def latestMessage (serial : String) (response : Value) : Except Exc (Option Entries) := do
  let message ← response.get "message" .none
  let messages ← response.get "messages" .none
  match (message.or messages).or (.list []) with
  | .list items => return items.findSome? (isFrom serial)
  | _ => return none

def normalised (latest : Option Entries) : Except Exc (Option Entries) :=
  match latest with
  | none => .ok none
  | some message => (camera.normalizeUnifiedMessage message).map some

def requireClient (r : Replies) : PollMethod Unit := do
  onClient (ensureClient r)
  let p ← get
  if p.api.api.client then pure () else throw notInitialised

def alarms (serial : String) (messages : Except Exc Value) : Except Exc (Dict Value) := do
  let response ← messages
  let latest ← latestMessage serial response
  -- the constructor of the helper does without a device
  let trigger ← camera.init serial (.dict [("SWITCH", .list [])])
  let alarm ← normalised camera latest
  let status ← camera.statusAlarmDict trigger alarm
  return List.toAList [⟨"seconds_last_trigger", read status "Seconds_Last_Trigger"⟩,
    ⟨"last_alarm_time", read status "last_alarm_time"⟩,
    ⟨"last_alarm_pic", read status "last_alarm_pic"⟩,
    ⟨"alarm_name", read status "last_alarm_type_name"⟩,
    ⟨"alarm_type_code", read status "last_alarm_type_code"⟩,
    ⟨"motion_trigger", read status "Motion_Trigger"⟩]

def getAlarms (serial : String) (r : Replies) (messages : Except Exc Value) :
    PollMethod (Dict Value) := do
  requireClient r
  MonadExcept.ofExcept (alarms camera serial messages)

/-- The warning is logged once for each serial. -/
def warnImageEncryption (serial : String) (imageEncryption : Bool) : PollMethod Unit := do
  let p ← get
  if imageEncryption = true ∧ p.warnedImageEncryption.lookup serial ≠ some true then
    set { p with
      warnedImageEncryption := p.warnedImageEncryption.insert serial true
      warnings := p.warnings ++ [serial] }

def deviceStatus (serial : String) (infos : Except Exc Value) : Except Exc Entries := do
  let device ← infos
  let _ ← camera.init serial device
  camera.statusStaticDict device

/-- `cam_status.get("local_ip") or wifi_info.get("address")` -/
def localIpOr (status : Entries) (wifi : Value) : Except Exc Value :=
  if (read status "local_ip").truthy then .ok (read status "local_ip")
  else wifi.get "address" .none

def staticStatus (status : Entries) : Except Exc (Dict Value) := do
  let wifi := (read status "WIFI").or (.dict [])
  let ssid ← wifi.get "ssid" .none
  let signal ← wifi.get "signal" .none
  let localIp ← localIpOr status wifi
  return List.toAList [⟨"name", read status "name"⟩, ⟨"version", read status "version"⟩,
    ⟨"upgrade_available", read status "upgrade_available"⟩, ⟨"status", read status "status"⟩,
    ⟨"wan_ip", read status "wan_ip"⟩, ⟨"ssid", ssid⟩, ⟨"signal", signal⟩,
    ⟨"local_ip", localIp⟩,
    ⟨"local_rtsp_port", (read status "local_rtsp_port").or (.str "554")⟩,
    ⟨"image_encryption", .bool (read status "image_encryption").truthy⟩]

def getStaticStatus (serial : String) (r : Replies) (infos : Except Exc Value) :
    PollMethod (Dict Value) := do
  requireClient r
  let status ← MonadExcept.ofExcept (deviceStatus camera serial infos)
  warnImageEncryption serial (read status "image_encryption").truthy
  MonadExcept.ofExcept (staticStatus status)

@[simp] theorem run_ofExcept_ok {α : Type} (a : α) (p : Polls) :
    (MonadExcept.ofExcept (.ok a) : PollMethod α).run p = .ok a p := rfl

@[simp] theorem run_ofExcept_error {α : Type} (exc : Exc) (p : Polls) :
    (MonadExcept.ofExcept (.error exc) : PollMethod α).run p = .error exc p := rfl

private theorem run_ofExcept_eq_ok {α : Type} {e : Except Exc α} {a : α} {p p' : Polls} :
    (MonadExcept.ofExcept e : PollMethod α).run p = .ok a p' ↔ e = .ok a ∧ p' = p := by
  cases e with
  | ok b => simp [eq_comm]
  | error exc => simp

/-- The log and the memory of the warnings are the other's. -/
def Polls.SameWarnings (p p' : Polls) : Prop :=
  p'.warnings = p.warnings ∧ p'.warnedImageEncryption = p.warnedImageEncryption

section Silent

open EStateM (Keeps)

variable {α : Type} (p : Polls)

private theorem keeps_onClient (m : Method α) : Keeps p.SameWarnings (onClient m) := by
  intro p' hp'
  cases h : m.run p'.api with
  | ok a api =>
    have hrun : (onClient m).run p' = .ok a { p' with api := api } := by
      simp only [EStateM.run] at h
      simp only [EStateM.run, onClient, h]
    rw [EStateM.left_of_ok hrun]
    exact hp'
  | error exc api =>
    have hrun : (onClient m).run p' = .error exc { p' with api := api } := by
      simp only [EStateM.run] at h
      simp only [EStateM.run, onClient, h]
    rw [EStateM.left_of_error hrun]
    exact hp'

private theorem keeps_ofExcept (e : Except Exc α) :
    Keeps p.SameWarnings (MonadExcept.ofExcept e : PollMethod α) := by
  cases e with
  | ok a => exact Keeps.pure a
  | error exc => exact Keeps.raise exc

private theorem keeps_requireClient (r : Replies) : Keeps p.SameWarnings (requireClient r) := by
  refine Keeps.bind (keeps_onClient p _) fun _ => Keeps.bind Keeps.get fun w => ?_
  exact Keeps.ite (Keeps.pure _) (Keeps.raise _)

theorem keeps_getAlarms (serial : String) (r : Replies) (messages : Except Exc Value) :
    Keeps p.SameWarnings (getAlarms camera serial r messages) :=
  Keeps.bind (keeps_requireClient p r) fun _ => keeps_ofExcept p _

end Silent

/-- What the log of a poll for the static data shows: nothing new, or the first warning about the
serial, for a device whose images are encrypted. -/
inductive Warns (serial : String) (infos : Except Exc Value) (p p' : Polls) : Prop
  | silent (hsame : p.SameWarnings p')
  | warned (device isEncrypt : Value) (hinfos : infos = .ok device)
      (hencrypt : camera.fetchKey device ["STATUS", "isEncrypt"] .none = .ok isEncrypt)
      (htruthy : isEncrypt.truthy = true)
      (hfirst : p.warnedImageEncryption.lookup serial ≠ some true)
      (hwarnings : p'.warnings = p.warnings ++ [serial])
      (hwarned : p'.warnedImageEncryption = p.warnedImageEncryption.insert serial true)

private theorem deviceStatus_encrypted {serial : String} {infos : Except Exc Value}
    {status : Entries} (h : deviceStatus camera serial infos = .ok status) :
    ∃ device isEncrypt, infos = .ok device ∧
      camera.fetchKey device ["STATUS", "isEncrypt"] .none = .ok isEncrypt ∧
      (read status "image_encryption") = .bool isEncrypt.truthy := by
  simp only [deviceStatus, EzvizCamera.statusStaticDict, Except.bind_eq_ok] at h
  obtain ⟨device, hinfos, _, _, _, _, _, _, _, _, _, _, _, _, _, _, _, _, _, _, isEncrypt, hencrypt,
    h⟩ := h
  refine ⟨device, isEncrypt, hinfos, hencrypt, ?_⟩
  cases h
  rfl

private theorem warnImageEncryption_run (serial : String) (imageEncryption : Bool) (p : Polls) :
    (warnImageEncryption serial imageEncryption).run p =
      .ok () (if imageEncryption = true ∧ p.warnedImageEncryption.lookup serial ≠ some true then
        { p with
          warnedImageEncryption := p.warnedImageEncryption.insert serial true
          warnings := p.warnings ++ [serial] }
      else p) := by
  simp only [warnImageEncryption, EStateM.run_bind, EStateM.run_get, EStateM.run_ite]
  split <;> rfl

theorem getStaticStatus_warns (serial : String) (r : Replies) (infos : Except Exc Value)
    (p : Polls) :
    Warns camera serial infos p ((getStaticStatus camera serial r infos).left p) := by
  have hclient := keeps_requireClient p r p ⟨rfl, rfl⟩
  unfold getStaticStatus
  rw [EStateM.left_bind]
  cases hrun : (requireClient r).run p with
  | error exc p₁ => exact .silent (EStateM.left_of_error hrun ▸ hclient)
  | ok _ p₁ =>
    rw [EStateM.left_of_ok hrun] at hclient
    dsimp only
    rw [EStateM.left_bind]
    cases hstatus : deviceStatus camera serial infos with
    | error exc => exact .silent hclient
    | ok status =>
      obtain ⟨device, isEncrypt, hinfos, hencrypt, hread⟩ := deviceStatus_encrypted camera hstatus
      rw [run_ofExcept_ok]
      dsimp only
      rw [EStateM.left_bind, hread, warnImageEncryption_run]
      dsimp only
      have hbool : (Value.bool isEncrypt.truthy).truthy = isEncrypt.truthy := rfl
      rw [hbool, hclient.2]
      split
      · rename_i hwarns
        obtain ⟨hwarnings, hwarned⟩ := keeps_ofExcept { p₁ with
          warnedImageEncryption := p.warnedImageEncryption.insert serial true
          warnings := p₁.warnings ++ [serial] } (staticStatus status) _ ⟨rfl, rfl⟩
        refine .warned device isEncrypt hinfos hencrypt hwarns.1 hwarns.2 ?_ hwarned
        exact hwarnings.trans (by rw [hclient.1])
      · exact .silent (keeps_ofExcept p _ p₁ hclient)

def name? : Value → Option String
  | .str s => some s
  | _ => none

def alarmCode? : Value → Option AlarmCode
  | .str s => some (.str s)
  | .number n => if n.den = 1 then some (.int n.num) else none
  | _ => none

def time? (v : Value) : Option Value := if v = .none then none else some v

def snapshot (data : Dict Value) : Snapshot Value where
  alarmName := (data.lookup "alarm_name").bind name?
  alarmTypeCode := (data.lookup "alarm_type_code").bind alarmCode?
  lastAlarmTime := (data.lookup "last_alarm_time").bind time?

/-- What a message tells, in the shape that the helper gives it; there may be none. -/
def told (alarm : Option Entries) : Snapshot Value where
  alarmName := name? (((alarm.getD []).lookup "sampleName").getD (.str "NoAlarm"))
  alarmTypeCode := alarmCode? (((alarm.getD []).lookup "alarmType").getD (.str "0000"))
  lastAlarmTime := time? (((alarm.getD []).lookup "alarmStartTimeStr").getD .none)

def message (serial : String) (messages : Except Exc Value) : Except Exc (Option Entries) := do
  let response ← messages
  let latest ← latestMessage serial response
  normalised camera latest

private theorem statusAlarmDict_read {trigger : Entries} {alarm : Option Entries} {status : Entries}
    (h : camera.statusAlarmDict trigger alarm = .ok status) :
    read status "last_alarm_time" =
        ((alarm.getD []).lookup "alarmStartTimeStr").getD .none ∧
      read status "last_alarm_type_name" =
        ((alarm.getD []).lookup "sampleName").getD (.str "NoAlarm") ∧
      read status "last_alarm_type_code" =
        ((alarm.getD []).lookup "alarmType").getD (.str "0000") := by
  simp only [EzvizCamera.statusAlarmDict, Except.bind_eq_ok] at h
  obtain ⟨_, _, h⟩ := h
  cases h
  exact ⟨rfl, rfl, rfl⟩

theorem alarms_ok {serial : String} {messages : Except Exc Value} {dict : Dict Value}
    (h : alarms camera serial messages = .ok dict) :
    ∃ alarm, message camera serial messages = .ok alarm ∧
      (∀ static, snapshot (dict ∪ static) = told alarm) ∧
      dict.lookup "image_encryption" = none := by
  simp only [alarms, Except.bind_eq_ok] at h
  obtain ⟨response, hresponse, latest, hlatest, trigger, _, alarm, halarm, status, hstatus, h⟩ := h
  obtain ⟨htime, hname, hcode⟩ := statusAlarmDict_read camera hstatus
  refine ⟨alarm, ?_, ?_, ?_⟩
  · simp only [message, Except.bind_eq_ok]
    exact ⟨response, hresponse, latest, hlatest, halarm⟩
  · intro static
    have hpassed {key : String} {v : Value} (hkey : dict.lookup key = some v) :
        (dict ∪ static).lookup key = some v := AList.lookup_union_eq_some.2 (.inl hkey)
    have htime' : dict.lookup "last_alarm_time" = some (read status "last_alarm_time") := by
      cases h
      exact AList.lookup_to_alist _
    have hname' : dict.lookup "alarm_name" = some (read status "last_alarm_type_name") := by
      cases h
      exact AList.lookup_to_alist _
    have hcode' : dict.lookup "alarm_type_code" = some (read status "last_alarm_type_code") := by
      cases h
      exact AList.lookup_to_alist _
    rw [snapshot, hpassed htime', hpassed hname', hpassed hcode', htime, hname, hcode]
    rfl
  · cases h
    rw [AList.lookup_to_alist]
    rfl

theorem getAlarms_ok {serial : String} {r : Replies} {messages : Except Exc Value}
    {dict : Dict Value} {p p' : Polls}
    (h : (getAlarms camera serial r messages).run p = .ok dict p') :
    alarms camera serial messages = .ok dict := by
  obtain ⟨_, _, _, h⟩ := EStateM.run_bind_eq_ok.1 h
  exact (run_ofExcept_eq_ok.1 h).1

/-- The static data is not empty, and it shows the encryption only after it has been warned of. -/
theorem getStaticStatus_ok {serial : String} {r : Replies} {infos : Except Exc Value}
    {static : Dict Value} {p p' : Polls}
    (h : (getStaticStatus camera serial r infos).run p = .ok static p') :
    static.entries ≠ [] ∧ ∃ device isEncrypt, infos = .ok device ∧
      camera.fetchKey device ["STATUS", "isEncrypt"] .none = .ok isEncrypt ∧
      static.lookup "image_encryption" = some (.bool isEncrypt.truthy) ∧
      (isEncrypt.truthy = true → p'.warnedImageEncryption.lookup serial = some true) := by
  obtain ⟨_, p₁, _, hrest⟩ := EStateM.run_bind_eq_ok.1 h
  obtain ⟨status, p₂, hrun, hwarns⟩ := EStateM.run_bind_eq_ok.1 hrest
  obtain ⟨hstatus, _⟩ := run_ofExcept_eq_ok.1 hrun
  obtain ⟨_, p₃, hwarn, hreturn⟩ := EStateM.run_bind_eq_ok.1 hwarns
  obtain ⟨hstatic, hp'⟩ := run_ofExcept_eq_ok.1 hreturn
  obtain ⟨device, isEncrypt, hinfos, hencrypt, hread⟩ := deviceStatus_encrypted camera hstatus
  simp only [staticStatus, Except.bind_eq_ok] at hstatic
  obtain ⟨_, _, _, _, _, _, hstatic⟩ := hstatic
  have hlookup : static.lookup "image_encryption" = some (.bool isEncrypt.truthy) := by
    cases hstatic
    rw [AList.lookup_to_alist, hread]
    rfl
  constructor
  · intro hnil
    have hnone : static.lookup "image_encryption" = none := by
      rw [AList.lookup, hnil]
      rfl
    rw [hlookup] at hnone
    cases hnone
  · refine ⟨device, isEncrypt, hinfos, hencrypt, hlookup, fun htruthy => ?_⟩
    have hbool : (Value.bool isEncrypt.truthy).truthy = isEncrypt.truthy := rfl
    rw [warnImageEncryption_run, hread, hbool, htruthy] at hwarn
    simp only [true_and, EStateM.Result.ok.injEq] at hwarn
    rw [hp', ← hwarn]
    split
    · exact AList.lookup_insert _
    · rename_i hwarned
      exact not_not.1 hwarned

end EzvizHp7.Coordinator
