import EzvizHp7.Setup.DeviceInfos
import EzvizHp7.Config.Flow
import EzvizHp7.Events.AlarmPulse

/-!
# Setting up and unloading an entry

`async_setup_entry` and `async_unload_entry`, with what they register, and the two places that
change the live-view mode. What a setup creates is named by the number of the attempt. Log lines
and the statistics are left out.
-/

namespace EzvizHp7.Setup

open Cloud (Exc Method Replies Token Traced)
open Config (EntryData)
open Events (Snapshot)
open Relay (Prewarm)

def liveViewMjpeg : String := "mjpeg"
def liveViewHls : String := "hls"
def defaultLiveViewMode : String := liveViewMjpeg

def liveViewOptions : List String := [liveViewMjpeg, liveViewHls]

/-- `options.get(CONF_LIVE_VIEW_MODE, DEFAULT_LIVE_VIEW_MODE)`, the only option there is. -/
def currentOption (options : Option String) : String := options.getD defaultLiveViewMode

/-- `async_select_option`, with the options to update the entry with. -/
def asyncSelectOption (option : String) (options : Option String) :
    Except String (Option String) :=
  if option ∉ liveViewOptions then
    .error ("unknown live-view mode: " ++ Cloud.reprStr option)
  else if option = currentOption options then .ok none
  else .ok (some option)

/-- What the outside world does during one setup. -/
structure SetupReplies (T : Type) where
  tokenHex : String
  cloud : Replies
  getDeviceInfos : String → Except Exc Value
  firstRefresh : Except Exc (Snapshot T)
  relayStart : Except Exc Unit

/-- `hass.data[DOMAIN][entry_id]`, with the arguments that the client got and the data that its
coordinator has. -/
structure Record (T : Type) where
  attempt : Nat
  featureCode : Option String
  token : Option Token
  model : String
  serial : String
  data : Snapshot T
  related : String
  relay : Bool
  liveViewMode : String

inductive SetupEnd (T : Type)
  | raises (exc : Exc)
  | notReady (message : String)
  | stored (record : Record T)

/-- How far a setup came before the platforms: the entry's data, the arguments of its `Hp7Api`,
and whether the `EzvizClient` exists. -/
structure SetupOutcome (T : Type) where
  data : EntryData
  api : Option (Option String × Option Token)
  client : Bool
  result : SetupEnd T

/-- An entry without a feature code gets one and loses its token. -/
def withFeatureCode (tokenHex : String) (data : EntryData) : EntryData :=
  if data.creds.featureCode.getD "" = "" then
    { data with creds := { data.creds with featureCode := some tokenHex, token := none } }
  else data

def zeroStats : Cloud.ActivityStats := ⟨0, 0, 0, 0, 0, 0, 0⟩

def newApi (token : Option Token) : Traced := ⟨.new token (some zeroStats), []⟩

variable {T : Type}

/-- `api.login` and `api.detect_capabilities`. -/
def connect (serial : String) (s : SetupReplies T) : Method String := do
  Cloud.Hp7Api.login s.cloud
  detectCapabilities serial s.cloud s.getDeviceInfos "HP7"

/-- The related device, with the main serial in place of any failure, and the client after it. -/
def resolveRelated (serial : String) (s : SetupReplies T) (w : Traced) : String × Traced :=
  match (getRelatedDevice serial s.cloud s.getDeviceInfos).run w with
  | .ok related w => (related, w)
  | .error _ w => (serial, w)

def asyncSetupEntry (attempt : Nat) (data : EntryData) (options : Option String)
    (s : SetupReplies T) : SetupOutcome T :=
  match data.creds.arguments with
  | .error exc => ⟨data, none, false, .raises exc⟩
  | .ok _ =>
    let data := withFeatureCode s.tokenHex data
    let api := (data.creds.featureCode, data.creds.token)
    match (connect data.serial s).run (newApi data.creds.token) with
    | .error exc w =>
      ⟨data, some api, w.api.client, .notReady ("Cannot connect to EZVIZ HP7: " ++ exc.text)⟩
    | .ok model w =>
      match s.firstRefresh with
      | .error exc =>
        ⟨data, some api, w.api.client,
          .notReady ("Failed to fetch EZVIZ HP7 data: " ++ exc.text)⟩
      | .ok snapshot =>
        let (related, w) := resolveRelated data.serial s w
        { data := data
          api := some api
          client := w.api.client
          result := .stored
            { attempt := attempt
              featureCode := api.1
              token := api.2
              model := model
              serial := data.serial
              data := snapshot
              related := related
              relay := s.relayStart.isOk
              liveViewMode := currentOption options } }

/-- What is torn down when the entry is unloaded. A pre-warm listener has the alarm time it acted
on last. -/
inductive Subscription (T : Type)
  | updateListener (attempt : Nat)
  | aesRefresh (attempt : Nat)
  | prewarm (attempt : Nat) (alarmTime : Option T)
  | statsSummary (attempt : Nat)

/-- What the setup of a record registers, where its pre-warm listener knows the alarm time. -/
def Record.installed (r : Record T) (alarmTime : Option T) : List (Subscription T) :=
  [.updateListener r.attempt, .aesRefresh r.attempt] ++
    (if r.relay then [.prewarm r.attempt alarmTime] else []) ++ [.statsSummary r.attempt]

/-- What an update of the coordinator does to a subscription, with the pre-warm it asks for. -/
def Subscription.onUpdate [DecidableEq T] (data : Snapshot T) :
    Subscription T → Subscription T × Option (Nat × T × Prewarm)
  | .prewarm attempt alarmTime =>
    let (call, alarmTime) := Events.onUpdate data alarmTime
    (.prewarm attempt alarmTime, call.map fun c => (attempt, c.1, c.2))
  | subscription => (subscription, none)

theorem withFeatureCode_featureCode (tokenHex : String) (h : tokenHex ≠ "") (data : EntryData) :
    ∃ code, (withFeatureCode tokenHex data).creds.featureCode = some code ∧ code ≠ "" := by
  unfold withFeatureCode
  split
  · exact ⟨tokenHex, rfl, h⟩
  · rename_i hcode
    cases hfeature : data.creds.featureCode with
    | none => simp [hfeature] at hcode
    | some code => exact ⟨code, rfl, by simpa [hfeature] using hcode⟩

private theorem connect_client {serial model : String} {s : SetupReplies T} {token : Option Token}
    {w : Traced} (h : (connect serial s).run (newApi token) = .ok model w) :
    w.api.client = true := by
  cases hlogin : (Cloud.Hp7Api.login s.cloud).run (newApi token) with
  | error exc w₁ => simp [connect, hlogin] at h
  | ok _ w₁ =>
    simp only [connect, EStateM.run_bind, hlogin] at h
    cases hensure : (Cloud.Hp7Api.ensureClient s.cloud).run w₁ with
    | error exc w₂ => simp [detectCapabilities, hensure] at h
    | ok _ w₂ =>
      have hclient := Cloud.Hp7Api.ensureClient_ok hensure
      cases hdetects : (s.getDeviceInfos (Cloud.bareSerial serial)).bind detectsCp7 with
      | ok cp7 =>
        simp [detectCapabilities, hensure, hclient, hdetects] at h
        rw [← h.2, hclient]
      | error exc =>
        by_cases hcaught : exc.isInstance [.keyError, .attributeError, .valueError] = true
        · simp [detectCapabilities, hensure, hdetects, hcaught] at h
          rw [← h.2, hclient]
        · simp [detectCapabilities, hensure, hclient, hdetects, hcaught] at h

private theorem ensureClient_of_client {r : Replies} {w : Traced} (h : w.api.client = true) :
    (Cloud.Hp7Api.ensureClient r).run w = .ok () w := by
  rw [Cloud.Hp7Api.ensureClient_run, if_pos h]

private theorem resolveRelated_client (serial : String) (s : SetupReplies T) {w : Traced}
    (h : w.api.client = true) : (resolveRelated serial s w).2 = w := by
  have hensure := ensureClient_of_client (r := s.cloud) h
  unfold resolveRelated
  by_cases hhyphen : '-' ∈ serial.toList
  · simp [getRelatedDevice, hhyphen]
  · cases hdev : s.getDeviceInfos serial with
    | error exc =>
      by_cases hcaught : exc.isInstance relatedErrors = true
      · simp [getRelatedDevice, hhyphen, hensure, hdev, hcaught]
      · simp [getRelatedDevice, hhyphen, hensure, h, hdev, hcaught]
    | ok dev =>
      cases hfound : candidates serial dev with
      | error exc => simp [getRelatedDevice, hhyphen, hensure, h, hdev, hfound]
      | ok found => simp [getRelatedDevice, hhyphen, hensure, h, hdev, hfound]

/-- Everything a setup can do before the platforms. -/
inductive SetUp (attempt : Nat) (data : EntryData) (options : Option String)
    (s : SetupReplies T) : SetupOutcome T → Prop
  | raises (exc : Exc) (harguments : data.creds.arguments = .error exc) :
      SetUp attempt data options s ⟨data, none, false, .raises exc⟩
  | notReady (client : Bool) (message : String) {data' : EntryData}
      (hdata : data' = withFeatureCode s.tokenHex data) :
      SetUp attempt data options s
        ⟨data', some (data'.creds.featureCode, data'.creds.token), client, .notReady message⟩
  | stores (r : Record T) {data' : EntryData} (hdata : data' = withFeatureCode s.tokenHex data)
      (hattempt : r.attempt = attempt) (hmode : r.liveViewMode = currentOption options)
      (hcode : r.featureCode = data'.creds.featureCode) (hfirst : s.firstRefresh = .ok r.data) :
      SetUp attempt data options s
        ⟨data', some (data'.creds.featureCode, data'.creds.token), true, .stored r⟩

theorem asyncSetupEntry_setUp (attempt : Nat) (data : EntryData) (options : Option String)
    (s : SetupReplies T) :
    SetUp attempt data options s (asyncSetupEntry attempt data options s) := by
  unfold asyncSetupEntry
  cases harguments : data.creds.arguments with
  | error exc => exact .raises exc harguments
  | ok arguments =>
    dsimp only
    generalize hdata : withFeatureCode s.tokenHex data = data'
    cases hrun : (connect data'.serial s).run (newApi data'.creds.token) with
    | error exc w => exact .notReady _ _ hdata.symm
    | ok model w =>
      cases hfirst : s.firstRefresh with
      | error exc => exact .notReady _ _ hdata.symm
      | ok snapshot =>
        have hclient := connect_client hrun
        have hsame := resolveRelated_client data'.serial s hclient
        dsimp only
        rw [hsame, hclient]
        refine .stores _ hdata.symm ?_ ?_ ?_ ?_
        · rfl
        · rfl
        · rfl
        · exact hfirst

end EzvizHp7.Setup
