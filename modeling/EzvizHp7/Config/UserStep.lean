import EzvizHp7.Cloud.Authentication

/-!
# The first step of the config flow

`async_step_user` with the real `Hp7Api` behind it. The step tells rejected credentials from other
failures by the class of the exception that reaches it, through three functions that each wrap
exceptions. Log lines are left out.
-/

namespace EzvizHp7.Config

open Cloud (Exc ExcClass Method Replies Token Traced truthy)
open Cloud.Hp7Api (clientErrors clientFailed ensureClient ensureClient_run login loginFailed)

/-- The dictionary that the form hands over; `data` given to the flow is not validated. -/
structure UserInput where
  username : Option String
  password : Option String
  region : Option String
  featureCode : Option String
  token : Option Token
  deriving DecidableEq

inductive Schema
  | user
  | serial
  | pick (serials : List String)
  deriving DecidableEq

/-- `async_show_form`. -/
structure Form where
  stepId : String
  schema : Schema
  errors : List (String × String)
  placeholders : List (String × String)
  deriving DecidableEq

structure ConfigFlow where
  cachedCreds : Option UserInput
  deviceOptions : Option (List (String × String))
  serialToUnique : Option (List (String × String))
  deriving DecidableEq

/-- What the step reads of a device in the cloud's list; `None` in place of one has no `get`. -/
structure DeviceInfo where
  name : Option String
  deviceName : Option String

abbrev DeviceInfos := List (String × Option DeviceInfo)

/-- `a or b` of strings. -/
def orElse (a b : Option String) : Option String := if a.getD "" = "" then b else a

/-- The whitespace that `str.strip` removes. -/
def isSpace (c : Char) : Bool :=
  let n := c.toNat
  (0x09 ≤ n && n ≤ 0x0d) || (0x1c ≤ n && n ≤ 0x20) || n = 0x85 || n = 0xa0 || n = 0x1680 ||
    (0x2000 ≤ n && n ≤ 0x200a) || n = 0x2028 || n = 0x2029 || n = 0x202f || n = 0x205f ||
    n = 0x3000

def strip (s : String) : String :=
  String.ofList ((s.toList.dropWhile isSpace).reverse.dropWhile isSpace).reverse

def looksLikeLongSerial (serial : String) : Bool :=
  '-' ∈ serial.toList || 12 ≤ serial.length

def listErrors : List ExcClass :=
  [.pyEzvizError, .httpError, .invalidHost, .invalidUrl, .keyError, .attributeError, .valueError,
    .osError]

abbrev Info := List (String × String)

def listed : DeviceInfos → Except Exc (List (String × Info))
  | [] => .ok []
  | (_, none) :: _ => .error ⟨[.attributeError], "'NoneType' object has no attribute 'get'"⟩
  | (serial, some data) :: rest => do
    let name := (orElse (orElse data.name data.deviceName) (some "Device")).getD ""
    return (serial, [("device_name", name)]) :: (← listed rest)

def listDevices (r : Replies) (deviceInfos : Except Exc DeviceInfos) :
    Method (List (String × Info)) := do
  ensureClient r
  if !(← get).api.client then return []
  match deviceInfos with
  | .error exc => if exc.isInstance listErrors then return [] else throw exc
  | .ok devices =>
    match listed devices with
    | .ok result => return result
    | .error exc => throw exc

def buildOptions : List (String × Info) → List (String × String) → List (String × String) →
    List (String × String) × List (String × String)
  | [], options, serialToUnique => (options, serialToUnique)
  | (serialKey, info) :: devices, options, serialToUnique =>
    let name := strip ((orElse (orElse (info.lookup "name") (info.lookup "device_name"))
      (some "Device")).getD "")
    let apiUnique := orElse (orElse (orElse (info.lookup "device_id") (info.lookup "uuid"))
      (info.lookup "serial_long")) (info.lookup "full_serial")
    let shownSerial := (if looksLikeLongSerial serialKey then some serialKey
      else orElse (info.lookup "serial_long") (info.lookup "full_serial")).getD ""
    let uniqueId := (orElse apiUnique (some shownSerial)).getD ""
    if shownSerial = "" ∨ shownSerial ∈ options.map Prod.fst ∨
        uniqueId ∈ serialToUnique.map Prod.snd then
      buildOptions devices options serialToUnique
    else
      buildOptions devices (options ++ [(shownSerial, name ++ " (" ++ shownSerial ++ ")")])
        (serialToUnique ++ [(shownSerial, uniqueId)])

def userForm (errors : List (String × String)) : Form := ⟨"user", .user, errors, []⟩

def pickSerialForm (options : List (String × String)) : Form :=
  ⟨"pick_serial", .pick (options.map Prod.fst), [],
    [("devices", String.intercalate ", " (options.map Prod.snd))]⟩

def enterSerialForm : Form := ⟨"enter_serial", .serial, [], []⟩

/-- The arguments of `Hp7Api(…)`, looked up in the dictionary. -/
def UserInput.arguments (input : UserInput) : Except Exc (String × String × String) :=
  match input.username, input.password, input.region with
  | some username, some password, some region => .ok (username, password, region)
  | none, _, _ => .error ⟨[.keyError], "'username'"⟩
  | _, none, _ => .error ⟨[.keyError], "'password'"⟩
  | _, _, none => .error ⟨[.keyError], "'region'"⟩

/-- Logging in and listing the devices with a new `Hp7Api`. -/
def signIn (r : Replies) (deviceInfos : Except Exc DeviceInfos) :
    Method (Option Token × List (String × Info)) := do
  login r
  let token := (← get).api.token
  let devices ← listDevices r deviceInfos
  return (token, devices)

def newApi : Traced := ⟨.new none none, []⟩

/-- The step, with the code it generates and what the cloud does. -/
def asyncStepUser (flow : ConfigFlow) (userInput : Option UserInput) (tokenHex : String)
    (r : Replies) (deviceInfos : Except Exc DeviceInfos) : Form × ConfigFlow :=
  match userInput with
  | none => (userForm [], flow)
  | some input =>
    let failed (exc : Exc) : Form × ConfigFlow :=
      if exc.isInstance [.valueError] then (userForm [("base", "auth")], flow)
      else (userForm [("base", "cannot_connect")], flow)
    match input.arguments with
    | .error exc => failed exc
    | .ok _ =>
      match (signIn r deviceInfos).run newApi with
      | .error exc _ => failed exc
      | .ok (token, devices) _ =>
        let (options, serialToUnique) := buildOptions devices [] []
        let creds := { input with
          featureCode := some tokenHex
          token := if truthy token then token else input.token }
        if options = [] then (enterSerialForm, { flow with cachedCreds := some creds })
        else
          (pickSerialForm options, ⟨some creds, some options, some serialToUnique⟩)

def LogsIn (userInput : Option UserInput) (r : Replies) : Prop :=
  (∃ input ∈ userInput, ∃ args, input.arguments = .ok args) ∧ r.newClient = .ok ()

def Rejects (r : Replies) : Prop :=
  ∃ exc, r.firstLogin = .error exc ∧ exc.isInstance [.valueError, .keyError] = true

def FailsOtherwise (userInput : Option UserInput) (r : Replies) : Prop :=
  (∃ input ∈ userInput, (∃ exc, input.arguments = .error exc) ∨ ∃ exc, r.newClient = .error exc) ∨
    LogsIn userInput r ∧
      ∃ exc, r.firstLogin = .error exc ∧ exc.isInstance [.valueError, .keyError] = false

/-- Rejected credentials are reported as such, other failures as failures to connect, and neither
changes the flow. -/
structure Reported (flow : ConfigFlow) (userInput : Option UserInput) (tokenHex : String)
    (r : Replies) (deviceInfos : Except Exc DeviceInfos) : Prop where
  rejected : LogsIn userInput r → Rejects r →
    asyncStepUser flow userInput tokenHex r deviceInfos = (userForm [("base", "auth")], flow)
  failed : FailsOtherwise userInput r →
    asyncStepUser flow userInput tokenHex r deviceInfos =
      (userForm [("base", "cannot_connect")], flow)

private theorem clientFailed_not_valueError (exc : Exc) :
    (clientFailed exc).isInstance [.valueError] = false := by
  unfold clientFailed
  split
  · simp [Exc.isInstance]
  · rename_i huncaught
    simp only [Exc.isInstance, clientErrors, List.any_cons, List.any_nil] at huncaught ⊢
    grind

private theorem ensureClient_not_valueError {r : Replies} {w w' : Traced} {exc : Exc}
    (h : (ensureClient r).run w = .error exc w') : exc.isInstance [.valueError] = false := by
  rw [ensureClient_run] at h
  split at h
  · cases h
  · cases hnew : r.newClient with
    | error exc₁ =>
      simp only [hnew] at h
      cases h
      exact clientFailed_not_valueError exc₁
    | ok =>
      simp only [hnew] at h
      split at h
      · cases h
      · cases hlogin : r.firstLogin with
        | ok token =>
          simp only [hlogin] at h
          cases h
        | error exc₁ =>
          simp only [hlogin] at h
          cases h
          exact clientFailed_not_valueError _

private theorem listed_not_valueError {devices : DeviceInfos} {exc : Exc}
    (h : listed devices = .error exc) : exc.isInstance [.valueError] = false := by
  induction devices with
  | nil => cases h
  | cons device rest ih =>
    match device with
    | (_, none) =>
      cases h
      rfl
    | (serial, some data) =>
      cases hrest : listed rest with
      | error exc' =>
        simp only [listed, hrest, bind, Except.bind] at h
        cases h
        exact ih hrest
      | ok result =>
        simp only [listed, hrest, bind, Except.bind] at h
        cases h

private theorem listDevices_not_valueError {r : Replies} {deviceInfos : Except Exc DeviceInfos}
    {w w' : Traced} {exc : Exc} (h : (listDevices r deviceInfos).run w = .error exc w') :
    exc.isInstance [.valueError] = false := by
  cases hensure : (ensureClient r).run w with
  | error exc₁ w₁ =>
    simp [listDevices, hensure] at h
    rw [← h.1]
    exact ensureClient_not_valueError hensure
  | ok _ w₁ =>
    cases hclient : w₁.api.client with
    | false => simp [listDevices, hensure, hclient] at h
    | true =>
      cases deviceInfos with
      | error exc₁ =>
        by_cases hlogged : exc₁.isInstance listErrors = true
        · simp [listDevices, hensure, hlogged] at h
        · simp [listDevices, hensure, hclient, hlogged] at h
          rw [← h.1]
          simp only [Exc.isInstance, listErrors, List.any_cons, List.any_nil] at hlogged ⊢
          grind
      | ok devices =>
        cases hlisted : listed devices with
        | error exc₁ =>
          simp [listDevices, hensure, hclient, hlisted] at h
          rw [← h.1]
          exact listed_not_valueError hlisted
        | ok result => simp [listDevices, hensure, hclient, hlisted] at h

private theorem signIn_not_valueError {r : Replies} {deviceInfos : Except Exc DeviceInfos}
    {w w' : Traced} {exc : Exc} (h : (signIn r deviceInfos).run w = .error exc w') :
    exc.isInstance [.valueError] = false := by
  cases hlogin : (login r).run w with
  | error exc₁ w₁ =>
    simp [signIn, hlogin] at h
    rw [← h.1]
    exact ensureClient_not_valueError hlogin
  | ok _ w₁ =>
    cases hdevices : (listDevices r deviceInfos).run w₁ with
    | error exc₁ w₂ =>
      simp [signIn, hlogin, hdevices] at h
      rw [← h.1]
      exact listDevices_not_valueError hdevices
    | ok devices w₂ => simp [signIn, hlogin, hdevices] at h

private theorem login_raises {r : Replies} (h : (∃ exc, r.newClient = .error exc) ∨
      r.newClient = .ok () ∧ ∃ exc, r.firstLogin = .error exc) :
    ∃ exc w, (login r).run newApi = .error exc w := by
  have hrun : (login r).run newApi = _ := ensureClient_run r newApi
  rw [hrun]
  rcases h with ⟨exc, hnew⟩ | ⟨hnew, exc, hlogin⟩
  · simp only [hnew]
    exact ⟨_, _, rfl⟩
  · simp only [hnew, hlogin]
    exact ⟨_, _, rfl⟩

private theorem arguments_raises {input : UserInput} {exc : Exc}
    (h : input.arguments = .error exc) : exc.isInstance [.valueError] = false := by
  unfold UserInput.arguments at h
  split at h
  · cases h
  · cases h; rfl
  · cases h; rfl
  · cases h; rfl

private theorem signIn_raises {r : Replies} (deviceInfos : Except Exc DeviceInfos) {exc : Exc}
    {w : Traced} (h : (login r).run newApi = .error exc w) :
    (signIn r deviceInfos).run newApi = .error exc w := by
  simp [signIn, h]

private theorem asyncStepUser_fails (flow : ConfigFlow) {userInput : Option UserInput}
    (tokenHex : String) {r : Replies} (deviceInfos : Except Exc DeviceInfos)
    (h : FailsOtherwise userInput r ∨ LogsIn userInput r ∧ Rejects r) :
    asyncStepUser flow userInput tokenHex r deviceInfos =
      (userForm [("base", "cannot_connect")], flow) := by
  cases userInput with
  | none =>
    simp [FailsOtherwise, LogsIn] at h
  | some input =>
    cases hargs : input.arguments with
    | error exc => simp [asyncStepUser, hargs, arguments_raises hargs]
    | ok args =>
      have hlogin : (∃ exc, r.newClient = .error exc) ∨
          r.newClient = .ok () ∧ ∃ exc, r.firstLogin = .error exc := by
        rcases h with (⟨_, ⟨⟩, hraises | hraises⟩ | ⟨⟨_, hnew⟩, exc, hlogin, _⟩) |
          ⟨⟨_, hnew⟩, exc, hlogin, _⟩
        · obtain ⟨exc, hraises⟩ := hraises
          cases hargs.symm.trans hraises
        · exact .inl hraises
        · exact .inr ⟨hnew, exc, hlogin⟩
        · exact .inr ⟨hnew, exc, hlogin⟩
      obtain ⟨exc, w, hrun⟩ := login_raises hlogin
      have hraises := signIn_raises deviceInfos hrun
      simp [asyncStepUser, hargs, hraises, signIn_not_valueError hraises]

/-- No input and no behaviour of the cloud makes the form say that the credentials are wrong. -/
theorem asyncStepUser_ne_auth (flow : ConfigFlow) (userInput : Option UserInput)
    (tokenHex : String) (r : Replies) (deviceInfos : Except Exc DeviceInfos) :
    (asyncStepUser flow userInput tokenHex r deviceInfos).1.errors ≠ [("base", "auth")] := by
  cases userInput with
  | none => simp [asyncStepUser, userForm]
  | some input =>
    cases hargs : input.arguments with
    | error exc => simp [asyncStepUser, hargs, arguments_raises hargs, userForm]
    | ok args =>
      cases hrun : (signIn r deviceInfos).run newApi with
      | error exc w => simp [asyncStepUser, hargs, hrun, signIn_not_valueError hrun, userForm]
      | ok result w =>
        by_cases hoptions : (buildOptions result.2 [] []).1 = []
        · simp [asyncStepUser, hargs, hrun, hoptions, enterSerialForm]
        · simp [asyncStepUser, hargs, hrun, hoptions, pickSerialForm]

/-- Failures are reported as they should be exactly where the cloud does not reject the
credentials. -/
theorem reported_iff (flow : ConfigFlow) (userInput : Option UserInput) (tokenHex : String)
    (r : Replies) (deviceInfos : Except Exc DeviceInfos) :
    Reported flow userInput tokenHex r deviceInfos ↔ ¬(LogsIn userInput r ∧ Rejects r) := by
  constructor
  · rintro h ⟨hlogs, hrejects⟩
    have hshown := h.rejected hlogs hrejects
    apply asyncStepUser_ne_auth flow userInput tokenHex r deviceInfos
    rw [hshown]
    rfl
  · intro h
    constructor
    · exact fun hlogs hrejects => absurd ⟨hlogs, hrejects⟩ h
    · exact fun hfails => asyncStepUser_fails flow tokenHex deviceInfos (.inl hfails)

def wrongPassword : Replies :=
  Cloud.cloudMeets (.ok ()) (.error ⟨[.valueError], "bad password"⟩)

def filledIn : UserInput := ⟨some "u@x", some "p", some "eu", none, none⟩

theorem not_reported :
    ¬ ∀ flow userInput tokenHex r deviceInfos,
      Reported flow userInput tokenHex r deviceInfos := by
  intro hreported
  have hshown := (hreported ⟨none, none, none⟩ (some filledIn) "00" wrongPassword (.ok [])).rejected
    ⟨⟨filledIn, rfl, _, rfl⟩, rfl⟩ ⟨_, rfl, rfl⟩
  exact absurd hshown (by decide)

end EzvizHp7.Config
