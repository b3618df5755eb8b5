import EzvizHp7.Config.UserStep
import EzvizHp7.Library.Transition

/-!
# The config flow

The steps behind the first one, and any number of flows in one Home Assistant, each of them at the
form it showed last. A sign-in runs on an executor thread: while it does, other flows go on, the
flow itself may be answered a second time, and it may be removed.
-/

namespace EzvizHp7.Config

open Cloud (Exc Replies Token truthy)
open Transition System

structure EntryData where
  creds : UserInput
  serial : String
  deriving DecidableEq

structure Entry where
  title : String
  uniqueId : String
  data : EntryData
  deriving DecidableEq

inductive FlowResult
  | form (shown : Form)
  | createEntry (entry : Entry)
  | abort (reason : String)
  | raises (text : String)
  deriving DecidableEq

def noCreds : UserInput := ⟨none, none, none, none, none⟩

def ConfigFlow.new : ConfigFlow := ⟨none, none, none⟩

/-- `_finalize_entry`; the entry gets the unique id of the flow. -/
def ConfigFlow.finalizeEntry (flow : ConfigFlow) (uniqueId selectedSerial : String) : FlowResult :=
  .createEntry
    { title := "EZVIZ HP7 / CP7 (" ++ selectedSerial ++ ")"
      uniqueId := uniqueId
      data := ⟨flow.cachedCreds.getD noCreds, selectedSerial⟩ }

/-- `async_set_unique_id`, `_abort_if_unique_id_configured` and the entry. A flow ends with this,
so no flow in progress has a unique id. -/
def ConfigFlow.finish (flow : ConfigFlow) (configured : List String) (uniqueId serial : String) :
    FlowResult :=
  if uniqueId ∈ configured then .abort "already_configured"
  else flow.finalizeEntry uniqueId serial

def asyncStepPickSerial (flow : ConfigFlow) (configured : List String)
    (userInput : Option String) : FlowResult :=
  match flow.deviceOptions with
  | none => .raises "Device list not prepared"
  | some options =>
    match userInput with
    | none => .form (pickSerialForm options)
    | some serial =>
      let uniqueId := flow.serialToUnique.bind fun toUnique => toUnique.lookup serial
      flow.finish configured ((orElse uniqueId (some serial)).getD "") serial

def asyncStepEnterSerial (flow : ConfigFlow) (configured : List String)
    (userInput : Option String) : FlowResult :=
  match userInput with
  | none => .form enterSerialForm
  | some typed =>
    let serial := strip typed
    flow.finish configured serial serial

/-- A flow, the form it showed last, and the sign-ins that are still running for it, each with the
code that was generated for it. -/
structure InProgress where
  flow : ConfigFlow
  curStep : Option Form
  signIns : List (UserInput × String)
  deriving DecidableEq

abbrev FlowId := Nat

/-- No id is given to two flows. -/
structure Manager where
  flows : FlowId → Option InProgress
  next : FlowId
  entries : List Entry

def Manager.configured (m : Manager) : List String := m.entries.map Entry.uniqueId

def regions : List String := ["eu", "us", "cn", "as", "sa", "ru"]

/-- What the first form's schema lets through. -/
def UserInput.Valid (input : UserInput) : Prop :=
  input.username.isSome ∧ input.password.isSome ∧ (∃ region ∈ input.region, region ∈ regions) ∧
    input.featureCode = none ∧ input.token = none

instance (input : UserInput) : Decidable input.Valid := inferInstanceAs (Decidable (_ ∧ _))

def Form.takesSerial (form : Form) (serial : String) : Bool :=
  match form.schema with
  | .user => false
  | .serial => true
  | .pick serials => serial ∈ serials

def Form.answer (form : Form) (flow : ConfigFlow) (configured : List String)
    (serial : Option String) : FlowResult :=
  match form.schema with
  | .user => .form (userForm [])
  | .serial => asyncStepEnterSerial flow configured serial
  | .pick _ => asyncStepPickSerial flow configured serial

inductive FlowAction
  /-- With data, the first step is called with what the schema has not seen. -/
  | start (data : Option UserInput) (tokenHex : String)
  | submit (id : FlowId) (input : UserInput) (tokenHex : String)
  /-- One of the sign-ins comes to its end. -/
  | signedIn (id : FlowId) (which : Nat) (r : Replies) (deviceInfos : Except Exc DeviceInfos)
  | answer (id : FlowId) (serial : String)
  | show (id : FlowId)
  | remove (id : FlowId)
  | removeEntry (uniqueId : String)

def Manager.handle (m : Manager) (id : FlowId) (p : InProgress) : FlowResult → Manager
  | .form shown =>
    { m with flows := Function.update m.flows id (some { p with curStep := some shown }) }
  | .createEntry entry =>
    { m with flows := Function.update m.flows id none, entries := m.entries ++ [entry] }
  | .abort _ => { m with flows := Function.update m.flows id none }
  | .raises _ => m

def InProgress.result? (p : InProgress) (configured : List String) (serial : Option String) :
    Option FlowResult :=
  match p.curStep with
  | none => none
  | some form =>
    if ∀ s ∈ serial, form.takesSerial s = true then some (form.answer p.flow configured serial)
    else none

def Manager.step (a : FlowAction) (m : Manager) : Option Manager :=
  match a with
  | .start data tokenHex =>
    let p : InProgress :=
      match data with
      | none => ⟨.new, some (userForm []), []⟩
      | some input => ⟨.new, none, [(input, tokenHex)]⟩
    some { m with flows := Function.update m.flows m.next (some p), next := m.next + 1 }
  | .submit id input tokenHex =>
    match m.flows id with
    | none => none
    | some p =>
      if input.Valid ∧ p.curStep.map Form.schema = some .user then
        let p' := { p with signIns := p.signIns ++ [(input, tokenHex)] }
        some { m with flows := Function.update m.flows id (some p') }
      else none
  | .signedIn id which r deviceInfos =>
    match m.flows id with
    | none => none
    | some p =>
      match p.signIns[which]? with
      | none => none
      | some (input, tokenHex) =>
        let (shown, flow) := asyncStepUser p.flow (some input) tokenHex r deviceInfos
        some (m.handle id ⟨flow, p.curStep, p.signIns.eraseIdx which⟩ (.form shown))
  | .answer id serial =>
    match m.flows id with
    | none => none
    | some p => (p.result? m.configured (some serial)).map (m.handle id p)
  | .show id =>
    match m.flows id with
    | none => none
    | some p => (p.result? m.configured none).map (m.handle id p)
  | .remove id =>
    (m.flows id).map fun _ => { m with flows := Function.update m.flows id none }
  | .removeEntry uniqueId =>
    some { m with entries := m.entries.filter fun e => e.uniqueId ≠ uniqueId }

/-- A sign-in that listed the devices: the credentials that are kept of it, and what is offered. -/
structure SignedIn where
  input : UserInput
  tokenHex : String
  token : Option Token
  devices : List (String × Info)

def SignedIn.creds (s : SignedIn) : UserInput :=
  { s.input with
    featureCode := some s.tokenHex
    token := if truthy s.token then s.token else s.input.token }

/-- The sign-in of the step, where it comes to the devices. -/
def signedIn? (input : UserInput) (tokenHex : String) (r : Replies)
    (deviceInfos : Except Exc DeviceInfos) : Option SignedIn :=
  match input.arguments with
  | .error _ => none
  | .ok _ =>
    match (signIn r deviceInfos).run newApi with
    | .error _ _ => none
    | .ok (token, devices) _ => some ⟨input, tokenHex, token, devices⟩

inductive Event
  | signedIn (id : FlowId) (s : SignedIn)
  | created (id : FlowId) (given : String) (entry : Entry)

def FlowResult.events (id : FlowId) (given : String) : FlowResult → List Event
  | .createEntry entry => [.created id given entry]
  | _ => []

def Manager.events (m : Manager) : FlowAction → List Event
  | .signedIn id which r deviceInfos =>
    match (m.flows id).bind fun p => p.signIns[which]? with
    | none => []
    | some (input, tokenHex) =>
      (signedIn? input tokenHex r deviceInfos).toList.map (.signedIn id)
  | .answer id serial =>
    match (m.flows id).bind fun p => p.result? m.configured (some serial) with
    | none => []
    | some result => result.events id serial
  | _ => []

/-- A Home Assistant without flows and entries, and what is remembered of a run. -/
def configFlows : Transition.System (Manager × List Event) FlowAction :=
  System.recording
    { init := fun m => (∀ id, m.flows id = none) ∧ m.entries = []
      step := Manager.step }
    [] fun m a _ past => past ++ m.events a

def Event.signIn (id : FlowId) : Event → Option SignedIn
  | .signedIn id' s => if id' = id then some s else none
  | .created .. => none

/-- The last sign-in of a flow that listed the devices. -/
def lastSignIn (id : FlowId) (past : List Event) : Option SignedIn :=
  (past.filterMap (Event.signIn id)).getLast?

def SignedIn.offered (s : SignedIn) : List String := (buildOptions s.devices [] []).1.map Prod.fst

def label (name serial : String) : String := strip name ++ " (" ++ serial ++ ")"

def own (options : List (String × String)) : List (String × String) :=
  options.map fun option => (option.1, option.1)

/-- The devices as `list_devices` reports them, with a name and nothing else. -/
def Named (devices : List (String × Info)) : Prop :=
  ∀ device ∈ devices, ∃ name, device.2 = [("device_name", name)] ∧ name ≠ ""

private theorem orElse_getD_ne (a : Option String) {b : String} (hb : b ≠ "") :
    (orElse a (some b)).getD "" ≠ "" := by
  unfold orElse
  split <;> simp_all

private theorem listed_named {devices : DeviceInfos} {infos : List (String × Info)}
    (h : listed devices = .ok infos) : Named infos := by
  induction devices generalizing infos with
  | nil =>
    cases h
    simp [Named]
  | cons device rest ih =>
    match device with
    | (_, none) => cases h
    | (serial, some data) =>
      cases hrest : listed rest with
      | error exc => simp [listed, hrest, bind, Except.bind] at h
      | ok result =>
        simp only [listed, hrest, bind, Except.bind, pure, Except.pure, Except.ok.injEq] at h
        rw [← h]
        intro device hdevice
        rcases List.mem_cons.1 hdevice with rfl | hdevice
        · exact ⟨_, rfl, orElse_getD_ne _ (by decide)⟩
        · exact ih hrest device hdevice

private theorem looksLikeLongSerial_ne {serial : String} (h : looksLikeLongSerial serial = true) :
    serial ≠ "" := by
  rintro rfl
  exact absurd h (by decide)

/-- A device is offered where its serial looks long and is not there already. -/
theorem buildOptions_cons {serial name : String} (hname : name ≠ "")
    (devices : List (String × Info)) (options : List (String × String)) :
    buildOptions ((serial, [("device_name", name)]) :: devices) options (own options) =
      if looksLikeLongSerial serial = true ∧ serial ∉ options.map Prod.fst then
        buildOptions devices (options ++ [(serial, label name serial)])
          (own (options ++ [(serial, label name serial)]))
      else buildOptions devices options (own options) := by
  have hown : (own options).map Prod.snd = options.map Prod.fst := by
    simp [own]
  have happend : own (options ++ [(serial, label name serial)]) =
      own options ++ [(serial, serial)] := by
    simp [own]
  rw [buildOptions, happend]
  cases hlong : looksLikeLongSerial serial with
  | false => simp [List.lookup, orElse]
  | true =>
    have hne := looksLikeLongSerial_ne hlong
    by_cases hold : serial ∈ options.map Prod.fst
    · simp [hold, hown, List.lookup, orElse]
    · simp [hold, hne, hown, hname, List.lookup, orElse, label]

private theorem buildOptions_own {devices : List (String × Info)} (h : Named devices)
    (options : List (String × String)) :
    (buildOptions devices options (own options)).2 =
      own (buildOptions devices options (own options)).1 := by
  induction devices generalizing options with
  | nil => rfl
  | cons device devices ih =>
    obtain ⟨serial, info⟩ := device
    obtain ⟨name, rfl, hname⟩ := h _ List.mem_cons_self
    have hrest : Named devices := fun device hdevice => h device (List.mem_cons_of_mem _ hdevice)
    rw [buildOptions_cons hname]
    split
    · exact ih hrest _
    · exact ih hrest _

/-- The account's devices whose serial looks long, with the name that the cloud has for them. -/
def longSerials (infos : DeviceInfos) : List (String × String) :=
  infos.filterMap fun device =>
    device.2.bind fun data =>
      if looksLikeLongSerial device.1 then
        some (device.1, label ((orElse (orElse data.name data.deviceName)
          (some "Device")).getD "") device.1)
      else none

def sameSerial (a b : String × String) : Bool := a.1 == b.1

/-- Each serial once, where it comes first. -/
def offers (infos : DeviceInfos) : List (String × String) :=
  (longSerials infos).eraseDupsBy sameSerial

private theorem buildOptions_listed {infos : DeviceInfos} {devices : List (String × Info)}
    (h : listed infos = .ok devices) (options : List (String × String)) :
    (buildOptions devices options (own options)).1 = options ++
      ((longSerials infos).filter fun o => o.1 ∉ options.map Prod.fst).eraseDupsBy sameSerial := by
  induction infos generalizing devices options with
  | nil =>
    cases h
    simp [buildOptions, longSerials]
  | cons device infos ih =>
    match device, h with
    | (serial, none), h => cases h
    | (serial, some data), h =>
      cases hrest : listed infos with
      | error exc => simp [listed, hrest, bind, Except.bind] at h
      | ok result =>
        simp only [listed, hrest, bind, Except.bind, pure, Except.pure, Except.ok.injEq] at h
        rw [← h, buildOptions_cons (orElse_getD_ne _ (by decide))]
        generalize hname :
          (orElse (orElse data.name data.deviceName) (some "Device")).getD "" = name
        cases hlong : looksLikeLongSerial serial with
        | false => simp [ih hrest options, longSerials, hlong]
        | true =>
          have hcons : longSerials ((serial, some data) :: infos) =
              (serial, label name serial) :: longSerials infos := by
            simp [longSerials, hlong, hname]
          rw [hcons]
          by_cases hold : serial ∈ options.map Prod.fst
          · rw [if_neg (by simp [hold]), ih hrest options, List.filter_cons_of_neg (by simp [hold])]
          · rw [if_pos ⟨rfl, hold⟩, ih hrest, List.filter_cons_of_pos (by simpa using hold),
              List.eraseDupsBy_cons, List.append_assoc, List.filter_filter]
            have hfilter : ((longSerials infos).filter fun o =>
                o.1 ∉ (options ++ [(serial, label name serial)]).map Prod.fst) =
                (longSerials infos).filter fun o =>
                  decide (sameSerial o (serial, label name serial) = false) &&
                    decide (o.1 ∉ options.map Prod.fst) := by
              apply List.filter_congr
              intro o _
              rw [Bool.eq_iff_iff]
              simp [sameSerial, or_comm]
            rw [hfilter]
            rfl

private theorem listDevices_devices {r : Replies} {deviceInfos : Except Exc DeviceInfos}
    {devices : List (String × Info)} {w w' : Cloud.Traced}
    (h : (listDevices r deviceInfos).run w = .ok devices w') :
    Named devices ∧ listed (deviceInfos.toOption.getD []) = .ok devices := by
  cases hensure : (Cloud.Hp7Api.ensureClient r).run w with
  | error exc w₁ => simp [listDevices, hensure] at h
  | ok _ w₁ =>
    have hclient := Cloud.Hp7Api.ensureClient_ok hensure
    cases deviceInfos with
    | error exc =>
      by_cases hlogged : exc.isInstance listErrors = true
      · simp [listDevices, hensure, hlogged] at h
        rw [h.1]
        exact ⟨by simp [Named], rfl⟩
      · simp [listDevices, hensure, hclient, hlogged] at h
    | ok infos =>
      cases hlisted : listed infos with
      | error exc => simp [listDevices, hensure, hclient, hlisted] at h
      | ok result =>
        simp [listDevices, hensure, hclient, hlisted] at h
        rw [← h.1]
        exact ⟨listed_named hlisted, hlisted⟩

private theorem signedIn?_devices {input : UserInput} {tokenHex : String} {r : Replies}
    {deviceInfos : Except Exc DeviceInfos} {s : SignedIn}
    (h : signedIn? input tokenHex r deviceInfos = some s) :
    Named s.devices ∧ listed (deviceInfos.toOption.getD []) = .ok s.devices := by
  unfold signedIn? at h
  split at h
  · cases h
  · split at h
    · cases h
    · rename_i hrun
      cases h
      cases hlogin : (Cloud.Hp7Api.login r).run newApi with
      | error exc w => simp [signIn, hlogin] at hrun
      | ok _ w =>
        cases hlist : (listDevices r deviceInfos).run w with
        | error exc w' => simp [signIn, hlogin, hlist] at hrun
        | ok devices w' =>
          simp [signIn, hlogin, hlist] at hrun
          rw [← hrun.1.2]
          exact listDevices_devices hlist

private theorem asyncStepUser_signedIn (flow : ConfigFlow) {input : UserInput} {tokenHex : String}
    {r : Replies} {deviceInfos : Except Exc DeviceInfos} {s : SignedIn}
    (h : signedIn? input tokenHex r deviceInfos = some s) :
    asyncStepUser flow (some input) tokenHex r deviceInfos =
      if (buildOptions s.devices [] []).1 = [] then
        (enterSerialForm, { flow with cachedCreds := some s.creds })
      else
        (pickSerialForm (buildOptions s.devices [] []).1,
          ⟨some s.creds, some (buildOptions s.devices [] []).1,
            some (buildOptions s.devices [] []).2⟩) := by
  unfold signedIn? at h
  split at h
  · cases h
  · rename_i hargs
    split at h
    · cases h
    · rename_i hrun
      cases h
      simp only [asyncStepUser, hargs, hrun]
      rfl

private theorem asyncStepUser_refused (flow : ConfigFlow) {input : UserInput} {tokenHex : String}
    {r : Replies} {deviceInfos : Except Exc DeviceInfos}
    (h : signedIn? input tokenHex r deviceInfos = none) :
    ∃ errors, asyncStepUser flow (some input) tokenHex r deviceInfos =
      (userForm errors, flow) := by
  have hfailed (exc : Exc) : ∃ errors,
      (if exc.isInstance [.valueError] then (userForm [("base", "auth")], flow)
        else (userForm [("base", "cannot_connect")], flow)) = (userForm errors, flow) := by
    split <;> exact ⟨_, rfl⟩
  unfold signedIn? at h
  split at h
  · rename_i exc hargs
    simp only [asyncStepUser, hargs]
    exact hfailed exc
  · rename_i hargs
    split at h
    · rename_i exc _ hrun
      simp only [asyncStepUser, hargs, hrun]
      exact hfailed exc
    · cases h

private theorem finish_eq (flow : ConfigFlow) (configured : List String)
    (uniqueId serial : String) : flow.finish configured uniqueId serial =
      if uniqueId ∈ configured then .abort "already_configured"
      else .createEntry ⟨"EZVIZ HP7 / CP7 (" ++ serial ++ ")", uniqueId,
        flow.cachedCreds.getD noCreds, serial⟩ := rfl

/-- Where every offered serial is its own unique id, so is the one that is picked. -/
theorem asyncStepPickSerial_own {flow : ConfigFlow} {options : List (String × String)}
    (hoptions : flow.deviceOptions = some options)
    (hunique : flow.serialToUnique = some (own options)) (configured : List String)
    (serial : String) :
    asyncStepPickSerial flow configured (some serial) = flow.finish configured serial serial := by
  have hown : (orElse ((own options).lookup serial) (some serial)).getD "" = serial := by
    cases hlookup : (own options).lookup serial with
    | none => rfl
    | some uniqueId =>
      obtain ⟨before, after, hsplit, _⟩ := List.lookup_eq_some_iff.1 hlookup
      have hmem : (serial, uniqueId) ∈ own options := hsplit ▸ by simp
      obtain ⟨option, _, hoption⟩ := List.mem_map.1 hmem
      obtain rfl : serial = uniqueId :=
        (Prod.ext_iff.1 hoption).1.symm.trans (Prod.ext_iff.1 hoption).2
      simp [orElse]
  simp only [asyncStepPickSerial, hoptions, hunique, Option.bind_some, hown]

/-- After a sign-in the step offers the devices in the cloud's list whose serial looks long, in its
order and each under its name, or asks for a serial where there is none, as it does where the list
was not to be had; the one that is picked gets an entry with these credentials under its own serial,
unless there already is one. -/
theorem asyncStepUser_offers {flow flow' : ConfigFlow} {shown : Form} {input : UserInput}
    {tokenHex : String} {r : Replies} {deviceInfos : Except Exc DeviceInfos} {s : SignedIn}
    (hsigned : signedIn? input tokenHex r deviceInfos = some s)
    (hstep : asyncStepUser flow (some input) tokenHex r deviceInfos = (shown, flow')) :
    shown = (if offers (deviceInfos.toOption.getD []) = [] then enterSerialForm
      else pickSerialForm (offers (deviceInfos.toOption.getD []))) ∧
      ∀ serial ∈ (offers (deviceInfos.toOption.getD [])).map Prod.fst, ∀ configured,
        asyncStepPickSerial flow' configured (some serial) =
          if serial ∈ configured then .abort "already_configured"
          else .createEntry ⟨"EZVIZ HP7 / CP7 (" ++ serial ++ ")", serial, s.creds, serial⟩ := by
  obtain ⟨hnamed, hlisted⟩ := signedIn?_devices hsigned
  have hoptions : (buildOptions s.devices [] []).1 = offers (deviceInfos.toOption.getD []) := by
    have hlisted := buildOptions_listed hlisted []
    simpa [own, offers] using hlisted
  have hunique := buildOptions_own hnamed []
  simp only [own, List.map_nil] at hunique
  rw [asyncStepUser_signedIn flow hsigned, hunique, hoptions] at hstep
  by_cases hnone : offers (deviceInfos.toOption.getD []) = []
  · rw [if_pos hnone] at hstep
    cases hstep
    simp [hnone]
  · rw [if_neg hnone] at hstep
    cases hstep
    refine ⟨by rw [if_neg hnone], fun serial _ configured => ?_⟩
    rw [asyncStepPickSerial_own rfl rfl, finish_eq]
    rfl

def account : DeviceInfos :=
  [("BE1234567-CAM", some ⟨some "Door ", none⟩), ("Q1", some ⟨none, some "Chime"⟩)]

def accepted : Replies := Cloud.cloudMeets (.ok ()) (.ok (some (Cloud.issuedToken "s1")))

def accountSignedIn : SignedIn :=
  ⟨filledIn, "c0", some (Cloud.issuedToken "s1"),
    [("BE1234567-CAM", [("device_name", "Door ")]), ("Q1", [("device_name", "Chime")])]⟩

theorem asyncStepUser_offers_account :
    ∃ flow, asyncStepUser .new (some filledIn) "c0" accepted (.ok account) =
        (pickSerialForm [("BE1234567-CAM", "Door (BE1234567-CAM)")], flow) ∧
      asyncStepPickSerial flow ["Q1"] (some "BE1234567-CAM") =
        .createEntry ⟨"EZVIZ HP7 / CP7 (BE1234567-CAM)", "BE1234567-CAM", accountSignedIn.creds,
          "BE1234567-CAM"⟩ := by
  obtain ⟨hshown, hpicked⟩ := asyncStepUser_offers
    (show signedIn? filledIn "c0" accepted (.ok account) = some accountSignedIn from rfl)
    (show asyncStepUser .new (some filledIn) "c0" accepted _ = (_, _) from rfl)
  have hoffers : offers account = [("BE1234567-CAM", "Door (BE1234567-CAM)")] := by decide
  rw [Except.toOption, Option.getD_some, hoffers] at hshown hpicked
  refine ⟨_, Prod.ext hshown rfl, ?_⟩
  rw [hpicked "BE1234567-CAM" (by decide) ["Q1"], if_neg (by decide)]
  rfl

/-- What a flow holds when it asks for a serial is of its last sign-in. -/
def Holds (last : Option SignedIn) (flow : ConfigFlow) : Option Schema → Prop
  | none | some .user => True
  | some .serial => ∃ s, last = some s ∧ flow.cachedCreds = some s.creds ∧ s.offered = []
  | some (.pick serials) => ∃ s, last = some s ∧ flow.cachedCreds = some s.creds ∧
      s.offered = serials ∧ ∃ options, flow.deviceOptions = some options ∧
        flow.serialToUnique = some (own options) ∧ options.map Prod.fst = serials

/-- The serial of an entry is what the form got: one that the sign-in offered, or what was typed
after it had offered none. -/
def SignedIn.Gave (s : SignedIn) (given serial : String) : Prop :=
  s.offered = [] ∧ serial = strip given ∨ given ∈ s.offered ∧ serial = given

structure Entry.Of (s : SignedIn) (given : String) (e : Entry) : Prop where
  title : e.title = "EZVIZ HP7 / CP7 (" ++ e.data.serial ++ ")"
  uniqueId : e.uniqueId = e.data.serial
  complete : ∃ arguments code, e.data.creds.arguments = .ok arguments ∧
    e.data.creds.featureCode = some code
  creds : e.data.creds = s.creds
  serial : s.Gave given e.data.serial

/-- The entry was created by a flow, with the credentials of the last sign-in of this flow and the
serial that this flow was given. -/
def Entry.Sound (past : List Event) (e : Entry) : Prop :=
  ∃ before id given after s, past = before ++ .created id given e :: after ∧
    lastSignIn id before = some s ∧ e.Of s given

def Complete (past : List Event) : Prop :=
  ∀ id s, .signedIn id s ∈ past → ∃ arguments, s.input.arguments = .ok arguments

structure Managed (s : Manager × List Event) : Prop where
  complete : Complete s.2
  fresh : ∀ id p, s.1.flows id = some p → id < s.1.next
  unique : s.1.configured.Nodup
  sound : ∀ e ∈ s.1.entries, e.Sound s.2
  holds : ∀ id p, s.1.flows id = some p →
    Holds (lastSignIn id s.2) p.flow (p.curStep.map Form.schema)

theorem Entry.Sound.mono {past : List Event} {e : Entry} (h : e.Sound past) (more : List Event) :
    e.Sound (past ++ more) := by
  obtain ⟨before, id, given, after, s, rfl, hcreated⟩ := h
  refine ⟨before, id, given, after ++ more, s, ?_, hcreated⟩
  simp only [List.append_assoc, List.cons_append]

private theorem lastSignIn_append (id : FlowId) (past more : List Event) :
    lastSignIn id (past ++ more) = (lastSignIn id more).or (lastSignIn id past) := by
  simp only [lastSignIn, List.filterMap_append, List.getLast?_append]

private theorem lastSignIn_mem {id : FlowId} {past : List Event} {s : SignedIn}
    (h : lastSignIn id past = some s) : .signedIn id s ∈ past := by
  obtain ⟨event, hevent, hs⟩ := List.mem_filterMap.1 (List.mem_of_getLast? h)
  cases event with
  | signedIn id' s' =>
    simp only [Event.signIn, Option.ite_none_right_eq_some, Option.some.injEq] at hs
    obtain ⟨rfl, rfl⟩ := hs
    exact hevent
  | created => cases hs

private theorem signedIn?_complete {past : List Event} (h : Complete past) (id : FlowId)
    (input : UserInput) (tokenHex : String) (r : Replies) (deviceInfos : Except Exc DeviceInfos) :
    Complete (past ++ (signedIn? input tokenHex r deviceInfos).toList.map (.signedIn id)) := by
  intro id' s hs
  rcases List.mem_append.1 hs with hs | hs
  · exact h id' s hs
  · obtain ⟨s', hs', hsame⟩ := List.mem_map.1 hs
    cases hsame
    have hsigned : signedIn? input tokenHex r deviceInfos = some s := by simpa using hs'
    unfold signedIn? at hsigned
    split at hsigned
    · cases hsigned
    · rename_i arguments harguments
      split at hsigned
      · cases hsigned
      · cases hsigned
        exact ⟨arguments, harguments⟩

namespace Managed

variable {m : Manager} {past : List Event}

theorem setFlow (h : Managed (m, past)) {id : FlowId} (hid : id < m.next)
    (p? : Option InProgress)
    (hp : ∀ p ∈ p?, Holds (lastSignIn id past) p.flow (p.curStep.map Form.schema)) :
    Managed ({ m with flows := Function.update m.flows id p? }, past) := by
  refine ⟨h.complete, fun id' p hid' => ?_, h.unique, h.sound, fun id' p hid' => ?_⟩
  · by_cases hsame : id' = id
    · rw [hsame]
      exact hid
    · exact h.fresh id' p (by simpa [Function.update_of_ne hsame] using hid')
  · have hid' : Function.update m.flows id p? id' = some p := hid'
    by_cases hsame : id' = id
    · rw [hsame, Function.update_self] at hid'
      rw [hsame]
      exact hp p hid'
    · rw [Function.update_of_ne hsame] at hid'
      exact h.holds id' p hid'

theorem remember (h : Managed (m, past)) {more : List Event} (hcomplete : Complete (past ++ more))
    (hother : ∀ id p, m.flows id = some p → lastSignIn id more = none) :
    Managed (m, past ++ more) := by
  refine ⟨hcomplete, h.fresh, h.unique, fun e he => (h.sound e he).mono more, fun id p hp => ?_⟩
  simp only [lastSignIn_append, hother id p hp, Option.none_or]
  exact h.holds id p hp

theorem addEntry (h : Managed (m, past)) {e : Entry} (hnew : e.uniqueId ∉ m.configured)
    (hsound : e.Sound past) : Managed ({ m with entries := m.entries ++ [e] }, past) := by
  refine ⟨h.complete, h.fresh, ?_, fun e' he' => ?_, h.holds⟩
  · simp only [Manager.configured, List.map_append, List.map_singleton]
    exact h.unique.append (List.nodup_singleton _) (by simpa using hnew)
  · rcases List.mem_append.1 he' with hold | hsame
    · exact h.sound e' hold
    · rw [List.mem_singleton.1 hsame]
      exact hsound

end Managed

/-- How a flow's form is answered: it is shown again, or the flow ends with an entry that was not
there, or because it was. -/
inductive Answered (configured : List String) (last : Option SignedIn) (p : InProgress)
    (serial : Option String) : FlowResult → Prop
  | shownAgain (form : Form) (hform : p.curStep.map Form.schema = some form.schema) :
      Answered configured last p serial (.form form)
  | creates (e : Entry) (given : String) (s : SignedIn) (hserial : serial = some given)
      (hnew : e.uniqueId ∉ configured) (hlast : last = some s) (hof : e.Of s given) :
      Answered configured last p serial (.createEntry e)
  | aborts (reason : String) : Answered configured last p serial (.abort reason)

private theorem finish_answered {flow : ConfigFlow} {configured : List String} {p : InProgress}
    {given serial : String} {s : SignedIn} {arguments : String × String × String}
    (harguments : s.input.arguments = .ok arguments) (hcreds : flow.cachedCreds = some s.creds)
    (hserial : s.Gave given serial) :
    Answered configured (some s) p (some given) (flow.finish configured serial serial) := by
  rw [finish_eq]
  split
  · exact .aborts _
  · rename_i hnew
    have hkept : flow.cachedCreds.getD noCreds = s.creds := by
      simp [hcreds]
    refine .creates _ given s rfl hnew rfl
      ⟨rfl, rfl, ⟨arguments, s.tokenHex, ?_, ?_⟩, hkept, hserial⟩
    · rw [hkept]
      exact harguments
    · rw [hkept]
      rfl

private theorem result?_answered {last : Option SignedIn} {p : InProgress}
    {configured : List String} {serial : Option String} {result : FlowResult}
    (hcomplete : ∀ s, last = some s → ∃ arguments, s.input.arguments = .ok arguments)
    (hholds : Holds last p.flow (p.curStep.map Form.schema))
    (h : p.result? configured serial = some result) :
    Answered configured last p serial result := by
  unfold InProgress.result? at h
  split at h
  · cases h
  · rename_i form hform
    rw [hform] at hholds
    split at h
    · rename_i htakes
      cases h
      cases hschema : form.schema with
      | user =>
        simp only [Form.answer, hschema]
        exact .shownAgain _ (by simp [hform, hschema, userForm])
      | serial =>
        simp only [Option.map_some, hschema, Holds] at hholds
        obtain ⟨s, rfl, hcreds, hnone⟩ := hholds
        obtain ⟨arguments, harguments⟩ := hcomplete s rfl
        simp only [Form.answer, hschema]
        cases serial with
        | none => exact .shownAgain _ (by simp [hform, hschema, enterSerialForm])
        | some typed => exact finish_answered harguments hcreds (.inl ⟨hnone, rfl⟩)
      | pick serials =>
        simp only [Option.map_some, hschema, Holds] at hholds
        obtain ⟨s, rfl, hcreds, hoffered, options, hoptions, hunique, hkeys⟩ := hholds
        obtain ⟨arguments, harguments⟩ := hcomplete s rfl
        simp only [Form.answer, hschema]
        cases serial with
        | none =>
          simp only [asyncStepPickSerial, hoptions]
          exact .shownAgain _ (by simp [hform, hschema, pickSerialForm, hkeys])
        | some picked =>
          have hpicked : picked ∈ s.offered := by
            have htakes := htakes picked rfl
            simpa [Form.takesSerial, hschema, hoffered] using htakes
          rw [asyncStepPickSerial_own hoptions hunique]
          exact finish_answered harguments hcreds (.inr ⟨hpicked, rfl⟩)
    · cases h

private theorem asyncStepUser_holds {past : List Event} (id : FlowId) (flow : ConfigFlow)
    (input : UserInput) (tokenHex : String) (r : Replies) (deviceInfos : Except Exc DeviceInfos) :
    Holds
      (lastSignIn id
        (past ++ (signedIn? input tokenHex r deviceInfos).toList.map (.signedIn id)))
      (asyncStepUser flow (some input) tokenHex r deviceInfos).2
      (some (asyncStepUser flow (some input) tokenHex r deviceInfos).1.schema) := by
  cases hsigned : signedIn? input tokenHex r deviceInfos with
  | none =>
    obtain ⟨errors, hrefused⟩ := asyncStepUser_refused flow hsigned
    rw [hrefused]
    trivial
  | some s =>
    have hnamed := (signedIn?_devices hsigned).1
    have hunique := buildOptions_own hnamed []
    simp only [own, List.map_nil] at hunique
    have hlast : lastSignIn id (past ++ (some s).toList.map (.signedIn id)) = some s := by
      simp [lastSignIn, Event.signIn]
    rw [hlast, asyncStepUser_signedIn flow hsigned]
    split
    · rename_i hnone
      exact ⟨s, rfl, rfl, by simp [SignedIn.offered, hnone]⟩
    · exact ⟨s, rfl, rfl, rfl, _, rfl, by rw [hunique]; rfl, rfl⟩

theorem Managed.handle {m : Manager} {past : List Event} (h : Managed (m, past)) {id : FlowId}
    {p : InProgress} (hp : m.flows id = some p) {serial : Option String} {result : FlowResult}
    (hanswered : Answered m.configured (lastSignIn id past) p serial result) :
    Managed
      (m.handle id p result, past ++ serial.toList.flatMap (FlowResult.events id · result)) := by
  have hid := h.fresh id p hp
  cases hanswered with
  | shownAgain form hform =>
    have hnone : serial.toList.flatMap (FlowResult.events id · (.form form)) = [] := by
      cases serial <;> rfl
    rw [hnone, List.append_nil]
    refine h.setFlow hid _ fun p' hp' => ?_
    cases hp'
    have hholds := h.holds id p hp
    rw [hform] at hholds
    exact hholds
  | creates e given s hserial hnew hlast hof =>
    subst hserial
    have hcomplete : Complete (past ++ [.created id given e]) := by
      intro id' s' hs'
      exact h.complete id' s' (by simpa using hs')
    have hremembered := h.remember hcomplete fun id' p' _ => rfl
    have hsound : e.Sound (past ++ [.created id given e]) :=
      ⟨past, id, given, [], s, rfl, hlast, hof⟩
    exact (hremembered.addEntry hnew hsound).setFlow hid none (by simp)
  | aborts reason =>
    have hnone : serial.toList.flatMap (FlowResult.events id · (.abort reason)) = [] := by
      cases serial <;> rfl
    rw [hnone, List.append_nil]
    exact h.setFlow hid none (by simp)

theorem Managed.step {s s' : Manager × List Event} {a : FlowAction} (h : Managed s)
    (hrun : configFlows.step a s = some s') : Managed s' := by
  obtain ⟨m, past⟩ := s
  obtain ⟨m', past'⟩ := s'
  obtain ⟨hstep, hpast⟩ := recording_step.1 hrun
  have hstep : m.step a = some m' := hstep
  obtain rfl : past' = past ++ m.events a := hpast
  have hargs (id : FlowId) (s : SignedIn) (hs : lastSignIn id past = some s) :
      ∃ arguments, s.input.arguments = .ok arguments :=
    h.complete id s (lastSignIn_mem hs)
  cases a with
  | start data tokenHex =>
    simp only [Manager.events, List.append_nil]
    cases hstep
    have hgrown : Managed ({ m with next := m.next + 1 }, past) :=
      ⟨h.complete, fun id p hp => Nat.lt_succ_of_lt (h.fresh id p hp), h.unique, h.sound, h.holds⟩
    refine hgrown.setFlow (Nat.lt_succ_self m.next) _ fun p hp => ?_
    cases data <;> cases hp <;> simp [Holds, userForm]
  | submit id input tokenHex =>
    simp only [Manager.events, List.append_nil]
    cases hid : m.flows id with
    | none => simp [Manager.step, hid] at hstep
    | some p =>
      simp only [Manager.step, hid] at hstep
      split at hstep
      · cases hstep
        refine h.setFlow (h.fresh id p hid) _ fun p' hp' => ?_
        cases hp'
        exact h.holds id p hid
      · cases hstep
  | signedIn id which r deviceInfos =>
    cases hid : m.flows id with
    | none => simp [Manager.step, hid] at hstep
    | some p =>
      cases hwhich : p.signIns[which]? with
      | none => simp [Manager.step, hid, hwhich] at hstep
      | some call =>
        obtain ⟨input, tokenHex⟩ := call
        simp only [Manager.step, hid, hwhich, Option.some.injEq] at hstep
        simp only [Manager.events, hid, Option.bind_some, hwhich]
        rw [← hstep]
        have hcomplete := signedIn?_complete h.complete id input tokenHex r deviceInfos
        -- the flow is left out while its sign-in is remembered
        have hremembered := (h.setFlow (h.fresh id p hid) none (by simp)).remember hcomplete
          fun id' p' hp' => by
            have hne : id ≠ id' := by
              rintro rfl
              simp at hp'
            simp [lastSignIn, List.filterMap_map, Function.comp_def, Event.signIn, hne]
        have hset := hremembered.setFlow (h.fresh id p hid)
          (some ⟨(asyncStepUser p.flow (some input) tokenHex r deviceInfos).2,
            some (asyncStepUser p.flow (some input) tokenHex r deviceInfos).1,
            p.signIns.eraseIdx which⟩) fun p' hp' => by
              cases hp'
              exact asyncStepUser_holds id p.flow input tokenHex r deviceInfos
        simpa only [Function.update_idem, Manager.handle] using hset
  | answer id serial =>
    cases hid : m.flows id with
    | none => simp [Manager.step, hid] at hstep
    | some p =>
      simp only [Manager.step, hid, Option.map_eq_some_iff] at hstep
      obtain ⟨result, hresult, rfl⟩ := hstep
      have hhandled := h.handle hid (result?_answered (hargs id) (h.holds id p hid) hresult)
      simp only [Manager.events, hid, Option.bind_some, hresult]
      simpa only [Option.toList_some, List.flatMap_singleton] using hhandled
  | «show» id =>
    simp only [Manager.events]
    cases hid : m.flows id with
    | none => simp [Manager.step, hid] at hstep
    | some p =>
      simp only [Manager.step, hid, Option.map_eq_some_iff] at hstep
      obtain ⟨result, hresult, rfl⟩ := hstep
      exact h.handle hid (result?_answered (hargs id) (h.holds id p hid) hresult)
  | remove id =>
    simp only [Manager.events, List.append_nil]
    simp only [Manager.step, Option.map_eq_some_iff] at hstep
    obtain ⟨p, hid, rfl⟩ := hstep
    exact h.setFlow (h.fresh id p hid) none (by simp)
  | removeEntry uniqueId =>
    simp only [Manager.events, List.append_nil]
    cases hstep
    refine ⟨h.complete, h.fresh, ?_, fun e he => h.sound e (List.mem_filter.1 he).1, h.holds⟩
    exact h.unique.sublist (List.filter_sublist.map _)

theorem Managed.of_reachable {s : Manager × List Event} (h : configFlows.Reachable s) :
    Managed s := by
  refine h.invariant ?_ fun s a s' _ hs _ hstep => hs.step hstep
  intro s ⟨⟨hflows, hentries⟩, hpast⟩
  constructor
  · simp [Complete, hpast]
  · simp [hflows]
  · simp [Manager.configured, hentries]
  · simp [hentries]
  · simp [hflows]

/-- However many flows run next to each other and in whichever order their sign-ins end, no two
entries have the same unique id, every entry has all that its setup reads, from the last sign-in of
the flow that created it and with the serial that this flow was given, and no answer that a form
takes raises. -/
theorem configFlows_sound {s : Manager × List Event} (h : configFlows.Reachable s) :
    s.1.configured.Nodup ∧ (∀ e ∈ s.1.entries, e.Sound s.2) ∧
      ∀ id p serial result, s.1.flows id = some p →
        p.result? s.1.configured serial = some result → ∀ text, result ≠ .raises text := by
  have hmanaged := Managed.of_reachable h
  refine ⟨hmanaged.unique, hmanaged.sound, fun id p serial result hp hresult text => ?_⟩
  have hargs (s' : SignedIn) (hs' : lastSignIn id s.2 = some s') :=
    hmanaged.complete id s' (lastSignIn_mem hs')
  cases result?_answered hargs (hmanaged.holds id p hp) hresult <;> simp

/-- Two flows are open, and the first is answered while the second still signs in. -/
theorem configFlows_sound_twoFlows :
    ∃ s, configFlows.Reachable s ∧ s.1.configured = ["BE1234567-CAM"] ∧ s.1.configured.Nodup ∧
      ∀ e ∈ s.1.entries, e.Sound s.2 := by
  obtain ⟨s, hs, hconfigured⟩ :
      ∃ s, configFlows.Reachable s ∧ s.1.configured = ["BE1234567-CAM"] :=
    ReachableUnder.of_replay
      [.start none "", .start none "", .submit 0 filledIn "c0", .submit 1 filledIn "c1",
        .signedIn 0 0 accepted (.ok account), .answer 0 "BE1234567-CAM",
        .signedIn 1 0 accepted (.ok account), .answer 1 "BE1234567-CAM"]
      (s := (⟨fun _ => none, 0, []⟩, [])) ⟨⟨fun _ => rfl, rfl⟩, rfl⟩ (by decide)
  obtain ⟨hunique, hsound, _⟩ := configFlows_sound hs
  exact ⟨s, hs, hconfigured, hunique, hsound⟩

end EzvizHp7.Config
