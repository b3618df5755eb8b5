import EzvizHp7.Coordinator.Feed

/-!
# Image encryption is surfaced

The dashboard and the log both tell the user that the device encrypts its images. The sensor shows
what the last static poll found, and no sensor shows it that the log has not warned of.
-/

namespace EzvizHp7.Coordinator

open Cloud (Exc Replies)
open Events (AlarmKind)
open Setup (Value)

variable (camera : EzvizCamera)

/-- `_to_bool`; nothing outside ASCII becomes a letter of these words in lower case. -/
def toBool : Value → Bool
  | .none => false
  | .bool b => b
  | .number n => n ≠ 0
  | .str s => ["1", "true", "on", "yes", "y"].contains (Config.strip s).toLower
  | .list _ | .dict _ => false

/-- `is_on` of `Hp7BinarySimple` -/
def simpleIsOn (key : String) (data : Dict Value) : Bool := toBool ((data.lookup key).getD .none)

def encrypts (infos : Except Exc Value) : Bool :=
  match infos with
  | .error _ => false
  | .ok device =>
    match camera.fetchKey device ["STATUS", "isEncrypt"] .none with
    | .error _ => false
    | .ok isEncrypt => isEncrypt.truthy

private theorem encrypts_ok {infos : Except Exc Value} {device isEncrypt : Value}
    (hinfos : infos = .ok device)
    (hencrypt : camera.fetchKey device ["STATUS", "isEncrypt"] .none = .ok isEncrypt) :
    encrypts camera infos = isEncrypt.truthy := by
  rw [hinfos, encrypts, hencrypt]

def finds (e : FeedEvent × Output) : Option Bool :=
  match e with
  | (.refresh t, .refreshed tick update) =>
    (staticSuccess (tick, update)).map fun _ => encrypts camera t.infos
  | _ => none

variable {camera}

private theorem tick_static_ok {t : CloudTick} {s : Feed} {static : Dict Value}
    (h : (s.tick camera t).staticStatus = .ok static) :
    static.entries ≠ [] ∧
      static.lookup "image_encryption" = some (.bool (encrypts camera t.infos)) ∧
      (encrypts camera t.infos = true →
        ((getStaticStatus camera s.coordinator.serial t.staticReplies t.infos).left
          ((getAlarms camera s.coordinator.serial t.replies t.messages).left s.polls)
          ).warnedImageEncryption.lookup s.coordinator.serial = some true) := by
  cases hrun : (getStaticStatus camera s.coordinator.serial t.staticReplies t.infos).run
      ((getAlarms camera s.coordinator.serial t.replies t.messages).left s.polls) with
  | error exc p => simp [Feed.tick, hrun, outcome] at h
  | ok static' p =>
    simp only [Feed.tick, hrun, outcome, Except.ok.injEq] at h
    rw [h] at hrun
    obtain ⟨hnonempty, device, isEncrypt, hinfos, hencrypt, hflag, hwarned⟩ :=
      getStaticStatus_ok camera hrun
    rw [EStateM.left_of_ok hrun, encrypts_ok camera hinfos hencrypt]
    exact ⟨hnonempty, hflag, hwarned⟩

theorem tick_staticNonempty (t : CloudTick) (s : Feed) : (s.tick camera t).StaticNonempty := by
  intro static h
  exact (tick_static_ok h).1

def Feed.Flagged (s : Feed) : Prop :=
  s.current.lookup "image_encryption" = s.coordinator.cachedStatic.lookup "image_encryption"

theorem Feed.Flagged.refresh {s : Feed} (h : s.Flagged) (t : CloudTick) :
    (feedStep camera (.refresh t) s).2.Flagged := by
  cases hresult : (s.coordinator.asyncUpdateData Value.truthy (s.tick camera t)).1.result with
  | ok merged =>
    obtain ⟨_, alarms, _, hflag, hmerged⟩ := refresh_told camera hresult
    simp only [Feed.Flagged, feedStep, Feed.current, hresult, Except.toOption, Option.some_or,
      Option.getD_some]
    rw [hmerged]
    exact AList.lookup_union_right (AList.lookup_eq_none.1 hflag)
  | error exc =>
    have hcurrent : (feedStep camera (.refresh t) s).2.current = s.current := by
      simp [feedStep, Feed.current, hresult, Except.toOption]
    have hcached : (feedStep camera (.refresh t) s).2.coordinator.cachedStatic =
        s.coordinator.cachedStatic := by
      cases asyncUpdateData_ticked Value.truthy (s.tick camera t) s.coordinator with
      | alarmFails _ _ _ _ hsame => exact hsame.1
      | coldFails _ _ _ _ _ _ _ _ hsame => exact hsame.1
      | spares _ _ _ _ hok => simp [hok] at hresult
      | refreshes _ _ _ _ _ _ hok => simp [hok] at hresult
      | reuses _ _ _ _ _ _ _ hok => simp [hok] at hresult
    rw [Feed.Flagged, hcurrent, hcached]
    exact h

private theorem refresh_flag (camera : EzvizCamera) (t : CloudTick) (s : Feed) :
    (feedStep camera (.refresh t) s).2.coordinator.cachedStatic.lookup "image_encryption" =
      match finds camera (.refresh t, (feedStep camera (.refresh t) s).1) with
      | some b => some (.bool b)
      | none => s.coordinator.cachedStatic.lookup "image_encryption" := by
  have hmemory :=
    (asyncUpdateData_ticked Value.truthy (s.tick camera t) s.coordinator).memory.2
  simp only [feedStep, finds]
  rw [hmemory]
  cases hs : staticSuccess (s.tick camera t,
      (s.coordinator.asyncUpdateData Value.truthy (s.tick camera t)).1) with
  | none => rfl
  | some static => exact (tick_static_ok (staticSuccess_eq_some hs).2.1).2.1

/-- The log has at most one warning, the memory knows of it, and a flag is not shown without. -/
structure Warned (camera : EzvizCamera) (serial : String) (past : List (FeedEvent × Output))
    (s : Feed) : Prop where
  known : s.polls.warnings =
    if s.polls.warnedImageEncryption.lookup serial = some true then [serial]
    else []
  seen : s.polls.warnedImageEncryption.lookup serial = some true →
    ∃ t out, (.refresh t, out) ∈ past ∧ encrypts camera t.infos = true
  shown : s.coordinator.cachedStatic.lookup "image_encryption" = some (.bool true) →
    s.polls.warnedImageEncryption.lookup serial = some true

private theorem refresh_warns (camera : EzvizCamera) (t : CloudTick) (s : Feed) :
    s.polls.SameWarnings (feedStep camera (.refresh t) s).2.polls ∨
      (encrypts camera t.infos = true ∧
        s.polls.warnedImageEncryption.lookup s.coordinator.serial ≠ some true ∧
        (feedStep camera (.refresh t) s).2.polls.warnings =
          s.polls.warnings ++ [s.coordinator.serial] ∧
        (feedStep camera (.refresh t) s).2.polls.warnedImageEncryption =
          s.polls.warnedImageEncryption.insert s.coordinator.serial true) := by
  have hsilent := keeps_getAlarms camera s.polls s.coordinator.serial t.replies t.messages
    s.polls ⟨rfl, rfl⟩
  simp only [feedStep, Feed.pollsAfter]
  split
  · cases getStaticStatus_warns camera s.coordinator.serial t.staticReplies t.infos
      ((getAlarms camera s.coordinator.serial t.replies t.messages).left s.polls) with
    | silent hsame => exact .inl ⟨hsame.1.trans hsilent.1, hsame.2.trans hsilent.2⟩
    | warned device isEncrypt hinfos hencrypt htruthy hfirst hwarnings hwarned =>
      rw [hsilent.2] at hfirst hwarned
      rw [hsilent.1] at hwarnings
      exact .inr ⟨(encrypts_ok camera hinfos hencrypt).trans htruthy, hfirst, hwarnings, hwarned⟩
  · exact .inl hsilent

private theorem finds_refresh {t : CloudTick} {s : Feed} {b : Bool}
    (h : finds camera (.refresh t, (feedStep camera (.refresh t) s).1) = some b) :
    b = encrypts camera t.infos ∧
      (b = true → (feedStep camera (.refresh t) s).2.polls.warnedImageEncryption.lookup
        s.coordinator.serial = some true) := by
  simp only [finds, feedStep, Option.map_eq_some_iff] at h
  obtain ⟨static, hstatic, hb⟩ := h
  obtain ⟨hcalls, hok, _⟩ := staticSuccess_eq_some hstatic
  refine ⟨hb.symm, fun hencrypts => ?_⟩
  rw [← hb] at hencrypts
  simp only [feedStep, Feed.pollsAfter, if_pos hcalls]
  exact (tick_static_ok hok).2.2 hencrypts

theorem Warned.refresh {serial : String} {past : List (FeedEvent × Output)} {s : Feed}
    (h : Warned camera serial past s) (hserial : s.coordinator.serial = serial)
    (t : CloudTick) :
    Warned camera serial
      (past ++ [(.refresh t, (feedStep camera (.refresh t) s).1)])
      (feedStep camera (.refresh t) s).2 := by
  have hflag := refresh_flag camera t s
  rcases refresh_warns camera t s with ⟨hwarnings, hmemory⟩ |
    ⟨hencrypts, hfirst, hwarnings, hmemory⟩
  · constructor
    · rw [hwarnings, hmemory]
      exact h.known
    · rw [hmemory]
      intro hwarned
      obtain ⟨t', out, hmem, hencrypts⟩ := h.seen hwarned
      exact ⟨t', out, List.mem_append_left _ hmem, hencrypts⟩
    · intro hshown
      rw [hflag] at hshown
      cases hfinds : finds camera (.refresh t, (feedStep camera (.refresh t) s).1) with
      | none =>
        rw [hmemory]
        rw [hfinds] at hshown
        exact h.shown hshown
      | some b =>
        rw [hfinds] at hshown
        rw [← hserial]
        apply (finds_refresh hfinds).2
        simpa using hshown
  · rw [hserial] at hfirst hwarnings hmemory
    have hwarned : (feedStep camera (.refresh t) s).2.polls.warnedImageEncryption.lookup serial =
        some true := by
      rw [hmemory]
      exact AList.lookup_insert _
    constructor
    · rw [hwarnings, h.known, hwarned, if_neg hfirst]
      rfl
    · intro _
      exact ⟨t, _, List.mem_append_right _ List.mem_cons_self, hencrypts⟩
    · intro _
      exact hwarned

/-- What a run shows and logs about the encryption. -/
structure Surfaces (camera : EzvizCamera) (serial : String) (log : List (FeedEvent × Output))
    (s : Feed) : Prop where
  /-- The sensor shows what the last static poll that succeeded found. -/
  shows : simpleIsOn "image_encryption" s.current = LastWrite.value (finds camera) false log
  /-- Nothing is shown that the log does not warn of, and it warns once. -/
  warned : simpleIsOn "image_encryption" s.current = true → s.polls.warnings = [serial]
  once : s.polls.warnings = [] ∨ s.polls.warnings = [serial]
  /-- A warning has a device list behind it that shows the encryption. -/
  seen : s.polls.warnings ≠ [] →
    ∃ t out, (.refresh t, out) ∈ log ∧ encrypts camera t.infos = true

structure Surfacing (camera : EzvizCamera) (serial : String) (past : List (FeedEvent × Output))
    (s : Feed) : Prop where
  own : s.coordinator.serial = serial
  flagged : s.Flagged
  warned : Warned camera serial past s
  found : toBool ((s.coordinator.cachedStatic.lookup "image_encryption").getD .none) =
    LastWrite.value (finds camera) false past
  bool : ∀ v, s.coordinator.cachedStatic.lookup "image_encryption" = some v → ∃ b, v = .bool b

theorem Surfacing.surfaces {serial : String} {past : List (FeedEvent × Output)} {s : Feed}
    (h : Surfacing camera serial past s) : Surfaces camera serial past s := by
  have hon : simpleIsOn "image_encryption" s.current =
      toBool ((s.coordinator.cachedStatic.lookup "image_encryption").getD .none) := by
    rw [simpleIsOn, h.flagged]
  constructor
  · rw [hon, h.found]
  · intro hshows
    rw [hon] at hshows
    cases hlookup : s.coordinator.cachedStatic.lookup "image_encryption" with
    | none => simp [hlookup, toBool] at hshows
    | some v =>
      obtain ⟨b, rfl⟩ := h.bool v hlookup
      rw [hlookup] at hshows
      have hwarned := h.warned.shown (hlookup.trans (congrArg (some ∘ Value.bool) hshows))
      rw [h.warned.known, if_pos hwarned]
  · rw [h.warned.known]
    split
    · exact .inr rfl
    · exact .inl rfl
  · intro hne
    apply h.warned.seen
    by_contra hnot
    rw [h.warned.known, if_neg hnot] at hne
    exact hne rfl

theorem Surfacing.other {serial : String} {past : List (FeedEvent × Output)} {s s' : Feed}
    (h : Surfacing camera serial past s) {e : FeedEvent × Output} (he : finds camera e = none)
    (hpolls : s'.polls = s.polls) (hcoordinator : s'.coordinator = s.coordinator)
    (hdata : s'.data = s.data) : Surfacing camera serial (past ++ [e]) s' := by
  constructor
  · rw [hcoordinator, h.own]
  · rw [Feed.Flagged, Feed.current, hdata, hcoordinator]
    exact h.flagged
  · constructor
    · rw [hpolls]
      exact h.warned.known
    · rw [hpolls]
      intro hwarned
      obtain ⟨t, out, hmem, hencrypts⟩ := h.warned.seen hwarned
      exact ⟨t, out, List.mem_append_left _ hmem, hencrypts⟩
    · rw [hpolls, hcoordinator]
      exact h.warned.shown
  · rw [hcoordinator, LastWrite.value_append, he]
    exact h.found
  · rw [hcoordinator]
    exact h.bool

theorem Surfacing.step {serial : String} {past : List (FeedEvent × Output)} {s : Feed}
    (h : Surfacing camera serial past s) (e : FeedEvent) :
    Surfacing camera serial (past ++ [(e, (feedStep camera e s).1)]) (feedStep camera e s).2 := by
  cases e with
  | notify now => exact h.other rfl rfl rfl rfl
  | localUnlock now serial' action => exact h.other rfl rfl rfl rfl
  | refresh t =>
    have hflag := refresh_flag camera t s
    constructor
    · rw [feedStep_serial, h.own]
    · exact h.flagged.refresh t
    · exact h.warned.refresh h.own t
    · rw [LastWrite.value_append, hflag]
      cases finds camera (.refresh t, (feedStep camera (.refresh t) s).1) with
      | none => exact h.found
      | some b => rfl
    · intro v hv
      rw [hflag] at hv
      cases hfinds : finds camera (.refresh t, (feedStep camera (.refresh t) s).1) with
      | none =>
        rw [hfinds] at hv
        exact h.bool v hv
      | some b =>
        rw [hfinds] at hv
        exact ⟨b, (Option.some.inj hv).symm⟩

/-- The encryption of a device is surfaced in every run. -/
theorem encryption_surfaced (camera : EzvizCamera) (api : Cloud.Hp7Api)
    (stats : Option ActivityStats) (serial : String) (kind : AlarmKind)
    (events : List FeedEvent) :
    Surfaces camera serial (Mealy.log (feedStep camera) (.init api stats serial kind) events)
      (Mealy.after (feedStep camera) (.init api stats serial kind) events) := by
  apply Surfacing.surfaces
  refine Mealy.invariant (P := Surfacing camera serial) ?_ ?_ fun _ _ => trivial
  · constructor
    · rfl
    · rfl
    · constructor
      · rfl
      · intro hwarned
        cases hwarned
      · intro hshown
        cases hshown
    · rfl
    · intro v hv
      cases hv
  · intro past s e _ h
    exact h.step e

def plainHelper : EzvizCamera where
  init _ _ := .ok []
  fetchKey device keys default :=
    match device, keys with
    | .dict entries, [outer, inner] => ((entries.lookup outer).getD (.dict [])).get inner default
    | _, _ => .ok default
  localIp _ := .ok .none
  normalizeUnifiedMessage message :=
    .ok [("alarmStartTimeStr", read message "timeStr"), ("alarmType", read message "subType")]
  motionTrigger trigger _ := .done trigger
  str _ := ""

/-- The bell is rung at the time; the device encrypts its images. -/
def ring (time : String) (now : Rat) : CloudTick where
  replies := Events.idleReplies
  messages := .ok (.dict [("message", .list [.dict [("deviceSerial", .str "BE0000000"),
    ("timeStr", .str time), ("subType", .str "2701")]])])
  now := now
  staticReplies := Events.idleReplies
  infos := .ok (.dict [("STATUS", .dict [("isEncrypt", .number 1)])])

def rings : List FeedEvent :=
  [.refresh (ring "08:00" 0), .notify 0, .refresh (ring "08:05" 15), .notify 15,
    .refresh (ring "08:05" 30), .notify 30]

def freshFeed : Feed :=
  .init ⟨true, none, none, ∅⟩ none "BE0000000" Events.doorbellRinging

example : (Mealy.log (feedStep plainHelper) freshFeed rings).filterMap (fun e => e.2.pulse?) =
    [.str "08:05"] := by decide +kernel

example : (Mealy.after (feedStep plainHelper) freshFeed rings).polls.warnings = ["BE0000000"] := by
  decide +kernel

end EzvizHp7.Coordinator
