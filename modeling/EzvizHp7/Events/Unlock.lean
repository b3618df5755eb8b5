import EzvizHp7.Cloud.Authentication
import EzvizHp7.Events.AlarmPulse

/-!
# The unlock buttons

A press of a button asks the executor to unlock one lock and tells the alarm sensors when that
went well. The executor works on the client of the entry while other methods and other presses do;
the sensors of every loaded entry hear the signal.
-/

namespace EzvizHp7.Events

open Cloud (Exc Replies Traced)
open Transition System

def defaultDoorLockNo : Nat := 2

def defaultGateLockNo : Nat := 1

/-- The lock that `async_press` unlocks for an action. -/
def lockNo (action : String) : Option Nat :=
  if action = "unlock_gate" then some defaultGateLockNo
  else if action = "unlock_door" then some defaultDoorLockNo
  else none

structure Press where
  serial : String
  action : String
  deriving DecidableEq, Repr

/-- How far a press has come: its call of the executor, `_try_unlock` with a client and a user, and
the result that `async_press` goes on with. -/
inductive PressPc
  | queued
  | ready (userId : String)
  | answered (success : Bool)
  | finished (success : Bool)
  deriving DecidableEq, Repr

def PressPc.success? : PressPc → Option Bool
  | .queued | .ready _ => none
  | .answered success | .finished success => some success

structure RemoteUnlock where
  press : Nat
  serial : String
  userId : String
  lockNo : Nat
  ok : Bool
  deriving DecidableEq, Repr

structure Signal where
  press : Nat
  serial : String
  action : String
  heardBy : List String
  deriving DecidableEq, Repr

structure LocalPulse where
  press : Nat
  serial : String
  sensor : String
  deriving DecidableEq, Repr

def alarmMap : List AlarmKind :=
  [⟨["Smart Detection Alarm"], "smart_detection_alarm", [], ["10079"]⟩,
    ⟨["Intelligent Detection Alarm"], "intelligent_detection_alarm", [], []⟩,
    doorbellRinging,
    ⟨["EZVIZ app open the gate", "Monitor open the gate"], "gate_open", ["unlock_gate"],
      ["10243"]⟩,
    ⟨["EZVIZ app unlock the lock", "Monitor unlock the lock"], "unlock_lock", ["unlock_door"],
      ["10242"]⟩]

/-- The sensors that hear of a local unlock and take it for theirs. -/
def Signal.pulses (s : Signal) : List LocalPulse :=
  s.heardBy.flatMap fun serial =>
    (alarmMap.filter fun kind =>
      ((Hp7BinaryAlarm.init Unit serial kind).handleLocalUnlock 0 s.serial
        s.action).lastTrigger.isSome
      ).map fun kind => ⟨s.press, serial, kind.translationKey⟩

structure UnlockWorld where
  /-- The client of each entry. -/
  apis : String → Traced
  usernames : String → String
  entries : List String
  presses : Nat → Option (Press × PressPc)
  next : Nat
  unlocks : List RemoteUnlock
  signals : List Signal
  pulses : List LocalPulse

inductive UnlockAction
  | press (p : Press)
  /-- `ensure_client` and the look at the token, in the executor. -/
  | ensure (n : Nat) (r : Replies)
  | unlock (n : Nat) (reply : Except Exc Unit)
  /-- `async_press` gets its result. -/
  | resume (n : Nat)
  /-- Other methods leave the client of an entry like this. -/
  | others (serial : String) (w : Traced)
  | load (serial : String)
  | unload (serial : String)

namespace UnlockWorld

def moved (n : Nat) (p : Press) (pc : PressPc) (w : UnlockWorld) : UnlockWorld :=
  { w with presses := fun m => if m = n then some (p, pc) else w.presses m }

def withApi (serial : String) (api : Traced) (w : UnlockWorld) : UnlockWorld :=
  { w with apis := fun s => if s = serial then api else w.apis s }

def pressed (p : Press) (w : UnlockWorld) : UnlockWorld :=
  { w.moved w.next p (if (lockNo p.action).isSome then .queued else .finished false) with
    next := w.next + 1 }

/-- `self._token.get("username") or self._username`, where there are a token and a client. -/
def userId? (username : String) (api : Traced) : Option String :=
  if !Cloud.truthy api.api.token || !api.api.client then none
  else
    let user := ((api.api.token.getD []).lookup "username").getD ""
    some (if user = "" then username else user)

def ensured (n : Nat) (p : Press) (r : Replies) (w : UnlockWorld) : UnlockWorld :=
  match (Cloud.Hp7Api.ensureClient r).run (w.apis p.serial) with
  | .error _ api => (w.withApi p.serial api).moved n p (.finished false)
  | .ok _ api =>
    match userId? (w.usernames p.serial) api with
    | none => (w.withApi p.serial api).moved n p (.answered false)
    | some userId => (w.withApi p.serial api).moved n p (.ready userId)

def unlocked (n : Nat) (p : Press) (userId : String) (reply : Except Exc Unit) (w : UnlockWorld) :
    UnlockWorld :=
  match (w.apis p.serial).api.client, lockNo p.action with
  | true, some lock =>
    { w.moved n p (.answered reply.isOk) with
      unlocks := w.unlocks ++ [⟨n, p.serial, userId, lock, reply.isOk⟩] }
  | _, _ => w.moved n p (.answered false)

def resumed (n : Nat) (p : Press) (success : Bool) (w : UnlockWorld) : UnlockWorld :=
  if success then
    let signal : Signal := ⟨n, p.serial, p.action, w.entries⟩
    { w.moved n p (.finished true) with
      signals := w.signals ++ [signal]
      pulses := w.pulses ++ signal.pulses }
  else w.moved n p (.finished false)

def step (a : UnlockAction) (w : UnlockWorld) : Option UnlockWorld :=
  match a with
  | .press p => if p.serial ∈ w.entries then some (w.pressed p) else none
  | .ensure n r =>
    match w.presses n with
    | some (p, .queued) => some (w.ensured n p r)
    | _ => none
  | .unlock n reply =>
    match w.presses n with
    | some (p, .ready userId) => some (w.unlocked n p userId reply)
    | _ => none
  | .resume n =>
    match w.presses n with
    | some (p, .answered success) => some (w.resumed n p success)
    | _ => none
  | .others serial api => some (w.withApi serial api)
  | .load serial =>
    if serial ∉ w.entries then some { w with entries := w.entries ++ [serial] } else none
  | .unload serial => some { w with entries := w.entries.filter (· ≠ serial) }

end UnlockWorld

def unlocking : Transition.System UnlockWorld UnlockAction where
  init w := w.entries = [] ∧ w.presses = (fun _ => none) ∧ w.unlocks = [] ∧ w.signals = [] ∧
    w.pulses = []
  step := UnlockWorld.step

def sensorOf (lock : Nat) : String :=
  if lock = defaultGateLockNo then "gate_open" else "unlock_lock"

private theorem localUnlock_triggers (kind : AlarmKind) (serial serial' action : String) :
    ((Hp7BinaryAlarm.init Unit serial kind).handleLocalUnlock 0 serial' action).lastTrigger.isSome =
      true ↔ serial' = serial ∧ action ∈ kind.localActions := by
  unfold Hp7BinaryAlarm.handleLocalUnlock
  split
  · rename_i hother
    simp only [Hp7BinaryAlarm.init] at hother ⊢
    simp only [Option.isSome_none, Bool.false_eq_true, false_iff]
    tauto
  · rename_i hown
    simp only [Hp7BinaryAlarm.init, Hp7BinaryAlarm.pulse] at hown ⊢
    simp only [Option.isSome_some, true_iff]
    tauto

private theorem lockNo_eq_some {action : String} {lock : Nat} (h : lockNo action = some lock) :
    action = "unlock_gate" ∧ lock = 1 ∨ action = "unlock_door" ∧ lock = 2 := by
  unfold lockNo at h
  split at h
  · rename_i haction
    cases h
    exact .inl ⟨haction, rfl⟩
  · split at h
    · rename_i haction
      cases h
      exact .inr ⟨haction, rfl⟩
    · cases h

private theorem entry_pulses {action : String} {lock : Nat} (h : lockNo action = some lock)
    (n : Nat) (serial serial' : String) :
    ((alarmMap.filter fun kind =>
      ((Hp7BinaryAlarm.init Unit serial kind).handleLocalUnlock 0 serial' action).lastTrigger.isSome
      ).map fun kind => (⟨n, serial, kind.translationKey⟩ : LocalPulse)) =
      if serial' = serial then [⟨n, serial', sensorOf lock⟩] else [] := by
  have hfilter : (alarmMap.filter fun kind =>
      ((Hp7BinaryAlarm.init Unit serial kind).handleLocalUnlock 0 serial'
        action).lastTrigger.isSome)
        = alarmMap.filter fun kind => serial' = serial ∧ action ∈ kind.localActions := by
    apply List.filter_congr
    intro kind _
    rw [Bool.eq_iff_iff, localUnlock_triggers, decide_eq_true_iff]
  rw [hfilter]
  by_cases hserial : serial' = serial
  · subst hserial
    rcases lockNo_eq_some h with ⟨rfl, rfl⟩ | ⟨rfl, rfl⟩ <;>
      simp [alarmMap, doorbellRinging, sensorOf, defaultGateLockNo]
  · simp [hserial]

private theorem flatMap_own {β : Type} {serial : String} {entries : List String} (h : entries.Nodup)
    (b : β) : (entries.flatMap fun e => if serial = e then [b] else []) =
      if serial ∈ entries then [b] else [] := by
  induction entries with
  | nil => rfl
  | cons e entries ih =>
    obtain ⟨hfresh, hnodup⟩ := List.nodup_cons.1 h
    rw [List.flatMap_cons, ih hnodup]
    by_cases hown : serial = e
    · subst hown
      simp [hfresh]
    · simp [hown]

theorem Signal.pulses_eq {s : Signal} {lock : Nat} (h : lockNo s.action = some lock)
    (hnodup : s.heardBy.Nodup) :
    s.pulses = if s.serial ∈ s.heardBy then [⟨s.press, s.serial, sensorOf lock⟩] else [] := by
  rw [← flatMap_own hnodup]
  simp only [Signal.pulses, entry_pulses h]

/-- What was done for a press is what its button is for, and was done once. -/
structure Honoured (w : UnlockWorld) : Prop where
  entries : w.entries.Nodup
  fresh : ∀ n, w.next ≤ n → w.presses n = none
  unlocks : ∀ u ∈ w.unlocks, ∃ p pc, w.presses u.press = some (p, pc) ∧ u.serial = p.serial ∧
    lockNo p.action = some u.lockNo ∧ pc.success? = some u.ok
  unlocksOnce : (w.unlocks.map (·.press)).Nodup
  succeeded : ∀ n p pc, w.presses n = some (p, pc) → pc.success? = some true →
    ∃ u ∈ w.unlocks, u.press = n ∧ u.ok = true
  signals : ∀ s ∈ w.signals, s.heardBy.Nodup ∧
    ∃ p, w.presses s.press = some (p, .finished true) ∧ s.serial = p.serial ∧ s.action = p.action
  signalsOnce : (w.signals.map (·.press)).Nodup
  finished : ∀ n p, w.presses n = some (p, .finished true) → ∃ s ∈ w.signals, s.press = n
  pulses : w.pulses = w.signals.flatMap Signal.pulses

namespace Honoured

variable {w w' : UnlockWorld}

theorem moved (h : Honoured w) {n : Nat} {p : Press} {pc pc' : PressPc}
    (hpress : w.presses n = some (p, pc)) (hpc : pc.success? = none)
    (hpc' : pc'.success? ≠ some true) : Honoured (w.moved n p pc') := by
  have hother : ∀ {m p₁ pc₁}, w.presses m = some (p₁, pc₁) → pc₁.success? ≠ none →
      (w.moved n p pc').presses m = some (p₁, pc₁) := by
    intro m p₁ pc₁ hm hsuccess
    have hne : m ≠ n := by
      rintro rfl
      rw [hpress] at hm
      cases hm
      exact hsuccess hpc
    simp [UnlockWorld.moved, hne, hm]
  have hback : ∀ {m p₁ pc₁}, (w.moved n p pc').presses m = some (p₁, pc₁) →
      pc₁.success? = some true → w.presses m = some (p₁, pc₁) := by
    intro m p₁ pc₁ hm hsuccess
    simp only [UnlockWorld.moved] at hm
    split at hm
    · cases hm
      exact absurd hsuccess hpc'
    · exact hm
  constructor
  · exact h.entries
  · intro m hm
    have hne : m ≠ n := by
      rintro rfl
      rw [h.fresh m hm] at hpress
      cases hpress
    simpa [UnlockWorld.moved, hne] using h.fresh m hm
  · intro u hu
    obtain ⟨p₁, pc₁, hm, hserial, hlock, hsuccess⟩ := h.unlocks u hu
    exact ⟨p₁, pc₁, hother hm (by simp [hsuccess]), hserial, hlock, hsuccess⟩
  · exact h.unlocksOnce
  · intro m p₁ pc₁ hm hsuccess
    exact h.succeeded m p₁ pc₁ (hback hm hsuccess) hsuccess
  · intro s hs
    obtain ⟨hheard, p₁, hm, hserial, haction⟩ := h.signals s hs
    exact ⟨hheard, p₁, hother hm (by simp [PressPc.success?]), hserial, haction⟩
  · exact h.signalsOnce
  · exact fun m p₁ hm => h.finished m p₁ (hback hm rfl)
  · exact h.pulses

theorem congr (h : Honoured w) (hentries : w'.entries.Nodup) (hpresses : w'.presses = w.presses)
    (hnext : w'.next = w.next) (hunlocks : w'.unlocks = w.unlocks)
    (hsignals : w'.signals = w.signals) (hpulses : w'.pulses = w.pulses) : Honoured w' := by
  constructor
  · exact hentries
  · simpa [hnext, hpresses] using h.fresh
  · simpa [hunlocks, hpresses] using h.unlocks
  · simpa [hunlocks] using h.unlocksOnce
  · simpa [hunlocks, hpresses] using h.succeeded
  · simpa [hsignals, hpresses] using h.signals
  · simpa [hsignals] using h.signalsOnce
  · simpa [hsignals, hpresses] using h.finished
  · simpa [hsignals, hpulses] using h.pulses

theorem withApi (h : Honoured w) (serial : String) (api : Traced) :
    Honoured (w.withApi serial api) := h.congr h.entries rfl rfl rfl rfl rfl

theorem pressed (h : Honoured w) (p : Press) : Honoured (w.pressed p) := by
  have hnone := h.fresh w.next (Nat.le_refl _)
  have hne : ∀ {m p₁ pc₁}, w.presses m = some (p₁, pc₁) → m ≠ w.next := by
    rintro m p₁ pc₁ hm rfl
    rw [hnone] at hm
    cases hm
  have hback : ∀ {m p₁ pc₁}, (w.pressed p).presses m = some (p₁, pc₁) →
      pc₁.success? = some true → w.presses m = some (p₁, pc₁) := by
    intro m p₁ pc₁ hm hsuccess
    simp only [UnlockWorld.pressed, UnlockWorld.moved] at hm
    split at hm
    · split at hm <;> cases hm <;> cases hsuccess
    · exact hm
  constructor
  · exact h.entries
  · intro m hm
    simp only [UnlockWorld.pressed] at hm
    have hne : m ≠ w.next := by omega
    simpa [UnlockWorld.pressed, UnlockWorld.moved, hne] using h.fresh m (by omega)
  · intro u hu
    obtain ⟨p₁, pc₁, hm, hrest⟩ := h.unlocks u hu
    exact ⟨p₁, pc₁, by simpa [UnlockWorld.pressed, UnlockWorld.moved, hne hm] using hm, hrest⟩
  · exact h.unlocksOnce
  · intro m p₁ pc₁ hm hsuccess
    exact h.succeeded m p₁ pc₁ (hback hm hsuccess) hsuccess
  · intro s hs
    obtain ⟨hheard, p₁, hm, hrest⟩ := h.signals s hs
    exact ⟨hheard, p₁, by simpa [UnlockWorld.pressed, UnlockWorld.moved, hne hm] using hm, hrest⟩
  · exact h.signalsOnce
  · exact fun m p₁ hm => h.finished m p₁ (hback hm rfl)
  · exact h.pulses

theorem ensured (h : Honoured w) {n : Nat} {p : Press} (hpress : w.presses n = some (p, .queued))
    (r : Replies) : Honoured (w.ensured n p r) := by
  unfold UnlockWorld.ensured
  split
  · exact (h.withApi _ _).moved hpress rfl (by simp [PressPc.success?])
  · split
    · exact (h.withApi _ _).moved hpress rfl (by simp [PressPc.success?])
    · exact (h.withApi _ _).moved hpress rfl (by simp [PressPc.success?])

theorem unlocked (h : Honoured w) {n : Nat} {p : Press} {userId : String}
    (hpress : w.presses n = some (p, .ready userId)) (reply : Except Exc Unit) :
    Honoured (w.unlocked n p userId reply) := by
  unfold UnlockWorld.unlocked
  split
  · rename_i lock hclient hlock
    have hnew : ∀ u ∈ w.unlocks, u.press ≠ n := by
      rintro u hu rfl
      obtain ⟨p₁, pc₁, hm, _, _, hsuccess⟩ := h.unlocks u hu
      rw [hpress] at hm
      cases hm
      cases hsuccess
    constructor
    · exact h.entries
    · intro m hm
      have hne : m ≠ n := by
        rintro rfl
        rw [h.fresh m hm] at hpress
        cases hpress
      simpa [UnlockWorld.moved, hne] using h.fresh m hm
    · intro u hu
      rcases List.mem_append.1 hu with hu | hu
      · obtain ⟨p₁, pc₁, hm, hrest⟩ := h.unlocks u hu
        exact ⟨p₁, pc₁, by simpa [UnlockWorld.moved, hnew u hu] using hm, hrest⟩
      · rw [List.mem_singleton.1 hu]
        exact ⟨p, .answered reply.isOk, by simp [UnlockWorld.moved], rfl, hlock, rfl⟩
    · simp only [List.map_append, List.map_cons, List.map_nil]
      apply h.unlocksOnce.append (List.nodup_singleton n)
      simpa using hnew
    · intro m p₁ pc₁ hm hsuccess
      simp only [UnlockWorld.moved] at hm
      split at hm
      · rename_i hmn
        cases hm
        exact ⟨_, List.mem_append_right _ List.mem_cons_self, hmn.symm,
          by simpa [PressPc.success?] using hsuccess⟩
      · obtain ⟨u, hu, hrest⟩ := h.succeeded m p₁ pc₁ hm hsuccess
        exact ⟨u, List.mem_append_left _ hu, hrest⟩
    · intro s hs
      obtain ⟨hheard, p₁, hm, hrest⟩ := h.signals s hs
      have hne : s.press ≠ n := by
        rintro rfl
        rw [hpress] at hm
        cases hm
      exact ⟨hheard, p₁, by simpa [UnlockWorld.moved, hne] using hm, hrest⟩
    · exact h.signalsOnce
    · intro m p₁ hm
      simp only [UnlockWorld.moved] at hm
      split at hm
      · cases hm
      · exact h.finished m p₁ hm
    · exact h.pulses
  · exact h.moved hpress rfl (by simp [PressPc.success?])

theorem resumed (h : Honoured w) {n : Nat} {p : Press} {success : Bool}
    (hpress : w.presses n = some (p, .answered success)) : Honoured (w.resumed n p success) := by
  have hunlocks : ∀ u ∈ w.unlocks, ∃ p₁ pc₁,
      (w.moved n p (.finished success)).presses u.press = some (p₁, pc₁) ∧ u.serial = p₁.serial ∧
        lockNo p₁.action = some u.lockNo ∧ pc₁.success? = some u.ok := by
    intro u hu
    obtain ⟨p₁, pc₁, hm, hrest⟩ := h.unlocks u hu
    by_cases hmn : u.press = n
    · rw [hmn, hpress] at hm
      cases hm
      exact ⟨p, .finished success, by simp [UnlockWorld.moved, hmn], hrest⟩
    · exact ⟨p₁, pc₁, by simpa [UnlockWorld.moved, hmn] using hm, hrest⟩
  have hfresh : ∀ m, w.next ≤ m → (w.moved n p (.finished success)).presses m = none := by
    intro m hm
    have hne : m ≠ n := by
      rintro rfl
      rw [h.fresh m hm] at hpress
      cases hpress
    simpa [UnlockWorld.moved, hne] using h.fresh m hm
  have hsucceeded : ∀ m p₁ pc₁,
      (w.moved n p (.finished success)).presses m = some (p₁, pc₁) → pc₁.success? = some true →
        ∃ u ∈ w.unlocks, u.press = m ∧ u.ok = true := by
    intro m p₁ pc₁ hm hsuccess
    simp only [UnlockWorld.moved] at hm
    split at hm
    · rename_i hmn
      cases hm
      exact h.succeeded m p (.answered success) (hmn ▸ hpress) hsuccess
    · exact h.succeeded m p₁ pc₁ hm hsuccess
  have hne : ∀ s ∈ w.signals, s.press ≠ n := by
    rintro s hs rfl
    obtain ⟨_, p₁, hm, _⟩ := h.signals s hs
    rw [hpress] at hm
    cases hm
  have hsignals : ∀ s ∈ w.signals, s.heardBy.Nodup ∧ ∃ p₁,
      (w.moved n p (.finished success)).presses s.press = some (p₁, .finished true) ∧
        s.serial = p₁.serial ∧ s.action = p₁.action := by
    intro s hs
    obtain ⟨hheard, p₁, hm, hrest⟩ := h.signals s hs
    exact ⟨hheard, p₁, by simpa [UnlockWorld.moved, hne s hs] using hm, hrest⟩
  unfold UnlockWorld.resumed
  cases success with
  | false =>
    refine ⟨h.entries, hfresh, hunlocks, h.unlocksOnce, hsucceeded, hsignals, h.signalsOnce, ?_,
      h.pulses⟩
    intro m p₁ hm
    simp only [Bool.false_eq_true, if_false, UnlockWorld.moved] at hm
    split at hm
    · cases hm
    · exact h.finished m p₁ hm
  | true =>
    refine ⟨h.entries, hfresh, hunlocks, h.unlocksOnce, hsucceeded, ?_, ?_, ?_, ?_⟩
    · intro s hs
      rcases List.mem_append.1 hs with hs | hs
      · exact hsignals s hs
      · rw [List.mem_singleton.1 hs]
        exact ⟨h.entries, p, by simp [UnlockWorld.moved], rfl, rfl⟩
    · simp only [if_true, List.map_append, List.map_cons, List.map_nil]
      apply h.signalsOnce.append (List.nodup_singleton n)
      simpa using hne
    · intro m p₁ hm
      simp only [if_true, UnlockWorld.moved] at hm
      split at hm
      · rename_i hmn
        exact ⟨_, List.mem_append_right _ List.mem_cons_self, hmn.symm⟩
      · obtain ⟨s, hs, hpress⟩ := h.finished m p₁ hm
        exact ⟨s, List.mem_append_left _ hs, hpress⟩
    · simp [h.pulses]

theorem step {a : UnlockAction} (h : Honoured w) (hstep : w.step a = some w') : Honoured w' := by
  cases a with
  | press p =>
    simp only [UnlockWorld.step] at hstep
    split at hstep
    · cases hstep
      exact h.pressed p
    · cases hstep
  | ensure n r =>
    simp only [UnlockWorld.step] at hstep
    split at hstep
    · rename_i p hpress
      cases hstep
      exact h.ensured hpress r
    · cases hstep
  | unlock n reply =>
    simp only [UnlockWorld.step] at hstep
    split at hstep
    · rename_i p userId hpress
      cases hstep
      exact h.unlocked hpress reply
    · cases hstep
  | resume n =>
    simp only [UnlockWorld.step] at hstep
    split at hstep
    · rename_i p success hpress
      cases hstep
      exact h.resumed hpress
    · cases hstep
  | others serial api =>
    cases hstep
    exact h.withApi serial api
  | load serial =>
    simp only [UnlockWorld.step] at hstep
    split at hstep
    · rename_i hnew
      cases hstep
      have hentries : (w.entries ++ [serial]).Nodup := by
        apply h.entries.append (List.nodup_singleton serial)
        simpa using hnew
      exact h.congr hentries rfl rfl rfl rfl rfl
    · cases hstep
  | unload serial =>
    cases hstep
    exact h.congr (h.entries.filter _) rfl rfl rfl rfl rfl

end Honoured

private theorem honoured {w : UnlockWorld} (h : unlocking.Reachable w) : Honoured w := by
  refine ReachableUnder.invariant (P := Honoured) ?_ ?_ h
  · intro w ⟨hentries, hpresses, hunlocks, hsignals, hpulses⟩
    constructor <;> simp [hentries, hpresses, hunlocks, hsignals, hpulses]
  · exact fun w a w' _ hw _ hstep => hw.step hstep

/-- Behind a signal is a call that succeeded, and the signal pulses one sensor at most. -/
theorem Honoured.signal {w : UnlockWorld} (h : Honoured w) {s : Signal} (hs : s ∈ w.signals) :
    ∃ u ∈ w.unlocks, u.press = s.press ∧ u.ok = true ∧
      s.pulses = if s.serial ∈ s.heardBy then [⟨u.press, u.serial, sensorOf u.lockNo⟩] else [] := by
  obtain ⟨hheard, p, hpress, hserial, haction⟩ := h.signals s hs
  obtain ⟨u, hu, hun, hok⟩ := h.succeeded s.press p _ hpress rfl
  obtain ⟨p', _, hpress', hserial', hlock, _⟩ := h.unlocks u hu
  rw [hun, hpress] at hpress'
  cases hpress'
  refine ⟨u, hu, hun, hok, ?_⟩
  rw [Signal.pulses_eq (haction ▸ hlock) hheard, hun, hserial', hserial]

private theorem pulses_sublist {signals : List Signal}
    (h : ∀ s ∈ signals, (s.pulses.map (·.press)).Sublist [s.press]) :
    ((signals.flatMap Signal.pulses).map (·.press)).Sublist (signals.map (·.press)) := by
  induction signals with
  | nil => simp
  | cons s signals ih =>
    rw [List.flatMap_cons, List.map_append, List.map_cons]
    apply (h s List.mem_cons_self).append
    exact ih fun s' hs' => h s' (List.mem_cons_of_mem s hs')

/-- However presses interleave with each other, with the other methods of the clients and with
entries that come and go: a press makes at most one `remote_unlock`, of its own doorbell and of the
lock that its button names and never of the other; a sensor is pulsed once for a press at most, only
where that call succeeded, and it is the sensor of the lock that was unlocked; and a press that
has returned has told the sensors exactly where its call succeeded. -/
theorem unlock_honoured {w : UnlockWorld} (h : unlocking.Reachable w) :
    ((w.unlocks.map (·.press)).Nodup ∧ ∀ u ∈ w.unlocks, ∃ p pc,
        w.presses u.press = some (p, pc) ∧ u.serial = p.serial ∧
          (p.action = "unlock_gate" ∧ u.lockNo = 1 ∨ p.action = "unlock_door" ∧ u.lockNo = 2)) ∧
      ((w.pulses.map (·.press)).Nodup ∧ ∀ q ∈ w.pulses, ∃ u ∈ w.unlocks, u.press = q.press ∧
        u.ok = true ∧ u.serial = q.serial ∧ q.sensor = sensorOf u.lockNo) ∧
      ∀ n p success, w.presses n = some (p, .finished success) →
        ((∃ s ∈ w.signals, s.press = n) ↔ ∃ u ∈ w.unlocks, u.press = n ∧ u.ok = true) := by
  have hall := honoured h
  refine ⟨⟨hall.unlocksOnce, fun u hu => ?_⟩, ⟨?_, fun q hq => ?_⟩, fun n p success hpress => ?_⟩
  · obtain ⟨p, pc, hpress, hserial, hlock, _⟩ := hall.unlocks u hu
    exact ⟨p, pc, hpress, hserial, lockNo_eq_some hlock⟩
  · rw [hall.pulses]
    apply List.Sublist.nodup _ hall.signalsOnce
    apply pulses_sublist
    intro s hs
    obtain ⟨u, _, hun, _, hpulses⟩ := hall.signal hs
    rw [hpulses]
    split
    · simp [hun]
    · simp
  · rw [hall.pulses] at hq
    obtain ⟨s, hs, hq⟩ := List.mem_flatMap.1 hq
    obtain ⟨u, hu, _, hok, hpulses⟩ := hall.signal hs
    rw [hpulses] at hq
    split at hq
    · rw [List.mem_singleton.1 hq]
      exact ⟨u, hu, rfl, hok, rfl, rfl⟩
    · cases hq
  · constructor
    · intro hsignal
      obtain ⟨s, hs, rfl⟩ := hsignal
      obtain ⟨u, hu, hun, hok, _⟩ := hall.signal hs
      exact ⟨u, hu, hun, hok⟩
    · intro hunlock
      obtain ⟨u, hu, rfl, hok⟩ := hunlock
      obtain ⟨p', pc, hpress', _, _, hsuccess⟩ := hall.unlocks u hu
      rw [hpress] at hpress'
      cases hpress'
      rw [hok] at hsuccess
      cases hsuccess
      exact hall.finished u.press p hpress

def idleReplies : Replies where
  now := 0
  newClient := .ok ()
  firstLogin := .ok none
  refresh := .ok none
  eucas := .ok .none
  relogin := .ok none
  eucasAgain := .ok .none
  fetchedAt := 0
  p2pRegister := .ok ()

def freshButtons : UnlockWorld where
  apis _ := ⟨⟨true, some [("username", "u1")], none, ∅⟩, []⟩
  usernames _ := "u@x"
  entries := []
  presses _ := none
  next := 0
  unlocks := []
  signals := []
  pulses := []

/-- The gate of one doorbell and the door of another at once; then a door whose client is closed
before the call. -/
def twoButtons : List UnlockAction :=
  [.load "BE1", .load "BE2", .press ⟨"BE1", "unlock_gate"⟩, .press ⟨"BE2", "unlock_door"⟩,
    .ensure 1 idleReplies, .ensure 0 idleReplies, .unlock 0 (.ok ()), .unlock 1 (.ok ()),
    .resume 1, .resume 0, .press ⟨"BE1", "unlock_door"⟩, .ensure 2 idleReplies,
    .others "BE1" ⟨⟨false, some [("username", "u1")], none, ∅⟩, []⟩, .unlock 2 (.ok ()), .resume 2]

theorem unlock_honoured_twoButtons :
    ∃ w, unlocking.Reachable w ∧
      w.pulses = [⟨1, "BE2", "unlock_lock"⟩, ⟨0, "BE1", "gate_open"⟩] ∧
      (w.pulses.map (·.press)).Nodup ∧ ∀ q ∈ w.pulses, ∃ u ∈ w.unlocks, u.press = q.press ∧
        u.ok = true ∧ u.serial = q.serial ∧ q.sensor = sensorOf u.lockNo := by
  have hinit : unlocking.init freshButtons := ⟨rfl, rfl, rfl, rfl, rfl⟩
  obtain ⟨w, hw, hpulses⟩ : ∃ w, unlocking.Reachable w ∧
      w.pulses = [⟨1, "BE2", "unlock_lock"⟩, ⟨0, "BE1", "gate_open"⟩] :=
    ReachableUnder.of_replay twoButtons hinit (by decide)
  exact ⟨w, hw, hpulses, (unlock_honoured hw).2.1⟩

end EzvizHp7.Events
