import EzvizHp7.Setup.Entry

/-!
# The life of an entry

One entry in Home Assistant, through any sequence of setups, unloads and reloads. Home Assistant
sets up an entry only where none is loaded, runs what the entry has registered after an unload
that succeeded, and calls the update listeners when the options or the data have changed.
-/

namespace EzvizHp7.Setup

open Cloud (Exc Token Traced)
open Config (EntryData)
open Events (Snapshot)
open Relay (Prewarm)
open Transition System

/-- The state Home Assistant keeps of the entry; `forwarding` and `reloading` are the inside of a
setup while the platforms are set up, and the moment between the halves of a reload. -/
inductive Phase
  | notLoaded
  | setupRetry
  | setupError
  | reloading
  | forwarding
  | loaded
  | failedUnload
  deriving DecidableEq, Repr

structure World (T : Type) where
  data : EntryData
  options : Option String
  phase : Phase
  attempts : Nat
  record : Option (Record T)
  /-- The attempts whose `EzvizClient` was constructed and not closed. -/
  clients : List Nat
  /-- The attempts whose relay listens. -/
  listening : List Nat
  subscriptions : List (Subscription T)
  /-- The calls of `async_reload_entry` that wait. -/
  reloads : Nat
  prewarmed : List (Nat × T × Prewarm)
  /-- The feature codes and the tokens that the clients were constructed with. -/
  constructed : List (Option String × Option Token)

inductive Action (T : Type)
  | setup (s : SetupReplies T)
  | forwarded (ok : Bool)
  | unload (platformsOk : Bool) (logout : Except Exc Unit)
  /-- By the update listener or by the user. -/
  | reload (listener : Bool) (platformsOk : Bool) (logout : Except Exc Unit)
  | select (option : String)
  | optionsFlow (option : String)
  | coordinatorUpdate (data : Snapshot T)

/-- `api.close` of a client that was constructed returns. -/
def closes (logout : Except Exc Unit) : Bool :=
  match (Cloud.Hp7Api.close logout).run ⟨⟨true, none, none, ∅⟩, []⟩ with
  | .ok _ _ => true
  | .error _ _ => false

variable {T : Type}

def Subscription.isUpdateListener : Subscription T → Bool
  | .updateListener _ => true
  | _ => false

namespace World

def updateListeners (w : World T) : Nat := w.subscriptions.countP Subscription.isUpdateListener

/-- `async_update_entry` with other options. -/
def updateOptions (options : Option String) (w : World T) : World T :=
  if w.options = options then w
  else { w with options := options, reloads := w.reloads + w.updateListeners }

/-- What is there after a setup that came this far. -/
def cameTo (o : SetupOutcome T) (w : World T) : World T :=
  let w' :=
    { w with
      data := o.data
      attempts := w.attempts + 1
      clients := if o.client then w.clients ++ [w.attempts] else w.clients
      reloads := w.reloads + if o.data = w.data then 0 else w.updateListeners
      constructed := w.constructed ++ o.api.toList }
  match o.result with
  | .raises _ => { w' with phase := .setupError }
  | .notReady _ => { w' with phase := .setupRetry }
  | .stored r =>
    { w' with
      phase := .forwarding
      record := some r
      listening := if r.relay then w.listening ++ [r.attempt] else w.listening }

def setup (s : SetupReplies T) (w : World T) : World T :=
  w.cameTo (asyncSetupEntry w.attempts w.data w.options s)

/-- The platforms are set up, or one of them raised. -/
def forwarded (ok : Bool) (w : World T) : World T :=
  match ok, w.record with
  | true, some r =>
    { w with
      phase := .loaded
      subscriptions := w.subscriptions ++ r.installed r.data.lastAlarmTime }
  | _, _ => { w with phase := .setupError }

def popRecord (w : World T) : World T :=
  match w.record with
  | none => w
  | some r =>
    { w with
      record := none
      listening := w.listening.filter (· ≠ r.attempt)
      clients := w.clients.filter (· ≠ r.attempt) }

def asyncUnloadEntry (platformsOk : Bool) (logout : Except Exc Unit) (next : Phase)
    (w : World T) : World T :=
  if !platformsOk then { w with phase := .failedUnload }
  else if w.record.isSome && !closes logout then { w.popRecord with phase := .failedUnload }
  else { w.popRecord with phase := next, subscriptions := [] }

def reload (platformsOk : Bool) (logout : Except Exc Unit) (w : World T) : Option (World T) :=
  match w.phase with
  | .loaded => some (w.asyncUnloadEntry platformsOk logout .reloading)
  | .notLoaded | .setupRetry | .setupError => some { w with phase := .reloading }
  | .failedUnload => some w
  | .forwarding | .reloading => none

variable [DecidableEq T]

def coordinatorUpdate (data : Snapshot T) (w : World T) : World T :=
  { w with
    record := w.record.map fun r => { r with data := data }
    subscriptions := w.subscriptions.map fun s => (s.onUpdate data).1
    prewarmed := w.prewarmed ++ w.subscriptions.filterMap fun s => (s.onUpdate data).2 }

def step (a : Action T) (w : World T) : Option (World T) :=
  match a with
  | .setup s =>
    if s.tokenHex ≠ "" ∧ w.phase ∈ [.notLoaded, .setupRetry, .setupError, .reloading] then
      some (w.setup s)
    else none
  | .forwarded ok => if w.phase = .forwarding then some (w.forwarded ok) else none
  | .unload platformsOk logout =>
    if w.phase = .loaded then some (w.asyncUnloadEntry platformsOk logout .notLoaded) else none
  | .reload listener platformsOk logout =>
    if listener then
      if 0 < w.reloads then { w with reloads := w.reloads - 1 }.reload platformsOk logout else none
    else w.reload platformsOk logout
  | .select option =>
    if w.phase ∈ [.forwarding, .loaded] then
      match asyncSelectOption option w.options with
      | .ok (some option) => some (w.updateOptions (some option))
      | _ => some w
    else none
  | .optionsFlow option =>
    if option ∈ liveViewOptions then some (w.updateOptions (some option)) else none
  | .coordinatorUpdate data => some (w.coordinatorUpdate data)

end World

/-- A setup that gave up after it had constructed its client, or whose platforms raised. -/
inductive Mishap
  | notReady (attempt : Nat)
  | notForwarded (attempt : Nat) (relay : Bool)
  deriving DecidableEq, Repr

structure History where
  mishaps : List Mishap
  /-- The options have changed since the last setup read them and before it listened for that. -/
  changedLate : Bool
  /-- The setup that was loaded last, and whether it has a relay. -/
  lastLoaded : Option (Nat × Bool)
  deriving DecidableEq, Repr

/-- The setup that the record is of, and whether it has a relay. -/
def World.owner (w : World T) : Option (Nat × Bool) := w.record.map fun r => (r.attempt, r.relay)

def World.loads (w : World T) (last : Option (Nat × Bool)) : Action T → Option (Nat × Bool)
  | .forwarded true => w.owner
  | _ => last

def SetupOutcome.mishap (attempt : Nat) : SetupOutcome T → Option Mishap
  | ⟨_, _, true, .notReady _⟩ => some (.notReady attempt)
  | _ => none

def World.mishap (w : World T) : Action T → Option Mishap
  | .setup s => (asyncSetupEntry w.attempts w.data w.options s).mishap w.attempts
  | .forwarded false => w.record.map fun r => .notForwarded r.attempt r.relay
  | _ => none

def note (w : World T) (a : Action T) (w' : World T) (h : History) : History where
  mishaps := h.mishaps ++ (w.mishap a).toList
  changedLate :=
    match a with
    | .setup _ => false
    | .select _ | .optionsFlow _ =>
      h.changedLate || (w.phase = .forwarding && w'.options ≠ w.options : Bool)
    | _ => h.changedLate
  lastLoaded := w.loads h.lastLoaded a

/-- An entry that Home Assistant has just loaded from its storage. -/
def entry (T : Type) [DecidableEq T] : Transition.System (World T × History) (Action T) :=
  System.recording
    { init := fun w => w.phase = .notLoaded ∧ w.record = none ∧ w.clients = [] ∧
        w.listening = [] ∧ w.subscriptions = [] ∧ w.reloads = 0 ∧ w.prewarmed = [] ∧
        w.constructed = [] ∧ currentOption w.options ∈ liveViewOptions
      step := World.step }
    ⟨[], false, none⟩ note

def Phase.Idle (p : Phase) : Prop := p ∈ [.notLoaded, .setupRetry, .setupError, .reloading]

theorem Phase.Idle.ne {p : Phase} (h : p.Idle) : p ≠ .forwarding ∧ p ≠ .loaded := by
  constructor <;> rintro rfl <;> simp [Phase.Idle] at h

/-- Nothing is registered but by the setup that is loaded, or by the one that was loaded last where
it could not be unloaded. -/
def World.Registered (w : World T) (last : Option (Nat × Bool)) : Prop :=
  match w.phase with
  | .loaded => ∃ r alarmTime, w.record = some r ∧ last = some (r.attempt, r.relay) ∧
      w.subscriptions = r.installed alarmTime
  | .failedUnload => ∃ r alarmTime, last = some (r.attempt, r.relay) ∧
      w.subscriptions = Record.installed r alarmTime
  | _ => w.subscriptions = []

theorem Phase.Idle.registered {w : World T} (hidle : w.phase.Idle) (last : Option (Nat × Bool)) :
    w.Registered last ↔ w.subscriptions = [] := by
  simp only [Phase.Idle, List.mem_cons, List.not_mem_nil, or_false] at hidle
  rcases hidle with hphase | hphase | hphase | hphase <;> simp [World.Registered, hphase]

private theorem setup_world (w : World T) (s : SetupReplies T) :
    (w.setup s).subscriptions = w.subscriptions ∧
      ((w.setup s).phase = .setupError ∨ (w.setup s).phase = .setupRetry ∨
        (w.setup s).phase = .forwarding) := by
  unfold World.setup World.cameTo
  dsimp only
  split
  · exact ⟨rfl, .inl rfl⟩
  · exact ⟨rfl, .inr (.inl rfl)⟩
  · exact ⟨rfl, .inr (.inr rfl)⟩

def Mishap.attempt : Mishap → Nat
  | .notReady attempt => attempt
  | .notForwarded attempt _ => attempt

def Phase.Busy (p : Phase) : Prop := p ∈ [.forwarding, .loaded, .failedUnload]

theorem Phase.busy_or_idle (p : Phase) : p.Busy ↔ ¬p.Idle := by
  cases p <;> simp [Phase.Busy, Phase.Idle]

theorem SetupOutcome.mishap_notReady (attempt : Nat) (data : EntryData)
    (api : Option (Option String × Option Token)) (client : Bool) (message : String) :
    (SetupOutcome.mishap attempt (T := T) ⟨data, api, client, .notReady message⟩).toList =
      if client then [.notReady attempt] else [] := by
  cases client <;> rfl

namespace World

theorem forwarded_true {w : World T} {r : Record T} (h : w.record = some r) :
    w.forwarded true =
      { w with
        phase := .loaded
        subscriptions := w.subscriptions ++ r.installed r.data.lastAlarmTime } := by
  simp [forwarded, h]

private theorem owner_ne_iff {w : World T} {r : Record T} (h : w.record = some r) (n : Nat) :
    (∀ relay, w.owner ≠ some (n, relay)) ↔ n ≠ r.attempt := by
  simp only [owner, h, Option.map_some, ne_eq, Option.some.injEq, Prod.mk.injEq, not_and]
  constructor
  · intro hne hn
    exact hne r.relay hn.symm rfl
  · intro hne relay hn
    exact absurd hn.symm hne

@[simp] theorem popRecord_attempts (w : World T) : w.popRecord.attempts = w.attempts := by
  unfold popRecord
  split <;> rfl

@[simp] theorem popRecord_owner (w : World T) : w.popRecord.owner = none := by
  cases hrecord : w.record with
  | none => simp [popRecord, owner, hrecord]
  | some r => simp [popRecord, owner, hrecord]

private theorem popRecord_listening (w : World T) (n : Nat) : n ∈ w.popRecord.listening ↔
    n ∈ w.listening ∧ ∀ relay, w.owner ≠ some (n, relay) := by
  cases hrecord : w.record with
  | none => simp [popRecord, owner, hrecord]
  | some r =>
    rw [owner_ne_iff hrecord]
    simp [popRecord, hrecord]

private theorem popRecord_clients (w : World T) (n : Nat) : n ∈ w.popRecord.clients ↔
    n ∈ w.clients ∧ ∀ relay, w.owner ≠ some (n, relay) := by
  cases hrecord : w.record with
  | none => simp [popRecord, owner, hrecord]
  | some r =>
    rw [owner_ne_iff hrecord]
    simp [popRecord, hrecord]

end World

/-- The relays that listen and the clients that are not closed are those of the record and of the
setups that went wrong. -/
structure Accounted (w : World T) (mishaps : List Mishap) : Prop where
  past : ∀ m ∈ mishaps, m.attempt < w.attempts
  current : ∀ o ∈ w.owner, o.1 < w.attempts
  present : w.phase = .forwarding ∨ w.phase = .loaded → w.owner.isSome
  fresh : w.phase.Busy → ∀ o ∈ w.owner, ∀ m ∈ mishaps, m.attempt ≠ o.1
  stale : w.phase.Idle → ∀ o ∈ w.owner, .notForwarded o.1 o.2 ∈ mishaps
  listening : ∀ n, n ∈ w.listening ↔ .notForwarded n true ∈ mishaps ∨ w.owner = some (n, true)
  clients : ∀ n, n ∈ w.clients ↔
    (∃ m ∈ mishaps, m.attempt = n) ∨ ∃ relay, w.owner = some (n, relay)

namespace Accounted

variable {w w' : World T} {mishaps : List Mishap}

theorem relabel (h : Accounted w mishaps) (hattempts : w'.attempts = w.attempts)
    (howner : w'.owner = w.owner) (hlistening : w'.listening = w.listening)
    (hclients : w'.clients = w.clients)
    (hpresent : w'.phase = .forwarding ∨ w'.phase = .loaded → w.owner.isSome)
    (hside : w.owner.isSome → (w'.phase.Idle ↔ w.phase.Idle)) : Accounted w' mishaps := by
  constructor
  · simpa [hattempts] using h.past
  · simpa [hattempts, howner] using h.current
  · simpa [howner] using hpresent
  · intro hbusy o ho
    rw [howner] at ho
    have hsome : w.owner.isSome := Option.isSome_of_mem ho
    refine h.fresh ?_ o ho
    rw [Phase.busy_or_idle] at hbusy ⊢
    rwa [← hside hsome]
  · intro hidle o ho
    rw [howner] at ho
    have hsome : w.owner.isSome := Option.isSome_of_mem ho
    exact h.stale ((hside hsome).1 hidle) o ho
  · simpa [hlistening, howner] using h.listening
  · simpa [hclients, howner] using h.clients

theorem congr (h : Accounted w mishaps) (hattempts : w'.attempts = w.attempts)
    (howner : w'.owner = w.owner) (hlistening : w'.listening = w.listening)
    (hclients : w'.clients = w.clients) (hphase : w'.phase = w.phase) : Accounted w' mishaps := by
  apply h.relabel hattempts howner hlistening hclients
  · rw [hphase]
    exact h.present
  · intro _
    rw [hphase]

theorem gaveUp (h : Accounted w mishaps) (hidle : w.phase.Idle) (hphase : w'.phase.Idle)
    (hattempts : w'.attempts = w.attempts + 1) (howner : w'.owner = w.owner)
    (hlistening : w'.listening = w.listening) (client : Bool)
    (hclients : w'.clients = if client then w.clients ++ [w.attempts] else w.clients) :
    Accounted w' (mishaps ++ if client then [.notReady w.attempts] else []) := by
  have hnew : ∀ m ∈ (if client then [Mishap.notReady w.attempts] else []),
      m = .notReady w.attempts := by
    cases client <;> simp
  constructor
  · intro m hm
    rcases List.mem_append.1 hm with hm | hm
    · exact hattempts ▸ Nat.lt_succ_of_lt (h.past m hm)
    · rw [hnew m hm, hattempts]
      exact Nat.lt_succ_self _
  · intro o ho
    exact hattempts ▸ Nat.lt_succ_of_lt (h.current o (howner ▸ ho))
  · rintro (hforwarding | hloaded)
    · simp [Phase.Idle, hforwarding] at hphase
    · simp [Phase.Idle, hloaded] at hphase
  · exact fun hbusy => absurd hphase (w'.phase.busy_or_idle.1 hbusy)
  · intro _ o ho
    exact List.mem_append_left _ (h.stale hidle o (howner ▸ ho))
  · intro n
    rw [hlistening, howner, h.listening]
    cases client <;> simp
  · intro n
    rw [hclients, howner]
    cases client with
    | false => simpa using h.clients n
    | true =>
      simp only [if_true, List.mem_append, List.mem_singleton, h.clients]
      constructor
      · rintro ((⟨m, hm, hn⟩ | howned) | rfl)
        · exact .inl ⟨m, .inl hm, hn⟩
        · exact .inr howned
        · exact .inl ⟨_, .inr rfl, rfl⟩
      · rintro (⟨m, hm | rfl, hn⟩ | howned)
        · exact .inl (.inl ⟨m, hm, hn⟩)
        · exact .inr hn.symm
        · exact .inl (.inr howned)

/-- A setup that got to the platforms; what the old record was of is among the mishaps. -/
theorem stored (h : Accounted w mishaps) (hidle : w.phase.Idle) (relay : Bool)
    (hphase : w'.phase = .forwarding) (hattempts : w'.attempts = w.attempts + 1)
    (howner : w'.owner = some (w.attempts, relay))
    (hlistening : w'.listening = if relay then w.listening ++ [w.attempts] else w.listening)
    (hclients : w'.clients = w.clients ++ [w.attempts]) : Accounted w' mishaps := by
  constructor
  · intro m hm
    exact hattempts ▸ Nat.lt_succ_of_lt (h.past m hm)
  · intro o ho
    obtain rfl : (w.attempts, relay) = o := Option.some.inj (howner.symm.trans ho)
    rw [hattempts]
    exact Nat.lt_succ_self _
  · intro _
    rw [howner]
    rfl
  · intro _ o ho m hm
    obtain rfl : (w.attempts, relay) = o := Option.some.inj (howner.symm.trans ho)
    exact (h.past m hm).ne
  · intro hidle'
    simp [Phase.Idle, hphase] at hidle'
  · intro n
    have hold : w.owner = some (n, true) → .notForwarded n true ∈ mishaps :=
      fun hn => h.stale hidle (n, true) hn
    rw [hlistening, howner]
    cases relay with
    | false => simpa using (h.listening n).trans (or_iff_left_of_imp hold)
    | true =>
      simp only [if_true, List.mem_append, List.mem_singleton, h.listening,
        or_iff_left_of_imp hold, Option.some.injEq, Prod.mk.injEq, and_true]
      exact or_congr_right eq_comm
  · intro n
    have hold : (∃ relay, w.owner = some (n, relay)) → ∃ m ∈ mishaps, m.attempt = n := by
      intro hn
      obtain ⟨relay, hn⟩ := hn
      exact ⟨_, h.stale hidle (n, relay) hn, rfl⟩
    rw [hclients, howner]
    simp only [List.mem_append, List.mem_singleton, h.clients, or_iff_left_of_imp hold,
      Option.some.injEq, Prod.mk.injEq, exists_and_left, exists_eq', and_true]
    exact or_congr_right eq_comm

theorem setup (h : Accounted w mishaps) (hidle : w.phase.Idle) (s : SetupReplies T) :
    Accounted (w.setup s) (mishaps ++ (w.mishap (.setup s)).toList) := by
  have hsetUp := asyncSetupEntry_setUp w.attempts w.data w.options s
  simp only [World.setup, World.mishap]
  generalize asyncSetupEntry w.attempts w.data w.options s = outcome at hsetUp ⊢
  cases hsetUp with
  | raises exc harguments =>
    refine h.gaveUp hidle ?_ ?_ ?_ ?_ false ?_
    · simp [Phase.Idle, World.cameTo]
    · rfl
    · rfl
    · rfl
    · rfl
  | notReady client message hdata =>
    rw [SetupOutcome.mishap_notReady]
    refine h.gaveUp hidle ?_ ?_ ?_ ?_ client ?_
    · simp [Phase.Idle, World.cameTo]
    · rfl
    · rfl
    · rfl
    · rfl
  | stores r hdata hattempt hmode hcode hfirst =>
    simp only [SetupOutcome.mishap, Option.toList_none, List.append_nil]
    apply h.stored hidle r.relay
    · rfl
    · rfl
    · simp [World.cameTo, World.owner, hattempt]
    · simp [World.cameTo, hattempt]
    · rfl

theorem forwarded (h : Accounted w mishaps) (hphase : w.phase = .forwarding) (ok : Bool) :
    Accounted (w.forwarded ok) (mishaps ++ (w.mishap (.forwarded ok)).toList) := by
  have hpresent := h.present (.inl hphase)
  obtain ⟨r, hrecord⟩ : ∃ r, w.record = some r := by
    simpa [World.owner, Option.isSome_iff_exists] using hpresent
  have howner : w.owner = some (r.attempt, r.relay) := by simp [World.owner, hrecord]
  cases ok with
  | true =>
    rw [World.forwarded_true hrecord]
    simp only [World.mishap, Option.toList_none, List.append_nil]
    apply h.relabel
    · rfl
    · rfl
    · rfl
    · rfl
    · exact fun _ => hpresent
    · simp [Phase.Idle, hphase]
  | false =>
    have hmishap : w.mishap (.forwarded false) = some (.notForwarded r.attempt r.relay) := by
      simp [World.mishap, hrecord]
    rw [hmishap]
    show Accounted { w with phase := .setupError } (mishaps ++ [_])
    constructor
    · intro m hm
      rcases List.mem_append.1 hm with hm | hm
      · exact h.past m hm
      · rw [List.mem_singleton.1 hm]
        exact h.current _ howner
    · exact h.current
    · simp
    · simp [Phase.Busy]
    · intro _ o ho
      obtain rfl : (r.attempt, r.relay) = o := Option.some.inj (howner.symm.trans ho)
      simp
    · intro n
      refine (h.listening n).trans ?_
      show _ ↔ _ ∨ w.owner = _
      rw [howner]
      simp only [List.mem_append, List.mem_singleton, Mishap.notForwarded.injEq,
        Option.some.injEq, Prod.mk.injEq]
      constructor
      · rintro (hm | hn)
        · exact .inl (.inl hm)
        · exact .inr hn
      · rintro ((hm | ⟨hn, hrelay⟩) | hn)
        · exact .inl hm
        · exact .inr ⟨hn.symm, hrelay.symm⟩
        · exact .inr hn
    · intro n
      refine (h.clients n).trans ?_
      show _ ↔ _ ∨ ∃ relay, w.owner = _
      rw [howner]
      simp only [List.mem_append, List.mem_singleton, Option.some.injEq, Prod.mk.injEq,
        exists_and_left, exists_eq', and_true]
      constructor
      · rintro (⟨m, hm, hn⟩ | hn)
        · exact .inl ⟨m, .inl hm, hn⟩
        · exact .inr hn
      · rintro (⟨m, hm | rfl, hn⟩ | hn)
        · exact .inl ⟨m, hm, hn⟩
        · exact .inr hn
        · exact .inr hn

theorem popRecord (h : Accounted w mishaps) (hbusy : w.phase.Busy)
    (hattempts : w'.attempts = w.attempts) (howner : w'.owner = none)
    (hlistening : w'.listening = w.popRecord.listening)
    (hclients : w'.clients = w.popRecord.clients)
    (hphase : w'.phase ≠ .forwarding ∧ w'.phase ≠ .loaded) : Accounted w' mishaps := by
  have hlost : ∀ n, (.notForwarded n true ∈ mishaps ∨ w.owner = some (n, true)) ∧
      (∀ relay, w.owner ≠ some (n, relay)) ↔ .notForwarded n true ∈ mishaps := by
    intro n
    constructor
    · rintro ⟨hm | hn, hne⟩
      · exact hm
      · exact absurd hn (hne true)
    · exact fun hm => ⟨.inl hm, fun relay hn => h.fresh hbusy _ hn _ hm rfl⟩
  have hleft : ∀ n, ((∃ m ∈ mishaps, m.attempt = n) ∨ ∃ relay, w.owner = some (n, relay)) ∧
      (∀ relay, w.owner ≠ some (n, relay)) ↔ ∃ m ∈ mishaps, m.attempt = n := by
    intro n
    constructor
    · rintro ⟨hm | ⟨relay, hn⟩, hne⟩
      · exact hm
      · exact absurd hn (hne relay)
    · rintro ⟨m, hm, rfl⟩
      exact ⟨.inl ⟨m, hm, rfl⟩, fun relay hn => h.fresh hbusy _ hn m hm rfl⟩
  constructor
  · simpa [hattempts] using h.past
  · simp [howner]
  · rintro (hforwarding | hloaded)
    · exact absurd hforwarding hphase.1
    · exact absurd hloaded hphase.2
  · simp [howner]
  · simp [howner]
  · intro n
    rw [hlistening, howner, w.popRecord_listening, h.listening, hlost]
    simp
  · intro n
    rw [hclients, howner, w.popRecord_clients, h.clients, hleft]
    simp

end Accounted

def Action.manages : Action T → Bool
  | .unload _ _ | .reload _ _ _ | .select _ | .optionsFlow _ => true
  | .setup _ | .forwarded _ | .coordinatorUpdate _ => false

private theorem World.mishap_of_manages {a : Action T} (h : a.manages = true) (w : World T) :
    w.mishap a = none := by
  cases a <;> first | rfl | simp [Action.manages] at h

private theorem World.loads_of_manages {a : Action T} (h : a.manages = true) (w : World T)
    (last : Option (Nat × Bool)) : w.loads last a = last := by
  cases a <;> first | rfl | simp [Action.manages] at h

def World.withReloads (w : World T) (n : Nat) : World T := { w with reloads := n }

variable [DecidableEq T]

/-- Everything a step can do. -/
inductive Stepped (w : World T) : Action T → World T → Prop
  | setsUp (s : SetupReplies T) (hcode : s.tokenHex ≠ "") (hidle : w.phase.Idle) :
      Stepped w (.setup s) (w.setup s)
  | forwards (ok : Bool) (hphase : w.phase = .forwarding) :
      Stepped w (.forwarded ok) (w.forwarded ok)
  | unloads (a : Action T) (hmanages : a.manages = true) (hphase : w.phase = .loaded) (n : Nat)
      (platformsOk : Bool) (logout : Except Exc Unit) (next : Phase) (hnext : next.Idle) :
      Stepped w a ((w.withReloads n).asyncUnloadEntry platformsOk logout next)
  | reloads (a : Action T) (hmanages : a.manages = true) (hidle : w.phase.Idle) (n : Nat) :
      Stepped w a { w.withReloads n with phase := .reloading }
  | refuses (a : Action T) (hmanages : a.manages = true) (hphase : w.phase = .failedUnload)
      (n : Nat) : Stepped w a (w.withReloads n)
  | changes (a : Action T) (hmanages : a.manages = true)
      (ha : (∃ option, a = .select option) ∨ ∃ option, a = .optionsFlow option)
      (option : String) (hoption : option ∈ liveViewOptions) :
      Stepped w a (w.updateOptions (some option))
  | stays (option : String) : Stepped w (.select option) w
  | updates (data : Snapshot T) : Stepped w (.coordinatorUpdate data) (w.coordinatorUpdate data)

private theorem asyncSelectOption_ok {option : String} {options : Option String} {new : String}
    (h : asyncSelectOption option options = .ok (some new)) : new ∈ liveViewOptions := by
  unfold asyncSelectOption at h
  split at h
  · cases h
  · rename_i hmem
    split at h
    · cases h
    · cases h
      exact not_not.1 hmem

private theorem reload_stepped {w w' : World T} {a : Action T} (hmanages : a.manages = true)
    (n : Nat) {platformsOk : Bool} {logout : Except Exc Unit}
    (h : (w.withReloads n).reload platformsOk logout = some w') : Stepped w a w' := by
  have hsame : (w.withReloads n).phase = w.phase := rfl
  unfold World.reload at h
  rw [hsame] at h
  split at h
  · rename_i hphase
    cases h
    exact .unloads a hmanages hphase n platformsOk logout .reloading (by simp [Phase.Idle])
  · rename_i hphase
    cases h
    exact .reloads a hmanages (by simp [Phase.Idle, hphase]) n
  · rename_i hphase
    cases h
    exact .reloads a hmanages (by simp [Phase.Idle, hphase]) n
  · rename_i hphase
    cases h
    exact .reloads a hmanages (by simp [Phase.Idle, hphase]) n
  · rename_i hphase
    cases h
    exact .refuses a hmanages hphase n
  · cases h
  · cases h

private theorem step_stepped {w w' : World T} {a : Action T} (h : w.step a = some w') :
    Stepped w a w' := by
  cases a with
  | setup s =>
    simp only [World.step] at h
    split at h
    · rename_i hguard
      cases h
      exact .setsUp s hguard.1 hguard.2
    · cases h
  | forwarded ok =>
    simp only [World.step] at h
    split at h
    · rename_i hphase
      cases h
      exact .forwards ok hphase
    · cases h
  | unload platformsOk logout =>
    simp only [World.step] at h
    split at h
    · rename_i hphase
      cases h
      exact .unloads _ rfl hphase w.reloads platformsOk logout .notLoaded (by simp [Phase.Idle])
    · cases h
  | reload listener platformsOk logout =>
    simp only [World.step] at h
    split at h
    · split at h
      · exact reload_stepped rfl (w.reloads - 1) h
      · cases h
    · exact reload_stepped rfl w.reloads h
  | select option =>
    simp only [World.step] at h
    split at h
    · split at h
      · rename_i new hselected
        cases h
        exact .changes _ rfl (.inl ⟨_, rfl⟩) new (asyncSelectOption_ok hselected)
      · cases h
        exact .stays option
    · cases h
  | optionsFlow option =>
    simp only [World.step] at h
    split at h
    · rename_i hoption
      cases h
      exact .changes _ rfl (.inr ⟨_, rfl⟩) option hoption
    · cases h
  | coordinatorUpdate data =>
    cases h
    exact .updates data

theorem onUpdate_installed (r : Record T) (alarmTime : Option T) (data : Snapshot T) :
    (r.installed alarmTime).map (fun s => (s.onUpdate data).1) =
      r.installed (Events.onUpdate data alarmTime).2 := by
  cases hrelay : r.relay <;> simp [Record.installed, Subscription.onUpdate, hrelay]

theorem World.Registered.step {w w' : World T} {a : Action T} {last : Option (Nat × Bool)}
    (h : w.Registered last) (hstepped : Stepped w a w') : w'.Registered (w.loads last a) := by
  cases hstepped with
  | setsUp s hcode hidle =>
    obtain ⟨hsubscriptions, hphase⟩ := setup_world w s
    rw [hidle.registered] at h
    rw [h] at hsubscriptions
    change (w.setup s).Registered last
    rcases hphase with hphase | hphase | hphase <;>
      simp [World.Registered, hphase, hsubscriptions]
  | forwards ok hphase =>
    simp only [World.Registered, hphase] at h
    unfold World.forwarded
    split
    · rename_i r hrecord
      refine ⟨r, r.data.lastAlarmTime, hrecord, ?_, by simp [h]⟩
      simp [World.loads, World.owner, hrecord]
    · simp [World.Registered, h]
  | unloads a hmanages hphase n platformsOk logout next hnext =>
    rw [w.loads_of_manages hmanages]
    simp only [World.Registered, hphase] at h
    obtain ⟨r, alarmTime, hrecord, hlast, hsubscriptions⟩ := h
    unfold World.asyncUnloadEntry
    split
    · exact ⟨r, alarmTime, hlast, hsubscriptions⟩
    · split
      · refine ⟨r, alarmTime, hlast, ?_⟩
        simp [World.popRecord, World.withReloads, hrecord, hsubscriptions]
      · rw [Phase.Idle.registered hnext]
  | reloads a hmanages hidle n =>
    rw [hidle.registered] at h
    exact h
  | refuses a hmanages hphase n =>
    rw [w.loads_of_manages hmanages]
    simp only [World.Registered, hphase] at h
    simp only [World.Registered, World.withReloads, hphase]
    exact h
  | changes a hmanages ha option hoption =>
    rw [w.loads_of_manages hmanages]
    unfold World.updateOptions
    split
    · exact h
    · exact h
  | stays option => exact h
  | updates data =>
    change (w.coordinatorUpdate data).Registered last
    unfold World.Registered at h ⊢
    cases hphase : w.phase with
    | loaded =>
      rw [hphase] at h
      obtain ⟨r, alarmTime, hrecord, hlast, hsubscriptions⟩ := h
      simp only [World.coordinatorUpdate, hphase]
      refine ⟨{ r with data := data }, (Events.onUpdate data alarmTime).2, ?_, hlast, ?_⟩
      · rw [hrecord]
        rfl
      · rw [hsubscriptions]
        exact onUpdate_installed r alarmTime data
    | failedUnload =>
      rw [hphase] at h
      obtain ⟨r, alarmTime, hlast, hsubscriptions⟩ := h
      simp only [World.coordinatorUpdate, hphase]
      exact ⟨r, _, hlast, by rw [hsubscriptions]; exact onUpdate_installed r alarmTime data⟩
    | notLoaded | setupRetry | setupError | reloading | forwarding =>
      rw [hphase] at h
      simp only [World.coordinatorUpdate, hphase]
      rw [h]
      rfl

/-- A step adds the mishap that it is to those before. -/
theorem Accounted.step {w w' : World T} {mishaps : List Mishap} {a : Action T}
    (h : Accounted w mishaps) (hstepped : Stepped w a w') :
    Accounted w' (mishaps ++ (w.mishap a).toList) := by
  cases hstepped with
  | setsUp s hcode hidle => exact h.setup hidle s
  | forwards ok hphase => exact h.forwarded hphase ok
  | unloads a hmanages hphase n platformsOk logout next hnext =>
    rw [w.mishap_of_manages hmanages, Option.toList_none, List.append_nil]
    have h : Accounted (w.withReloads n) mishaps := h.congr rfl rfl rfl rfl rfl
    have hbusy : (w.withReloads n).phase.Busy := by simp [Phase.Busy, World.withReloads, hphase]
    unfold World.asyncUnloadEntry
    split
    · apply h.relabel
      · rfl
      · rfl
      · rfl
      · rfl
      · simp
      · simp [Phase.Idle, World.withReloads, hphase]
    · split
      · apply h.popRecord hbusy
        · exact World.popRecord_attempts _
        · exact World.popRecord_owner _
        · rfl
        · rfl
        · simp
      · apply h.popRecord hbusy
        · exact World.popRecord_attempts _
        · exact World.popRecord_owner _
        · rfl
        · rfl
        · exact hnext.ne
  | reloads a hmanages hidle n =>
    rw [w.mishap_of_manages hmanages, Option.toList_none, List.append_nil]
    apply h.relabel
    · rfl
    · rfl
    · rfl
    · rfl
    · simp
    · exact fun _ => iff_of_true (by simp [Phase.Idle]) hidle
  | refuses a hmanages hphase n =>
    rw [w.mishap_of_manages hmanages, Option.toList_none, List.append_nil]
    exact h.congr rfl rfl rfl rfl rfl
  | changes a hmanages ha option hoption =>
    rw [w.mishap_of_manages hmanages, Option.toList_none, List.append_nil]
    unfold World.updateOptions
    split
    · exact h
    · exact h.congr rfl rfl rfl rfl rfl
  | stays option =>
    simpa [World.mishap] using h
  | updates data =>
    simp only [World.mishap, Option.toList_none, List.append_nil]
    apply h.congr
    · rfl
    · simp [World.coordinatorUpdate, World.owner, Function.comp_def]
    · rfl
    · rfl
    · rfl

theorem entry_stepped {s s' : World T × History} {a : Action T}
    (h : (entry T).step a s = some s') :
    Stepped s.1 a s'.1 ∧ s'.2 = note s.1 a s'.1 s.2 :=
  (recording_step.1 h).imp_left step_stepped

theorem kept {s : World T × History} (h : (entry T).Reachable s) :
    s.1.Registered s.2.lastLoaded ∧ Accounted s.1 s.2.mishaps := by
  refine ReachableUnder.invariant
    (P := fun s => s.1.Registered s.2.lastLoaded ∧ Accounted s.1 s.2.mishaps) ?_ ?_ h
  · intro s ⟨⟨hphase, hrecord, hclients, hlistening, hsubscriptions, _⟩, hpast⟩
    constructor
    · simp [World.Registered, hphase, hsubscriptions]
    · constructor <;> simp [World.owner, hpast, hphase, hrecord, hclients, hlistening]
  · intro s a s' _ hs _ hstep
    obtain ⟨hstepped, hnote⟩ := entry_stepped hstep
    rw [hnote]
    exact ⟨hs.1.step hstepped, hs.2.step hstepped⟩

/-- After any setups, unloads and reloads there is one update listener, one timer for the key and
one for the summary, and one pre-warm listener where there is a relay, all of the setup that is
loaded, or of the one that failed to unload; otherwise there is nothing. -/
theorem entry_registered {s : World T × History} (h : (entry T).Reachable s) :
    s.1.Registered s.2.lastLoaded :=
  (kept h).1

/-- The relays that listen and the clients that are not closed after a run are those of the entry's
record, and those of exactly the setups that gave up with a client or whose platforms raised:
nothing ever closes these. -/
theorem entry_accounted {s : World T × History} (h : (entry T).Reachable s) :
    (∀ n, n ∈ s.1.listening ↔
        .notForwarded n true ∈ s.2.mishaps ∨ s.1.owner = some (n, true)) ∧
      ∀ n, n ∈ s.1.clients ↔
        (∃ m ∈ s.2.mishaps, m.attempt = n) ∨ ∃ relay, s.1.owner = some (n, relay) :=
  ⟨(kept h).2.listening, (kept h).2.clients⟩

def doorbellEntry : EntryData :=
  ⟨{ Config.filledIn with featureCode := some "c0" }, "BE1234567-CAM"⟩

def answered (firstRefresh : Except Exc (Snapshot String)) : SetupReplies String where
  tokenHex := "c1"
  cloud := Config.accepted
  getDeviceInfos _ := .ok (.dict [("deviceSubCategory", .str "CP7")])
  firstRefresh := firstRefresh
  relayStart := .ok ()

def noAlarm : Snapshot String := ⟨none, none, none⟩

def freshEntry (T : Type) (data : EntryData) : World T where
  data := data
  options := none
  phase := .notLoaded
  attempts := 0
  record := none
  clients := []
  listening := []
  subscriptions := []
  reloads := 0
  prewarmed := []
  constructed := []

theorem freshEntry_init (data : EntryData) :
    (entry String).init (freshEntry String data, ⟨[], false, none⟩) := by
  refine ⟨⟨rfl, rfl, rfl, rfl, rfl, rfl, rfl, rfl, ?_⟩, rfl⟩
  simp [currentOption, freshEntry, defaultLiveViewMode, liveViewOptions]

/-- The first setup cannot refresh, the platforms of the second raise, and the third is loaded and
reloaded. -/
def unluckyRun : List (Action String) :=
  [.setup (answered (.error ⟨[.runtimeError], "no alarms"⟩)),
    .setup (answered (.ok noAlarm)), .forwarded false,
    .reload false true (.ok ()), .setup (answered (.ok noAlarm)), .forwarded true,
    .reload false true (.ok ()), .setup (answered (.ok noAlarm)), .forwarded true]

theorem entry_registered_unluckyRun :
    ∃ s, (entry String).Reachable s ∧ s.1.phase = .loaded ∧ s.2.lastLoaded = some (3, true) ∧
      s.1.Registered s.2.lastLoaded := by
  obtain ⟨s, hs, hphase, hlast⟩ : ∃ s, (entry String).Reachable s ∧ s.1.phase = .loaded ∧
      s.2.lastLoaded = some (3, true) :=
    ReachableUnder.of_replay unluckyRun (freshEntry_init doorbellEntry) (by decide)
  exact ⟨s, hs, hphase, hlast, entry_registered hs⟩

/-- The client of the first setup and the second setup's client and relay are never closed. -/
theorem entry_accounted_unluckyRun :
    ∃ s, (entry String).Reachable s ∧ s.1.clients = [0, 1, 3] ∧ s.1.listening = [1, 3] ∧
      ∀ n, n ∈ s.1.listening ↔
        .notForwarded n true ∈ s.2.mishaps ∨ s.1.owner = some (n, true) := by
  obtain ⟨s, hs, hclients, hlistening⟩ :
      ∃ s, (entry String).Reachable s ∧ s.1.clients = [0, 1, 3] ∧ s.1.listening = [1, 3] :=
    ReachableUnder.of_replay unluckyRun (freshEntry_init doorbellEntry) (by decide)
  exact ⟨s, hs, hclients, hlistening, (entry_accounted hs).1⟩

end EzvizHp7.Setup
