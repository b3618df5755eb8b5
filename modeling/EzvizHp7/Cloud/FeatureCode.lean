import EzvizHp7.Library.LastWrite
import EzvizHp7.Library.Transition

/-!
# The feature codes of several clients

All instances of `Hp7Api` in one process share the module `pyezvizapi.client`. An instance installs
its own feature code by overwriting the module's `FEATURE_CODE` and `REQUEST_HEADER`, before it
constructs its `EzvizClient`; the session copies the header then, and every login reads
`FEATURE_CODE` anew. The calls run on executor threads, so each access to the module and each
request to the cloud is a step of its own.
-/

namespace EzvizHp7.Cloud.FeatureCode

open Transition System

abbrev InstanceId := Nat
abbrev ThreadId := Nat

inductive After
  | returns
  | fetches
  deriving DecidableEq, Repr

/-- Where a call stands, by the step it takes next. -/
inductive Pc
  | applyingCode (k : After)
  | applyingHeader (k : After)
  | constructing (k : After)
  | checkingToken (k : After)
  | loggingIn (k : After)
  | refreshing
  | asking
  | reloggingIn
  | askingAgain
  | loggingOut
  deriving DecidableEq, Repr

inductive Call
  | ensureClient
  | login
  /-- The cache is left open; a young enough entry is returned at once. -/
  | fetchLanAesKey (hit : Bool)
  | close
  deriving DecidableEq, Repr

/-- How a construction or a request ends: with a token that is or is not empty, or with an error
that the step's own handler catches or not. -/
inductive Reply
  | ok (token : Bool)
  | fails (caught : Bool)
  deriving DecidableEq, Repr

structure World where
  /-- `pyezvizapi.client.FEATURE_CODE`. -/
  featureCode : String
  /-- `pyezvizapi.client.REQUEST_HEADER["featureCode"]`. -/
  requestHeader : String
  /-- The header in the session of an instance's `_client`. -/
  client : InstanceId → Option String
  /-- An instance's `_token` is not empty. -/
  token : InstanceId → Bool
  thread : ThreadId → Option (InstanceId × Pc)

inductive Action
  | call (t : ThreadId) (i : InstanceId) (c : Call)
  | resume (t : ThreadId) (reply : Reply)
  deriving DecidableEq, Repr

section Steps

variable (codes : InstanceId → Option String)

/-- `_apply_feature_code` does nothing without a code. -/
def code? (i : InstanceId) : Option String := (codes i).filter (· ≠ "")

def After.next : After → Option Pc
  | .returns => none
  | .fetches => some .refreshing

def World.begin (i : InstanceId) (k : After) (w : World) : Option Pc :=
  match w.client i with
  | some _ => k.next
  | none => some (if (code? codes i).isSome then .applyingCode k else .constructing k)

def World.start (i : InstanceId) (c : Call) (w : World) : Option Pc :=
  match c with
  | .ensureClient | .login => w.begin codes i .returns
  | .fetchLanAesKey hit => if hit then none else w.begin codes i .fetches
  | .close => (w.client i).map fun _ => .loggingOut

/-- A step of a call: what it does to the process, and where the call stands then. -/
def World.advance (i : InstanceId) (pc : Pc) (reply : Reply) (w : World) : World × Option Pc :=
  match pc with
  | .applyingCode k =>
    ({ w with featureCode := (code? codes i).getD w.featureCode }, some (.applyingHeader k))
  | .applyingHeader k =>
    ({ w with requestHeader := (code? codes i).getD w.requestHeader }, some (.constructing k))
  | .constructing k =>
    match reply with
    | .ok _ =>
      ({ w with client := Function.update w.client i (some w.requestHeader) },
        some (.checkingToken k))
    | .fails _ => (w, none)
  | .checkingToken k => (w, if w.token i then k.next else some (.loggingIn k))
  | .loggingIn k =>
    match w.client i, reply with
    | some _, .ok token => ({ w with token := Function.update w.token i token }, k.next)
    | _, _ => (w, none)
  | .refreshing =>
    match w.client i, reply with
    | some _, .ok token =>
      ({ w with token := Function.update w.token i (w.token i || token) }, some .asking)
    | some _, .fails false => (w, none)
    | _, _ => (w, some .asking)
  | .asking =>
    match w.token i, reply with
    | true, .fails _ => (w, some .reloggingIn)
    | _, _ => (w, none)
  | .reloggingIn =>
    match w.client i, reply with
    | some _, .ok token =>
      ({ w with token := Function.update w.token i token }, some .askingAgain)
    | _, _ => (w, none)
  | .askingAgain => (w, none)
  | .loggingOut => ({ w with client := Function.update w.client i none }, none)

def World.step (a : Action) (w : World) : Option World :=
  match a with
  | .call t i c =>
    match w.thread t with
    | none =>
      some
        { w with thread := Function.update w.thread t ((w.start codes i c).map fun pc => (i, pc)) }
    | some _ => none
  | .resume t reply =>
    (w.thread t).map fun (i, pc) =>
      let (w', pc') := w.advance codes i pc reply
      { w' with thread := Function.update w'.thread t (pc'.map fun pc => (i, pc)) }

inductive Event
  | appliedCode (i : InstanceId)
  | appliedHeader (i : InstanceId)
  | constructed (i : InstanceId)
  | loggedIn (i : InstanceId) (payload header : String)
  deriving DecidableEq, Repr

/-- `_client.login()`: the payload carries the module's code, the session its own header. -/
def World.loginEvent (i : InstanceId) (w : World) : Option Event :=
  (w.client i).map fun header => .loggedIn i w.featureCode header

def World.event (w : World) : Action → Option Event
  | .call _ _ _ => none
  | .resume t reply =>
    match w.thread t with
    | some (i, .applyingCode _) => some (.appliedCode i)
    | some (i, .applyingHeader _) => some (.appliedHeader i)
    | some (i, .constructing _) =>
      match reply with
      | .ok _ => some (.constructed i)
      | .fails _ => none
    | some (i, .loggingIn _) | some (i, .refreshing) | some (i, .reloggingIn) => w.loginEvent i
    | _ => none

/-- A process that has only imported the module, and what has happened since. -/
def process : Transition.System (World × List Event) Action :=
  System.recording
    { init := fun w => (∀ i, w.client i = none) ∧ ∀ t, w.thread t = none
      step := World.step codes }
    [] fun w a _ past => past ++ (w.event a).toList

/-- Every login of an instance with a code carried it, in the payload and in the header. -/
def Isolated (past : List Event) : Prop :=
  ∀ i payload header, .loggedIn i payload header ∈ past → ∀ c, code? codes i = some c →
    payload = c ∧ header = c

def appliedCode? : Event → Option String
  | .appliedCode i => code? codes i
  | _ => none

def appliedHeader? : Event → Option String
  | .appliedHeader i => code? codes i
  | _ => none

/-- Since the instance's code was last installed no other was, up to now for the payload and up to
the construction of its client for the header. -/
def Undisturbed (past : List Event) (i : InstanceId) (c : String) : Prop :=
  LastWrite.Holds (appliedCode? codes) c past ∧
    LastWrite.Holds (appliedHeader? codes) c (LastWrite.beforeLast (.constructed i) past)

/-- The step is no login, or one of an undisturbed instance. -/
def LogsInUndisturbed (s : World × List Event) (a : Action) : Prop :=
  match s.1.event a with
  | some (.loggedIn i _ _) => ∀ c ∈ code? codes i, Undisturbed codes s.2 i c
  | _ => True

instance (past : List Event) (i : InstanceId) (c : String) :
    Decidable (Undisturbed codes past i c) := inferInstanceAs (Decidable (_ ∧ _))

instance (s : World × List Event) (a : Action) : Decidable (LogsInUndisturbed codes s a) := by
  unfold LogsInUndisturbed
  split <;> infer_instance

end Steps

variable {codes : InstanceId → Option String}

def Pc.Quiet : Pc → Prop
  | .applyingHeader _ | .constructing _ => False
  | _ => True

/-- Everything a step of a call can do. -/
inductive Advanced (codes : InstanceId → Option String) (i : InstanceId) (w : World) :
    Pc → Option Event → World → Option Pc → Prop
  | appliesCode (k : After) : Advanced codes i w (.applyingCode k) (some (.appliedCode i))
      { w with featureCode := (code? codes i).getD w.featureCode } (some (.applyingHeader k))
  | appliesHeader (k : After) : Advanced codes i w (.applyingHeader k) (some (.appliedHeader i))
      { w with requestHeader := (code? codes i).getD w.requestHeader } (some (.constructing k))
  | constructs (k : After) : Advanced codes i w (.constructing k) (some (.constructed i))
      { w with client := Function.update w.client i (some w.requestHeader) }
      (some (.checkingToken k))
  | logsIn (pc : Pc) (header : String) (hclient : w.client i = some header)
      (token : InstanceId → Bool) (pc' : Option Pc) (hpc' : ∀ pc ∈ pc', pc.Quiet) :
      Advanced codes i w pc (some (.loggedIn i w.featureCode header)) { w with token := token } pc'
  | logsOut (pc : Pc) :
      Advanced codes i w pc none { w with client := Function.update w.client i none } none
  | moves (pc : Pc) (pc' : Option Pc) (hpc' : ∀ pc ∈ pc', pc.Quiet) :
      Advanced codes i w pc none w pc'

theorem After.next_quiet (k : After) : ∀ pc ∈ k.next, pc.Quiet := by
  cases k <;> rintro pc ⟨⟩
  trivial

private theorem advance_advanced {w : World} {t : ThreadId} {i : InstanceId} {pc : Pc}
    (ht : w.thread t = some (i, pc)) (reply : Reply) :
    Advanced codes i w pc (w.event (.resume t reply)) (w.advance codes i pc reply).1
      (w.advance codes i pc reply).2 := by
  have hquiet {pc₀ : Pc} (hpc₀ : pc₀.Quiet) : ∀ pc ∈ some pc₀, pc.Quiet := by
    rintro pc ⟨⟩
    exact hpc₀
  have hnone : ∀ pc ∈ (none : Option Pc), pc.Quiet := by
    rintro pc ⟨⟩
  cases pc with
  | applyingCode k =>
    simp only [World.event, ht, World.advance]
    exact .appliesCode k
  | applyingHeader k =>
    simp only [World.event, ht, World.advance]
    exact .appliesHeader k
  | constructing k =>
    cases reply with
    | ok =>
      simp only [World.event, ht, World.advance]
      exact .constructs k
    | fails =>
      simp only [World.event, ht, World.advance]
      exact .moves _ _ hnone
  | checkingToken k =>
    simp only [World.event, ht, World.advance]
    split
    · exact .moves _ _ k.next_quiet
    · exact .moves _ _ (hquiet trivial)
  | loggingIn k =>
    simp only [World.event, ht, World.advance, World.loginEvent]
    cases hclient : w.client i with
    | none => exact .moves _ _ hnone
    | some header =>
      cases reply with
      | ok => exact .logsIn _ header hclient _ _ k.next_quiet
      | fails => exact .logsIn _ header hclient w.token _ hnone
  | refreshing =>
    simp only [World.event, ht, World.advance, World.loginEvent]
    cases hclient : w.client i with
    | none => exact .moves _ _ (hquiet trivial)
    | some header =>
      cases reply with
      | ok => exact .logsIn _ header hclient _ _ (hquiet trivial)
      | fails caught =>
        cases caught with
        | true => exact .logsIn _ header hclient w.token _ (hquiet trivial)
        | false => exact .logsIn _ header hclient w.token _ hnone
  | asking =>
    simp only [World.event, ht, World.advance]
    split
    · exact .moves _ _ (hquiet trivial)
    · exact .moves _ _ hnone
  | reloggingIn =>
    simp only [World.event, ht, World.advance, World.loginEvent]
    cases hclient : w.client i with
    | none => exact .moves _ _ hnone
    | some header =>
      cases reply with
      | ok => exact .logsIn _ header hclient _ _ (hquiet trivial)
      | fails => exact .logsIn _ header hclient w.token _ hnone
  | askingAgain =>
    simp only [World.event, ht, World.advance]
    exact .moves _ _ hnone
  | loggingOut =>
    simp only [World.event, ht, World.advance]
    exact .logsOut _

open LastWrite (beforeLast beforeLast_append_of_ne beforeLast_append_self value value_append)

/-- What a call must have written before it stands here. -/
def Knows (past : List Event) (i : InstanceId) : Pc → Prop
  | .applyingHeader _ => .appliedCode i ∈ past
  | .constructing _ => .appliedCode i ∈ past ∧ .appliedHeader i ∈ past
  | _ => True

theorem Knows.append {past : List Event} {i : InstanceId} {pc : Pc} (h : Knows past i pc)
    (later : List Event) : Knows (past ++ later) i pc := by
  cases pc with
  | applyingHeader k => exact List.mem_append_left _ h
  | constructing k => exact ⟨List.mem_append_left _ h.1, List.mem_append_left _ h.2⟩
  | _ => trivial

theorem Pc.Quiet.knows {past : List Event} {i : InstanceId} {pc : Pc} (h : pc.Quiet) :
    Knows past i pc := by
  cases pc with
  | applyingHeader => exact h.elim
  | constructing => exact h.elim
  | _ => trivial

/-- The header of an instance's session is the one installed when its client was constructed. -/
structure HasHeader (codes : InstanceId → Option String) (initial : String) (past : List Event)
    (i : InstanceId) (header : String) : Prop where
  header_eq : header = value (appliedHeader? codes) initial (beforeLast (.constructed i) past)
  applied : ∀ c, code? codes i = some c →
    .appliedCode i ∈ past ∧ .appliedHeader i ∈ beforeLast (.constructed i) past

theorem HasHeader.append {initial header : String} {past : List Event} {i : InstanceId}
    (h : HasHeader codes initial past i header) {e : Event} (he : e ≠ .constructed i) :
    HasHeader codes initial (past ++ [e]) i header := by
  constructor
  · rw [beforeLast_append_of_ne he]
    exact h.header_eq
  · intro c hc
    rw [beforeLast_append_of_ne he]
    exact ⟨List.mem_append_left _ (h.applied c hc).1, (h.applied c hc).2⟩

structure Installed (codes : InstanceId → Option String) (code header : String)
    (s : World × List Event) : Prop where
  featureCode : s.1.featureCode = value (appliedCode? codes) code s.2
  requestHeader : s.1.requestHeader = value (appliedHeader? codes) header s.2
  client : ∀ i h, s.1.client i = some h → HasHeader codes header s.2 i h
  thread : ∀ t i pc, s.1.thread t = some (i, pc) → ∀ c, code? codes i = some c → Knows s.2 i pc

namespace Installed

variable {code header : String} {w w' : World} {past : List Event}

theorem setThread (h : Installed codes code header (w, past)) (t : ThreadId)
    (at? : Option (InstanceId × Pc))
    (hat : ∀ i pc, at? = some (i, pc) → ∀ c, code? codes i = some c → Knows past i pc) :
    Installed codes code header ({ w with thread := Function.update w.thread t at? }, past) := by
  refine ⟨h.featureCode, h.requestHeader, h.client, fun t' i pc ht' => ?_⟩
  have ht' : Function.update w.thread t at? t' = some (i, pc) := ht'
  by_cases htt : t' = t
  · subst htt
    rw [Function.update_self] at ht'
    exact hat i pc ht'
  · rw [Function.update_of_ne htt] at ht'
    exact h.thread t' i pc ht'

theorem advanced (h : Installed codes code header (w, past)) {i : InstanceId} {pc : Pc}
    {e : Option Event} {pc' : Option Pc} (hadvanced : Advanced codes i w pc e w' pc')
    (hpc : ∀ c, code? codes i = some c → Knows past i pc) :
    Installed codes code header (w', past ++ e.toList) ∧
      ∀ pc ∈ pc', ∀ c, code? codes i = some c → Knows (past ++ e.toList) i pc := by
  have hthread (later : List Event) : ∀ t i pc, w.thread t = some (i, pc) →
      ∀ c, code? codes i = some c → Knows (past ++ later) i pc :=
    fun t i pc ht c hc => (h.thread t i pc ht c hc).append later
  have hclient {e : Event} (he : ∀ i, e ≠ .constructed i) (j : InstanceId) (hd : String)
      (hj : w.client j = some hd) : HasHeader codes header (past ++ [e]) j hd :=
    (h.client j hd hj).append (he j)
  have hcode : w.featureCode = value (appliedCode? codes) code past := h.featureCode
  have hheader : w.requestHeader = value (appliedHeader? codes) header past := h.requestHeader
  cases hadvanced with
  | appliesCode k =>
    refine ⟨⟨?_, ?_, hclient (by simp), hthread _⟩, ?_⟩
    · simp [value_append, appliedCode?, hcode]
    · simp [value_append, appliedHeader?, hheader]
    · rintro pc ⟨⟩ c hc
      simp [Knows]
  | appliesHeader k =>
    refine ⟨⟨?_, ?_, hclient (by simp), hthread _⟩, ?_⟩
    · simp [value_append, appliedCode?, hcode]
    · simp [value_append, appliedHeader?, hheader]
    · rintro pc ⟨⟩ c hc
      have happlied : .appliedCode i ∈ past := hpc c hc
      simp [Knows, happlied]
  | constructs k =>
    refine ⟨⟨?_, ?_, ?_, hthread _⟩, ?_⟩
    · simp [value_append, appliedCode?, hcode]
    · simp [value_append, appliedHeader?, hheader]
    · intro j hd hj
      have hj : Function.update w.client i (some w.requestHeader) j = some hd := hj
      by_cases hji : j = i
      · subst hji
        rw [Function.update_self] at hj
        cases hj
        constructor
        · simp [hheader]
        · intro c hc
          have happlied := hpc c hc
          simpa using ⟨happlied.1, happlied.2⟩
      · have hne : Event.constructed i ≠ .constructed j := fun heq => hji (by cases heq; rfl)
        rw [Function.update_of_ne hji] at hj
        exact (h.client j hd hj).append hne
    · rintro pc ⟨⟩ c hc
      trivial
  | logsIn pc hd hclient' token pc' hpc' =>
    refine ⟨⟨?_, ?_, hclient (by simp), hthread _⟩, fun pc hpc c _ => (hpc' pc hpc).knows⟩
    · simp [value_append, appliedCode?, hcode]
    · simp [value_append, appliedHeader?, hheader]
  | logsOut pc =>
    rw [Option.toList_none, List.append_nil]
    refine ⟨⟨hcode, hheader, ?_, h.thread⟩, by rintro pc ⟨⟩⟩
    intro j hd hj
    have hj : Function.update w.client i none j = some hd := hj
    by_cases hji : j = i
    · subst hji
      rw [Function.update_self] at hj
      cases hj
    · rw [Function.update_of_ne hji] at hj
      exact h.client j hd hj
  | moves pc pc' hpc' =>
    rw [Option.toList_none, List.append_nil]
    exact ⟨h, fun pc hpc c _ => (hpc' pc hpc).knows⟩

theorem begin_knows (i : InstanceId) (k : After) (w : World) {c : String}
    (hc : code? codes i = some c) : ∀ pc ∈ w.begin codes i k, Knows past i pc := by
  intro pc hpc
  simp only [World.begin] at hpc
  split at hpc
  · exact (k.next_quiet pc hpc).knows
  · rw [if_pos (by simp [hc])] at hpc
    cases hpc
    trivial

theorem start_knows (i : InstanceId) (call : Call) (w : World) {c : String}
    (hc : code? codes i = some c) : ∀ pc ∈ w.start codes i call, Knows past i pc := by
  cases call with
  | ensureClient | login => exact begin_knows i .returns w hc
  | fetchLanAesKey hit =>
    cases hit with
    | true => rintro pc ⟨⟩
    | false => exact begin_knows i .fetches w hc
  | close =>
    intro pc hpc
    obtain ⟨_, _, rfl⟩ := Option.map_eq_some_iff.1 hpc
    trivial

theorem next {s s' : World × List Event} (h : Installed codes code header s) {a : Action}
    (hstep : (process codes).step a s = some s') : Installed codes code header s' := by
  obtain ⟨hstep, hpast⟩ := recording_step.1 hstep
  obtain ⟨w, past⟩ := s
  obtain ⟨w', past'⟩ := s'
  have hpast : past' = past ++ (w.event a).toList := hpast
  have hstep : World.step codes a w = some w' := hstep
  subst hpast
  cases a with
  | call t i c =>
    simp only [World.step] at hstep
    split at hstep
    · cases hstep
      rw [World.event, Option.toList_none, List.append_nil]
      refine h.setThread t _ fun j pc hj c' hc' => ?_
      obtain ⟨pc', hpc', heq⟩ := Option.map_eq_some_iff.1 hj
      cases heq
      exact start_knows i c w hc' _ hpc'
    · cases hstep
  | resume t reply =>
    obtain ⟨⟨i, pc⟩, ht, rfl⟩ := Option.map_eq_some_iff.1 hstep
    obtain ⟨hnext, hpc'⟩ := h.advanced (advance_advanced ht reply) (h.thread t i pc ht)
    refine hnext.setThread t _ fun j pc' hj c' hc' => ?_
    obtain ⟨pc'', hpc'', heq⟩ := Option.map_eq_some_iff.1 hj
    cases heq
    exact hpc' _ hpc'' c' hc'

theorem of_reachable {allowed : World × List Event → Action → Prop} {s : World × List Event}
    (h : (process codes).ReachableUnder allowed s) :
    ∃ code header, Installed codes code header s := by
  refine h.invariant (P := fun s => ∃ code header, Installed codes code header s) ?_
    fun s a s' _ hs _ hstep => ?_
  · rintro ⟨w, past⟩ ⟨⟨hclient, hthread⟩, rfl⟩
    refine ⟨w.featureCode, w.requestHeader, rfl, rfl, fun i hd hi => ?_, fun t i pc ht => ?_⟩
    · rw [hclient i] at hi
      cases hi
    · rw [hthread t] at ht
      cases ht
  · obtain ⟨code, header, hs⟩ := hs
    exact ⟨code, header, hs.next hstep⟩

/-- A login carries the instance's own code exactly where nobody disturbed it. -/
theorem loginEvent_iff {s : World × List Event} (h : Installed codes code header s)
    {i : InstanceId} {payload hd c : String} (hc : code? codes i = some c)
    (hevent : s.1.loginEvent i = some (.loggedIn i payload hd)) :
    payload = c ∧ hd = c ↔ Undisturbed codes s.2 i c := by
  obtain ⟨header', hclient, heq⟩ := Option.map_eq_some_iff.1 hevent
  cases heq
  have hhas := h.client i hd hclient
  obtain ⟨hcode, hheader⟩ := hhas.applied c hc
  have hpayload : LastWrite.value (appliedCode? codes) code s.2 = c ↔
      LastWrite.Holds (appliedCode? codes) c s.2 :=
    LastWrite.value_eq_iff ⟨_, hcode, by simp [appliedCode?, hc]⟩
  have hhd : LastWrite.value (appliedHeader? codes) header (beforeLast (.constructed i) s.2) = c ↔
      LastWrite.Holds (appliedHeader? codes) c (beforeLast (.constructed i) s.2) :=
    LastWrite.value_eq_iff ⟨_, hheader, by simp [appliedHeader?, hc]⟩
  rw [Undisturbed, ← hpayload, ← hhd, ← h.featureCode, ← hhas.header_eq]

end Installed

private theorem event_loggedIn {w : World} {a : Action} {i : InstanceId} {payload header : String}
    (h : w.event a = some (.loggedIn i payload header)) :
    w.loginEvent i = some (.loggedIn i payload header) := by
  have hown {j : InstanceId} (hj : w.loginEvent j = some (.loggedIn i payload header)) : j = i := by
    obtain ⟨_, _, heq⟩ := Option.map_eq_some_iff.1 hj
    cases heq
    rfl
  cases a with
  | call => cases h
  | resume t reply =>
    simp only [World.event] at h
    split at h
    · cases h
    · cases h
    · cases reply <;> cases h
    · exact hown h ▸ h
    · exact hown h ▸ h
    · exact hown h ▸ h
    · cases h

/-- Where every login is one of an undisturbed instance, all logins carry their own instance's
code; the first that is not carries another. -/
theorem featureCode_isolated (codes : InstanceId → Option String) :
    (∀ s, (process codes).ReachableUnder (LogsInUndisturbed codes) s → Isolated codes s.2) ∧
    ∀ s s' a, (process codes).ReachableUnder (LogsInUndisturbed codes) s →
      (process codes).step a s = some s' → ¬LogsInUndisturbed codes s a →
      ¬Isolated codes s'.2 := by
  constructor
  · intro s hs
    refine hs.invariant (P := fun s => Isolated codes s.2) ?_
      fun s a s' hs hisolated hallowed hstep => ?_
    · rintro ⟨w, past⟩ ⟨_, rfl⟩ i payload header hmem
      cases hmem
    · obtain ⟨_, hpast⟩ := recording_step.1 hstep
      intro i payload header hmem c hc
      rw [hpast] at hmem
      rcases List.mem_append.1 hmem with hold | hnew
      · exact hisolated i payload header hold c hc
      · have hevent := Option.mem_toList.1 hnew
        obtain ⟨_, _, hinstalled⟩ := Installed.of_reachable hs
        rw [hinstalled.loginEvent_iff hc (event_loggedIn hevent)]
        rw [LogsInUndisturbed, hevent] at hallowed
        exact hallowed c hc
  · intro s s' a hs hstep hnot hisolated
    obtain ⟨_, hpast⟩ := recording_step.1 hstep
    obtain ⟨i, payload, header, hevent, c, hc, hdisturbed⟩ :
        ∃ i payload header, s.1.event a = some (.loggedIn i payload header) ∧
          ∃ c, code? codes i = some c ∧ ¬Undisturbed codes s.2 i c := by
      unfold LogsInUndisturbed at hnot
      split at hnot
      · rename_i i payload header hevent
        simp only [not_forall] at hnot
        obtain ⟨c, hc, hdisturbed⟩ := hnot
        exact ⟨i, payload, header, hevent, c, hc, hdisturbed⟩
      · exact absurd trivial hnot
    obtain ⟨_, _, hinstalled⟩ := Installed.of_reachable hs
    apply hdisturbed
    rw [← hinstalled.loginEvent_iff hc (event_loggedIn hevent)]
    apply hisolated i payload header _ c hc
    rw [hpast, hevent]
    simp

def twoCodes (i : InstanceId) : Option String := if i = 0 then some "a1" else some "b2"

def importedModule : World := ⟨"default", "default", fun _ => none, fun _ => false, fun _ => none⟩

def setUp (i : InstanceId) : List Action :=
  .call i i .ensureClient :: List.replicate 5 (.resume i (.ok true))

private theorem process_init (codes : InstanceId → Option String) :
    (process codes).init (importedModule, []) := ⟨⟨fun _ => rfl, fun _ => rfl⟩, rfl⟩

/-- An entry that refreshes before another one is set up. -/
theorem featureCode_isolated_oneByOne :
    ∃ s : World × List Event, s.2.length = 9 ∧ Isolated twoCodes s.2 := by
  obtain ⟨s, hs, hlogins⟩ :
      ∃ s, (process twoCodes).ReachableUnder (LogsInUndisturbed twoCodes) s ∧ s.2.length = 9 :=
    ReachableUnder.of_replay
      (setUp 0 ++ [.call 0 0 (.fetchLanAesKey false), .resume 0 (.ok true)] ++ setUp 1)
      (process_init _) (by decide)
  exact ⟨s, hlogins, (featureCode_isolated twoCodes).1 s hs⟩

/-- The first entry refreshes after the second one was set up. -/
theorem not_featureCode_isolated :
    ¬ ∀ codes s, (process codes).Reachable s → Isolated codes s.2 := by
  intro hisolated
  obtain ⟨s, hs, hlogin⟩ :
      ∃ s, (process twoCodes).Reachable s ∧ .loggedIn 0 "b2" "a1" ∈ s.2 :=
    ReachableUnder.of_replay
      (setUp 0 ++ setUp 1 ++ [.call 0 0 (.fetchLanAesKey false), .resume 0 (.ok true)])
      (process_init _) (by decide)
  have := (hisolated twoCodes s hs 0 "b2" "a1" hlogin "a1" rfl).1
  exact absurd this (by decide)

end EzvizHp7.Cloud.FeatureCode
