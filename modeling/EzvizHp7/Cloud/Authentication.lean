import EzvizHp7.Cloud.AesCache
import EzvizHp7.Library.Raising
import EzvizHp7.Library.Transition

/-!
# Authentication

`ensure_client`, `login` and `close` of `Hp7Api` over sequences of calls. The client object is
stored before the login that may fail, and the early return of `ensure_client` tests only the
client.
-/

namespace EzvizHp7.Cloud

open Transition System

namespace Hp7Api

def login (r : Replies) : Method Unit := ensureClient r

/-- The client is dropped however the logout ends. -/
def close (logout : Except Exc Unit) : Method Unit := do
  if (← get).api.client then
    try
      match logout with
      | .ok () => pure ()
      | .error exc =>
        if !exc.isInstance [.pyEzvizError, .httpError, .osError] then throw exc
    finally
      modify fun w => { w with api.client := false }

def clientErrors : List ExcClass :=
  [.pyEzvizError, .httpError, .invalidHost, .invalidUrl, .valueError, .keyError, .osError]

/-- What `_login_and_store_token` makes of an error. -/
def loginFailed (exc : Exc) : Exc :=
  if exc.isInstance [.valueError, .keyError] then
    ⟨[.valueError], "Authentication failed: " ++ exc.text⟩
  else exc

def clientFailed (exc : Exc) : Exc :=
  if exc.isInstance clientErrors then
    ⟨[.runtimeError], "Failed to initialize EZVIZ client: " ++ exc.text⟩
  else exc

end Hp7Api

namespace Traced

variable (w : Traced)

def logged (c : CloudCall) : Traced := { w with calls := w.calls ++ [c] }

def loggedIn (token : Option Token) : Traced :=
  { w.logged .login with
    api.token := token
    api.stats := w.api.stats.map fun s => { s with cloudLogins := s.cloudLogins + 1 } }

def withClient : Traced := { w with api.client := true }

def bumped (f : ActivityStats → ActivityStats) : Traced :=
  { w with api.stats := w.api.stats.map f }

@[simp] theorem logged_api (c : CloudCall) : (w.logged c).api = w.api := rfl

@[simp] theorem loggedIn_client (token : Option Token) :
    (w.loggedIn token).api.client = w.api.client := rfl

@[simp] theorem loggedIn_token (token : Option Token) :
    (w.loggedIn token).api.token = token := rfl

@[simp] theorem bumped_client (f : ActivityStats → ActivityStats) :
    (w.bumped f).api.client = w.api.client := rfl

@[simp] theorem bumped_token (f : ActivityStats → ActivityStats) :
    (w.bumped f).api.token = w.api.token := rfl

end Traced

namespace Hp7Api

theorem bump_run (f : ActivityStats → ActivityStats) (w : Traced) :
    (bump f).run w = .ok () (w.bumped f) := rfl

theorem loginAndStoreToken_run (reply : Except Exc (Option Token)) {w : Traced}
    (hclient : w.api.client = true) : (loginAndStoreToken reply).run w =
      match reply with
      | .ok token => .ok () (w.loggedIn token)
      | .error exc => .error (loginFailed exc) (w.logged .login) := by
  cases reply with
  | ok token => simp [loginAndStoreToken, call, bump, hclient, Traced.loggedIn, Traced.logged]
  | error exc =>
    by_cases hrejected : exc.isInstance [.valueError, .keyError] = true <;>
      simp [loginAndStoreToken, call, hclient, Traced.logged, loginFailed, hrejected]

private theorem run_clientFailed (exc : Exc) (w : Traced) :
    (if exc.isInstance clientErrors = true then
      throw ⟨[.runtimeError], "Failed to initialize EZVIZ client: " ++ exc.text⟩
    else throw exc : Method Unit).run w = .error (clientFailed exc) w := by
  simp only [clientFailed]
  split <;> rfl

theorem ensureClient_run (r : Replies) (w : Traced) : (ensureClient r).run w =
    if w.api.client then .ok () w
    else
      match r.newClient with
      | .error exc => .error (clientFailed exc) w
      | .ok () =>
        if truthy w.api.token then .ok () w.withClient
        else
          match r.firstLogin with
          | .ok token => .ok () (w.withClient.loggedIn token)
          | .error exc => .error (clientFailed (loginFailed exc)) (w.withClient.logged .login) := by
  have hlogin := loginAndStoreToken_run r.firstLogin (w := w.withClient) rfl
  unfold ensureClient
  cases hclient : w.api.client with
  | true => simp [hclient]
  | false =>
    cases hnew : r.newClient with
    | error exc =>
      simp only [EStateM.run_bind, EStateM.run_get, hclient]
      exact run_clientFailed exc w
    | ok =>
      cases htoken : truthy w.api.token with
      | true => simp [hclient, htoken, Traced.withClient]
      | false =>
        cases hfirst : r.firstLogin with
        | ok token =>
          rw [hfirst] at hlogin
          simp only [Traced.withClient] at hlogin ⊢
          simp [hclient, htoken, hlogin]
        | error exc =>
          rw [hfirst] at hlogin
          simp only [Traced.withClient] at hlogin ⊢
          simp [-EStateM.run_ite, hclient, htoken, hlogin]
          exact run_clientFailed _ _

theorem ensureClient_ok {r : Replies} {w w' : Traced}
    (h : (ensureClient r).run w = .ok () w') : w'.api.client = true := by
  rw [ensureClient_run] at h
  split at h
  · rename_i hclient
    cases h
    exact hclient
  · cases hnew : r.newClient with
    | error exc => simp [hnew] at h
    | ok =>
      cases htoken : truthy w.api.token with
      | true =>
        simp [hnew, htoken] at h
        rw [← h]
        rfl
      | false =>
        cases hlogin : r.firstLogin with
        | error exc => simp [hnew, htoken, hlogin] at h
        | ok token =>
          simp [hnew, htoken, hlogin] at h
          rw [← h]
          rfl

theorem close_client (logout : Except Exc Unit) (w : Traced) :
    match (close logout).run w with
    | .ok _ w' | .error _ w' => w'.api = { w.api with client := false } ∧ w'.calls = w.calls := by
  cases hclient : w.api.client with
  | false =>
    simp only [close, EStateM.run_bind, EStateM.run_get, hclient]
    refine ⟨?_, rfl⟩
    rw [← hclient]
  | true =>
    cases logout with
    | ok => simp [close, hclient]
    | error exc =>
      by_cases hcaught : exc.isInstance [.pyEzvizError, .httpError, .osError] = true <;>
        simp [close, hclient, hcaught]

end Hp7Api

theorem Method.answer_eq {α : Type} (m : Method α) (key : α → Option Cpd7.Bytes) (api : Hp7Api) :
    Method.answer m key api = match m.run ⟨api, []⟩ with
      | .ok a w => (⟨w.calls, .ok (key a)⟩, w.api)
      | .error exc w => (⟨w.calls, .error exc⟩, w.api) := rfl

inductive AuthCall
  | ensureClient (r : Replies)
  | login (r : Replies)
  | close (logout : Except Exc Unit)

def AuthCall.run : AuthCall → Method Unit
  | .ensureClient r => Hp7Api.ensureClient r
  | .login r => Hp7Api.login r
  | .close logout => Hp7Api.close logout

def AuthCall.replies? : AuthCall → Option Replies
  | .ensureClient r | .login r => some r
  | .close _ => none

/-- The client after a sequence of calls, and what there was to know about it: the tokens that
were supplied or returned by a login, whether the last call that has to authenticate raised, and
whether a login since the last `close` brought no token. -/
structure Session where
  api : Hp7Api
  tokens : List Token
  failed : Bool
  unfinished : Bool

def loginToken (r : Replies) (calls : List CloudCall) : Option Token :=
  if .login ∈ calls then r.firstLogin.toOption.join else none

def Session.after (c : AuthCall) (s : Session) : Session :=
  let (a, api) := Method.answer c.run (fun _ => none) s.api
  match c.replies? with
  | none => { s with api := api, unfinished := false }
  | some r =>
    let token := loginToken r a.calls
    { api := api
      tokens := s.tokens ++ token.toList
      failed := !a.result.isOk
      unfinished := s.unfinished || (.login ∈ a.calls && !truthy token : Bool) }

def sessions : Transition.System Session AuthCall where
  init s := s.api.client = false ∧ s.tokens = s.api.token.toList ∧ s.failed = false ∧
    s.unfinished = false
  step c s := some (s.after c)

/-- A call returns normally only with the client and a token that was supplied or came from a
login, and after a failed call it depends on a new `EzvizClient`. -/
def Honest (s : Session) (c : AuthCall) : Prop :=
  ∀ r, c.replies? = some r →
    ((s.after c).failed = false → (s.after c).api.client = true ∧
      ∃ t ∈ (s.after c).tokens, (s.after c).api.token = some t ∧ t ≠ []) ∧
    (s.failed = true → ∀ exc,
      ∃ exc' w, (Hp7Api.ensureClient { r with newClient := .error exc }).run ⟨s.api, []⟩ =
        .error exc' w)

/-- No login of the client has gone without a token, and this one does not return an empty one. -/
def LoginsComplete (s : Session) (c : AuthCall) : Prop :=
  ∀ r, c.replies? = some r → s.unfinished = false ∧
    (s.api.client = false → truthy s.api.token = false → r.newClient = .ok () →
      ∀ token, r.firstLogin = .ok token → truthy token = true)

structure Consistent (s : Session) : Prop where
  token : ∀ t, s.api.token = some t → t ≠ [] → t ∈ s.tokens
  unfinished : s.unfinished = true ↔ s.api.client = true ∧ truthy s.api.token = false
  failed : s.failed = true → s.api.client = false ∨ truthy s.api.token = false

/-- Everything `ensure_client` can do, whichever its name. -/
inductive Called (s : Session) (r : Replies) : Session → Prop
  | returnsEarly (hclient : s.api.client = true) : Called s r { s with failed := false }
  | constructionFails (hclient : s.api.client = false) (exc : Exc)
      (hnew : r.newClient = .error exc) : Called s r { s with failed := true }
  | reusesToken (hclient : s.api.client = false) (hnew : r.newClient = .ok ())
      (htoken : truthy s.api.token = true) :
      Called s r { s with api.client := true, failed := false }
  | loginFails (hclient : s.api.client = false) (hnew : r.newClient = .ok ())
      (htoken : truthy s.api.token = false) (exc : Exc) (hlogin : r.firstLogin = .error exc) :
      Called s r { s with api.client := true, failed := true, unfinished := true }
  | logsIn (hclient : s.api.client = false) (hnew : r.newClient = .ok ())
      (htoken : truthy s.api.token = false) (token : Option Token)
      (hlogin : r.firstLogin = .ok token) (stats : Option ActivityStats) :
      Called s r
        { api := { s.api with client := true, token := token, stats := stats }
          tokens := s.tokens ++ token.toList
          failed := false
          unfinished := s.unfinished || !truthy token }

private theorem after_called {s : Session} {c : AuthCall} {r : Replies} (hc : c.replies? = some r) :
    Called s r (s.after c) := by
  have hrun : c.run = Hp7Api.ensureClient r := by
    cases c with
    | ensureClient | login => cases hc; rfl
    | close => cases hc
  have hensure := Hp7Api.ensureClient_run r ⟨s.api, []⟩
  simp only [Session.after, Method.answer_eq, hrun, hc]
  cases hclient : s.api.client with
  | true =>
    rw [if_pos hclient] at hensure
    simpa [hensure, loginToken, Except.isOk, Except.toBool] using Called.returnsEarly hclient
  | false =>
    rw [if_neg (by simp [hclient])] at hensure
    cases hnew : r.newClient with
    | error exc =>
      rw [hnew] at hensure
      simpa [hensure, loginToken, Except.isOk, Except.toBool] using
        Called.constructionFails hclient exc hnew
    | ok =>
      rw [hnew] at hensure
      cases htoken : truthy s.api.token with
      | true =>
        simp only [htoken, if_true] at hensure
        simpa [hensure, loginToken, Except.isOk, Except.toBool, Traced.withClient] using
          Called.reusesToken hclient hnew htoken
      | false =>
        simp only [htoken, Bool.false_eq_true, if_false] at hensure
        cases hlogin : r.firstLogin with
        | error exc =>
          rw [hlogin] at hensure
          simpa [hensure, loginToken, hlogin, Except.isOk, Except.toBool, Traced.withClient,
            Traced.logged, Except.toOption, truthy] using
            Called.loginFails hclient hnew htoken exc hlogin
        | ok token =>
          rw [hlogin] at hensure
          simpa [hensure, loginToken, hlogin, Except.isOk, Except.toBool, Traced.withClient,
            Traced.logged, Traced.loggedIn, Except.toOption] using
            Called.logsIn hclient hnew htoken token hlogin
              (s.api.stats.map fun stats => { stats with cloudLogins := stats.cloudLogins + 1 })

private theorem after_close {s : Session} {c : AuthCall} (hc : c.replies? = none) :
    s.after c = { s with api.client := false, unfinished := false } := by
  cases c with
  | ensureClient | login => cases hc
  | close logout =>
    have hclose := Hp7Api.close_client logout ⟨s.api, []⟩
    simp only [Session.after, Method.answer_eq, AuthCall.run, AuthCall.replies?]
    cases hrun : (Hp7Api.close logout).run ⟨s.api, []⟩ with
    | ok | error =>
      rw [hrun] at hclose
      simp only [hclose.1]

private theorem truthy_some {t : Token} : truthy (some t) = true ↔ t ≠ [] := by
  simp [truthy]

private theorem exists_of_truthy {token : Option Token} (h : truthy token = true) :
    ∃ t, token = some t ∧ t ≠ [] := by
  cases token with
  | none => cases h
  | some t => exact ⟨t, rfl, truthy_some.1 h⟩

namespace Consistent

variable {s : Session} {c : AuthCall} {r : Replies}

theorem called {s' : Session} (h : Consistent s) (hcalled : Called s r s') : Consistent s' := by
  cases hcalled with
  | returnsEarly hclient => exact ⟨h.token, h.unfinished, by simp⟩
  | constructionFails hclient => exact ⟨h.token, h.unfinished, fun _ => .inl hclient⟩
  | reusesToken hclient hnew htoken =>
    have hunfinished : s.unfinished = false := by
      simpa [htoken] using h.unfinished
    exact ⟨h.token, by simp [hunfinished, htoken], by simp⟩
  | loginFails hclient hnew htoken => exact ⟨h.token, by simp [htoken], fun _ => .inr htoken⟩
  | logsIn hclient hnew htoken token =>
    have hunfinished : s.unfinished = false := by
      simpa [hclient] using h.unfinished
    refine ⟨?_, by simp [hunfinished], by simp⟩
    intro t ht _
    have ht : token = some t := ht
    simp [ht]

theorem after (h : Consistent s) : Consistent (s.after c) := by
  cases hc : c.replies? with
  | some r => exact h.called (after_called hc)
  | none =>
    rw [after_close hc]
    exact ⟨h.token, by simp, fun _ => .inl rfl⟩

theorem of_reachable (h : sessions.Reachable s) : Consistent s := by
  refine h.invariant ?_ fun s c s' _ hs _ hstep => ?_
  · rintro s ⟨hclient, htokens, hfailed, hunfinished⟩
    refine ⟨fun t ht _ => ?_, by simp [hclient, hunfinished], by simp [hfailed]⟩
    simp [htokens, ht]
  · cases hstep
    exact hs.after

theorem authenticated (h : Consistent s) (hclient : s.api.client = true)
    (htoken : truthy s.api.token = true) :
    s.api.client = true ∧ ∃ t ∈ s.tokens, s.api.token = some t ∧ t ≠ [] := by
  obtain ⟨t, ht, hne⟩ := exists_of_truthy htoken
  exact ⟨hclient, t, h.token t ht hne, ht, hne⟩

theorem attempts_iff : (∀ exc, ∃ exc' w,
    (Hp7Api.ensureClient { r with newClient := .error exc }).run ⟨s.api, []⟩ = .error exc' w) ↔
    s.api.client = false := by
  constructor
  · intro hraises
    obtain ⟨exc', w, hraises⟩ := hraises ⟨[], ""⟩
    cases hclient : s.api.client with
    | false => rfl
    | true => simp [Hp7Api.ensureClient_run, hclient] at hraises
  · intro hclient exc
    simp [Hp7Api.ensureClient_run, hclient]

end Consistent

/-- A call is honest exactly where no login since the last `close` went without a token, and its
own does not return an empty one. -/
theorem honest_iff {s : Session} (hs : sessions.Reachable s) (c : AuthCall) :
    Honest s c ↔ LoginsComplete s c := by
  have hconsistent := Consistent.of_reachable hs
  have hafter : Consistent (s.after c) := hconsistent.after
  have hfinished (hclient : s.api.client = false) : s.unfinished = false := by
    simpa [hclient] using hconsistent.unfinished
  refine forall_congr' fun r => forall_congr' fun hc => ?_
  rw [Consistent.attempts_iff]
  have hcalled := after_called (s := s) hc
  generalize s.after c = s' at hcalled hafter
  cases hcalled with
  | returnsEarly hclient =>
    have htoken : s.unfinished = false ↔ truthy s.api.token = true := by
      rw [← Bool.not_eq_true, hconsistent.unfinished]
      simp [hclient]
    constructor
    · rintro ⟨hreturned, _⟩
      obtain ⟨_, t, _, ht, hne⟩ := hreturned rfl
      refine ⟨htoken.2 ?_, by simp [hclient]⟩
      rw [ht]
      exact truthy_some.2 hne
    · rintro ⟨hunfinished, _⟩
      have hheld := htoken.1 hunfinished
      refine ⟨fun _ => hconsistent.authenticated hclient hheld, fun hfailed => ?_⟩
      exact (hconsistent.failed hfailed).resolve_right (by simp [hheld])
  | constructionFails hclient exc hnew =>
    refine iff_of_true ⟨by simp, fun _ => hclient⟩ ⟨hfinished hclient, ?_⟩
    simp [hnew]
  | reusesToken hclient hnew htoken =>
    refine iff_of_true ⟨fun _ => hafter.authenticated rfl htoken, fun _ => hclient⟩
      ⟨hfinished hclient, ?_⟩
    simp [htoken]
  | loginFails hclient hnew htoken exc hlogin =>
    refine iff_of_true ⟨by simp, fun _ => hclient⟩ ⟨hfinished hclient, ?_⟩
    simp [hlogin]
  | logsIn hclient hnew htoken token hlogin =>
    constructor
    · rintro ⟨hreturned, _⟩
      obtain ⟨_, t, _, ht, hne⟩ := hreturned rfl
      refine ⟨hfinished hclient, fun _ _ _ token' htoken' => ?_⟩
      obtain rfl : token = token' := Except.ok.inj (hlogin.symm.trans htoken')
      obtain rfl : token = some t := ht
      exact truthy_some.2 hne
    · rintro ⟨_, hcomplete⟩
      have hheld := hcomplete hclient htoken hnew token hlogin
      exact ⟨fun _ => hafter.authenticated rfl hheld, fun _ => hclient⟩

def cloudMeets (newClient : Except Exc Unit) (login : Except Exc (Option Token)) : Replies where
  now := 0
  newClient := newClient
  firstLogin := login
  refresh := .ok none
  eucas := .ok .none
  relogin := .ok none
  eucasAgain := .ok .none
  fetchedAt := 0
  p2pRegister := .ok ()

def freshSession : Session := ⟨.new none none, [], false, false⟩

private theorem freshSession_init : sessions.init freshSession := ⟨rfl, rfl, rfl, rfl⟩

/-- The cloud is out of reach at first. -/
theorem honest_iff_secondCall :
    ∃ s, sessions.Reachable s ∧ s.failed = true ∧
      Honest s (.login (cloudMeets (.ok ()) (.ok (some (issuedToken "s1"))))) := by
  obtain ⟨s, hs, hfailed, hfinished⟩ :
      ∃ s, sessions.Reachable s ∧ s.failed = true ∧ s.unfinished = false :=
    ReachableUnder.of_replay
      [.ensureClient (cloudMeets (.error ⟨[.osError], "timed out"⟩) (.ok none))] freshSession_init
      (by decide)
  refine ⟨s, hs, hfailed, (honest_iff hs _).2 ?_⟩
  intro r hr
  cases hr
  refine ⟨hfinished, fun _ _ _ token htoken => ?_⟩
  cases htoken
  rfl

/-- After rejected credentials the second call returns without a token. -/
theorem not_honest_iff : ¬ ∀ s, sessions.Reachable s → ∀ c, Honest s c := by
  intro hhonest
  let c := AuthCall.login (cloudMeets (.ok ()) (.error ⟨[.valueError], "bad password"⟩))
  obtain ⟨s, hs, hreturns, htoken⟩ :
      ∃ s, sessions.Reachable s ∧ (s.after c).failed = false ∧
        (s.after c).api.token = none :=
    ReachableUnder.of_replay [c] freshSession_init (by decide)
  obtain ⟨_, t, _, ht, _⟩ := (hhonest s hs c _ rfl).1 hreturns
  rw [htoken] at ht
  cases ht

end EzvizHp7.Cloud
