import EzvizHp7.Cloud.Authentication

/-!
# What `fetch_lan_aes_key` raises

A miss runs through `ensure_client`, the token refresh and up to two EUCAS requests, each with its
own handler. The errors that get past all of them are told from the client's state and the replies
of the cloud.
-/

namespace EzvizHp7.Cloud

open Cpd7 (Bytes)
open Hp7Api Transition System

def refreshErrors : List ExcClass :=
  [.pyEzvizError, .httpError, .invalidHost, .invalidUrl, .authTokenExpired,
    .authVerificationCode, .valueError, .keyError, .osError]

def Exc.isRuntimeError (exc : Exc) : Bool := exc.isInstance [.runtimeError]

/-- Not caught by a handler for the classes, and no `RuntimeError`. -/
def Exc.Escapes (exc : Exc) (caught : List ExcClass) : Prop :=
  exc.isInstance caught = false ∧ exc.isRuntimeError = false

/-- The key in what EUCAS answered. -/
def keyOf (reply : Except Exc Document) : Except Exc String := do
  let info ← reply
  let response ← info.get "Response" (.dict [])
  let session ← response.get "Session" (.dict [])
  session.get "@Key" ""

/-- `ensure_client` returns. -/
def Ensured (api : Hp7Api) (r : Replies) : Prop :=
  api.client = true ∨ r.newClient = .ok () ∧
    (truthy api.token = true ∨ ∃ token, r.firstLogin = .ok token)

def tokenEnsured (api : Hp7Api) (r : Replies) : Option Token :=
  if api.client || truthy api.token then api.token else r.firstLogin.toOption.join

/-- The refresh returns, or its error is only logged. -/
def Refreshed (r : Replies) : Prop :=
  ∀ exc, r.refresh = .error exc → exc.isInstance refreshErrors = true

def tokenRefreshed (api : Hp7Api) (r : Replies) : Option Token :=
  match r.refresh with
  | .ok token => if truthy token then token else tokenEnsured api r
  | .error _ => tokenEnsured api r

/-- A miss gets as far as EUCAS. -/
def ReachesEucas (api : Hp7Api) (r : Replies) : Prop :=
  Ensured api r ∧ Refreshed r ∧ truthy (tokenRefreshed api r) = true

/-- What `_try_once` comes to with the token. -/
def attempted (token : Option Token) (reply : Except Exc Document) : Except Exc String :=
  if (serviceUrls token).isNone then .error missingServiceUrls else keyOf reply

/-- The first attempt fails: `EzvizCAS` refuses the token, or the request or its answer is no
good. -/
def FirstAttemptFails (api : Hp7Api) (r : Replies) : Prop :=
  ∃ exc, attempted (tokenRefreshed api r) r.eucas = .error exc

/-- The key of the first attempt that has one, with this token, or of the second, with that of the
new login. -/
def keyAnswered (token : Option Token) (r : Replies) : Option String :=
  match attempted token r.eucas with
  | .ok key => some key
  | .error _ =>
    match r.relogin with
    | .ok token => (attempted token r.eucasAgain).toOption
    | .error _ => none

/-- EUCAS answers a key of 16 characters that cannot be encoded. -/
def AnswersUnencodable (token : Option Token) (r : Replies) : Prop :=
  ∃ key, keyAnswered token r = some key ∧ key.length = 16 ∧ ¬∀ c ∈ key.toList, c.toNat < 128

/-- The ways of a miss past every handler. -/
inductive Unforeseen (api : Hp7Api) (r : Replies) : Prop
  | newClient (hclient : api.client = false) (exc : Exc) (hnew : r.newClient = .error exc)
      (hexc : exc.Escapes clientErrors)
  | firstLogin (hclient : api.client = false) (hnew : r.newClient = .ok ())
      (htoken : truthy api.token = false) (exc : Exc) (hlogin : r.firstLogin = .error exc)
      (hexc : exc.Escapes clientErrors)
  | refresh (hensured : Ensured api r) (exc : Exc) (hrefresh : r.refresh = .error exc)
      (hexc : exc.Escapes refreshErrors)
  | secondCas (hreaches : ReachesEucas api r) (hfirst : FirstAttemptFails api r)
      (token : Option Token) (hrelogin : r.relogin = .ok token)
      (hmissing : serviceUrls token = none)
  | secondAttempt (hreaches : ReachesEucas api r) (hfirst : FirstAttemptFails api r)
      (token : Option Token) (hrelogin : r.relogin = .ok token) (exc : Exc)
      (hagain : keyOf r.eucasAgain = .error exc) (hexc : exc.isRuntimeError = false)
  | encode (hreaches : ReachesEucas api r)
      (hanswers : AnswersUnencodable (tokenRefreshed api r) r)

/-- The answer of `fetch_lan_aes_key` is a key of 16 bytes or a `RuntimeError`, and EUCAS was
asked at most twice. -/
structure KeyContract (a : Answer) : Prop where
  returns : ∀ key, a.result = .ok key → ∃ k, key = some k ∧ k.length = 16
  raises : ∀ exc, a.result = .error exc → exc.isRuntimeError = true
  asks : a.calls.countP (fun c => c matches .casGetEncryption _) ≤ 2

variable {w : Traced} {r : Replies}

namespace Traced

def eucasCalls (w : Traced) : Nat := w.calls.countP fun c => c matches .casGetEncryption _

@[simp] theorem eucasCalls_logged (w : Traced) (c : CloudCall) :
    (w.logged c).eucasCalls = w.eucasCalls + if c matches .casGetEncryption _ then 1 else 0 := by
  simp [eucasCalls, logged]

@[simp] theorem eucasCalls_loggedIn (w : Traced) (token : Option Token) :
    (w.loggedIn token).eucasCalls = w.eucasCalls := by
  simp [eucasCalls, loggedIn, logged]

@[simp] theorem eucasCalls_bumped (w : Traced) (f : ActivityStats → ActivityStats) :
    (w.bumped f).eucasCalls = w.eucasCalls := rfl

def asked (w : Traced) (bare : String) : Traced :=
  if (serviceUrls w.api.token).isNone then w else w.logged (.casGetEncryption bare)

@[simp] theorem asked_api (w : Traced) (bare : String) : (w.asked bare).api = w.api := by
  unfold asked
  split <;> rfl

theorem eucasCalls_asked (w : Traced) (bare : String) :
    (w.asked bare).eucasCalls =
      w.eucasCalls + if (serviceUrls w.api.token).isNone then 0 else 1 := by
  unfold asked
  split <;> simp

end Traced

private theorem clientFailed_escapes (exc : Exc) :
    (clientFailed exc).isRuntimeError = false ↔ exc.Escapes clientErrors := by
  unfold clientFailed Exc.Escapes
  split
  · rename_i hcaught
    refine iff_of_false ?_ fun h => absurd h.1 (by simp [hcaught])
    simp [Exc.isRuntimeError, Exc.isInstance]
  · rename_i huncaught
    simp [huncaught]

private theorem loginFailed_escapes (exc : Exc) :
    (loginFailed exc).Escapes clientErrors ↔ exc.Escapes clientErrors := by
  unfold loginFailed
  split
  · rename_i hrejected
    have hcaught : exc.isInstance clientErrors = true := by
      simp only [Exc.isInstance, clientErrors, List.any_cons, List.any_nil] at hrejected ⊢
      grind
    refine iff_of_false ?_ fun h => absurd h.1 (by simp [hcaught])
    simp [Exc.Escapes, Exc.isInstance, clientErrors]
  · rfl

theorem ensureClient_returns (h : Ensured w.api r) :
    ∃ w', (ensureClient r).run w = .ok () w' ∧ w'.api.client = true ∧
      w'.api.token = tokenEnsured w.api r ∧ w'.eucasCalls = w.eucasCalls := by
  rw [ensureClient_run]
  cases hclient : w.api.client with
  | true => exact ⟨w, rfl, hclient, by simp [tokenEnsured, hclient], rfl⟩
  | false =>
    obtain ⟨hnew, htoken⟩ := h.resolve_left (by simp [hclient])
    cases hheld : truthy w.api.token with
    | true => simp [hnew, Traced.withClient, tokenEnsured, hheld, Traced.eucasCalls]
    | false =>
      obtain ⟨token, hlogin⟩ := htoken.resolve_left (by simp [hheld])
      simp [hnew, hlogin, Traced.withClient, Traced.loggedIn, Traced.logged, tokenEnsured, hheld,
        hclient, Traced.eucasCalls, Except.toOption]

theorem ensureClient_raises (h : ¬Ensured w.api r) :
    ∃ exc w', (ensureClient r).run w = .error exc w' ∧ w'.eucasCalls = w.eucasCalls ∧
      (exc.isRuntimeError = false ↔ Unforeseen w.api r) := by
  have hclient : w.api.client = false := by
    rw [← Bool.not_eq_true]
    exact fun hclient => h (.inl hclient)
  rw [ensureClient_run, if_neg (by simp [hclient])]
  cases hnew : r.newClient with
  | error exc =>
    refine ⟨_, w, rfl, rfl, (clientFailed_escapes exc).trans ⟨.newClient hclient exc hnew, ?_⟩⟩
    intro hunforeseen
    cases hunforeseen with
    | newClient _ exc' hnew' hexc =>
      cases hnew.symm.trans hnew'
      exact hexc
    | firstLogin _ hnew' => cases hnew.symm.trans hnew'
    | refresh hensured => exact absurd hensured h
    | secondCas hreaches | secondAttempt hreaches | encode hreaches => exact absurd hreaches.1 h
  | ok =>
    have htoken : truthy w.api.token = false := by
      rw [← Bool.not_eq_true]
      exact fun htoken => h (.inr ⟨hnew, .inl htoken⟩)
    cases hlogin : r.firstLogin with
    | ok token => exact absurd (.inr ⟨hnew, .inr ⟨token, hlogin⟩⟩) h
    | error exc =>
      simp only [htoken, Bool.false_eq_true, if_false]
      refine ⟨_, _, rfl, by simp [Traced.eucasCalls, Traced.withClient, Traced.logged], ?_⟩
      rw [clientFailed_escapes, loginFailed_escapes]
      refine ⟨.firstLogin hclient hnew htoken exc hlogin, fun hunforeseen => ?_⟩
      cases hunforeseen with
      | newClient _ exc' hnew' => cases hnew.symm.trans hnew'
      | firstLogin _ _ _ exc' hlogin' hexc =>
        cases hlogin.symm.trans hlogin'
        exact hexc
      | refresh hensured => exact absurd hensured h
      | secondCas hreaches | secondAttempt hreaches | encode hreaches => exact absurd hreaches.1 h

theorem refreshToken_returns (hclient : w.api.client = true) (h : Refreshed r) :
    ∃ w', (refreshToken r).run w = .ok () w' ∧ w'.api.client = true ∧
      w'.api.token = (match r.refresh with
        | .ok token => if truthy token then token else w.api.token
        | .error _ => w.api.token) ∧
      w'.eucasCalls = w.eucasCalls := by
  cases hrefresh : r.refresh with
  | ok token =>
    cases htoken : truthy token with
    | true => simp [refreshToken, hclient, call, htoken, hrefresh, Traced.eucasCalls]
    | false => simp [refreshToken, hclient, call, htoken, hrefresh, Traced.eucasCalls]
  | error exc =>
    have hcaught := h exc hrefresh
    simp only [refreshErrors] at hcaught
    simp [refreshToken, hclient, call, hrefresh, hcaught, Traced.eucasCalls]

theorem refreshToken_raises (hclient : w.api.client = true) {exc : Exc}
    (hrefresh : r.refresh = .error exc) (huncaught : exc.isInstance refreshErrors = false) :
    ∃ w', (refreshToken r).run w = .error exc w' ∧ w'.eucasCalls = w.eucasCalls := by
  simp only [refreshErrors] at huncaught
  simp [refreshToken, hclient, call, hrefresh, huncaught, Traced.eucasCalls]

theorem tryOnce_run (bare : String) (reply : Except Exc Document) (w : Traced) :
    (tryOnce bare reply).run w =
      match attempted w.api.token reply with
      | .ok key => .ok key (w.asked bare)
      | .error exc => .error exc (w.asked bare) := by
  unfold attempted Traced.asked
  cases hurls : (serviceUrls w.api.token).isNone with
  | true =>
    rw [Option.isNone_iff_eq_none] at hurls
    simp [tryOnce, hurls]
  | false =>
    simp only [tryOnce, EStateM.run_bind, EStateM.run_get, hurls, Bool.false_eq_true, if_false]
    cases reply with
    | error exc => rfl
    | ok info =>
      change ((match keyOf (.ok info) with
        | .ok key => pure key
        | .error exc => throw exc : Method String).run _) = _
      cases keyOf (.ok info) <;> rfl

def SecondAttemptFails (token : Option Token) (r : Replies) : Prop :=
  ∃ exc₁ token₂ exc, attempted token r.eucas = .error exc₁ ∧ r.relogin = .ok token₂ ∧
    attempted token₂ r.eucasAgain = .error exc ∧ exc.isRuntimeError = false

private theorem tryTwice_ends (bare : String) (hclient : w.api.client = true) :
    ∃ w', w'.eucasCalls ≤ w.eucasCalls + 2 ∧
      ((∃ key, keyAnswered w.api.token r = some key ∧
          (tryTwice bare r).run w = .ok key w') ∨
        keyAnswered w.api.token r = none ∧ ∃ exc, (tryTwice bare r).run w = .error exc w' ∧
          (exc.isRuntimeError = false ↔ SecondAttemptFails w.api.token r)) := by
  have hasked (w : Traced) : (w.asked bare).eucasCalls ≤ w.eucasCalls + 1 := by
    rw [Traced.eucasCalls_asked]
    split <;> omega
  let failed (s : ActivityStats) : ActivityStats := { s with errorsCas := s.errorsCas + 1 }
  let relogged (s : ActivityStats) : ActivityStats :=
    { s with cloudRelogins := s.cloudRelogins + 1 }
  have hfirst := hasked w
  unfold tryTwice keyAnswered SecondAttemptFails
  cases hkey : attempted w.api.token r.eucas with
  | ok key =>
    refine ⟨w.asked bare, by omega, .inl ⟨key, rfl, ?_⟩⟩
    simp [tryOnce_run, hkey]
  | error exc₁ =>
    cases hrelogin : r.relogin with
    | error exc₂ =>
      refine ⟨(((w.asked bare).bumped failed).logged .login).bumped failed, ?_, .inr ⟨rfl,
        ⟨[.runtimeError], "AES fetch failed and re-login failed (CAS: " ++ exc₁.text ++
          "; relogin: " ++ (loginFailed exc₂).text ++ ")"⟩, ?_, ?_⟩⟩
      · simp
        omega
      · simp [tryOnce_run, hkey, bump_run, loginAndStoreToken_run, hclient, failed]
      · simp [Exc.isRuntimeError, Exc.isInstance]
    | ok token =>
      have hsecond := hasked ((((w.asked bare).bumped failed).loggedIn token).bumped relogged)
      simp only [Traced.eucasCalls_bumped, Traced.eucasCalls_loggedIn] at hsecond
      refine ⟨((((w.asked bare).bumped failed).loggedIn token).bumped relogged).asked bare,
        by omega, ?_⟩
      cases hagain : attempted token r.eucasAgain with
      | ok key =>
        refine .inl ⟨key, by simp [hagain, Except.toOption], ?_⟩
        simp [tryOnce_run, hkey, bump_run, loginAndStoreToken_run, hclient, hagain, failed,
          relogged]
      | error exc =>
        refine .inr ⟨by simp [hagain, Except.toOption], exc, ?_, ?_⟩
        · simp [tryOnce_run, hkey, bump_run, loginAndStoreToken_run, hclient, hagain, failed,
            relogged]
        · simp [hagain]

theorem invokeP2pRegister_returns (reply : Except Exc Unit) (w : Traced) :
    ∃ w', (invokeP2pRegister reply).run w = .ok () w' ∧ w'.eucasCalls = w.eucasCalls := by
  unfold invokeP2pRegister
  by_cases hsession : ((w.api.token.getD []).lookup "session_id").getD "" = ""
  · simp [hsession]
  · cases reply <;> simp [hsession, call, Traced.eucasCalls]

private theorem encodeAscii_eq (s : String) : encodeAscii s =
    if ∀ c ∈ s.toList, c.toNat < 128 then .ok (s.toList.map fun c => UInt8.ofNat c.toNat)
    else .error ⟨[.valueError], "'ascii' codec can't encode: ordinal not in range(128)"⟩ := by
  simp [encodeAscii]

private theorem storeAesKey_ends (bare key : String) (w : Traced) :
    ∃ w', w'.eucasCalls = w.eucasCalls ∧
      ((∃ k, (storeAesKey bare key r).run w = .ok k w' ∧ k.length = 16 ∧ key.length = 16 ∧
        ∀ c ∈ key.toList, c.toNat < 128) ∨
      ∃ exc, (storeAesKey bare key r).run w = .error exc w' ∧
        (exc.isRuntimeError = false ↔ key.length = 16 ∧ ¬∀ c ∈ key.toList, c.toNat < 128)) := by
  unfold storeAesKey
  by_cases hlength : key.length = 16
  · by_cases hascii : ∀ c ∈ key.toList, c.toNat < 128
    · obtain ⟨w', hregister, hcalls⟩ := invokeP2pRegister_returns r.p2pRegister
        { w with
          api.aesCache := w.api.aesCache.insert bare
            ⟨key.toList.map fun c => UInt8.ofNat c.toNat, r.fetchedAt⟩ }
      refine ⟨w', hcalls, .inl
        ⟨key.toList.map fun c => UInt8.ofNat c.toNat, ?_, ?_, hlength, hascii⟩⟩
      · simp [hlength, encodeAscii_eq, if_pos hascii, hregister]
      · rw [List.length_map, String.length_toList, hlength]
    · refine ⟨w, rfl, .inr ⟨_, by simp [hlength, encodeAscii_eq, if_neg hascii]; rfl, ?_⟩⟩
      exact iff_of_true rfl ⟨hlength, hascii⟩
  · refine ⟨w, rfl, .inr ⟨_, by simp [hlength]; rfl, ?_⟩⟩
    exact iff_of_false (by simp [Exc.isRuntimeError, Exc.isInstance]) fun h => hlength h.1

private theorem attempted_error (token : Option Token) (reply : Except Exc Document) :
    (∃ exc, attempted token reply = .error exc ∧ exc.isRuntimeError = false) ↔
      serviceUrls token = none ∨ ∃ exc, keyOf reply = .error exc ∧ exc.isRuntimeError = false := by
  unfold attempted
  cases hurls : serviceUrls token with
  | none => simp [missingServiceUrls, Exc.isRuntimeError, Exc.isInstance]
  | some urls => simp

private theorem unforeseen_of_ensured {api : Hp7Api} (hensured : Ensured api r) :
    Unforeseen api r ↔ (∃ exc, r.refresh = .error exc ∧ exc.Escapes refreshErrors) ∨
      ReachesEucas api r ∧ (SecondAttemptFails (tokenRefreshed api r) r ∨
        AnswersUnencodable (tokenRefreshed api r) r) := by
  constructor
  · intro h
    cases h with
    | newClient hclient exc hnew =>
      rcases hensured with hthere | ⟨hnew', _⟩
      · simp [hclient] at hthere
      · cases hnew.symm.trans hnew'
    | firstLogin hclient hnew htoken exc hlogin =>
      rcases hensured with hthere | ⟨_, htoken' | ⟨token, hlogin'⟩⟩
      · simp [hclient] at hthere
      · simp [htoken] at htoken'
      · cases hlogin.symm.trans hlogin'
    | refresh _ exc hrefresh hexc => exact .inl ⟨exc, hrefresh, hexc⟩
    | secondCas hreaches hfirst token hrelogin hmissing =>
      obtain ⟨exc₁, hfirst⟩ := hfirst
      obtain ⟨exc, hagain, hexc⟩ := (attempted_error token r.eucasAgain).2 (.inl hmissing)
      exact .inr ⟨hreaches, .inl ⟨exc₁, token, exc, hfirst, hrelogin, hagain, hexc⟩⟩
    | secondAttempt hreaches hfirst token hrelogin exc hagain hexc =>
      obtain ⟨exc₁, hfirst⟩ := hfirst
      obtain ⟨exc, hagain, hexc⟩ :=
        (attempted_error token r.eucasAgain).2 (.inr ⟨exc, hagain, hexc⟩)
      exact .inr ⟨hreaches, .inl ⟨exc₁, token, exc, hfirst, hrelogin, hagain, hexc⟩⟩
    | encode hreaches hanswers => exact .inr ⟨hreaches, .inr hanswers⟩
  · rintro (⟨exc, hrefresh, hexc⟩ | ⟨hreaches, hfails | hanswers⟩)
    · exact .refresh hensured exc hrefresh hexc
    · obtain ⟨exc₁, token, exc, hfirst, hrelogin, hagain, hexc⟩ := hfails
      rcases (attempted_error token r.eucasAgain).1 ⟨exc, hagain, hexc⟩ with
        hmissing | ⟨exc', hagain', hexc'⟩
      · exact .secondCas hreaches ⟨exc₁, hfirst⟩ token hrelogin hmissing
      · exact .secondAttempt hreaches ⟨exc₁, hfirst⟩ token hrelogin exc' hagain' hexc'
    · exact .encode hreaches hanswers

private theorem tryTwice_stores (bare : String) (hclient : w.api.client = true) :
    ∃ w', w'.eucasCalls ≤ w.eucasCalls + 2 ∧
      ((∃ k, (tryTwice bare r >>= fun key => storeAesKey bare key r).run w = .ok k w' ∧
        k.length = 16 ∧
        ¬(SecondAttemptFails w.api.token r ∨ AnswersUnencodable w.api.token r)) ∨
      ∃ exc, (tryTwice bare r >>= fun key => storeAesKey bare key r).run w = .error exc w' ∧
        (exc.isRuntimeError = false ↔
          SecondAttemptFails w.api.token r ∨ AnswersUnencodable w.api.token r)) := by
  obtain ⟨w₁, hcalls, ⟨key, hkey, hrun⟩ | ⟨hnone, exc, hrun, hexc⟩⟩ :=
    tryTwice_ends (r := r) bare hclient
  · have hsucceeds : ¬SecondAttemptFails w.api.token r := by
      rintro ⟨exc₁, token, exc, hfirst, hrelogin, hagain, _⟩
      simp [keyAnswered, hfirst, hrelogin, hagain, Except.toOption] at hkey
    have hanswers : AnswersUnencodable w.api.token r ↔
        key.length = 16 ∧ ¬∀ c ∈ key.toList, c.toNat < 128 := by
      simp [AnswersUnencodable, hkey]
    obtain ⟨w₂, hcalls₂, ⟨k, hstore, hk, hlength, hascii⟩ | ⟨exc, hstore, hexc⟩⟩ :=
      storeAesKey_ends (r := r) bare key w₁
    · refine ⟨w₂, by omega, .inl ⟨k, by simp [hrun, hstore], hk, ?_⟩⟩
      rintro (hfails | hunencodable)
      · exact hsucceeds hfails
      · exact (hanswers.1 hunencodable).2 hascii
    · refine ⟨w₂, by omega, .inr ⟨exc, by simp [hrun, hstore], ?_⟩⟩
      rw [hexc, hanswers]
      exact (or_iff_right hsucceeds).symm
  · refine ⟨w₁, hcalls, .inr ⟨exc, by simp [hrun], ?_⟩⟩
    rw [hexc]
    refine (or_iff_left ?_).symm
    rintro ⟨key, hkey, _⟩
    cases hnone.symm.trans hkey

private theorem fetchFromEucas_ends (bare : String) (force : Bool) (w : Traced) (r : Replies) :
    ∃ w', w'.eucasCalls ≤ w.eucasCalls + 2 ∧
      ((∃ key, (fetchFromEucas bare force r).run w = .ok key w' ∧ key.length = 16 ∧
        ¬Unforeseen w.api r) ∨
      ∃ exc, (fetchFromEucas bare force r).run w = .error exc w' ∧
        (exc.isRuntimeError = false ↔ Unforeseen w.api r)) := by
  by_cases hensured : Ensured w.api r
  · obtain ⟨w₁, hrun₁, hclient₁, htoken₁, hcalls₁⟩ := ensureClient_returns hensured
    rw [unforeseen_of_ensured hensured]
    by_cases hrefreshed : Refreshed r
    · obtain ⟨w₂, hrun₂, hclient₂, htoken₂, hcalls₂⟩ := refreshToken_returns hclient₁ hrefreshed
      have htoken : w₂.api.token = tokenRefreshed w.api r := by
        rw [htoken₂, htoken₁, tokenRefreshed]
      have hcaught : ¬∃ exc, r.refresh = .error exc ∧ exc.Escapes refreshErrors := by
        rintro ⟨exc, hrefresh, hexc, _⟩
        simp [hrefreshed exc hrefresh] at hexc
      rw [or_iff_right hcaught]
      by_cases hheld : truthy w₂.api.token = true
      · have hreaches : ReachesEucas w.api r := ⟨hensured, hrefreshed, htoken ▸ hheld⟩
        obtain ⟨f, hrest⟩ : ∃ f, (fetchFromEucas bare force r).run w =
            (tryTwice bare r >>= fun key => storeAesKey bare key r).run (w₂.bumped f) := by
          cases force <;> exact ⟨_, by simp [fetchFromEucas, hrun₁, hrun₂, hheld, bump_run]; rfl⟩
        obtain ⟨w₃, hcalls₃, hends⟩ := tryTwice_stores (w := w₂.bumped f) bare hclient₂
        rw [Traced.eucasCalls_bumped] at hcalls₃
        rw [Traced.bumped_token, htoken] at hends
        rw [hrest, and_iff_right hreaches]
        exact ⟨w₃, by omega, hends⟩
      · have hnot : ¬ReachesEucas w.api r := fun h => hheld (htoken ▸ h.2.2)
        refine ⟨w₂, by omega, .inr ⟨_, by simp [fetchFromEucas, hrun₁, hrun₂, hheld]; rfl, ?_⟩⟩
        exact iff_of_false (by simp [Exc.isRuntimeError, Exc.isInstance]) fun h => hnot h.1
    · simp only [Refreshed, Classical.not_imp, not_forall, Bool.not_eq_true] at hrefreshed
      obtain ⟨exc, hrefresh, huncaught⟩ := hrefreshed
      obtain ⟨w₂, hrun₂, hcalls₂⟩ := refreshToken_raises hclient₁ hrefresh huncaught
      have hnot : ¬ReachesEucas w.api r := fun h => by
        simp [h.2.1 exc hrefresh] at huncaught
      refine ⟨w₂, by omega, .inr ⟨exc, by simp [fetchFromEucas, hrun₁, hrun₂], ?_⟩⟩
      simp [hrefresh, Exc.Escapes, huncaught, hnot]
  · obtain ⟨exc, w₁, hrun₁, hcalls₁, hexc⟩ := ensureClient_raises hensured
    refine ⟨w₁, by omega, .inr ⟨exc, ?_, hexc⟩⟩
    simp [fetchFromEucas, hrun₁]

inductive ClientCall
  | auth (c : AuthCall)
  | cache (op : Op)

def ClientCall.after (api : Hp7Api) : ClientCall → Hp7Api
  | .auth c => (Method.answer c.run (fun _ => none) api).2
  | .cache op => (perform op api).2

/-- A client from its construction on. -/
def clients : Transition.System Hp7Api ClientCall where
  init api := api.client = false ∧ api.aesCache = ∅
  step c api := some (c.after api)

private theorem answer_api {α : Type} (m : Method α) (key : α → Option Bytes) (api : Hp7Api) :
    (Method.answer m key api).2 = (m.left ⟨api, []⟩).api := by
  rw [Method.answer_eq, EStateM.left]
  cases m.run ⟨api, []⟩ <;> rfl

private theorem auth_aesCache (c : AuthCall) (api : Hp7Api) :
    (Method.answer c.run (fun _ => none) api).2.aesCache = api.aesCache := by
  rw [answer_api]
  cases c with
  | ensureClient r | login r =>
    change ((ensureClient r).left ⟨api, []⟩).api.aesCache = api.aesCache
    rw [EStateM.left, ensureClient_run]
    split_ifs
    · rfl
    · cases r.newClient <;> rfl
    · cases r.newClient with
      | error => rfl
      | ok => cases r.firstLogin <;> rfl
  | close logout =>
    have hclose := close_client logout ⟨api, []⟩
    change ((Hp7Api.close logout).left ⟨api, []⟩).api.aesCache = api.aesCache
    rw [EStateM.left]
    cases hrun : (Hp7Api.close logout).run ⟨api, []⟩ with
    | ok | error =>
      rw [hrun] at hclose
      simp only [hclose.1]

private theorem cached_length {api : Hp7Api} (h : clients.Reachable api) (b : String)
    (cached : CachedKey) : api.aesCache.lookup b = some cached → cached.key.length = 16 := by
  revert b cached
  refine h.invariant
    (P := fun api => ∀ b cached, api.aesCache.lookup b = some cached → cached.key.length = 16)
    ?_ fun api c api' _ hkeys _ hstep => ?_
  · rintro api ⟨_, hcache⟩ b cached hcached
    rw [hcache] at hcached
    cases hcached
  · cases hstep
    cases c with
    | auth c =>
      simp only [ClientCall.after, auth_aesCache]
      exact hkeys
    | cache op => exact (perform_performed op api).key_length hkeys

/-- A call keeps its contract exactly where the cache answers it or no error gets past the
handlers. -/
theorem keyContract_iff {api : Hp7Api} (hapi : clients.Reachable api) (serial : String)
    (force : Bool) (r : Replies) :
    KeyContract (perform (.fetchLanAesKey serial force r) api).1 ↔
      force = false ∧ api.Hits serial r.now ∨ ¬Unforeseen api r := by
  by_cases hhits : force = false ∧ api.Hits serial r.now
  · refine iff_of_true ?_ (.inl hhits)
    obtain ⟨rfl, cached, hcached, hage⟩ := hhits
    obtain ⟨w, hrun, hcalls, _⟩ := fetchLanAesKey_hit (w := ⟨api, []⟩) hcached hage
    have hanswer : (perform (.fetchLanAesKey serial false r) api).1 =
        ⟨[], .ok (some cached.key)⟩ := by
      simp only [perform, Method.answer, hrun, hcalls]
    rw [hanswer]
    refine ⟨?_, by simp, by simp⟩
    rintro _ ⟨⟩
    exact ⟨cached.key, rfl, cached_length hapi _ cached hcached⟩
  · rw [or_iff_right hhits]
    have hmiss : force = true ∨ ¬api.Hits serial r.now := by
      cases force <;> simp_all
    have hrun := fetchLanAesKey_miss (w := ⟨api, []⟩) hmiss
    obtain ⟨w, hcalls, ⟨key, hends, hkey, hforeseen⟩ | ⟨exc, hends, hexc⟩⟩ :=
      fetchFromEucas_ends (bareSerial serial) force ⟨api, []⟩ r
    · have heucas : fetchFromEucas (bareSerial serial) force r ⟨api, []⟩ = .ok key w := hends
      have hanswer : (perform (.fetchLanAesKey serial force r) api).1 =
          ⟨w.calls, .ok (some key)⟩ := by
        simp only [perform, Method.answer, hrun, heucas]
      rw [hanswer]
      refine iff_of_true ⟨?_, by simp, hcalls⟩ hforeseen
      rintro _ ⟨⟩
      exact ⟨key, rfl, hkey⟩
    · have heucas : fetchFromEucas (bareSerial serial) force r ⟨api, []⟩ = .error exc w := hends
      have hanswer : (perform (.fetchLanAesKey serial force r) api).1 =
          ⟨w.calls, .error exc⟩ := by
        simp only [perform, Method.answer, hrun, heucas]
      rw [hanswer, ← hexc, Bool.not_eq_false]
      constructor
      · exact fun h => h.raises exc rfl
      · refine fun h => ⟨by simp, ?_, hcalls⟩
        rintro _ ⟨⟩
        exact h

def answersAgain (eucasAgain : Except Exc Document) : Replies :=
  { cloudMeets (.ok ()) (.ok (some (issuedToken "s1"))) with
    relogin := .ok (some (issuedToken "s2"))
    eucas := .error ⟨[.osError], "timed out"⟩
    eucasAgain := eucasAgain }

def keyDocument (key : String) : Document :=
  .dict [("Response", .dict [("Session", .dict [("@Key", key)])])]

private theorem new_reachable (token : Option Token) (stats : Option ActivityStats) :
    clients.Reachable (.new token stats) := .init ⟨rfl, rfl⟩

theorem keyContract_iff_secondAttempt :
    KeyContract (perform (.fetchLanAesKey "BE-Q01" true
      (answersAgain (.ok (keyDocument (String.ofList (List.replicate 16 '7'))))))
      (.new none none)).1 := by
  refine (keyContract_iff (new_reachable none none) _ _ _).2 (.inr fun h => ?_)
  cases h with
  | newClient _ exc hnew => cases hnew
  | firstLogin _ _ _ exc hlogin => cases hlogin
  | refresh _ exc hrefresh => cases hrefresh
  | secondCas _ _ token hrelogin hmissing =>
    cases hrelogin
    exact absurd hmissing (by decide)
  | secondAttempt _ _ _ _ exc hagain => cases hagain
  | encode _ hanswers =>
    obtain ⟨key, hkey, _, hascii⟩ := hanswers
    obtain rfl : String.ofList (List.replicate 16 '7') = key := Option.some.inj hkey
    apply hascii
    intro c hc
    rw [String.toList_ofList] at hc
    rw [List.eq_of_mem_replicate hc]
    decide

/-- A key of 16 characters outside ASCII raises a `UnicodeEncodeError`. -/
theorem not_keyContract_iff :
    ¬ ∀ api, clients.Reachable api → ∀ serial force r,
      KeyContract (perform (.fetchLanAesKey serial force r) api).1 := by
  intro hcontract
  let r := answersAgain (.ok (keyDocument (String.ofList (List.replicate 16 (Char.ofNat 0xe9)))))
  have hanswer : (perform (.fetchLanAesKey "BE-Q01" true r) (.new none none)).1.result =
      .error ⟨[.valueError], "'ascii' codec can't encode: ordinal not in range(128)"⟩ := by
    decide +kernel
  have hraises := (hcontract (.new none none) (new_reachable none none) "BE-Q01" true r).raises
  exact absurd (hraises _ hanswer) (by decide)

end EzvizHp7.Cloud
