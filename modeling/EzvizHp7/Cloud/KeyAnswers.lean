import EzvizHp7.Cloud.AesCache
import EzvizHp7.Cloud.KeyErrors

/-!
# What a fetch that succeeds has asked

A key that does not come from the cache is the answer of one of the two attempts, and the token
that the client holds is one that it was given.
-/

namespace EzvizHp7.Cloud

open Cpd7 (Bytes)

namespace Hp7Api

section Tokens

open EStateM (Keeps)

variable {issued : Token → Prop}

def HoldsIssued (issued : Token → Prop) (w : Traced) : Prop :=
  ∀ token, w.api.token = some token → issued token

theorem HoldsIssued.of_left {α : Type} {m : Method α} {w w' : Traced}
    (h : HoldsIssued issued (m.left w))
    (hends : (∃ a, m w = .ok a w') ∨ ∃ exc, m w = .error exc w') : HoldsIssued issued w' := by
  rcases hends with ⟨a, hrun⟩ | ⟨exc, hrun⟩
  · rwa [EStateM.left_of_ok (m := m) hrun] at h
  · rwa [EStateM.left_of_error (m := m) hrun] at h

def Issues (issued : Token → Prop) (reply : Except Exc (Option Token)) : Prop :=
  ∀ token, reply = .ok (some token) → issued token

private theorem holds_bump (f : ActivityStats → ActivityStats) :
    EStateM.Keeps (HoldsIssued issued) (bump f) := Keeps.modify fun _ h => h

private theorem holds_call {α : Type} (c : CloudCall) (reply : Except Exc α) :
    EStateM.Keeps (HoldsIssued issued) (call c reply) := by
  apply Keeps.bind
  · exact Keeps.modify fun _ h => h
  · intro _
    cases reply
    · exact Keeps.raise _
    · exact Keeps.pure _

private theorem holds_loginAndStoreToken {reply : Except Exc (Option Token)}
    (h : Issues issued reply) : EStateM.Keeps (HoldsIssued issued) (loginAndStoreToken reply) := by
  intro w hw
  cases hclient : w.api.client with
  | false => simpa [loginAndStoreToken, EStateM.left, hclient] using hw
  | true =>
    rw [EStateM.left, loginAndStoreToken_run reply hclient]
    cases reply with
    | error exc => exact hw
    | ok token =>
      intro t ht
      exact h t (congrArg Except.ok ht)

theorem holds_ensureClient {r : Replies} (h : Issues issued r.firstLogin) :
    EStateM.Keeps (HoldsIssued issued) (ensureClient r) := by
  intro w hw
  rw [EStateM.left, ensureClient_run]
  cases w.api.client with
  | true => exact hw
  | false =>
    cases r.newClient with
    | error exc => exact hw
    | ok =>
      cases truthy w.api.token with
      | true => exact hw
      | false =>
        cases hlogin : r.firstLogin with
        | error exc => exact hw
        | ok token =>
          intro t ht
          exact h t (hlogin.trans (congrArg Except.ok ht))

theorem holds_refreshToken {r : Replies} (h : Issues issued r.refresh) :
    EStateM.Keeps (HoldsIssued issued) (refreshToken r) := by
  intro w hw
  cases hclient : w.api.client with
  | false => simpa [refreshToken, EStateM.left, hclient] using hw
  | true =>
    cases hrefresh : r.refresh with
    | error exc =>
      by_cases hcaught : exc.isInstance refreshErrors = true <;>
        simp only [refreshErrors] at hcaught <;>
        simpa [HoldsIssued, refreshToken, EStateM.left, hclient, call, hrefresh, hcaught] using hw
    | ok token =>
      cases htoken : truthy token with
      | false =>
        simpa [HoldsIssued, refreshToken, EStateM.left, hclient, call, hrefresh, htoken] using hw
      | true =>
        intro t ht
        simp [refreshToken, EStateM.left, hclient, call, hrefresh, htoken] at ht
        exact h t (hrefresh.trans (congrArg Except.ok ht))

private theorem holds_tryOnce (bare : String) (reply : Except Exc Document) :
    EStateM.Keeps (HoldsIssued issued) (tryOnce bare reply) := by
  intro w hw
  have hasked : HoldsIssued issued (w.asked bare) := by
    rw [HoldsIssued, Traced.asked_api]
    exact hw
  rw [EStateM.left, tryOnce_run]
  cases attempted w.api.token reply <;> exact hasked

private theorem holds_tryTwice (bare : String) {r : Replies} (h : Issues issued r.relogin) :
    EStateM.Keeps (HoldsIssued issued) (tryTwice bare r) := by
  refine Keeps.tryCatch (holds_tryOnce bare r.eucas) fun exc => ?_
  refine Keeps.bind (holds_bump _) fun _ => Keeps.bind ?_ fun _ => holds_tryOnce bare _
  refine Keeps.tryCatch ?_ fun _ => Keeps.bind (holds_bump _) fun _ => Keeps.raise _
  exact Keeps.bind (holds_loginAndStoreToken h) fun _ => holds_bump _

private theorem holds_invokeP2pRegister (reply : Except Exc Unit) :
    EStateM.Keeps (HoldsIssued issued) (invokeP2pRegister reply) := by
  refine Keeps.bind Keeps.get fun w => Keeps.ite ?_ (Keeps.pure _)
  exact Keeps.tryCatch (holds_call _ reply) fun _ => Keeps.pure _

private theorem holds_storeAesKey (bare keyStr : String) (r : Replies) :
    EStateM.Keeps (HoldsIssued issued) (storeAesKey bare keyStr r) := by
  refine Keeps.ite (Keeps.bind (Keeps.raise _) fun _ => ?_) ?_
  all_goals
    cases encodeAscii keyStr with
    | error exc => exact Keeps.raise exc
    | ok keyBytes =>
      apply Keeps.bind
      · exact Keeps.modify fun _ h => h
      · exact fun _ => Keeps.bind (holds_invokeP2pRegister _) fun _ => Keeps.pure _

structure IssuesAll (issued : Token → Prop) (r : Replies) : Prop where
  firstLogin : Issues issued r.firstLogin
  refresh : Issues issued r.refresh
  relogin : Issues issued r.relogin

private theorem holds_fetchFromEucas (bare : String) (force : Bool) {r : Replies}
    (h : IssuesAll issued r) :
    EStateM.Keeps (HoldsIssued issued) (fetchFromEucas bare force r) := by
  refine Keeps.bind (holds_ensureClient h.firstLogin) fun _ =>
    Keeps.bind (holds_refreshToken h.refresh) fun _ => Keeps.bind Keeps.get fun w => ?_
  refine Keeps.ite (Keeps.bind (Keeps.raise _) fun _ => ?_) ?_
  all_goals
    refine Keeps.ite (Keeps.bind (holds_bump _) fun _ => ?_) (Keeps.bind (holds_bump _) fun _ => ?_)
    all_goals
      exact Keeps.bind (holds_tryTwice bare h.relogin) fun keyStr => holds_storeAesKey bare keyStr r

theorem holds_fetchLanAesKey (serial : String) (force : Bool) {r : Replies}
    (h : IssuesAll issued r) :
    EStateM.Keeps (HoldsIssued issued) (fetchLanAesKey serial force r) := by
  intro w hw
  by_cases hhits : force = false ∧ w.api.Hits serial r.now
  · obtain ⟨rfl, cached, hcached, hage⟩ := hhits
    simpa [HoldsIssued, fetchLanAesKey, EStateM.left, hcached, hage, bump] using hw
  · have hmiss : force = true ∨ ¬w.api.Hits serial r.now := by
      cases force <;> simp_all
    have heq : (fetchLanAesKey serial force r).left w =
        (fetchFromEucas (bareSerial serial) force r).left w := by
      simp only [EStateM.left, EStateM.run, fetchLanAesKey_miss hmiss]
    rw [heq]
    exact holds_fetchFromEucas _ force h w hw

end Tokens

private theorem ensureClient_eucasCalls {r : Replies} {w w' : Traced}
    (h : (ensureClient r).run w = .ok () w') : w'.eucasCalls = w.eucasCalls := by
  by_cases hensured : Ensured w.api r
  · obtain ⟨w₁, hrun, -, -, hcalls⟩ := ensureClient_returns hensured
    cases hrun.symm.trans h
    exact hcalls
  · obtain ⟨exc, w₁, hrun, -⟩ := ensureClient_raises hensured
    cases hrun.symm.trans h

private theorem refreshToken_eucasCalls {r : Replies} {w w' : Traced}
    (hclient : w.api.client = true) (h : (refreshToken r).run w = .ok () w') :
    w'.eucasCalls = w.eucasCalls ∧ w'.api.client = true := by
  by_cases hrefreshed : Refreshed r
  · obtain ⟨w₁, hrun, hclient₁, -, hcalls⟩ := refreshToken_returns hclient hrefreshed
    cases hrun.symm.trans h
    exact ⟨hcalls, hclient₁⟩
  · simp only [Refreshed, Classical.not_imp, not_forall, Bool.not_eq_true] at hrefreshed
    obtain ⟨exc, hrefresh, huncaught⟩ := hrefreshed
    obtain ⟨w₁, hrun, -⟩ := refreshToken_raises hclient hrefresh huncaught
    cases hrun.symm.trans h

/-- The attempt that the key string comes from, where the client first holds the token, and how
often EUCAS was asked. -/
inductive Answered (token : Option Token) (r : Replies) (keyStr : String) : Nat → Prop
  | first (hurls : serviceUrls token ≠ none) (hkey : keyOf r.eucas = .ok keyStr) :
      Answered token r keyStr 1
  | second (hkey : keyOf r.eucasAgain = .ok keyStr) :
      Answered token r keyStr (if (serviceUrls token).isNone then 1 else 2)

private theorem attempted_eq_ok {token : Option Token} {reply : Except Exc Document}
    {keyStr : String} :
    attempted token reply = .ok keyStr ↔ serviceUrls token ≠ none ∧ keyOf reply = .ok keyStr := by
  unfold attempted
  cases serviceUrls token <;> simp

private theorem tryTwice_ok {bare keyStr : String} {r : Replies} {w w' : Traced}
    (hclient : w.api.client = true) (h : (tryTwice bare r).run w = .ok keyStr w') :
    ∃ asked, Answered w.api.token r keyStr asked ∧ w'.eucasCalls = w.eucasCalls + asked := by
  unfold tryTwice at h
  cases hkey : attempted w.api.token r.eucas with
  | ok key =>
    simp [tryOnce_run, hkey] at h
    obtain ⟨rfl, rfl⟩ := h
    obtain ⟨hurls, hkey⟩ := attempted_eq_ok.1 hkey
    refine ⟨1, .first hurls hkey, ?_⟩
    simp [Traced.eucasCalls_asked, hurls]
  | error exc =>
    cases hrelogin : r.relogin with
    | error exc' =>
      simp [tryOnce_run, hkey, bump_run, loginAndStoreToken_run, hclient, hrelogin] at h
    | ok token =>
      cases hagain : attempted token r.eucasAgain with
      | error exc' =>
        simp [tryOnce_run, hkey, bump_run, loginAndStoreToken_run, hclient, hrelogin,
          hagain] at h
      | ok key =>
        simp [tryOnce_run, hkey, bump_run, loginAndStoreToken_run, hclient, hrelogin,
          hagain] at h
        obtain ⟨rfl, rfl⟩ := h
        obtain ⟨hurls, hagain⟩ := attempted_eq_ok.1 hagain
        refine ⟨_, .second hagain, ?_⟩
        simp [Traced.eucasCalls_asked, hurls]
        split <;> rfl

private theorem storeAesKey_ok {bare keyStr : String} {r : Replies} {w w' : Traced} {key : Bytes}
    (h : (storeAesKey bare keyStr r).run w = .ok key w') :
    keyStr.length = 16 ∧ encodeAscii keyStr = .ok key ∧ w'.eucasCalls = w.eucasCalls := by
  by_cases hlength : keyStr.length = 16
  · cases hencode : encodeAscii keyStr with
    | error exc => simp [storeAesKey, hlength, hencode] at h
    | ok keyBytes =>
      obtain ⟨w₁, hregister, hcalls⟩ := invokeP2pRegister_returns r.p2pRegister
        { w with api.aesCache := w.api.aesCache.insert bare ⟨keyBytes, r.fetchedAt⟩ }
      simp [storeAesKey, hlength, hencode, hregister] at h
      obtain ⟨rfl, rfl⟩ := h
      exact ⟨hlength, rfl, hcalls⟩
  · simp [storeAesKey, hlength] at h

/-- The token that a fetch first asks with. -/
def heldFirst (r : Replies) (w : Traced) : Option Token :=
  ((do
    ensureClient r
    refreshToken r : Method Unit).left w).api.token

theorem fetchFromEucas_ok {bare : String} {force : Bool} {r : Replies} {w w' : Traced}
    {key : Bytes} (h : (fetchFromEucas bare force r).run w = .ok key w') :
    ∃ keyStr asked, keyStr.length = 16 ∧ encodeAscii keyStr = .ok key ∧
      Answered (heldFirst r w) r keyStr asked ∧ w'.eucasCalls = w.eucasCalls + asked := by
  obtain ⟨_, w₁, hensure, h⟩ := EStateM.run_bind_eq_ok.1 h
  obtain ⟨_, w₂, hrefresh, h⟩ := EStateM.run_bind_eq_ok.1 h
  obtain ⟨hcalls₂, hclient₂⟩ := refreshToken_eucasCalls (ensureClient_ok hensure) hrefresh
  have hcalls₁ := ensureClient_eucasCalls hensure
  have hheldFirst : w₂.api.token = heldFirst r w := by
    simp [heldFirst, EStateM.left, hensure, hrefresh]
  obtain ⟨f, hrest⟩ : ∃ f, (tryTwice bare r >>= fun keyStr => storeAesKey bare keyStr r).run
      (w₂.bumped f) = .ok key w' := by
    by_cases hheld : truthy w₂.api.token = true
    · cases force with
      | true => exact ⟨_, by simpa [hheld, bump_run] using h⟩
      | false => exact ⟨_, by simpa [hheld, bump_run] using h⟩
    · simp [hheld] at h
  obtain ⟨keyStr, w₃, htry, hstore⟩ := EStateM.run_bind_eq_ok.1 hrest
  obtain ⟨asked, hanswered, hcalls₃⟩ := tryTwice_ok (by simpa using hclient₂) htry
  obtain ⟨hlength, hencode, hcalls₄⟩ := storeAesKey_ok hstore
  rw [Traced.bumped_token, hheldFirst] at hanswered
  refine ⟨keyStr, asked, hlength, hencode, hanswered, ?_⟩
  rw [hcalls₄, hcalls₃, Traced.eucasCalls_bumped, hcalls₂, hcalls₁]

end Hp7Api

end EzvizHp7.Cloud
