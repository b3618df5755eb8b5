import EzvizHp7.Cpd7.Crypto
import EzvizHp7.Library.Printable
import EzvizHp7.Library.Raising

/-!
# The control keys of the cloud client

`fetch_lan_aes_key` and `invalidate_aes_cache` of `Hp7Api`. What the cloud answers, and the clock
where the client reads it, comes with each call; the calls the client makes are recorded next to
its state. Log lines are left out.
-/

set_option mvcgen.warning false

namespace EzvizHp7.Cloud

open Cpd7 (Bytes)
open Std.Do

inductive ExcClass
  | pyEzvizError
  | httpError
  | invalidHost
  | invalidUrl
  | authTokenExpired
  | authVerificationCode
  | valueError
  | keyError
  | osError
  | attributeError
  | runtimeError
  deriving DecidableEq, Repr

/-- An exception, with those of the classes that it is an instance of. -/
structure Exc where
  classes : List ExcClass
  text : String
  deriving DecidableEq, Repr

def Exc.isInstance (exc : Exc) (classes : List ExcClass) : Bool :=
  classes.any fun c => exc.classes.contains c

/-- A token dictionary; what is under `service_urls` is a text here. -/
abbrev Token := List (String × String)

/-- `None` and `{}` are false. -/
def truthy (token : Option Token) : Bool := token.getD [] ≠ []

/-- `token["service_urls"]`, where `EzvizCAS` finds it. -/
def serviceUrls (token : Option Token) : Option String :=
  if truthy token then (token.getD []).lookup "service_urls" else none

def missingServiceUrls : Exc :=
  ⟨[.pyEzvizError], "Missing service_urls in token; call EzvizClient.login() first"⟩

structure ActivityStats where
  cloudLogins : Nat
  cloudRelogins : Nat
  aesCacheHits : Nat
  aesCacheMisses : Nat
  aesForceRefreshes : Nat
  aesInvalidations : Nat
  errorsCas : Nat
  deriving DecidableEq, Repr

structure CachedKey where
  key : Bytes
  fetchedAt : Rat
  deriving DecidableEq, Repr

structure Hp7Api where
  client : Bool
  token : Option Token
  stats : Option ActivityStats
  aesCache : AList fun _ : String => CachedKey

def Hp7Api.new (token : Option Token) (stats : Option ActivityStats) : Hp7Api :=
  ⟨false, token, stats, ∅⟩

inductive CloudCall
  | login
  | casGetEncryption (serial : String)
  | p2pRegister (sessionId : String)
  deriving DecidableEq, Repr

structure Traced where
  api : Hp7Api
  calls : List CloudCall

/-- A method of the client: it returns or raises, and in either case leaves the client behind. -/
abbrev Method := EStateM Exc Traced

/-- What a `get` of a parsed XML document may meet. -/
inductive Parsed (α : Type)
  | none
  | text (s : String)
  | list
  | dict (entries : List (String × α))
  deriving DecidableEq, Repr

def Parsed.get {α : Type} (p : Parsed α) (key : String) (default : α) : Except Exc α :=
  match p with
  | .none => .error ⟨[.attributeError], "'NoneType' object has no attribute 'get'"⟩
  | .text _ => .error ⟨[.attributeError], "'str' object has no attribute 'get'"⟩
  | .list => .error ⟨[.attributeError], "'list' object has no attribute 'get'"⟩
  | .dict entries => .ok ((entries.lookup key).getD default)

/-- A parsed CAS response down to the attributes of its second level. -/
abbrev Document := Parsed (Parsed (Parsed String))

/-- What the outside world does during one `fetch_lan_aes_key`. -/
structure Replies where
  now : Rat
  newClient : Except Exc Unit
  firstLogin : Except Exc (Option Token)
  refresh : Except Exc (Option Token)
  eucas : Except Exc Document
  relogin : Except Exc (Option Token)
  eucasAgain : Except Exc Document
  fetchedAt : Rat
  p2pRegister : Except Exc Unit

def aesKeyTtl : Rat := 30 * 60

def bareSerial (serial : String) : String := String.ofList (serial.toList.takeWhile (· ≠ '-'))

def hexDigits (width : Nat) (c : Char) : List Char :=
  (Nat.toDigits 16 c.toNat).leftpad width '0'

def reprChar (quote c : Char) : List Char :=
  let backslash := Char.ofNat 0x5c
  if c = quote ∨ c = backslash then [backslash, c]
  else if c.toNat = 0x0a then [backslash, 'n']
  else if c.toNat = 0x0d then [backslash, 'r']
  else if c.toNat = 0x09 then [backslash, 't']
  else if Printable.isPrintable c then [c]
  else if c.toNat < 0x100 then backslash :: 'x' :: hexDigits 2 c
  else if c.toNat < 0x10000 then backslash :: 'u' :: hexDigits 4 c
  else backslash :: 'U' :: hexDigits 8 c

/-- Double quotes are taken where the string has single ones only. -/
def reprStr (s : String) : String :=
  let single := Char.ofNat 0x27
  let double := Char.ofNat 0x22
  let quote := if single ∈ s.toList ∧ double ∉ s.toList then double else single
  String.ofList (quote :: s.toList.flatMap (reprChar quote) ++ [quote])

namespace Hp7Api

def bump (f : ActivityStats → ActivityStats) : Method Unit :=
  modify fun w => { w with api.stats := w.api.stats.map f }

/-- A call that reaches the cloud, whatever comes back. -/
def call {α : Type} (c : CloudCall) (reply : Except Exc α) : Method α := do
  modify fun w => { w with calls := w.calls ++ [c] }
  match reply with
  | .ok a => return a
  | .error exc => throw exc

def loginAndStoreToken (reply : Except Exc (Option Token)) : Method Unit := do
  if !(← get).api.client then throw ⟨[.runtimeError], "Client not initialized"⟩
  try
    let token ← call .login reply
    modify fun w => { w with api.token := token }
    bump fun s => { s with cloudLogins := s.cloudLogins + 1 }
  catch exc =>
    if exc.isInstance [.valueError, .keyError] then
      throw ⟨[.valueError], "Authentication failed: " ++ exc.text⟩
    else throw exc

def ensureClient (r : Replies) : Method Unit := do
  if !(← get).api.client then
    try
      match r.newClient with
      | .ok () => modify fun w => { w with api.client := true }
      | .error exc => throw exc
      if !truthy (← get).api.token then loginAndStoreToken r.firstLogin
    catch exc =>
      if exc.isInstance [.pyEzvizError, .httpError, .invalidHost, .invalidUrl, .valueError,
          .keyError, .osError] then
        throw ⟨[.runtimeError], "Failed to initialize EZVIZ client: " ++ exc.text⟩
      else throw exc

def refreshToken (r : Replies) : Method Unit := do
  if (← get).api.client then
    try
      let token ← call .login r.refresh
      if truthy token then modify fun w => { w with api.token := token }
    catch exc =>
      if !exc.isInstance [.pyEzvizError, .httpError, .invalidHost, .invalidUrl,
          .authTokenExpired, .authVerificationCode, .valueError, .keyError, .osError] then
        throw exc

def tryOnce (bare : String) (reply : Except Exc Document) : Method String := do
  if (serviceUrls (← get).api.token).isNone then throw missingServiceUrls
  let info ← call (.casGetEncryption bare) reply
  let key := do
    let response ← info.get "Response" (.dict [])
    let session ← response.get "Session" (.dict [])
    session.get "@Key" ""
  match key with
  | .ok key => return key
  | .error exc => throw exc

def tryTwice (bare : String) (r : Replies) : Method String := do
  try
    tryOnce bare r.eucas
  catch exc =>
    bump fun s => { s with errorsCas := s.errorsCas + 1 }
    try
      loginAndStoreToken r.relogin
      bump fun s => { s with cloudRelogins := s.cloudRelogins + 1 }
    catch relogExc =>
      bump fun s => { s with errorsCas := s.errorsCas + 1 }
      throw ⟨[.runtimeError], "AES fetch failed and re-login failed (CAS: " ++ exc.text ++
        "; relogin: " ++ relogExc.text ++ ")"⟩
    tryOnce bare r.eucasAgain

/-- The codec's message lacks the character and its position here. -/
def encodeAscii (s : String) : Except Exc Bytes :=
  if s.toList.all fun c => c.toNat < 128 then .ok (s.toList.map fun c => UInt8.ofNat c.toNat)
  else .error ⟨[.valueError], "'ascii' codec can't encode: ordinal not in range(128)"⟩

def invokeP2pRegister (reply : Except Exc Unit) : Method Unit := do
  let sessionId := ((← get).api.token.getD []).lookup "session_id"
  if sessionId.getD "" ≠ "" then
    try call (.p2pRegister (sessionId.getD "")) reply
    catch _ => pure ()

def storeAesKey (bare keyStr : String) (r : Replies) : Method Bytes := do
  if keyStr.length ≠ 16 then
    throw ⟨[.runtimeError], "invalid AES key from EUCAS: " ++ reprStr keyStr⟩
  match encodeAscii keyStr with
  | .error exc => throw exc
  | .ok keyBytes =>
    modify fun w => { w with api.aesCache := w.api.aesCache.insert bare ⟨keyBytes, r.fetchedAt⟩ }
    invokeP2pRegister r.p2pRegister
    return keyBytes

def fetchFromEucas (bare : String) (force : Bool) (r : Replies) : Method Bytes := do
  ensureClient r
  refreshToken r
  if !truthy (← get).api.token then throw ⟨[.runtimeError], "no cloud token available"⟩
  if force then bump fun s => { s with aesForceRefreshes := s.aesForceRefreshes + 1 }
  else bump fun s => { s with aesCacheMisses := s.aesCacheMisses + 1 }
  let keyStr ← tryTwice bare r
  storeAesKey bare keyStr r

def fetchLanAesKey (serial : String) (force : Bool) (r : Replies) : Method Bytes := do
  let bare := bareSerial serial
  if !force then
    if let some cached := (← get).api.aesCache.lookup bare then
      if r.now - cached.fetchedAt < aesKeyTtl then
        bump fun s => { s with aesCacheHits := s.aesCacheHits + 1 }
        return cached.key
  fetchFromEucas bare force r

def invalidateAesCache (serial : Option String) : Method Unit := do
  bump fun s => { s with aesInvalidations := s.aesInvalidations + 1 }
  match serial with
  | none => modify fun w => { w with api.aesCache := ∅ }
  | some serial =>
    modify fun w => { w with api.aesCache := w.api.aesCache.erase (bareSerial serial) }

def Keeps (w w' : Traced) : Prop :=
  w'.api.aesCache = w.api.aesCache ∧ w.calls ⊆ w'.calls

def Calls (c : CloudCall) (w w' : Traced) : Prop :=
  w'.api.aesCache = w.api.aesCache ∧ w.calls ⊆ w'.calls ∧ c ∈ w'.calls

section Specs

variable (w₀ : Traced)

@[spec] theorem bump_spec (f : ActivityStats → ActivityStats) :
    ⦃fun w => ⌜w = w₀⌝⦄ bump f
    ⦃post⟨fun _ w => ⌜Keeps w₀ w⌝, fun _ w => ⌜Keeps w₀ w⌝⟩⦄ := by
  mvcgen [bump]
  grind [Keeps]

@[spec] theorem call_spec {α : Type} (c : CloudCall) (reply : Except Exc α) :
    ⦃fun w => ⌜w = w₀⌝⦄ call c reply
    ⦃post⟨fun _ w => ⌜Calls c w₀ w⌝, fun _ w => ⌜Keeps w₀ w⌝⟩⦄ := by
  mvcgen [call] <;> grind [Keeps, Calls]

@[spec] theorem loginAndStoreToken_spec (reply : Except Exc (Option Token)) :
    ⦃fun w => ⌜w = w₀⌝⦄ loginAndStoreToken reply
    ⦃post⟨fun _ w => ⌜Keeps w₀ w⌝, fun _ w => ⌜Keeps w₀ w⌝⟩⦄ := by
  mvcgen [loginAndStoreToken] <;> grind [Keeps, Calls]

@[spec] theorem ensureClient_spec (r : Replies) :
    ⦃fun w => ⌜w = w₀⌝⦄ ensureClient r
    ⦃post⟨fun _ w => ⌜Keeps w₀ w⌝, fun _ w => ⌜Keeps w₀ w⌝⟩⦄ := by
  mvcgen [ensureClient] <;> grind [Keeps, Calls]

@[spec] theorem refreshToken_spec (r : Replies) :
    ⦃fun w => ⌜w = w₀⌝⦄ refreshToken r
    ⦃post⟨fun _ w => ⌜Keeps w₀ w⌝, fun _ w => ⌜Keeps w₀ w⌝⟩⦄ := by
  mvcgen [refreshToken] <;> grind [Keeps, Calls]

@[spec] theorem tryOnce_spec (bare : String) (reply : Except Exc Document) :
    ⦃fun w => ⌜w = w₀⌝⦄ tryOnce bare reply
    ⦃post⟨fun _ w => ⌜Calls (.casGetEncryption bare) w₀ w⌝, fun _ w => ⌜Keeps w₀ w⌝⟩⦄ := by
  mvcgen [tryOnce] <;> grind [Keeps, Calls]

@[spec] theorem tryTwice_spec (bare : String) (r : Replies) :
    ⦃fun w => ⌜w = w₀⌝⦄ tryTwice bare r
    ⦃post⟨fun _ w => ⌜w.api.aesCache = w₀.api.aesCache ∧ w₀.calls ⊆ w.calls ∧
        .casGetEncryption bare ∈ w.calls⌝,
      fun _ w => ⌜Keeps w₀ w⌝⟩⦄ := by
  mvcgen [tryTwice] <;> grind [Keeps, Calls]

@[spec] theorem invokeP2pRegister_spec (reply : Except Exc Unit) :
    ⦃fun w => ⌜w = w₀⌝⦄ invokeP2pRegister reply
    ⦃post⟨fun _ w => ⌜Keeps w₀ w⌝, fun _ _ => ⌜False⌝⟩⦄ := by
  mvcgen [invokeP2pRegister] <;> grind [Keeps, Calls]

private theorem encodeAscii_length {s : String} {bytes : Bytes} (h : encodeAscii s = .ok bytes) :
    bytes.length = s.length := by
  unfold encodeAscii at h
  split at h
  · cases h
    rw [List.length_map, String.length_toList]
  · cases h

@[spec] theorem storeAesKey_spec (bare keyStr : String) (r : Replies) :
    ⦃fun w => ⌜w = w₀⌝⦄ storeAesKey bare keyStr r
    ⦃post⟨fun key w => ⌜key.length = 16 ∧ w₀.calls ⊆ w.calls ∧
        w.api.aesCache = w₀.api.aesCache.insert bare ⟨key, r.fetchedAt⟩⌝,
      fun _ w => ⌜Keeps w₀ w⌝⟩⦄ := by
  mvcgen [storeAesKey] <;> grind [Keeps, Calls, encodeAscii_length]

@[spec] theorem fetchFromEucas_spec (bare : String) (force : Bool) (r : Replies) :
    ⦃fun w => ⌜w = w₀⌝⦄ fetchFromEucas bare force r
    ⦃post⟨fun key w => ⌜key.length = 16 ∧ .casGetEncryption bare ∈ w.calls ∧
        w.api.aesCache = w₀.api.aesCache.insert bare ⟨key, r.fetchedAt⟩⌝,
      fun _ w => ⌜Keeps w₀ w⌝⟩⦄ := by
  mvcgen [fetchFromEucas] <;> grind [Keeps, Calls]

end Specs

section Fetch

private theorem ends {α : Type} {m : Method α} {w₀ : Traced} {Q : α → Traced → Prop}
    {R : Exc → Traced → Prop}
    (h : ⦃fun w => ⌜w = w₀⌝⦄ m ⦃post⟨fun a w => ⌜Q a w⌝, fun exc w => ⌜R exc w⌝⟩⦄) :
    match m w₀ with
    | .ok a w => Q a w
    | .error exc w => R exc w := by
  apply EStateM.of_wp_run_eq (s := w₀) rfl fun x => match x with
    | .ok a w => Q a w
    | .error exc w => R exc w
  exact fun _ => h w₀ rfl

variable {bare serial : String} {force : Bool} {r : Replies} {w w' : Traced}

theorem fetchFromEucas_returns {key : Bytes} (h : fetchFromEucas bare force r w = .ok key w') :
    key.length = 16 ∧ .casGetEncryption bare ∈ w'.calls ∧
      w'.api.aesCache = w.api.aesCache.insert bare ⟨key, r.fetchedAt⟩ := by
  have hends := ends (fetchFromEucas_spec w bare force r)
  rwa [h] at hends

theorem fetchFromEucas_raises {exc : Exc} (h : fetchFromEucas bare force r w = .error exc w') :
    w'.api.aesCache = w.api.aesCache := by
  have hends := ends (fetchFromEucas_spec w bare force r)
  rw [h] at hends
  exact hends.1

/-- The cache has an entry for the serial that is young enough. -/
def Hits (api : Hp7Api) (serial : String) (now : Rat) : Prop :=
  ∃ cached, api.aesCache.lookup (bareSerial serial) = some cached ∧
    now - cached.fetchedAt < aesKeyTtl

theorem fetchLanAesKey_hit {cached : CachedKey}
    (hcached : w.api.aesCache.lookup (bareSerial serial) = some cached)
    (hage : r.now - cached.fetchedAt < aesKeyTtl) :
    ∃ w', fetchLanAesKey serial false r w = .ok cached.key w' ∧ w'.calls = w.calls ∧
      w'.api.aesCache = w.api.aesCache := by
  apply Exists.intro
  constructor
  · simp only [fetchLanAesKey, bind, EStateM.bind, get, getThe, MonadStateOf.get, EStateM.get,
      hcached, hage, Bool.not_false, if_true, bump, modify, modifyGet, MonadStateOf.modifyGet,
      EStateM.modifyGet, pure, EStateM.pure]
    rfl
  · exact ⟨rfl, rfl⟩

theorem fetchLanAesKey_miss (h : force = true ∨ ¬w.api.Hits serial r.now) :
    fetchLanAesKey serial force r w = fetchFromEucas (bareSerial serial) force r w := by
  cases force with
  | true => rfl
  | false =>
    cases hcached : w.api.aesCache.lookup (bareSerial serial) with
    | none =>
      simp only [fetchLanAesKey, bind, EStateM.bind, get, getThe, MonadStateOf.get, EStateM.get,
        hcached, Bool.not_false, if_true]
    | some cached =>
      have hage : ¬r.now - cached.fetchedAt < aesKeyTtl :=
        fun hage => h.elim (by simp) fun hmiss => hmiss ⟨cached, hcached, hage⟩
      simp only [fetchLanAesKey, bind, EStateM.bind, get, getThe, MonadStateOf.get, EStateM.get,
        hcached, hage, Bool.not_false, if_true, if_false]

end Fetch

end Hp7Api

def issuedToken (sessionId : String) : Token :=
  [("session_id", sessionId), ("service_urls", "sysConf")]

end EzvizHp7.Cloud
