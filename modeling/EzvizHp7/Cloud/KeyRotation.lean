import EzvizHp7.Cloud.AesCache
import EzvizHp7.Control.LanClient
import EzvizHp7.Relay.Coherence

/-!
# The control key after a re-pairing

The relay and the cloud client of one config entry, side by side. The relay asks the client for
the key and starts the LAN session with it; a background task refreshes the key; the doorbell may
be re-paired at any time. No step of the relay touches the client's cache.
-/

namespace EzvizHp7.Cloud

open Cpd7 (Bytes Crypto basePointCrypto)
open Control (ControlCipher LanError parseResponse)
open Relay (Opener SessionId World)
open Transition System

/-- `re.search(rb"<Session>(\d+)</Session>", data)` at the start of the data. -/
def matchSession (data : Bytes) : Option Nat :=
  let openTag : Bytes := [0x3c, 0x53, 0x65, 0x73, 0x73, 0x69, 0x6f, 0x6e, 0x3e]
  let closeTag : Bytes := [0x3c, 0x2f, 0x53, 0x65, 0x73, 0x73, 0x69, 0x6f, 0x6e, 0x3e]
  let digits := (data.drop 9).takeWhile fun b => 0x30 ≤ b ∧ b ≤ 0x39
  if openTag <+: data ∧ digits ≠ [] ∧ closeTag <+: data.drop (9 + digits.length) then
    some (digits.foldl (fun n b => 10 * n + (b.toNat - 0x30)) 0)
  else none

def searchSession : Bytes → Option Nat
  | [] => none
  | b :: data => (matchSession (b :: data)).or (searchSession data)

/-- What `Cpd7LanClient.start` meets: its fresh key pair, the route to the doorbell, and what
comes back for each command, or the text of the socket's error. -/
structure Exchange (Priv : Type) where
  keypair : Priv
  localIp : Except String Unit
  init : Except String Bytes
  invite : Except String Bytes
  play : (session : Nat) → Except String Bytes

def sendCmd (cipher : ControlCipher) (key : Bytes) (reply : Except String Bytes) :
    Except LanError Bytes := do
  let wire ← reply.mapError .osError
  let (_, plain) ← parseResponse cipher wire key
  return plain

/-- `Cpd7LanClient.start` with the control key; what it sends is left out. -/
def lanClientStart {Priv : Type} (cipher : ControlCipher) (key : Bytes) (e : Exchange Priv) :
    Except LanError Priv := do
  e.localIp.mapError .osError
  let _ ← sendCmd cipher key e.init
  let plain ← sendCmd cipher key e.invite
  match searchSession plain with
  | none => throw (.connectionError "no <Session> in InviteStream response")
  | some session =>
    let _ ← sendCmd cipher key (e.play session)
    return e.keypair

def undecryptable {α : Type} : Except LanError α → Bool
  | .error (.cipherError _) => true
  | _ => false

private theorem undecryptable_bind {α β : Type} {x : Except LanError α} {f : α → Except LanError β}
    (h : undecryptable (x >>= f) = true) :
    undecryptable x = true ∨ ∃ a, undecryptable (f a) = true := by
  cases x with
  | error err =>
    left
    cases err <;> exact h
  | ok a => exact .inr ⟨a, h⟩

private theorem undecryptable_sendCmd {cipher : ControlCipher} {key : Bytes}
    {reply : Except String Bytes} (h : undecryptable (sendCmd cipher key reply) = true) :
    ∃ wire message, parseResponse cipher wire key = .error (.cipherError message) := by
  rcases undecryptable_bind h with hsocket | ⟨wire, h⟩
  · cases reply <;> cases hsocket
  rcases undecryptable_bind h with hparse | ⟨_, h⟩
  · cases hwire : parseResponse cipher wire key with
    | ok plain =>
      rw [hwire] at hparse
      cases hparse
    | error err =>
      rw [hwire] at hparse
      cases err with
      | cipherError message => exact ⟨wire, message, hwire⟩
      | _ => cases hparse
  · cases h

/-- It is `_parse_response` that could not decrypt, and under the client's key. -/
theorem undecryptable_start {Priv : Type} {cipher : ControlCipher} {key : Bytes} {e : Exchange Priv}
    (h : undecryptable (lanClientStart cipher key e) = true) :
    ∃ wire message, parseResponse cipher wire key = .error (.cipherError message) := by
  rcases undecryptable_bind h with hroute | ⟨_, h⟩
  · cases hlocal : e.localIp <;> simp [hlocal, Except.mapError, undecryptable] at hroute
  rcases undecryptable_bind h with hinit | ⟨_, h⟩
  · exact undecryptable_sendCmd hinit
  rcases undecryptable_bind h with hinvite | ⟨plain, h⟩
  · exact undecryptable_sendCmd hinvite
  cases hsession : searchSession plain with
  | none =>
    rw [hsession] at h
    cases h
  | some session =>
    rw [hsession] at h
    rcases undecryptable_bind h with hplay | ⟨_, h⟩
    · exact undecryptable_sendCmd hplay
    · cases h

def errorText : LanError → String
  | .connectionError message | .structError message | .cipherError message
  | .osError message => message

/-- The relay and the client, the key each LAN client was built with and the doorbell's key. The
last three fields record the run: the operations on the client, the key of a start that failed
on an undecryptable reply and after which the key was not asked for yet, and what each such key
was followed by. -/
structure Entry (Priv : Type) where
  relay : World Priv
  api : Hp7Api
  aesKey : SessionId → Option Bytes
  doorbellKey : Bytes
  past : List (Op × Answer)
  failed : Option Bytes
  afterFailure : List (Bytes × Answer)

def keyReply (a : Answer) : Except String Bytes :=
  match a.result with
  | .ok key => .ok (key.getD [])
  | .error exc => .error exc.text

inductive EntryAction (Priv : Type)
  | relay (a : Relay.Action Priv)
  | fetchKey (o : Opener) (host related : String) (r : Replies)
  | lanStart (o : Opener) (n : SessionId) (doorbell : (key : Bytes) → Exchange Priv)
  | refreshAes (r : Replies)
  | rePair (key : Bytes)

variable {Priv Pub : Type}

/-- These steps of the relay come with the key. -/
def NeedsKey : Relay.Action Priv → Prop
  | .keyFetched .. | .lanStart .. => True
  | _ => False

instance (a : Relay.Action Priv) : Decidable (NeedsKey a) := by
  induction a using Relay.Action.casesOn with
  | keyFetched => exact .isTrue trivial
  | lanStart => exact .isTrue trivial
  | _ => exact .isFalse not_false

namespace Entry

section Steps

variable (crypto : Crypto Priv Pub) (cipher : ControlCipher) (serial : String)

def fetchKey (o : Opener) (host related : String) (r : Replies) (s : Entry Priv) :
    Option (Entry Priv) :=
  let op := Op.fetchLanAesKey serial false r
  let (a, api) := perform op s.api
  let key := keyReply a
  ((Relay.relay crypto).step (.keyFetched o host related key) s.relay).map fun w =>
    { s with
      relay := w
      api := api
      aesKey := Function.update s.aesKey s.relay.nextSession key.toOption
      past := s.past ++ [(op, a)]
      failed := none
      afterFailure := s.afterFailure ++ (s.failed.map fun key => (key, a)).toList }

/-- `lan.start` against a doorbell that holds its own key. -/
def lanStart (o : Opener) (n : SessionId) (doorbell : Bytes → Exchange Priv) (s : Entry Priv) :
    Option (Entry Priv) := do
  let key ← s.aesKey n
  let result := lanClientStart cipher key (doorbell s.doorbellKey)
  let w ← (Relay.relay crypto).step (.lanStart o n (result.mapError errorText)) s.relay
  return { s with relay := w, failed := if undecryptable result then some key else s.failed }

/-- `_refresh_aes`; its failures are only logged. -/
def refreshAes (r : Replies) (s : Entry Priv) : Entry Priv :=
  let op := Op.fetchLanAesKey serial true r
  let (a, api) := perform op s.api
  { s with api := api, past := s.past ++ [(op, a)] }

def step (a : EntryAction Priv) (s : Entry Priv) : Option (Entry Priv) :=
  match a with
  | .relay a =>
    if NeedsKey a then none
    else ((Relay.relay crypto).step a s.relay).map fun w => { s with relay := w }
  | .fetchKey o host related r => s.fetchKey crypto serial o host related r
  | .lanStart o n doorbell => s.lanStart crypto cipher o n doorbell
  | .refreshAes r => some (s.refreshAes serial r)
  | .rePair key => some { s with doorbellKey := key }

/-- A set-up entry: the client has cached nothing yet. -/
def system : Transition.System (Entry Priv) (EntryAction Priv) where
  init s := (Relay.relay crypto).init s.relay ∧ s.api.aesCache = ∅ ∧ s.aesKey = (fun _ => none) ∧
    s.past = [] ∧ s.failed = none ∧ s.afterFailure = []
  step := step crypto cipher serial

end Steps

/-- The fetch after each failed start did not answer the key that failed from the cache; it went
to EUCAS for the key it returned. -/
def KeyNotReused (serial : String) (s : Entry Priv) : Prop :=
  ∀ p ∈ s.afterFailure, ¬(p.2.calls = [] ∧ p.2.result = .ok (some p.1)) ∧
    ∀ key, p.2.result = .ok (some key) → .casGetEncryption (bareSerial serial) ∈ p.2.calls

/-- After a start that failed on an undecryptable reply, the key is asked for only when the last
successful fetch from the cloud is too old to be answered again. -/
def KeyExpired (serial : String) (s : Entry Priv) : EntryAction Priv → Prop
  | .fetchKey _ _ _ r => s.failed ≠ none →
    ∀ cached ∈ (lastEvent (bareSerial serial) s.past).bind Event.entry,
      aesKeyTtl ≤ r.now - cached.fetchedAt
  | _ => True

instance (serial : String) (s : Entry Priv) (a : EntryAction Priv) :
    Decidable (KeyExpired serial s a) := by
  induction a using EntryAction.casesOn with
  | fetchKey o host related r => exact inferInstanceAs (Decidable (_ → _))
  | _ => exact .isTrue trivial

variable {crypto : Crypto Priv Pub} {cipher : ControlCipher} {serial : String}
  {s s' : Entry Priv} {a : EntryAction Priv}

inductive Stepped (serial : String) (s : Entry Priv) : EntryAction Priv → Entry Priv → Prop
  | relay (a : Relay.Action Priv) (w : World Priv) :
    Stepped serial s (.relay a) { s with relay := w }
  | rePair (key : Bytes) : Stepped serial s (.rePair key) { s with doorbellKey := key }
  | lanStart (o : Opener) (n : SessionId) (doorbell : Bytes → Exchange Priv) (w : World Priv)
      (failed : Option Bytes) :
      Stepped serial s (.lanStart o n doorbell) { s with relay := w, failed := failed }
  | refreshAes (r : Replies) : Stepped serial s (.refreshAes r) (s.refreshAes serial r)
  | fetchKey (o : Opener) (host related : String) (r : Replies) (w : World Priv)
      (aesKey : SessionId → Option Bytes) :
      Stepped serial s (.fetchKey o host related r)
        { s with
          relay := w
          api := (perform (.fetchLanAesKey serial false r) s.api).2
          aesKey := aesKey
          past := s.past ++ [(.fetchLanAesKey serial false r,
            (perform (.fetchLanAesKey serial false r) s.api).1)]
          failed := none
          afterFailure := s.afterFailure ++ (s.failed.map fun key =>
            (key, (perform (.fetchLanAesKey serial false r) s.api).1)).toList }

theorem stepped (h : (system crypto cipher serial).step a s = some s') : Stepped serial s a s' := by
  change Entry.step crypto cipher serial a s = some s' at h
  cases a with
  | rePair key =>
    cases h
    exact .rePair key
  | refreshAes r =>
    cases h
    exact .refreshAes r
  | relay a =>
    simp only [Entry.step] at h
    split at h
    · cases h
    · obtain ⟨w, _, rfl⟩ := Option.map_eq_some_iff.1 h
      exact .relay a w
  | fetchKey o host related r =>
    simp only [Entry.step, Entry.fetchKey] at h
    obtain ⟨w, _, rfl⟩ := Option.map_eq_some_iff.1 h
    exact .fetchKey o host related r w _
  | lanStart o n doorbell =>
    simp only [Entry.step, Entry.lanStart] at h
    obtain ⟨key, _, h⟩ := Option.bind_eq_some_iff.1 h
    obtain ⟨w, _, h⟩ := Option.bind_eq_some_iff.1 h
    cases h
    exact .lanStart o n doorbell w _

theorem Stepped.reflects (h : Stepped serial s a s') (hpast : Reflects s.past s.api) :
    Reflects s'.past s'.api := by
  cases h with
  | relay => exact hpast
  | rePair => exact hpast
  | lanStart => exact hpast
  | refreshAes r => exact (perform_performed _ s.api).reflects hpast
  | fetchKey o host related r => exact (perform_performed _ s.api).reflects hpast

theorem reflects_of_reachable {allowed : Entry Priv → EntryAction Priv → Prop}
    (h : (system crypto cipher serial).ReachableUnder allowed s) : Reflects s.past s.api := by
  apply h.invariant
  · intro s hinit
    obtain ⟨_, hcache, _, hpast, _⟩ := hinit
    rw [hpast]
    constructor
    · intro b
      rw [hcache]
      rfl
    · intro b cached hcached
      rw [hcache] at hcached
      cases hcached
  · intro s a s' _ hpast _ hstep
    exact (stepped hstep).reflects hpast

theorem asksEucas_of_expired (hpast : Reflects s.past s.api) {r : Replies}
    (hexpired : ∀ cached ∈ (lastEvent (bareSerial serial) s.past).bind Event.entry,
      aesKeyTtl ≤ r.now - cached.fetchedAt) (failed : Bytes) :
    let a := (perform (.fetchLanAesKey serial false r) s.api).1
    ¬(a.calls = [] ∧ a.result = .ok (some failed)) ∧
      ∀ key, a.result = .ok (some key) → .casGetEncryption (bareSerial serial) ∈ a.calls := by
  intro a
  have hperformed := perform_performed (.fetchLanAesKey serial false r) s.api
  have hmiss (key : Bytes) : ¬(a.calls = [] ∧ a.result = .ok (some key)) := by
    rw [hperformed.answersFromCache hpast rfl]
    intro hex
    obtain ⟨fetchedAt, hlast, hage⟩ := hex
    exact absurd (hexpired ⟨key, fetchedAt⟩ (by rw [hlast]; rfl)) (not_le.2 hage)
  apply And.intro (hmiss failed)
  intro key hkey
  apply (hperformed.asksEucas rfl hkey).resolve_left
  exact fun hcalls => hmiss key ⟨hcalls, hkey⟩

theorem Stepped.keyNotReused (h : Stepped serial s a s') (hpast : Reflects s.past s.api)
    (hexpired : KeyExpired serial s a) (hs : KeyNotReused serial s) : KeyNotReused serial s' := by
  cases h with
  | relay => exact hs
  | rePair => exact hs
  | lanStart => exact hs
  | refreshAes r => exact hs
  | fetchKey o host related r =>
    intro p hp
    rcases List.mem_append.1 hp with hp | hp
    · exact hs p hp
    · cases hfailed : s.failed with
      | none => simp [hfailed] at hp
      | some failed =>
        simp only [hfailed, Option.map_some, Option.toList_some, List.mem_singleton] at hp
        rw [hp]
        exact asksEucas_of_expired hpast (hexpired (by simp [hfailed])) failed

/-- Asked for too early, the key comes from the cache, whichever it is. -/
theorem Stepped.reused (h : Stepped serial s a s') (hpast : Reflects s.past s.api)
    (hearly : ¬KeyExpired serial s a) : ¬KeyNotReused serial s' := by
  cases h with
  | relay => exact absurd trivial hearly
  | rePair => exact absurd trivial hearly
  | lanStart => exact absurd trivial hearly
  | refreshAes r => exact absurd trivial hearly
  | fetchKey o host related r =>
    simp only [KeyExpired, Classical.not_imp, not_forall, not_le] at hearly
    obtain ⟨hfailed, cached, hcached, hage⟩ := hearly
    obtain ⟨failed, hfailed⟩ := Option.ne_none_iff_exists'.1 hfailed
    have hperformed := perform_performed (.fetchLanAesKey serial false r) s.api
    have hlast := hpast.lookup_eq_some.1 ((hpast.entry _).trans hcached)
    obtain ⟨hcalls, hkey⟩ := (hperformed.answersFromCache hpast rfl).2 ⟨_, hlast, hage⟩
    intro hnot
    have hasked := (hnot (failed, (perform (.fetchLanAesKey serial false r) s.api).1)
      (by simp [hfailed])).2 cached.key hkey
    rw [hcalls] at hasked
    cases hasked

/-- Where the key is asked for after a failed start only once it has expired, no failed key is
answered again; the first time it is asked for earlier, the cache answers. -/
theorem failed_key_refetched (crypto : Crypto Priv Pub) (cipher : ControlCipher) (serial : String) :
    (∀ s : Entry Priv, (system crypto cipher serial).ReachableUnder (KeyExpired serial) s →
      KeyNotReused serial s) ∧
    ∀ (s s' : Entry Priv) (a : EntryAction Priv),
      (system crypto cipher serial).ReachableUnder (KeyExpired serial) s →
      (system crypto cipher serial).step a s = some s' → ¬KeyExpired serial s a →
      ¬KeyNotReused serial s' := by
  constructor
  · intro s hs
    apply hs.invariant
    · intro s hinit
      obtain ⟨_, _, _, _, _, hafter⟩ := hinit
      simp [KeyNotReused, hafter]
    · intro s a s' hs hkept hexpired hstep
      exact (stepped hstep).keyNotReused (reflects_of_reachable hs) hexpired hkept
  · intro s s' a hs hstep hearly
    exact (stepped hstep).reused (reflects_of_reachable hs) hearly

/-- `b"fedcba9876543210"`, the key before the re-pairing. -/
def oldKey : Bytes :=
  [0x66, 0x65, 0x64, 0x63, 0x62, 0x61, 0x39, 0x38, 0x37, 0x36, 0x35, 0x34, 0x33, 0x32, 0x31, 0x30]

/-- AES-CBC on one block that was encrypted under the new key: what it decrypts to under either. -/
def rotatedCipher : ControlCipher where
  pad := Control.pkcs7Pad
  unpad := Control.pkcs7Unpad
  cbcEncrypt key _ data :=
    .ok (if key = Control.tinyKey ∧ data = Control.pkcs7Pad Control.tinyXml then
      Control.tinyCiphertext else data)
  cbcDecrypt key _ data :=
    .ok (if data = Control.tinyCiphertext then
      if key = Control.tinyKey then Control.pkcs7Pad Control.tinyXml
      else
        [0xe8, 0xd0, 0xaa, 0x28, 0x97, 0x27, 0x15, 0x7f, 0x8d, 0x1f, 0x9b, 0x55, 0xa1, 0x3d, 0x2f,
          0x94]
      else data)

def cloudAnswers (now : Rat) (key : String) : Replies where
  now := now
  newClient := .ok ()
  firstLogin := .ok none
  refresh := .ok (some (issuedToken "s1"))
  eucas := .ok (.dict [("Response", .dict [("Session", .dict [("@Key", key)])])])
  relogin := .ok none
  eucasAgain := .ok .none
  fetchedAt := now
  p2pRegister := .ok ()

def rePaired : Exchange Unit where
  keypair := ()
  localIp := .ok ()
  init := (Control.framePacket (fun _ => Control.tinyDigest) 1 0x2013
    Control.tinyCiphertext).mapError errorText
  invite := .error "timed out"
  play _ := .error "timed out"

/-- The key is refreshed and the doorbell re-paired; a first viewer fails, and a second one
comes at the given time. -/
def rePairingRun (now : Rat) : List (EntryAction Unit) :=
  [.relay .asyncStart, .relay (.serverBound (some 40000)),
    .refreshAes (cloudAnswers 0 "fedcba9876543210"), .rePair Control.tinyKey,
    .relay .connect, .relay (.clientEnter 0 "192.168.1.20" "Q01"),
    .fetchKey (.client 0) "192.168.1.20" "Q01" (cloudAnswers 60 "0123456789abcdef"),
    .lanStart (.client 0) 0 fun _ => rePaired,
    .relay (.clientRejected 0),
    .relay .connect, .relay (.clientEnter 1 "192.168.1.20" "Q01"),
    .fetchKey (.client 1) "192.168.1.20" "Q01" (cloudAnswers now "0123456789abcdef")]

def freshEntry : Entry Unit where
  relay := World.initial Unit none 1
  api := ⟨true, some (issuedToken "s0"), none, ∅⟩
  aesKey := fun _ => none
  doorbellKey := oldKey
  past := []
  failed := none
  afterFailure := []

theorem freshEntry_init : (system basePointCrypto rotatedCipher "BE-Q01").init freshEntry :=
  ⟨⟨none, 1, by decide, rfl⟩, rfl, rfl, rfl, rfl, rfl⟩

theorem failed_key_refetched_expired :
    ∃ s : Entry Unit, s.afterFailure ≠ [] ∧ KeyNotReused "BE-Q01" s := by
  obtain ⟨s, hs, hafter⟩ :
      ∃ s, (system basePointCrypto rotatedCipher "BE-Q01").ReachableUnder (KeyExpired "BE-Q01") s ∧
        s.afterFailure ≠ [] :=
    ReachableUnder.of_replay (rePairingRun 1800) freshEntry_init (by decide +kernel)
  exact ⟨s, hafter, (failed_key_refetched basePointCrypto rotatedCipher "BE-Q01").1 s hs⟩

/-- Five seconds after the failure the key that failed is answered from the cache. -/
theorem not_failed_key_refetched :
    ¬ ∀ s : Entry Unit, (system basePointCrypto rotatedCipher "BE-Q01").Reachable s →
      KeyNotReused "BE-Q01" s := by
  intro hnever
  obtain ⟨s, hs, p, hp, hcalls, hkey⟩ :
      ∃ s, (system basePointCrypto rotatedCipher "BE-Q01").Reachable s ∧
        ∃ p ∈ s.afterFailure, p.2.calls = [] ∧ p.2.result = .ok (some p.1) :=
    ReachableUnder.of_replay (rePairingRun 65) freshEntry_init (by decide +kernel)
  exact (hnever s hs p hp).1 ⟨hcalls, hkey⟩

end Entry

end EzvizHp7.Cloud
