import EzvizHp7.Cloud.AesKeys
import EzvizHp7.Library.Mealy

/-!
# The key cache over a run

The cache is a function of the history: for every bare serial it holds the key of the last
successful fetch from the cloud, unless an invalidation came after it.
-/

namespace EzvizHp7.Cloud

open Cpd7 (Bytes)

inductive Op
  | fetchLanAesKey (serial : String) (force : Bool) (r : Replies)
  | invalidateAesCache (serial : Option String)

structure Answer where
  calls : List CloudCall
  result : Except Exc (Option Bytes)
  deriving DecidableEq

def Method.answer {α : Type} (m : Method α) (key : α → Option Bytes) (api : Hp7Api) :
    Answer × Hp7Api :=
  match m ⟨api, []⟩ with
  | .ok a w => (⟨w.calls, .ok (key a)⟩, w.api)
  | .error exc w => (⟨w.calls, .error exc⟩, w.api)

def perform (op : Op) (api : Hp7Api) : Answer × Hp7Api :=
  match op with
  | .fetchLanAesKey serial force r =>
    Method.answer (Hp7Api.fetchLanAesKey serial force r) some api
  | .invalidateAesCache serial =>
    Method.answer (Hp7Api.invalidateAesCache serial) (fun _ => none) api

def Op.Covers (b : String) : Op → Prop
  | .fetchLanAesKey serial _ _ => bareSerial serial = b
  | .invalidateAesCache none => True
  | .invalidateAesCache (some serial) => bareSerial serial = b

instance (b : String) (op : Op) : Decidable (op.Covers b) := by
  induction op using Op.casesOn with
  | fetchLanAesKey serial force r => exact inferInstanceAs (Decidable (_ = _))
  | invalidateAesCache serial =>
    induction serial using Option.casesOn with
    | none => exact .isTrue trivial
    | some serial => exact inferInstanceAs (Decidable (_ = _))

/-- Everything an operation can do to the cache, with what it called and returned. -/
inductive Performed (api : Hp7Api) : Op → Answer → Hp7Api → Prop
  | hit (serial : String) (r : Replies) (cached : CachedKey) (api' : Hp7Api)
      (hcached : api.aesCache.lookup (bareSerial serial) = some cached)
      (hage : r.now - cached.fetchedAt < aesKeyTtl) (hcache : api'.aesCache = api.aesCache) :
      Performed api (.fetchLanAesKey serial false r) ⟨[], .ok (some cached.key)⟩ api'
  | fetched (serial : String) (force : Bool) (r : Replies) (calls : List CloudCall) (key : Bytes)
      (api' : Hp7Api) (hmiss : force = true ∨ ¬api.Hits serial r.now)
      (hcalls : .casGetEncryption (bareSerial serial) ∈ calls) (hkey : key.length = 16)
      (hcache : api'.aesCache = api.aesCache.insert (bareSerial serial) ⟨key, r.fetchedAt⟩) :
      Performed api (.fetchLanAesKey serial force r) ⟨calls, .ok (some key)⟩ api'
  | fails (serial : String) (force : Bool) (r : Replies) (calls : List CloudCall) (exc : Exc)
      (api' : Hp7Api) (hmiss : force = true ∨ ¬api.Hits serial r.now)
      (hcache : api'.aesCache = api.aesCache) :
      Performed api (.fetchLanAesKey serial force r) ⟨calls, .error exc⟩ api'
  | cleared (api' : Hp7Api) (hcache : api'.aesCache = ∅) :
      Performed api (.invalidateAesCache none) ⟨[], .ok none⟩ api'
  | dropped (serial : String) (api' : Hp7Api)
      (hcache : api'.aesCache = api.aesCache.erase (bareSerial serial)) :
      Performed api (.invalidateAesCache (some serial)) ⟨[], .ok none⟩ api'

theorem perform_performed (op : Op) (api : Hp7Api) :
    Performed api op (perform op api).1 (perform op api).2 := by
  cases op with
  | invalidateAesCache serial =>
    cases serial with
    | none => exact .cleared _ rfl
    | some serial => exact .dropped serial _ rfl
  | fetchLanAesKey serial force r =>
    by_cases hhits : force = false ∧ api.Hits serial r.now
    · obtain ⟨rfl, cached, hcached, hage⟩ := hhits
      obtain ⟨w', hret, hcalls, hcache⟩ :=
        Hp7Api.fetchLanAesKey_hit (w := ⟨api, []⟩) hcached hage
      simp only [perform, Method.answer, hret, hcalls]
      exact .hit serial r cached _ hcached hage hcache
    · have hmiss : force = true ∨ ¬api.Hits serial r.now := by
        cases force <;> simp_all
      have heq := Hp7Api.fetchLanAesKey_miss (w := ⟨api, []⟩) hmiss
      simp only [perform, Method.answer, heq]
      cases hret : Hp7Api.fetchFromEucas (bareSerial serial) force r ⟨api, []⟩ with
      | ok key w' =>
        obtain ⟨hkey, hcalls, hcache⟩ := Hp7Api.fetchFromEucas_returns hret
        exact .fetched serial force r _ key _ hmiss hcalls hkey hcache
      | error exc w' =>
        exact .fails serial force r _ exc _ hmiss (Hp7Api.fetchFromEucas_raises hret)

inductive Event
  | fetched (key : Bytes) (fetchedAt : Rat)
  | invalidated
  deriving DecidableEq, Repr

def event (b : String) (e : Op × Answer) : Option Event :=
  if e.1.Covers b then
    match e.1 with
    | .invalidateAesCache _ => some .invalidated
    | .fetchLanAesKey _ _ r =>
      match e.2.calls, e.2.result with
      | _ :: _, .ok (some key) => some (.fetched key r.fetchedAt)
      | _, _ => none
  else none

/-- The most recent of the successful fetches from the cloud and the invalidations. -/
def lastEvent (b : String) (past : List (Op × Answer)) : Option Event :=
  (past.filterMap (event b)).getLast?

def Event.entry : Event → Option CachedKey
  | .fetched key fetchedAt => some ⟨key, fetchedAt⟩
  | .invalidated => none

@[simp] theorem lastEvent_append (b : String) (past : List (Op × Answer)) (e : Op × Answer) :
    lastEvent b (past ++ [e]) = (event b e).or (lastEvent b past) := by
  simp only [lastEvent, List.filterMap_append, List.getLast?_append]
  cases h : event b e <;> simp [h]

variable {api api' : Hp7Api} {op : Op} {a : Answer}

theorem Performed.separate (h : Performed api op a api') {b : String} (hb : ¬op.Covers b) :
    api'.aesCache.lookup b = api.aesCache.lookup b := by
  cases h with
  | hit serial r cached _ _ _ hcache => rw [hcache]
  | fetched serial force r calls key _ _ _ _ hcache =>
    rw [hcache, AList.lookup_insert_ne fun heq => hb heq.symm]
  | fails serial force r calls exc _ _ hcache => rw [hcache]
  | cleared => exact absurd trivial hb
  | dropped serial _ hcache => rw [hcache, AList.lookup_erase_ne fun heq => hb heq.symm]

theorem Performed.lookup (h : Performed api op a api') (b : String) :
    api'.aesCache.lookup b =
      ((event b (op, a)).map Event.entry).getD (api.aesCache.lookup b) := by
  by_cases hb : op.Covers b
  · cases h with
    | hit serial r cached _ _ _ hcache => simp [event, hb, hcache]
    | fetched serial force r calls key _ _ hcalls _ hcache =>
      obtain ⟨c, calls, rfl⟩ := List.exists_cons_of_ne_nil (List.ne_nil_of_mem hcalls)
      have hserial : bareSerial serial = b := hb
      simp [event, hb, hcache, hserial, Event.entry]
    | fails serial force r calls exc _ _ hcache => simp [event, hb, hcache]
    | cleared _ hcache => simp [event, hb, hcache, Event.entry]
    | dropped serial _ hcache =>
      have hserial : bareSerial serial = b := hb
      simp [event, hb, hcache, hserial, Event.entry]
  · rw [h.separate hb]
    simp [event, hb]

/-- The cache holds what the history says. -/
structure Reflects (past : List (Op × Answer)) (api : Hp7Api) : Prop where
  entry : ∀ b, api.aesCache.lookup b = (lastEvent b past).bind Event.entry
  key_length : ∀ b cached, api.aesCache.lookup b = some cached → cached.key.length = 16

theorem Reflects.lookup_eq_some {past : List (Op × Answer)} (hpast : Reflects past api)
    {b : String} {cached : CachedKey} :
    api.aesCache.lookup b = some cached ↔
      lastEvent b past = some (.fetched cached.key cached.fetchedAt) := by
  rw [hpast.entry]
  constructor
  · intro h
    cases hlast : lastEvent b past with
    | none => simp [hlast] at h
    | some ev =>
      cases ev with
      | invalidated => simp [hlast, Event.entry] at h
      | fetched key fetchedAt =>
        simp only [hlast, Option.bind_some, Event.entry, Option.some.injEq] at h
        rw [← h]
  · intro h
    rw [h]
    rfl

theorem Performed.key_length (h : Performed api op a api')
    (hkeys : ∀ b cached, api.aesCache.lookup b = some cached → cached.key.length = 16)
    (b : String) (cached : CachedKey) (hcached : api'.aesCache.lookup b = some cached) :
    cached.key.length = 16 := by
  cases h with
  | hit serial r _ _ _ _ hcache => exact hkeys b cached (hcache ▸ hcached)
  | fails serial force r calls exc _ _ hcache => exact hkeys b cached (hcache ▸ hcached)
  | cleared _ hcache => simp [hcache] at hcached
  | fetched serial force r calls key _ _ _ hkey hcache =>
    rw [hcache] at hcached
    by_cases hb : b = bareSerial serial
    · rw [hb, AList.lookup_insert] at hcached
      rw [← Option.some.inj hcached]
      exact hkey
    · rw [AList.lookup_insert_ne hb] at hcached
      exact hkeys b cached hcached
  | dropped serial _ hcache =>
    rw [hcache] at hcached
    by_cases hb : b = bareSerial serial
    · rw [hb, AList.lookup_erase] at hcached
      cases hcached
    · rw [AList.lookup_erase_ne hb] at hcached
      exact hkeys b cached hcached

theorem Performed.reflects {past : List (Op × Answer)} (h : Performed api op a api')
    (hpast : Reflects past api) : Reflects (past ++ [(op, a)]) api' := by
  constructor
  · intro b
    rw [h.lookup, lastEvent_append, hpast.entry]
    cases event b (op, a) <;> rfl
  · exact h.key_length hpast.key_length

theorem Performed.answersFromCache (h : Performed api op a api') {past : List (Op × Answer)}
    (hpast : Reflects past api) {serial : String} {r : Replies} {key : Bytes}
    (hop : op = .fetchLanAesKey serial false r) :
    a.calls = [] ∧ a.result = .ok (some key) ↔
      ∃ fetchedAt, lastEvent (bareSerial serial) past = some (.fetched key fetchedAt) ∧
        r.now - fetchedAt < aesKeyTtl := by
  have hmisses (hmiss : false = true ∨ ¬api.Hits serial r.now) :
      ¬∃ fetchedAt, lastEvent (bareSerial serial) past = some (.fetched key fetchedAt) ∧
        r.now - fetchedAt < aesKeyTtl := by
    intro hex
    obtain ⟨fetchedAt, hlast, hage⟩ := hex
    apply hmiss.resolve_left Bool.false_ne_true
    exact ⟨⟨key, fetchedAt⟩, hpast.lookup_eq_some.2 hlast, hage⟩
  cases h with
  | hit serial' r' cached _ hcached hage _ =>
    cases hop
    rw [hpast.lookup_eq_some] at hcached
    simp only [true_and, Except.ok.injEq, Option.some.injEq, hcached, Event.fetched.injEq]
    constructor
    · intro hkey
      exact ⟨cached.fetchedAt, ⟨hkey, rfl⟩, hage⟩
    · intro hex
      obtain ⟨_, hkey, _⟩ := hex
      exact hkey.1
  | fetched serial' force r' calls key' _ hmiss hcalls _ _ =>
    cases hop
    simp [hmisses hmiss, List.ne_nil_of_mem hcalls]
  | fails serial' force r' calls exc _ hmiss _ =>
    cases hop
    simp [hmisses hmiss]
  | cleared => cases hop
  | dropped => cases hop

theorem Performed.asksEucas (h : Performed api op a api') {serial : String} {force : Bool}
    {r : Replies} {key : Bytes} (hop : op = .fetchLanAesKey serial force r)
    (hkey : a.result = .ok (some key)) :
    a.calls = [] ∨ .casGetEncryption (bareSerial serial) ∈ a.calls := by
  cases h with
  | hit => exact .inl rfl
  | fetched serial' force' r' calls key' _ _ hcalls =>
    cases hop
    exact .inr hcalls
  | fails => cases hkey
  | cleared => cases hop
  | dropped => cases hop

theorem Performed.returns_length {past : List (Op × Answer)} (h : Performed api op a api')
    (hpast : Reflects past api) {key : Bytes} (hkey : a.result = .ok (some key)) :
    key.length = 16 := by
  cases h with
  | hit serial r cached _ hcached =>
    cases hkey
    exact hpast.key_length _ cached hcached
  | fetched serial force r calls key' _ _ _ hlength =>
    cases hkey
    exact hlength
  | fails => cases hkey
  | cleared => cases hkey
  | dropped => cases hkey

theorem Performed.raises (h : Performed api op a api') {exc : Exc} (hexc : a.result = .error exc) :
    api'.aesCache = api.aesCache := by
  cases h with
  | hit => cases hexc
  | fetched => cases hexc
  | fails serial force r calls _ _ _ hcache => exact hcache
  | cleared => cases hexc
  | dropped => cases hexc

def history (api : Hp7Api) (ops : List Op) : List (Op × Answer) := Mealy.log perform api ops

def apiAfter (api : Hp7Api) (ops : List Op) : Hp7Api := Mealy.after perform api ops

structure OpLaw (past : List (Op × Answer)) (api : Hp7Api) (op : Op) : Prop where
  answersFromCache : ∀ serial r key, op = .fetchLanAesKey serial false r →
    ((perform op api).1.calls = [] ∧ (perform op api).1.result = .ok (some key) ↔
      ∃ fetchedAt, lastEvent (bareSerial serial) past = some (.fetched key fetchedAt) ∧
        r.now - fetchedAt < aesKeyTtl)
  raises : ∀ exc, (perform op api).1.result = .error exc →
    (perform op api).2.aesCache = api.aesCache
  returns_length : ∀ key, (perform op api).1.result = .ok (some key) → key.length = 16
  separate : ∀ b, ¬op.Covers b →
    (perform op api).2.aesCache.lookup b = api.aesCache.lookup b

/-- The law of a run. -/
structure CacheLaw (api : Hp7Api) (ops : List Op) : Prop where
  op : ∀ before op later, ops = before ++ op :: later →
    OpLaw (history api before) (apiAfter api before) op
  entry : ∀ b, (apiAfter api ops).aesCache.lookup b =
    (lastEvent b (history api ops)).bind Event.entry
  cached_length : ∀ b cached, (apiAfter api ops).aesCache.lookup b = some cached →
    cached.key.length = 16
  shared : ∀ serial serial', bareSerial serial = bareSerial serial' →
    (∀ force r, perform (.fetchLanAesKey serial force r) (apiAfter api ops) =
      perform (.fetchLanAesKey serial' force r) (apiAfter api ops)) ∧
    perform (.invalidateAesCache (some serial)) (apiAfter api ops) =
      perform (.invalidateAesCache (some serial')) (apiAfter api ops)

private theorem perform_fetch_congr {serial serial' : String}
    (h : bareSerial serial = bareSerial serial') (force : Bool) (r : Replies) :
    perform (.fetchLanAesKey serial force r) = perform (.fetchLanAesKey serial' force r) := by
  have hfetch : Hp7Api.fetchLanAesKey serial force r =
      Hp7Api.fetchLanAesKey serial' force r := by
    dsimp only [Hp7Api.fetchLanAesKey]
    rw [h]
  funext api
  simp only [perform, hfetch]

private theorem perform_invalidate_congr {serial serial' : String}
    (h : bareSerial serial = bareSerial serial') :
    perform (.invalidateAesCache (some serial)) = perform (.invalidateAesCache (some serial')) := by
  funext api
  simp only [perform, Hp7Api.invalidateAesCache, h]

theorem reflects_history (client : Bool) (token : Option Token) (stats : Option ActivityStats)
    (ops : List Op) :
    Reflects (history ⟨client, token, stats, ∅⟩ ops) (apiAfter ⟨client, token, stats, ∅⟩ ops) := by
  refine Mealy.invariant (P := Reflects) ?_ ?_ fun _ _ => trivial
  · constructor
    · intro b
      rfl
    · intro b cached h
      cases h
  · intro past api op _ hpast
    exact (perform_performed op api).reflects hpast

/-- The law holds of every run of a client that has cached nothing yet, in whatever order its clock
readings come. -/
theorem aesCache_run (client : Bool) (token : Option Token) (stats : Option ActivityStats)
    (ops : List Op) : CacheLaw ⟨client, token, stats, ∅⟩ ops where
  op before op later _ := by
    have hpast := reflects_history client token stats before
    have hop := perform_performed op (apiAfter ⟨client, token, stats, ∅⟩ before)
    constructor
    · intro serial r key heq
      exact hop.answersFromCache hpast heq
    · intro exc hexc
      exact hop.raises hexc
    · intro key hkey
      exact hop.returns_length hpast hkey
    · intro b hb
      exact hop.separate hb
  entry := (reflects_history client token stats ops).entry
  cached_length := (reflects_history client token stats ops).key_length
  shared _ _ h :=
    ⟨fun force r => congrFun (perform_fetch_congr h force r) _,
      congrFun (perform_invalidate_congr h) _⟩

end EzvizHp7.Cloud
