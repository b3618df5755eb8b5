import EzvizHp7.Cloud.KeyAnswers
import EzvizHp7.Control.DirectConnect

/-!
# The control keys on the wire

`fetch_lan_aes_key` where the answers of EUCAS are those that the CAS client gets: each attempt asks
with the token that the client holds then, on a connection of its own. Where a key comes from is
followed from the cache back to the sign-in.
-/

namespace EzvizHp7.Control

open Cloud (Token Document Exc Replies Hp7Api Traced CloudCall bareSerial)
open Cloud.Hp7Api (HoldsIssued Issues IssuesAll)
open Cpd7 (Bytes)
open Json (codePoint)

/-- What the CAS client gets from outside: the nesting that the interpreter bears, MD5, the XML
parser, what the text under `service_urls` stands for, and how its errors are raised. -/
structure CasSide where
  limit : Nat
  md5 : Bytes → Digest
  parse : Bytes → Except String Document
  serviceUrls : String → ServiceUrls
  exc : DirectConnectError → Exc

/-- A connection, and what `random.randint` draws for it. -/
structure Attempt where
  connection : CasConnection
  random : Nat
  random_lt : random < 2 ^ 32

/-- What the outside world does during one fetch; the replies of EUCAS in `cloud` are not used. -/
structure Outside where
  cloud : Replies
  first : Attempt
  second : Attempt

variable (side : CasSide)

/-- `EzvizCAS(self._token)` and `cas.cas_get_encryption(bare)` -/
def askEucas (token : Option Token) (bare : String) (a : Attempt) :
    EStateM Exc CasWorld Document := do
  let cas ← ofExcept
    ((EzvizCAS.new side.serviceUrls token).mapError fun e => side.exc (.cas e))
  (casGetEncryption side.limit side.md5 side.parse cas a.connection a.random bare).adaptExcept
    side.exc

def Outside.heldFirst (x : Outside) (api : Hp7Api) : Option Token :=
  Cloud.Hp7Api.heldFirst x.cloud ⟨api, []⟩

def Outside.heldSecond (x : Outside) : Option Token :=
  match x.cloud.relogin with
  | .ok token => token
  | .error _ => none

/-- The replies with those of EUCAS, and the world after either attempt. -/
structure Wired where
  replies : Replies
  first : CasWorld
  second : CasWorld

def Outside.wired (x : Outside) (bare : String) (api : Hp7Api) (w : CasWorld) : Wired :=
  let (eucas, w₁) := (askEucas side (x.heldFirst api) bare x.first).outcome w
  let (eucasAgain, w₂) := (askEucas side x.heldSecond bare x.second).outcome w₁
  ⟨{ x.cloud with eucas := eucas, eucasAgain := eucasAgain }, w₁, w₂⟩

/-- The world after the attempts that were made; the first one asks nothing where the token has no
`service_urls`. -/
def Wired.after (wired : Wired) (token : Option Token) (w : CasWorld) (calls : List CloudCall) :
    CasWorld :=
  match calls.countP fun c => c matches .casGetEncryption _ with
  | 0 => w
  | 1 => if (Cloud.serviceUrls token).isNone then wired.second else wired.first
  | _ => wired.second

inductive KeyOp
  | fetchLanAesKey (serial : String) (force : Bool) (x : Outside)
  | invalidateAesCache (serial : Option String)

def performWired (op : KeyOp) (s : Hp7Api × CasWorld) : Cloud.Answer × (Hp7Api × CasWorld) :=
  match op with
  | .fetchLanAesKey serial force x =>
    let wired := x.wired side (bareSerial serial) s.1 s.2
    let (a, api) := Cloud.perform (.fetchLanAesKey serial force wired.replies) s.1
    (a, api, wired.after (x.heldFirst s.1) s.2 a.calls)
  | .invalidateAesCache serial =>
    let (a, api) := Cloud.perform (.invalidateAesCache serial) s.1
    (a, api, s.2)

def KeyOp.signIns : KeyOp → List (Except Exc (Option Token))
  | .fetchLanAesKey _ _ x => [x.cloud.firstLogin, x.cloud.refresh, x.cloud.relogin]
  | .invalidateAesCache _ => []

def KeyOp.attempts (bare : String) : KeyOp → List Attempt
  | .fetchLanAesKey serial _ x => if bareSerial serial = bare then [x.first, x.second] else []
  | .invalidateAesCache _ => []

/-- The client was constructed with the token, or a sign-in returned it. -/
def Issued (initial : Option Token) (past : List KeyOp) (token : Token) : Prop :=
  initial = some token ∨ ∃ op ∈ past, .ok (some token) ∈ op.signIns

/-- A request with the session of the token and its sign, and the answer to it. -/
structure Exchanged (token : Token) (bare : String) (a : Attempt) (packet : Packet)
    (doc : Document) : Prop where
  cmd : packet.cmd = 0x2001
  session : packet.session = a.random
  request : ∃ sessionId sign text, token.lookup "session_id" = some sessionId ∧
    Signed side.limit (strOf sessionId) sign ∧ decodeUtf8 packet.body = .ok text ∧
    text.map codePoint = directConnectText sessionId sign bare
  answer : ∃ hdr body rest, Framed a.connection.received.unread hdr body rest ∧
    side.parse body = .ok doc

/-- The key is the one in EUCAS's answer to a request for the device that was sent in a session
that the cloud had issued. -/
def Granted (initial : Option Token) (past : List KeyOp) (sent : List Bytes) (bare : String)
    (key : Bytes) : Prop :=
  ∃ token, Issued initial past token ∧
    ∃ op ∈ past, ∃ a ∈ op.attempts bare, ∃ packet : Packet, ∃ doc keyStr,
      Exchanged side token bare a packet doc ∧ packet.encode ∈ sent ∧
      Cloud.keyOf (.ok doc) = .ok keyStr ∧ keyStr.length = 16 ∧
      Cloud.Hp7Api.encodeAscii keyStr = .ok key

variable {side} {token : Option Token} {bare : String} {a : Attempt} {w w' : CasWorld}

private theorem new_eq_ok {serviceUrls : String → ServiceUrls} {cas : EzvizCAS}
    (h : EzvizCAS.new serviceUrls token = .ok cas) : token = some cas.token := by
  cases token with
  | none => cases h
  | some t =>
    unfold EzvizCAS.new at h
    split at h
    · cases h
      rfl
    · cases h

private theorem askEucas_ok {doc : Document} (h : (askEucas side token bare a).run w = .ok doc w') :
    ∃ t packet, token = some t ∧ Exchanged side t bare a packet doc ∧
      w'.sent = w.sent ++ [packet.encode] := by
  obtain ⟨cas, w₁, hnew, hask⟩ := EStateM.run_bind_eq_ok.1 h
  rw [ofExcept_run_eq_ok, Except.mapError_eq_ok] at hnew
  obtain ⟨hnew, rfl⟩ := hnew
  rw [adaptExcept_run] at hask
  cases hrun : (casGetEncryption side.limit side.md5 side.parse cas a.connection a.random bare).run
      w with
  | error e w₂ => simp [hrun] at hask
  | ok doc' w₂ =>
    simp only [hrun, EStateM.Result.ok.injEq] at hask
    obtain ⟨rfl, rfl⟩ := hask
    obtain ⟨hconnecting⟩ := connecting_of_ok hrun
    obtain ⟨rfl, -, hanswer⟩ :=
      (hconnecting.run_eq_ok side.md5 side.parse a.random_lt).1 hrun
    obtain ⟨text, hdecode, htext⟩ := encodeStr_eq_ok hconnecting.encoded
    refine ⟨cas.token, hconnecting.packet side.md5 a.random_lt, new_eq_ok hnew, ?_, rfl⟩
    exact ⟨rfl, rfl, ⟨_, _, text, hconnecting.session, hconnecting.signed_sign, hdecode, htext⟩,
      hanswer⟩

structure CasWorld.Follows (n : Nat) (w w' : CasWorld) : Prop where
  live : w'.sockets.live = w.sockets.live
  sent : ∃ more, w'.sent = w.sent ++ more ∧ more.length ≤ n

theorem CasWorld.Follows.refl (n : Nat) (w : CasWorld) : w.Follows n w :=
  ⟨rfl, [], (List.append_nil _).symm, Nat.zero_le n⟩

theorem CasWorld.Follows.trans {w'' : CasWorld} {m n : Nat} (h : w.Follows m w')
    (h' : w'.Follows n w'') : w.Follows (m + n) w'' := by
  obtain ⟨more, hsent, hlen⟩ := h.sent
  obtain ⟨more', hsent', hlen'⟩ := h'.sent
  refine ⟨h'.live.trans h.live, more ++ more', ?_, ?_⟩
  · rw [hsent', hsent, List.append_assoc]
  · rw [List.length_append]
    exact Nat.add_le_add hlen hlen'

theorem CasWorld.Follows.mono {m n : Nat} (h : w.Follows m w') (hmn : m ≤ n) : w.Follows n w' := by
  obtain ⟨more, hsent, hlen⟩ := h.sent
  exact ⟨h.live, more, hsent, hlen.trans hmn⟩

theorem CasWorld.Follows.subset {n : Nat} (h : w.Follows n w') : w.sent ⊆ w'.sent := by
  obtain ⟨more, hsent, -⟩ := h.sent
  rw [hsent]
  exact List.subset_append_left _ _

theorem CasWorld.Spared.follows (h : w.Spared w') : w.Follows 1 w' := by
  refine ⟨h.live, ?_⟩
  cases h with
  | untouched => exact ⟨[], (List.append_nil _).symm, Nat.zero_le 1⟩
  | unsent => exact ⟨[], (List.append_nil _).symm, Nat.zero_le 1⟩
  | exchanged wire => exact ⟨[wire], rfl, le_refl 1⟩

private theorem askEucas_follows (token : Option Token) (bare : String) (a : Attempt)
    (w : CasWorld) : w.Follows 1 ((askEucas side token bare a).left w) := by
  rw [askEucas, EStateM.left_bind, ofExcept_run]
  cases (EzvizCAS.new side.serviceUrls token).mapError fun e => side.exc (.cas e) with
  | error exc => exact .refl 1 w
  | ok cas =>
    have hspares : w.Spared ((casGetEncryption side.limit side.md5 side.parse cas a.connection
        a.random bare).left w) := casGetEncryption_spares ..
    dsimp only
    rw [EStateM.left, adaptExcept_run]
    rw [EStateM.left] at hspares
    cases hrun : (casGetEncryption side.limit side.md5 side.parse cas a.connection a.random
        bare).run w <;> simpa only [hrun] using hspares.follows

variable {x : Outside} {api : Hp7Api}

private theorem wired_heldFirst :
    Cloud.Hp7Api.heldFirst (x.wired side bare api w).replies ⟨api, []⟩ = x.heldFirst api := rfl

private theorem wired_first : (x.wired side bare api w).first =
    (askEucas side (x.heldFirst api) bare x.first).left w := EStateM.outcome_snd ..

private theorem wired_second : (x.wired side bare api w).second =
    (askEucas side x.heldSecond bare x.second).left (x.wired side bare api w).first :=
  EStateM.outcome_snd ..

private theorem wired_first_ok {doc : Document}
    (h : (x.wired side bare api w).replies.eucas = .ok doc) :
    ∃ t packet, x.heldFirst api = some t ∧ Exchanged side t bare x.first packet doc ∧
      packet.encode ∈ (x.wired side bare api w).first.sent := by
  obtain ⟨t, packet, htoken, hexchanged, hsent⟩ := askEucas_ok (EStateM.outcome_fst_eq_ok.1 h)
  refine ⟨t, packet, htoken, hexchanged, ?_⟩
  have hfirst : (x.wired side bare api w).first.sent = w.sent ++ [packet.encode] := by
    rw [wired_first]
    exact hsent
  rw [hfirst]
  exact List.mem_append_right _ (List.mem_singleton_self _)

private theorem wired_second_ok {doc : Document}
    (h : (x.wired side bare api w).replies.eucasAgain = .ok doc) :
    ∃ t packet, x.heldSecond = some t ∧ Exchanged side t bare x.second packet doc ∧
      packet.encode ∈ (x.wired side bare api w).second.sent := by
  obtain ⟨t, packet, htoken, hexchanged, hsent⟩ := askEucas_ok (EStateM.outcome_fst_eq_ok.1 h)
  refine ⟨t, packet, htoken, hexchanged, ?_⟩
  have hsecond : (x.wired side bare api w).second.sent =
      (x.wired side bare api w).first.sent ++ [packet.encode] := by
    rw [wired_second]
    exact hsent
  rw [hsecond]
  exact List.mem_append_right _ (List.mem_singleton_self _)

private theorem wired_follows (token : Option Token) (calls : List CloudCall) :
    w.Follows 2 ((x.wired side bare api w).after token w calls) := by
  have hfirst : w.Follows 1 (x.wired side bare api w).first := by
    rw [wired_first]
    exact askEucas_follows ..
  have hsecond : (x.wired side bare api w).first.Follows 1 (x.wired side bare api w).second := by
    rw [wired_second]
    exact askEucas_follows ..
  unfold Wired.after
  split
  · exact .refl 2 w
  · split
    · exact hfirst.trans hsecond
    · exact hfirst.mono (by decide)
  · exact hfirst.trans hsecond

variable {initial : Option Token} {past : List KeyOp}

theorem Issued.mono {past' : List KeyOp} {t : Token} (h : Issued initial past t)
    (hpast : past ⊆ past') : Issued initial past' t := by
  rcases h with h | ⟨op, hop, hsignIn⟩
  · exact .inl h
  · exact .inr ⟨op, hpast hop, hsignIn⟩

theorem Granted.mono {past' : List KeyOp} {sent sent' : List Bytes} {key : Bytes}
    (h : Granted side initial past sent bare key) (hpast : past ⊆ past') (hsent : sent ⊆ sent') :
    Granted side initial past' sent' bare key := by
  obtain ⟨t, hissued, op, hop, a, ha, packet, doc, keyStr, hexchanged, hmem, hkey⟩ := h
  exact ⟨t, hissued.mono hpast, op, hpast hop, a, ha, packet, doc, keyStr, hexchanged, hsent hmem,
    hkey⟩

private theorem issued_of_signIn {op : KeyOp} (hop : op ∈ past) {reply : Except Exc (Option Token)}
    (hreply : reply ∈ op.signIns) :
    Issues (Issued initial past) reply :=
  fun _ heq => .inr ⟨op, hop, heq ▸ hreply⟩

private theorem keyOf_eq_ok {reply : Except Exc Document} {keyStr : String}
    (h : Cloud.keyOf reply = .ok keyStr) :
    ∃ doc, reply = .ok doc ∧ Cloud.keyOf (.ok doc) = .ok keyStr := by
  cases reply with
  | error exc => cases h
  | ok doc => exact ⟨doc, rfl, h⟩

private theorem heldFirst_issued {issued : Token → Prop} {t : Token}
    (hheld : HoldsIssued issued ⟨api, []⟩)
    (hissues : IssuesAll issued x.cloud) (h : x.heldFirst api = some t) : issued t := by
  have hkeeps : EStateM.Keeps (HoldsIssued issued) (do
      Cloud.Hp7Api.ensureClient x.cloud
      Cloud.Hp7Api.refreshToken x.cloud) :=
    EStateM.Keeps.bind (Cloud.Hp7Api.holds_ensureClient hissues.firstLogin) fun _ =>
      Cloud.Hp7Api.holds_refreshToken hissues.refresh
  exact hkeeps ⟨api, []⟩ hheld t h

private theorem heldSecond_issued {issued : Token → Prop} {t : Token}
    (hissues : IssuesAll issued x.cloud) (h : x.heldSecond = some t) : issued t := by
  unfold Outside.heldSecond at h
  split at h
  · rename_i token hrelogin
    exact hissues.relogin t (hrelogin.trans (congrArg _ h))
  · cases h

private theorem issuesAll (initial : Option Token) (past : List KeyOp) (serial : String)
    (force : Bool) (x : Outside) : IssuesAll
      (Issued initial (past ++ [.fetchLanAesKey serial force x])) x.cloud := by
  have hissues {reply : Except Exc (Option Token)}
      (hreply : reply ∈ (KeyOp.fetchLanAesKey serial force x).signIns) :
      Issues (Issued initial (past ++ [.fetchLanAesKey serial force x])) reply :=
    issued_of_signIn (List.mem_append_right past (List.mem_singleton_self _)) hreply
  constructor
  · exact hissues (by simp [KeyOp.signIns])
  · exact hissues (by simp [KeyOp.signIns])
  · exact hissues (by simp [KeyOp.signIns])

private theorem fetched_granted {serial : String} {force : Bool} {key : Bytes} {t : Traced}
    (hheld : HoldsIssued (Issued initial past) ⟨api, []⟩)
    (h : (Cloud.Hp7Api.fetchFromEucas (bareSerial serial) force
      (x.wired side (bareSerial serial) api w).replies).run ⟨api, []⟩ = .ok key t) :
    Granted side initial (past ++ [.fetchLanAesKey serial force x])
      ((x.wired side (bareSerial serial) api w).after (x.heldFirst api) w t.calls).sent
      (bareSerial serial) key := by
  have hissues := issuesAll initial past serial force x
  have hop : .fetchLanAesKey serial force x ∈ past ++ [.fetchLanAesKey serial force x] :=
    List.mem_append_right _ List.mem_cons_self
  have hattempts : (KeyOp.fetchLanAesKey serial force x).attempts (bareSerial serial) =
      [x.first, x.second] := if_pos rfl
  obtain ⟨keyStr, asked, hlength, hencode, hanswered, hcalls⟩ := Cloud.Hp7Api.fetchFromEucas_ok h
  rw [wired_heldFirst] at hanswered
  have hcount : (t.calls.countP fun c => c matches .casGetEncryption _) = asked := by
    rw [← Nat.zero_add asked]
    exact hcalls
  cases hanswered with
  | first hurls hkey =>
    obtain ⟨doc, hreply, hkey⟩ := keyOf_eq_ok hkey
    obtain ⟨token, packet, htoken, hexchanged, hsent⟩ := wired_first_ok hreply
    refine ⟨token, ?_, _, hop, x.first, by simp [hattempts], packet, doc, keyStr, hexchanged, ?_,
      hkey, hlength, hencode⟩
    · apply heldFirst_issued _ hissues htoken
      exact fun t ht => (hheld t ht).mono (List.subset_append_left _ _)
    · rw [Wired.after, hcount]
      simpa [hurls] using hsent
  | second hkey =>
    obtain ⟨doc, hreply, hkey⟩ := keyOf_eq_ok hkey
    obtain ⟨token, packet, htoken, hexchanged, hsent⟩ := wired_second_ok hreply
    refine ⟨token, heldSecond_issued hissues htoken, _, hop, x.second, by simp [hattempts], packet,
      doc, keyStr, hexchanged, ?_, hkey, hlength, hencode⟩
    rw [Wired.after, hcount]
    cases hurls : (Cloud.serviceUrls (x.heldFirst api)).isNone <;> exact hsent

/-- The tokens and the keys of a client come from the operations before. -/
structure Traceable (side : CasSide) (initial : Option Token) (past : List KeyOp)
    (s : Hp7Api × CasWorld) : Prop where
  token : HoldsIssued (Issued initial past) ⟨s.1, []⟩
  cached : ∀ b cached, s.1.aesCache.lookup b = some cached →
    Granted side initial past s.2.sent b cached.key

structure KeyStep (side : CasSide) (initial : Option Token) (past : List KeyOp) (op : KeyOp)
    (s : Hp7Api × CasWorld) (answer : Cloud.Answer) (s' : Hp7Api × CasWorld) : Prop where
  traceable : Traceable side initial (past ++ [op]) s'
  follows : s.2.Follows 2 s'.2
  returned : ∀ serial force x key, op = .fetchLanAesKey serial force x →
    answer.result = .ok (some key) →
    Granted side initial (past ++ [op]) s'.2.sent (bareSerial serial) key

variable {s : Hp7Api × CasWorld}

theorem Traceable.holds (h : Traceable side initial past s) (serial : String) (force : Bool)
    (x : Outside) :
    HoldsIssued (Issued initial (past ++ [.fetchLanAesKey serial force x])) ⟨s.1, []⟩ :=
  fun t ht => (h.token t ht).mono (List.subset_append_left _ _)

theorem Traceable.keeps (h : Traceable side initial past s) (op : KeyOp) {s' : CasWorld} {n : Nat}
    (hs' : s.2.Follows n s') {b : String} {cached : Cloud.CachedKey}
    (hcached : s.1.aesCache.lookup b = some cached) :
    Granted side initial (past ++ [op]) s'.sent b cached.key :=
  (h.cached b cached hcached).mono (List.subset_append_left _ _) hs'.subset

/-- The keys that are new to the cache have to be accounted for. -/
theorem Traceable.next (h : Traceable side initial past s) {op : KeyOp} {s' : Hp7Api × CasWorld}
    {n : Nat} (hs' : s.2.Follows n s'.2)
    (hholds : HoldsIssued (Issued initial (past ++ [op])) ⟨s'.1, []⟩)
    (hcache : ∀ b cached, s'.1.aesCache.lookup b = some cached →
      s.1.aesCache.lookup b = some cached ∨
        Granted side initial (past ++ [op]) s'.2.sent b cached.key) :
    Traceable side initial (past ++ [op]) s' := by
  constructor
  · exact hholds
  · intro b cached hcached
    rcases hcache b cached hcached with hold | hnew
    · exact h.keeps op hs' hold
    · exact hnew

theorem Traceable.fetch (h : Traceable side initial past s) (serial : String) (force : Bool)
    (x : Outside) :
    KeyStep side initial past (.fetchLanAesKey serial force x) s
      (performWired side (.fetchLanAesKey serial force x) s).1
      (performWired side (.fetchLanAesKey serial force x) s).2 := by
  have hfollows (calls : List CloudCall) :
      s.2.Follows 2 ((x.wired side (bareSerial serial) s.1 s.2).after (x.heldFirst s.1) s.2
        calls) :=
    wired_follows (x.heldFirst s.1) calls
  have hissues := issuesAll initial past serial force x
  have hholds := Cloud.Hp7Api.holds_fetchLanAesKey serial force
    (r := (x.wired side (bareSerial serial) s.1 s.2).replies)
    ⟨hissues.firstLogin, hissues.refresh, hissues.relogin⟩ ⟨s.1, []⟩ (h.holds serial force x)
  by_cases hhits : force = false ∧ s.1.Hits serial x.cloud.now
  · obtain ⟨rfl, cached, hcached, hage⟩ := hhits
    obtain ⟨t, hret, hcalls, hcache⟩ := Cloud.Hp7Api.fetchLanAesKey_hit (w := ⟨s.1, []⟩)
      (r := (x.wired side (bareSerial serial) s.1 s.2).replies) hcached hage
    replace hholds := HoldsIssued.of_left hholds (.inl ⟨_, hret⟩)
    simp only [performWired, Cloud.perform, Cloud.Method.answer, hret]
    constructor
    · apply h.next (hfollows t.calls) hholds
      exact fun b cached' hcached' => .inl (hcache ▸ hcached')
    · exact hfollows t.calls
    · intro serial' force' x' key heq hkey
      cases heq
      cases hkey
      exact h.keeps _ (hfollows t.calls) hcached
  · have hmiss : force = true ∨ ¬s.1.Hits serial x.cloud.now := by
      cases force <;> simp_all
    have heq := Cloud.Hp7Api.fetchLanAesKey_miss (w := ⟨s.1, []⟩)
      (r := (x.wired side (bareSerial serial) s.1 s.2).replies) hmiss
    cases hret : Cloud.Hp7Api.fetchFromEucas (bareSerial serial) force
        (x.wired side (bareSerial serial) s.1 s.2).replies ⟨s.1, []⟩ with
    | error exc t =>
      replace hholds := HoldsIssued.of_left hholds (.inr ⟨exc, heq.trans hret⟩)
      have hcache := Cloud.Hp7Api.fetchFromEucas_raises hret
      simp only [performWired, Cloud.perform, Cloud.Method.answer, heq, hret]
      constructor
      · apply h.next (hfollows t.calls) hholds
        exact fun b cached hcached => .inl (hcache ▸ hcached)
      · exact hfollows t.calls
      · intro serial' force' x' key _ hkey
        cases hkey
    | ok key t =>
      replace hholds := HoldsIssued.of_left hholds (.inl ⟨key, heq.trans hret⟩)
      have hgranted := fetched_granted h.token hret
      obtain ⟨-, -, hcache⟩ := Cloud.Hp7Api.fetchFromEucas_returns hret
      simp only [performWired, Cloud.perform, Cloud.Method.answer, heq, hret]
      constructor
      · apply h.next (hfollows t.calls) hholds
        intro b cached hcached
        rw [hcache] at hcached
        by_cases hb : b = bareSerial serial
        · rw [hb, AList.lookup_insert] at hcached
          cases hcached
          rw [hb]
          exact .inr hgranted
        · rw [AList.lookup_insert_ne hb] at hcached
          exact .inl hcached
      · exact hfollows t.calls
      · intro serial' force' x' key' heq' hkey
        cases heq'
        cases hkey
        exact hgranted

theorem Traceable.invalidate (h : Traceable side initial past s) (serial : Option String) :
    KeyStep side initial past (.invalidateAesCache serial) s
      (performWired side (.invalidateAesCache serial) s).1
      (performWired side (.invalidateAesCache serial) s).2 := by
  have hfollows : s.2.Follows 2 (performWired side (.invalidateAesCache serial) s).2.2 :=
    .refl 2 s.2
  constructor
  · apply h.next hfollows
    · cases serial <;> exact fun t ht => (h.token t ht).mono (List.subset_append_left _ _)
    · intro b cached hcached
      cases serial with
      | none => cases hcached
      | some serial =>
        change (s.1.aesCache.erase (bareSerial serial)).lookup b = some cached at hcached
        by_cases hb : b = bareSerial serial
        · rw [hb, AList.lookup_erase] at hcached
          cases hcached
        · rw [AList.lookup_erase_ne hb] at hcached
          exact .inl hcached
  · exact hfollows
  · intro serial' force x key heq
    cases heq

theorem Traceable.step (h : Traceable side initial past s) (op : KeyOp) :
    KeyStep side initial past op s (performWired side op s).1 (performWired side op s).2 := by
  cases op with
  | fetchLanAesKey serial force x => exact h.fetch serial force x
  | invalidateAesCache serial => exact h.invalidate serial

/-- What a run of operations has made of the keys. -/
structure KeyRun (side : CasSide) (initial : Option Token) (sockets : Sockets)
    (log : List (KeyOp × Cloud.Answer)) (s : Hp7Api × CasWorld) : Prop where
  traceable : Traceable side initial (log.map Prod.fst) s
  follows : CasWorld.Follows (2 * log.length) ⟨sockets, []⟩ s.2
  returned : ∀ serial force x answer key, (.fetchLanAesKey serial force x, answer) ∈ log →
    answer.result = .ok (some key) →
      Granted side initial (log.map Prod.fst) s.2.sent (bareSerial serial) key

theorem KeyRun.next {sockets : Sockets} {log : List (KeyOp × Cloud.Answer)}
    (h : KeyRun side initial sockets log s) (op : KeyOp) :
    KeyRun side initial sockets (log ++ [(op, (performWired side op s).1)])
      (performWired side op s).2 := by
  have hstep := h.traceable.step op
  have hpast : (log ++ [(op, (performWired side op s).1)]).map Prod.fst =
      log.map Prod.fst ++ [op] := List.map_append
  constructor
  · rw [hpast]
    exact hstep.traceable
  · rw [List.length_append, Nat.mul_add]
    exact h.follows.trans hstep.follows
  · intro serial force x answer key hmem hkey
    rw [hpast]
    rcases List.mem_append.1 hmem with hold | hnew
    · apply (h.returned serial force x answer key hold hkey).mono
      · exact List.subset_append_left _ _
      · exact hstep.follows.subset
    · cases List.mem_singleton.1 hnew
      exact hstep.returned serial force x key rfl hkey

/-- Every key that a client caches or returns, in any run of fetches and invalidations, is the key
in EUCAS's answer to a packet that was sent for this device in a session that the cloud had issued
to the client, with the sign in that session. No socket stays open, and no fetch sends more than two
packets. -/
theorem keys_granted (side : CasSide) (client : Bool) (token : Option Token)
    (stats : Option Cloud.ActivityStats) (sockets : Sockets) (ops : List KeyOp) :
    ∃ api w, Mealy.after (performWired side) (⟨client, token, stats, ∅⟩, ⟨sockets, []⟩) ops =
        (api, w) ∧
      w.sockets.live = sockets.live ∧ w.sent.length ≤ 2 * ops.length ∧
      (∀ b cached, api.aesCache.lookup b = some cached →
        Granted side token ops w.sent b cached.key) ∧
      ∀ serial force x answer key,
        (.fetchLanAesKey serial force x, answer) ∈
            Mealy.log (performWired side) (⟨client, token, stats, ∅⟩, ⟨sockets, []⟩) ops →
          answer.result = .ok (some key) →
            Granted side token ops w.sent (bareSerial serial) key := by
  have hrun : KeyRun side token sockets
      (Mealy.log (performWired side) (⟨client, token, stats, ∅⟩, ⟨sockets, []⟩) ops)
      (Mealy.after (performWired side) (⟨client, token, stats, ∅⟩, ⟨sockets, []⟩) ops) := by
    refine Mealy.invariant ?_ (fun log s op _ h => h.next op) fun _ _ => trivial
    constructor
    · constructor
      · exact fun t ht => .inl ht
      · intro b cached hcached
        cases hcached
    · exact .refl _ _
    · intro serial force x answer key hmem
      cases hmem
  obtain ⟨more, hsent, hlength⟩ := hrun.follows.sent
  have htraceable := hrun.traceable
  have hreturned := hrun.returned
  rw [Mealy.log_inputs] at htraceable hreturned
  refine ⟨_, _, rfl, hrun.follows.live, ?_, htraceable.cached, hreturned⟩
  rw [hsent, List.nil_append]
  apply hlength.trans_eq
  rw [← List.length_map (f := Prod.fst), Mealy.log_inputs]

end EzvizHp7.Control
