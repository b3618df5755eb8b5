import EzvizHp7.Cloud.AesCache
import EzvizHp7.Library.LastWrite
import Mathlib.Data.Rat.Floor
import Mathlib.Tactic.Linarith

/-!
# The key is kept warm

A forced refresh runs every twelve minutes and a key is good for thirty. Where no two refreshes in
a row fail, a live view that starts finds the key in the cache and asks the cloud nothing.
-/

namespace EzvizHp7.Cloud

open Cpd7 (Bytes)

def aesRefreshInterval : Rat := 12 * 60

/-- A call for the key: a refresh, with its number, or the relay's for a session. -/
structure KeyCall where
  refresh : Option Nat
  replies : Replies

def KeyCall.op (serial : String) (c : KeyCall) : Op :=
  .fetchLanAesKey serial c.refresh.isSome c.replies

def keyHistory (serial : String) (api : Hp7Api) (calls : List KeyCall) :
    List (KeyCall × Answer) := Mealy.log (fun c => perform (c.op serial)) api calls

def Answer.Keyed (a : Answer) : Prop := ∃ key, a.result = .ok (some key)

instance (a : Answer) : Decidable a.Keyed :=
  match h : a.result with
  | .ok (some key) => .isTrue ⟨key, h⟩
  | .ok none => .isFalse (by simp [Answer.Keyed, h])
  | .error _ => .isFalse (by simp [Answer.Keyed, h])

/-- The calls follow each other, the refreshes are begun on time and return within the slack. -/
structure Scheduled (start slack : Rat) (calls : List KeyCall) : Prop where
  clock : calls.Pairwise fun c d => c.replies.fetchedAt ≤ d.replies.now
  takesTime : ∀ c ∈ calls, c.replies.now ≤ c.replies.fetchedAt
  begun : ∀ c ∈ calls, ∀ k ∈ c.refresh, start + k * aesRefreshInterval ≤ c.replies.now
  returned : ∀ before c later, calls = before ++ c :: later →
    ∀ k : Nat, start + k * aesRefreshInterval + slack ≤ c.replies.now →
      ∃ d ∈ before, d.refresh = some k

def Steady (past : List (KeyCall × Answer)) : Prop :=
  ∀ e ∈ past, ∀ k ∈ e.1.refresh, ∀ e' ∈ past, e'.1.refresh = some (k + 1) →
    e.2.Keyed ∨ e'.2.Keyed

instance (past : List (KeyCall × Answer)) : Decidable (Steady past) :=
  inferInstanceAs (Decidable (∀ e ∈ past, _))

theorem Scheduled.front {start slack : Rat} {before rest : List KeyCall}
    (h : Scheduled start slack (before ++ rest)) : Scheduled start slack before where
  clock := (List.pairwise_append.1 h.clock).1
  takesTime c hc := h.takesTime c (List.mem_append_left _ hc)
  begun c hc := h.begun c (List.mem_append_left _ hc)
  returned before' c later hbefore := by
    apply h.returned before' c (later ++ rest)
    rw [hbefore, List.append_assoc, List.cons_append]

/-- The refresh that is due has returned, and so has the one before it. -/
theorem exists_lastRefreshes {start slack now : Rat}
    (h : start + aesRefreshInterval + slack ≤ now) :
    ∃ k : Nat, start + (k + 1 : Nat) * aesRefreshInterval + slack ≤ now ∧
      now < start + (k + 2) * aesRefreshInterval + slack := by
  have hpos : (0 : Rat) < aesRefreshInterval := by
    unfold aesRefreshInterval
    norm_num
  have hone : 1 ≤ (now - start - slack) / aesRefreshInterval := by
    rw [le_div_iff₀ hpos]
    linarith
  obtain ⟨k, hk⟩ : ∃ k, ⌊(now - start - slack) / aesRefreshInterval⌋₊ = k + 1 :=
    Nat.exists_eq_add_one.2 (Nat.floor_pos.2 hone)
  have hlow := Nat.floor_le (zero_le_one.trans hone)
  have hhigh := Nat.lt_floor_add_one ((now - start - slack) / aesRefreshInterval)
  rw [hk] at hlow hhigh
  rw [le_div_iff₀ hpos] at hlow
  rw [div_lt_iff₀ hpos] at hhigh
  refine ⟨k, by linarith, ?_⟩
  push_cast at hhigh
  linarith

private theorem keyHistory_ops (serial : String) (api : Hp7Api) (calls : List KeyCall) :
    (keyHistory serial api calls).map (fun e => (e.1.op serial, e.2)) =
      history api (calls.map (KeyCall.op serial)) :=
  Mealy.log_map perform (KeyCall.op serial) api calls

private theorem keyHistory_clock {start slack : Rat} {serial : String} {api : Hp7Api}
    {calls : List KeyCall} (h : Scheduled start slack calls) :
    (keyHistory serial api calls).Pairwise fun e e' =>
      e.1.replies.fetchedAt ≤ e'.1.replies.fetchedAt := by
  have hcalls : calls.Pairwise fun c d => c.replies.fetchedAt ≤ d.replies.fetchedAt := by
    apply h.clock.imp_of_mem
    intro c d _ hd hclock
    exact hclock.trans (h.takesTime d hd)
  rw [← Mealy.log_inputs (fun c => perform (c.op serial)) api calls, List.pairwise_map] at hcalls
  exact hcalls

private theorem event_op (serial : String) (c : KeyCall) (a : Answer) :
    event (bareSerial serial) (c.op serial, a) =
      match a.calls, a.result with
      | _ :: _, .ok (some key) => some (.fetched key c.replies.fetchedAt)
      | _, _ => none := if_pos rfl

private theorem event_op_time {serial : String} {c : KeyCall} {a : Answer} {ev : Event}
    (h : event (bareSerial serial) (c.op serial, a) = some ev) :
    ∃ key, ev = .fetched key c.replies.fetchedAt := by
  rw [event_op] at h
  split at h
  · rename_i key _ _
    exact ⟨key, (Option.some.inj h).symm⟩
  · cases h

private theorem event_refresh {serial : String} {api : Hp7Api} {c : KeyCall}
    (hrefresh : c.refresh.isSome = true) (hkeyed : (perform (c.op serial) api).1.Keyed) :
    ∃ key, event (bareSerial serial) (c.op serial, (perform (c.op serial) api).1) =
      some (.fetched key c.replies.fetchedAt) := by
  obtain ⟨key, hkey⟩ := hkeyed
  rw [event_op]
  have hperformed := perform_performed (c.op serial) api
  rw [KeyCall.op, hrefresh] at hperformed hkey ⊢
  generalize perform (.fetchLanAesKey serial true c.replies) api = p at hperformed hkey ⊢
  obtain ⟨a, api'⟩ := p
  cases hperformed with
  | fetched _ _ _ calls key' _ _ hcalls =>
    obtain ⟨call, calls, rfl⟩ := List.exists_cons_of_ne_nil (List.ne_nil_of_mem hcalls)
    exact ⟨key', rfl⟩
  | fails => cases hkey

private theorem lastEvent_refresh {start slack : Rat} {serial : String} {api : Hp7Api}
    {calls : List KeyCall} (hscheduled : Scheduled start slack calls)
    {e : KeyCall × Answer} (he : e ∈ keyHistory serial api calls)
    (hrefresh : e.1.refresh.isSome = true) (hkeyed : e.2.Keyed) :
    ∃ key t, lastEvent (bareSerial serial) (history api (calls.map (KeyCall.op serial))) =
      some (.fetched key t) ∧ e.1.replies.fetchedAt ≤ t := by
  obtain ⟨key, hevent⟩ : ∃ key, event (bareSerial serial) (e.1.op serial, e.2) =
      some (.fetched key e.1.replies.fetchedAt) := by
    obtain ⟨past, rest, hsplit⟩ := List.append_of_mem he
    obtain ⟨before, c, later, _, _, rfl⟩ := Mealy.log_split hsplit
    exact event_refresh hrefresh hkeyed
  have hmem : Event.fetched key e.1.replies.fetchedAt ∈
      (keyHistory serial api calls).filterMap fun e =>
        event (bareSerial serial) (e.1.op serial, e.2) :=
    List.mem_filterMap.2 ⟨e, he, hevent⟩
  have hsorted : ((keyHistory serial api calls).filterMap fun e =>
      event (bareSerial serial) (e.1.op serial, e.2)).Pairwise fun ev ev' =>
        ∀ key t key' t', ev = .fetched key t → ev' = .fetched key' t' → t ≤ t' := by
    rw [List.pairwise_filterMap]
    apply (keyHistory_clock hscheduled).imp
    intro d d' hclock ev hev ev' hev' key t key' t' hd hd'
    obtain ⟨_, rfl⟩ := event_op_time hev
    obtain ⟨_, rfl⟩ := event_op_time hev'
    cases hd
    cases hd'
    exact hclock
  have hlast : lastEvent (bareSerial serial) (history api (calls.map (KeyCall.op serial))) =
      ((keyHistory serial api calls).filterMap fun e =>
        event (bareSerial serial) (e.1.op serial, e.2)).getLast? := by
    rw [lastEvent, ← keyHistory_ops, List.filterMap_map]
    rfl
  obtain ⟨ev, hev⟩ := Option.ne_none_iff_exists'.1 fun hnone =>
    List.ne_nil_of_mem hmem (List.getLast?_eq_none_iff.1 hnone)
  obtain ⟨d, hd, hdev⟩ := List.mem_filterMap.1 (List.mem_of_getLast? hev)
  obtain ⟨key', rfl⟩ := event_op_time hdev
  refine ⟨key', d.1.replies.fetchedAt, hlast.trans hev, ?_⟩
  rcases LastWrite.rel_getLast hsorted hmem hev with heq | hrel
  · exact le_of_eq (Event.fetched.inj heq).2
  · exact hrel _ _ _ _ rfl rfl

/-- A session that starts later than the second refresh finds a key that is good, and nothing is
asked of the cloud for it. -/
theorem requests_stay_warm (client : Bool) (token : Option Token) (stats : Option ActivityStats)
    (serial : String) {start slack : Rat} {calls : List KeyCall}
    (hslack : slack ≤ aesKeyTtl - 2 * aesRefreshInterval)
    (hscheduled : Scheduled start slack calls)
    (hsteady : Steady (keyHistory serial ⟨client, token, stats, ∅⟩ calls))
    {before later : List KeyCall} {c : KeyCall} (hcalls : calls = before ++ c :: later)
    (hrequest : c.refresh = none)
    (hlate : start + aesRefreshInterval + slack ≤ c.replies.now) :
    ∃ key, (perform (c.op serial) (Mealy.after (fun c => perform (c.op serial))
      ⟨client, token, stats, ∅⟩ before)).1 = ⟨[], .ok (some key)⟩ := by
  rw [hcalls] at hscheduled hsteady
  obtain ⟨k, hreturned, hnext⟩ := exists_lastRefreshes hlate
  have hlogged {j : Nat} (hj : start + j * aesRefreshInterval + slack ≤ c.replies.now) :
      ∃ e ∈ keyHistory serial ⟨client, token, stats, ∅⟩ before, e.1.refresh = some j := by
    obtain ⟨d, hd, hrefresh⟩ := hscheduled.returned before c later rfl j hj
    rw [← Mealy.log_inputs (fun c => perform (c.op serial)) ⟨client, token, stats, ∅⟩ before,
      List.mem_map] at hd
    obtain ⟨e, he, rfl⟩ := hd
    exact ⟨e, he, hrefresh⟩
  obtain ⟨e', he', hrefresh'⟩ := hlogged hreturned
  obtain ⟨e, he, hrefresh⟩ := hlogged (by
    push_cast at hreturned
    unfold aesRefreshInterval at *
    linarith)
  have hmem {d : KeyCall × Answer}
      (hd : d ∈ keyHistory serial ⟨client, token, stats, ∅⟩ before) :
      d ∈ keyHistory serial ⟨client, token, stats, ∅⟩ (before ++ c :: later) := by
    rw [keyHistory, Mealy.log_append]
    exact List.mem_append_left _ hd
  have hfresh {d : KeyCall × Answer} {j : Nat}
      (hd : d ∈ keyHistory serial ⟨client, token, stats, ∅⟩ before)
      (hj : d.1.refresh = some j) (hkj : k ≤ j) (hkeyed : d.2.Keyed) :
      ∃ key t, lastEvent (bareSerial serial)
        (history ⟨client, token, stats, ∅⟩ (before.map (KeyCall.op serial))) =
          some (.fetched key t) ∧ c.replies.now - t < aesKeyTtl := by
    obtain ⟨key, t, hlast, ht⟩ :=
      lastEvent_refresh hscheduled.front hd (by rw [hj]; rfl) hkeyed
    have hcall : d.1 ∈ before := by
      rw [← Mealy.log_inputs (fun c => perform (c.op serial)) ⟨client, token, stats, ∅⟩ before]
      exact List.mem_map_of_mem hd
    have hbegun := hscheduled.front.begun d.1 hcall j hj
    have htakes := hscheduled.front.takesTime d.1 hcall
    have hkj : (k : Rat) ≤ j := Nat.cast_le.2 hkj
    refine ⟨key, t, hlast, ?_⟩
    unfold aesRefreshInterval at *
    linarith
  have hcached : ∃ key t, lastEvent (bareSerial serial)
      (history ⟨client, token, stats, ∅⟩ (before.map (KeyCall.op serial))) =
        some (.fetched key t) ∧ c.replies.now - t < aesKeyTtl := by
    rcases hsteady e (hmem he) k hrefresh e' (hmem he') hrefresh' with hkeyed | hkeyed
    · exact hfresh he hrefresh (le_refl k) hkeyed
    · exact hfresh he' hrefresh' (Nat.le_succ k) hkeyed
  obtain ⟨key, t, hlast, hage⟩ := hcached
  have hop : c.op serial = .fetchLanAesKey serial false c.replies := by
    rw [KeyCall.op, hrequest]
    rfl
  have hanswer := ((perform_performed (c.op serial) _).answersFromCache
    (reflects_history client token stats (before.map (KeyCall.op serial))) hop).2 ⟨t, hlast, hage⟩
  have hafter : Mealy.after (fun c => perform (c.op serial)) ⟨client, token, stats, ∅⟩ before =
      apiAfter ⟨client, token, stats, ∅⟩ (before.map (KeyCall.op serial)) :=
    Mealy.after_map perform (KeyCall.op serial) _ before
  refine ⟨key, ?_⟩
  rw [hafter]
  generalize perform (c.op serial) _ = p at hanswer ⊢
  obtain ⟨⟨calls, result⟩, api⟩ := p
  obtain ⟨rfl, rfl⟩ := hanswer
  rfl

def eucasAnswers (now : Rat) (eucas : Except Exc Document) : Replies where
  now := now
  newClient := .ok ()
  firstLogin := .ok none
  refresh := .ok (some (issuedToken "s1"))
  eucas := eucas
  relogin := .ok (some (issuedToken "s2"))
  eucasAgain := eucas
  fetchedAt := now + 2
  p2pRegister := .ok ()

/-- The second refresh fails, and the bell is rung while the first key is still good. -/
def missedRefresh : List KeyCall :=
  [⟨some 0, eucasAnswers 0
      (.ok (.dict [("Response", .dict [("Session", .dict [("@Key", "0123456789abcdef")])])]))⟩,
    ⟨some 1, eucasAnswers 720 (.error ⟨[.osError], "timed out"⟩)⟩]

def bell : KeyCall := ⟨none, eucasAnswers 1790 (.error ⟨[.osError], "unasked"⟩)⟩

theorem requests_stay_warm_missedRefresh :
    ∃ key, (perform (bell.op "BE0000000") (Mealy.after (fun c => perform (c.op "BE0000000"))
      ⟨false, none, none, ∅⟩ missedRefresh)).1 = ⟨[], .ok (some key)⟩ := by
  have hslack : (360 : Rat) ≤ aesKeyTtl - 2 * aesRefreshInterval := by
    unfold aesKeyTtl aesRefreshInterval
    norm_num
  have hscheduled : Scheduled 0 360 (missedRefresh ++ bell :: []) := by
    constructor
    · decide +kernel
    · decide +kernel
    · decide +kernel
    · intro before c later hcalls k hk
      have hlt (now : Rat) (n : Nat) (hnow : now < n * aesRefreshInterval + 360)
          (hc : c.replies.now = now) : k < n := by
        by_contra hnot
        have hcast : (n : Rat) ≤ k := Nat.cast_le.2 (not_lt.1 hnot)
        unfold aesRefreshInterval at *
        linarith
      have hsplit : before = [] ∧ c.replies.now = 0 ∨
          before = missedRefresh.take 1 ∧ c.replies.now = 720 ∨
          before = missedRefresh ∧ c.replies.now = 1790 := by
        cases before with
        | nil =>
          cases hcalls
          exact .inl ⟨rfl, rfl⟩
        | cons b before =>
          cases before with
          | nil =>
            cases hcalls
            exact .inr (.inl ⟨rfl, rfl⟩)
          | cons b' before =>
            cases before with
            | nil =>
              cases hcalls
              exact .inr (.inr ⟨rfl, rfl⟩)
            | cons b'' before => simp [missedRefresh] at hcalls
      rcases hsplit with ⟨rfl, hc⟩ | ⟨rfl, hc⟩ | ⟨rfl, hc⟩
      · exact absurd (hlt 0 0 (by norm_num) hc) (Nat.not_lt_zero k)
      · have hk1 := hlt 720 1 (by norm_num [aesRefreshInterval]) hc
        obtain rfl : k = 0 := by omega
        exact ⟨_, List.mem_cons_self, rfl⟩
      · have hk2 := hlt 1790 2 (by norm_num [aesRefreshInterval]) hc
        obtain rfl | rfl : k = 0 ∨ k = 1 := by omega
        · exact ⟨_, List.mem_cons_self, rfl⟩
        · exact ⟨_, List.mem_cons_of_mem _ List.mem_cons_self, rfl⟩
  have hsteady : Steady (keyHistory "BE0000000" ⟨false, none, none, ∅⟩
      (missedRefresh ++ bell :: [])) := by
    decide +kernel
  apply requests_stay_warm false none none "BE0000000" hslack hscheduled hsteady rfl rfl
  unfold aesRefreshInterval
  norm_num [bell, eucasAnswers]

end EzvizHp7.Cloud
