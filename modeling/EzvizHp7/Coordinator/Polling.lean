import EzvizHp7.Library.Mealy
import Mathlib.Data.List.AList
import Mathlib.Data.Rat.Defs
import Mathlib.Tactic.Linarith

/-!
# The update coordinator

`_async_update_data` polls the alarms on every tick and the static device information at its own
pace, and hands the entities the fresh alarms over the last known static data. The law of a run
speaks of the static polls that succeeded; the coordinator remembers two fields.
-/

namespace EzvizHp7.Coordinator

/-- A dictionary with string keys. `a ∪ b` is `{**b, **a}`. -/
abbrev Dict (V : Type) := AList fun _ : String => V

def statusPollIntervalSec : Rat := 300

private theorem statusPollIntervalSec_nonneg : 0 ≤ statusPollIntervalSec := by decide

structure ActivityStats where
  cloudPolls : Nat
  cloudPollsAlarms : Nat
  cloudPollsStatic : Nat
  deriving DecidableEq, Repr

structure Hp7Coordinator (V : Type) where
  serial : String
  stats : Option ActivityStats
  cachedStatic : Dict V
  lastStaticFetch : Option Rat
  lastLoggedAlarmTime : Option V

def Hp7Coordinator.init (V : Type) (serial : String) (stats : Option ActivityStats) :
    Hp7Coordinator V := ⟨serial, stats, ∅, none, none⟩

/-- What the endpoints answer in one tick, if they are asked, and the clock after the alarms. -/
structure Tick (V : Type) where
  alarms : Except String (Dict V)
  now : Rat
  staticStatus : Except String (Dict V)

/-- A successful static poll does not return the empty dictionary. -/
def Tick.StaticNonempty {V : Type} (t : Tick V) : Prop :=
  ∀ static, t.staticStatus = .ok static → static.entries ≠ []

inductive Endpoint
  | alarms
  | staticStatus
  deriving DecidableEq, Repr

structure AlarmReceived (V : Type) where
  serial : String
  code : Option V
  name : Option V
  time : V

/-- One call of `_async_update_data`: what it asked, what it returned or the text of its
`UpdateFailed`, and what it logged. -/
structure Update (V : Type) where
  calls : List Endpoint
  result : Except String (Dict V)
  logged : Option (AlarmReceived V)

variable {V : Type}

namespace Hp7Coordinator

def bump (f : ActivityStats → ActivityStats) (c : Hp7Coordinator V) : Hp7Coordinator V :=
  { c with stats := c.stats.map f }

/-- The static data was never fetched, or long enough ago. -/
def StaticDue (c : Hp7Coordinator V) (now : Rat) : Prop :=
  ∀ last ∈ c.lastStaticFetch, statusPollIntervalSec ≤ now - last

instance (c : Hp7Coordinator V) (now : Rat) : Decidable (c.StaticDue now) :=
  inferInstanceAs (Decidable (∀ last ∈ c.lastStaticFetch, _))

/-- The end of the tick: the overlay, and the diagnostic line for a new alarm time. -/
def merge [DecidableEq V] (truthy : V → Bool) (calls : List Endpoint) (alarms : Dict V)
    (c : Hp7Coordinator V) : Update V × Hp7Coordinator V :=
  let merged := alarms ∪ c.cachedStatic
  match merged.lookup "last_alarm_time" with
  | some time =>
    if truthy time ∧ some time ≠ c.lastLoggedAlarmTime then
      (⟨calls, .ok merged,
        some ⟨c.serial, merged.lookup "alarm_type_code", merged.lookup "alarm_name", time⟩⟩,
        { c with lastLoggedAlarmTime := some time })
    else (⟨calls, .ok merged, none⟩, c)
  | none => (⟨calls, .ok merged, none⟩, c)

def asyncUpdateData [DecidableEq V] (truthy : V → Bool) (t : Tick V) (c : Hp7Coordinator V) :
    Update V × Hp7Coordinator V :=
  let c := c.bump fun s => { s with cloudPolls := s.cloudPolls + 1 }
  match t.alarms with
  | .error exc => (⟨[.alarms], .error ("EZVIZ HP7 alarm poll failed: " ++ exc), none⟩, c)
  | .ok alarms =>
    let c := c.bump fun s => { s with cloudPollsAlarms := s.cloudPollsAlarms + 1 }
    if c.StaticDue t.now then
      match t.staticStatus with
      | .ok static =>
        let c := { c with cachedStatic := static, lastStaticFetch := some t.now }
        let c := c.bump fun s => { s with cloudPollsStatic := s.cloudPollsStatic + 1 }
        c.merge truthy [.alarms, .staticStatus] alarms
      | .error exc =>
        if c.cachedStatic.entries = [] then
          (⟨[.alarms, .staticStatus],
            .error ("EZVIZ HP7 initial static poll failed: " ++ exc), none⟩, c)
        else c.merge truthy [.alarms, .staticStatus] alarms
    else c.merge truthy [.alarms] alarms

end Hp7Coordinator

def Hp7Coordinator.SameStatic (c c' : Hp7Coordinator V) : Prop :=
  c'.cachedStatic = c.cachedStatic ∧ c'.lastStaticFetch = c.lastStaticFetch

@[simp] theorem bump_cachedStatic (f : ActivityStats → ActivityStats) (c : Hp7Coordinator V) :
    (c.bump f).cachedStatic = c.cachedStatic := rfl

@[simp] theorem bump_staticDue (f : ActivityStats → ActivityStats) (c : Hp7Coordinator V)
    (now : Rat) : (c.bump f).StaticDue now ↔ c.StaticDue now := Iff.rfl

/-- The diagnostic line does not change what the tick returns or what it remembers of the
static data. -/
theorem merge_spec [DecidableEq V] (truthy : V → Bool) (calls : List Endpoint) (alarms : Dict V)
    (c : Hp7Coordinator V) :
    (c.merge truthy calls alarms).1.calls = calls ∧
      (c.merge truthy calls alarms).1.result = .ok (alarms ∪ c.cachedStatic) ∧
      c.SameStatic (c.merge truthy calls alarms).2 := by
  unfold Hp7Coordinator.merge
  dsimp only
  split
  · split
    · exact ⟨rfl, rfl, rfl, rfl⟩
    · exact ⟨rfl, rfl, rfl, rfl⟩
  · exact ⟨rfl, rfl, rfl, rfl⟩

/-- Everything one tick can do to the static data, with what it asked and returned. -/
inductive Ticked (t : Tick V) (c : Hp7Coordinator V) (u : Update V) (c' : Hp7Coordinator V) : Prop
  | alarmFails (exc : String) (halarms : t.alarms = .error exc) (hcalls : u.calls = [.alarms])
      (hresult : u.result = .error ("EZVIZ HP7 alarm poll failed: " ++ exc))
      (hsame : c.SameStatic c')
  | spares (alarms : Dict V) (halarms : t.alarms = .ok alarms) (hdue : ¬c.StaticDue t.now)
      (hcalls : u.calls = [.alarms]) (hresult : u.result = .ok (alarms ∪ c.cachedStatic))
      (hsame : c.SameStatic c')
  | refreshes (alarms static : Dict V) (halarms : t.alarms = .ok alarms) (hdue : c.StaticDue t.now)
      (hstatic : t.staticStatus = .ok static) (hcalls : u.calls = [.alarms, .staticStatus])
      (hresult : u.result = .ok (alarms ∪ static)) (hcached : c'.cachedStatic = static)
      (hlast : c'.lastStaticFetch = some t.now)
  | reuses (alarms : Dict V) (exc : String) (halarms : t.alarms = .ok alarms)
      (hdue : c.StaticDue t.now) (hstatic : t.staticStatus = .error exc)
      (hwarm : c.cachedStatic.entries ≠ []) (hcalls : u.calls = [.alarms, .staticStatus])
      (hresult : u.result = .ok (alarms ∪ c.cachedStatic)) (hsame : c.SameStatic c')
  | coldFails (alarms : Dict V) (exc : String) (halarms : t.alarms = .ok alarms)
      (hdue : c.StaticDue t.now) (hstatic : t.staticStatus = .error exc)
      (hcold : c.cachedStatic.entries = []) (hcalls : u.calls = [.alarms, .staticStatus])
      (hresult : u.result = .error ("EZVIZ HP7 initial static poll failed: " ++ exc))
      (hsame : c.SameStatic c')

theorem asyncUpdateData_ticked [DecidableEq V] (truthy : V → Bool) (t : Tick V)
    (c : Hp7Coordinator V) :
    Ticked t c (c.asyncUpdateData truthy t).1 (c.asyncUpdateData truthy t).2 := by
  unfold Hp7Coordinator.asyncUpdateData
  cases halarms : t.alarms with
  | error exc => exact .alarmFails exc halarms rfl rfl ⟨rfl, rfl⟩
  | ok alarms =>
    simp only [bump_staticDue]
    split
    · rename_i hdue
      cases hstatic : t.staticStatus with
      | ok static =>
        obtain ⟨hcalls, hresult, hcached, hlast⟩ := merge_spec truthy _ alarms _
        exact .refreshes alarms static halarms hdue hstatic hcalls hresult hcached hlast
      | error exc =>
        by_cases hcold : c.cachedStatic.entries = []
        · simp only [bump_cachedStatic, hcold, if_true]
          exact .coldFails alarms exc halarms hdue hstatic hcold rfl rfl ⟨rfl, rfl⟩
        · simp only [bump_cachedStatic, hcold, if_false]
          obtain ⟨hcalls, hresult, hsame⟩ := merge_spec truthy _ alarms _
          exact .reuses alarms exc halarms hdue hstatic hcold hcalls hresult hsame
    · rename_i hdue
      obtain ⟨hcalls, hresult, hsame⟩ := merge_spec truthy _ alarms _
      exact .spares alarms halarms hdue hcalls hresult hsame

section Run

def staticSuccess (e : Tick V × Update V) : Option (Rat × Dict V) :=
  if .staticStatus ∈ e.2.calls then e.1.staticStatus.toOption.map (e.1.now, ·) else none

def staticSuccesses (past : List (Tick V × Update V)) : List (Rat × Dict V) :=
  past.filterMap staticSuccess

def lastStatic (past : List (Tick V × Update V)) : Option (Rat × Dict V) :=
  (staticSuccesses past).getLast?

theorem staticSuccess_eq_some {e : Tick V × Update V} {s : Rat × Dict V}
    (h : staticSuccess e = some s) :
    .staticStatus ∈ e.2.calls ∧ e.1.staticStatus = .ok s.2 ∧ s.1 = e.1.now := by
  simp only [staticSuccess] at h
  split at h
  · rename_i hattempt
    apply And.intro hattempt
    cases hstatic : e.1.staticStatus with
    | error exc => simp [hstatic, Except.toOption] at h
    | ok static =>
      simp only [hstatic, Except.toOption, Option.map_some, Option.some.injEq] at h
      rw [← h]
      exact ⟨rfl, rfl⟩
  · simp at h

@[simp] theorem staticSuccesses_append (past : List (Tick V × Update V))
    (e : Tick V × Update V) :
    staticSuccesses (past ++ [e]) = staticSuccesses past ++ (staticSuccess e).toList := by
  simp only [staticSuccesses, List.filterMap_append]
  cases h : staticSuccess e <;> simp [h]

@[simp] theorem lastStatic_append (past : List (Tick V × Update V)) (e : Tick V × Update V) :
    lastStatic (past ++ [e]) = (staticSuccess e).or (lastStatic past) := by
  rw [lastStatic, staticSuccesses_append, List.getLast?_append]
  cases h : staticSuccess e <;> simp [lastStatic]

private theorem lastStatic_append_of_none (past mid : List (Tick V × Update V))
    (h : ∀ m ∈ mid, staticSuccess m = none) : lastStatic (past ++ mid) = lastStatic past := by
  have hmid : mid.filterMap staticSuccess = [] := List.filterMap_eq_nil_iff.2 h
  rw [lastStatic, staticSuccesses, List.filterMap_append, hmid, List.append_nil]
  rfl

structure Tracks (past : List (Tick V × Update V)) (c : Hp7Coordinator V) : Prop where
  fetched : c.lastStaticFetch = (lastStatic past).map Prod.fst
  cached : c.cachedStatic = ((lastStatic past).map Prod.snd).getD ∅
  nonempty : ∀ s ∈ lastStatic past, s.2.entries ≠ []

theorem Tracks.staticDue {past : List (Tick V × Update V)} {c : Hp7Coordinator V}
    (htracks : Tracks past c) (now : Rat) :
    c.StaticDue now ↔ ∀ s ∈ lastStatic past, statusPollIntervalSec ≤ now - s.1 := by
  simp [Hp7Coordinator.StaticDue, htracks.fetched]

/-- The emptiness test stands for "never succeeded". -/
theorem Tracks.empty_iff {past : List (Tick V × Update V)} {c : Hp7Coordinator V}
    (htracks : Tracks past c) : c.cachedStatic.entries = [] ↔ lastStatic past = none := by
  rw [htracks.cached]
  cases h : lastStatic past with
  | none => simp
  | some s => simpa using htracks.nonempty s h

variable {t : Tick V} {c c' : Hp7Coordinator V} {u : Update V}

theorem Ticked.attempts (h : Ticked t c u c') :
    .staticStatus ∈ u.calls ↔ (∃ alarms, t.alarms = .ok alarms) ∧ c.StaticDue t.now := by
  cases h <;> simp_all

theorem Ticked.memory (h : Ticked t c u c') :
    c'.lastStaticFetch = ((staticSuccess (t, u)).map Prod.fst).or c.lastStaticFetch ∧
      c'.cachedStatic = ((staticSuccess (t, u)).map Prod.snd).getD c.cachedStatic := by
  cases h with
  | alarmFails _ _ hcalls _ hsame => simp [staticSuccess, hcalls, hsame.1, hsame.2]
  | spares _ _ _ hcalls _ hsame => simp [staticSuccess, hcalls, hsame.1, hsame.2]
  | refreshes _ _ _ _ hstatic hcalls _ hcached hlast =>
    simp [staticSuccess, hcalls, hstatic, hcached, hlast, Except.toOption]
  | reuses _ _ _ _ hstatic _ hcalls _ hsame =>
    simp [staticSuccess, hcalls, hstatic, hsame.1, hsame.2, Except.toOption]
  | coldFails _ _ _ _ hstatic _ hcalls _ hsame =>
    simp [staticSuccess, hcalls, hstatic, hsame.1, hsame.2, Except.toOption]

theorem Ticked.raises (h : Ticked t c u c') :
    (∃ exc, u.result = .error exc) ↔ (∃ exc, t.alarms = .error exc) ∨
      .staticStatus ∈ u.calls ∧ (∃ exc, t.staticStatus = .error exc) ∧
        c.cachedStatic.entries = [] := by
  cases h <;> simp_all

theorem Ticked.returns (h : Ticked t c u c') {merged : Dict V} (hresult : u.result = .ok merged) :
    (∃ alarms, t.alarms = .ok alarms ∧ merged = alarms ∪ c'.cachedStatic) ∧
      (c'.lastStaticFetch = none → c'.cachedStatic.entries ≠ []) := by
  cases h with
  | alarmFails _ _ _ hfails => simp [hfails] at hresult
  | coldFails _ _ _ _ _ _ _ hfails => simp [hfails] at hresult
  | spares alarms halarms hdue _ hok hsame =>
    rw [hok] at hresult
    constructor
    · exact ⟨alarms, halarms, by rw [hsame.1, Except.ok.inj hresult]⟩
    · intro hnone
      exact absurd (by simp [Hp7Coordinator.StaticDue, ← hsame.2, hnone]) hdue
  | refreshes alarms static halarms _ _ _ hok hcached hlast =>
    rw [hok] at hresult
    constructor
    · exact ⟨alarms, halarms, by rw [hcached, Except.ok.inj hresult]⟩
    · simp [hlast]
  | reuses alarms _ halarms _ _ hwarm _ hok hsame =>
    rw [hok] at hresult
    constructor
    · exact ⟨alarms, halarms, by rw [hsame.1, Except.ok.inj hresult]⟩
    · intro _
      rwa [hsame.1]

theorem Ticked.tracks {past : List (Tick V × Update V)} (h : Ticked t c u c')
    (htracks : Tracks past c) (hstatic : t.StaticNonempty) :
    Tracks (past ++ [(t, u)]) c' := by
  obtain ⟨hfetched, hcached⟩ := h.memory
  rw [htracks.fetched] at hfetched
  rw [htracks.cached] at hcached
  cases hs : staticSuccess (t, u) with
  | none =>
    rw [hs] at hfetched hcached
    constructor
    · simpa [hs] using hfetched
    · simpa [hs] using hcached
    · simpa [hs] using htracks.nonempty
  | some s =>
    rw [hs] at hfetched hcached
    constructor
    · simpa [hs] using hfetched
    · simpa [hs] using hcached
    · simpa [hs] using hstatic s.2 (staticSuccess_eq_some hs).2.1

private theorem tracks_init (serial : String) (stats : Option ActivityStats) :
    Tracks [] (Hp7Coordinator.init V serial stats) := by
  constructor
  · rfl
  · rfl
  · simp [lastStatic, staticSuccesses]

structure TickLaw (past : List (Tick V × Update V)) (e : Tick V × Update V) : Prop where
  attempts : .staticStatus ∈ e.2.calls ↔ (∃ alarms, e.1.alarms = .ok alarms) ∧
    ∀ s ∈ lastStatic past, statusPollIntervalSec ≤ e.1.now - s.1
  raises : (∃ exc, e.2.result = .error exc) ↔ (∃ exc, e.1.alarms = .error exc) ∨
    .staticStatus ∈ e.2.calls ∧ (∃ exc, e.1.staticStatus = .error exc) ∧ lastStatic past = none
  returns : ∀ merged, e.2.result = .ok merged →
    ∃ alarms, e.1.alarms = .ok alarms ∧
      ∃ s, lastStatic (past ++ [e]) = some s ∧ merged = alarms ∪ s.2

theorem Ticked.law {past : List (Tick V × Update V)} (h : Ticked t c u c')
    (htracks : Tracks past c) (htracks' : Tracks (past ++ [(t, u)]) c') :
    TickLaw past (t, u) := by
  constructor
  · rw [← htracks.staticDue]
    exact h.attempts
  · rw [← htracks.empty_iff]
    exact h.raises
  · intro merged hresult
    obtain ⟨⟨alarms, halarms, rfl⟩, hwarm⟩ := h.returns hresult
    apply Exists.intro alarms
    apply And.intro halarms
    cases hlast : lastStatic (past ++ [(t, u)]) with
    | none =>
      -- a tick that returns has static data, so some static poll succeeded
      have hfetched : c'.lastStaticFetch = none := by rw [htracks'.fetched, hlast]; rfl
      exact absurd (htracks'.empty_iff.2 hlast) (hwarm hfetched)
    | some s =>
      have hcached : c'.cachedStatic = s.2 := by rw [htracks'.cached, hlast]; rfl
      exact ⟨s, rfl, by rw [hcached]⟩

theorem TickLaw.fails_without_alarms {past : List (Tick V × Update V)} {e : Tick V × Update V}
    (h : TickLaw past e) (hfails : ∃ exc, e.1.alarms = .error exc) : staticSuccess e = none := by
  obtain ⟨exc, hexc⟩ := hfails
  cases hs : staticSuccess e with
  | none => rfl
  | some s =>
    obtain ⟨⟨alarms, hok⟩, _⟩ := h.attempts.1 (staticSuccess_eq_some hs).1
    rw [hexc] at hok
    cases hok

private theorem staticSuccesses_spaced {past : List (Tick V × Update V)}
    (h : ∀ before e later, past = before ++ e :: later → TickLaw before e) :
    (staticSuccesses past).Pairwise fun s s' => statusPollIntervalSec ≤ s'.1 - s.1 := by
  induction past using List.reverseRecOn with
  | nil => exact List.Pairwise.nil
  | append_singleton past e ih =>
    have hpast := ih fun before d later hd => h before d (later ++ [e]) (by simp [hd])
    have hlaw := h past e [] rfl
    rw [staticSuccesses_append]
    cases hs : staticSuccess e with
    | none => simpa using hpast
    | some s' =>
      obtain ⟨hattempt, _, hnow⟩ := staticSuccess_eq_some hs
      simp only [Option.toList_some, List.pairwise_append, List.pairwise_singleton,
        List.mem_singleton, forall_eq, true_and]
      apply And.intro hpast
      intro s hmem
      have hne := List.ne_nil_of_mem hmem
      have hlast := (hlaw.attempts.1 hattempt).2 _ (List.getLast?_eq_some_getLast hne)
      have hsorted : (staticSuccesses past).Pairwise fun s s' => s.1 ≤ s'.1 :=
        hpast.imp fun h => sub_nonneg.1 (statusPollIntervalSec_nonneg.trans h)
      have hle := hsorted.rel_getLast_of_rel_getLast_getLast hmem le_rfl
      rw [hnow]
      linarith

variable [DecidableEq V] (truthy : V → Bool)

def history (c : Hp7Coordinator V) (ticks : List (Tick V)) : List (Tick V × Update V) :=
  Mealy.log (Hp7Coordinator.asyncUpdateData truthy) c ticks

def coordinatorAfter (c : Hp7Coordinator V) (ticks : List (Tick V)) : Hp7Coordinator V :=
  Mealy.after (Hp7Coordinator.asyncUpdateData truthy) c ticks

private theorem tracks_history (serial : String) (stats : Option ActivityStats)
    {ticks : List (Tick V)} (hstatic : ∀ t ∈ ticks, t.StaticNonempty) :
    Tracks (history truthy (.init V serial stats) ticks)
      (coordinatorAfter truthy (.init V serial stats) ticks) := by
  apply Mealy.invariant (tracks_init serial stats) _ hstatic
  intro past c t ht htracks
  exact (asyncUpdateData_ticked truthy t c).tracks htracks ht

variable {truthy}

private theorem history_tickLaw {serial : String} {stats : Option ActivityStats}
    {ticks : List (Tick V)}
    (hstatic : ∀ t ∈ ticks, t.StaticNonempty) {past rest : List (Tick V × Update V)}
    {e : Tick V × Update V} (h : history truthy (.init V serial stats) ticks = past ++ e :: rest) :
    TickLaw past e := by
  obtain ⟨before, t, later, rfl, rfl, rfl⟩ := Mealy.log_split h
  have htracks := tracks_history truthy serial stats
    (fun t ht => hstatic t (List.mem_append_left _ ht))
  have hticked := asyncUpdateData_ticked truthy t
    (coordinatorAfter truthy (.init V serial stats) before)
  apply hticked.law htracks
  apply hticked.tracks htracks
  exact hstatic t (by simp)

/-- What a run does. -/
structure RunLaw (truthy : V → Bool) (c : Hp7Coordinator V) (ticks : List (Tick V)) : Prop where
  tick : ∀ past e rest, history truthy c ticks = past ++ e :: rest → TickLaw past e
  kept : ∀ before t later, ticks = before ++ t :: later →
    staticSuccess (t, ((coordinatorAfter truthy c before).asyncUpdateData truthy t).1) = none →
      (coordinatorAfter truthy c before).SameStatic (coordinatorAfter truthy c (before ++ [t]))
  spaced : (staticSuccesses (history truthy c ticks)).Pairwise fun s s' =>
    statusPollIntervalSec ≤ s'.1 - s.1
  retried : ∀ past e mid e' rest, history truthy c ticks = past ++ e :: (mid ++ e' :: rest) →
    .staticStatus ∈ e.2.calls → staticSuccess e = none →
      (∀ m ∈ mid, ∃ exc, m.1.alarms = .error exc) → (∃ alarms, e'.1.alarms = .ok alarms) →
        .staticStatus ∈ e'.2.calls

private theorem history_kept (truthy : V → Bool) (c : Hp7Coordinator V) (before : List (Tick V))
    (t : Tick V)
    (h : staticSuccess (t, ((coordinatorAfter truthy c before).asyncUpdateData truthy t).1) =
      none) :
    (coordinatorAfter truthy c before).SameStatic (coordinatorAfter truthy c (before ++ [t])) := by
  have hafter : coordinatorAfter truthy c (before ++ [t]) =
      ((coordinatorAfter truthy c before).asyncUpdateData truthy t).2 :=
    Mealy.after_append _ c before [t]
  obtain ⟨hfetched, hcached⟩ :=
    (asyncUpdateData_ticked truthy t (coordinatorAfter truthy c before)).memory
  rw [h] at hfetched hcached
  rw [hafter]
  exact ⟨hcached, hfetched⟩

private theorem history_clock (truthy : V → Bool) (c : Hp7Coordinator V) {ticks : List (Tick V)}
    (hclock : ticks.Pairwise fun t t' => t.now ≤ t'.now) :
    (history truthy c ticks).Pairwise fun e e' => e.1.now ≤ e'.1.now := by
  rw [← Mealy.log_inputs (Hp7Coordinator.asyncUpdateData truthy) c ticks,
    List.pairwise_map] at hclock
  exact hclock

/-- Every run of a fresh coordinator obeys the law. -/
theorem polling_run (truthy : V → Bool) (serial : String) (stats : Option ActivityStats)
    (ticks : List (Tick V)) (hclock : ticks.Pairwise fun t t' => t.now ≤ t'.now)
    (hstatic : ∀ t ∈ ticks, t.StaticNonempty) :
    RunLaw truthy (.init V serial stats) ticks where
  tick _ _ _ h := history_tickLaw hstatic h
  kept before t _ _ h := history_kept truthy _ before t h
  spaced := staticSuccesses_spaced fun _ _ _ h => history_tickLaw hstatic h
  retried past e mid e' rest h hattempt hfails hmid halarms := by
    have hlaw := history_tickLaw hstatic h
    have hnone : ∀ m ∈ e :: mid, staticSuccess m = none := by
      intro m hm
      cases hm with
      | head => exact hfails
      | tail _ hm =>
        obtain ⟨mid, mid', rfl⟩ := List.append_of_mem hm
        have hlawm : TickLaw (past ++ e :: mid) m := by
          apply history_tickLaw hstatic
          rw [h, List.append_assoc, List.append_assoc, List.cons_append, List.cons_append]
        exact hlawm.fails_without_alarms (hmid m (by simp))
    have hlaw' : TickLaw (past ++ e :: mid) e' := by
      apply history_tickLaw hstatic
      rw [h, List.append_assoc, List.cons_append]
    have hnow : e.1.now ≤ e'.1.now := by
      have hpairs := history_clock truthy (.init V serial stats) hclock
      rw [h, List.pairwise_append, List.pairwise_cons] at hpairs
      exact hpairs.2.1.1 e' (by simp)
    rw [hlaw'.attempts, lastStatic_append_of_none _ _ hnone]
    apply And.intro halarms
    intro s hs
    have hage := (hlaw.attempts.1 hattempt).2 s hs
    linarith

/-- A cold start that fails, a first success, a refresh that fails and is tried again. -/
def warmUp : List (Tick String) :=
  [⟨.ok ∅, 0, .error "timeout"⟩, ⟨.ok ∅, 15, .ok (.singleton "firmware" "5.2")⟩,
    ⟨.ok (.singleton "alarm_name" "Doorbell"), 30, .error "unasked"⟩,
    ⟨.ok ∅, 315, .error "timeout"⟩, ⟨.error "timeout", 330, .error "unasked"⟩,
    ⟨.ok ∅, 345, .ok (.singleton "firmware" "5.3")⟩]

theorem polling_run_warmUp :
    RunLaw (· ≠ "") (.init String "BE0000000" none) warmUp := by
  apply polling_run
  · decide
  · simp [warmUp, Tick.StaticNonempty]

example : (history (· ≠ "") (.init String "BE0000000" none) warmUp).map (·.2.calls) =
    [[.alarms, .staticStatus], [.alarms, .staticStatus], [.alarms],
      [.alarms, .staticStatus], [.alarms], [.alarms, .staticStatus]] := by decide +kernel

end Run

end EzvizHp7.Coordinator
