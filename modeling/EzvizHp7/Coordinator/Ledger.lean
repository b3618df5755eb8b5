import EzvizHp7.Coordinator.Polling
import EzvizHp7.Library.Changes

/-!
# What a run of the coordinator logs and counts

The diagnostic lines of a run are the changes of its alarm time, and the counters count its polls.
-/

namespace EzvizHp7.Coordinator

variable {V : Type}

def Update.alarmTime (truthy : V → Bool) (u : Update V) : Option V :=
  u.result.toOption.bind fun merged => (merged.lookup "last_alarm_time").filter truthy

def alarmLine (serial : String) (merged : Dict V) (time : V) : AlarmReceived V :=
  ⟨serial, merged.lookup "alarm_type_code", merged.lookup "alarm_name", time⟩

/-- Everything one tick can do to the log and to what it remembers of it. -/
inductive Logs (truthy : V → Bool) (c : Hp7Coordinator V) (u : Update V) (c' : Hp7Coordinator V) :
    Prop
  | quiet (hlogged : u.logged = none) (hserial : c'.serial = c.serial)
      (hlast : c'.lastLoggedAlarmTime = c.lastLoggedAlarmTime)
      (hsame : ∀ time, u.alarmTime truthy = some time → some time = c.lastLoggedAlarmTime)
  | line (merged : Dict V) (time : V) (hresult : u.result = .ok merged)
      (htime : u.alarmTime truthy = some time) (hnew : some time ≠ c.lastLoggedAlarmTime)
      (hlogged : u.logged = some (alarmLine c.serial merged time))
      (hserial : c'.serial = c.serial) (hlast : c'.lastLoggedAlarmTime = some time)

def counted (t : Tick V) (u : Update V) (s : ActivityStats) : ActivityStats where
  cloudPolls := s.cloudPolls + 1
  cloudPollsAlarms := s.cloudPollsAlarms + if t.alarms.isOk then 1 else 0
  cloudPollsStatic := s.cloudPollsStatic + (staticSuccess (t, u)).toList.length

variable [DecidableEq V]

private theorem merge_logs (truthy : V → Bool) (calls : List Endpoint) (alarms : Dict V)
    (c : Hp7Coordinator V) :
    Logs truthy c (c.merge truthy calls alarms).1 (c.merge truthy calls alarms).2 := by
  unfold Hp7Coordinator.merge
  dsimp only
  cases hlookup : (alarms ∪ c.cachedStatic).lookup "last_alarm_time" with
  | none =>
    apply Logs.quiet rfl rfl rfl
    intro time htime
    simp [Update.alarmTime, Except.toOption, hlookup] at htime
  | some time =>
    dsimp only
    split
    · rename_i hnew
      refine .line (alarms ∪ c.cachedStatic) time rfl ?_ hnew.2 rfl rfl rfl
      simp [Update.alarmTime, Except.toOption, hlookup, hnew.1]
    · rename_i hold
      apply Logs.quiet rfl rfl rfl
      intro time' htime'
      simp only [Update.alarmTime, Except.toOption, hlookup, Option.bind_some,
        Option.filter_eq_some_iff, Option.some.injEq] at htime'
      obtain ⟨rfl, htruthy⟩ := htime'
      simpa [htruthy] using hold

private theorem asyncUpdateData_logs (truthy : V → Bool) (t : Tick V) (c : Hp7Coordinator V) :
    Logs truthy c (c.asyncUpdateData truthy t).1 (c.asyncUpdateData truthy t).2 := by
  have hfails (calls : List Endpoint) (message : String) {c' : Hp7Coordinator V}
      (hserial : c'.serial = c.serial)
      (hlast : c'.lastLoggedAlarmTime = c.lastLoggedAlarmTime) :
      Logs truthy c ⟨calls, .error message, none⟩ c' := by
    apply Logs.quiet rfl hserial hlast
    intro time htime
    simp [Update.alarmTime, Except.toOption] at htime
  have hmerges (calls : List Endpoint) (alarms : Dict V) {c' : Hp7Coordinator V}
      (hserial : c'.serial = c.serial)
      (hlast : c'.lastLoggedAlarmTime = c.lastLoggedAlarmTime) :
      Logs truthy c (c'.merge truthy calls alarms).1 (c'.merge truthy calls alarms).2 := by
    have hlogs := merge_logs truthy calls alarms c'
    generalize c'.merge truthy calls alarms = m at hlogs ⊢
    cases hlogs with
    | quiet hlogged hserial' hlast' hsame =>
      exact .quiet hlogged (hserial'.trans hserial) (hlast'.trans hlast) (hlast ▸ hsame)
    | line merged time hresult htime hnew hlogged hserial' hlast' =>
      rw [hserial] at hlogged hserial'
      exact .line merged time hresult htime (hlast ▸ hnew) hlogged hserial' hlast'
  unfold Hp7Coordinator.asyncUpdateData
  cases t.alarms with
  | error exc => exact hfails _ _ rfl rfl
  | ok alarms =>
    simp only [bump_staticDue]
    split
    · cases t.staticStatus with
      | ok static => exact hmerges _ alarms rfl rfl
      | error exc =>
        by_cases hcold : c.cachedStatic.entries = []
        · simp only [bump_cachedStatic, hcold, if_true]
          exact hfails _ _ rfl rfl
        · simp only [bump_cachedStatic, hcold, if_false]
          exact hmerges _ alarms rfl rfl
    · exact hmerges _ alarms rfl rfl

theorem asyncUpdateData_serial (truthy : V → Bool) (t : Tick V) (c : Hp7Coordinator V) :
    (c.asyncUpdateData truthy t).2.serial = c.serial := by
  cases asyncUpdateData_logs truthy t c with
  | quiet _ hserial _ _ => exact hserial
  | line _ _ _ _ _ _ hserial _ => exact hserial

private theorem merge_stats (truthy : V → Bool) (calls : List Endpoint) (alarms : Dict V)
    (c : Hp7Coordinator V) : (c.merge truthy calls alarms).2.stats = c.stats := by
  unfold Hp7Coordinator.merge
  dsimp only
  split
  · split <;> rfl
  · rfl

omit [DecidableEq V] in
private theorem bump_stats (f : ActivityStats → ActivityStats) (c : Hp7Coordinator V) :
    (c.bump f).stats = c.stats.map f := rfl

private theorem asyncUpdateData_stats (truthy : V → Bool) (t : Tick V) (c : Hp7Coordinator V) :
    (c.asyncUpdateData truthy t).2.stats =
      c.stats.map (counted t (c.asyncUpdateData truthy t).1) := by
  have hmap (f g : ActivityStats → ActivityStats) (h : ∀ s, f s = g s) :
      c.stats.map f = c.stats.map g := congrArg (Option.map · c.stats) (funext h)
  unfold Hp7Coordinator.asyncUpdateData
  cases halarms : t.alarms with
  | error exc =>
    apply hmap
    simp [counted, halarms, staticSuccess, Except.isOk, Except.toBool]
  | ok alarms =>
    simp only [bump_staticDue]
    split
    · cases hstatic : t.staticStatus with
      | ok static =>
        dsimp only
        rw [merge_stats, bump_stats]
        simp only [bump_stats, Option.map_map]
        apply hmap
        simp [counted, halarms, hstatic, staticSuccess, (merge_spec _ _ _ _).1, Except.isOk,
          Except.toBool, Except.toOption]
      | error exc =>
        by_cases hcold : c.cachedStatic.entries = []
        · simp only [bump_cachedStatic, hcold, if_true, bump_stats, Option.map_map]
          apply hmap
          simp [counted, halarms, hstatic, staticSuccess, Except.isOk, Except.toBool,
            Except.toOption]
        · simp only [bump_cachedStatic, hcold, if_false, merge_stats, bump_stats, Option.map_map]
          apply hmap
          simp [counted, halarms, hstatic, staticSuccess, (merge_spec _ _ _ _).1, Except.isOk,
            Except.toBool, Except.toOption]
    · simp only [merge_stats, bump_stats, Option.map_map]
      apply hmap
      simp [counted, halarms, staticSuccess, (merge_spec _ _ _ _).1, Except.isOk, Except.toBool]

def alarmTimes (truthy : V → Bool) (past : List (Tick V × Update V)) : List V :=
  past.filterMap fun e => e.2.alarmTime truthy

def lines (past : List (Tick V × Update V)) : List (AlarmReceived V) :=
  past.filterMap fun e => e.2.logged

omit [DecidableEq V] in
private theorem alarmTimes_cons (truthy : V → Bool) (e : Tick V × Update V)
    (past : List (Tick V × Update V)) :
    alarmTimes truthy (e :: past) = (e.2.alarmTime truthy).toList ++ alarmTimes truthy past := by
  cases h : e.2.alarmTime truthy <;> simp [alarmTimes, h]

omit [DecidableEq V] in
private theorem lines_cons (e : Tick V × Update V) (past : List (Tick V × Update V)) :
    lines (e :: past) = e.2.logged.toList ++ lines past := by
  cases h : e.2.logged <;> simp [lines, h]

private theorem lines_changes (truthy : V → Bool) (c : Hp7Coordinator V) (ticks : List (Tick V)) :
    (lines (history truthy c ticks)).map (fun line => some line.time) =
      Changes.changes c.lastLoggedAlarmTime
        ((alarmTimes truthy (history truthy c ticks)).map some) := by
  induction ticks generalizing c with
  | nil => rfl
  | cons t ticks ih =>
    have hlogs := asyncUpdateData_logs truthy t c
    have hhistory : history truthy c (t :: ticks) = (t, (c.asyncUpdateData truthy t).1) ::
        history truthy (c.asyncUpdateData truthy t).2 ticks := rfl
    have hih := ih (c.asyncUpdateData truthy t).2
    rw [hhistory, lines_cons, alarmTimes_cons]
    cases hlogs with
    | quiet hlogged hserial hlast hsame =>
      rw [hlast] at hih
      cases htime : (c.asyncUpdateData truthy t).1.alarmTime truthy with
      | none => simpa [hlogged] using hih
      | some time =>
        rw [← hsame time htime] at hih ⊢
        simpa [hlogged, Changes.changes] using hih
    | line merged time hresult htime hnew hlogged hserial hlast =>
      rw [hlast] at hih
      simpa [hlogged, htime, Changes.changes, hnew, alarmLine] using hih

private theorem lines_spec (truthy : V → Bool) (c : Hp7Coordinator V) (ticks : List (Tick V)) :
    ∀ e ∈ history truthy c ticks, ∀ line ∈ e.2.logged, ∃ merged,
      e.2.result = .ok merged ∧ merged.lookup "last_alarm_time" = some line.time ∧
        line = alarmLine c.serial merged line.time := by
  induction ticks generalizing c with
  | nil => simp [history, Mealy.log]
  | cons t ticks ih =>
    have hlogs := asyncUpdateData_logs truthy t c
    intro e he line hline
    rcases List.mem_cons.1 he with rfl | he
    · cases hlogs with
      | quiet hlogged hserial hlast hsame =>
        rw [hlogged] at hline
        cases hline
      | line merged time hresult htime hnew hlogged hserial hlast =>
        rw [hlogged] at hline
        cases hline
        simp only [Update.alarmTime, hresult, Except.toOption, Option.bind_some,
          Option.filter_eq_some_iff] at htime
        exact ⟨merged, hresult, htime.1, rfl⟩
    · rw [← asyncUpdateData_serial truthy t c]
      exact ih _ e he line hline

def tally (past : List (Tick V × Update V)) (s : ActivityStats) : ActivityStats where
  cloudPolls := s.cloudPolls + past.length
  cloudPollsAlarms := s.cloudPollsAlarms + past.countP fun e => e.1.alarms.isOk
  cloudPollsStatic := s.cloudPollsStatic + (staticSuccesses past).length

omit [DecidableEq V] in
private theorem tally_nil : tally ([] : List (Tick V × Update V)) = id := by
  funext s
  simp [tally, staticSuccesses]

omit [DecidableEq V] in
private theorem tally_cons (t : Tick V) (u : Update V) (past : List (Tick V × Update V)) :
    tally ((t, u) :: past) = tally past ∘ counted t u := by
  funext s
  have hstatic : (staticSuccesses ((t, u) :: past)).length =
      (staticSuccess (t, u)).toList.length + (staticSuccesses past).length := by
    cases h : staticSuccess (t, u) <;> simp [staticSuccesses, h, Nat.add_comm]
  simp [tally, counted, hstatic, List.countP_cons]
  omega

private theorem coordinatorAfter_stats (truthy : V → Bool) (c : Hp7Coordinator V)
    (ticks : List (Tick V)) :
    (coordinatorAfter truthy c ticks).stats =
      c.stats.map (tally (history truthy c ticks)) := by
  induction ticks generalizing c with
  | nil =>
    change c.stats = c.stats.map (tally [])
    rw [tally_nil, Option.map_id, id]
  | cons t ticks ih =>
    change (coordinatorAfter truthy (c.asyncUpdateData truthy t).2 ticks).stats =
      c.stats.map (tally ((t, (c.asyncUpdateData truthy t).1) ::
        history truthy (c.asyncUpdateData truthy t).2 ticks))
    rw [ih, asyncUpdateData_stats, Option.map_map, tally_cons]

omit [DecidableEq V] in
private theorem comesBack_iff (times : List V) :
    Changes.ComesBack (none :: times.map some) ↔
      ∃ time other, [time, other, time].Sublist times ∧ other ≠ time := by
  constructor
  · intro hex
    obtain ⟨v, t, u, hsub, hv, hu⟩ := hex
    have htail : [t, u, t].Sublist (times.map some) := hsub.tail
    obtain ⟨l, hl, heq⟩ := List.sublist_map_iff.1 htail
    match l, heq with
    | [time, other, time'], heq =>
      simp only [List.map_cons, List.map_nil, List.cons.injEq, and_true] at heq
      obtain ⟨rfl, rfl, htime⟩ := heq
      rw [← Option.some.inj htime] at hl
      exact ⟨time, other, hl, fun hother => hu (congrArg some hother)⟩
  · intro hex
    obtain ⟨time, other, hsub, hother⟩ := hex
    refine ⟨none, some time, some other, ?_, by simp, by simpa using hother⟩
    exact (hsub.map some).cons_cons none

private theorem staticSuccesses_length_le (truthy : V → Bool) (c : Hp7Coordinator V)
    (ticks : List (Tick V)) :
    (staticSuccesses (history truthy c ticks)).length ≤
      (history truthy c ticks).countP fun e => e.1.alarms.isOk := by
  induction ticks generalizing c with
  | nil => simp [history, Mealy.log, staticSuccesses]
  | cons t ticks ih =>
    have hattempt : (staticSuccess (t, (c.asyncUpdateData truthy t).1)).toList.length ≤
        if t.alarms.isOk then 1 else 0 := by
      cases hs : staticSuccess (t, (c.asyncUpdateData truthy t).1) with
      | none => simp
      | some s =>
        have hcalls := (staticSuccess_eq_some hs).1
        obtain ⟨alarms, halarms⟩ :=
          ((asyncUpdateData_ticked truthy t c).attempts.1 hcalls).1
        simp [halarms, Except.isOk, Except.toBool]
    have htail := ih (c.asyncUpdateData truthy t).2
    have hcons := congrArg ActivityStats.cloudPollsStatic
      (congrFun (tally_cons t (c.asyncUpdateData truthy t).1
        (history truthy (c.asyncUpdateData truthy t).2 ticks)) ⟨0, 0, 0⟩)
    change (staticSuccesses ((t, (c.asyncUpdateData truthy t).1) ::
      history truthy (c.asyncUpdateData truthy t).2 ticks)).length ≤
        List.countP _ ((t, (c.asyncUpdateData truthy t).1) :: _)
    simp only [tally, counted, Function.comp, Nat.zero_add] at hcons
    rw [hcons, List.countP_cons]
    exact (Nat.add_comm _ _).trans_le (Nat.add_le_add htail hattempt)

/-- What the diagnostic lines and the counters of a run tell. -/
structure Ledger (truthy : V → Bool) (c : Hp7Coordinator V) (ticks : List (Tick V)) : Prop where
  /-- A line for every alarm time that is not the one logged last. -/
  changes : (lines (history truthy c ticks)).map (fun line => some line.time) =
    Changes.changes none ((alarmTimes truthy (history truthy c ticks)).map some)
  /-- An alarm is logged twice only where another one was seen between. -/
  once : ((lines (history truthy c ticks)).map AlarmReceived.time).Nodup ↔
    ¬∃ time other, [time, other, time].Sublist (alarmTimes truthy (history truthy c ticks)) ∧
      other ≠ time
  content : ∀ e ∈ history truthy c ticks, ∀ line ∈ e.2.logged, ∃ merged,
    e.2.result = .ok merged ∧ merged.lookup "last_alarm_time" = some line.time ∧
      line = alarmLine c.serial merged line.time
  counts : (coordinatorAfter truthy c ticks).stats = c.stats.map (tally (history truthy c ticks))
  ordered : (staticSuccesses (history truthy c ticks)).length ≤
    (history truthy c ticks).countP fun e => e.1.alarms.isOk

/-- The ledger of a fresh coordinator, whatever the endpoints answer. -/
theorem ledger_truthful (truthy : V → Bool) (serial : String) (stats : Option ActivityStats)
    (ticks : List (Tick V)) : Ledger truthy (.init V serial stats) ticks where
  changes := lines_changes truthy _ ticks
  once := by
    have hchanges := lines_changes truthy (.init V serial stats) ticks
    have hinit : (Hp7Coordinator.init V serial stats).lastLoggedAlarmTime = none := rfl
    rw [hinit] at hchanges
    rw [← comesBack_iff, ← Changes.nodup_changes, ← hchanges,
      ← List.nodup_map_iff (Option.some_injective V), List.map_map]
    rfl
  content := lines_spec truthy _ ticks
  counts := coordinatorAfter_stats truthy _ ticks
  ordered := staticSuccesses_length_le truthy _ ticks

example : (lines (history (· ≠ "") (.init String "BE0000000" none)
    [⟨.ok (.singleton "last_alarm_time" "08:00"), 0, .ok ∅⟩,
      ⟨.ok (.singleton "last_alarm_time" "08:05"), 15, .ok ∅⟩,
      ⟨.ok (.singleton "last_alarm_time" "08:00"), 30, .ok ∅⟩])).map AlarmReceived.time =
    ["08:00", "08:05", "08:00"] := by decide +kernel

end EzvizHp7.Coordinator
