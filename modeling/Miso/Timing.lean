import Mathlib.Logic.Function.Basic
import Miso.Base.Run
import Miso.Base.Timers

set_option autoImplicit false

namespace Miso.Timing

open Base (Timers Step)

-- miso_mbedtls_init_timer creates two timers for a delay context, with the
-- context as their timer ID.
inductive TimerHandle (δ : Type) where
  | intTimer (data : δ)
  | finTimer (data : δ)
deriving DecidableEq

variable {δ : Type}

def pvTimerGetTimerId : TimerHandle δ → δ
  | .intTimer data | .finTimer data => data

def timerCancelled : Int := -1
def timerNormal : Int := 0
def timerIntermediatePassed : Int := 1
def timerFinalDelayPassed : Int := 2

-- Any number of delay contexts share the timer service. Only their state
-- fields change after init.
structure World (δ : Type) where
  timers : Timers (TimerHandle δ)
  state : δ → Int

section

variable [DecidableEq δ]

def timerCallback (state : δ → Int) (xTimer : TimerHandle δ) : δ → Int :=
  let data := pvTimerGetTimerId xTimer
  if xTimer = .intTimer data then Function.update state data timerIntermediatePassed
  else if xTimer = .finTimer data then Function.update state data timerFinalDelayPassed
  else Function.update state data timerCancelled

def xTimerStop (timers : Timers (TimerHandle δ)) (timer : TimerHandle δ) : Timers (TimerHandle δ) :=
  if timers.isActive timer then timers.stop timer else timers

def setDelay (world : World δ) (data : δ) (int_ms fin_ms : Nat) : Option (World δ) :=
  let stopped := xTimerStop (xTimerStop world.timers (.intTimer data)) (.finTimer data)
  (if int_ms > 0 then stopped.changePeriod (.intTimer data) int_ms else some stopped).bind fun timers =>
    (if fin_ms > 0 then timers.changePeriod (.finTimer data) int_ms else some timers).map fun timers => {
      timers := timers
      state := Function.update world.state data (if fin_ms = 0 then timerCancelled else timerNormal) }

def getDelay (world : World δ) (data : δ) : Int := world.state data

def tick (world : World δ) : World δ where
  timers := world.timers.tick
  state := (world.timers.due (world.timers.now + 1)).foldl timerCallback world.state

inductive Call (δ : Type) where
  | tick
  | setDelay (data : δ) (int_ms fin_ms : Nat)

def step : Step (World δ) (Call δ) := fun world call =>
  match call with
  | .tick => some (tick world)
  | .setDelay data int_ms fin_ms => setDelay world data int_ms fin_ms

def own (data : δ) (timer : TimerHandle δ) : Bool := pvTimerGetTimerId timer = data

def armed (world : World δ) (data : δ) : List (Nat × TimerHandle δ) := world.timers.entries (own data)

theorem timer_callback_foreign (state : δ → Int) (data : δ) (timer : TimerHandle δ) (foreign : own data timer = false) :
    timerCallback state timer data = state data := by
  have different : data ≠ pvTimerGetTimerId timer := fun same => by simp [own, same] at foreign
  simp only [timerCallback]
  split
  · exact Function.update_of_ne different _ _
  · split <;> exact Function.update_of_ne different _ _

def outcome : TimerHandle δ → Int
  | .intTimer _ => timerIntermediatePassed
  | .finTimer _ => timerFinalDelayPassed

theorem timer_callback_own (state : δ → Int) (data : δ) (timer : TimerHandle δ) (mine : own data timer = true) :
    timerCallback state timer data = outcome timer := by
  have same : pvTimerGetTimerId timer = data := by simpa [own] using mine
  cases timer with
  | intTimer owner =>
      obtain rfl : owner = data := same
      simp [timerCallback, pvTimerGetTimerId, outcome]
  | finTimer owner =>
      obtain rfl : owner = data := same
      simp [timerCallback, pvTimerGetTimerId, outcome]

-- A context's state depends on the order of its own timers only.
theorem callbacks_own (data : δ) (fired : List (TimerHandle δ)) (state : δ → Int) :
    fired.foldl timerCallback state data =
      (fired.filter (own data)).foldl (fun _ timer => outcome timer) (state data) := by
  induction fired generalizing state with
  | nil => rfl
  | cons timer rest ih =>
      rw [List.foldl_cons, ih]
      cases mine : own data timer with
      | true => simp [mine, timer_callback_own state data timer mine]
      | false => simp [mine, timer_callback_foreign state data timer mine]

theorem tick_armed (world : World δ) (data : δ) :
    armed (tick world) data = (armed world data).filter (fun entry => ¬ entry.1 ≤ world.timers.now + 1) ∧
      (tick world).state data = (((armed world data).filter fun entry => entry.1 ≤ world.timers.now + 1).map Prod.snd).foldl
        (fun _ timer => outcome timer) (world.state data) := by
  refine ⟨Timers.tick_entries world.timers (own data), ?_⟩
  have fired := callbacks_own data (world.timers.due (world.timers.now + 1)) world.state
  rwa [Timers.due_entries] at fired

theorem stop_armed (timers : Timers (TimerHandle δ)) (data : δ) (timer : TimerHandle δ) :
    (xTimerStop timers timer).now = timers.now ∧
      (xTimerStop timers timer).entries (own data) = (timers.entries (own data)).filter fun entry => entry.2 ≠ timer := by
  unfold xTimerStop
  cases active : timers.isActive timer with
  | true => exact ⟨rfl, Timers.stop_entries timers (own data) timer⟩
  | false => exact ⟨rfl, (Timers.inactive_entries timers (own data) timer active).symm⟩

theorem stops_armed (timers : Timers (TimerHandle δ)) (data : δ) :
    (xTimerStop (xTimerStop timers (.intTimer data)) (.finTimer data)).now = timers.now ∧
      (xTimerStop (xTimerStop timers (.intTimer data)) (.finTimer data)).entries (own data) = [] := by
  obtain ⟨firstNow, first⟩ := stop_armed timers data (.intTimer data)
  obtain ⟨secondNow, second⟩ := stop_armed (xTimerStop timers (.intTimer data)) data (.finTimer data)
  refine ⟨secondNow.trans firstNow, ?_⟩
  rw [second, first, List.filter_filter]
  refine List.filter_eq_nil_iff.mpr fun entry member => ?_
  have mine : own data entry.2 = true := (List.mem_filter.mp member).2
  cases handle : entry.2 with
  | intTimer owner | finTimer owner =>
      obtain rfl : owner = data := by simpa [own, pvTimerGetTimerId, handle] using mine
      simp

-- What a call leaves in the service: nothing for a cancelled delay, and both
-- timers due after int_ms for another one, the intermediate one first.
inductive SetDelay (world after : World δ) (data : δ) (int_ms fin_ms : Nat) : Prop where
  | cancelled (none : fin_ms = 0) (inactive : armed after data = []) (state : after.state data = timerCancelled)
  | normal (some : fin_ms ≠ 0) (positive : int_ms ≠ 0) (now : after.timers.now = world.timers.now)
      (both : armed after data = [(world.timers.now + int_ms, .intTimer data), (world.timers.now + int_ms, .finTimer data)])
      (state : after.state data = timerNormal)

theorem set_delay_parts (world after : World δ) (data : δ) (int_ms fin_ms : Nat)
    (set : setDelay world data int_ms fin_ms = some after) :
    ∃ first second,
      (if int_ms > 0 then
        (xTimerStop (xTimerStop world.timers (.intTimer data)) (.finTimer data)).changePeriod (.intTimer data) int_ms
      else some (xTimerStop (xTimerStop world.timers (.intTimer data)) (.finTimer data))) = some first ∧
      (if fin_ms > 0 then first.changePeriod (.finTimer data) int_ms else some first) = some second ∧
      after = { timers := second
                state := Function.update world.state data (if fin_ms = 0 then timerCancelled else timerNormal) } := by
  obtain ⟨first, changed, rest⟩ := Option.bind_eq_some_iff.mp set
  obtain ⟨second, last, rfl⟩ := Option.map_eq_some_iff.mp rest
  exact ⟨first, second, changed, last, rfl⟩

theorem restart_foreign (timers after : Timers (TimerHandle δ)) (data : δ) (timer : TimerHandle δ) (given period : Nat)
    (foreign : own data timer = false)
    (restarted : (if given > 0 then timers.changePeriod timer period else some timers) = some after) :
    after.now = timers.now ∧ after.entries (own data) = timers.entries (own data) := by
  split at restarted
  · refine ⟨(Timers.change_period_some timers after timer period restarted).2, ?_⟩
    rw [Timers.change_period_entries timers after (own data) timer period restarted, if_neg (by simp [foreign])]
    exact Timers.foreign_entries timers (own data) timer foreign
  · cases restarted
    exact ⟨rfl, rfl⟩

theorem set_delay_foreign (world after : World δ) (data other : δ) (int_ms fin_ms : Nat) (different : other ≠ data)
    (set : setDelay world other int_ms fin_ms = some after) :
    after.timers.now = world.timers.now ∧ armed after data = armed world data ∧ after.state data = world.state data := by
  obtain ⟨first, second, changed, last, rfl⟩ := set_delay_parts world after other int_ms fin_ms set
  have foreign : own data (.intTimer other) = false ∧ own data (.finTimer other) = false := by
    simp [own, pvTimerGetTimerId, different]
  obtain ⟨nowFirst, sameFirst⟩ := restart_foreign _ first data _ int_ms int_ms foreign.1 changed
  obtain ⟨nowSecond, sameSecond⟩ := restart_foreign _ second data _ fin_ms int_ms foreign.2 last
  obtain ⟨nowInt, sameInt⟩ := stop_armed world.timers data (.intTimer other)
  obtain ⟨nowFin, sameFin⟩ := stop_armed (xTimerStop world.timers (.intTimer other)) data (.finTimer other)
  refine ⟨nowSecond.trans (nowFirst.trans (nowFin.trans nowInt)), ?_, by simp [Ne.symm different]⟩
  calc second.entries (own data)
      = ((world.timers.entries (own data)).filter (fun entry => entry.2 ≠ .intTimer other)).filter
          (fun entry => entry.2 ≠ .finTimer other) := by rw [sameSecond, sameFirst, sameFin, sameInt]
    _ = (world.timers.entries (own data)).filter (fun entry => entry.2 ≠ .finTimer other) := by
        rw [Timers.foreign_entries world.timers (own data) _ foreign.1]
    _ = world.timers.entries (own data) := Timers.foreign_entries world.timers (own data) _ foreign.2

theorem set_delay_some (world after : World δ) (data : δ) (int_ms fin_ms : Nat) (ordered : int_ms ≤ fin_ms)
    (set : setDelay world data int_ms fin_ms = some after) : SetDelay world after data int_ms fin_ms := by
  obtain ⟨first, second, changed, last, rfl⟩ := set_delay_parts world after data int_ms fin_ms set
  obtain ⟨nowStopped, stopped⟩ := stops_armed world.timers data
  by_cases none : fin_ms = 0
  · obtain rfl : int_ms = 0 := by omega
    subst none
    cases changed
    cases last
    exact .cancelled rfl stopped (by simp)
  · have positive : int_ms ≠ 0 := by
      rintro rfl
      simp [Timers.changePeriod, Nat.pos_of_ne_zero none] at last
    rw [if_pos (Nat.pos_of_ne_zero positive)] at changed
    rw [if_pos (Nat.pos_of_ne_zero none)] at last
    have nowFirst := (Timers.change_period_some _ first _ int_ms changed).2
    have nowSecond := (Timers.change_period_some _ second _ int_ms last).2
    have one := Timers.change_period_entries _ first (own data) _ int_ms changed
    have two := Timers.change_period_entries _ second (own data) _ int_ms last
    refine .normal none positive (nowSecond.trans (nowFirst.trans nowStopped)) ?_ (by simp [none])
    rw [stopped] at one
    simp only [armed]
    rw [two, one, nowFirst, nowStopped]
    simp [own, pvTimerGetTimerId, Base.insertTimer]

theorem set_delay_isSome (world : World δ) (data : δ) (int_ms fin_ms : Nat) (ordered : int_ms ≤ fin_ms) :
    (setDelay world data int_ms fin_ms).isSome ↔ fin_ms = 0 ∨ int_ms ≠ 0 := by
  by_cases none : fin_ms = 0
  · obtain rfl : int_ms = 0 := by omega
    simp [setDelay, none]
  · by_cases zero : int_ms = 0
    · simp [setDelay, Timers.changePeriod, zero, none, Nat.pos_of_ne_zero none]
    · simp [setDelay, Timers.changePeriod, zero, none, Nat.pos_of_ne_zero none, Nat.pos_of_ne_zero zero]

def Settled (world : World δ) (data : δ) (value : Int) : Prop := armed world data = [] ∧ world.state data = value

def Counting (world : World δ) (data : δ) (remaining : Nat) : Prop :=
  0 < remaining ∧ world.state data = timerNormal ∧
    armed world data =
      [(world.timers.now + remaining, .intTimer data), (world.timers.now + remaining, .finTimer data)]

-- No later set_delay for this context; the other contexts go on.
def Leaves (data : δ) : Call δ → Prop
  | .tick => True
  | .setDelay other _ _ => other ≠ data

def ticks : List (Call δ) → Nat
  | [] => 0
  | .tick :: rest => ticks rest + 1
  | .setDelay _ _ _ :: rest => ticks rest

theorem settled_step (world after : World δ) (data : δ) (value : Int) (call : Call δ) (settled : Settled world data value)
    (leaves : Leaves data call) (taken : step world call = some after) : Settled after data value := by
  cases call with
  | tick =>
      obtain ⟨remaining, state⟩ := tick_armed world data
      rw [settled.1] at remaining state
      cases taken
      exact ⟨remaining, state.trans settled.2⟩
  | setDelay other int_ms fin_ms =>
      obtain ⟨_, same, state⟩ := set_delay_foreign world after data other int_ms fin_ms leaves taken
      exact ⟨same.trans settled.1, state.trans settled.2⟩

-- Both timers expire at one tick. The final one was inserted last and its
-- callback writes last.
theorem counting_tick (world : World δ) (data : δ) (remaining : Nat) (counting : Counting world data remaining) :
    if remaining = 1 then Settled (tick world) data timerFinalDelayPassed else Counting (tick world) data (remaining - 1) := by
  obtain ⟨positive, normal, both⟩ := counting
  obtain ⟨rest, state⟩ := tick_armed world data
  rw [both] at rest state
  split
  · rename_i last
    subst last
    exact ⟨by simpa using rest, by simpa [outcome] using state⟩
  · rename_i more
    have later : ¬ world.timers.now + remaining ≤ world.timers.now + 1 := by omega
    have clock : (tick world).timers.now + (remaining - 1) = world.timers.now + remaining := by
      simp only [tick, Timers.tick]
      omega
    refine ⟨by omega, ?_, ?_⟩
    · simpa [later, normal] using state
    · rw [rest, clock]
      exact List.filter_eq_self.mpr (by simpa using later)

theorem settled_run (world after : World δ) (data : δ) (value : Int) (calls : List (Call δ))
    (settled : Settled world data value) (leaves : ∀ call, call ∈ calls → Leaves data call)
    (ran : Base.run step world calls = some after) : Settled after data value := by
  induction calls generalizing world with
  | nil =>
      cases ran
      exact settled
  | cons call rest ih =>
      obtain ⟨next, taken, remaining⟩ := Option.bind_eq_some_iff.mp ran
      exact ih next (settled_step world next data value call settled (leaves call List.mem_cons_self) taken)
        (fun other member => leaves other (List.mem_cons_of_mem call member)) remaining

theorem counting_run (world after : World δ) (data : δ) (remaining : Nat) (calls : List (Call δ))
    (counting : Counting world data remaining) (leaves : ∀ call, call ∈ calls → Leaves data call)
    (ran : Base.run step world calls = some after) :
    getDelay after data = if ticks calls < remaining then timerNormal else timerFinalDelayPassed := by
  induction calls generalizing world remaining with
  | nil =>
      cases ran
      simp only [ticks, counting.1, if_true]
      exact counting.2.1
  | cons call rest ih =>
      obtain ⟨next, taken, tail⟩ := Option.bind_eq_some_iff.mp ran
      have later : ∀ other, other ∈ rest → Leaves data other :=
        fun other member => leaves other (List.mem_cons_of_mem call member)
      cases call with
      | tick =>
          cases taken
          have moved := counting_tick world data remaining counting
          have counted : ticks (Call.tick :: rest) = ticks rest + 1 := rfl
          split at moved
          · rename_i last
            have settled := settled_run (tick world) after data _ rest moved later tail
            rw [if_neg (by omega)]
            exact settled.2
          · rw [ih (tick world) (remaining - 1) moved later tail]
            by_cases early : ticks rest < remaining - 1
            · rw [if_pos early, if_pos (by omega)]
            · rw [if_neg early, if_neg (by omega)]
      | setDelay other int_ms fin_ms =>
          obtain ⟨clock, same, state⟩ :=
            set_delay_foreign world next data other int_ms fin_ms (leaves _ List.mem_cons_self) taken
          refine ih next remaining ⟨counting.1, state.trans counting.2.1, ?_⟩ later tail
          rw [same, clock]
          exact counting.2.2

def contractDelay (int_ms fin_ms elapsed : Nat) : Int :=
  if fin_ms = 0 then -1 else if elapsed < int_ms then 0 else if elapsed < fin_ms then 1 else 2

def MeetsContract (world : World δ) (data : δ) (int_ms fin_ms elapsed : Nat) : Prop :=
  ∃ set, setDelay world data int_ms fin_ms = some set ∧
    ∀ calls after, (∀ call, call ∈ calls → Leaves data call) → ticks calls = elapsed →
      Base.run step set calls = some after → getDelay after data = contractDelay int_ms fin_ms elapsed

theorem ticks_run (world : World δ) (count : Nat) :
    ∃ after, Base.run step world (List.replicate count .tick) = some after ∧
      ticks (List.replicate count (Call.tick : Call δ)) = count := by
  induction count generalizing world with
  | zero => exact ⟨world, rfl, rfl⟩
  | succ count ih =>
      obtain ⟨after, ran, counted⟩ := ih (tick world)
      exact ⟨after, by simpa [List.replicate_succ, Base.run, step] using ran, by simp [List.replicate_succ, ticks, counted]⟩

theorem timing_contract (world : World δ) (data : δ) (int_ms fin_ms elapsed : Nat) (ordered : int_ms ≤ fin_ms) :
    MeetsContract world data int_ms fin_ms elapsed ↔
      fin_ms = 0 ∨ (0 < int_ms ∧ ¬ (int_ms ≤ elapsed ∧ elapsed < fin_ms)) := by
  constructor
  · rintro ⟨set, made, meets⟩
    by_cases none : fin_ms = 0
    · exact .inl none
    · right
      cases set_delay_some world set data int_ms fin_ms ordered made with
      | cancelled zero _ _ => exact absurd zero none
      | normal _ positive now both state =>
          refine ⟨Nat.pos_of_ne_zero positive, ?_⟩
          rintro ⟨passed, early⟩
          obtain ⟨after, ran, counted⟩ := ticks_run set elapsed
          have leaves : ∀ call, call ∈ List.replicate elapsed (Call.tick : Call δ) → Leaves data call := by
            intro call member
            rw [List.eq_of_mem_replicate member]
            trivial
          have promised := meets _ after leaves counted ran
          have value := counting_run set after data int_ms _ ⟨Nat.pos_of_ne_zero positive, state, by rw [now]; exact both⟩
            leaves ran
          rw [value, counted, if_neg (by omega)] at promised
          simp [contractDelay, none, early, Nat.not_lt.mpr passed, timerFinalDelayPassed] at promised
  · intro condition
    have enabled : (setDelay world data int_ms fin_ms).isSome := by
      rw [set_delay_isSome world data int_ms fin_ms ordered]
      rcases condition with zero | ⟨positive, _⟩
      · exact .inl zero
      · exact .inr (Nat.ne_of_gt positive)
    obtain ⟨set, made⟩ := Option.isSome_iff_exists.mp enabled
    refine ⟨set, made, ?_⟩
    intro calls after leaves counted ran
    cases set_delay_some world set data int_ms fin_ms ordered made with
    | cancelled zero inactive state =>
        have settled := settled_run set after data _ calls ⟨inactive, state⟩ leaves ran
        simpa [contractDelay, zero, timerCancelled, getDelay] using settled.2
    | normal some positive now both state =>
        have value := counting_run set after data int_ms calls
          ⟨Nat.pos_of_ne_zero positive, state, by rw [now]; exact both⟩ leaves ran
        rw [value, counted]
        rcases condition with zero | ⟨_, outside⟩
        · exact absurd zero some
        · unfold contractDelay
          by_cases early : elapsed < int_ms
          · simp [early, some, timerNormal]
          · have late : ¬ elapsed < fin_ms := by omega
            simp [early, late, some, timerFinalDelayPassed]

end

-- Two retransmission timers of 1000 ms, the second still running.
def running : World Bool where
  timers := ⟨7, [(500, .intTimer false), (500, .finTimer false)], by simp [Base.EarlierFirst]⟩
  state := fun _ => timerNormal

theorem timing_contract_early : MeetsContract running true 100 400 50 :=
  (timing_contract running true 100 400 50 (by decide)).mpr (.inr (by decide))

theorem final_fires_early : ¬ ∀ (int_ms fin_ms elapsed : Nat), int_ms ≤ fin_ms →
    MeetsContract running true int_ms fin_ms elapsed := by
  intro meets
  obtain ⟨set, made, promised⟩ := meets 1 2 1 (by decide)
  have ran : (Base.run step set [.tick]).map (getDelay · true) = some 2 := by
    have all : ((setDelay running true 1 2).bind fun set => (Base.run step set [.tick]).map (getDelay · true)) = some 2 := by
      decide
    rwa [made] at all
  obtain ⟨after, ticked, value⟩ := Option.map_eq_some_iff.mp ran
  have wanted := promised [.tick] after (by simp [Leaves]) rfl ticked
  rw [value] at wanted
  exact absurd wanted (by decide)

end Miso.Timing
