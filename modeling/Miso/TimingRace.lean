import Miso.Timing

set_option autoImplicit false

namespace Miso.Timing

open Base (Timers Step EarlierFirst insertTimer run StatesHold StepsMeet steps_meet_states_hold steps_meet_implied
  states_hold_last)

-- Where set_delay stands: the activity test of each timer, its stop, the two
-- period changes, the write of the state.
inductive Stage where
  | idle | testInt | stopInt | testFin | stopFin | changeInt | changeFin | writeState
deriving DecidableEq

-- Setters and timer task side by side. The timer task has marked an expired
-- timer inactive before it runs its callback (firing). Which call armed a timer
-- last, and what the current call's own timers have shown, is noted beside it.
structure Race (δ : Type) where
  timers : Timers (TimerHandle δ)
  state : δ → Int
  stage : δ → Stage
  int_ms : δ → Nat
  fin_ms : δ → Nat
  firing : Option (TimerHandle δ × Nat)
  calls : δ → Nat
  armedBy : TimerHandle δ → Nat
  seen : δ → Int

inductive Action (δ : Type) where
  | tick
  | expire
  | callback
  | setDelay (data : δ) (int_ms fin_ms : Nat)
  | setter (data : δ)

section

variable {δ : Type} [DecidableEq δ]

def startState (fin_ms : Nat) : Int := if fin_ms = 0 then timerCancelled else timerNormal

def Race.enter (race : Race δ) (data : δ) (stage : Stage) : Race δ :=
  { race with stage := Function.update race.stage data stage }

def Race.stop (race : Race δ) (timer : TimerHandle δ) : Race δ := { race with timers := race.timers.stop timer }

def Race.arm (race : Race δ) (timer : TimerHandle δ) (period : Nat) : Option (Race δ) :=
  (race.timers.changePeriod timer period).map fun timers =>
    { race with
      timers := timers
      armedBy := Function.update race.armedBy timer (race.calls (pvTimerGetTimerId timer)) }

def Race.begin (race : Race δ) (data : δ) (int_ms fin_ms : Nat) : Race δ :=
  { race.enter data .testInt with
    int_ms := Function.update race.int_ms data int_ms
    fin_ms := Function.update race.fin_ms data fin_ms
    calls := Function.update race.calls data (race.calls data + 1)
    seen := Function.update race.seen data (startState fin_ms) }

def Race.setter (race : Race δ) (data : δ) : Option (Race δ) :=
  match race.stage data with
  | .idle => none
  | .testInt => some (race.enter data (if race.timers.isActive (.intTimer data) then .stopInt else .testFin))
  | .stopInt => some ((race.stop (.intTimer data)).enter data .testFin)
  | .testFin => some (race.enter data (if race.timers.isActive (.finTimer data) then .stopFin else .changeInt))
  | .stopFin => some ((race.stop (.finTimer data)).enter data .changeInt)
  | .changeInt =>
      (if race.int_ms data > 0 then race.arm (.intTimer data) (race.int_ms data) else some race).map (·.enter data .changeFin)
  | .changeFin =>
      (if race.fin_ms data > 0 then race.arm (.finTimer data) (race.int_ms data) else some race).map (·.enter data .writeState)
  | .writeState =>
      some ({ race with state := Function.update race.state data (startState (race.fin_ms data)) }.enter data .idle)

def Race.expire (race : Race δ) : Option (Race δ) :=
  match race.firing, race.timers with
  | none, ⟨now, entry :: rest, ordered⟩ =>
      if entry.1 ≤ now then some { race with
        timers := ⟨now, rest, ordered.of_cons⟩
        firing := some (entry.2, race.armedBy entry.2) }
      else none
  | _, _ => none

def Race.callback (race : Race δ) : Option (Race δ) :=
  race.firing.map fun (timer, call) =>
    let data := pvTimerGetTimerId timer
    { race with
      state := timerCallback race.state timer
      firing := none
      seen := if call = race.calls data then Function.update race.seen data (max (race.seen data) (outcome timer)) else race.seen }

def Race.tick (race : Race δ) : Race δ := { race with timers := { race.timers with now := race.timers.now + 1 } }

def raceStep : Step (Race δ) (Action δ) := fun race action =>
  match action with
  | .tick => some race.tick
  | .expire => race.expire
  | .callback => race.callback
  | .setDelay data int_ms fin_ms => if race.stage data = .idle then some (race.begin data int_ms fin_ms) else none
  | .setter data => race.setter data

-- The timers of a context that may be active at each stage, in the order in
-- which they expire.
def Stage.may (data : δ) : Stage → List (TimerHandle δ)
  | .idle | .testInt | .stopInt | .writeState => [.intTimer data, .finTimer data]
  | .testFin | .stopFin => [.finTimer data]
  | .changeInt => []
  | .changeFin => [.intTimer data]

-- The stages from which on the active timers are those of the current call.
def Stage.late : Stage → Bool
  | .changeFin | .writeState | .idle => true
  | _ => false

def Race.mine (race : Race δ) (data : δ) : List (Nat × TimerHandle δ) := race.timers.entries (own data)

def Race.handles (race : Race δ) (data : δ) : List (TimerHandle δ) := (race.mine data).map Prod.snd

def Race.Fires (race : Race δ) (timer : TimerHandle δ) : Prop :=
  race.firing = some (timer, race.calls (pvTimerGetTimerId timer))

-- A timer of the current call that has not been heard of is still to come.
def Race.Waits (race : Race δ) (timer : TimerHandle δ) : Prop :=
  timer ∈ race.handles (pvTimerGetTimerId timer) ∨ race.Fires timer

-- Between two calls the state shows what the timers of the last call have
-- shown, and nothing of them is lost.
def Attributed (race : Race δ) : Prop := ∀ data, race.stage data = .idle →
  getDelay ⟨race.timers, race.state⟩ data = race.seen data ∧
    (0 < race.int_ms data → race.Waits (.intTimer data) ∨ timerIntermediatePassed ≤ race.seen data) ∧
    (0 < race.fin_ms data → race.Waits (.finTimer data) ∨ timerFinalDelayPassed ≤ race.seen data)

structure Sound (race : Race δ) (data : δ) : Prop where
  busy : race.stage data ≠ .idle → 0 < race.calls data
  shape : (race.handles data).Sublist ((race.stage data).may data)
  soon : race.stage data = .changeFin → ∀ entry ∈ race.mine data, entry.1 ≤ race.timers.now + race.int_ms data
  armed : ∀ timer, own data timer = true →
    race.armedBy timer ≤ race.calls data ∧ ((race.stage data).late = false → race.armedBy timer < race.calls data)
  current : (race.stage data).late = true → ∀ entry ∈ race.mine data, race.armedBy entry.2 = race.calls data
  begun : ∀ entry ∈ race.mine data, 0 < race.armedBy entry.2
  flying : ∀ timer call, race.firing = some (timer, call) → own data timer = true →
    0 < call ∧ call ≤ race.calls data ∧ ((race.stage data).late = false → call < race.calls data) ∧
      (race.stage data = .changeFin → call = race.calls data → timer = .intTimer data)
  first : race.firing = some (.finTimer data, race.calls data) → .intTimer data ∉ race.handles data
  shown : race.stage data = .idle → race.state data = race.seen data
  bound : 0 < race.calls data → race.seen data ≤ timerFinalDelayPassed
  fresh : race.stage data ≠ .idle → race.seen data = startState (race.fin_ms data)
  ended : 0 < race.calls data → race.seen data = timerFinalDelayPassed →
    .intTimer data ∉ race.handles data ∧ race.firing ≠ some (.intTimer data, race.calls data)
  intKept : (race.stage data).late = true → 0 < race.int_ms data →
    .intTimer data ∈ race.handles data ∨ race.firing = some (.intTimer data, race.calls data) ∨
      timerIntermediatePassed ≤ race.seen data
  finKept : (race.stage data = .writeState ∨ race.stage data = .idle) → 0 < race.fin_ms data →
    .finTimer data ∈ race.handles data ∨ race.firing = some (.finTimer data, race.calls data) ∨
      timerFinalDelayPassed ≤ race.seen data

-- What a step leaves alone of a context it is not about.
structure Same (race after : Race δ) (data : δ) : Prop where
  mine : after.mine data = race.mine data
  now : race.timers.now ≤ after.timers.now
  stage : after.stage data = race.stage data
  state : after.state data = race.state data
  int_ms : after.int_ms data = race.int_ms data
  fin_ms : after.fin_ms data = race.fin_ms data
  calls : after.calls data = race.calls data
  seen : after.seen data = race.seen data
  armedBy : ∀ timer, own data timer = true → after.armedBy timer = race.armedBy timer
  firing : ∀ timer call, own data timer = true → (after.firing = some (timer, call) ↔ race.firing = some (timer, call))

theorem mine_own (race : Race δ) (data : δ) (entry : Nat × TimerHandle δ) (member : entry ∈ race.mine data) :
    own data entry.2 = true := (List.mem_filter.mp member).2

theorem own_timers (data : δ) : own data (.intTimer data) = true ∧ own data (.finTimer data) = true := by
  simp [own, pvTimerGetTimerId]

theorem sound_same (race after : Race δ) (data : δ) (sound : Sound race data) (same : Same race after data) : Sound after data := by
  obtain ⟨ownInt, ownFin⟩ := own_timers data
  have handles : after.handles data = race.handles data := congrArg (List.map Prod.snd) same.mine
  exact {
    busy := by
      rw [same.stage, same.calls]
      exact sound.busy
    shape := by
      rw [handles, same.stage]
      exact sound.shape
    soon := by
      rw [same.mine, same.stage, same.int_ms]
      intro changing entry member
      have bound := sound.soon changing entry member
      have later := same.now
      omega
    armed := by
      intro timer mine
      rw [same.armedBy timer mine, same.calls, same.stage]
      exact sound.armed timer mine
    current := by
      rw [same.stage, same.mine, same.calls]
      intro late entry member
      rw [same.armedBy entry.2 (mine_own race data entry member)]
      exact sound.current late entry member
    begun := by
      rw [same.mine]
      intro entry member
      rw [same.armedBy entry.2 (mine_own race data entry member)]
      exact sound.begun entry member
    flying := by
      intro timer call fires mine
      rw [same.calls, same.stage]
      exact sound.flying timer call ((same.firing timer call mine).mp fires) mine
    first := by
      rw [same.calls, same.firing _ _ ownFin, handles]
      exact sound.first
    shown := by
      rw [same.stage, same.state, same.seen]
      exact sound.shown
    bound := by
      rw [same.calls, same.seen]
      exact sound.bound
    fresh := by
      rw [same.stage, same.seen, same.fin_ms]
      exact sound.fresh
    ended := by
      rw [same.seen, same.calls, handles, ne_eq, same.firing _ _ ownInt]
      exact sound.ended
    intKept := by
      rw [same.stage, same.int_ms, same.calls, same.seen, handles, same.firing _ _ ownInt]
      exact sound.intKept
    finKept := by
      rw [same.stage, same.fin_ms, same.calls, same.seen, handles, same.firing _ _ ownFin]
      exact sound.finKept }

theorem sound_attributed (race : Race δ) (sound : ∀ data, Sound race data) : Attributed race := by
  intro data idle
  refine ⟨(sound data).shown idle, fun positive => ?_, fun positive => ?_⟩
  · exact or_assoc.mpr ((sound data).intKept (by rw [idle]; rfl) positive)
  · exact or_assoc.mpr ((sound data).finKept (.inr idle) positive)

section Foreign

theorem same_trans (race between after : Race δ) (data : δ) (first : Same race between data) (second : Same between after data) :
    Same race after data where
  mine := second.mine.trans first.mine
  now := Nat.le_trans first.now second.now
  stage := second.stage.trans first.stage
  state := second.state.trans first.state
  int_ms := second.int_ms.trans first.int_ms
  fin_ms := second.fin_ms.trans first.fin_ms
  calls := second.calls.trans first.calls
  seen := second.seen.trans first.seen
  armedBy := fun timer mine => (second.armedBy timer mine).trans (first.armedBy timer mine)
  firing := fun timer call mine => (second.firing timer call mine).trans (first.firing timer call mine)

theorem same_enter (race : Race δ) (data other : δ) (stage : Stage) (different : data ≠ other) :
    Same race (race.enter other stage) data := by
  refine ⟨rfl, Nat.le_refl _, ?_, rfl, rfl, rfl, rfl, rfl, fun _ _ => rfl, fun _ _ _ => Iff.rfl⟩
  exact Function.update_of_ne different _ _

theorem same_stop (race : Race δ) (data : δ) (timer : TimerHandle δ) (foreign : own data timer = false) :
    Same race (race.stop timer) data := by
  refine ⟨?_, Nat.le_refl _, rfl, rfl, rfl, rfl, rfl, rfl, fun _ _ => rfl, fun _ _ _ => Iff.rfl⟩
  exact (Timers.stop_entries race.timers (own data) timer).trans (Timers.foreign_entries race.timers (own data) timer foreign)

theorem arm_some (race after : Race δ) (timer : TimerHandle δ) (period : Nat) (armed : race.arm timer period = some after) :
    period ≠ 0 ∧ after.timers.now = race.timers.now ∧
      (∀ mine : TimerHandle δ → Bool, after.timers.entries mine =
        if mine timer then insertTimer (race.timers.now + period, timer)
          ((race.timers.entries mine).filter fun entry => entry.2 ≠ timer)
        else (race.timers.entries mine).filter fun entry => entry.2 ≠ timer) ∧
      after = { race with
        timers := after.timers
        armedBy := Function.update race.armedBy timer (race.calls (pvTimerGetTimerId timer)) } := by
  obtain ⟨timers, changed, rfl⟩ := Option.map_eq_some_iff.mp armed
  obtain ⟨positive, now⟩ := Timers.change_period_some race.timers timers timer period changed
  exact ⟨positive, now, fun mine => Timers.change_period_entries race.timers timers mine timer period changed, rfl⟩

theorem same_arm (race after : Race δ) (data : δ) (timer : TimerHandle δ) (period given : Nat) (foreign : own data timer = false)
    (armed : (if given > 0 then race.arm timer period else some race) = some after) : Same race after data := by
  split at armed
  · obtain ⟨_, now, entries, same⟩ := arm_some race after timer period armed
    have mine : after.mine data = race.mine data := by
      rw [Race.mine, entries (own data), foreign]
      exact Timers.foreign_entries race.timers (own data) timer foreign
    have armedBy (other : TimerHandle δ) (held : own data other = true) : after.armedBy other = race.armedBy other := by
      have different : other ≠ timer := fun equal => by simp [← equal, held] at foreign
      rw [same]
      exact Function.update_of_ne different _ _
    rw [same] at *
    exact ⟨mine, Nat.le_of_eq now.symm, rfl, rfl, rfl, rfl, rfl, rfl, armedBy, fun _ _ _ => Iff.rfl⟩
  · obtain rfl := Option.some.inj armed
    exact ⟨rfl, Nat.le_refl _, rfl, rfl, rfl, rfl, rfl, rfl, fun _ _ => rfl, fun _ _ _ => Iff.rfl⟩

theorem foreign_timers (data other : δ) (different : data ≠ other) :
    own data (.intTimer other) = false ∧ own data (.finTimer other) = false := by
  simp [own, pvTimerGetTimerId, Ne.symm different]

theorem same_setter (race after : Race δ) (data other : δ) (different : data ≠ other) (taken : race.setter other = some after) :
    Same race after data := by
  obtain ⟨foreignInt, foreignFin⟩ := foreign_timers data other different
  cases stage : race.stage other with
  | idle => simp [Race.setter, stage] at taken
  | testInt =>
      simp only [Race.setter, stage, Option.some.injEq] at taken
      exact taken ▸ same_enter race data other _ different
  | stopInt =>
      simp only [Race.setter, stage, Option.some.injEq] at taken
      exact taken ▸ same_trans _ _ _ _ (same_stop race data _ foreignInt) (same_enter _ data other _ different)
  | testFin =>
      simp only [Race.setter, stage, Option.some.injEq] at taken
      exact taken ▸ same_enter race data other _ different
  | stopFin =>
      simp only [Race.setter, stage, Option.some.injEq] at taken
      exact taken ▸ same_trans _ _ _ _ (same_stop race data _ foreignFin) (same_enter _ data other _ different)
  | changeInt =>
      simp only [Race.setter, stage] at taken
      obtain ⟨between, armed, rfl⟩ := Option.map_eq_some_iff.mp taken
      exact same_trans _ _ _ _ (same_arm race between data _ _ _ foreignInt armed) (same_enter _ data other _ different)
  | changeFin =>
      simp only [Race.setter, stage] at taken
      obtain ⟨between, armed, rfl⟩ := Option.map_eq_some_iff.mp taken
      exact same_trans _ _ _ _ (same_arm race between data _ _ _ foreignFin armed) (same_enter _ data other _ different)
  | writeState =>
      simp only [Race.setter, stage, Option.some.injEq] at taken
      subst taken
      exact ⟨rfl, Nat.le_refl _, Function.update_of_ne different _ _, Function.update_of_ne different _ _, rfl, rfl, rfl, rfl,
        fun _ _ => rfl, fun _ _ _ => Iff.rfl⟩

theorem same_begin (race : Race δ) (data other : δ) (int_ms fin_ms : Nat) (different : data ≠ other) :
    Same race (race.begin other int_ms fin_ms) data :=
  ⟨rfl, Nat.le_refl _, Function.update_of_ne different _ _, rfl, Function.update_of_ne different _ _,
    Function.update_of_ne different _ _, Function.update_of_ne different _ _, Function.update_of_ne different _ _,
    fun _ _ => rfl, fun _ _ _ => Iff.rfl⟩

theorem same_tick (race : Race δ) (data : δ) : Same race race.tick data :=
  ⟨rfl, Nat.le_succ _, rfl, rfl, rfl, rfl, rfl, rfl, fun _ _ => rfl, fun _ _ _ => Iff.rfl⟩

omit [DecidableEq δ] in
theorem expire_some (race after : Race δ) (taken : race.expire = some after) :
    ∃ time timer rest ordered, race.firing = none ∧ race.timers = ⟨race.timers.now, (time, timer) :: rest, ordered⟩ ∧
      time ≤ race.timers.now ∧
      after = { race with
        timers := ⟨race.timers.now, rest, ordered.of_cons⟩
        firing := some (timer, race.armedBy timer) } := by
  obtain ⟨⟨now, active, ordered⟩, state, stage, int_ms, fin_ms, firing, calls, armedBy, seen⟩ := race
  cases firing with
  | some pending => simp [Race.expire] at taken
  | none =>
      cases active with
      | nil => simp [Race.expire] at taken
      | cons entry rest =>
          obtain ⟨time, timer⟩ := entry
          simp only [Race.expire] at taken
          split at taken
          case isTrue due =>
            obtain rfl := Option.some.inj taken
            exact ⟨time, timer, rest, ordered, rfl, rfl, due, rfl⟩
          case isFalse => cases taken

theorem callback_some (race after : Race δ) (taken : race.callback = some after) :
    ∃ timer call, race.firing = some (timer, call) ∧
      after = { race with
        state := timerCallback race.state timer
        firing := none
        seen := if call = race.calls (pvTimerGetTimerId timer) then
          Function.update race.seen (pvTimerGetTimerId timer) (max (race.seen (pvTimerGetTimerId timer)) (outcome timer))
        else race.seen } := by
  obtain ⟨⟨timer, call⟩, fires, rfl⟩ := Option.map_eq_some_iff.mp taken
  exact ⟨timer, call, fires, rfl⟩

end Foreign

section Own

omit [DecidableEq δ] in
theorem may_sublist (data : δ) (stage : Stage) :
    (stage.may data).Sublist [TimerHandle.intTimer data, .finTimer data] := by
  cases stage with
  | testFin | stopFin => exact .cons _ (.refl _)
  | changeInt => exact List.nil_sublist _
  | changeFin => exact .cons_cons _ (List.nil_sublist _)
  | _ => exact .refl _

omit [DecidableEq δ] in
theorem after_final (data : δ) (rest : List (TimerHandle δ))
    (within : (TimerHandle.finTimer data :: rest).Sublist [.intTimer data, .finTimer data]) : rest = [] := by
  rcases List.sublist_cons_iff.mp within with inner | ⟨_, same, _⟩
  · exact List.sublist_nil.mp (List.cons_sublist_cons.mp inner)
  · cases same

theorem expire_mine (race : Race δ) (data : δ) (time : Nat) (timer : TimerHandle δ) (rest : List (Nat × TimerHandle δ))
    (ordered : EarlierFirst ((time, timer) :: rest)) (head : race.timers = ⟨race.timers.now, (time, timer) :: rest, ordered⟩) :
    race.mine data = if own data timer then (time, timer) :: (rest.filter fun entry => own data entry.2)
      else rest.filter fun entry => own data entry.2 := by
  rw [Race.mine, head, Timers.entries, List.filter_cons]

theorem sound_expire (race after : Race δ) (data : δ) (sound : Sound race data) (taken : race.expire = some after) :
    Sound after data := by
  obtain ⟨time, timer, rest, ordered, silent, head, due, rfl⟩ := expire_some race after taken
  have before := expire_mine race data time timer rest ordered head
  cases mine : own data timer with
  | false =>
      apply sound_same race _ data sound
      refine ⟨?_, Nat.le_refl _, rfl, rfl, rfl, rfl, rfl, rfl, fun _ _ => rfl, fun other call held => ?_⟩
      · rw [before, mine]
        rfl
      · rw [silent]
        refine iff_of_false (fun fires => ?_) (fun fires => by cases fires)
        obtain ⟨rfl, _⟩ := Prod.mk.inj (Option.some.inj fires)
        rw [mine] at held
        cases held
  | true =>
      rw [mine, if_pos rfl] at before
      have handles : race.handles data = timer :: (rest.filter fun entry => own data entry.2).map Prod.snd := by
        rw [Race.handles, before]
        rfl
      have listed : timer ∈ race.handles data := by simp [handles]
      have inside (entry : Nat × TimerHandle δ) (member : entry ∈ rest.filter fun entry => own data entry.2) :
          entry ∈ race.mine data := by simp [before, member]
      have narrow : ((rest.filter fun entry => own data entry.2).map Prod.snd).Sublist (race.handles data) := by
        rw [handles]
        exact List.sublist_cons_self _ _
      have whole := sound.shape.trans (may_sublist data (race.stage data))
      have entry : (time, timer) ∈ race.mine data := by simp [before]
      have still (late : (race.stage data).late = true) (wanted : TimerHandle δ) (level : Int)
          (kept : wanted ∈ race.handles data ∨ race.firing = some (wanted, race.calls data) ∨ level ≤ race.seen data) :
          wanted ∈ (rest.filter fun entry => own data entry.2).map Prod.snd ∨
            some (timer, race.armedBy timer) = some (wanted, race.calls data) ∨ level ≤ race.seen data := by
        rcases kept with member | fires | shown
        · rw [handles] at member
          rcases List.mem_cons.mp member with rfl | later
          · exact .inr (.inl (by rw [← sound.current late (time, wanted) entry]))
          · exact .inl later
        · rw [silent] at fires
          cases fires
        · exact .inr (.inr shown)
      exact {
        busy := sound.busy
        shape := narrow.trans sound.shape
        soon := fun changing entry member => sound.soon changing entry (inside entry member)
        armed := sound.armed
        current := fun late entry member => sound.current late entry (inside entry member)
        begun := fun entry member => sound.begun entry (inside entry member)
        flying := by
          rintro other call fires held
          obtain ⟨rfl, rfl⟩ := Prod.mk.inj (Option.some.inj fires)
          obtain ⟨upper, early⟩ := sound.armed timer held
          refine ⟨sound.begun _ entry, upper, early, fun changing _ => ?_⟩
          have only := sound.shape.subset listed
          rw [changing] at only
          exact List.mem_singleton.mp only
        first := by
          intro fires
          obtain ⟨rfl, _⟩ := Prod.mk.inj (Option.some.inj fires)
          rw [handles] at whole
          have nothing : (rest.filter fun entry => own data entry.2).map Prod.snd = [] := after_final data _ whole
          change .intTimer data ∉ (rest.filter fun entry => own data entry.2).map Prod.snd
          rw [nothing]
          exact List.not_mem_nil
        shown := sound.shown
        bound := sound.bound
        fresh := sound.fresh
        ended := by
          intro begun final
          obtain ⟨gone, _⟩ := sound.ended begun final
          refine ⟨fun member => gone (narrow.subset member), fun fires => ?_⟩
          obtain ⟨rfl, _⟩ := Prod.mk.inj (Option.some.inj fires)
          exact gone listed
        intKept := fun late positive => still late _ _ (sound.intKept late positive)
        finKept := by
          intro stage positive
          have late : (race.stage data).late = true := by
            rcases stage with stage | stage <;> (rw [show race.stage data = _ from stage]; rfl)
          exact still late _ _ (sound.finKept stage positive) }

-- A callback belongs to the current call exactly when set_delay has returned.
def Timely (race : Race δ) : Action δ → Prop
  | .callback => ∀ timer call, race.firing = some (timer, call) →
      (call = race.calls (pvTimerGetTimerId timer) ↔ race.stage (pvTimerGetTimerId timer) = .idle)
  | _ => True

omit [DecidableEq δ] in
theorem outcome_range (timer : TimerHandle δ) :
    timerIntermediatePassed ≤ outcome timer ∧ outcome timer ≤ timerFinalDelayPassed := by
  cases timer <;> simp [outcome, timerIntermediatePassed, timerFinalDelayPassed]

theorem sound_foreign_callback (race after : Race δ) (data : δ) (timer : TimerHandle δ) (call : Nat) (sound : Sound race data)
    (fires : race.firing = some (timer, call)) (foreign : own data timer = false) (taken : race.callback = some after) :
    Sound after data := by
  obtain ⟨other, arming, fired, rfl⟩ := callback_some race after taken
  obtain ⟨rfl, rfl⟩ := Prod.mk.inj (Option.some.inj (fires.symm.trans fired))
  have different : data ≠ pvTimerGetTimerId timer := fun same => by simp [own, same] at foreign
  apply sound_same race _ data sound
  refine ⟨rfl, Nat.le_refl _, rfl, ?_, rfl, rfl, rfl, ?_, fun _ _ => rfl, fun held arming mine => ?_⟩
  · exact timer_callback_foreign race.state data timer foreign
  · simp only
    split
    · exact Function.update_of_ne different _ _
    · rfl
  · rw [fires]
    refine iff_of_false (fun none => by cases none) (fun same => ?_)
    obtain ⟨rfl, _⟩ := Prod.mk.inj (Option.some.inj same)
    rw [mine] at foreign
    cases foreign

theorem sound_own_callback (race after : Race δ) (data : δ) (timer : TimerHandle δ) (call : Nat) (sound : Sound race data)
    (fires : race.firing = some (timer, call)) (mine : own data timer = true) (timely : Timely race .callback)
    (taken : race.callback = some after) : Sound after data := by
  obtain ⟨other, arming, fired, rfl⟩ := callback_some race after taken
  obtain ⟨rfl, rfl⟩ := Prod.mk.inj (Option.some.inj (fires.symm.trans fired))
  have owner : pvTimerGetTimerId timer = data := by simpa [own] using mine
  have exact_call := timely timer call fires
  rw [owner] at exact_call
  obtain ⟨positive, upper, early, onlyInt⟩ := sound.flying timer call fires mine
  have begun : 0 < race.calls data := Nat.lt_of_lt_of_le positive upper
  obtain ⟨low, high⟩ := outcome_range timer
  have bound := sound.bound begun
  by_cases idle : race.stage data = .idle
  · have current := exact_call.mpr idle
    have seen : (if call = race.calls (pvTimerGetTimerId timer) then
        Function.update race.seen (pvTimerGetTimerId timer) (max (race.seen (pvTimerGetTimerId timer)) (outcome timer))
      else race.seen) data = max (race.seen data) (outcome timer) := by
      rw [owner, if_pos current]
      exact Function.update_self data _ race.seen
    -- The final expiry comes last of the two.
    have reached : max (race.seen data) (outcome timer) = outcome timer := by
      cases timer with
      | finTimer _ => exact Int.max_eq_right bound
      | intTimer other =>
          obtain rfl : other = data := owner
          have fires_current : race.firing = some (.intTimer other, race.calls other) := by rw [fires, current]
          have below : race.seen other ≠ timerFinalDelayPassed := fun final => (sound.ended begun final).2 fires_current
          apply Int.max_eq_right
          simp only [timerFinalDelayPassed] at bound below
          simp only [outcome, timerIntermediatePassed]
          omega
    exact {
      busy := sound.busy
      shape := sound.shape
      soon := sound.soon
      armed := sound.armed
      current := sound.current
      begun := sound.begun
      flying := fun _ _ none => by cases none
      first := fun none => by cases none
      shown := by
        intro _
        simp only [seen, reached]
        exact timer_callback_own race.state data timer mine
      bound := by
        intro _
        simp only [seen, reached]
        exact high
      fresh := fun busy => absurd idle busy
      ended := by
        intro _ final
        refine ⟨?_, fun none => by cases none⟩
        simp only [seen, reached] at final
        cases timer with
        | intTimer _ => simp [outcome, timerIntermediatePassed, timerFinalDelayPassed] at final
        | finTimer other =>
            obtain rfl : other = data := owner
            exact sound.first (by rw [fires, current])
      intKept := by
        intro late asked
        simp only [seen, reached]
        rcases sound.intKept late asked with member | _ | shown
        · exact .inl member
        · exact .inr (.inr low)
        · exact .inr (.inr low)
      finKept := by
        intro stage asked
        simp only [seen, reached]
        rcases sound.finKept stage asked with member | same | shown
        · exact .inl member
        · obtain ⟨rfl, _⟩ := Prod.mk.inj (Option.some.inj (fires.symm.trans same))
          exact .inr (.inr (Int.le_refl _))
        · exact .inr (.inr (by rw [← reached]; exact Int.le_trans shown (Int.le_max_left _ _))) }
  · have stale : call ≠ race.calls data := fun same => idle (exact_call.mp same)
    have seen : (if call = race.calls (pvTimerGetTimerId timer) then
        Function.update race.seen (pvTimerGetTimerId timer) (max (race.seen (pvTimerGetTimerId timer)) (outcome timer))
      else race.seen) = race.seen := by
      rw [owner, if_neg stale]
    simp only [seen]
    have other (held : TimerHandle δ) : race.firing ≠ some (held, race.calls data) := by
      intro same
      obtain ⟨_, equal⟩ := Prod.mk.inj (Option.some.inj (fires.symm.trans same))
      exact stale equal
    exact {
      busy := sound.busy
      shape := sound.shape
      soon := sound.soon
      armed := sound.armed
      current := sound.current
      begun := sound.begun
      flying := fun _ _ none => by cases none
      first := fun none => by cases none
      shown := fun same => absurd same idle
      bound := sound.bound
      fresh := sound.fresh
      ended := fun began final => ⟨(sound.ended began final).1, fun none => by cases none⟩
      intKept := by
        intro late asked
        rcases sound.intKept late asked with member | same | shown
        · exact .inl member
        · exact absurd same (other _)
        · exact .inr (.inr shown)
      finKept := by
        intro stage asked
        rcases sound.finKept stage asked with member | same | shown
        · exact .inl member
        · exact absurd same (other _)
        · exact .inr (.inr shown) }

theorem sound_begin (race : Race δ) (data : δ) (int_ms fin_ms : Nat) (sound : Sound race data) (idle : race.stage data = .idle) :
    Sound (race.begin data int_ms fin_ms) data := by
  have stage : (race.begin data int_ms fin_ms).stage data = .testInt := Function.update_self data _ _
  have calls : (race.begin data int_ms fin_ms).calls data = race.calls data + 1 := Function.update_self data _ _
  have seen : (race.begin data int_ms fin_ms).seen data = startState fin_ms := Function.update_self data _ _
  have fin : (race.begin data int_ms fin_ms).fin_ms data = fin_ms := Function.update_self data _ _
  have start : startState fin_ms < timerIntermediatePassed := by
    simp only [startState]
    split <;> decide
  have shape := sound.shape
  rw [idle] at shape
  have flying (timer : TimerHandle δ) (call : Nat) (fires : race.firing = some (timer, call)) (mine : own data timer = true) :
      0 < call ∧ call < race.calls data + 1 := by
    obtain ⟨positive, upper, _⟩ := sound.flying timer call fires mine
    exact ⟨positive, Nat.lt_succ_of_le upper⟩
  have stale (timer : TimerHandle δ) (mine : own data timer = true) : race.firing ≠ some (timer, race.calls data + 1) :=
    fun fires => absurd (flying timer _ fires mine).2 (Nat.lt_irrefl _)
  exact {
    busy := by
      intro _
      rw [calls]
      exact Nat.succ_pos _
    shape := by
      rw [stage]
      exact shape
    soon := by
      intro changing
      rw [stage] at changing
      cases changing
    armed := by
      intro timer mine
      rw [calls]
      exact ⟨Nat.le_succ_of_le (sound.armed timer mine).1, fun _ => Nat.lt_succ_of_le (sound.armed timer mine).1⟩
    current := by
      intro late
      rw [stage] at late
      cases late
    begun := sound.begun
    flying := by
      intro timer call fires mine
      rw [calls, stage]
      obtain ⟨positive, upper⟩ := flying timer call fires mine
      exact ⟨positive, Nat.le_of_lt upper, fun _ => upper, fun changing => (by cases changing)⟩
    first := by
      intro fires
      rw [calls] at fires
      exact absurd fires (stale _ (own_timers data).2)
    shown := by
      intro same
      rw [stage] at same
      cases same
    bound := by
      intro _
      rw [seen]
      exact Int.le_trans (Int.le_of_lt start) (by decide)
    fresh := by
      intro _
      rw [seen, fin]
    ended := by
      intro _ final
      rw [seen] at final
      rw [final] at start
      exact absurd start (by decide)
    intKept := by
      intro late
      rw [stage] at late
      cases late
    finKept := by
      intro held
      rw [stage] at held
      rcases held with same | same <;> cases same }

-- The tests and stops before the period changes.
theorem sound_early (race : Race δ) (timers : Timers (TimerHandle δ)) (data : δ) (stage : Stage) (sound : Sound race data)
    (early : (race.stage data).late = false) (earlyAfter : stage.late = false)
    (inside : ∀ entry ∈ timers.entries (own data), entry ∈ race.mine data)
    (shape : ((timers.entries (own data)).map Prod.snd).Sublist (stage.may data)) :
    Sound ({ race with timers := timers }.enter data stage) data := by
  have entered : ({ race with timers := timers }.enter data stage).stage data = stage := Function.update_self data _ _
  have busy : race.stage data ≠ .idle := fun idle => by simp [idle, Stage.late] at early
  exact {
    busy := fun _ => sound.busy busy
    shape := by
      rw [entered]
      exact shape
    soon := by
      rw [entered]
      rintro rfl
      cases earlyAfter
    armed := fun timer mine => ⟨(sound.armed timer mine).1, fun _ => (sound.armed timer mine).2 early⟩
    current := by
      rw [entered, earlyAfter]
      exact fun late => by cases late
    begun := fun entry member => sound.begun entry (inside entry member)
    flying := by
      rw [entered]
      intro timer call fires mine
      obtain ⟨positive, upper, before, _⟩ := sound.flying timer call fires mine
      refine ⟨positive, upper, fun _ => before early, ?_⟩
      rintro rfl
      cases earlyAfter
    first := by
      intro fires
      exact absurd ((sound.flying _ _ fires (own_timers data).2).2.2.1 early) (Nat.lt_irrefl _)
    shown := by
      rw [entered]
      rintro rfl
      cases earlyAfter
    bound := sound.bound
    fresh := fun _ => sound.fresh busy
    ended := by
      intro begun final
      have start := sound.fresh busy
      rw [show race.seen data = _ from final] at start
      simp only [startState] at start
      split at start <;> exact absurd start (by decide)
    intKept := by
      rw [entered, earlyAfter]
      exact fun late => by cases late
    finKept := by
      rw [entered]
      rintro (rfl | rfl) <;> cases earlyAfter }

theorem without_handle (race : Race δ) (data : δ) (timer : TimerHandle δ) (within rest : List (TimerHandle δ))
    (shape : (race.handles data).Sublist within) (drops : within.filter (· ≠ timer) = rest) :
    (((race.timers.stop timer).entries (own data)).map Prod.snd).Sublist rest := by
  rw [Timers.stop_entries, ← drops]
  have filtered : ((race.mine data).filter fun entry => entry.2 ≠ timer).map Prod.snd =
      (race.handles data).filter (· ≠ timer) := by
    rw [Race.handles, List.filter_map]
    rfl
  rw [Race.mine] at filtered
  rw [filtered]
  exact shape.filter _

theorem inactive_handles (race : Race δ) (data : δ) (timer : TimerHandle δ) (inactive : race.timers.isActive timer = false) :
    (race.timers.stop timer).entries (own data) = race.mine data := by
  rw [Timers.stop_entries]
  exact Timers.inactive_entries race.timers (own data) timer inactive

theorem sound_test (race : Race δ) (data : δ) (timer : TimerHandle δ) (stopping next : Stage) (sound : Sound race data)
    (early : (race.stage data).late = false) (earlyStop : stopping.late = false) (earlyNext : next.late = false)
    (same : stopping.may data = (race.stage data).may data)
    (drops : ((race.stage data).may data).filter (· ≠ timer) = next.may data) :
    Sound (race.enter data (if race.timers.isActive timer then stopping else next)) data := by
  cases active : race.timers.isActive timer with
  | true =>
      refine sound_early race race.timers data stopping sound early earlyStop (fun entry member => member) ?_
      rw [same]
      exact sound.shape
  | false =>
      refine sound_early race race.timers data next sound early earlyNext (fun entry member => member) ?_
      have without := without_handle race data timer _ _ sound.shape drops
      rwa [inactive_handles race data timer active] at without

theorem sound_stop (race : Race δ) (data : δ) (timer : TimerHandle δ) (next : Stage) (sound : Sound race data)
    (early : (race.stage data).late = false) (earlyNext : next.late = false)
    (drops : ((race.stage data).may data).filter (· ≠ timer) = next.may data) :
    Sound ((race.stop timer).enter data next) data := by
  refine sound_early race (race.timers.stop timer) data next sound early earlyNext (fun entry member => ?_)
    (without_handle race data timer _ _ sound.shape drops)
  rw [Timers.stop_entries] at member
  exact (List.mem_filter.mp member).1

theorem arm_own (race after : Race δ) (data : δ) (timer : TimerHandle δ) (period : Nat) (mine : own data timer = true)
    (armed : race.arm timer period = some after) :
    after.mine data = insertTimer (race.timers.now + period, timer) ((race.mine data).filter fun entry => entry.2 ≠ timer) ∧
      after.timers.now = race.timers.now ∧
      after = { race with timers := after.timers, armedBy := Function.update race.armedBy timer (race.calls data) } := by
  obtain ⟨_, now, entries, same⟩ := arm_some race after timer period armed
  have owner : pvTimerGetTimerId timer = data := by simpa [own] using mine
  rw [owner] at same
  refine ⟨?_, now, same⟩
  rw [Race.mine, entries (own data), if_pos mine]
  rfl

theorem sound_enter_fin (race : Race δ) (timers : Timers (TimerHandle δ)) (armedBy : TimerHandle δ → Nat) (data : δ)
    (sound : Sound race data) (stage : race.stage data = .changeInt) (now : timers.now = race.timers.now)
    (shape : ((timers.entries (own data)).map Prod.snd).Sublist [.intTimer data])
    (soon : ∀ entry ∈ timers.entries (own data), entry.1 ≤ race.timers.now + race.int_ms data)
    (armed : ∀ timer, own data timer = true → armedBy timer ≤ race.calls data)
    (current : ∀ entry ∈ timers.entries (own data), armedBy entry.2 = race.calls data)
    (waits : 0 < race.int_ms data → .intTimer data ∈ (timers.entries (own data)).map Prod.snd) :
    Sound ({ race with timers := timers, armedBy := armedBy }.enter data .changeFin) data := by
  have early : (race.stage data).late = false := by rw [stage]; rfl
  have busy : race.stage data ≠ .idle := by rw [stage]; decide
  have entered : ({ race with timers := timers, armedBy := armedBy }.enter data .changeFin).stage data = .changeFin :=
    Function.update_self data _ _
  have start : race.seen data ≠ timerFinalDelayPassed := by
    rw [sound.fresh busy, startState]
    split <;> decide
  obtain ⟨ownInt, ownFin⟩ := own_timers data
  have called := sound.busy busy
  have older (timer : TimerHandle δ) (mine : own data timer = true) : race.firing ≠ some (timer, race.calls data) :=
    fun fires => absurd ((sound.flying timer _ fires mine).2.2.1 early) (Nat.lt_irrefl _)
  exact {
    busy := fun _ => sound.busy busy
    shape := by
      rw [entered]
      exact shape
    soon := by
      intro _ entry member
      have near := soon entry member
      change entry.1 ≤ timers.now + race.int_ms data
      rwa [now]
    armed := fun timer mine => ⟨armed timer mine, fun late => by rw [entered] at late; cases late⟩
    current := fun _ entry member => current entry member
    begun := by
      intro entry member
      have same := current entry member
      change 0 < armedBy entry.2
      omega
    flying := by
      rw [entered]
      intro timer call fires mine
      obtain ⟨positive, upper, _⟩ := sound.flying timer call fires mine
      exact ⟨positive, upper, fun late => (by cases late), fun _ same => absurd (same ▸ fires) (older timer mine)⟩
    first := fun fires => absurd fires (older _ ownFin)
    shown := by
      rw [entered]
      exact fun idle => by cases idle
    bound := sound.bound
    fresh := fun _ => sound.fresh busy
    ended := fun _ final => absurd final start
    intKept := fun _ positive => .inl (waits positive)
    finKept := by
      rw [entered]
      rintro (held | held) <;> cases held }

theorem sound_change_int (race between : Race δ) (data : δ) (sound : Sound race data) (stage : race.stage data = .changeInt)
    (changed : (if race.int_ms data > 0 then race.arm (.intTimer data) (race.int_ms data) else some race) = some between) :
    Sound (between.enter data .changeFin) data := by
  have none : race.mine data = [] := by
    have shape := sound.shape
    rw [stage] at shape
    exact List.map_eq_nil_iff.mp (List.sublist_nil.mp shape)
  by_cases asked : race.int_ms data > 0
  · rw [if_pos asked] at changed
    obtain ⟨mine, now, same⟩ := arm_own race between data (.intTimer data) (race.int_ms data) (own_timers data).1 changed
    have single : between.timers.entries (own data) = [(race.timers.now + race.int_ms data, .intTimer data)] := by
      rw [none] at mine
      exact mine
    rw [same]
    refine sound_enter_fin race between.timers _ data sound stage now ?_ ?_ ?_ ?_ ?_
    · rw [single]
      exact .refl _
    · intro entry member
      obtain rfl := List.mem_singleton.mp (single ▸ member)
      exact Nat.le_refl _
    · intro timer held
      by_cases equal : timer = .intTimer data
      · exact Nat.le_of_eq (equal ▸ Function.update_self _ _ _)
      · rw [Function.update_of_ne equal]
        exact (sound.armed timer held).1
    · intro entry member
      obtain rfl := List.mem_singleton.mp (single ▸ member)
      exact Function.update_self _ _ _
    · intro _
      rw [single]
      exact List.mem_singleton_self _
  · rw [if_neg asked] at changed
    obtain rfl := Option.some.inj changed
    have empty : race.timers.entries (own data) = [] := none
    refine sound_enter_fin race race.timers race.armedBy data sound stage rfl ?_ ?_ (fun timer mine => (sound.armed timer mine).1)
      ?_ (fun positive => absurd positive asked)
    · rw [empty]
      exact List.nil_sublist _
    · rw [empty]
      exact fun entry member => absurd member List.not_mem_nil
    · rw [empty]
      exact fun entry member => absurd member List.not_mem_nil

omit [DecidableEq δ] in
theorem insert_last (entry : Nat × TimerHandle δ) (entries : List (Nat × TimerHandle δ))
    (before : ∀ other ∈ entries, other.1 ≤ entry.1) : insertTimer entry entries = entries ++ [entry] := by
  induction entries with
  | nil => rfl
  | cons head rest ih =>
      rw [Base.insert_timer_behind entry head rest (before head List.mem_cons_self),
        ih fun other member => before other (List.mem_cons_of_mem _ member)]
      rfl

theorem sound_enter_write (race : Race δ) (timers : Timers (TimerHandle δ)) (armedBy : TimerHandle δ → Nat) (data : δ)
    (sound : Sound race data) (stage : race.stage data = .changeFin)
    (shape : ((timers.entries (own data)).map Prod.snd).Sublist [.intTimer data, .finTimer data])
    (armed : ∀ timer, own data timer = true → armedBy timer ≤ race.calls data)
    (current : ∀ entry ∈ timers.entries (own data), armedBy entry.2 = race.calls data)
    (begun : ∀ entry ∈ timers.entries (own data), 0 < armedBy entry.2)
    (kept : .intTimer data ∈ race.handles data → .intTimer data ∈ (timers.entries (own data)).map Prod.snd)
    (waits : 0 < race.fin_ms data → .finTimer data ∈ (timers.entries (own data)).map Prod.snd) :
    Sound ({ race with timers := timers, armedBy := armedBy }.enter data .writeState) data := by
  have busy : race.stage data ≠ .idle := by rw [stage]; decide
  have entered : ({ race with timers := timers, armedBy := armedBy }.enter data .writeState).stage data = .writeState :=
    Function.update_self data _ _
  have start : race.seen data ≠ timerFinalDelayPassed := by
    rw [sound.fresh busy, startState]
    split <;> decide
  have ownFin := (own_timers data).2
  exact {
    busy := fun _ => sound.busy busy
    shape := by
      rw [entered]
      exact shape
    soon := by
      rw [entered]
      exact fun changing => by cases changing
    armed := fun timer mine => ⟨armed timer mine, fun late => by rw [entered] at late; cases late⟩
    current := fun _ entry member => current entry member
    begun := begun
    flying := by
      rw [entered]
      intro timer call fires mine
      obtain ⟨positive, upper, _⟩ := sound.flying timer call fires mine
      exact ⟨positive, upper, fun late => (by cases late), fun changing => (by cases changing)⟩
    first := by
      intro fires
      have only := (sound.flying _ _ fires ownFin).2.2.2 stage rfl
      cases only
    shown := by
      rw [entered]
      exact fun idle => by cases idle
    bound := sound.bound
    fresh := fun _ => sound.fresh busy
    ended := fun _ final => absurd final start
    intKept := by
      intro _ positive
      rcases sound.intKept (by rw [stage]; rfl) positive with member | fires | shown
      · exact .inl (kept member)
      · exact .inr (.inl fires)
      · exact .inr (.inr shown)
    finKept := fun _ positive => .inl (waits positive) }

theorem sound_change_fin (race between : Race δ) (data : δ) (sound : Sound race data) (stage : race.stage data = .changeFin)
    (changed : (if race.fin_ms data > 0 then race.arm (.finTimer data) (race.int_ms data) else some race) = some between) :
    Sound (between.enter data .writeState) data := by
  obtain ⟨ownInt, ownFin⟩ := own_timers data
  have late : (race.stage data).late = true := by rw [stage]; rfl
  have shape := sound.shape
  rw [stage] at shape
  have current := sound.current late
  by_cases asked : race.fin_ms data > 0
  · rw [if_pos asked] at changed
    obtain ⟨mine, now, same⟩ := arm_own race between data (.finTimer data) (race.int_ms data) ownFin changed
    have only (entry : Nat × TimerHandle δ) (member : entry ∈ race.mine data) : entry.2 = .intTimer data :=
      List.mem_singleton.mp (shape.subset (List.mem_map_of_mem member))
    have others : ((race.mine data).filter fun entry => entry.2 ≠ .finTimer data) = race.mine data := by
      apply List.filter_eq_self.mpr
      intro entry member
      simp [only entry member]
    have behind : between.timers.entries (own data) =
        race.mine data ++ [(race.timers.now + race.int_ms data, .finTimer data)] := by
      rw [others, insert_last _ _ (sound.soon stage)] at mine
      exact mine
    have split (entry : Nat × TimerHandle δ) (member : entry ∈ between.timers.entries (own data)) :
        entry ∈ race.mine data ∨ entry = (race.timers.now + race.int_ms data, .finTimer data) := by
      rw [behind] at member
      simpa using member
    have handles : (between.timers.entries (own data)).map Prod.snd = race.handles data ++ [.finTimer data] := by
      rw [behind, List.map_append]
      rfl
    have called := sound.busy (by rw [stage]; decide)
    rw [same]
    refine sound_enter_write race between.timers _ data sound stage ?_ ?_ ?_ ?_ ?_ ?_
    · rw [handles]
      exact shape.append (.refl [TimerHandle.finTimer data])
    · intro timer held
      by_cases equal : timer = .finTimer data
      · exact Nat.le_of_eq (equal ▸ Function.update_self _ _ _)
      · rw [Function.update_of_ne equal]
        exact (sound.armed timer held).1
    · intro entry member
      rcases split entry member with old | rfl
      · rw [Function.update_of_ne (by rw [only entry old]; exact fun equal => by cases equal)]
        exact current entry old
      · exact Function.update_self _ _ _
    · intro entry member
      rcases split entry member with old | rfl
      · rw [Function.update_of_ne (by rw [only entry old]; exact fun equal => by cases equal)]
        exact sound.begun entry old
      · rw [Function.update_self]
        exact called
    · intro member
      rw [handles]
      exact List.mem_append_left _ member
    · intro _
      rw [handles]
      exact List.mem_append_right _ (List.mem_singleton_self _)
  · rw [if_neg asked] at changed
    obtain rfl := Option.some.inj changed
    exact sound_enter_write race race.timers race.armedBy data sound stage (shape.trans (may_sublist data .changeFin))
      (fun timer mine => (sound.armed timer mine).1) current sound.begun (fun member => member)
      (fun positive => absurd positive asked)

theorem sound_write (race : Race δ) (data : δ) (sound : Sound race data) (stage : race.stage data = .writeState) :
    Sound ({ race with state := Function.update race.state data (startState (race.fin_ms data)) }.enter data .idle) data := by
  have busy : race.stage data ≠ .idle := by rw [stage]; decide
  have entered : ({ race with state := Function.update race.state data (startState (race.fin_ms data)) }.enter
      data .idle).stage data = .idle := Function.update_self data _ _
  have late : (race.stage data).late = true := by rw [stage]; rfl
  have start := sound.fresh busy
  have shape := sound.shape
  rw [stage] at shape
  exact {
    busy := fun _ => sound.busy busy
    shape := by
      rw [entered]
      exact shape
    soon := by
      rw [entered]
      exact fun changing => by cases changing
    armed := fun timer mine => ⟨(sound.armed timer mine).1, fun early => by rw [entered] at early; cases early⟩
    current := fun _ entry member => sound.current late entry member
    begun := sound.begun
    flying := by
      rw [entered]
      intro timer call fires mine
      obtain ⟨positive, upper, _⟩ := sound.flying timer call fires mine
      exact ⟨positive, upper, fun early => (by cases early), fun changing => (by cases changing)⟩
    first := sound.first
    shown := by
      intro _
      change Function.update race.state data (startState (race.fin_ms data)) data = race.seen data
      rw [Function.update_self, start]
    bound := sound.bound
    fresh := fun still => absurd entered still
    ended := sound.ended
    intKept := fun _ => sound.intKept late
    finKept := fun _ => sound.finKept (.inl stage) }

theorem sound_setter (race after : Race δ) (data : δ) (sound : Sound race data) (taken : race.setter data = some after) :
    Sound after data := by
  cases stage : race.stage data with
  | idle => simp [Race.setter, stage] at taken
  | testInt =>
      simp only [Race.setter, stage, Option.some.injEq] at taken
      subst taken
      exact sound_test race data (.intTimer data) .stopInt .testFin sound (by rw [stage]; rfl) rfl rfl (by rw [stage]; rfl)
        (by rw [stage]; simp [Stage.may])
  | stopInt =>
      simp only [Race.setter, stage, Option.some.injEq] at taken
      subst taken
      exact sound_stop race data (.intTimer data) .testFin sound (by rw [stage]; rfl) rfl (by rw [stage]; simp [Stage.may])
  | testFin =>
      simp only [Race.setter, stage, Option.some.injEq] at taken
      subst taken
      exact sound_test race data (.finTimer data) .stopFin .changeInt sound (by rw [stage]; rfl) rfl rfl (by rw [stage]; rfl)
        (by rw [stage]; simp [Stage.may])
  | stopFin =>
      simp only [Race.setter, stage, Option.some.injEq] at taken
      subst taken
      exact sound_stop race data (.finTimer data) .changeInt sound (by rw [stage]; rfl) rfl (by rw [stage]; simp [Stage.may])
  | changeInt =>
      simp only [Race.setter, stage] at taken
      obtain ⟨between, changed, rfl⟩ := Option.map_eq_some_iff.mp taken
      exact sound_change_int race between data sound stage changed
  | changeFin =>
      simp only [Race.setter, stage] at taken
      obtain ⟨between, changed, rfl⟩ := Option.map_eq_some_iff.mp taken
      exact sound_change_fin race between data sound stage changed
  | writeState =>
      simp only [Race.setter, stage, Option.some.injEq] at taken
      subst taken
      exact sound_write race data sound stage

theorem sound_callback (race after : Race δ) (data : δ) (sound : Sound race data) (timely : Timely race .callback)
    (taken : race.callback = some after) : Sound after data := by
  obtain ⟨timer, call, fires, _⟩ := callback_some race after taken
  cases mine : own data timer with
  | true => exact sound_own_callback race after data timer call sound fires mine timely taken
  | false => exact sound_foreign_callback race after data timer call sound fires mine taken

theorem sound_step (race after : Race δ) (action : Action δ) (data : δ) (sound : Sound race data) (timely : Timely race action)
    (taken : raceStep race action = some after) : Sound after data := by
  cases action with
  | tick =>
      obtain rfl := Option.some.inj taken
      exact sound_same race _ data sound (same_tick race data)
  | expire => exact sound_expire race after data sound taken
  | callback => exact sound_callback race after data sound timely taken
  | setDelay other int_ms fin_ms =>
      simp only [raceStep] at taken
      split at taken
      case isFalse => cases taken
      case isTrue idle =>
        obtain rfl := Option.some.inj taken
        by_cases same : data = other
        · subst same
          exact sound_begin race data int_ms fin_ms sound idle
        · exact sound_same race _ data sound (same_begin race data other int_ms fin_ms same)
  | setter other =>
      by_cases same : data = other
      · subst same
        exact sound_setter race after data sound taken
      · exact sound_same race after data sound (same_setter race after data other same taken)

end Own

section Whole

-- What the setter's steps come to with nothing between them.
def Ends (race : Race δ) (data : δ) (after : World δ) : Prop :=
  ∃ steps final, run raceStep race (List.replicate steps (.setter data)) = some final ∧
    final.stage data = .idle ∧ (⟨final.timers, final.state⟩ : World δ) = after

theorem ends_step (race next : Race δ) (data : δ) (after : World δ) (taken : race.setter data = some next)
    (later : Ends next data after) : Ends race data after := by
  obtain ⟨steps, final, ran, idle, same⟩ := later
  refine ⟨steps + 1, final, ?_, idle, same⟩
  rw [List.replicate_succ, run, show raceStep race (.setter data) = some next from taken]
  exact ran

theorem ends_write (race : Race δ) (data : δ) (stage : race.stage data = .writeState) :
    Ends race data ⟨race.timers, Function.update race.state data (startState (race.fin_ms data))⟩ := by
  have written : race.setter data =
      some ({ race with state := Function.update race.state data (startState (race.fin_ms data)) }.enter data .idle) := by
    simp only [Race.setter, stage]
  exact ends_step race _ data _ written ⟨0, _, rfl, Function.update_self data _ _, rfl⟩

theorem arm_changes (race : Race δ) (timers : Timers (TimerHandle δ)) (timer : TimerHandle δ) (period given : Nat)
    (changed : (if given > 0 then race.timers.changePeriod timer period else some race.timers) = some timers) :
    ∃ armedBy, (if given > 0 then race.arm timer period else some race) =
      some { race with timers := timers, armedBy := armedBy } := by
  split at changed
  case isTrue asked =>
    refine ⟨Function.update race.armedBy timer (race.calls (pvTimerGetTimerId timer)), ?_⟩
    rw [if_pos asked, Race.arm, changed]
    rfl
  case isFalse asked =>
    obtain rfl := Option.some.inj changed
    exact ⟨race.armedBy, if_neg asked⟩

theorem ends_change_fin (race : Race δ) (data : δ) (second : Timers (TimerHandle δ)) (stage : race.stage data = .changeFin)
    (changed : (if race.fin_ms data > 0 then race.timers.changePeriod (.finTimer data) (race.int_ms data)
      else some race.timers) = some second) :
    Ends race data ⟨second, Function.update race.state data (startState (race.fin_ms data))⟩ := by
  obtain ⟨armedBy, armed⟩ := arm_changes race second _ _ _ changed
  have taken : race.setter data = some ({ race with timers := second, armedBy := armedBy }.enter data .writeState) := by
    simp only [Race.setter, stage, armed, Option.map_some]
  exact ends_step race _ data _ taken (ends_write _ data (Function.update_self data _ _))

theorem ends_change_int (race : Race δ) (data : δ) (first second : Timers (TimerHandle δ)) (stage : race.stage data = .changeInt)
    (changedInt : (if race.int_ms data > 0 then race.timers.changePeriod (.intTimer data) (race.int_ms data)
      else some race.timers) = some first)
    (changedFin : (if race.fin_ms data > 0 then first.changePeriod (.finTimer data) (race.int_ms data)
      else some first) = some second) :
    Ends race data ⟨second, Function.update race.state data (startState (race.fin_ms data))⟩ := by
  obtain ⟨armedBy, armed⟩ := arm_changes race first _ _ _ changedInt
  have taken : race.setter data = some ({ race with timers := first, armedBy := armedBy }.enter data .changeFin) := by
    simp only [Race.setter, stage, armed, Option.map_some]
  exact ends_step race _ data _ taken (ends_change_fin _ data second (Function.update_self data _ _) changedFin)

theorem ends_stop_fin (race : Race δ) (data : δ) (first second : Timers (TimerHandle δ)) (stage : race.stage data = .testFin)
    (changedInt : (if race.int_ms data > 0 then
        (xTimerStop race.timers (.finTimer data)).changePeriod (.intTimer data) (race.int_ms data)
      else some (xTimerStop race.timers (.finTimer data))) = some first)
    (changedFin : (if race.fin_ms data > 0 then first.changePeriod (.finTimer data) (race.int_ms data)
      else some first) = some second) :
    Ends race data ⟨second, Function.update race.state data (startState (race.fin_ms data))⟩ := by
  cases active : race.timers.isActive (.finTimer data) with
  | true =>
      rw [show xTimerStop race.timers (.finTimer data) = race.timers.stop (.finTimer data) from if_pos active] at changedInt
      refine ends_step race (race.enter data .stopFin) data _ (by simp [Race.setter, stage, active]) ?_
      have entered : (race.enter data .stopFin).stage data = .stopFin := Function.update_self data _ _
      have stopped : (race.enter data .stopFin).setter data =
          some (((race.enter data .stopFin).stop (.finTimer data)).enter data .changeInt) := by
        simp only [Race.setter, entered]
      exact ends_step _ _ data _ stopped
        (ends_change_int _ data first second (Function.update_self data _ _) changedInt changedFin)
  | false =>
      rw [show xTimerStop race.timers (.finTimer data) = race.timers from if_neg (by simp [active])] at changedInt
      refine ends_step race (race.enter data .changeInt) data _ (by simp [Race.setter, stage, active]) ?_
      exact ends_change_int _ data first second (Function.update_self data _ _) changedInt changedFin

theorem ends_stop_int (race : Race δ) (data : δ) (first second : Timers (TimerHandle δ)) (stage : race.stage data = .testInt)
    (changedInt : (if race.int_ms data > 0 then
        (xTimerStop (xTimerStop race.timers (.intTimer data)) (.finTimer data)).changePeriod (.intTimer data) (race.int_ms data)
      else some (xTimerStop (xTimerStop race.timers (.intTimer data)) (.finTimer data))) = some first)
    (changedFin : (if race.fin_ms data > 0 then first.changePeriod (.finTimer data) (race.int_ms data)
      else some first) = some second) :
    Ends race data ⟨second, Function.update race.state data (startState (race.fin_ms data))⟩ := by
  cases active : race.timers.isActive (.intTimer data) with
  | true =>
      rw [show xTimerStop race.timers (.intTimer data) = race.timers.stop (.intTimer data) from if_pos active] at changedInt
      refine ends_step race (race.enter data .stopInt) data _ (by simp [Race.setter, stage, active]) ?_
      have entered : (race.enter data .stopInt).stage data = .stopInt := Function.update_self data _ _
      have stopped : (race.enter data .stopInt).setter data =
          some (((race.enter data .stopInt).stop (.intTimer data)).enter data .testFin) := by
        simp only [Race.setter, entered]
      exact ends_step _ _ data _ stopped
        (ends_stop_fin _ data first second (Function.update_self data _ _) changedInt changedFin)
  | false =>
      rw [show xTimerStop race.timers (.intTimer data) = race.timers from if_neg (by simp [active])] at changedInt
      refine ends_step race (race.enter data .testFin) data _ (by simp [Race.setter, stage, active]) ?_
      exact ends_stop_fin _ data first second (Function.update_self data _ _) changedInt changedFin

theorem set_delay_whole (race : Race δ) (data : δ) (int_ms fin_ms : Nat) (after : World δ) (idle : race.stage data = .idle)
    (set : setDelay ⟨race.timers, race.state⟩ data int_ms fin_ms = some after) :
    ∃ started, raceStep race (.setDelay data int_ms fin_ms) = some started ∧ Ends started data after := by
  obtain ⟨first, second, changedInt, changedFin, rfl⟩ := set_delay_parts _ after data int_ms fin_ms set
  refine ⟨race.begin data int_ms fin_ms, if_pos idle, ?_⟩
  have int : (race.begin data int_ms fin_ms).int_ms data = int_ms := Function.update_self data _ _
  have fin : (race.begin data int_ms fin_ms).fin_ms data = fin_ms := Function.update_self data _ _
  have ends := ends_stop_int (race.begin data int_ms fin_ms) data first second (Function.update_self data _ _)
    (by rw [int]; exact changedInt) (by rw [int, fin]; exact changedFin)
  rwa [fin] at ends

end Whole

section Runs

-- The contexts as miso_mbedtls_init_timer leaves them, whatever the state
-- words hold.
def Race.created (state : δ → Int) : Race δ where
  timers := ⟨0, [], .nil⟩
  state := state
  stage := fun _ => .idle
  int_ms := fun _ => 0
  fin_ms := fun _ => 0
  firing := none
  calls := fun _ => 0
  armedBy := fun _ => 0
  seen := state

theorem created_sound (state : δ → Int) (data : δ) : Sound (Race.created state) data where
  busy := fun busy => absurd rfl busy
  shape := List.nil_sublist _
  soon := fun changing => by cases changing
  armed := fun _ _ => ⟨Nat.le_refl _, fun early => by cases early⟩
  current := fun _ entry member => absurd member List.not_mem_nil
  begun := fun entry member => absurd member List.not_mem_nil
  flying := fun _ _ fires => by cases fires
  first := fun fires => by cases fires
  shown := fun _ => rfl
  bound := fun called => absurd called (Nat.lt_irrefl _)
  fresh := fun busy => absurd rfl busy
  ended := fun called => absurd called (Nat.lt_irrefl _)
  intKept := fun _ positive => absurd positive (Nat.lt_irrefl _)
  finKept := fun _ positive => absurd positive (Nat.lt_irrefl _)

-- From the return of set_delay until the next one, get_delay never falls.
def Rising (race : Race δ) (action : Action δ) : Prop := ∀ after, raceStep race action = some after → ∀ data,
  race.stage data = .idle → after.stage data = .idle →
    getDelay ⟨race.timers, race.state⟩ data ≤ getDelay ⟨after.timers, after.state⟩ data

theorem seen_rises (race after : Race δ) (action : Action δ) (data : δ) (idle : race.stage data = .idle)
    (idleAfter : after.stage data = .idle) (taken : raceStep race action = some after) : race.seen data ≤ after.seen data := by
  cases action with
  | tick =>
      obtain rfl := Option.some.inj taken
      exact Int.le_refl _
  | expire =>
      obtain ⟨time, timer, rest, ordered, _, _, _, rfl⟩ := expire_some race after taken
      exact Int.le_refl _
  | callback =>
      obtain ⟨timer, call, _, rfl⟩ := callback_some race after taken
      simp only
      split
      · by_cases same : data = pvTimerGetTimerId timer
        · subst same
          rw [Function.update_self]
          exact Int.le_max_left _ _
        · exact Int.le_of_eq (Function.update_of_ne same _ _).symm
      · exact Int.le_refl _
  | setDelay other int_ms fin_ms =>
      simp only [raceStep] at taken
      split at taken
      case isFalse => cases taken
      case isTrue =>
        obtain rfl := Option.some.inj taken
        by_cases same : data = other
        · subst same
          have begun : (race.begin data int_ms fin_ms).stage data = .testInt := Function.update_self data _ _
          rw [begun] at idleAfter
          cases idleAfter
        · exact Int.le_of_eq (same_begin race data other int_ms fin_ms same).seen.symm
  | setter other =>
      by_cases same : data = other
      · subst same
        simp [raceStep, Race.setter, idle] at taken
      · exact Int.le_of_eq (same_setter race after data other same taken).seen.symm

theorem sound_rising (race : Race δ) (action : Action δ) (sound : ∀ data, Sound race data) (timely : Timely race action) :
    Rising race action := by
  intro after taken data idle idleAfter
  have later := sound_step race after action data (sound data) timely taken
  change race.state data ≤ after.state data
  rw [(sound data).shown idle, later.shown idleAfter]
  exact seen_rises race after action data idle idleAfter taken

theorem expiries_attributed (state : δ → Int) (actions : List (Action δ))
    (timely : StepsMeet raceStep Timely (Race.created state) actions) :
    StatesHold raceStep Attributed (Race.created state) actions ∧ StepsMeet raceStep Rising (Race.created state) actions := by
  have start : ∀ data, Sound (Race.created state) data := created_sound state
  have kept (race : Race δ) (action : Action δ) (after : Race δ) (sound : ∀ data, Sound race data) (met : Timely race action)
      (taken : raceStep race action = some after) (data : δ) : Sound after data :=
    sound_step race after action data (sound data) met taken
  exact ⟨steps_meet_states_hold raceStep _ Attributed Timely kept sound_attributed _ actions start timely,
    steps_meet_implied raceStep _ Timely Rising kept sound_rising _ actions start timely⟩

instance (race : Race δ) (action : Action δ) : Decidable (Timely race action) :=
  match action with
  | .tick | .expire | .setDelay _ _ _ | .setter _ => inferInstanceAs (Decidable True)
  | .callback =>
      match fires : race.firing with
      | none => isTrue fun timer call fired => by simp [fires] at fired
      | some (timer, call) =>
          decidable_of_iff (call = race.calls (pvTimerGetTimerId timer) ↔ race.stage (pvTimerGetTimerId timer) = .idle)
            (by simp [Timely, fires])

-- set_delay without interruption, then both expiries.
def wholeDelay : List (Action Unit) :=
  Action.setDelay () 1 2 :: List.replicate 5 (Action.setter ()) ++ [Action.tick, .expire, .callback, .expire, .callback]

theorem expiries_attributed_whole :
    StatesHold raceStep Attributed (Race.created fun _ : Unit => timerCancelled) wholeDelay ∧
      StepsMeet raceStep Rising (Race.created fun _ : Unit => timerCancelled) wholeDelay :=
  expiries_attributed _ wholeDelay (by decide +kernel)

-- Both timers expire before the state is written.
def earlyExpiry : List (Action Unit) :=
  Action.setDelay () 1 2 :: List.replicate 4 (Action.setter ()) ++
    [Action.tick, .expire, .callback, .expire, .callback, .setter ()]

-- The intermediate callback of the first call runs after the second call.
def lateCallback : List (Action Unit) :=
  Action.setDelay () 1 2 :: List.replicate 5 (Action.setter ()) ++ [Action.tick, .expire, .setDelay () 5 9] ++
    List.replicate 6 (Action.setter ()) ++ [Action.callback]

theorem shown_differs (actions : List (Action Unit)) (shown seen : Int) (different : shown ≠ seen)
    (ran : (run raceStep (Race.created fun _ : Unit => timerCancelled) actions).map
      (fun race => (race.stage (), race.state (), race.seen ())) = some (.idle, shown, seen)) :
    ¬ StatesHold raceStep Attributed (Race.created fun _ : Unit => timerCancelled) actions := by
  intro along
  obtain ⟨final, last, facts⟩ := Option.map_eq_some_iff.mp ran
  obtain ⟨idle, state, outcome⟩ : final.stage () = .idle ∧ final.state () = shown ∧ final.seen () = seen := by simpa using facts
  have attributed := (states_hold_last raceStep Attributed _ final actions along last () idle).1
  exact different (by rw [← state, ← outcome]; exact attributed)

theorem expiry_overwritten :
    ¬ StatesHold raceStep Attributed (Race.created fun _ : Unit => timerCancelled) earlyExpiry ∧
      ¬ StatesHold raceStep Attributed (Race.created fun _ : Unit => timerCancelled) lateCallback :=
  ⟨shown_differs earlyExpiry timerNormal timerFinalDelayPassed (by decide) (by decide +kernel),
    shown_differs lateCallback timerIntermediatePassed timerNormal (by decide) (by decide +kernel)⟩

end Runs

end

end Miso.Timing
