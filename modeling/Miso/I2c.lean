import Mathlib.Logic.Function.Basic
import Miso.Base.Queue
import Miso.Base.Run

set_option autoImplicit false

namespace Miso.I2c

open Base (Queue Step run StatesHold StepsMeet steps_meet_states_hold states_hold_last)

inductive TransferReturn where
  | inProgress
  | done
  | nack
  | busErr
  | arbLost
  | usageFault
  | swFault
deriving DecidableEq

def TransferReturn.value : TransferReturn → Int
  | .inProgress => 1
  | .done => 0
  | .nack => -1
  | .busErr => -2
  | .arbLost => -3
  | .usageFault => -4
  | .swFault => -5

-- Where a task stands in board_i2c0_transfer, with the transfer its call has
-- started (none for a sequence that I2C_TransferInit refuses) and ret.
inductive Stage where
  | idle
  | take
  | enableIrq
  | transferInit
  | evaluate (own : Nat)
  | receive (own : Nat)
  | poll (own : Nat)
  | clearPending (own : Option Nat) (ret : TransferReturn)
  | disableIrq (own : Option Nat) (ret : TransferReturn)
  | give (own : Option Nat) (ret : TransferReturn)
  | returned (own : Option Nat) (ret : TransferReturn)
deriving DecidableEq

-- Transfers are numbered as they are started. I2C_Transfer says how the
-- current one stands.
structure State (ι : Type) where
  mutex : Option ι
  stage : ι → Stage
  irqEnabled : Bool
  transfer : Nat
  results : Nat → TransferReturn
  semaphore : Queue TransferReturn 1

inductive Action (ι : Type) where
  | call (task : ι)
  | timeout (task : ι)
  | refuse (task : ι)
  | task (task : ι)
  | finish (ret : TransferReturn)
  | irq

section

variable {ι : Type} [DecidableEq ι]

def State.i2cTransfer (state : State ι) : TransferReturn := state.results state.transfer

def State.enter (state : State ι) (task : ι) (stage : Stage) : State ι :=
  { state with stage := Function.update state.stage task stage }

-- I2C_TransferInit makes a new transfer the current one; its last statement is
-- a call of I2C_Transfer.
def State.start (state : State ι) : State ι :=
  { state with
    transfer := state.transfer + 1
    results := Function.update state.results (state.transfer + 1) .inProgress }

def branch (own : Nat) (ret : TransferReturn) : Stage :=
  if ret.value > 0 then .receive own else if ret.value = 0 then .poll own else .clearPending (some own) ret

def taskStep (state : State ι) (task : ι) : Option (State ι) :=
  match state.stage task with
  | .idle | .returned _ _ => none
  | .take => if state.mutex = none then some ({ state with mutex := some task }.enter task .enableIrq) else none
  | .enableIrq => some ({ state with irqEnabled := true }.enter task .transferInit)
  | .transferInit => some (state.start.enter task (.evaluate (state.transfer + 1)))
  | .evaluate own => some (state.enter task (branch own state.i2cTransfer))
  | .receive own => state.semaphore.receive.map fun taken =>
      { state with semaphore := taken.2 }.enter task (.clearPending (some own) taken.1)
  | .poll own => some (state.enter task (.clearPending (some own) state.i2cTransfer))
  | .clearPending own ret => some (state.enter task (.disableIrq own ret))
  | .disableIrq own ret => some ({ state with irqEnabled := false }.enter task (.give own ret))
  | .give own ret => some ({ state with mutex := none }.enter task (.returned own ret))

-- A result for which there is no room is dropped.
def irqStep (state : State ι) : Option (State ι) :=
  if state.irqEnabled then
    some (if state.i2cTransfer ≠ .inProgress then
      { state with semaphore := (state.semaphore.send state.i2cTransfer).getD state.semaphore }
    else state)
  else none

def step : Step (State ι) (Action ι) := fun state action =>
  match action with
  | .call task => match state.stage task with
      | .idle | .returned _ _ => some (state.enter task .take)
      | _ => none
  | .timeout task => if state.stage task = .take then some (state.enter task (.returned none .swFault)) else none
  | .refuse task =>
      if state.stage task = .transferInit then some (state.enter task (.clearPending none .usageFault)) else none
  | .task task => taskStep state task
  | .finish ret =>
      if state.i2cTransfer = .inProgress ∧ ret ≠ .inProgress then
        some { state with results := Function.update state.results state.transfer ret }
      else none
  | .irq => irqStep state

-- A call returns the result of its own transfer, and leaves none behind.
structure Matched (state : State ι) : Prop where
  empty : state.mutex = none → state.semaphore.items = []
  own : ∀ task own ret, state.stage task = .returned (some own) ret → ret ≠ .inProgress ∧ state.results own = ret

def Stage.waiting : Stage → Bool
  | .receive _ => true
  | _ => false

-- The handler posts a result only while the caller waits for it.
def Awaited (state : State ι) : Action ι → Prop
  | .irq => state.i2cTransfer ≠ .inProgress → state.semaphore.items = [] →
      state.mutex.any (fun task => (state.stage task).waiting) = true
  | _ => True

instance (state : State ι) (action : Action ι) : Decidable (Awaited state action) :=
  match action with
  | .irq => inferInstanceAs (Decidable (_ → _ → _))
  | .call _ | .timeout _ | .refuse _ | .task _ | .finish _ => inferInstanceAs (Decidable True)

omit [DecidableEq ι] in
theorem waiting_holder (state : State ι) (waits : state.mutex.any (fun task => (state.stage task).waiting) = true) :
    ∃ task own, state.mutex = some task ∧ state.stage task = .receive own := by
  cases held : state.mutex with
  | none => simp [held] at waits
  | some task =>
      rw [held, Option.any_some] at waits
      cases position : state.stage task with
      | receive own => exact ⟨task, own, rfl, position⟩
      | _ => simp [position, Stage.waiting] at waits

def Stage.inside : Stage → Bool
  | .idle | .take | .returned _ _ => false
  | _ => true

def Stage.current : Stage → Option Nat
  | .evaluate own | .receive own | .poll own => some own
  | _ => none

def Stage.outcome : Stage → Option (Nat × TransferReturn)
  | .clearPending own ret | .disableIrq own ret | .give own ret | .returned own ret => own.map fun own => (own, ret)
  | _ => none

structure Inv (state : State ι) : Prop where
  holder : ∀ task, (state.stage task).inside = true ↔ state.mutex = some task
  current : ∀ task own, (state.stage task).current = some own → own = state.transfer
  polled : ∀ task own, state.stage task = .poll own → state.i2cTransfer ≠ .inProgress
  outcome : ∀ task own ret, (state.stage task).outcome = some (own, ret) →
    ret ≠ .inProgress ∧ state.results own = ret ∧ own ≤ state.transfer
  queued : ∀ ret ∈ state.semaphore.items, ret = state.i2cTransfer ∧ ret ≠ .inProgress ∧
    ∃ task own, state.mutex = some task ∧ state.stage task = .receive own

omit [DecidableEq ι] in
theorem inv_matched (state : State ι) (inv : Inv state) : Matched state where
  empty := by
    intro free
    refine List.eq_nil_iff_forall_not_mem.mpr fun ret member => ?_
    obtain ⟨_, _, task, _, held, _⟩ := inv.queued ret member
    rw [free] at held
    cases held
  own := by
    intro task own ret returned
    have outcome := inv.outcome task own ret (by rw [returned]; rfl)
    exact ⟨outcome.1, outcome.2.1⟩

omit [DecidableEq ι] in
-- Nothing is queued unless the holder of the mutex is waiting for it.
theorem queue_empty (state : State ι) (inv : Inv state)
    (elsewhere : ∀ task own, state.mutex = some task → state.stage task ≠ .receive own) : state.semaphore.items = [] := by
  refine List.eq_nil_iff_forall_not_mem.mpr fun ret member => ?_
  obtain ⟨_, _, task, own, held, waits⟩ := inv.queued ret member
  exact elsewhere task own held waits

theorem inv_enter (state : State ι) (task : ι) (stage : Stage) (mutex : Option ι) (irqEnabled : Bool)
    (semaphore : Queue TransferReturn 1) (inv : Inv state) (holds : stage.inside = true ↔ mutex = some task)
    (others : ∀ other, other ≠ task → (mutex = some other ↔ state.mutex = some other))
    (current : ∀ own, stage.current = some own → own = state.transfer)
    (polled : ∀ own, stage = .poll own → state.i2cTransfer ≠ .inProgress)
    (outcome : ∀ own ret, stage.outcome = some (own, ret) → ret ≠ .inProgress ∧ state.results own = ret ∧ own ≤ state.transfer)
    (queued : ∀ ret ∈ semaphore.items, ret ∈ state.semaphore.items ∧ state.mutex ≠ some task) :
    Inv ({ state with mutex := mutex, irqEnabled := irqEnabled, semaphore := semaphore }.enter task stage) := by
  have here : Function.update state.stage task stage task = stage := Function.update_self task stage state.stage
  have elsewhere (other : ι) (different : other ≠ task) : Function.update state.stage task stage other = state.stage other :=
    Function.update_of_ne different _ _
  exact {
    holder := by
      intro other
      change (Function.update state.stage task stage other).inside = true ↔ mutex = some other
      by_cases same : other = task
      · rw [same, here]
        exact holds
      · rw [elsewhere other same, others other same]
        exact inv.holder other
    current := by
      intro other own
      change (Function.update state.stage task stage other).current = some own → own = state.transfer
      by_cases same : other = task
      · rw [same, here]
        exact current own
      · rw [elsewhere other same]
        exact inv.current other own
    polled := by
      intro other own
      change Function.update state.stage task stage other = .poll own → state.i2cTransfer ≠ .inProgress
      by_cases same : other = task
      · rw [same, here]
        exact polled own
      · rw [elsewhere other same]
        exact inv.polled other own
    outcome := by
      intro other own ret
      change (Function.update state.stage task stage other).outcome = some (own, ret) → _
      by_cases same : other = task
      · rw [same, here]
        exact outcome own ret
      · rw [elsewhere other same]
        exact inv.outcome other own ret
    queued := by
      intro ret member
      obtain ⟨old, free⟩ := queued ret member
      obtain ⟨equal, final, other, own, held, waits⟩ := inv.queued ret old
      have different : other ≠ task := fun same => free (same ▸ held)
      exact ⟨equal, final, other, own, (others other different).mpr held, (elsewhere other different).trans waits⟩ }

-- A step of the holder within the call.
theorem inv_inside (state : State ι) (task : ι) (stage : Stage) (irqEnabled : Bool) (semaphore : Queue TransferReturn 1)
    (inv : Inv state) (before : (state.stage task).inside = true) (after : stage.inside = true)
    (current : ∀ own, stage.current = some own → own = state.transfer)
    (polled : ∀ own, stage = .poll own → state.i2cTransfer ≠ .inProgress)
    (outcome : ∀ own ret, stage.outcome = some (own, ret) → ret ≠ .inProgress ∧ state.results own = ret ∧ own ≤ state.transfer)
    (empty : semaphore.items = []) :
    Inv ({ state with irqEnabled := irqEnabled, semaphore := semaphore }.enter task stage) :=
  inv_enter state task stage state.mutex irqEnabled semaphore inv (iff_of_true after ((inv.holder task).mp before))
    (fun _ _ => Iff.rfl) current polled outcome (by simp [empty])

theorem inv_outside (state : State ι) (task : ι) (stage : Stage) (inv : Inv state) (before : (state.stage task).inside = false)
    (after : stage.inside = false) (current : stage.current = none) (outcome : stage.outcome = none) :
    Inv (state.enter task stage) := by
  have free : state.mutex ≠ some task := fun held => by simp [(inv.holder task).mpr held] at before
  refine inv_enter state task stage state.mutex state.irqEnabled state.semaphore inv ?_ (fun _ _ => Iff.rfl) ?_ ?_ ?_
    (fun _ member => ⟨member, free⟩)
  · rw [after]
    exact iff_of_false (fun no => by cases no) free
  · rw [current]
    exact fun _ none => by cases none
  · rintro own rfl
    cases current
  · rw [outcome]
    exact fun _ _ none => by cases none

omit [DecidableEq ι] in
theorem holder_queue (state : State ι) (task : ι) (inv : Inv state) (inside : (state.stage task).inside = true)
    (elsewhere : ∀ own, state.stage task ≠ .receive own) : state.semaphore.items = [] := by
  have held := (inv.holder task).mp inside
  refine queue_empty state inv fun other own holds waits => ?_
  obtain rfl : task = other := Option.some.inj (held.symm.trans holds)
  exact elsewhere own waits

omit [DecidableEq ι] in
theorem inv_start (state : State ι) (task : ι) (inv : Inv state) (stage : state.stage task = .transferInit) :
    Inv state.start := by
  have inside : (state.stage task).inside = true := by rw [stage]; rfl
  have held := (inv.holder task).mp inside
  have alone (other : ι) (own : Nat) (running : (state.stage other).current = some own) : False := by
    have holds : (state.stage other).inside = true := by
      cases position : state.stage other <;> simp [position, Stage.current, Stage.inside] at running ⊢
    obtain rfl : task = other := Option.some.inj (held.symm.trans ((inv.holder other).mp holds))
    rw [stage] at running
    cases running
  have empty := holder_queue state task inv inside (by simp [stage])
  exact {
    holder := inv.holder
    current := fun other own running => (alone other own running).elim
    polled := by
      intro other own polls
      exact (alone other own (by rw [show state.stage other = .poll own from polls]; rfl)).elim
    outcome := by
      intro other own ret ended
      obtain ⟨final, same, bound⟩ := inv.outcome other own ret ended
      refine ⟨final, ?_, Nat.le_succ_of_le bound⟩
      change Function.update state.results (state.transfer + 1) .inProgress own = ret
      rw [Function.update_of_ne (by omega), same]
    queued := by
      intro ret member
      rw [show state.start.semaphore = state.semaphore from rfl, empty] at member
      exact absurd member List.not_mem_nil }

-- A step of the holder to a stage that waits for no transfer.
theorem inv_passing (state : State ι) (task : ι) (before stage : Stage) (irqEnabled : Bool) (inv : Inv state)
    (position : state.stage task = before) (inside : before.inside = true) (elsewhere : ∀ own, before ≠ .receive own)
    (after : stage.inside = true) (awaits : stage.current = none)
    (outcome : ∀ own ret, stage.outcome = some (own, ret) → ret ≠ .inProgress ∧ state.results own = ret ∧ own ≤ state.transfer) :
    Inv ({ state with irqEnabled := irqEnabled }.enter task stage) := by
  subst position
  refine inv_inside state task stage irqEnabled state.semaphore inv inside after ?_ ?_ outcome
    (holder_queue state task inv inside elsewhere)
  · rw [awaits]
    exact fun _ none => by cases none
  · rintro own rfl
    cases awaits

omit [DecidableEq ι] in
-- What I2C_Transfer gave for the current transfer is its result.
theorem settled (state : State ι) (own : Nat) (ret : TransferReturn) (mine : own = state.transfer)
    (result : ret = state.i2cTransfer) (final : ret ≠ .inProgress) (other : Nat) (value : TransferReturn)
    (same : (Stage.clearPending (some own) ret).outcome = some (other, value)) :
    value ≠ .inProgress ∧ state.results other = value ∧ other ≤ state.transfer := by
  obtain ⟨rfl, rfl⟩ := Prod.mk.inj (Option.some.inj same)
  refine ⟨final, ?_, Nat.le_of_eq mine⟩
  rw [mine, result]
  rfl

theorem inv_task (state after : State ι) (task : ι) (inv : Inv state) (taken : taskStep state task = some after) : Inv after := by
  have unsettled (own : Nat) (ret : TransferReturn) (none : (none : Option (Nat × TransferReturn)) = some (own, ret)) :
      ret ≠ .inProgress ∧ state.results own = ret ∧ own ≤ state.transfer := by cases none
  have mine (own : Nat) (runs : (state.stage task).current = some own) : own = state.transfer := inv.current task own runs
  cases position : state.stage task with
  | idle | returned own ret => simp [taskStep, position] at taken
  | take =>
      simp only [taskStep, position] at taken
      split at taken
      case isFalse => cases taken
      case isTrue free =>
        obtain rfl := Option.some.inj taken
        have empty := (inv_matched state inv).empty free
        refine inv_enter state task .enableIrq (some task) state.irqEnabled state.semaphore inv (iff_of_true rfl rfl) ?_
          (fun _ none => by cases none) (fun _ polls => by cases polls) unsettled (by simp [empty])
        intro other different
        rw [free]
        exact iff_of_false (fun same => different (Option.some.inj same).symm) (fun none => by cases none)
  | enableIrq =>
      simp only [taskStep, position, Option.some.injEq] at taken
      subst taken
      exact inv_passing state task .enableIrq .transferInit true inv position rfl nofun rfl rfl unsettled
  | transferInit =>
      have inside : (state.stage task).inside = true := by rw [position]; rfl
      simp only [taskStep, position, Option.some.injEq] at taken
      subst taken
      have started := inv_start state task inv position
      refine inv_inside state.start task (.evaluate (state.transfer + 1)) state.irqEnabled state.semaphore started inside rfl ?_
        (fun _ polls => by cases polls) (fun _ _ none => by cases none)
        (holder_queue state task inv inside (by simp [position]))
      exact fun own same => (Option.some.inj same).symm
  | evaluate own =>
      have inside : (state.stage task).inside = true := by rw [position]; rfl
      have current := mine own (by rw [position]; rfl)
      have empty := holder_queue state task inv inside (by simp [position])
      simp only [taskStep, position, Option.some.injEq] at taken
      subst taken
      simp only [branch]
      split
      case isTrue =>
        exact inv_inside state task (.receive own) state.irqEnabled state.semaphore inv inside rfl
          (fun other same => (Option.some.inj same).symm.trans current) (fun _ polls => by cases polls) unsettled empty
      case isFalse final =>
        have ended : state.i2cTransfer ≠ .inProgress := by
          intro progress
          rw [progress] at final
          exact final (by decide)
        split
        · exact inv_inside state task (.poll own) state.irqEnabled state.semaphore inv inside rfl
            (fun other same => (Option.some.inj same).symm.trans current) (fun _ _ => ended) unsettled empty
        · exact inv_passing state task _ (.clearPending (some own) state.i2cTransfer) state.irqEnabled inv position rfl nofun rfl rfl
            (settled state own _ current rfl ended)
  | receive own =>
      have inside : (state.stage task).inside = true := by rw [position]; rfl
      simp only [taskStep, position] at taken
      obtain ⟨⟨ret, rest⟩, received, rfl⟩ := Option.map_eq_some_iff.mp taken
      have items := Queue.receive_some state.semaphore rest ret received
      obtain ⟨equal, final, _⟩ := inv.queued ret (by rw [items]; exact List.mem_cons_self)
      have empty : rest.items = [] := by
        rcases Queue.single_cases state.semaphore with none | ⟨item, one⟩
        · rw [none] at items
          cases items
        · rw [one] at items
          exact (List.cons.inj items).2.symm
      exact inv_inside state task (.clearPending (some own) ret) state.irqEnabled rest inv inside rfl (fun _ none => by cases none)
        (fun _ polls => by cases polls) (settled state own ret (mine own (by rw [position]; rfl)) equal final) empty
  | poll own =>
      have ended := inv.polled task own position
      have current := mine own (by rw [position]; rfl)
      simp only [taskStep, position, Option.some.injEq] at taken
      subst taken
      exact inv_passing state task _ (.clearPending (some own) state.i2cTransfer) state.irqEnabled inv position rfl nofun rfl rfl
        (settled state own _ current rfl ended)
  | clearPending own ret =>
      have outcome := inv.outcome task
      rw [position] at outcome
      simp only [taskStep, position, Option.some.injEq] at taken
      subst taken
      exact inv_passing state task _ (.disableIrq own ret) state.irqEnabled inv position rfl nofun rfl rfl outcome
  | disableIrq own ret =>
      have outcome := inv.outcome task
      rw [position] at outcome
      simp only [taskStep, position, Option.some.injEq] at taken
      subst taken
      exact inv_passing state task _ (.give own ret) false inv position rfl nofun rfl rfl outcome
  | give own ret =>
      have inside : (state.stage task).inside = true := by rw [position]; rfl
      have held := (inv.holder task).mp inside
      have outcome := inv.outcome task
      rw [position] at outcome
      have empty := holder_queue state task inv inside (by simp [position])
      simp only [taskStep, position, Option.some.injEq] at taken
      subst taken
      refine inv_enter state task (.returned own ret) none state.irqEnabled state.semaphore inv
        (iff_of_false (fun no => by cases no) (fun no => by cases no)) ?_ (fun _ none => by cases none) (fun _ polls => by cases polls)
        outcome (by simp [empty])
      intro other different
      rw [held]
      exact iff_of_false (fun no => by cases no) (fun same => different (Option.some.inj same).symm)

theorem inv_call (state after : State ι) (task : ι) (inv : Inv state) (taken : step state (.call task) = some after) : Inv after := by
  cases position : state.stage task with
  | idle | returned _ _ =>
      simp only [step, position, Option.some.injEq] at taken
      subst taken
      exact inv_outside state task .take inv (by rw [position]; rfl) rfl rfl rfl
  | take | enableIrq | transferInit | evaluate _ | receive _ | poll _ | clearPending _ _ | disableIrq _ _ | give _ _ =>
      simp [step, position] at taken

theorem inv_timeout (state after : State ι) (task : ι) (inv : Inv state) (taken : step state (.timeout task) = some after) :
    Inv after := by
  simp only [step] at taken
  split at taken
  case isFalse => cases taken
  case isTrue position =>
    obtain rfl := Option.some.inj taken
    exact inv_outside state task (.returned none .swFault) inv (by rw [position]; rfl) rfl rfl rfl

theorem inv_refuse (state after : State ι) (task : ι) (inv : Inv state) (taken : step state (.refuse task) = some after) :
    Inv after := by
  simp only [step] at taken
  split at taken
  case isFalse => cases taken
  case isTrue position =>
    obtain rfl := Option.some.inj taken
    exact inv_passing state task _ (.clearPending none .usageFault) state.irqEnabled inv position rfl nofun rfl rfl
      (fun _ _ none => by cases none)

theorem inv_finish (state after : State ι) (ret : TransferReturn) (inv : Inv state)
    (taken : step state (.finish ret) = some after) : Inv after := by
  simp only [step] at taken
  split at taken
  case isFalse => cases taken
  case isTrue enabled =>
    obtain rfl := Option.some.inj taken
    exact {
      holder := inv.holder
      current := inv.current
      polled := fun task own polls => absurd enabled.1 (inv.polled task own polls)
      outcome := by
        intro task own value ended
        obtain ⟨final, same, bound⟩ := inv.outcome task own value ended
        have other : own ≠ state.transfer := by
          rintro rfl
          exact final (same.symm.trans enabled.1)
        exact ⟨final, (Function.update_of_ne other _ _).trans same, bound⟩
      queued := by
        intro value member
        obtain ⟨equal, final, _⟩ := inv.queued value member
        exact absurd (equal.trans enabled.1) final }

omit [DecidableEq ι] in
theorem inv_irq (state after : State ι) (inv : Inv state) (awaited : Awaited state .irq) (taken : irqStep state = some after) :
    Inv after := by
  simp only [irqStep] at taken
  split at taken
  case isFalse => cases taken
  case isTrue =>
    obtain rfl := Option.some.inj taken
    split
    case isFalse => exact inv
    case isTrue final =>
      cases sent : state.semaphore.send state.i2cTransfer with
      | none => exact inv
      | some queue =>
          obtain ⟨room, filled⟩ := Queue.send_single state.semaphore queue state.i2cTransfer sent
          refine ⟨inv.holder, inv.current, inv.polled, inv.outcome, ?_⟩
          intro ret member
          change ret ∈ queue.items at member
          rw [filled] at member
          obtain rfl := List.mem_singleton.mp member
          exact ⟨rfl, final, waiting_holder state (awaited final room)⟩

theorem inv_step (state after : State ι) (action : Action ι) (inv : Inv state) (awaited : Awaited state action)
    (taken : step state action = some after) : Inv after := by
  cases action with
  | call task => exact inv_call state after task inv taken
  | timeout task => exact inv_timeout state after task inv taken
  | refuse task => exact inv_refuse state after task inv taken
  | task task => exact inv_task state after task inv taken
  | finish ret => exact inv_finish state after ret inv taken
  | irq => exact inv_irq state after inv awaited taken

-- After board_i2c_init. Before the first transfer I2C_Transfer may say
-- anything.
def State.initial (before : TransferReturn) : State ι where
  mutex := none
  stage := fun _ => .idle
  irqEnabled := false
  transfer := 0
  results := fun transfer => if transfer = 0 then before else .inProgress
  semaphore := .empty

omit [DecidableEq ι] in
theorem initial_inv (before : TransferReturn) : Inv (.initial before : State ι) where
  holder := fun _ => iff_of_false (fun no => by cases no) (fun no => by cases no)
  current := fun _ _ none => by cases none
  polled := fun _ _ polls => by cases polls
  outcome := fun _ _ _ none => by cases none
  queued := fun _ member => absurd member List.not_mem_nil

theorem results_matched (before : TransferReturn) (actions : List (Action ι))
    (awaited : StepsMeet step Awaited (.initial before) actions) : StatesHold step Matched (.initial before) actions :=
  steps_meet_states_hold step Inv Matched Awaited (fun state action after inv met taken => inv_step state after action inv met taken)
    inv_matched _ actions (initial_inv before) awaited

-- The handler posts the result of a transfer the caller waits for.
def awaitedCall : List (Action Unit) :=
  Action.call () :: List.replicate 4 (Action.task ()) ++ [Action.finish .nack, .irq] ++ List.replicate 4 (Action.task ())

theorem results_matched_awaited : StatesHold step Matched (.initial .done) awaitedCall :=
  results_matched .done awaitedCall (by decide)

-- The transfer ends, and the handler posts its result, before I2C_TransferInit
-- asks for it.
def earlyHandler : List (Action Unit) :=
  Action.call () :: List.replicate 3 (Action.task ()) ++ [Action.finish .done, .irq] ++ List.replicate 5 (Action.task ())

def nextCall : List (Action Unit) := .call () :: List.replicate 8 (.task ())

theorem result_left_behind :
    ¬ StatesHold step Matched (.initial .done) earlyHandler ∧
      (run step (.initial .done) (earlyHandler ++ nextCall)).map (fun state => (state.stage (), state.results 2)) =
        some (.returned (some 2) .done, .inProgress) := by
  refine ⟨fun along => ?_, by decide⟩
  have ran : (run step (.initial .done) earlyHandler).map (fun state => (state.mutex, state.semaphore.items)) =
      some (none, [.done]) := by decide
  obtain ⟨final, last, facts⟩ := Option.map_eq_some_iff.mp ran
  obtain ⟨free, left⟩ := Prod.mk.inj facts
  have empty := (states_hold_last step Matched _ final earlyHandler along last).empty free
  rw [left] at empty
  cases empty

end

end Miso.I2c
