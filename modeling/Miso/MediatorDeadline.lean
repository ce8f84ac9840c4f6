import Miso.MediatorWait

set_option autoImplicit false

namespace Miso.Mediator

def Client.waitsOn (position : Client) : Option SlotId := position.waiting.map Prod.fst

-- About to put its request into the slot.
def Client.sending : Client → Option SlotId
  | .sendQueue slot _ => some slot
  | _ => none

-- Between the verdict that a deadline has passed and the answer.
def Manager.timingOut : Manager → Option SlotId
  | .sendTimeout slot | .refusedTimeout slot => some slot
  | _ => none

namespace Deadline

open Base (Queue Step run StatesHold StepsMeet steps_meet_states_hold states_hold_last)

-- xTaskGetTickCount shows the low 32 bits of the ticks since the start.
def xTaskGetTickCount (tick : Nat) : Nat := tick % UInt32.size

-- u32 arithmetic in Zig is checked: an overflow is a panic.
def checkedAdd (left right : Nat) : Option Nat := if left + right < UInt32.size then some (left + right) else none

def checkedMul (left right : Nat) : Option Nat := if left * right < UInt32.size then some (left * right) else none

def deadlineMs (tick timeout_s : Nat) : Option Nat :=
  (checkedMul timeout_s 1024).bind fun span => checkedAdd (xTaskGetTickCount tick) span

structure Call where
  tick : Nat
  timeout_s : Nat
deriving DecidableEq

def Call.sum (call : Call) : Nat := xTaskGetTickCount call.tick + call.timeout_s * 1024

def Call.Due (call : Call) (tick : Nat) : Prop := call.tick + call.timeout_s * 1024 ≤ tick

instance (call : Call) (tick : Nat) : Decidable (call.Due tick) := inferInstanceAs (Decidable (_ ≤ _))

-- The mediator beside the ticks since the start, which its code sees through
-- xTaskGetTickCount. readAt is the tick of the manager's last reading, call
-- the last call of each task.
structure Timed (ι : Type) where
  state : State ι
  tick : Nat
  readAt : Nat
  call : ι → Call
  panicked : Bool

inductive Action (ι : Type) where
  | tick
  | call (client : ι) (timeout_s : Nat)
  | client (client : ι)
  | readTick
  | select (res : Int) (fds : FdSet)
  | manager

section

variable {ι : Type}

def Timed.initial (tick : Nat) : Timed ι where
  state := Mediator.initial
  tick := tick
  readAt := 0
  call := fun _ => ⟨tick, 0⟩
  panicked := false

def Timed.moved (timed : Timed ι) (next : Option (State ι)) : Option (Timed ι) :=
  next.map fun state => { timed with state := state }

def Timed.calling [DecidableEq ι] (timed : Timed ι) (client : ι) (timeout_s : Nat) : Timed ι :=
  { timed with
    call := Function.update timed.call client ⟨timed.tick, timeout_s⟩
    panicked := (deadlineMs timed.tick timeout_s).isNone }

-- Every step is one of the whole mediator's, with the deadline wait_rx has
-- computed and the tick count the manager reads. A panic ends everything.
def step [DecidableEq ι] (sd : ι → Int) : Step (Timed ι) (Action ι) := fun timed action =>
  if timed.panicked then none
  else match action with
    | .tick => some { timed with tick := timed.tick + 1 }
    | .call client timeout_s =>
        if timeout_s < UInt32.size then
          (timed.calling client timeout_s).moved
            (Mediator.step sd timed.state (.call client ⟨(deadlineMs timed.tick timeout_s).getD 0⟩))
        else none
    | .client client => timed.moved (Mediator.step sd timed.state (.client client))
    | .readTick =>
        { timed with readAt := timed.tick }.moved (Mediator.step sd timed.state (.readTick (xTaskGetTickCount timed.tick)))
    | .select res fds => timed.moved (Mediator.step sd timed.state (.select res fds))
    | .manager => timed.moved (Mediator.step sd timed.state .manager)

-- Every deadline computed is a number other than the one for no deadline,
-- and no timeout stands in a slot for a task whose time has not come.
structure Kept (timed : Timed ι) : Prop where
  computed : timed.panicked = false
  nonzero : ∀ client msg, (timed.state.clients client).message = some msg → msg.deadline ≠ 0
  timely : ∀ client slot, (timed.state.clients client).waitsOn = some slot →
    ⟨0⟩ ∈ (timed.state.connections slot).rxSignal.items → (timed.call client).Due timed.tick

-- Nothing of another wait is left in the slot, and no other task waits on it.
structure Fresh (state : State ι) (client : ι) (slot : SlotId) : Prop where
  unarmed : (state.connections slot).rxWaitDeadlineMs = 0
  unanswered : (state.connections slot).rxSignal.items = []
  settled : state.manager.timingOut ≠ some slot
  alone : ∀ other, other ≠ client → (state.clients other).waitsOn ≠ some slot

-- The count the manager works with was read after the call, or does not
-- exceed the deadline.
def Call.Read (call : Call) (readAt : Nat) : Prop := call.tick ≤ readAt ∨ xTaskGetTickCount readAt ≤ call.sum

-- The sum fits and is not 0, a request is sent into a fresh slot, and it is
-- taken in a pass whose tick count is good for it.
def Meets (timed : Timed ι) : Action ι → Prop
  | .call _ timeout_s =>
      xTaskGetTickCount timed.tick + timeout_s * 1024 < UInt32.size ∧ xTaskGetTickCount timed.tick + timeout_s * 1024 ≠ 0
  | .client client => ∀ slot, (timed.state.clients client).sending = some slot → Fresh timed.state client slot
  | .manager => ∀ slot, timed.state.manager = .poll slot → (timed.state.connections slot).rxQueue.items ≠ [] →
      ∀ client, (timed.state.clients client).waitsOn = some slot → (timed.call client).Read timed.readAt
  | .tick | .readTick | .select _ _ => True

theorem deadline_ms_fits (tick timeout_s : Nat) (fits : xTaskGetTickCount tick + timeout_s * 1024 < UInt32.size) :
    deadlineMs tick timeout_s = some (xTaskGetTickCount tick + timeout_s * 1024) := by
  have product : timeout_s * 1024 < UInt32.size := by omega
  simp only [deadlineMs, checkedMul, if_pos product, Option.bind_some, checkedAdd, if_pos fits]

-- A count read after the call that exceeds the deadline is late enough,
-- however often the counter has wrapped in between.
theorem late_enough (call : Call) (readAt : Nat) (after : call.tick ≤ readAt)
    (expired : call.sum < xTaskGetTickCount readAt) : call.Due readAt := by
  simp only [Call.sum, xTaskGetTickCount, UInt32.size] at expired
  unfold Call.Due
  omega

theorem due_later (call : Call) (tick later : Nat) (due : call.Due tick) (order : tick ≤ later) : call.Due later :=
  Nat.le_trans due order

-- What the slot of a waiting task holds of its wait.
structure Waits (timed : Timed ι) (client : ι) (slot : SlotId) : Prop where
  queued : ∀ msg ∈ (timed.state.connections slot).rxQueue.items, msg.deadline = (timed.call client).sum
  armed : (timed.state.connections slot).rxWaitDeadlineMs = 0 ∨
    (timed.state.connections slot).rxWaitDeadlineMs = (timed.call client).sum ∧ (timed.call client).Read timed.readAt
  late : timed.state.manager.timingOut = some slot → (timed.call client).Due timed.tick
  answered : ⟨0⟩ ∈ (timed.state.connections slot).rxSignal.items → (timed.call client).Due timed.tick

structure Inv (timed : Timed ι) : Prop where
  running : timed.panicked = false
  clock : timed.state.pass.currentTime = xTaskGetTickCount timed.readAt
  past : timed.readAt ≤ timed.tick
  called : ∀ client, (timed.call client).tick ≤ timed.tick
  carried : ∀ client msg, (timed.state.clients client).message = some msg →
    msg.deadline = (timed.call client).sum ∧ msg.deadline ≠ 0
  waits : ∀ client slot, (timed.state.clients client).waitsOn = some slot → Waits timed client slot

theorem inv_kept (timed : Timed ι) (inv : Inv timed) : Kept timed where
  computed := inv.running
  nonzero := fun client msg carries => (inv.carried client msg carries).2
  timely := fun client slot waits => (inv.waits client slot waits).answered

theorem initial_inv (tick : Nat) : Inv (.initial tick : Timed ι) where
  running := rfl
  clock := rfl
  past := Nat.zero_le _
  called := fun _ => Nat.le_refl _
  carried := fun _ _ carries => by simp [Timed.initial, Mediator.initial, Client.message] at carries
  waits := fun _ _ waits => by simp [Timed.initial, Mediator.initial, Client.waitsOn, Client.waiting] at waits

theorem sending_request (position : Client) (slot : SlotId) (sends : position.sending = some slot) :
    ∃ msg, position = .sendQueue slot msg := by
  cases position <;> simp_all [Client.sending]

-- What a task's step does to a slot.
structure Touched (position : Client) (slot : SlotId) (before after : ConnectionManagerElement) : Prop where
  deadline : after.rxWaitDeadlineMs = before.rxWaitDeadlineMs
  queue : position.sending ≠ some slot → after.rxQueue = before.rxQueue
  sent : ∀ msg, position = .sendQueue slot msg → after.rxQueue.items = [msg]
  signal : ∀ answer ∈ after.rxSignal.items, answer ∈ before.rxSignal.items

theorem touched_same (position : Client) (slot : SlotId) (conn : ConnectionManagerElement)
    (quiet : position.sending ≠ some slot) : Touched position slot conn conn where
  deadline := rfl
  queue := fun _ => rfl
  sent := fun msg sends => absurd (by rw [sends]; rfl) quiet
  signal := fun _ => id

theorem touched_at (state : State ι) (position : Client) (slot : SlotId) (conn : ConnectionManagerElement)
    (only : ∀ other, position.sending = some other → other = slot)
    (touched : Touched position slot (state.connections slot) conn) (other : SlotId) :
    Touched position other (state.connections other) ((state.setConnection slot conn).connections other) := by
  by_cases same : other = slot
  · subst other
    rwa [set_connection_here]
  · rw [set_connection_elsewhere state slot other conn same]
    exact touched_same position other _ fun sends => same (only other sends)

-- A task goes on with its request, and waits once it has sent it.
structure Advanced (before after : Client) : Prop where
  message : ∀ msg, after.message = some msg → before.message = some msg
  waits : ∀ slot, after.waitsOn = some slot → before.waitsOn = some slot ∨ before.sending = some slot

def Touches [DecidableEq ι] (state : State ι) (client : ι) (after : State ι) : Prop :=
  after.manager = state.manager ∧ after.pass = state.pass ∧
    (∃ position, after.clients = Function.update state.clients client position ∧ Advanced (state.clients client) position) ∧
    ∀ slot, Touched (state.clients client) slot (state.connections slot) (after.connections slot)

-- A step that leaves the slots alone.
theorem touches_quiet [DecidableEq ι] (state after : State ι) (client : ι) (position : Client)
    (quiet : (state.clients client).sending = none) (manager : after.manager = state.manager) (pass : after.pass = state.pass)
    (clients : after.clients = Function.update state.clients client position)
    (connections : after.connections = state.connections) (advanced : Advanced (state.clients client) position) :
    Touches state client after := by
  refine ⟨manager, pass, ⟨position, clients, advanced⟩, fun slot => ?_⟩
  rw [connections]
  exact touched_same _ slot _ (by simp [quiet])

theorem client_touches [DecidableEq ι] (sd : ι → Int) (state after : State ι) (client : ι)
    (taken : clientStep sd state client = some after) : Touches state client after := by
  cases position : state.clients client with
  | idle | returned _ | unreachable => simp [clientStep, position] at taken
  | findSocket slot msg | findFreeSocket slot msg =>
      have goes (next : Client) (kept : next.message = some msg ∨ next.message = none) (runs : next.waitsOn = none) :
          Touches state client (state.setClient client next) := by
        refine touches_quiet state _ client next (by rw [position]; rfl) rfl rfl rfl rfl ⟨fun other carries => ?_, ?_⟩
        · rw [position]
          rcases kept with same | none
          · exact same.symm.trans carries
          · simp [none] at carries
        · simp [runs]
      simp only [clientStep, position] at taken
      split at taken
      · cases taken
        exact goes _ (.inl rfl) rfl
      · split at taken <;> cases taken
        · exact goes _ (.inl rfl) rfl
        · exact goes _ (by simp [Client.message]) rfl
  | takeMutex slot msg =>
      simp only [clientStep, position] at taken
      split at taken <;> cases taken
      exact touches_quiet state _ client _ (by rw [position]; rfl) rfl rfl rfl rfl ⟨fun _ => by simp [position, Client.message],
        fun _ waits => by cases waits⟩
  | giveMutex slot msg =>
      simp only [clientStep, position, Option.some.injEq] at taken
      rw [← taken]
      exact touches_quiet state _ client _ (by rw [position]; rfl) rfl rfl rfl rfl ⟨fun _ => by simp [position, Client.message],
        fun _ waits => by cases waits⟩
  | notify slot msg =>
      simp only [clientStep, position, Option.some.injEq] at taken
      rw [← taken]
      exact touches_quiet state _ client _ (by rw [position]; rfl) rfl rfl rfl rfl ⟨fun _ => by simp [position, Client.message],
        fun _ waits => .inl (by rw [position]; exact waits)⟩
  | writeSd slot msg =>
      simp only [clientStep, position, Option.some.injEq] at taken
      rw [← taken, Touches, position]
      exact ⟨rfl, rfl, ⟨_, rfl, ⟨fun _ => id, fun _ waits => by cases waits⟩⟩,
        touched_at state _ slot _ (by simp [Client.sending]) ⟨rfl, fun _ => rfl, by simp, fun _ => id⟩⟩
  | resetSignal slot msg =>
      simp only [clientStep, position, Option.some.injEq] at taken
      rw [← taken, Touches, position]
      exact ⟨rfl, rfl, ⟨_, rfl, ⟨fun _ => id, fun _ waits => by cases waits⟩⟩,
        touched_at state _ slot _ (by simp [Client.sending])
          ⟨rfl, fun _ => rfl, by simp, fun _ member => absurd member List.not_mem_nil⟩⟩
  | sendQueue slot msg =>
      simp only [clientStep, position] at taken
      obtain ⟨queue, sent, rfl⟩ := Option.map_eq_some_iff.mp taken
      have filled := (Queue.send_single _ queue msg sent).2
      rw [Touches, position]
      refine ⟨rfl, rfl, ⟨_, rfl, ⟨fun _ => id, fun other waits => ?_⟩⟩,
        touched_at state _ slot _ (by simp [Client.sending]) ⟨rfl, by simp [Client.sending], by simp [filled], fun _ => id⟩⟩
      obtain rfl : slot = other := by simpa [Client.waitsOn, Client.waiting] using waits
      exact .inr rfl
  | receive slot msg =>
      simp only [clientStep, position] at taken
      obtain ⟨answer, received, rfl⟩ := Option.map_eq_some_iff.mp taken
      have items := Queue.receive_some _ answer.2 answer.1 received
      rw [Touches, position]
      refine ⟨rfl, rfl, ⟨_, rfl, ⟨by simp [Client.message], fun _ waits => by cases waits⟩⟩,
        touched_at state _ slot _ (by simp [Client.sending]) ⟨rfl, fun _ => rfl, by simp, fun resp member => ?_⟩⟩
      rw [items]
      exact List.mem_cons_of_mem _ member

-- What the manager's step does to a slot: a timeout is new in it only when
-- the manager had decided on one.
inductive Managed (manager : Manager) (slot : SlotId) (before after : ConnectionManagerElement) : Prop where
  | polled (here : manager = .poll slot) (taken : after = before.poll)
  | kept (queue : after.rxQueue = before.rxQueue)
      (deadline : after.rxWaitDeadlineMs = before.rxWaitDeadlineMs ∨ after.rxWaitDeadlineMs = 0)
      (signal : ⟨0⟩ ∈ after.rxSignal.items → ⟨0⟩ ∈ before.rxSignal.items ∨ manager.timingOut = some slot)

theorem managed_same (manager : Manager) (slot : SlotId) (conn : ConnectionManagerElement) : Managed manager slot conn conn :=
  .kept rfl (.inl rfl) .inl

theorem managed_at (state : State ι) (slot : SlotId) (conn : ConnectionManagerElement)
    (managed : Managed state.manager slot (state.connections slot) conn) (other : SlotId) :
    Managed state.manager other (state.connections other) ((state.setConnection slot conn).connections other) := by
  by_cases same : other = slot
  · subst other
    rwa [set_connection_here]
  · rw [set_connection_elsewhere state slot other conn same]
    exact managed_same _ other _

theorem after_visit_settled (pass : Pass) (slot : SlotId) : (pass.afterVisit slot).timingOut = none := by
  unfold Pass.afterVisit Pass.afterVisits
  split
  · rfl
  · split
    · rfl
    · split <;> rfl

theorem after_scan_settled (slot : SlotId) : (afterScan slot).timingOut = none := by
  unfold afterScan
  split <;> rfl

-- The manager decides on a timeout only where the deadline has passed.
def Decided (state after : State ι) : Prop :=
  ∀ slot, after.manager.timingOut = some slot → state.manager.timingOut = some slot ∨
    (state.connections slot).rxWaitDeadlineMs ≠ 0 ∧
      (state.connections slot).rxWaitDeadlineMs < state.pass.currentTime

theorem decided_none (state after : State ι) (settled : after.manager.timingOut = none) : Decided state after := by
  intro slot decides
  rw [settled] at decides
  cases decides

def Manages (state after : State ι) : Prop :=
  after.clients = state.clients ∧ after.pass.currentTime = state.pass.currentTime ∧ Decided state after ∧
    ∀ slot, Managed state.manager slot (state.connections slot) (after.connections slot)

-- A step that leaves the slots alone and decides nothing.
theorem manages_quiet (state after : State ι) (clients : after.clients = state.clients)
    (clock : after.pass.currentTime = state.pass.currentTime) (settled : after.manager.timingOut = none)
    (connections : after.connections = state.connections) : Manages state after := by
  refine ⟨clients, clock, decided_none state after settled, fun slot => ?_⟩
  rw [connections]
  exact managed_same state.manager slot _

theorem respond_managed (state after : State ι) (slot : SlotId) (resp : TimeoutResp) (pass : Pass) (sent refused : Manager)
    (timeout : resp = ⟨0⟩ → state.manager.timingOut = some slot) (done : sent.timingOut = none)
    (blocked : ∀ other, refused.timingOut = some other → state.manager.timingOut = some other)
    (clock : pass.currentTime = state.pass.currentTime)
    (taken : respond state slot resp pass sent refused = after) : Manages state after := by
  cases respond_cases state after slot resp pass sent refused taken with
  | sent conn _ _ queue deadline signal =>
      refine ⟨rfl, clock, decided_none state _ done, managed_at state slot conn (.kept queue (.inr deadline) fun member => ?_)⟩
      rw [signal] at member
      exact .inr (timeout (List.mem_singleton.mp member).symm)
  | refused _ =>
      exact ⟨rfl, rfl, fun other decides => .inl (blocked other decides),
        managed_at state slot (state.connections slot).disarm (.kept rfl (.inr rfl) .inl)⟩

theorem retry_managed (state after : State ι) (slot : SlotId) (resp : TimeoutResp) (pass : Pass) (sent : Manager)
    (timeout : resp = ⟨0⟩ → state.manager.timingOut = some slot) (done : sent.timingOut = none)
    (clock : pass.currentTime = state.pass.currentTime) (taken : retry state slot resp pass sent = some after) :
    Manages state after := by
  obtain ⟨conn, _, queue, deadline, signal, rfl⟩ := retry_some state after slot resp pass sent taken
  refine ⟨rfl, clock, decided_none state _ done, managed_at state slot conn (.kept queue (.inl deadline) fun member => ?_)⟩
  rw [signal] at member
  exact .inr (timeout (List.mem_singleton.mp member).symm)

theorem manager_manages (state after : State ι) (taken : managerStep state = some after) : Manages state after := by
  cases position : state.manager with
  | top | select => simp [managerStep, position] at taken
  | check slot | scan slot =>
      simp only [managerStep, position] at taken
      split at taken <;> cases taken
      · exact manages_quiet state _ rfl rfl rfl rfl
      · exact manages_quiet state _ rfl rfl (by simp [after_visit_settled, after_scan_settled]) rfl
  | poll slot =>
      simp only [managerStep, position, Option.some.injEq] at taken
      rw [← taken]
      exact ⟨rfl, rfl, decided_none state _ rfl, managed_at state slot _ (.polled position rfl)⟩
  | test slot =>
      simp only [managerStep, position] at taken
      rcases ConnectionManagerElement.verdict_cases (state.connections slot) state.pass.currentTime with
        ⟨verdict, _⟩ | ⟨verdict, _⟩ | ⟨verdict, armed, late⟩
      · simp only [verdict, Option.some.injEq] at taken
        rw [← taken]
        exact manages_quiet state _ rfl rfl rfl rfl
      · simp only [verdict, Option.some.injEq] at taken
        rw [← taken]
        exact manages_quiet state _ rfl rfl (after_visit_settled _ _) rfl
      · simp only [verdict, Option.some.injEq] at taken
        rw [← taken]
        refine ⟨rfl, rfl, fun other decides => ?_, fun _ => managed_same _ _ _⟩
        obtain rfl : slot = other := by simpa [Manager.timingOut] using decides
        exact .inr ⟨armed, late⟩
  | takeMutex slot | waitForNotify =>
      simp only [managerStep, position] at taken
      split at taken <;> cases taken
      exact manages_quiet state _ rfl rfl rfl rfl
  | writeSd slot =>
      simp only [managerStep, position, Option.some.injEq] at taken
      rw [← taken]
      exact ⟨rfl, rfl, decided_none state _ rfl, managed_at state slot _ (.kept rfl (.inl rfl) .inl)⟩
  | giveMutex slot =>
      simp only [managerStep, position, Option.some.injEq] at taken
      rw [← taken]
      exact manages_quiet state _ rfl rfl (after_visit_settled _ _) rfl
  | delay =>
      simp only [managerStep, position, Option.some.injEq] at taken
      rw [← taken]
      exact manages_quiet state _ rfl rfl rfl rfl
  | sendTimeout slot =>
      simp only [managerStep, position, Option.some.injEq] at taken
      refine respond_managed state after slot _ _ _ _ (fun _ => by rw [position]; rfl) ?_ ?_ ?_ taken
      · exact after_visit_settled _ _
      · exact fun _ decides => by rw [position]; exact decides
      · rfl
  | refusedTimeout slot =>
      simp only [managerStep, position] at taken
      refine retry_managed state after slot _ _ _ (fun _ => by rw [position]; rfl) ?_ ?_ taken
      · exact after_visit_settled _ _
      · rfl
  | sendReady slot =>
      simp only [managerStep, position, Option.some.injEq] at taken
      exact respond_managed state after slot _ _ _ _ (by simp) (after_scan_settled slot)
        (fun _ decides => by cases decides) rfl taken
  | refusedReady slot =>
      simp only [managerStep, position] at taken
      exact retry_managed state after slot _ _ _ (by simp) (after_scan_settled slot) rfl taken

-- A step of the mediator that is not a task's own keeps what the slot holds
-- of its wait, the tick of the manager's reading and the clock aside.
theorem waits_frame (timed after : Timed ι) (client : ι) (slot : SlotId) (waits : Waits timed client slot)
    (connections : after.state.connections = timed.state.connections) (manager : after.state.manager.timingOut = some slot →
      timed.state.manager.timingOut = some slot) (call : after.call client = timed.call client)
    (read : after.readAt = timed.readAt ∨ (timed.call client).tick ≤ after.readAt) (tick : timed.tick ≤ after.tick) :
    Waits after client slot where
  queued := by rw [connections, call]; exact waits.queued
  armed := by
    rw [connections, call]
    refine waits.armed.imp id fun ⟨sum, before⟩ => ⟨sum, ?_⟩
    rcases read with same | later
    · rwa [same]
    · exact .inl later
  late := fun decides => by rw [call]; exact due_later _ _ _ (waits.late (manager decides)) tick
  answered := by
    rw [connections, call]
    exact fun member => due_later _ _ _ (waits.answered member) tick

theorem call_inv [DecidableEq ι] (timed : Timed ι) (client : ι) (timeout_s : Nat) (after : State ι) (inv : Inv timed)
    (met : Meets timed (.call client timeout_s))
    (taken : callStep timed.state client ⟨(deadlineMs timed.tick timeout_s).getD 0⟩ = some after) :
    Inv { timed.calling client timeout_s with state := after } := by
  obtain ⟨fits, nonzero⟩ := met
  have computed := deadline_ms_fits timed.tick timeout_s fits
  rw [computed, Option.getD_some] at taken
  have moved : after = timed.state.setClient client (.findSocket 0 ⟨xTaskGetTickCount timed.tick + timeout_s * 1024⟩) := by
    simp only [callStep] at taken
    split at taken <;> cases taken <;> rfl
  subst moved
  constructor
  · simp [Timed.calling, computed]
  · exact inv.clock
  · exact inv.past
  · intro other
    by_cases same : other = client
    · simp [Timed.calling, same]
    · simpa [Timed.calling, same] using inv.called other
  · intro other msg carries
    by_cases same : other = client
    · obtain rfl : ⟨xTaskGetTickCount timed.tick + timeout_s * 1024⟩ = msg := by
        simpa [same, Client.message] using carries
      simpa [Timed.calling, same, Call.sum] using nonzero
    · simpa [Timed.calling, same] using inv.carried other msg (by simpa [same] using carries)
  · intro other slot waits
    by_cases same : other = client
    · simp [same, Client.waitsOn, Client.waiting] at waits
    · refine waits_frame timed _ other slot (inv.waits other slot (by simpa [same] using waits)) rfl id ?_ (.inl rfl)
        (Nat.le_refl _)
      simp [Timed.calling, same]

theorem client_inv [DecidableEq ι] (sd : ι → Int) (timed : Timed ι) (client : ι) (after : State ι) (inv : Inv timed)
    (met : Meets timed (.client client)) (taken : clientStep sd timed.state client = some after) :
    Inv { timed with state := after } := by
  obtain ⟨manager, pass, ⟨position, clients, advanced⟩, touches⟩ := client_touches sd timed.state after client taken
  constructor
  · exact inv.running
  · simp only [pass]
    exact inv.clock
  · exact inv.past
  · exact inv.called
  · intro other msg carries
    by_cases same : other = client
    · subst other
      exact inv.carried client msg (advanced.message msg (by simpa [clients] using carries))
    · exact inv.carried other msg (by simpa [clients, same] using carries)
  · intro other slot waits
    have touched := touches slot
    by_cases sends : (timed.state.clients client).sending = some slot
    · have free := met slot sends
      obtain rfl : other = client := by
        by_contra different
        exact free.alone other different (by simpa [clients, different] using waits)
      obtain ⟨msg, here⟩ := sending_request _ slot sends
      have sum := (inv.carried other msg (by rw [here]; rfl)).1
      refine ⟨fun item member => ?_, .inl (touched.deadline.trans free.unarmed), fun decides => ?_, fun member => ?_⟩
      · rw [touched.sent msg here, List.mem_singleton] at member
        rw [member]
        exact sum
      · rw [manager] at decides
        exact absurd decides free.settled
      · have before := touched.signal _ member
        rw [free.unanswered] at before
        cases before
    · have before : (timed.state.clients other).waitsOn = some slot := by
        by_cases same : other = client
        · subst other
          exact (advanced.waits slot (by simpa [clients] using waits)).resolve_right sends
        · simpa [clients, same] using waits
      have held := inv.waits other slot before
      exact ⟨by rw [touched.queue sends]; exact held.queued, by rw [touched.deadline]; exact held.armed,
        by rw [manager]; exact held.late, fun member => held.answered (touched.signal _ member)⟩

-- A request is armed with its deadline by a good count; a deadline that has
-- passed by then is one the wait is due for.
theorem manager_inv (timed : Timed ι) (after : State ι) (inv : Inv timed) (met : Meets timed .manager)
    (taken : managerStep timed.state = some after) : Inv { timed with state := after } := by
  obtain ⟨clients, clock, decided, manages⟩ := manager_manages timed.state after taken
  refine ⟨inv.running, clock.trans inv.clock, inv.past, inv.called, ?_, fun client slot waits => ?_⟩
  · simp only [clients]
    exact inv.carried
  · simp only [clients] at waits
    have held := inv.waits client slot waits
    have late : after.manager.timingOut = some slot → (timed.call client).Due timed.tick := by
      intro decides
      rcases decided slot decides with before | ⟨armed, passed⟩
      · exact held.late before
      · obtain ⟨sum, read⟩ := held.armed.resolve_left armed
        rw [sum, inv.clock] at passed
        rcases read with later | small
        · exact due_later _ _ _ (late_enough _ _ later passed) inv.past
        · omega
    cases manages slot with
    | kept queue deadline signal =>
        refine ⟨by rw [queue]; exact held.queued, ?_, late, fun member => ?_⟩
        · rcases deadline with same | zero
          · rw [same]
            exact held.armed
          · exact .inl zero
        · exact (signal member).elim held.answered held.late
    | polled here polled =>
        have signal := ConnectionManagerElement.poll_signal (timed.state.connections slot)
        refine ⟨fun msg member => ?_, ?_, late, fun member => held.answered ?_⟩
        · rw [polled, ConnectionManagerElement.poll_drains] at member
          cases member
        · simp only [polled]
          rcases Queue.single_cases (timed.state.connections slot).rxQueue with none | ⟨msg, one⟩
          · rw [(ConnectionManagerElement.poll_idle _ none).1]
            exact held.armed
          · have sum := held.queued msg (by rw [one]; exact List.mem_singleton_self msg)
            have read := met slot here (by rw [one]; exact List.cons_ne_nil _ _) client waits
            rw [(ConnectionManagerElement.poll_request _ msg one).1]
            refine .inr ⟨?_, read⟩
            unfold ConnectionManagerElement.rearm
            rcases held.armed with zero | ⟨same, _⟩
            · split <;> omega
            · split <;> omega
        · rwa [polled, signal] at member

theorem inv_step [DecidableEq ι] (sd : ι → Int) (timed : Timed ι) (action : Action ι) (after : Timed ι) (inv : Inv timed)
    (met : Meets timed action) (taken : step sd timed action = some after) : Inv after := by
  unfold step at taken
  rw [if_neg (by rw [inv.running]; exact Bool.false_ne_true)] at taken
  cases action with
  | tick =>
      obtain rfl := Option.some.inj taken
      refine ⟨inv.running, inv.clock, Nat.le_succ_of_le inv.past, fun client => Nat.le_succ_of_le (inv.called client),
        inv.carried, fun client slot waits => ?_⟩
      exact waits_frame timed _ client slot (inv.waits client slot waits) rfl id rfl (.inl rfl) (Nat.le_succ _)
  | call client timeout_s =>
      simp only at taken
      split at taken
      · obtain ⟨state, called, rfl⟩ := Option.map_eq_some_iff.mp taken
        exact call_inv timed client timeout_s state inv met called
      · cases taken
  | client client =>
      obtain ⟨state, moved, rfl⟩ := Option.map_eq_some_iff.mp taken
      exact client_inv sd timed client state inv met moved
  | readTick =>
      obtain ⟨state, read, rfl⟩ := Option.map_eq_some_iff.mp taken
      simp only [Mediator.step, readTickStep] at read
      split at read <;> cases read
      refine ⟨inv.running, rfl, Nat.le_refl _, inv.called, inv.carried, fun client slot waits => ?_⟩
      exact waits_frame timed _ client slot (inv.waits client slot waits) rfl (fun decides => by cases decides) rfl
        (.inr (inv.called client)) (Nat.le_refl _)
  | select res fds =>
      obtain ⟨state, selected, rfl⟩ := Option.map_eq_some_iff.mp taken
      simp only [Mediator.step, selectStep] at selected
      split at selected <;> cases selected
      refine ⟨inv.running, inv.clock, inv.past, inv.called, inv.carried, fun client slot waits => ?_⟩
      refine waits_frame timed _ client slot (inv.waits client slot waits) rfl (fun decides => ?_) rfl (.inl rfl) (Nat.le_refl _)
      simp only at decides
      split at decides
      · cases decides
      · split at decides <;> cases decides
  | manager =>
      obtain ⟨state, moved, rfl⟩ := Option.map_eq_some_iff.mp taken
      exact manager_inv timed state inv met moved

theorem deadlines_kept [DecidableEq ι] (sd : ι → Int) (tick : Nat) (actions : List (Action ι))
    (met : StepsMeet (step sd) Meets (.initial tick : Timed ι) actions) :
    StatesHold (step sd) Kept (.initial tick : Timed ι) actions :=
  steps_meet_states_hold (step sd) Inv Kept Meets
    (fun timed action after inv met taken => inv_step sd timed action after inv met taken)
    inv_kept _ actions (initial_inv tick) met

end

instance (count : Nat) (state : State (Fin count)) (client : Fin count) (slot : SlotId) : Decidable (Fresh state client slot) :=
  decidable_of_iff
    ((state.connections slot).rxWaitDeadlineMs = 0 ∧ (state.connections slot).rxSignal.items = [] ∧
      state.manager.timingOut ≠ some slot ∧ ∀ other, other ≠ client → (state.clients other).waitsOn ≠ some slot)
    ⟨fun ⟨unarmed, unanswered, settled, alone⟩ => ⟨unarmed, unanswered, settled, alone⟩,
      fun fresh => ⟨fresh.unarmed, fresh.unanswered, fresh.settled, fresh.alone⟩⟩

instance (call : Call) (readAt : Nat) : Decidable (call.Read readAt) := inferInstanceAs (Decidable (_ ∨ _))

instance (count : Nat) (timed : Timed (Fin count)) (action : Action (Fin count)) : Decidable (Meets timed action) :=
  match action with
  | .call _ _ => inferInstanceAs (Decidable (_ ∧ _))
  | .client client => inferInstanceAs (Decidable (∀ slot, (timed.state.clients client).sending = some slot → _))
  | .manager => inferInstanceAs (Decidable (∀ slot, timed.state.manager = .poll slot → _ → _))
  | .tick | .readTick | .select _ _ => inferInstanceAs (Decidable True)

-- A task's way to its free test of the first slot, and from there to the
-- request in its queue.
def seek (client : Fin 2) : List (Action (Fin 2)) := List.replicate 5 (.client client)
def send (client : Fin 2) : List (Action (Fin 2)) := List.replicate 5 (.client client)

theorem deadlines_kept_timed_out : StatesHold (step descriptors) Kept (.initial 1 : Timed (Fin 2))
    (.call 0 0 :: seek 0 ++ send 0 ++ [.tick, .readTick] ++ List.replicate 4 .manager ++ List.replicate 2 (.client 0)) :=
  deadlines_kept descriptors 1 _ (by decide)

-- The manager reads the last tick count before the counter wraps; the call
-- comes after the wrap and is timed out in the same pass.
def staleRead (client : Fin 2) : List (Action (Fin 2)) :=
  [.readTick, .tick, .call client 5] ++ seek client ++ send client ++ List.replicate 4 .manager

-- Both tasks test slot 0 free. The first one's wait has timed out when the
-- second takes the slot, and the second gets the answer.
def sharedSlot (first second : Fin 2) : List (Action (Fin 2)) :=
  [.call first 0, .call second 100] ++ seek first ++ seek second ++ send first ++ [.tick, .readTick] ++
    List.replicate 3 .manager ++ send second ++ [.manager]

theorem early_unkept (timed : Timed (Fin 2)) (client : Fin 2)
    (shown : ((timed.state.clients client).waitsOn, (timed.state.connections 0).rxSignal.items,
      decide ((timed.call client).Due timed.tick)) = (some 0, [⟨0⟩], false)) : ¬ Kept timed := by
  intro kept
  simp only [Prod.mk.injEq, decide_eq_false_iff_not] at shown
  obtain ⟨waits, answered, early⟩ := shown
  exact early (kept.timely client 0 waits (by rw [answered]; exact List.mem_singleton_self _))

theorem deadline_fails :
    ¬ StatesHold (step descriptors) Kept (.initial 0) [.call 0 4194304] ∧
      ¬ StatesHold (step descriptors) Kept (.initial 0) [.call 0 0] ∧
      ¬ StatesHold (step descriptors) Kept (.initial (UInt32.size - 1)) (staleRead 0) ∧
      ¬ StatesHold (step descriptors) Kept (.initial 1) (sharedSlot 0 1) := by
  refine ⟨fun along => ?_, fun along => ?_, fun along => ?_, fun along => ?_⟩
  · obtain ⟨final, last, panics⟩ : ∃ final, run (step descriptors) (.initial 0) [.call 0 4194304] = some final ∧
        final.panicked = true := Option.map_eq_some_iff.mp (by decide)
    have kept := states_hold_last (step descriptors) Kept _ final _ along last
    rw [kept.computed] at panics
    cases panics
  · obtain ⟨final, last, carries⟩ : ∃ final, run (step descriptors) (.initial 0) [.call 0 0] = some final ∧
        (final.state.clients 0).message = some ⟨0⟩ := Option.map_eq_some_iff.mp (by decide)
    have kept := states_hold_last (step descriptors) Kept _ final _ along last
    exact kept.nonzero 0 ⟨0⟩ carries rfl
  · obtain ⟨final, last, shown⟩ := Option.map_eq_some_iff.mp
      (show (run (step descriptors) (.initial (UInt32.size - 1)) (staleRead 0)).map
          (fun timed => ((timed.state.clients 0).waitsOn, (timed.state.connections 0).rxSignal.items,
            decide ((timed.call 0).Due timed.tick))) = some (some 0, [⟨0⟩], false) by decide)
    exact early_unkept final 0 shown (states_hold_last (step descriptors) Kept _ final _ along last)
  · obtain ⟨final, last, shown⟩ := Option.map_eq_some_iff.mp
      (show (run (step descriptors) (.initial 1) (sharedSlot 0 1)).map
          (fun timed => ((timed.state.clients 1).waitsOn, (timed.state.connections 0).rxSignal.items,
            decide ((timed.call 1).Due timed.tick))) = some (some 0, [⟨0⟩], false) by decide)
    exact early_unkept final 1 shown (states_hold_last (step descriptors) Kept _ final _ along last)

end Deadline

end Miso.Mediator
