import Miso.Base.Run
import Miso.Slot

set_option autoImplicit false

namespace Miso.Mediator

open Base (Queue Step)

-- Where a task stands inside wait_rx, one constructor for each access to
-- shared data. The message is the task's local copy of its request.
inductive Client where
  | idle
  | findSocket (slot : SlotId) (msg : TimeoutMsg)
  | findFreeSocket (slot : SlotId) (msg : TimeoutMsg)
  | takeMutex (slot : SlotId) (msg : TimeoutMsg)
  | writeSd (slot : SlotId) (msg : TimeoutMsg)
  | giveMutex (slot : SlotId) (msg : TimeoutMsg)
  | resetSignal (slot : SlotId) (msg : TimeoutMsg)
  | sendQueue (slot : SlotId) (msg : TimeoutMsg)
  | notify (slot : SlotId) (msg : TimeoutMsg)
  | receive (slot : SlotId) (msg : TimeoutMsg)
  | returned (ready : Bool)
  | unreachable
deriving DecidableEq

-- Where the manager stands in run. A refused send has reset its deadline and
-- waits for room in rx_signal.
inductive Manager where
  | top
  | check (slot : SlotId)
  | poll (slot : SlotId)
  | test (slot : SlotId)
  | takeMutex (slot : SlotId)
  | writeSd (slot : SlotId)
  | giveMutex (slot : SlotId)
  | sendTimeout (slot : SlotId)
  | refusedTimeout (slot : SlotId)
  | select
  | scan (slot : SlotId)
  | sendReady (slot : SlotId)
  | refusedReady (slot : SlotId)
  | delay
  | waitForNotify
deriving DecidableEq

-- Locals of one loop iteration. write_set_ptr is always null and left out.
structure Pass where
  currentTime : Nat
  readFdSet : FdSet
  readSetPtr : Bool
  nfsd : Int
  maintenance : Nat

def Pass.start (tick : Nat) : Pass where
  currentTime := tick
  readFdSet := fdZero
  readSetPtr := false
  nfsd := -1
  maintenance := 0

def Pass.watch (pass : Pass) (sd : Int) : Pass :=
  { pass with readFdSet := fdSet sd pass.readFdSet, readSetPtr := true, nfsd := if pass.nfsd < sd then sd else pass.nfsd }

def Pass.again (pass : Pass) : Pass := { pass with maintenance := pass.maintenance + 1 }

def Pass.afterVisits (pass : Pass) : Manager :=
  if pass.readSetPtr then .select else if pass.maintenance ≠ 0 then .top else .waitForNotify

def Pass.afterVisit (pass : Pass) (slot : SlotId) : Manager :=
  match nextSlot slot with
  | some next => .check next
  | none => pass.afterVisits

def afterScan (slot : SlotId) : Manager :=
  match nextSlot slot with
  | some next => .scan next
  | none => .top

structure State (ι : Type) where
  connections : SlotId → ConnectionManagerElement
  mutexHeld : Bool
  clients : ι → Client
  manager : Manager
  pass : Pass
  notified : Bool

section

variable {ι : Type}

-- run gives the mutex once before its loop; the mutex is free then and the
-- kernel refuses the call.
def initial : State ι where
  connections := fun _ => .init
  mutexHeld := false
  clients := fun _ => .idle
  manager := .top
  pass := .start 0
  notified := false

def State.setConnection (state : State ι) (slot : SlotId) (conn : ConnectionManagerElement) : State ι :=
  { state with connections := Function.update state.connections slot conn }

def State.setClient [DecidableEq ι] (state : State ι) (client : ι) (position : Client) : State ι :=
  { state with clients := Function.update state.clients client position }

@[simp] theorem set_connection_clients (state : State ι) (slot : SlotId) (conn : ConnectionManagerElement) :
    (state.setConnection slot conn).clients = state.clients := rfl
theorem set_connection_here (state : State ι) (slot : SlotId) (conn : ConnectionManagerElement) :
    (state.setConnection slot conn).connections slot = conn := by simp [State.setConnection]
theorem set_connection_elsewhere (state : State ι) (slot other : SlotId) (conn : ConnectionManagerElement)
    (different : other ≠ slot) : (state.setConnection slot conn).connections other = state.connections other := by
  simp [State.setConnection, different]
@[simp] theorem set_client_connections [DecidableEq ι] (state : State ι) (client : ι) (position : Client) :
    (state.setClient client position).connections = state.connections := rfl
@[simp] theorem set_client_clients [DecidableEq ι] (state : State ι) (client : ι) (position : Client) :
    (state.setClient client position).clients = Function.update state.clients client position := rfl

inductive Action (ι : Type) where
  | call (client : ι) (msg : TimeoutMsg)
  | client (client : ι)
  | readTick (tick : Nat)
  | select (res : Int) (fds : FdSet)
  | manager

def callStep [DecidableEq ι] (state : State ι) (client : ι) (msg : TimeoutMsg) : Option (State ι) :=
  match state.clients client with
  | .idle | .returned _ => some (state.setClient client (.findSocket 0 msg))
  | _ => none

def clientStep [DecidableEq ι] (sd : ι → Int) (state : State ι) (client : ι) : Option (State ι) :=
  match state.clients client with
  | .findSocket slot msg =>
      if (state.connections slot).sd = sd client then some (state.setClient client (.resetSignal slot msg))
      else match nextSlot slot with
        | some next => some (state.setClient client (.findSocket next msg))
        | none => some (state.setClient client (.findFreeSocket 0 msg))
  | .findFreeSocket slot msg =>
      if (state.connections slot).sd < 0 then some (state.setClient client (.takeMutex slot msg))
      else match nextSlot slot with
        | some next => some (state.setClient client (.findFreeSocket next msg))
        | none => some (state.setClient client .unreachable)
  | .takeMutex slot msg =>
      if state.mutexHeld then none
      else some ({ state with mutexHeld := true }.setClient client (.writeSd slot msg))
  | .writeSd slot msg =>
      some ((state.setConnection slot { state.connections slot with sd := sd client }).setClient client (.giveMutex slot msg))
  | .giveMutex slot msg => some ({ state with mutexHeld := false }.setClient client (.resetSignal slot msg))
  | .resetSignal slot msg =>
      some ((state.setConnection slot { state.connections slot with rxSignal := .empty }).setClient client (.sendQueue slot msg))
  | .sendQueue slot msg =>
      ((state.connections slot).rxQueue.send msg).map fun queue =>
        (state.setConnection slot { state.connections slot with rxQueue := queue }).setClient client (.notify slot msg)
  | .notify slot msg => some ({ state with notified := true }.setClient client (.receive slot msg))
  | .receive slot _ =>
      ((state.connections slot).rxSignal.receive).map fun answer =>
        (state.setConnection slot { state.connections slot with rxSignal := answer.2 }).setClient client
          (.returned (answer.1.timeout == 1))
  | .idle | .returned _ | .unreachable => none

-- The deadline is reset before the send, which blocks while rx_signal is full.
def respond (state : State ι) (slot : SlotId) (resp : TimeoutResp) (pass : Pass) (sent refused : Manager) : State ι :=
  match (state.connections slot).disarm.signal resp with
  | some conn => { state.setConnection slot conn with pass := pass, manager := sent }
  | none => { state.setConnection slot (state.connections slot).disarm with manager := refused }

def retry (state : State ι) (slot : SlotId) (resp : TimeoutResp) (pass : Pass) (sent : Manager) : Option (State ι) :=
  ((state.connections slot).signal resp).map fun conn =>
    { state.setConnection slot conn with pass := pass, manager := sent }

def managerStep (state : State ι) : Option (State ι) :=
  match state.manager with
  | .top | .select => none
  | .check slot =>
      if (state.connections slot).sd ≥ 0 then some { state with manager := .poll slot }
      else some { state with manager := state.pass.afterVisit slot }
  | .poll slot => some { state.setConnection slot (state.connections slot).poll with manager := .test slot }
  | .test slot =>
      match (state.connections slot).verdict state.pass.currentTime with
      | .release => some { state with manager := .takeMutex slot }
      | .watch =>
          let pass := state.pass.watch (state.connections slot).sd
          some { state with pass := pass, manager := pass.afterVisit slot }
      | .expire => some { state with manager := .sendTimeout slot }
  | .takeMutex slot => if state.mutexHeld then none else some { state with mutexHeld := true, manager := .writeSd slot }
  | .writeSd slot =>
      some { state.setConnection slot { state.connections slot with sd := -1 } with manager := .giveMutex slot }
  | .giveMutex slot =>
      some { state with mutexHeld := false, pass := state.pass.again, manager := state.pass.again.afterVisit slot }
  | .sendTimeout slot =>
      some (respond state slot ⟨0⟩ state.pass.again (state.pass.again.afterVisit slot) (.refusedTimeout slot))
  | .refusedTimeout slot => retry state slot ⟨0⟩ state.pass.again (state.pass.again.afterVisit slot)
  | .scan slot =>
      if (state.connections slot).sd ≥ 0 ∧ fdIsset (state.connections slot).sd state.pass.readFdSet = 1 then
        some { state with manager := .sendReady slot }
      else some { state with manager := afterScan slot }
  | .sendReady slot => some (respond state slot ⟨1⟩ state.pass (afterScan slot) (.refusedReady slot))
  | .refusedReady slot => retry state slot ⟨1⟩ state.pass (afterScan slot)
  | .delay => some { state with manager := .top }
  | .waitForNotify => if state.notified then some { state with notified := false, manager := .top } else none

-- sl_Select overwrites the set with the ready descriptors; only a positive
-- result is followed by a second pass over the pool.
def selectStep (state : State ι) (res : Int) (fds : FdSet) : Option (State ι) :=
  if state.manager = .select ∧ fdSubset fds state.pass.readFdSet then
    some { state with
      pass := { state.pass with readFdSet := if res ≥ 0 then fds else state.pass.readFdSet }
      manager := if res > 0 then .scan 0 else if res = 0 then .delay else .top }
  else none

def readTickStep (state : State ι) (tick : Nat) : Option (State ι) :=
  if state.manager = .top then some { state with pass := .start tick, manager := .check 0 } else none

def step [DecidableEq ι] (sd : ι → Int) : Step (State ι) (Action ι) := fun state action =>
  match action with
  | .call client msg => callStep state client msg
  | .client client => clientStep sd state client
  | .readTick tick => readTickStep state tick
  | .select res fds => selectStep state res fds
  | .manager => managerStep state

inductive ManagerEffect (manager : Manager) (slot : SlotId) (before after : ConnectionManagerElement) : Prop where
  | same (kept : after = before)
  | polled (here : manager = .poll slot) (taken : after = before.poll)
  | released (here : manager = .writeSd slot) (taken : after = { before with sd := -1 })
  | answered (sd : after.sd = before.sd) (queue : after.rxQueue = before.rxQueue) (signalled : after.rxSignal.items ≠ [])

theorem effect_at (state : State ι) (slot : SlotId) (conn : ConnectionManagerElement)
    (effect : ManagerEffect state.manager slot (state.connections slot) conn) (other : SlotId) :
    ManagerEffect state.manager other (state.connections other) ((state.setConnection slot conn).connections other) := by
  by_cases same : other = slot
  · subst other
    simpa only [set_connection_here] using effect
  · exact .same (set_connection_elsewhere state slot other conn same)

inductive Responded (state : State ι) (slot : SlotId) (resp : TimeoutResp) (pass : Pass) (sent refused : Manager) :
    State ι → Prop where
  | sent (conn : ConnectionManagerElement) (room : (state.connections slot).rxSignal.items = [])
      (sd : conn.sd = (state.connections slot).sd) (queue : conn.rxQueue = (state.connections slot).rxQueue)
      (deadline : conn.rxWaitDeadlineMs = 0) (signal : conn.rxSignal.items = [resp]) :
      Responded state slot resp pass sent refused { state.setConnection slot conn with pass := pass, manager := sent }
  | refused (full : (state.connections slot).rxSignal.items ≠ []) :
      Responded state slot resp pass sent refused
        { state.setConnection slot (state.connections slot).disarm with manager := refused }

theorem respond_cases (state after : State ι) (slot : SlotId) (resp : TimeoutResp) (pass : Pass) (sent refused : Manager)
    (taken : respond state slot resp pass sent refused = after) : Responded state slot resp pass sent refused after := by
  unfold respond at taken
  subst taken
  split
  · rename_i conn signalled
    obtain ⟨room, filled, sd, deadline, queue⟩ := ConnectionManagerElement.signal_some _ conn resp signalled
    exact .sent conn room sd queue deadline filled
  · rename_i signalled
    obtain ⟨stale, full⟩ := ConnectionManagerElement.signal_none _ resp signalled
    exact .refused (fun empty => List.cons_ne_nil _ _ (full.symm.trans empty))

theorem retry_some (state after : State ι) (slot : SlotId) (resp : TimeoutResp) (pass : Pass) (sent : Manager)
    (taken : retry state slot resp pass sent = some after) :
    ∃ conn : ConnectionManagerElement, conn.sd = (state.connections slot).sd ∧
      conn.rxQueue = (state.connections slot).rxQueue ∧
      conn.rxWaitDeadlineMs = (state.connections slot).rxWaitDeadlineMs ∧ conn.rxSignal.items = [resp] ∧
      after = { state.setConnection slot conn with pass := pass, manager := sent } := by
  obtain ⟨conn, signalled, rfl⟩ := Option.map_eq_some_iff.mp taken
  obtain ⟨_, filled, sd, deadline, queue⟩ := ConnectionManagerElement.signal_some _ conn resp signalled
  exact ⟨conn, sd, queue, deadline, filled, rfl⟩

theorem respond_effect (state after : State ι) (slot : SlotId) (resp : TimeoutResp) (pass : Pass) (sent refused : Manager)
    (taken : respond state slot resp pass sent refused = after) :
    after.clients = state.clients ∧ ∀ other,
      ManagerEffect state.manager other (state.connections other) (after.connections other) := by
  cases respond_cases state after slot resp pass sent refused taken with
  | sent conn _ sd queue _ signal => exact ⟨rfl, effect_at state slot conn (.answered sd queue (by simp [signal]))⟩
  | refused full => exact ⟨rfl, effect_at state slot (state.connections slot).disarm (.answered rfl rfl full)⟩

theorem retry_effect (state after : State ι) (slot : SlotId) (resp : TimeoutResp) (pass : Pass) (sent : Manager)
    (taken : retry state slot resp pass sent = some after) :
    after.clients = state.clients ∧ ∀ other,
      ManagerEffect state.manager other (state.connections other) (after.connections other) := by
  obtain ⟨conn, sd, queue, _, signal, rfl⟩ := retry_some state after slot resp pass sent taken
  exact ⟨rfl, effect_at state slot conn (.answered sd queue (by simp [signal]))⟩

theorem manager_effect (state after : State ι) (taken : managerStep state = some after) :
    after.clients = state.clients ∧ ∀ slot,
      ManagerEffect state.manager slot (state.connections slot) (after.connections slot) := by
  cases position : state.manager with
  | top | select => simp [managerStep, position] at taken
  | poll slot =>
      simp only [managerStep, position, Option.some.injEq] at taken
      rw [← taken, ← position]
      exact ⟨rfl, effect_at state slot _ (.polled position rfl)⟩
  | writeSd slot =>
      simp only [managerStep, position, Option.some.injEq] at taken
      rw [← taken, ← position]
      exact ⟨rfl, effect_at state slot _ (.released position rfl)⟩
  | sendTimeout slot | sendReady slot =>
      simp only [managerStep, position, Option.some.injEq] at taken
      rw [← position]
      exact respond_effect state after slot _ _ _ _ taken
  | refusedTimeout slot | refusedReady slot =>
      simp only [managerStep, position] at taken
      rw [← position]
      exact retry_effect state after slot _ _ _ taken
  | giveMutex slot | delay =>
      simp only [managerStep, position, Option.some.injEq] at taken
      rw [← taken]
      exact ⟨rfl, fun _ => .same rfl⟩
  | check slot | test slot | takeMutex slot | scan slot | waitForNotify =>
      simp only [managerStep, position] at taken
      split at taken <;> cases taken <;> exact ⟨rfl, fun _ => .same rfl⟩

end

end Miso.Mediator
