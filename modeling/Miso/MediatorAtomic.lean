import Miso.Mediator

set_option autoImplicit false

namespace Miso.Mediator

open Base (Step)

def slots : List SlotId := [0, 1, 2, 3]

theorem slots_all (slot : SlotId) : slot ∈ slots := by
  revert slot
  decide

section

variable {ι : Type} [DecidableEq ι]

def findSocket (connections : SlotId → ConnectionManagerElement) (sd : Int) : Option SlotId :=
  slots.find? fun slot => (connections slot).sd = sd

def findFreeSocket (connections : SlotId → ConnectionManagerElement) : Option SlotId :=
  slots.find? fun slot => (connections slot).sd < 0

-- wait_rx up to the send, in one step. It is disabled while the request
-- queue of the slot is full.
def place (state : State ι) (client : ι) (slot : SlotId) (conn : ConnectionManagerElement) (msg : TimeoutMsg) :
    Option (State ι) :=
  (conn.rxQueue.send msg).map fun queue =>
    (state.setConnection slot { conn with rxSignal := .empty, rxQueue := queue }).setClient client (.notify slot msg)

def submit (sd : ι → Int) (state : State ι) (client : ι) (msg : TimeoutMsg) : Option (State ι) :=
  match findSocket state.connections (sd client) with
  | some slot => place state client slot (state.connections slot) msg
  | none => match findFreeSocket state.connections with
    | some slot => place state client slot { state.connections slot with sd := sd client } msg
    | none => some (state.setClient client .unreachable)

def visit (state : State ι) (slot : SlotId) : State ι :=
  if (state.connections slot).sd ≥ 0 then
    let conn := (state.connections slot).poll
    match conn.verdict state.pass.currentTime with
    | .release =>
        { state.setConnection slot { conn with sd := -1 } with
          pass := state.pass.again
          manager := state.pass.again.afterVisit slot }
    | .watch =>
        let pass := state.pass.watch conn.sd
        { state.setConnection slot conn with pass := pass, manager := pass.afterVisit slot }
    | .expire =>
        respond (state.setConnection slot conn) slot ⟨0⟩ state.pass.again (state.pass.again.afterVisit slot)
          (.refusedTimeout slot)
  else { state with manager := state.pass.afterVisit slot }

def scanVisit (state : State ι) (slot : SlotId) : State ι :=
  if (state.connections slot).sd ≥ 0 ∧ fdIsset (state.connections slot).sd state.pass.readFdSet = 1 then
    respond state slot ⟨1⟩ state.pass (afterScan slot) (.refusedReady slot)
  else { state with manager := afterScan slot }

structure Clocked (ι : Type) where
  state : State ι
  now : Nat

def Clocked.initial : Clocked ι := ⟨Mediator.initial, 0⟩

inductive Round (ι : Type) where
  | submit (client : ι) (msg : TimeoutMsg)
  | notify (client : ι)
  | receive (client : ι)
  | tick (now : Nat)
  | manager
  | select (res : Int) (fds : FdSet)

def submitRound (sd : ι → Int) (state : State ι) (client : ι) (msg : TimeoutMsg) : Option (State ι) :=
  match state.clients client with
  | .idle | .returned _ => submit sd state client msg
  | _ => none

def notifyRound (state : State ι) (client : ι) : Option (State ι) :=
  match state.clients client with
  | .notify slot msg => some ({ state with notified := true }.setClient client (.receive slot msg))
  | _ => none

def receiveRound (state : State ι) (client : ι) : Option (State ι) :=
  match state.clients client with
  | .receive slot _ =>
      ((state.connections slot).rxSignal.receive).map fun answer =>
        (state.setConnection slot { state.connections slot with rxSignal := answer.2 }).setClient client
          (.returned (answer.1.timeout == 1))
  | _ => none

def managerRound (state : State ι) (now : Nat) : Option (State ι) :=
  match state.manager with
  | .top => some { state with pass := .start now, manager := .check 0 }
  | .check slot => some (visit state slot)
  | .refusedTimeout slot => retry state slot ⟨0⟩ state.pass.again (state.pass.again.afterVisit slot)
  | .scan slot => some (scanVisit state slot)
  | .refusedReady slot => retry state slot ⟨1⟩ state.pass (afterScan slot)
  | .delay => some { state with manager := .top }
  | .waitForNotify => if state.notified then some { state with notified := false, manager := .top } else none
  | _ => none

def round (sd : ι → Int) : Step (Clocked ι) (Round ι) := fun clocked action =>
  match action with
  | .tick now => some { clocked with now := now }
  | .submit client msg => (submitRound sd clocked.state client msg).map fun state => { clocked with state := state }
  | .notify client => (notifyRound clocked.state client).map fun state => { clocked with state := state }
  | .receive client => (receiveRound clocked.state client).map fun state => { clocked with state := state }
  | .manager => (managerRound clocked.state clocked.now).map fun state => { clocked with state := state }
  | .select res fds => (selectStep clocked.state res fds).map fun state => { clocked with state := state }

theorem find_socket_some (connections : SlotId → ConnectionManagerElement) (sd : Int) (slot : SlotId)
    (found : findSocket connections sd = some slot) : (connections slot).sd = sd := by
  simpa using List.find?_some found

theorem find_socket_none (connections : SlotId → ConnectionManagerElement) (sd : Int)
    (missing : findSocket connections sd = none) (slot : SlotId) : (connections slot).sd ≠ sd := by
  simpa using List.find?_eq_none.mp missing slot (slots_all slot)

theorem find_free_some (connections : SlotId → ConnectionManagerElement) (slot : SlotId)
    (found : findFreeSocket connections = some slot) : (connections slot).sd < 0 := by
  simpa using List.find?_some found

theorem find_free_none (connections : SlotId → ConnectionManagerElement) (missing : findFreeSocket connections = none)
    (slot : SlotId) : 0 ≤ (connections slot).sd := by
  simpa using List.find?_eq_none.mp missing slot (slots_all slot)

-- What a submission can do: it puts the request into the empty queue of the
-- task's own slot or of a free one, or finds no slot at all.
inductive Submitted (sd : ι → Int) (state : State ι) (client : ι) (msg : TimeoutMsg) : State ι → Prop where
  | placed (slot : SlotId) (conn : ConnectionManagerElement)
      (mine : (state.connections slot).sd = sd client ∨
        ((state.connections slot).sd < 0 ∧ ∀ other, (state.connections other).sd ≠ sd client))
      (room : (state.connections slot).rxQueue.items = [])
      (carries : conn.sd = sd client) (deadline : conn.rxWaitDeadlineMs = (state.connections slot).rxWaitDeadlineMs)
      (signal : conn.rxSignal.items = []) (queue : conn.rxQueue.items = [msg]) :
      Submitted sd state client msg ((state.setConnection slot conn).setClient client (.notify slot msg))
  | lost (missing : ∀ slot, (state.connections slot).sd ≠ sd client) (full : ∀ slot, 0 ≤ (state.connections slot).sd) :
      Submitted sd state client msg (state.setClient client .unreachable)

theorem submit_cases (sd : ι → Int) (state after : State ι) (client : ι) (msg : TimeoutMsg)
    (taken : submit sd state client msg = some after) : Submitted sd state client msg after := by
  unfold submit at taken
  split at taken
  · rename_i slot found
    have carried := find_socket_some state.connections (sd client) slot found
    obtain ⟨queue, sent, rfl⟩ := Option.map_eq_some_iff.mp taken
    obtain ⟨room, filled⟩ := Base.Queue.send_single _ queue msg sent
    exact .placed slot _ (.inl carried) room carried rfl rfl filled
  · rename_i missing
    split at taken
    · rename_i slot found
      obtain ⟨queue, sent, rfl⟩ := Option.map_eq_some_iff.mp taken
      obtain ⟨room, filled⟩ := Base.Queue.send_single _ queue msg sent
      exact .placed slot _ (.inr ⟨find_free_some state.connections slot found,
        find_socket_none state.connections (sd client) missing⟩) room rfl rfl rfl filled
    · rename_i full
      cases taken
      exact .lost (find_socket_none state.connections (sd client) missing) (find_free_none state.connections full)

end

end Miso.Mediator
