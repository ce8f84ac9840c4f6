import Miso.Base.Queue
import Miso.FdSet

set_option autoImplicit false

namespace Miso

open Base (Queue)

structure TimeoutMsg where
  deadline : Nat
deriving DecidableEq

structure TimeoutResp where
  timeout : Nat
deriving DecidableEq

-- The binary semaphore tx_signal is created and never used; it is left out.
structure ConnectionManagerElement where
  sd : Int
  rxWaitDeadlineMs : Nat
  txWaitDeadlineMs : Nat
  rxSignal : Queue TimeoutResp 1
  rxQueue : Queue TimeoutMsg 1
  txQueue : Queue TimeoutMsg 1

namespace ConnectionManagerElement

def init : ConnectionManagerElement where
  sd := -1
  rxWaitDeadlineMs := 0
  txWaitDeadlineMs := 0
  rxSignal := .empty
  rxQueue := .empty
  txQueue := .empty

-- A longer deadline or the value 0 replaces the armed one.
def rearm (armed : Nat) (msg : TimeoutMsg) : Nat :=
  if msg.deadline > armed ∨ msg.deadline = 0 then msg.deadline else armed

def pollRx (conn : ConnectionManagerElement) : ConnectionManagerElement :=
  match conn.rxQueue.receive with
  | none => conn
  | some (msg, queue) => { conn with rxQueue := queue, rxWaitDeadlineMs := rearm conn.rxWaitDeadlineMs msg }

def pollTx (conn : ConnectionManagerElement) : ConnectionManagerElement :=
  match conn.txQueue.receive with
  | none => conn
  | some (msg, queue) => { conn with txQueue := queue, txWaitDeadlineMs := rearm conn.txWaitDeadlineMs msg }

def poll (conn : ConnectionManagerElement) : ConnectionManagerElement := conn.pollRx.pollTx

inductive Verdict where
  | release
  | watch
  | expire
deriving DecidableEq

def verdict (conn : ConnectionManagerElement) (currentTime : Nat) : Verdict :=
  if conn.rxWaitDeadlineMs = 0 then .release
  else if conn.rxWaitDeadlineMs ≥ currentTime then .watch
  else .expire

def disarm (conn : ConnectionManagerElement) : ConnectionManagerElement := { conn with rxWaitDeadlineMs := 0 }

def signal (conn : ConnectionManagerElement) (resp : TimeoutResp) : Option ConnectionManagerElement :=
  (conn.rxSignal.send resp).map fun queue => { conn with rxSignal := queue }

@[simp] theorem poll_tx_sd (conn : ConnectionManagerElement) : conn.pollTx.sd = conn.sd := by
  unfold pollTx; split <;> rfl
@[simp] theorem poll_tx_deadline (conn : ConnectionManagerElement) :
    conn.pollTx.rxWaitDeadlineMs = conn.rxWaitDeadlineMs := by
  unfold pollTx; split <;> rfl
@[simp] theorem poll_tx_queue (conn : ConnectionManagerElement) : conn.pollTx.rxQueue = conn.rxQueue := by
  unfold pollTx; split <;> rfl
@[simp] theorem poll_tx_signal (conn : ConnectionManagerElement) : conn.pollTx.rxSignal = conn.rxSignal := by
  unfold pollTx; split <;> rfl

@[simp] theorem poll_sd (conn : ConnectionManagerElement) : conn.poll.sd = conn.sd := by
  simp only [poll, poll_tx_sd]
  unfold pollRx; split <;> rfl
@[simp] theorem poll_signal (conn : ConnectionManagerElement) : conn.poll.rxSignal = conn.rxSignal := by
  simp only [poll, poll_tx_signal]
  unfold pollRx; split <;> rfl

theorem poll_idle (conn : ConnectionManagerElement) (empty : conn.rxQueue.items = []) :
    conn.poll.rxWaitDeadlineMs = conn.rxWaitDeadlineMs ∧ conn.poll.rxQueue = conn.rxQueue := by
  have none := (Queue.receive_none_iff conn.rxQueue).mpr empty
  simp [poll, pollRx, none]

theorem poll_request (conn : ConnectionManagerElement) (msg : TimeoutMsg) (held : conn.rxQueue.items = [msg]) :
    conn.poll.rxWaitDeadlineMs = rearm conn.rxWaitDeadlineMs msg ∧ conn.poll.rxQueue.items = [] := by
  cases received : conn.rxQueue.receive with
  | none => simp [(Queue.receive_none_iff conn.rxQueue).mp received] at held
  | some taken =>
      obtain ⟨item, queue⟩ := taken
      have split := Queue.receive_some conn.rxQueue queue item received
      rw [held] at split
      obtain ⟨rfl, rest⟩ := List.cons.inj split
      simp [poll, pollRx, received, ← rest]

theorem poll_drains (conn : ConnectionManagerElement) : conn.poll.rxQueue.items = [] := by
  rcases Queue.single_cases conn.rxQueue with none | ⟨msg, one⟩
  · rw [(poll_idle conn none).2, none]
  · exact (poll_request conn msg one).2

theorem rearm_nonzero (armed : Nat) (msg : TimeoutMsg) (nonzero : msg.deadline ≠ 0) : rearm armed msg ≠ 0 := by
  unfold rearm
  split <;> omega

theorem verdict_cases (conn : ConnectionManagerElement) (currentTime : Nat) :
    conn.verdict currentTime = .release ∧ conn.rxWaitDeadlineMs = 0 ∨
      conn.verdict currentTime = .watch ∧ conn.rxWaitDeadlineMs ≠ 0 ∨
      conn.verdict currentTime = .expire ∧ conn.rxWaitDeadlineMs ≠ 0 ∧ conn.rxWaitDeadlineMs < currentTime := by
  unfold verdict
  split
  · rename_i zero
    exact .inl ⟨rfl, zero⟩
  · rename_i nonzero
    split
    · exact .inr (.inl ⟨rfl, nonzero⟩)
    · rename_i late
      exact .inr (.inr ⟨rfl, nonzero, by omega⟩)

theorem signal_some (conn after : ConnectionManagerElement) (resp : TimeoutResp) (sent : conn.signal resp = some after) :
    conn.rxSignal.items = [] ∧ after.rxSignal.items = [resp] ∧ after.sd = conn.sd ∧
      after.rxWaitDeadlineMs = conn.rxWaitDeadlineMs ∧ after.rxQueue = conn.rxQueue := by
  obtain ⟨queue, accepted, rfl⟩ := Option.map_eq_some_iff.mp sent
  obtain ⟨room, filled⟩ := Queue.send_single conn.rxSignal queue resp accepted
  exact ⟨room, filled, rfl, rfl, rfl⟩

theorem signal_none (conn : ConnectionManagerElement) (resp : TimeoutResp) (refused : conn.signal resp = none) :
    ∃ stale, conn.rxSignal.items = [stale] := by
  have full := (Queue.send_none_iff conn.rxSignal resp).mp (Option.map_eq_none_iff.mp refused)
  rcases Queue.single_cases conn.rxSignal with none | one
  · simp [none] at full
  · exact one

end ConnectionManagerElement

abbrev SlotId := Fin 4

instance slotsExist : @NeZero Nat Zero.ofOfNat0 4 := ⟨Nat.succ_ne_zero 3⟩

def nextSlot (slot : SlotId) : Option SlotId := if more : slot.val + 1 < 4 then some ⟨slot.val + 1, more⟩ else none

theorem next_slot_some (slot next : SlotId) (more : nextSlot slot = some next) : next.val = slot.val + 1 := by
  unfold nextSlot at more
  split at more
  · cases more
    rfl
  · cases more

theorem next_slot_none (slot : SlotId) (last : nextSlot slot = none) : slot.val = 3 := by
  unfold nextSlot at last
  split at last
  · cases last
  · have bound := slot.isLt
    omega

end Miso
