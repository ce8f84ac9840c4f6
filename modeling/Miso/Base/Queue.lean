set_option autoImplicit false

namespace Miso.Base

universe u

-- A bounded first-in first-out queue. The bound travels with the items, so
-- an overfull queue cannot be written down.
structure Queue (α : Type u) (capacity : Nat) where
  items : List α
  bounded : items.length ≤ capacity

namespace Queue

variable {α : Type u} {capacity : Nat}

def empty : Queue α capacity := ⟨[], Nat.zero_le _⟩

-- Disabled while the queue is full: a blocking sender waits here.
def send (queue : Queue α capacity) (item : α) : Option (Queue α capacity) :=
  if room : queue.items.length < capacity then
    some ⟨queue.items ++ [item], by simp only [List.length_append, List.length_singleton]; omega⟩
  else none

-- Disabled while the queue is empty: a blocking receiver waits here.
def receive (queue : Queue α capacity) : Option (α × Queue α capacity) :=
  match queue with
  | ⟨[], _⟩ => none
  | ⟨item :: rest, bounded⟩ => some (item, ⟨rest, Nat.le_of_succ_le bounded⟩)

@[simp] theorem empty_items : (empty : Queue α capacity).items = [] := rfl

theorem send_some (queue after : Queue α capacity) (item : α) (sent : queue.send item = some after) :
    after.items = queue.items ++ [item] := by
  unfold send at sent
  split at sent
  · cases sent
    rfl
  · cases sent

theorem send_none_iff (queue : Queue α capacity) (item : α) :
    queue.send item = none ↔ queue.items.length = capacity := by
  have bound := queue.bounded
  unfold send
  split
  · rename_i room
    simp only [reduceCtorEq, false_iff]
    omega
  · rename_i full
    simp only [true_iff]
    omega

theorem receive_some (queue after : Queue α capacity) (item : α) (received : queue.receive = some (item, after)) :
    queue.items = item :: after.items := by
  cases queue with
  | mk items bounded =>
      cases items with
      | nil => cases received
      | cons head tail =>
          cases received
          rfl

theorem receive_none_iff (queue : Queue α capacity) : queue.receive = none ↔ queue.items = [] := by
  cases queue with
  | mk items bounded => cases items <;> simp [receive]

-- With room for one item a queue is either empty or holds exactly one item.
theorem single_cases (queue : Queue α 1) : queue.items = [] ∨ ∃ item, queue.items = [item] := by
  cases queue with
  | mk items bounded =>
      match items, bounded with
      | [], _ => exact .inl rfl
      | [item], _ => exact .inr ⟨item, rfl⟩
      | _ :: _ :: _, bounded => simp at bounded

theorem send_single (queue after : Queue α 1) (item : α) (sent : queue.send item = some after) :
    queue.items = [] ∧ after.items = [item] := by
  have appended := send_some queue after item sent
  rcases single_cases queue with none | ⟨old, one⟩
  · exact ⟨none, by simpa [none] using appended⟩
  · have bound := after.bounded
    simp [appended, one] at bound

end Queue

end Miso.Base
