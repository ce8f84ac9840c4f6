set_option autoImplicit false

namespace Miso.Base

section Written

variable {σ α β : Type}

-- What is in a cell after actions that each leave it alone or write it: the
-- last value written, if there is one.
def lastWritten (writes : α → Option β) (actions : List α) : Option β := (actions.filterMap writes).getLast?

theorem last_written_cons (writes : α → Option β) (action : α) (rest : List α) :
    lastWritten writes (action :: rest) = (lastWritten writes rest).or (writes action) := by
  unfold lastWritten
  rw [List.filterMap_cons]
  cases written : writes action with
  | none => rw [Option.or_none]
  | some value =>
      rw [List.getLast?_cons]
      cases (rest.filterMap writes).getLast? with
      | none => rfl
      | some later => rfl

theorem last_written_foldl (apply : σ → α → σ) (view : σ → β) (writes : α → Option β)
    (stored : ∀ state action, view (apply state action) = (writes action).getD (view state)) (state : σ) (actions : List α) :
    view (actions.foldl apply state) = (lastWritten writes actions).getD (view state) := by
  induction actions generalizing state with
  | nil => rfl
  | cons action rest ih =>
      rw [List.foldl_cons, ih, stored, last_written_cons]
      cases lastWritten writes rest with
      | none => rfl
      | some later => rfl

-- The values that leave a cell as it is found are the ones that all its last
-- writes have.
theorem last_written_same (writes : α → Option β) (actions : List α) (value : β) :
    (lastWritten writes actions).getD value = value ↔ ∀ written, lastWritten writes actions = some written → written = value := by
  cases lastWritten writes actions with
  | none => simp
  | some written => simp

end Written

section Logged

variable {σ α ε : Type}

theorem mem_log_foldl (apply : σ → α → σ) (log : σ → List ε) (emits : σ → α → List ε)
    (logged : ∀ state action, log (apply state action) = log state ++ emits state action) (event : ε) (state : σ)
    (actions : List α) :
    event ∈ log (actions.foldl apply state) ↔
      event ∈ log state ∨ ∃ before action rest, actions = before ++ action :: rest ∧ event ∈ emits (before.foldl apply state) action := by
  induction actions generalizing state with
  | nil => simp
  | cons first others ih =>
      rw [List.foldl_cons, ih, logged, List.mem_append, or_assoc]
      refine or_congr Iff.rfl ?_
      constructor
      · intro found
        rcases found with here | ⟨before, action, rest, split, later⟩
        · exact ⟨[], first, others, rfl, here⟩
        · exact ⟨first :: before, action, rest, by rw [split, List.cons_append], later⟩
      · intro found
        obtain ⟨before, action, rest, split, here⟩ := found
        cases before with
        | nil =>
            obtain ⟨rfl, rfl⟩ := List.cons.inj split
            exact .inl here
        | cons head tail =>
            obtain ⟨rfl, rfl⟩ := List.cons.inj split
            exact .inr ⟨tail, action, rest, rfl, here⟩

end Logged

end Miso.Base
