import Miso.Base.Frame

set_option autoImplicit false

namespace Miso.Base

variable {ε σ τ α β γ : Type}

-- Programs over a state that may end with an error: the state is kept.
abbrev Fallible (ε σ α : Type) := ExceptT ε (StateM σ) α

def Fallible.exec (prog : Fallible ε σ α) (state : σ) : Except ε α × σ := (ExceptT.run prog).run state

-- Runs after a body that ends with an error, and before the error leaves.
def errdefer (cleanup : StateM σ Unit) (body : Fallible ε σ α) : Fallible ε σ α := ExceptT.mk do
  match ← ExceptT.run body with
  | .ok value => pure (.ok value)
  | .error failure => do
      cleanup
      pure (.error failure)

def deferred (cleanup : StateM σ Unit) (body : Fallible ε σ α) : Fallible ε σ α := ExceptT.mk do
  let result ← ExceptT.run body
  cleanup
  pure result

def ignoring (body : Fallible ε σ Unit) : StateM σ Unit := do
  let _ ← ExceptT.run body

def lifted (prog : StateM σ α) : Fallible ε σ α := ExceptT.mk do
  let value ← prog
  pure (.ok value)

def zoom (part : σ → τ) (put : σ → τ → σ) (body : Fallible ε τ α) : Fallible ε σ α := ExceptT.mk fun state =>
  ((body.exec (part state)).1, put state (body.exec (part state)).2)

def fail (failure : ε) : Fallible ε σ α := ExceptT.mk (pure (.error failure))

namespace Fallible

@[simp] theorem exec_pure (value : α) (state : σ) : exec (pure value : Fallible ε σ α) state = (.ok value, state) := rfl

@[simp] theorem exec_fail (failure : ε) (state : σ) : exec (fail failure : Fallible ε σ α) state = (.error failure, state) := rfl

@[simp] theorem exec_lifted (prog : StateM σ α) (state : σ) :
    exec (lifted prog : Fallible ε σ α) state = (.ok (prog.run state).1, (prog.run state).2) := rfl

theorem exec_bind (first : Fallible ε σ α) (rest : α → Fallible ε σ β) (state : σ) :
    exec (first >>= rest) state = (ExceptT.bindCont rest (exec first state).1 : StateM σ _).run (exec first state).2 := rfl

theorem exec_bind_ok (first : Fallible ε σ α) (rest : α → Fallible ε σ β) (state after : σ) (value : α)
    (succeeded : exec first state = (.ok value, after)) : exec (first >>= rest) state = exec (rest value) after := by
  rw [exec_bind, succeeded]
  rfl

theorem exec_bind_error (first : Fallible ε σ α) (rest : α → Fallible ε σ β) (state after : σ) (failure : ε)
    (failed : exec first state = (.error failure, after)) : exec (first >>= rest) state = (.error failure, after) := by
  rw [exec_bind, failed]
  rfl

theorem exec_errdefer_ok (cleanup : StateM σ Unit) (body : Fallible ε σ α) (state after : σ) (value : α)
    (succeeded : exec body state = (.ok value, after)) : exec (errdefer cleanup body) state = (.ok value, after) := by
  have opened : exec (errdefer cleanup body) state = (match (exec body state).1 with
    | .ok value => pure (.ok value)
    | .error failure => do
        cleanup
        pure (.error failure) : StateM σ (Except ε α)).run (exec body state).2 := rfl
  rw [opened, succeeded]
  rfl

theorem exec_errdefer_error (cleanup : StateM σ Unit) (body : Fallible ε σ α) (state after : σ) (failure : ε)
    (failed : exec body state = (.error failure, after)) :
    exec (errdefer cleanup body) state = (.error failure, (cleanup.run after).2) := by
  have opened : exec (errdefer cleanup body) state = (match (exec body state).1 with
    | .ok value => pure (.ok value)
    | .error failure => do
        cleanup
        pure (.error failure) : StateM σ (Except ε α)).run (exec body state).2 := rfl
  rw [opened, failed]
  rfl

theorem exec_deferred (cleanup : StateM σ Unit) (body : Fallible ε σ α) (state : σ) :
    exec (deferred cleanup body) state = ((exec body state).1, (cleanup.run (exec body state).2).2) := rfl

theorem exec_zoom (part : σ → τ) (put : σ → τ → σ) (body : Fallible ε τ α) (state : σ) :
    exec (zoom part put body) state = ((exec body (part state)).1, put state (exec body (part state)).2) := rfl

end Fallible

-- The codes a call returns while its caller repeats it, and the one that ends
-- the loop.
structure Script (again : Int → Bool) where
  before : List Int
  last : Int
  retried : ∀ code, code ∈ before → again code = true
  ended : again last = false

namespace Script

variable {again : Int → Bool}

def codes (script : Script again) : List Int := script.before ++ [script.last]

end Script

-- while (again(ret)) ret = call();
def callWhile (again : Int → Bool) (record : Int → σ → σ) : Int → List Int → StateM σ Int
  | ret, [] => pure ret
  | ret, code :: rest =>
      if again ret then do
        modify (record code)
        callWhile again record code rest
      else pure ret

theorem call_while_script (again : Int → Bool) (record : Int → σ → σ) (script : Script again) (ret : Int)
    (first : again ret = true) (state : σ) :
    (callWhile again record ret script.codes).run state =
      (script.last, script.codes.foldl (fun state code => record code state) state) := by
  cases script with
  | mk before last retried ended =>
      simp only [Script.codes]
      clear ended
      induction before generalizing ret state with
      | nil => simp [callWhile, first]; rfl
      | cons code rest ih =>
          have next := ih code (retried code List.mem_cons_self) (record code state)
            (fun other member => retried other (List.mem_cons_of_mem code member))
          rw [List.cons_append, callWhile, if_pos first]
          exact next

section Frame

variable (view : σ → γ)

theorem keeps_fail (failure : ε) : Keeps view (ExceptT.run (fail failure : Fallible ε σ α)) := fun _ => rfl

theorem keeps_ok (value : α) : Keeps view (ExceptT.run (pure value : Fallible ε σ α)) := fun _ => rfl

theorem keeps_fail_or (condition : Prop) [Decidable condition] (failure : ε) (value : α) :
    Keeps view (ExceptT.run (if condition then fail failure else pure value : Fallible ε σ α)) := by
  split
  · exact keeps_fail view failure
  · exact keeps_ok view value

theorem keeps_lifted (prog : StateM σ α) (kept : Keeps view prog) : Keeps view (ExceptT.run (lifted prog : Fallible ε σ α)) :=
  fun state => kept state

theorem keeps_then (first : Fallible ε σ α) (rest : α → Fallible ε σ β) (left : Keeps view (ExceptT.run first))
    (right : ∀ value, Keeps view (ExceptT.run (rest value))) : Keeps view (ExceptT.run (first >>= rest)) := by
  apply keeps_bind view (ExceptT.run first) (ExceptT.bindCont rest) left
  intro result
  cases result with
  | ok value => exact right value
  | error failure => exact keeps_pure view _

theorem keeps_errdefer (cleanup : StateM σ Unit) (body : Fallible ε σ α) (cleaned : Keeps view cleanup)
    (kept : Keeps view (ExceptT.run body)) : Keeps view (ExceptT.run (errdefer cleanup body)) := by
  intro state
  have before := kept state
  cases ran : Fallible.exec body state with
  | mk result after =>
      have same : ((ExceptT.run body).run state).2 = after := congrArg Prod.snd ran
      rw [same] at before
      cases result with
      | ok value =>
          have outcome := Fallible.exec_errdefer_ok cleanup body state after value ran
          exact (congrArg (fun pair => view pair.2) outcome).trans before
      | error failure =>
          have outcome := Fallible.exec_errdefer_error cleanup body state after failure ran
          exact (congrArg (fun pair => view pair.2) outcome).trans ((cleaned after).trans before)

theorem keeps_deferred (cleanup : StateM σ Unit) (body : Fallible ε σ α) (cleaned : Keeps view cleanup)
    (kept : Keeps view (ExceptT.run body)) : Keeps view (ExceptT.run (deferred cleanup body)) :=
  keeps_bind view _ _ kept fun _ => keeps_bind view _ _ cleaned fun _ => keeps_pure view _

theorem keeps_ignoring (body : Fallible ε σ Unit) (kept : Keeps view (ExceptT.run body)) : Keeps view (ignoring body) :=
  keeps_bind view _ _ kept fun _ => keeps_pure view _

theorem keeps_call_while (again : Int → Bool) (record : Int → σ → σ) (kept : ∀ code state, view (record code state) = view state)
    (ret : Int) (codes : List Int) : Keeps view (callWhile again record ret codes) := by
  induction codes generalizing ret with
  | nil => exact keeps_pure view ret
  | cons code rest ih =>
      rw [callWhile]
      exact keeps_ite view _ _ _ (keeps_bind view _ _ (fun state => kept code state) fun _ => ih code) (keeps_pure view ret)

end Frame

end Miso.Base
