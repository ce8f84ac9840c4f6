import Miso.Base.Errdefer

set_option autoImplicit false

namespace Miso.Base

variable {ε σ ρ α : Type}

-- A call, a test of its result, an error when the test says so, and otherwise
-- what is made of the result.
def failIf (call : StateM σ ρ) (refused : ρ → Bool) (failure : ε) (given : ρ → α) : Fallible ε σ α := do
  let result ← lifted call
  if refused result then fail failure else pure (given result)

def okIf (call : StateM σ ρ) (passed : ρ → Bool) (failure : ε) (given : ρ → α) : Fallible ε σ α := do
  let result ← lifted call
  if passed result then pure (given result) else fail failure

-- The wrapper ends with an error just when the call failed, otherwise with
-- what the call gave, and does nothing beside the call.
structure Mapped (call : StateM σ ρ) (failed : ρ → Prop) (given : ρ → α) (wrapper : Fallible ε σ α) (state : σ) : Prop where
  errs : (∃ failure, (Fallible.exec wrapper state).1 = .error failure) ↔ failed (call.run state).1
  gives : ∀ value, (Fallible.exec wrapper state).1 = .ok value → value = given (call.run state).1
  frame : (Fallible.exec wrapper state).2 = (call.run state).2

theorem fail_if_exec (call : StateM σ ρ) (refused : ρ → Bool) (failure : ε) (given : ρ → α) (state : σ) :
    Fallible.exec (failIf call refused failure given) state =
      (if refused (call.run state).1 then .error failure else .ok (given (call.run state).1), (call.run state).2) := by
  have ran := Fallible.exec_bind_ok (lifted call)
    (fun result => if refused result then fail failure else pure (given result) : ρ → Fallible ε σ α) state _ _
    (Fallible.exec_lifted call state)
  rw [failIf, ran]
  split <;> rfl

theorem ok_if_eq (call : StateM σ ρ) (passed : ρ → Bool) (failure : ε) (given : ρ → α) :
    okIf call passed failure given = failIf call (fun result => !passed result) failure given := by
  apply congrArg (lifted call >>= ·)
  funext result
  cases verdict : passed result with
  | true => simp [verdict]
  | false => simp [verdict]

theorem fail_if_error (call : StateM σ ρ) (refused : ρ → Bool) (failure : ε) (given : ρ → α) (state : σ) :
    (Fallible.exec (failIf call refused failure given) state).1 = .error failure ↔ refused (call.run state).1 = true := by
  rw [fail_if_exec]
  cases refused (call.run state).1 with
  | true => simp
  | false => simp

theorem fail_if_errs (call : StateM σ ρ) (refused : ρ → Bool) (failure : ε) (given : ρ → α) (state : σ) :
    (∃ ended, (Fallible.exec (failIf call refused failure given) state).1 = .error ended) ↔ refused (call.run state).1 = true := by
  rw [fail_if_exec]
  cases refused (call.run state).1 with
  | true => simp
  | false => simp

theorem fail_if_mapped (call : StateM σ ρ) (refused : ρ → Bool) (failed : ρ → Prop) (failure : ε) (given : ρ → α) (state : σ) :
    Mapped call failed given (failIf call refused failure given) state ↔
      (refused (call.run state).1 = true ↔ failed (call.run state).1) := by
  constructor
  · intro mapped
    exact (fail_if_errs call refused failure given state).symm.trans mapped.errs
  · intro same
    have ran := fail_if_exec call refused failure given state
    refine ⟨(fail_if_errs call refused failure given state).trans same, fun value => ?_, congrArg Prod.snd ran⟩
    rw [ran]
    cases refused (call.run state).1 with
    | true => simp
    | false => simpa using Eq.symm

theorem ok_if_mapped (call : StateM σ ρ) (passed : ρ → Bool) (failed : ρ → Prop) (failure : ε) (given : ρ → α) (state : σ) :
    Mapped call failed given (okIf call passed failure given) state ↔
      (passed (call.run state).1 = false ↔ failed (call.run state).1) := by
  rw [ok_if_eq, fail_if_mapped, Bool.not_eq_true']

-- A wrapper that makes its object whatever the call returns.
theorem unchecked_mapped (call : StateM σ ρ) (failed : ρ → Prop) (given : ρ → α) (state : σ) :
    Mapped call failed given (do let result ← lifted call; pure (given result) : Fallible ε σ α) state ↔
      ¬ failed (call.run state).1 := by
  constructor
  · intro mapped refused
    obtain ⟨failure, ended⟩ := mapped.errs.mpr refused
    cases ended
  · intro fine
    refine ⟨⟨fun ended => ?_, fun refused => absurd refused fine⟩, fun value ended => ?_, rfl⟩
    · obtain ⟨failure, ended⟩ := ended
      cases ended
    · exact (Except.ok.inj ended).symm

end Miso.Base
