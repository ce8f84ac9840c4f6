import Mathlib.Logic.Function.Basic

set_option autoImplicit false

namespace Miso.Base

universe u v w

-- A system is a partial step function: an action is disabled in a state
-- (none) or leads to one next state. Nondeterminism lives in the actions.
abbrev Step (σ : Type u) (α : Type v) := σ → α → Option σ

section Reachability

variable {σ : Type u} {α : Type v}

def run (step : Step σ α) (state : σ) : List α → Option σ
  | [] => some state
  | action :: rest => (step state action).bind fun next => run step next rest

-- The states of every run whose steps all meet a condition on the state
-- before the step.
inductive Reach (step : Step σ α) (meets : σ → α → Prop) (initial : σ) : σ → Prop where
  | start : Reach step meets initial initial
  | next (state : σ) (action : α) (after : σ) (prior : Reach step meets initial state)
      (met : meets state action) (taken : step state action = some after) : Reach step meets initial after

def always (_ : σ) (_ : α) : Prop := True

instance (state : σ) (action : α) : Decidable (always state action) := inferInstanceAs (Decidable True)

theorem reach_invariant (step : Step σ α) (meets : σ → α → Prop) (initial : σ) (inv : σ → Prop)
    (base : inv initial)
    (preserved : ∀ state action after, inv state → meets state action → step state action = some after → inv after)
    (state : σ) (reached : Reach step meets initial state) : inv state := by
  induction reached with
  | start => exact base
  | next state action after _ met taken ih => exact preserved state action after ih met taken

theorem reach_trans (step : Step σ α) (meets : σ → α → Prop) (first second third : σ)
    (left : Reach step meets first second) (right : Reach step meets second third) : Reach step meets first third := by
  induction right with
  | start => exact left
  | next state action after _ met taken ih => exact .next state action after ih met taken

def guarded (step : Step σ α) (meets : σ → α → Prop) [∀ state action, Decidable (meets state action)] : Step σ α :=
  fun state action => if meets state action then step state action else none

def StatesHold (step : Step σ α) (holds : σ → Prop) (state : σ) : List α → Prop
  | [] => holds state
  | action :: rest => holds state ∧ ∀ next, step state action = some next → StatesHold step holds next rest

def StepsMeet (step : Step σ α) (meets : σ → α → Prop) (state : σ) : List α → Prop
  | [] => True
  | action :: rest => ∀ next, step state action = some next → meets state action ∧ StepsMeet step meets next rest

def StepsMeet.decide (step : Step σ α) (meets : σ → α → Prop) [∀ state action, Decidable (meets state action)] (state : σ) :
    (actions : List α) → Decidable (StepsMeet step meets state actions)
  | [] => isTrue trivial
  | action :: rest =>
      match taken : step state action with
      | none => isTrue fun next moved => by simp [taken] at moved
      | some after =>
          have := StepsMeet.decide step meets after rest
          decidable_of_iff (meets state action ∧ StepsMeet step meets after rest) (by simp [StepsMeet, taken])

instance (step : Step σ α) (meets : σ → α → Prop) [∀ state action, Decidable (meets state action)] (state : σ)
    (actions : List α) : Decidable (StepsMeet step meets state actions) := StepsMeet.decide step meets state actions

theorem states_hold_first (step : Step σ α) (holds : σ → Prop) (state : σ) (actions : List α)
    (along : StatesHold step holds state actions) : holds state := by
  cases actions with
  | nil => exact along
  | cons _ _ => exact along.1

theorem states_hold_last (step : Step σ α) (holds : σ → Prop) (state final : σ) (actions : List α)
    (along : StatesHold step holds state actions) (ran : run step state actions = some final) : holds final := by
  induction actions generalizing state with
  | nil =>
      obtain rfl : state = final := by simpa [run] using ran
      exact along
  | cons action rest ih =>
      obtain ⟨next, taken, remaining⟩ := Option.bind_eq_some_iff.mp ran
      exact ih next (along.2 next taken) remaining

theorem states_hold_iff (step : Step σ α) (inv holds : σ → Prop) (meets : σ → α → Prop)
    (kept : ∀ state action after, inv state → step state action = some after → inv after)
    (exact : ∀ state action after, inv state → holds state → step state action = some after →
      (holds after ↔ meets state action))
    (state : σ) (actions : List α) (base : inv state) (first : holds state) :
    StatesHold step holds state actions ↔ StepsMeet step meets state actions := by
  induction actions generalizing state with
  | nil => exact iff_of_true first trivial
  | cons action rest ih =>
      constructor
      · intro along next taken
        have held := along.2 next taken
        have fine := states_hold_first step holds next rest held
        exact ⟨(exact state action next base first taken).mp fine, (ih next (kept state action next base taken) fine).mp held⟩
      · intro along
        refine ⟨first, fun next taken => ?_⟩
        have fine := (exact state action next base first taken).mpr (along next taken).1
        exact (ih next (kept state action next base taken) fine).mpr (along next taken).2

theorem steps_meet_states_hold (step : Step σ α) (inv holds : σ → Prop) (meets : σ → α → Prop)
    (kept : ∀ state action after, inv state → meets state action → step state action = some after → inv after)
    (implied : ∀ state, inv state → holds state) (state : σ) (actions : List α) (base : inv state)
    (along : StepsMeet step meets state actions) : StatesHold step holds state actions := by
  induction actions generalizing state with
  | nil => exact implied state base
  | cons action rest ih =>
      refine ⟨implied state base, fun next taken => ?_⟩
      obtain ⟨met, later⟩ := along next taken
      exact ih next (kept state action next base met taken) later

theorem steps_meet_implied (step : Step σ α) (inv : σ → Prop) (meets other : σ → α → Prop)
    (kept : ∀ state action after, inv state → meets state action → step state action = some after → inv after)
    (implied : ∀ state action, inv state → meets state action → other state action)
    (state : σ) (actions : List α) (base : inv state) (along : StepsMeet step meets state actions) :
    StepsMeet step other state actions := by
  induction actions generalizing state with
  | nil => trivial
  | cons action rest ih =>
      intro next taken
      obtain ⟨met, later⟩ := along next taken
      exact ⟨implied state action base met, ih next (kept state action next base met taken) later⟩

-- A step that breaks the condition dooms the run, and a doomed run stays so.
theorem steps_meet_of_safe (step : Step σ α) (inv doomed : σ → Prop) (meets : σ → α → Prop)
    (kept : ∀ state action after, inv state → step state action = some after → inv after)
    (broken : ∀ state action after, inv state → ¬ meets state action → step state action = some after → doomed after)
    (stays : ∀ state action after, inv state → doomed state → step state action = some after → doomed after)
    (state final : σ) (actions : List α) (base : inv state) (ran : run step state actions = some final)
    (safe : ¬ doomed final) : StepsMeet step meets state actions ∧ ¬ doomed state := by
  induction actions generalizing state with
  | nil =>
      obtain rfl : state = final := by simpa [run] using ran
      exact ⟨trivial, safe⟩
  | cons action rest ih =>
      obtain ⟨next, taken, remaining⟩ := Option.bind_eq_some_iff.mp ran
      obtain ⟨later, fine⟩ := ih next (kept state action next base taken) remaining
      refine ⟨fun other again => ?_, fun already => fine (stays state action next base already taken)⟩
      obtain rfl : next = other := Option.some.inj (taken.symm.trans again)
      refine ⟨?_, later⟩
      by_contra unmet
      exact fine (broken state action next base unmet taken)

theorem guarded_run_reach (step : Step σ α) (meets : σ → α → Prop) [∀ state action, Decidable (meets state action)]
    (initial final : σ) (actions : List α) (ran : run (guarded step meets) initial actions = some final) :
    Reach step meets initial final := by
  induction actions generalizing initial with
  | nil =>
      obtain rfl : initial = final := by simpa [run] using ran
      exact .start
  | cons action rest ih =>
      obtain ⟨next, taken, remaining⟩ := Option.bind_eq_some_iff.mp ran
      by_cases met : meets initial action
      · have stepped : step initial action = some next := by simpa [guarded, met] using taken
        exact reach_trans step meets initial next final (.next initial action next .start met stepped) (ih next remaining)
      · simp [guarded, met] at taken

theorem guarded_run_view {β : Type w} (step : Step σ α) (meets : σ → α → Prop)
    [∀ state action, Decidable (meets state action)] (initial : σ) (actions : List α) (view : σ → β) (value : β)
    (ran : (run (guarded step meets) initial actions).map view = some value) :
    ∃ state, Reach step meets initial state ∧ view state = value := by
  obtain ⟨state, final, seen⟩ := Option.map_eq_some_iff.mp ran
  exact ⟨state, guarded_run_reach step meets initial state actions final, seen⟩

end Reachability

section Monitors

variable {σ : Type u} {α : Type v} {ε : Type w} {μ : Type w}

-- A monitor reads the events a system shows and says which event may come
-- next. It is the abstract protocol the system is compared with.
structure Monitor (μ : Type w) (ε : Type w) where
  update : μ → ε → μ
  allowed : μ → ε → Prop

def Monitor.after (monitor : Monitor μ ε) (state : μ) (events : List ε) : μ := events.foldl monitor.update state

def Monitor.Accepts (monitor : Monitor μ ε) : μ → List ε → Prop
  | _, [] => True
  | state, event :: rest => monitor.allowed state event ∧ monitor.Accepts (monitor.update state event) rest

theorem Monitor.after_append (monitor : Monitor μ ε) (state : μ) (first second : List ε) :
    monitor.after state (first ++ second) = monitor.after (monitor.after state first) second := List.foldl_append

theorem Monitor.accepts_append (monitor : Monitor μ ε) (state : μ) (first second : List ε) :
    monitor.Accepts state (first ++ second) ↔
      monitor.Accepts state first ∧ monitor.Accepts (monitor.after state first) second := by
  induction first generalizing state with
  | nil => simp [Accepts, after]
  | cons event rest ih =>
      simp only [List.cons_append, Accepts, ih, and_assoc]
      rfl

-- The system and the monitor side by side, the monitor fed with what each
-- step shows, read off the states before and after it.
def watched (step : Step σ α) (shows : σ → α → σ → List ε) (monitor : Monitor μ ε) : Step (σ × μ) α :=
  fun state action => (step state.1 action).map fun next => (next, monitor.after state.2 (shows state.1 action next))

theorem watched_some_iff (step : Step σ α) (shows : σ → α → σ → List ε) (monitor : Monitor μ ε)
    (state after : σ × μ) (action : α) :
    watched step shows monitor state action = some after ↔
      step state.1 action = some after.1 ∧ after.2 = monitor.after state.2 (shows state.1 action after.1) := by
  cases after with
  | mk next seen =>
      simp only [watched, Option.map_eq_some_iff, Prod.mk.injEq]
      constructor
      · rintro ⟨reached, taken, rfl, rfl⟩
        exact ⟨taken, rfl⟩
      · rintro ⟨taken, rfl⟩
        exact ⟨next, taken, rfl, rfl⟩

end Monitors

end Miso.Base
