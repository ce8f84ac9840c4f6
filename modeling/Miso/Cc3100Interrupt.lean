import Mathlib.Logic.Function.Basic
import Miso.Base.Queue
import Miso.Base.Run

set_option autoImplicit false

namespace Miso.Cc3100.Interrupt

open Base (Queue Step run StatesHold StepsMeet steps_meet_states_hold states_hold_last)

-- The timer-command queue carries the pended calls of timerContextCallback,
-- here with the number of their edge, among the commands of the timers.
inductive Command where
  | edge (id : Nat)
  | other
deriving DecidableEq

-- The timer task, around the test and the call of timerContextCallback. A
-- call through NULL ends everything.
inductive Timer where
  | idle
  | check (id : Nat)
  | call (id : Nat)
  | crashed
deriving DecidableEq

inductive Registrar (η ν : Type) where
  | idle
  | writeHandler (interruptHdl : Option η) (pValue : ν)
  | writeValue (interruptHdl : Option η) (pValue : ν)
  | configure (interruptHdl : Option η)

-- An edge that met a registered handler; standing until another one, or
-- none, is registered.
structure Edge (η : Type) where
  handler : η
  standing : Bool

structure Invocation (η ν : Type) where
  edge : Nat
  handler : η
  value : ν

structure State (ι η ν : Type) (capacity : Nat) where
  interruptHandlerCallback : Option η
  interruptHandlerPValue : ν
  extIntEnabled : Bool
  registrar : ι → Registrar η ν
  queue : Queue Command capacity
  timer : Timer
  edges : List (Edge η)
  invocations : List (Invocation η ν)

inductive Action (ι η ν : Type) where
  | edge
  | produce
  | timer
  | register (task : ι) (interruptHdl : Option η) (pValue : ν)
  | registrar (task : ι)

section

variable {ι η ν : Type} {capacity : Nat} [DecidableEq ι] [DecidableEq η]

-- A refused call is not pended, and nobody is told.
def cc3100InterruptCallback (state : State ι η ν capacity) (id : Nat) : Queue Command capacity :=
  if state.interruptHandlerCallback.isSome then (state.queue.send (.edge id)).getD state.queue else state.queue

-- Every edge that comes while a handler is set is recorded; the callback
-- runs only where the GPIO interrupt is on.
def edgeStep (state : State ι η ν capacity) : State ι η ν capacity :=
  match state.interruptHandlerCallback with
  | some handler => { state with
      edges := state.edges ++ [⟨handler, true⟩]
      queue := if state.extIntEnabled then cc3100InterruptCallback state state.edges.length else state.queue }
  | none => state

def timerStep (state : State ι η ν capacity) : Option (State ι η ν capacity) :=
  match state.timer with
  | .idle => state.queue.receive.map fun taken => match taken.1 with
      | .edge id => { state with queue := taken.2, timer := .check id }
      | .other => { state with queue := taken.2 }
  | .check id =>
      some { state with timer := if state.interruptHandlerCallback.isSome then .call id else .idle }
  | .call id => match state.interruptHandlerCallback with
      | some handler => some { state with
          timer := .idle
          invocations := state.invocations ++ [⟨id, handler, state.interruptHandlerPValue⟩] }
      | none => some { state with timer := .crashed }
  | .crashed => none

def Edge.written (interruptHdl : Option η) (edge : Edge η) : Edge η :=
  { edge with standing := edge.standing && decide (interruptHdl = some edge.handler) }

def State.enter (state : State ι η ν capacity) (task : ι) (stage : Registrar η ν) : State ι η ν capacity :=
  { state with registrar := Function.update state.registrar task stage }

def registrarStep (state : State ι η ν capacity) (task : ι) : Option (State ι η ν capacity) :=
  match state.registrar task with
  | .idle => none
  | .writeHandler interruptHdl pValue =>
      some ({ state with
        interruptHandlerCallback := interruptHdl
        edges := state.edges.map (Edge.written interruptHdl) }.enter task (.writeValue interruptHdl pValue))
  | .writeValue interruptHdl pValue =>
      some ({ state with interruptHandlerPValue := pValue }.enter task (.configure interruptHdl))
  | .configure interruptHdl => some ({ state with extIntEnabled := interruptHdl.isSome }.enter task .idle)

def step : Step (State ι η ν capacity) (Action ι η ν) := fun state action =>
  if state.timer = .crashed then none
  else match action with
    | .edge => some (edgeStep state)
    | .produce => (state.queue.send .other).map fun queue => { state with queue := queue }
    | .timer => timerStep state
    | .register task interruptHdl pValue => match state.registrar task with
        | .idle => some (state.enter task (.writeHandler interruptHdl pValue))
        | _ => none
    | .registrar task => registrarStep state task

def Drained (state : State ι η ν capacity) : Prop := state.timer = .idle ∧ ∀ id, .edge id ∉ state.queue.items

-- No edge is delivered twice, and once the queue is drained each standing
-- edge has led to one call of its handler.
structure Delivered (state : State ι η ν capacity) : Prop where
  once : ∀ id, (state.invocations.map Invocation.edge).count id ≤ 1
  exactly : Drained state → ∀ id edge, state.edges[id]? = some edge → edge.standing = true →
    ∃ value, (state.invocations.filter fun call => call.edge = id) = [⟨id, edge.handler, value⟩]

-- An edge that comes while a handler is set finds the interrupt on and room
-- in the queue.
def Heard (state : State ι η ν capacity) : Action ι η ν → Prop
  | .edge => state.interruptHandlerCallback.isSome = true → state.extIntEnabled = true ∧ state.queue.items.length < capacity
  | _ => True

instance (state : State ι η ν capacity) (action : Action ι η ν) : Decidable (Heard state action) :=
  match action with
  | .edge => inferInstanceAs (Decidable (_ → _ ∧ _))
  | .produce | .timer | .register _ _ _ | .registrar _ => inferInstanceAs (Decidable True)

def Timer.carries (timer : Timer) (id : Nat) : Nat :=
  match timer with
  | .check carried | .call carried => if carried = id then 1 else 0
  | .idle | .crashed => 0

-- Where an edge is: queued, with the timer task, or delivered.
def places (state : State ι η ν capacity) (id : Nat) : Nat :=
  state.queue.items.count (.edge id) + state.timer.carries id + (state.invocations.map Invocation.edge).count id

structure Inv (state : State ι η ν capacity) : Prop where
  fresh : ∀ id, state.edges.length ≤ id → places state id = 0
  once : ∀ id, places state id ≤ 1
  standing : ∀ id edge, state.edges[id]? = some edge → edge.standing = true →
    places state id = 1 ∧ state.interruptHandlerCallback = some edge.handler ∧
      ∀ call ∈ state.invocations, call.edge = id → call.handler = edge.handler

omit [DecidableEq ι] [DecidableEq η] in
theorem unplaced_uncalled (state : State ι η ν capacity) (id : Nat) (none : places state id = 0) (call : Invocation η ν)
    (member : call ∈ state.invocations) : call.edge ≠ id := by
  intro same
  have uncounted : (state.invocations.map Invocation.edge).count id = 0 := by
    simp only [places] at none
    omega
  exact List.count_eq_zero.mp uncounted (List.mem_map.mpr ⟨call, member, same⟩)

omit [DecidableEq ι] [DecidableEq η] in
theorem inv_delivered (state : State ι η ν capacity) (inv : Inv state) : Delivered state where
  once := by
    intro id
    have once := inv.once id
    simp only [places] at once
    omega
  exactly := by
    rintro ⟨idle, drained⟩ id edge recorded standing
    obtain ⟨placed, _, handlers⟩ := inv.standing id edge recorded standing
    have queued : state.queue.items.count (.edge id) = 0 := List.count_eq_zero.mpr (drained id)
    have called : (state.invocations.map Invocation.edge).count id = 1 := by
      simp only [places, queued, idle, Timer.carries] at placed
      omega
    have one : (state.invocations.filter fun call => call.edge = id).length = 1 := by
      rw [← called, List.count_eq_length_filter, List.filter_map, List.length_map]
      congr 1
    obtain ⟨call, only⟩ := List.length_eq_one_iff.mp one
    have member : call ∈ state.invocations.filter fun call => call.edge = id := by
      rw [only]
      exact List.mem_singleton_self _
    obtain ⟨made, same⟩ := List.mem_filter.mp member
    have edge_id : call.edge = id := by simpa using same
    have handler := handlers call made edge_id
    refine ⟨call.value, ?_⟩
    rw [only, ← edge_id, ← handler]

-- Steps that move edges on, or give up those of handlers no longer there.
omit [DecidableEq ι] [DecidableEq η] in
theorem inv_moved (state after : State ι η ν capacity) (inv : Inv state) (edges : after.edges = state.edges)
    (callback : after.interruptHandlerCallback = state.interruptHandlerCallback)
    (fewer : ∀ id, places after id ≤ places state id)
    (kept : state.interruptHandlerCallback.isSome = true → ∀ id, places after id = places state id)
    (calls : ∀ call ∈ after.invocations, call ∈ state.invocations ∨ state.interruptHandlerCallback = some call.handler) :
    Inv after where
  fresh := by
    intro id bound
    rw [edges] at bound
    have none := inv.fresh id bound
    have less := fewer id
    omega
  once := fun id => Nat.le_trans (fewer id) (inv.once id)
  standing := by
    intro id edge recorded standing
    rw [edges] at recorded
    obtain ⟨placed, registered, handlers⟩ := inv.standing id edge recorded standing
    refine ⟨(kept (by rw [registered]; rfl) id).trans placed, callback.trans registered, fun call member same => ?_⟩
    rcases calls call member with old | new
    · exact handlers call old same
    · exact Option.some.inj (new.symm.trans registered)

omit [DecidableEq ι] [DecidableEq η] in
theorem inv_shifted (state after : State ι η ν capacity) (inv : Inv state) (edges : after.edges = state.edges)
    (callback : after.interruptHandlerCallback = state.interruptHandlerCallback)
    (moved : ∀ id, places after id = places state id)
    (calls : ∀ call ∈ after.invocations, call ∈ state.invocations ∨ state.interruptHandlerCallback = some call.handler) :
    Inv after :=
  inv_moved state after inv edges callback (fun id => Nat.le_of_eq (moved id)) (fun _ => moved) calls

-- A fresh edge is pended under its own number.
omit [DecidableEq ι] [DecidableEq η] in
theorem inv_pended (state : State ι η ν capacity) (handler : η) (queue : Queue Command capacity) (inv : Inv state)
    (callback : state.interruptHandlerCallback = some handler)
    (items : queue.items = state.queue.items ++ [.edge state.edges.length]) :
    Inv { state with edges := state.edges ++ [⟨handler, true⟩], queue := queue } := by
  have moved (id : Nat) : places { state with edges := state.edges ++ [⟨handler, true⟩], queue := queue } id =
      places state id + if state.edges.length = id then 1 else 0 := by
    simp only [places, items, List.count_append, List.count_singleton, beq_iff_eq, Command.edge.injEq]
    omega
  have unplaced := inv.fresh state.edges.length (Nat.le_refl _)
  have pended : places { state with edges := state.edges ++ [⟨handler, true⟩], queue := queue } state.edges.length = 1 := by
    rw [moved, unplaced, if_pos rfl]
  have other (id : Nat) (different : id ≠ state.edges.length) :
      places { state with edges := state.edges ++ [⟨handler, true⟩], queue := queue } id = places state id := by
    rw [moved, if_neg (Ne.symm different)]
    rfl
  exact {
    fresh := by
      intro id bound
      have beyond : state.edges.length + 1 ≤ id := by simpa using bound
      rw [other id (by omega)]
      exact inv.fresh id (by omega)
    once := by
      intro id
      by_cases here : id = state.edges.length
      · exact Nat.le_of_eq (here ▸ pended)
      · rw [other id here]
        exact inv.once id
    standing := by
      intro id edge recorded standing
      by_cases here : id = state.edges.length
      · subst here
        obtain rfl : edge = ⟨handler, true⟩ := by simpa using recorded.symm
        exact ⟨pended, callback, fun call member same => absurd same (unplaced_uncalled state _ unplaced call member)⟩
      · have bound : id < (state.edges ++ [Edge.mk handler true]).length := (List.getElem?_eq_some_iff.mp recorded).1
        rw [List.length_append, List.length_singleton] at bound
        rw [List.getElem?_append_left (by omega)] at recorded
        rw [other id here]
        exact inv.standing id edge recorded standing }

omit [DecidableEq ι] [DecidableEq η] in
theorem inv_edge (state : State ι η ν capacity) (inv : Inv state) (heard : Heard state .edge) : Inv (edgeStep state) := by
  cases callback : state.interruptHandlerCallback with
  | none =>
      rw [show edgeStep state = state by simp [edgeStep, callback]]
      exact inv
  | some handler =>
      obtain ⟨enabled, space⟩ := heard (by rw [callback]; rfl)
      cases sent : state.queue.send (.edge state.edges.length) with
      | none => exact absurd ((Queue.send_none_iff state.queue _).mp sent) (Nat.ne_of_lt space)
      | some queue =>
          have stepped : edgeStep state =
              { state with edges := state.edges ++ [⟨handler, true⟩], queue := queue } := by
            simp [edgeStep, cc3100InterruptCallback, enabled, callback, sent]
          rw [stepped]
          exact inv_pended state handler queue inv callback (Queue.send_some state.queue queue _ sent)

omit [DecidableEq ι] [DecidableEq η] in
theorem inv_timer (state after : State ι η ν capacity) (inv : Inv state) (taken : timerStep state = some after) : Inv after := by
  cases position : state.timer with
  | crashed => simp [timerStep, position] at taken
  | idle =>
      simp only [timerStep, position] at taken
      obtain ⟨⟨command, queue⟩, received, same⟩ := Option.map_eq_some_iff.mp taken
      have items := Queue.receive_some state.queue queue command received
      cases command with
      | edge carried =>
          subst same
          have moved (id : Nat) : places { state with queue := queue, timer := .check carried } id = places state id := by
            simp only [places, items, List.count_cons, position, Timer.carries, beq_iff_eq, Command.edge.injEq]
            omega
          exact inv_shifted state _ inv rfl rfl moved (fun _ member => .inl member)
      | other =>
          obtain rfl : { state with queue := queue, timer := .idle } = after := same
          have moved (id : Nat) : places { state with queue := queue, timer := .idle } id = places state id := by
            simp [places, items, position]
          exact inv_shifted state _ inv rfl rfl moved (fun _ member => .inl member)
  | check carried =>
      simp only [timerStep, position, Option.some.injEq] at taken
      subst taken
      cases callback : state.interruptHandlerCallback with
      | some handler =>
          have moved (id : Nat) : places { state with timer := .call carried } id = places state id := by
            simp [places, position, Timer.carries]
          exact inv_shifted state _ inv rfl callback.symm moved (fun _ member => .inl member)
      | none =>
          refine inv_moved state _ inv rfl callback.symm (fun id => ?_) (fun registered => ?_) (fun _ member => .inl member)
          · simp only [places, position, Timer.carries]
            simp
          · rw [callback] at registered
            cases registered
  | call carried =>
      simp only [timerStep, position] at taken
      cases callback : state.interruptHandlerCallback with
      | some handler =>
          simp only [callback, Option.some.injEq] at taken
          subst taken
          have moved (id : Nat) : places { state with
              timer := .idle
              invocations := state.invocations ++ [⟨carried, handler, state.interruptHandlerPValue⟩] } id = places state id := by
            simp only [places, position, Timer.carries, List.map_append, List.map_cons, List.map_nil, List.count_append,
              List.count_singleton, beq_iff_eq]
            omega
          refine inv_shifted state _ inv rfl callback.symm moved (fun call member => ?_)
          rcases List.mem_append.mp member with old | new
          · exact .inl old
          · rw [List.mem_singleton.mp new]
            exact .inr callback
      | none =>
          simp only [callback, Option.some.injEq] at taken
          subst taken
          refine inv_moved state _ inv rfl callback.symm (fun id => ?_) (fun registered => ?_) (fun _ member => .inl member)
          · simp only [places, position, Timer.carries]
            omega
          · rw [callback] at registered
            cases registered

omit [DecidableEq ι] in
theorem inv_write_handler (state : State ι η ν capacity) (interruptHdl : Option η) (inv : Inv state) :
    Inv { state with
      interruptHandlerCallback := interruptHdl
      edges := state.edges.map (Edge.written interruptHdl) } where
  fresh := by
    intro id bound
    rw [List.length_map] at bound
    exact inv.fresh id bound
  once := inv.once
  standing := by
    intro id edge recorded standing
    rw [List.getElem?_map] at recorded
    obtain ⟨old, before, rfl⟩ := Option.map_eq_some_iff.mp recorded
    obtain ⟨stood, registered⟩ := Bool.and_eq_true_iff.mp standing
    obtain ⟨placed, _, handlers⟩ := inv.standing id old before stood
    exact ⟨placed, of_decide_eq_true registered, handlers⟩

omit [DecidableEq η] in
-- The registration stages, the value and the GPIO setting hold no edge.
theorem inv_settings (state : State ι η ν capacity) (pValue : ν) (extIntEnabled : Bool) (task : ι) (stage : Registrar η ν)
    (inv : Inv state) :
    Inv ({ state with interruptHandlerPValue := pValue, extIntEnabled := extIntEnabled }.enter task stage) :=
  ⟨inv.fresh, inv.once, inv.standing⟩

theorem inv_registrar (state after : State ι η ν capacity) (task : ι) (inv : Inv state)
    (taken : registrarStep state task = some after) : Inv after := by
  cases position : state.registrar task with
  | idle => simp [registrarStep, position] at taken
  | writeHandler interruptHdl pValue =>
      simp only [registrarStep, position, Option.some.injEq] at taken
      subst taken
      exact inv_settings _ state.interruptHandlerPValue state.extIntEnabled task _ (inv_write_handler state interruptHdl inv)
  | writeValue interruptHdl pValue =>
      simp only [registrarStep, position, Option.some.injEq] at taken
      subst taken
      exact inv_settings state pValue state.extIntEnabled task _ inv
  | configure interruptHdl =>
      simp only [registrarStep, position, Option.some.injEq] at taken
      subst taken
      exact inv_settings state state.interruptHandlerPValue interruptHdl.isSome task _ inv

theorem inv_step (state after : State ι η ν capacity) (action : Action ι η ν) (inv : Inv state) (heard : Heard state action)
    (taken : step state action = some after) : Inv after := by
  simp only [step] at taken
  split at taken
  case isTrue => cases taken
  case isFalse =>
    cases action with
    | edge =>
        obtain rfl := Option.some.inj taken
        exact inv_edge state inv heard
    | produce =>
        obtain ⟨queue, sent, rfl⟩ := Option.map_eq_some_iff.mp taken
        have items := Queue.send_some state.queue queue .other sent
        have moved (id : Nat) : places { state with queue := queue } id = places state id := by
          simp [places, items]
        exact inv_shifted state _ inv rfl rfl moved (fun _ member => .inl member)
    | timer => exact inv_timer state after inv taken
    | register task interruptHdl pValue =>
        cases position : state.registrar task with
        | idle =>
            simp only [position, Option.some.injEq] at taken
            subst taken
            exact inv_settings state state.interruptHandlerPValue state.extIntEnabled task _ inv
        | writeHandler _ _ | writeValue _ _ | configure _ => simp [position] at taken
    | registrar task => exact inv_registrar state after task inv taken

theorem others_bounded (others : Fin (capacity + 1)) : (List.replicate others.val Command.other).length ≤ capacity := by
  rw [List.length_replicate]
  exact Nat.le_of_lt_succ others.isLt

-- No handler registered, and any number of other commands in the queue.
def State.initial (others : Fin (capacity + 1)) (pValue : ν) : State ι η ν capacity where
  interruptHandlerCallback := none
  interruptHandlerPValue := pValue
  extIntEnabled := false
  registrar := fun _ => .idle
  queue := ⟨List.replicate others.val .other, others_bounded others⟩
  timer := .idle
  edges := []
  invocations := []

omit [DecidableEq ι] [DecidableEq η] in
theorem initial_inv (others : Fin (capacity + 1)) (pValue : ν) : Inv (.initial others pValue : State ι η ν capacity) := by
  have empty (id : Nat) : places (.initial others pValue : State ι η ν capacity) id = 0 := by
    simp [places, State.initial, Timer.carries, List.count_replicate]
  refine ⟨fun id _ => empty id, fun id => ?_, fun id edge recorded _ => ?_⟩
  · rw [empty id]
    exact Nat.zero_le 1
  · simp [State.initial] at recorded

-- The queue of five commands that the configuration asks for.
def registered : List (Action Unit Unit Unit) := .register () (some ()) () :: List.replicate 3 (.registrar ())

end

end Miso.Cc3100.Interrupt
