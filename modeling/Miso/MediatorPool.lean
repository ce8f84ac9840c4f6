import Mathlib.Data.Fintype.EquivFin
import Miso.MediatorAtomic

set_option autoImplicit false

namespace Miso.Mediator

def Clean (conn : ConnectionManagerElement) : Prop := conn.rxQueue.items = [] ∧ conn.rxWaitDeadlineMs = 0

-- What the manager can do to a slot in one visit: the slot keeps its socket,
-- or it is freed in a clean state.
inductive SlotEffect (before after : ConnectionManagerElement) : Prop where
  | kept (sd : after.sd = before.sd) (clean : before.sd < 0 → Clean before → Clean after)
  | released (used : 0 ≤ before.sd) (sd : after.sd = -1) (clean : Clean after)

theorem slot_effect_same (conn : ConnectionManagerElement) : SlotEffect conn conn := .kept rfl fun _ clean => clean

-- At most four tenants of four slots, no two slots with the same one, leave
-- nobody without a slot.
theorem tenants_surjective {ι : Type} [Fintype ι] (few : Fintype.card ι ≤ 4) (tenant : SlotId → ι)
    (apart : Function.Injective tenant) : Function.Surjective tenant := by
  have size : Fintype.card SlotId = Fintype.card ι :=
    le_antisymm (Fintype.card_le_of_injective tenant apart) (few.trans (Fintype.card_fin 4).ge)
  exact ((Fintype.bijective_iff_injective_and_card tenant).mpr ⟨apart, size⟩).surjective

section

variable {ι : Type}

theorem slot_effect_at (state : State ι) (slot : SlotId) (conn : ConnectionManagerElement)
    (effect : SlotEffect (state.connections slot) conn) (other : SlotId) :
    SlotEffect (state.connections other) ((state.setConnection slot conn).connections other) := by
  by_cases same : other = slot
  · subst other
    simpa only [set_connection_here] using effect
  · rw [set_connection_elsewhere state slot other conn same]
    exact slot_effect_same _

theorem respond_slots (state after : State ι) (slot : SlotId) (conn : ConnectionManagerElement) (resp : TimeoutResp)
    (pass : Pass) (sent refused : Manager) (used : 0 ≤ (state.connections slot).sd) (carried : conn.sd = (state.connections slot).sd)
    (taken : respond (state.setConnection slot conn) slot resp pass sent refused = after) :
    after.clients = state.clients ∧ ∀ other, SlotEffect (state.connections other) (after.connections other) := by
  have twice (answer : ConnectionManagerElement) :
      ((state.setConnection slot conn).setConnection slot answer).connections = (state.setConnection slot answer).connections := by
    simp [State.setConnection]
  cases respond_cases _ after slot resp pass sent refused taken with
  | sent answer _ sd _ _ _ =>
      refine ⟨rfl, fun other => ?_⟩
      rw [set_connection_here] at sd
      simpa only [twice] using slot_effect_at state slot answer (.kept (sd.trans carried) fun free => by omega) other
  | refused _ =>
      refine ⟨rfl, fun other => ?_⟩
      simpa only [twice, set_connection_here] using slot_effect_at state slot conn.disarm (.kept carried fun free => by omega) other

theorem visit_slots (state : State ι) (slot : SlotId) : (visit state slot).clients = state.clients ∧
    ∀ other, SlotEffect (state.connections other) ((visit state slot).connections other) := by
  have polled := ConnectionManagerElement.poll_sd (state.connections slot)
  unfold visit
  split
  · rename_i used
    dsimp only
    split
    · rename_i release
      refine ⟨rfl, slot_effect_at state slot _ (.released used rfl ⟨ConnectionManagerElement.poll_drains _, ?_⟩)⟩
      rcases ConnectionManagerElement.verdict_cases (state.connections slot).poll state.pass.currentTime with
        ⟨_, zero⟩ | ⟨watch, _⟩ | ⟨expire, _⟩
      · exact zero
      · simp [watch] at release
      · simp [expire] at release
    · exact ⟨rfl, slot_effect_at state slot _ (.kept polled fun free => by omega)⟩
    · exact respond_slots state _ slot _ _ _ _ _ used polled rfl
  · exact ⟨rfl, fun _ => slot_effect_same _⟩

theorem retry_slots (state after : State ι) (slot : SlotId) (resp : TimeoutResp) (pass : Pass) (sent : Manager)
    (taken : retry state slot resp pass sent = some after) :
    after.clients = state.clients ∧ ∀ other, SlotEffect (state.connections other) (after.connections other) := by
  obtain ⟨conn, carried, queue, deadline, _, rfl⟩ := retry_some state after slot resp pass sent taken
  refine ⟨rfl, slot_effect_at state slot conn (.kept carried fun _ clean => ?_)⟩
  exact ⟨by rw [queue]; exact clean.1, by rw [deadline]; exact clean.2⟩

theorem manager_round_slots (state after : State ι) (now : Nat) (taken : managerRound state now = some after) :
    after.clients = state.clients ∧ ∀ other, SlotEffect (state.connections other) (after.connections other) := by
  cases position : state.manager with
  | check slot =>
      simp only [managerRound, position, Option.some.injEq] at taken
      rw [← taken]
      exact visit_slots state slot
  | scan slot =>
      simp only [managerRound, position, Option.some.injEq] at taken
      rw [← taken]
      unfold scanVisit
      split
      · rename_i ready
        have same : state.setConnection slot (state.connections slot) = state := by simp [State.setConnection]
        exact respond_slots state _ slot (state.connections slot) ⟨1⟩ state.pass (afterScan slot) (.refusedReady slot)
          ready.1 rfl (by rw [same])
      · exact ⟨rfl, fun _ => slot_effect_same _⟩
  | refusedTimeout slot | refusedReady slot =>
      simp only [managerRound, position] at taken
      exact retry_slots state after slot _ _ _ taken
  | top | delay =>
      simp only [managerRound, position, Option.some.injEq] at taken
      rw [← taken]
      exact ⟨rfl, fun _ => slot_effect_same _⟩
  | waitForNotify =>
      simp only [managerRound, position] at taken
      split at taken <;> cases taken
      exact ⟨rfl, fun _ => slot_effect_same _⟩
  | poll slot | test slot | takeMutex slot | writeSd slot | giveMutex slot | sendTimeout slot | sendReady slot | select =>
      simp [managerRound, position] at taken

theorem receive_slots [DecidableEq ι] (state after : State ι) (client : ι) (taken : receiveRound state client = some after)
    (slot : SlotId) : SlotEffect (state.connections slot) (after.connections slot) := by
  cases position : state.clients client with
  | receive own msg =>
      simp only [receiveRound, position] at taken
      obtain ⟨answer, _, rfl⟩ := Option.map_eq_some_iff.mp taken
      exact slot_effect_at state own { state.connections own with rxSignal := answer.2 } (.kept rfl fun _ clean => clean) slot
  | idle | returned _ | unreachable | findSocket _ _ | findFreeSocket _ _ | takeMutex _ _ | writeSd _ _ | giveMutex _ _
  | resetSignal _ _ | sendQueue _ _ | notify _ _ => simp [receiveRound, position] at taken

def Round.isSubmit : Round ι → Bool
  | .submit _ _ => true
  | _ => false

theorem round_slots [DecidableEq ι] (sd : ι → Int) (before after : Clocked ι) (action : Round ι)
    (quiet : action.isSubmit = false) (taken : round sd before action = some after) (slot : SlotId) :
    SlotEffect (before.state.connections slot) (after.state.connections slot) := by
  cases action with
  | submit client msg => cases quiet
  | tick now =>
      simp only [round, Option.some.injEq] at taken
      rw [← taken]
      exact slot_effect_same _
  | notify client =>
      obtain ⟨next, notified, rfl⟩ := Option.map_eq_some_iff.mp taken
      simp only [notifyRound] at notified
      split at notified <;> cases notified
      exact slot_effect_same _
  | receive client =>
      obtain ⟨next, received, rfl⟩ := Option.map_eq_some_iff.mp taken
      exact receive_slots before.state next client received slot
  | manager =>
      obtain ⟨next, moved, rfl⟩ := Option.map_eq_some_iff.mp taken
      exact (manager_round_slots before.state next before.now moved).2 slot
  | select res fds =>
      obtain ⟨next, selected, rfl⟩ := Option.map_eq_some_iff.mp taken
      simp only [selectStep] at selected
      split at selected <;> cases selected
      exact slot_effect_same _

def Apart (state : State ι) : Prop :=
  ∀ slot other, 0 ≤ (state.connections slot).sd → (state.connections slot).sd = (state.connections other).sd → slot = other

structure WellFormed (state : State ι) : Prop where
  apart : Apart state
  clean : ∀ slot, (state.connections slot).sd < 0 → Clean (state.connections slot)

theorem effect_apart (before after : State ι) (effect : ∀ slot, SlotEffect (before.connections slot) (after.connections slot))
    (apart : Apart before) : Apart after := by
  intro slot other used same
  cases effect slot with
  | released _ sd _ => omega
  | kept sd _ =>
      cases effect other with
      | released _ otherSd _ => omega
      | kept otherSd _ => exact apart slot other (by omega) (by omega)

theorem effect_clean (before after : State ι) (effect : ∀ slot, SlotEffect (before.connections slot) (after.connections slot))
    (clean : ∀ slot, (before.connections slot).sd < 0 → Clean (before.connections slot)) (slot : SlotId)
    (free : (after.connections slot).sd < 0) : Clean (after.connections slot) := by
  cases effect slot with
  | released _ _ freed => exact freed
  | kept sd stays => exact stays (by omega) (clean slot (by omega))

theorem effect_well_formed (before after : State ι)
    (effect : ∀ slot, SlotEffect (before.connections slot) (after.connections slot)) (inv : WellFormed before) :
    WellFormed after where
  apart := effect_apart before after effect inv.apart
  clean := effect_clean before after effect inv.clean

theorem place_apart [DecidableEq ι] (sd : ι → Int) (state : State ι) (client : ι) (slot : SlotId)
    (conn : ConnectionManagerElement) (position : Client) (apart : Apart state)
    (mine : (state.connections slot).sd = sd client ∨
      ((state.connections slot).sd < 0 ∧ ∀ other, (state.connections other).sd ≠ sd client))
    (carries : conn.sd = sd client) : Apart ((state.setConnection slot conn).setClient client position) := by
  have only : ∀ other, 0 ≤ sd client → (state.connections other).sd = sd client → other = slot := by
    intro other open_ same
    rcases mine with own | ⟨_, missing⟩
    · exact apart other slot (by omega) (by omega)
    · exact absurd same (missing other)
  intro first second used same
  rw [set_client_connections] at used same
  by_cases here : first = slot
  · by_cases there : second = slot
    · rw [here, there]
    · rw [here, set_connection_here, carries] at used
      rw [here, set_connection_here, set_connection_elsewhere state slot second conn there, carries] at same
      exact absurd (only second used same.symm) there
  · rw [set_connection_elsewhere state slot first conn here] at used same
    by_cases there : second = slot
    · rw [there, set_connection_here, carries] at same
      exact absurd (only first (by omega) same) here
    · rw [set_connection_elsewhere state slot second conn there] at same
      exact apart first second used same

end

end Miso.Mediator
