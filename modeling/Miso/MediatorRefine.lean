import Miso.MediatorAtomic

set_option autoImplicit false

namespace Miso.Mediator

open Base (Reach always)

-- The loops over the pool visit the slots in the order of the list.
def Follows : SlotId → List SlotId → Prop
  | slot, [] => nextSlot slot = none
  | slot, next :: rest => nextSlot slot = some next ∧ Follows next rest

theorem slots_follow : Follows 0 [1, 2, 3] := ⟨rfl, rfl, rfl, rfl⟩

section

variable {ι : Type}

theorem set_connection_twice (state : State ι) (slot : SlotId) (first second : ConnectionManagerElement) :
    (state.setConnection slot first).setConnection slot second = state.setConnection slot second := by
  simp [State.setConnection]

theorem set_client_twice [DecidableEq ι] (state : State ι) (client : ι) (first second : Client) :
    (state.setClient client first).setClient client second = state.setClient client second := by
  simp [State.setClient]

theorem reach_step [DecidableEq ι] (sd : ι → Int) (state next after : State ι) (action : Action ι)
    (taken : step sd state action = some next) (rest : Reach (step sd) always next after) :
    Reach (step sd) always state after :=
  Base.reach_trans (step sd) always state next after (.next state action next .start trivial taken) rest

-- A loop that stops at the first slot with a property, as findSocket and
-- findFreeSocket do.
theorem search_reach [DecidableEq ι] (sd : ι → Int) (state : State ι) (client : ι) (wanted : SlotId → Bool)
    (looking found : SlotId → Client) (missed : Client)
    (hit : ∀ slot, wanted slot = true →
      step sd (state.setClient client (looking slot)) (.client client) = some (state.setClient client (found slot)))
    (onward : ∀ slot next, wanted slot = false → nextSlot slot = some next →
      step sd (state.setClient client (looking slot)) (.client client) = some (state.setClient client (looking next)))
    (miss : ∀ slot, wanted slot = false → nextSlot slot = none →
      step sd (state.setClient client (looking slot)) (.client client) = some (state.setClient client missed))
    (slot : SlotId) (rest : List SlotId) (order : Follows slot rest) :
    Reach (step sd) always (state.setClient client (looking slot))
      (state.setClient client (((slot :: rest).find? wanted).elim missed found)) := by
  induction rest generalizing slot with
  | nil =>
      cases here : wanted slot with
      | true => exact reach_step sd _ _ _ (.client client) (hit slot here) (by simpa [here] using .start)
      | false => exact reach_step sd _ _ _ (.client client) (miss slot here order) (by simpa [here] using .start)
  | cons next rest ih =>
      cases here : wanted slot with
      | true => exact reach_step sd _ _ _ (.client client) (hit slot here) (by simpa [here] using .start)
      | false =>
          rw [List.find?_cons_of_neg (by simpa using here)]
          exact reach_step sd _ _ _ (.client client) (onward slot next here order.1) (ih next order.2)

theorem find_socket_reach [DecidableEq ι] (sd : ι → Int) (state : State ι) (client : ι) (msg : TimeoutMsg) :
    Reach (step sd) always (state.setClient client (.findSocket 0 msg))
      (state.setClient client ((findSocket state.connections (sd client)).elim (.findFreeSocket 0 msg) (.resetSignal · msg))) := by
  refine search_reach sd state client (fun slot => (state.connections slot).sd = sd client) (.findSocket · msg)
    (.resetSignal · msg) (.findFreeSocket 0 msg) ?_ ?_ ?_ 0 [1, 2, 3] slots_follow
  · intro slot carried
    simp_all [step, clientStep, set_client_twice]
  · intro slot next other more
    simp_all [step, clientStep, set_client_twice]
  · intro slot other last
    simp_all [step, clientStep, set_client_twice]

theorem find_free_reach [DecidableEq ι] (sd : ι → Int) (state : State ι) (client : ι) (msg : TimeoutMsg) :
    Reach (step sd) always (state.setClient client (.findFreeSocket 0 msg))
      (state.setClient client ((findFreeSocket state.connections).elim .unreachable (.takeMutex · msg))) := by
  refine search_reach sd state client (fun slot => (state.connections slot).sd < 0) (.findFreeSocket · msg)
    (.takeMutex · msg) .unreachable ?_ ?_ ?_ 0 [1, 2, 3] slots_follow
  · intro slot free
    simp_all [step, clientStep, set_client_twice]
  · intro slot next used more
    have taken : ¬ (state.connections slot).sd < 0 := by simpa using used
    simp [step, clientStep, set_client_twice, taken, more]
  · intro slot used last
    have taken : ¬ (state.connections slot).sd < 0 := by simpa using used
    simp [step, clientStep, set_client_twice, taken, last]

-- Signal reset and request, from a slot already found or claimed.
theorem place_reach [DecidableEq ι] (sd : ι → Int) (state after : State ι) (client : ι) (slot : SlotId) (msg : TimeoutMsg)
    (placed : place state client slot (state.connections slot) msg = some after) :
    Reach (step sd) always (state.setClient client (.resetSignal slot msg)) after := by
  obtain ⟨queue, sent, rfl⟩ := Option.map_eq_some_iff.mp placed
  apply reach_step sd _ ((state.setConnection slot { state.connections slot with rxSignal := .empty }).setClient client
    (.sendQueue slot msg)) _ (.client client)
  · simp [step, clientStep, State.setClient, State.setConnection]
  · refine reach_step sd _ _ _ (.client client) ?_ .start
    simp [step, clientStep, State.setClient, State.setConnection, sent]

theorem claim_reach [DecidableEq ι] (sd : ι → Int) (state : State ι) (client : ι) (slot : SlotId) (msg : TimeoutMsg)
    (free : state.mutexHeld = false) :
    Reach (step sd) always (state.setClient client (.takeMutex slot msg))
      ((state.setConnection slot { state.connections slot with sd := sd client }).setClient client (.resetSignal slot msg)) := by
  apply reach_step sd _ ({ state with mutexHeld := true }.setClient client (.writeSd slot msg)) _ (.client client)
  · simp [step, clientStep, State.setClient, free]
  · apply reach_step sd _ (({ state with mutexHeld := true }.setConnection slot
      { state.connections slot with sd := sd client }).setClient client (.giveMutex slot msg)) _ (.client client)
    · simp [step, clientStep, State.setClient, State.setConnection]
    · refine reach_step sd _ _ _ (.client client) ?_ .start
      cases state
      cases free
      simp [step, clientStep, State.setClient, State.setConnection]

theorem submit_reach [DecidableEq ι] (sd : ι → Int) (state after : State ι) (client : ι) (msg : TimeoutMsg)
    (free : state.mutexHeld = false) (taken : submitRound sd state client msg = some after) :
    Reach (step sd) always state after := by
  have called : step sd state (.call client msg) = some (state.setClient client (.findSocket 0 msg)) ∧
      submit sd state client msg = some after := by
    simp only [submitRound] at taken
    split at taken
    · rename_i position
      exact ⟨by simp [step, callStep, position], taken⟩
    · rename_i ready position
      exact ⟨by simp [step, callStep, position], taken⟩
    · cases taken
  obtain ⟨entered, taken⟩ := called
  apply reach_step sd state _ after (.call client msg) entered
  have searched := find_socket_reach sd state client msg
  unfold submit at taken
  cases found : findSocket state.connections (sd client) with
  | some slot =>
      rw [found] at searched taken
      exact Base.reach_trans _ _ _ _ _ searched (place_reach sd state after client slot msg taken)
  | none =>
      rw [found] at searched taken
      have claimed := find_free_reach sd state client msg
      apply Base.reach_trans _ _ _ _ _ searched
      cases vacant : findFreeSocket state.connections with
      | none =>
          rw [vacant] at claimed taken
          cases taken
          exact claimed
      | some slot =>
          rw [vacant] at claimed taken
          apply Base.reach_trans _ _ _ _ _ claimed
          apply Base.reach_trans _ _ _ _ _ (claim_reach sd state client slot msg free)
          apply place_reach sd _ after client slot msg
          simpa [place, set_connection_here, set_connection_twice] using taken

theorem respond_position (state : State ι) (slot : SlotId) (resp : TimeoutResp) (pass : Pass) (sent refused before : Manager) :
    respond { state with manager := before } slot resp pass sent refused = respond state slot resp pass sent refused := by
  simp only [respond]
  split <;> rfl

theorem visit_reach [DecidableEq ι] (sd : ι → Int) (state : State ι) (slot : SlotId) (free : state.mutexHeld = false)
    (position : state.manager = .check slot) : Reach (step sd) always state (visit state slot) := by
  unfold visit
  by_cases used : (state.connections slot).sd ≥ 0
  · rw [if_pos used]
    apply reach_step sd state { state with manager := .poll slot } _ .manager (by simp [step, managerStep, position, used])
    apply reach_step sd _ { state.setConnection slot (state.connections slot).poll with manager := .test slot } _ .manager rfl
    rcases ConnectionManagerElement.verdict_cases (state.connections slot).poll state.pass.currentTime with
      ⟨verdict, _⟩ | ⟨verdict, _⟩ | ⟨verdict, _⟩
    · simp only [verdict]
      apply reach_step sd _ { state.setConnection slot (state.connections slot).poll with manager := .takeMutex slot } _
        .manager
      · simp [step, managerStep, State.setConnection, verdict]
      · apply reach_step sd _ { state.setConnection slot (state.connections slot).poll with
          mutexHeld := true
          manager := .writeSd slot } _ .manager
        · simp [step, managerStep, State.setConnection, free]
        · apply reach_step sd _ { state.setConnection slot { (state.connections slot).poll with sd := -1 } with
            mutexHeld := true
            manager := .giveMutex slot } _ .manager
          · simp [step, managerStep, State.setConnection]
          · refine reach_step sd _ _ _ .manager ?_ .start
            simp [step, managerStep, State.setConnection, free]
    · simp only [verdict]
      refine reach_step sd _ _ _ .manager ?_ .start
      simp [step, managerStep, State.setConnection, verdict]
    · simp only [verdict]
      apply reach_step sd _ { state.setConnection slot (state.connections slot).poll with manager := .sendTimeout slot } _
        .manager
      · simp [step, managerStep, State.setConnection, verdict]
      · refine reach_step sd _ _ _ .manager ?_ .start
        exact congrArg some (respond_position (state.setConnection slot (state.connections slot).poll) slot ⟨0⟩ _ _ _ _)
  · rw [if_neg used]
    exact reach_step sd state _ _ .manager (by simp [step, managerStep, position, used]) .start

theorem scan_reach [DecidableEq ι] (sd : ι → Int) (state : State ι) (slot : SlotId)
    (position : state.manager = .scan slot) : Reach (step sd) always state (scanVisit state slot) := by
  unfold scanVisit
  by_cases ready : (state.connections slot).sd ≥ 0 ∧ fdIsset (state.connections slot).sd state.pass.readFdSet = 1
  · rw [if_pos ready]
    apply reach_step sd state { state with manager := .sendReady slot } _ .manager
    · simp [step, managerStep, position, ready]
    · refine reach_step sd _ _ _ .manager ?_ .start
      exact congrArg some (respond_position state slot ⟨1⟩ _ _ _ _)
  · rw [if_neg ready]
    exact reach_step sd state _ _ .manager (by simp only [step, managerStep, position, if_neg ready]) .start

theorem manager_reach [DecidableEq ι] (sd : ι → Int) (state after : State ι) (now : Nat) (free : state.mutexHeld = false)
    (taken : managerRound state now = some after) : Reach (step sd) always state after := by
  cases position : state.manager with
  | check slot =>
      simp only [managerRound, position, Option.some.injEq] at taken
      rw [← taken]
      exact visit_reach sd state slot free position
  | scan slot =>
      simp only [managerRound, position, Option.some.injEq] at taken
      rw [← taken]
      exact scan_reach sd state slot position
  | top =>
      simp only [managerRound, position] at taken
      exact reach_step sd state after after (.readTick now) (by simp [step, readTickStep, position, ← taken]) .start
  | refusedTimeout slot | refusedReady slot | delay | waitForNotify =>
      simp only [managerRound, position] at taken
      exact reach_step sd state after after .manager (by simp [step, managerStep, position, ← taken]) .start
  | poll slot | test slot | takeMutex slot | writeSd slot | giveMutex slot | sendTimeout slot | sendReady slot | select =>
      simp [managerRound, position] at taken

theorem round_reach [DecidableEq ι] (sd : ι → Int) (before after : Clocked ι) (action : Round ι)
    (free : before.state.mutexHeld = false) (taken : round sd before action = some after) :
    Reach (step sd) always before.state after.state := by
  cases action with
  | tick now =>
      simp only [round, Option.some.injEq] at taken
      rw [← taken]
      exact .start
  | submit client msg =>
      obtain ⟨next, submitted, rfl⟩ := Option.map_eq_some_iff.mp taken
      exact submit_reach sd before.state next client msg free submitted
  | notify client =>
      obtain ⟨next, notified, rfl⟩ := Option.map_eq_some_iff.mp taken
      simp only [notifyRound] at notified
      split at notified
      · rename_i slot msg position
        exact reach_step sd _ next _ (.client client) (by simp [step, clientStep, position, ← notified]) .start
      · cases notified
  | receive client =>
      obtain ⟨next, received, rfl⟩ := Option.map_eq_some_iff.mp taken
      simp only [receiveRound] at received
      split at received
      · rename_i slot msg position
        exact reach_step sd _ next _ (.client client) (by simp [step, clientStep, position, ← received]) .start
      · cases received
  | manager =>
      obtain ⟨next, moved, rfl⟩ := Option.map_eq_some_iff.mp taken
      exact manager_reach sd before.state next before.now free moved
  | select res fds =>
      obtain ⟨next, selected, rfl⟩ := Option.map_eq_some_iff.mp taken
      exact reach_step sd _ next _ (.select res fds) selected .start

theorem respond_mutex (state : State ι) (slot : SlotId) (resp : TimeoutResp) (pass : Pass) (sent refused : Manager) :
    (respond state slot resp pass sent refused).mutexHeld = state.mutexHeld := by
  unfold respond
  split <;> rfl

theorem visit_mutex (state : State ι) (slot : SlotId) : (visit state slot).mutexHeld = state.mutexHeld := by
  unfold visit
  split
  · dsimp only
    split
    · rfl
    · rfl
    · exact respond_mutex _ slot _ _ _ _
  · rfl

theorem scan_mutex (state : State ι) (slot : SlotId) : (scanVisit state slot).mutexHeld = state.mutexHeld := by
  unfold scanVisit
  split
  · exact respond_mutex _ slot _ _ _ _
  · rfl

theorem manager_mutex (state after : State ι) (now : Nat) (taken : managerRound state now = some after) :
    after.mutexHeld = state.mutexHeld := by
  cases position : state.manager with
  | check slot =>
      simp only [managerRound, position, Option.some.injEq] at taken
      rw [← taken]
      exact visit_mutex state slot
  | scan slot =>
      simp only [managerRound, position, Option.some.injEq] at taken
      rw [← taken]
      exact scan_mutex state slot
  | refusedTimeout slot | refusedReady slot =>
      simp only [managerRound, position] at taken
      obtain ⟨conn, _, _, _, _, rfl⟩ := retry_some state after slot _ _ _ taken
      rfl
  | top | delay =>
      simp only [managerRound, position, Option.some.injEq] at taken
      rw [← taken]
  | waitForNotify =>
      simp only [managerRound, position] at taken
      split at taken <;> cases taken
      rfl
  | poll slot | test slot | takeMutex slot | writeSd slot | giveMutex slot | sendTimeout slot | sendReady slot | select =>
      simp [managerRound, position] at taken

theorem round_mutex [DecidableEq ι] (sd : ι → Int) (before after : Clocked ι) (action : Round ι)
    (taken : round sd before action = some after) : after.state.mutexHeld = before.state.mutexHeld := by
  cases action with
  | tick now =>
      simp only [round, Option.some.injEq] at taken
      rw [← taken]
  | submit client msg =>
      obtain ⟨next, submitted, rfl⟩ := Option.map_eq_some_iff.mp taken
      simp only [submitRound] at submitted
      split at submitted
      · cases submit_cases sd before.state next client msg submitted <;> rfl
      · cases submit_cases sd before.state next client msg submitted <;> rfl
      · cases submitted
  | notify client =>
      obtain ⟨next, notified, rfl⟩ := Option.map_eq_some_iff.mp taken
      simp only [notifyRound] at notified
      split at notified <;> cases notified
      rfl
  | receive client =>
      obtain ⟨next, received, rfl⟩ := Option.map_eq_some_iff.mp taken
      simp only [receiveRound] at received
      split at received
      · obtain ⟨answer, _, rfl⟩ := Option.map_eq_some_iff.mp received
        rfl
      · cases received
  | manager =>
      obtain ⟨next, moved, rfl⟩ := Option.map_eq_some_iff.mp taken
      exact manager_mutex before.state next before.now moved
  | select res fds =>
      obtain ⟨next, selected, rfl⟩ := Option.map_eq_some_iff.mp taken
      simp only [selectStep] at selected
      split at selected <;> cases selected
      rfl

-- Every state of the coarse machine is one of the fine machine's, so what
-- holds in all states of the latter holds here too.
theorem round_refines [DecidableEq ι] (sd : ι → Int) (clocked : Clocked ι)
    (reached : Reach (round sd) always .initial clocked) : Reach (step sd) always initial clocked.state := by
  have both : Reach (step sd) always initial clocked.state ∧ clocked.state.mutexHeld = false := by
    refine Base.reach_invariant (round sd) always .initial
      (fun clocked => Reach (step sd) always initial clocked.state ∧ clocked.state.mutexHeld = false)
      ⟨.start, rfl⟩ ?_ clocked reached
    intro before action after inv _ taken
    exact ⟨Base.reach_trans _ _ _ _ _ inv.1 (round_reach sd before after action inv.2 taken),
      (round_mutex sd before after action taken).trans inv.2⟩
  exact both.1

end

end Miso.Mediator
