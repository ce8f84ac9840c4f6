import Miso.MediatorPool

set_option autoImplicit false

namespace Miso.Mediator

open Base (Reach)

-- The slots the current pass has gone by without finding work. A pass that
-- found some does not end in waitForNotify.
def Passed (manager : Manager) (pass : Pass) (slot : SlotId) : Prop :=
  match manager with
  | .check next => pass.readSetPtr = false ∧ pass.maintenance = 0 ∧ slot.val < next.val
  | .waitForNotify => True
  | _ => False

section

variable {ι : Type}

-- Whoever put this request there has not notified yet.
def Unnotified (sd : ι → Int) (state : State ι) (slot : SlotId) (msg : TimeoutMsg) : Prop :=
  ∃ client, state.clients client = .notify slot msg ∧ sd client = (state.connections slot).sd

structure Awake (sd : ι → Int) (state : State ι) : Prop where
  clean : ∀ slot, (state.connections slot).sd < 0 → Clean (state.connections slot)
  late : ∀ slot, Passed state.manager state.pass slot → 0 ≤ (state.connections slot).sd →
    (state.connections slot).rxWaitDeadlineMs = 0 ∧
      ∀ msg, msg ∈ (state.connections slot).rxQueue.items → state.notified = true ∨ Unnotified sd state slot msg

theorem initial_awake (sd : ι → Int) : Awake sd (initial : State ι) where
  clean := by simp [initial, ConnectionManagerElement.init, Clean]
  late := by simp [initial, Passed]

theorem passed_after_visits (pass : Pass) (slot : SlotId) (passed : Passed pass.afterVisits pass slot) :
    pass.readSetPtr = false ∧ pass.maintenance = 0 := by
  unfold Pass.afterVisits at passed
  cases reading : pass.readSetPtr with
  | true => simp [reading, Passed] at passed
  | false =>
      by_cases quiet : pass.maintenance = 0
      · exact ⟨rfl, quiet⟩
      · simp [reading, quiet, Passed] at passed

theorem passed_after_visit (pass : Pass) (slot other : SlotId) (passed : Passed (pass.afterVisit slot) pass other) :
    pass.readSetPtr = false ∧ pass.maintenance = 0 ∧ other.val ≤ slot.val := by
  unfold Pass.afterVisit at passed
  split at passed
  · rename_i next more
    obtain ⟨reading, quiet, before⟩ := passed
    have successor := next_slot_some slot next more
    exact ⟨reading, quiet, by omega⟩
  · rename_i last
    obtain ⟨reading, quiet⟩ := passed_after_visits pass other passed
    have limit := next_slot_none slot last
    have bound := other.isLt
    exact ⟨reading, quiet, by omega⟩

theorem not_passed_scan (slot other : SlotId) (pass : Pass) : ¬ Passed (afterScan slot) pass other := by
  unfold afterScan
  split <;> exact id

-- A manager step that leaves no slot passed over and only answers or releases
-- slots cannot break the invariant.
theorem awake_busy (sd : ι → Int) (after : State ι)
    (clean : ∀ slot, (after.connections slot).sd < 0 → Clean (after.connections slot))
    (busy : ∀ slot, ¬ Passed after.manager after.pass slot) : Awake sd after where
  clean := clean
  late := fun slot passed => absurd passed (busy slot)

theorem clean_elsewhere (state : State ι) (slot : SlotId) (conn : ConnectionManagerElement)
    (clean : ∀ other, (state.connections other).sd < 0 → Clean (state.connections other))
    (here : conn.sd < 0 → Clean conn) (other : SlotId) (free : ((state.setConnection slot conn).connections other).sd < 0) :
    Clean ((state.setConnection slot conn).connections other) := by
  by_cases same : other = slot
  · subst other
    rw [set_connection_here] at free ⊢
    exact here free
  · rw [set_connection_elsewhere state slot other conn same] at free ⊢
    exact clean other free

theorem again_busy (pass : Pass) (slot other : SlotId) : ¬ Passed (pass.again.afterVisit slot) pass.again other := by
  intro passed
  have quiet := (passed_after_visit pass.again slot other passed).2.1
  simp [Pass.again] at quiet

theorem respond_busy (state : State ι) (slot : SlotId) (resp : TimeoutResp) (pass : Pass) (sent refused : Manager)
    (busy : ∀ other, ¬ Passed sent pass other) (stuck : ∀ stale other, ¬ Passed refused stale other) (other : SlotId) :
    ¬ Passed (respond state slot resp pass sent refused).manager (respond state slot resp pass sent refused).pass other := by
  unfold respond
  split
  · exact busy other
  · exact stuck _ other

theorem visit_busy (state : State ι) (slot : SlotId) (used : 0 ≤ (state.connections slot).sd) (other : SlotId) :
    ¬ Passed (visit state slot).manager (visit state slot).pass other := by
  rw [visit, if_pos used]
  dsimp only
  split
  · exact again_busy state.pass slot other
  · intro passed
    have reading := (passed_after_visit _ slot other passed).1
    simp [Pass.watch] at reading
  · exact respond_busy _ slot _ _ _ _ (again_busy state.pass slot) (fun _ _ => id) other

theorem scan_busy (state : State ι) (slot other : SlotId) :
    ¬ Passed (scanVisit state slot).manager (scanVisit state slot).pass other := by
  unfold scanVisit
  split
  · exact respond_busy _ slot _ _ _ _ (not_passed_scan slot · state.pass) (fun _ _ => id) other
  · exact not_passed_scan slot other state.pass

theorem retry_busy (state after : State ι) (slot : SlotId) (resp : TimeoutResp) (pass : Pass) (sent : Manager)
    (busy : ∀ other, ¬ Passed sent pass other) (taken : retry state slot resp pass sent = some after) (other : SlotId) :
    ¬ Passed after.manager after.pass other := by
  obtain ⟨conn, _, _, _, _, rfl⟩ := retry_some state after slot resp pass sent taken
  exact busy other

-- A visit that finds no socket adds a free slot to those passed over.
theorem visit_free_awake (sd : ι → Int) (state : State ι) (slot : SlotId) (inv : Awake sd state)
    (position : state.manager = .check slot) (free : ¬ 0 ≤ (state.connections slot).sd) :
    Awake sd { state with manager := state.pass.afterVisit slot } where
  clean := inv.clean
  late := by
    intro other passed used
    obtain ⟨reading, quiet, upTo⟩ := passed_after_visit state.pass slot other passed
    by_cases here : other = slot
    · rw [here] at used
      exact absurd used free
    · have before : other.val ≠ slot.val := fun same => here (Fin.ext same)
      refine inv.late other ?_ used
      rw [position]
      exact ⟨reading, quiet, by omega⟩

theorem manager_round_awake (sd : ι → Int) (state after : State ι) (now : Nat) (inv : Awake sd state)
    (taken : managerRound state now = some after) : Awake sd after := by
  have clean := effect_clean state after (manager_round_slots state after now taken).2 inv.clean
  cases position : state.manager with
  | check slot =>
      simp only [managerRound, position, Option.some.injEq] at taken
      subst taken
      by_cases used : 0 ≤ (state.connections slot).sd
      · exact awake_busy sd _ clean (visit_busy state slot used)
      · rw [visit, if_neg used]
        exact visit_free_awake sd state slot inv position used
  | scan slot =>
      simp only [managerRound, position, Option.some.injEq] at taken
      subst taken
      exact awake_busy sd _ clean (scan_busy state slot)
  | refusedTimeout slot =>
      simp only [managerRound, position] at taken
      exact awake_busy sd after clean (retry_busy state after slot _ _ _ (again_busy state.pass slot) taken)
  | refusedReady slot =>
      simp only [managerRound, position] at taken
      exact awake_busy sd after clean (retry_busy state after slot _ _ _ (not_passed_scan slot · state.pass) taken)
  | top =>
      simp only [managerRound, position, Option.some.injEq] at taken
      subst taken
      exact awake_busy sd _ clean (fun slot passed => Nat.not_lt_zero _ passed.2.2)
  | delay =>
      simp only [managerRound, position, Option.some.injEq] at taken
      subst taken
      exact awake_busy sd _ clean (fun _ => id)
  | waitForNotify =>
      simp only [managerRound, position] at taken
      split at taken <;> cases taken
      exact awake_busy sd _ clean (fun _ => id)
  | poll slot | test slot | takeMutex slot | writeSd slot | giveMutex slot | sendTimeout slot | sendReady slot | select =>
      simp [managerRound, position] at taken

-- A task step changes at most its own position and one slot that carries its
-- socket; the other slots keep their unnotified requests.
theorem move_awake [DecidableEq ι] (sd : ι → Int) (state : State ι) (client : ι) (slot : SlotId)
    (conn : ConnectionManagerElement) (position : Client) (inv : Awake sd state)
    (leaves : ∀ other msg, state.clients client ≠ .notify other msg)
    (clean : conn.sd < 0 → Clean conn)
    (mine : Passed state.manager state.pass slot → 0 ≤ conn.sd → conn.rxWaitDeadlineMs = 0 ∧
      ∀ msg, msg ∈ conn.rxQueue.items → state.notified = true ∨
        ∃ mover, Function.update state.clients client position mover = .notify slot msg ∧ sd mover = conn.sd) :
    Awake sd ((state.setConnection slot conn).setClient client position) where
  clean := clean_elsewhere state slot conn inv.clean clean
  late := by
    intro other passed used
    by_cases here : other = slot
    · subst other
      rw [set_client_connections, set_connection_here] at used
      simpa [Unnotified, State.setConnection, State.setClient] using mine passed used
    · have kept := set_connection_elsewhere state slot other conn here
      rw [set_client_connections, kept] at used ⊢
      obtain ⟨disarmed, queued⟩ := inv.late other passed used
      refine ⟨disarmed, fun msg held => (queued msg held).imp id ?_⟩
      rintro ⟨mover, notifies, carrier⟩
      have different : mover ≠ client := fun same => leaves other msg (same ▸ notifies)
      exact ⟨mover, by simpa [different] using notifies, by simpa [kept] using carrier⟩

theorem submit_awake [DecidableEq ι] (sd : ι → Int) (nonneg : ∀ client, 0 ≤ sd client) (state after : State ι)
    (client : ι) (msg : TimeoutMsg) (inv : Awake sd state)
    (outside : ∀ other msg, state.clients client ≠ .notify other msg)
    (taken : submit sd state client msg = some after) : Awake sd after := by
  have bound := nonneg client
  cases submit_cases sd state after client msg taken with
  | placed slot conn mine room carries deadline signal queue =>
      refine move_awake sd state client slot conn _ inv outside (fun free => by omega) ?_
      intro passed _
      constructor
      · rw [deadline]
        rcases mine with own | ⟨free, _⟩
        · exact (inv.late slot passed (by omega)).1
        · exact (inv.clean slot free).2
      · intro item held
        obtain rfl : item = msg := by simpa [queue] using held
        exact .inr ⟨client, by simp, carries.symm⟩
  | lost _ _ =>
      refine ⟨inv.clean, fun slot passed used => ?_⟩
      obtain ⟨disarmed, queued⟩ := inv.late slot passed used
      refine ⟨disarmed, fun item held => (queued item held).imp id ?_⟩
      rintro ⟨mover, notifies, carrier⟩
      have different : mover ≠ client := fun same => outside slot item (same ▸ notifies)
      exact ⟨mover, by simpa [different] using notifies, carrier⟩

theorem notify_awake [DecidableEq ι] (sd : ι → Int) (state : State ι) (client : ι) (position : Client)
    (inv : Awake sd state) : Awake sd ({ state with notified := true }.setClient client position) where
  clean := inv.clean
  late := fun slot passed used => ⟨(inv.late slot passed used).1, fun _ _ => .inl rfl⟩

theorem receive_awake [DecidableEq ι] (sd : ι → Int) (state after : State ι) (client : ι) (inv : Awake sd state)
    (taken : receiveRound state client = some after) : Awake sd after := by
  cases position : state.clients client with
  | receive slot msg =>
      simp only [receiveRound, position] at taken
      obtain ⟨answer, _, rfl⟩ := Option.map_eq_some_iff.mp taken
      refine move_awake sd state client slot _ _ inv (by simp [position]) (inv.clean slot) ?_
      intro passed used
      obtain ⟨disarmed, queued⟩ := inv.late slot passed used
      refine ⟨disarmed, fun item held => (queued item held).imp id ?_⟩
      rintro ⟨mover, notifies, carrier⟩
      have different : mover ≠ client := by
        intro same
        simp [same, position] at notifies
      exact ⟨mover, by simpa [different] using notifies, carrier⟩
  | idle | returned _ | unreachable | findSocket _ _ | findFreeSocket _ _ | takeMutex _ _ | writeSd _ _ | giveMutex _ _
  | resetSignal _ _ | sendQueue _ _ | notify _ _ => simp [receiveRound, position] at taken

theorem round_awake [DecidableEq ι] (sd : ι → Int) (nonneg : ∀ client, 0 ≤ sd client) (before after : Clocked ι)
    (action : Round ι) (inv : Awake sd before.state) (taken : round sd before action = some after) :
    Awake sd after.state := by
  cases action with
  | tick now =>
      simp only [round, Option.some.injEq] at taken
      rw [← taken]
      exact inv
  | submit client msg =>
      obtain ⟨next, submitted, rfl⟩ := Option.map_eq_some_iff.mp taken
      simp only [submitRound] at submitted
      split at submitted
      · rename_i position
        exact submit_awake sd nonneg before.state next client msg inv (by simp [position]) submitted
      · rename_i position
        exact submit_awake sd nonneg before.state next client msg inv (by simp [position]) submitted
      · cases submitted
  | notify client =>
      obtain ⟨next, notified, rfl⟩ := Option.map_eq_some_iff.mp taken
      simp only [notifyRound] at notified
      split at notified <;> cases notified
      exact notify_awake sd before.state client _ inv
  | receive client =>
      obtain ⟨next, received, rfl⟩ := Option.map_eq_some_iff.mp taken
      exact receive_awake sd before.state next client inv received
  | manager =>
      obtain ⟨next, moved, rfl⟩ := Option.map_eq_some_iff.mp taken
      exact manager_round_awake sd before.state next before.now inv moved
  | select res fds =>
      obtain ⟨next, selected, rfl⟩ := Option.map_eq_some_iff.mp taken
      simp only [selectStep] at selected
      split at selected <;> cases selected
      refine awake_busy sd _ inv.clean ?_
      intro slot
      dsimp only
      split
      · exact id
      · split <;> exact id

def Asleep (state : State ι) : Prop := state.manager = .waitForNotify ∧ state.notified = false

def NothingPending (sd : ι → Int) (state : State ι) : Prop :=
  ∀ slot, 0 ≤ (state.connections slot).sd →
    (state.connections slot).rxWaitDeadlineMs = 0 ∧
      ∀ msg, msg ∈ (state.connections slot).rxQueue.items → Unnotified sd state slot msg

theorem sleeps_without_work [DecidableEq ι] (sd : ι → Int) (nonneg : ∀ client, 0 ≤ sd client) (clocked : Clocked ι)
    (reached : Reach (round sd) Base.always .initial clocked) (asleep : Asleep clocked.state) :
    NothingPending sd clocked.state := by
  have inv : Awake sd clocked.state :=
    Base.reach_invariant (round sd) Base.always .initial (fun clocked => Awake sd clocked.state) (initial_awake sd)
      (fun before action after inv _ taken => round_awake sd nonneg before after action inv taken) clocked reached
  intro slot used
  have passed : Passed clocked.state.manager clocked.state.pass slot := by
    rw [asleep.1]
    trivial
  obtain ⟨disarmed, queued⟩ := inv.late slot passed used
  refine ⟨disarmed, fun msg held => ?_⟩
  rcases queued msg held with pending | unnotified
  · rw [asleep.2] at pending
    cases pending
  · exact unnotified

end

-- The manager falls asleep over an empty pool; the request sent then is still
-- to be notified.
theorem sleeps_without_work_one : ∃ clocked : Clocked (Fin 1), Asleep clocked.state ∧
    (clocked.state.connections 0).rxQueue.items = [⟨10⟩] ∧ NothingPending (fun _ => 5) clocked.state := by
  obtain ⟨clocked, reached, seen⟩ := Base.guarded_run_view (round fun _ : Fin 1 => 5) Base.always .initial
    (List.replicate 5 .manager ++ [.submit 0 ⟨10⟩])
    (fun clocked => ((clocked.state.manager, clocked.state.notified), (clocked.state.connections 0).rxQueue.items))
    ((.waitForNotify, false), [⟨10⟩]) (by decide)
  obtain ⟨asleep, queued⟩ := Prod.mk.inj seen
  exact ⟨clocked, Prod.mk.inj asleep, queued,
    sleeps_without_work _ (by decide) clocked reached (Prod.mk.inj asleep)⟩

end Miso.Mediator
