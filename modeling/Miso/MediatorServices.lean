import Miso.MediatorPool
import Miso.SimpleLink

set_option autoImplicit false

namespace Miso.Mediator

open Base (Step StatesHold StepsMeet)

-- The services beside the pool: what each connection holds as its socket,
-- and whether wifi_task has suspended the manager's task.
structure Services (ι : Type) where
  clocked : Clocked ι
  socket : ι → Int
  suspended : Bool

namespace Services

section

variable {ι : Type}

def initial : Services ι where
  clocked := .initial
  socket := fun _ => slInvalidSocket
  suspended := true

inductive Call (ι : Type) where
  | openConn (client : ι) (sd : Int)
  | close (client : ι)
  | suspend
  | resume (woken : Bool)
  | round (action : Round ι)

def outside (services : Services ι) (client : ι) : Bool :=
  match services.clocked.state.clients client with
  | .idle | .returned _ => true
  | _ => false

def byManager : Round ι → Bool
  | .manager | .select _ _ => true
  | _ => false

-- A task resumed inside xTaskNotifyWait may come back without a notification.
def wake (state : State ι) : State ι :=
  match state.manager with
  | .waitForNotify => { state with manager := .top, notified := false }
  | _ => state

-- A failed sl_Socket leaves its negative code in sd; close always leaves the
-- invalid socket.
def serve [DecidableEq ι] : Step (Services ι) (Call ι) := fun services call =>
  match call with
  | .openConn client sd =>
      if services.outside client ∧ services.socket client < 0 then
        some { services with socket := Function.update services.socket client sd }
      else none
  | .close client =>
      if services.outside client then some { services with socket := Function.update services.socket client slInvalidSocket }
      else none
  | .suspend => some { services with suspended := true }
  | .resume woken =>
      some { services with
        suspended := false
        clocked := if woken then { services.clocked with state := wake services.clocked.state } else services.clocked }
  | .round action =>
      if services.suspended ∧ byManager action then none
      else (round services.socket services.clocked action).map fun clocked => { services with clocked := clocked }

theorem wake_connections (state : State ι) : (wake state).connections = state.connections := by
  unfold wake
  split <;> rfl

inductive Served [DecidableEq ι] (services : Services ι) (after : Services ι) : Call ι → Prop where
  | quiet (call : Call ι) (plain : ∀ client msg, call ≠ .round (.submit client msg))
      (effect : ∀ slot, SlotEffect (services.clocked.state.connections slot) (after.clocked.state.connections slot)) :
      Served services after call
  | waited (client : ι) (msg : TimeoutMsg)
      (submitted : Submitted services.socket services.clocked.state client msg after.clocked.state) :
      Served services after (.round (.submit client msg))

theorem serve_cases [DecidableEq ι] (services after : Services ι) (call : Call ι)
    (taken : serve services call = some after) : Served services after call := by
  cases call with
  | openConn client sd | close client =>
      simp only [serve] at taken
      split at taken <;> cases taken
      exact .quiet _ (by simp) fun _ => slot_effect_same _
  | suspend =>
      cases taken
      exact .quiet _ (by simp) fun _ => slot_effect_same _
  | resume woken =>
      cases taken
      refine .quiet _ (by simp) fun slot => ?_
      cases woken with
      | true => simpa only [if_true, wake_connections] using slot_effect_same _
      | false => exact slot_effect_same _
  | round action =>
      simp only [serve] at taken
      split at taken
      · cases taken
      · obtain ⟨clocked, moved, rfl⟩ := Option.map_eq_some_iff.mp taken
        by_cases submits : action.isSubmit = true
        · cases action with
          | submit client msg =>
              obtain ⟨next, submitted, rfl⟩ := Option.map_eq_some_iff.mp moved
              simp only [submitRound] at submitted
              split at submitted
              · exact .waited client msg (submit_cases _ _ _ client msg submitted)
              · exact .waited client msg (submit_cases _ _ _ client msg submitted)
              · cases submitted
          | notify client | receive client | tick now | manager | select res fds => cases submits
        · refine .quiet _ ?_ (round_slots services.socket services.clocked clocked action (by simpa using submits) moved)
          intro client msg same
          cases same
          exact submits rfl

theorem placed_clean [DecidableEq ι] (services : Services ι) (client : ι) (msg : TimeoutMsg) (slot : SlotId)
    (conn : ConnectionManagerElement) (inv : WellFormed services.clocked.state) (carries : conn.sd = services.socket client)
    (queue : conn.rxQueue.items = [msg])
    (mine : (services.clocked.state.connections slot).sd = services.socket client ∨
      ((services.clocked.state.connections slot).sd < 0 ∧
        ∀ other, (services.clocked.state.connections other).sd ≠ services.socket client)) :
    WellFormed ((services.clocked.state.setConnection slot conn).setClient client (.notify slot msg)) ↔
      0 ≤ services.socket client := by
  have here := set_connection_here services.clocked.state slot conn
  constructor
  · intro after
    by_contra closed
    have parked := (after.clean slot (by rw [set_client_connections, here]; omega)).1
    rw [set_client_connections, here, queue] at parked
    cases parked
  · intro opened
    refine ⟨place_apart services.socket _ client slot conn _ inv.apart mine carries, fun other free => ?_⟩
    rw [set_client_connections] at free ⊢
    by_cases same : other = slot
    · rw [same, here] at free
      omega
    · rw [set_connection_elsewhere _ slot other conn same] at free ⊢
      exact inv.clean other free

-- With all four slots in use a closed socket runs into the unreachable
-- before it can touch the pool.
def OpenOrFull (services : Services ι) : Call ι → Prop
  | .round (.submit client _) => 0 ≤ services.socket client ∨ ∀ slot, 0 ≤ (services.clocked.state.connections slot).sd
  | _ => True

theorem serve_well_formed [DecidableEq ι] (services after : Services ι) (call : Call ι)
    (inv : WellFormed services.clocked.state) (taken : serve services call = some after) :
    WellFormed after.clocked.state ↔ OpenOrFull services call := by
  cases serve_cases services after call taken with
  | quiet _ plain effect =>
      refine iff_of_true (effect_well_formed _ _ effect inv) ?_
      unfold OpenOrFull
      split
      · exact absurd rfl (plain _ _)
      · trivial
  | waited client msg submitted =>
      generalize reached : after.clocked.state = state at submitted
      cases submitted with
      | placed slot conn mine room carries deadline signal queue =>
          rw [placed_clean services client msg slot conn inv carries queue mine]
          refine ⟨.inl, fun met => met.elim id fun full => ?_⟩
          have used := full slot
          omega
      | lost missing full => exact iff_of_true ⟨inv.apart, inv.clean⟩ (.inr full)

theorem initial_well_formed : WellFormed (initial : Services ι).clocked.state where
  apart := by
    intro slot other used
    simp [initial, Clocked.initial, Mediator.initial, ConnectionManagerElement.init] at used
  clean := by simp [initial, Clocked.initial, Mediator.initial, ConnectionManagerElement.init, Clean]

theorem pool_well_formed [DecidableEq ι] (calls : List (Call ι)) :
    StatesHold serve (fun services => WellFormed services.clocked.state) .initial calls ↔
      StepsMeet serve OpenOrFull (.initial : Services ι) calls :=
  Base.states_hold_iff serve (fun _ => True) (fun services => WellFormed services.clocked.state) OpenOrFull
    (fun _ _ _ _ _ => trivial)
    (fun services call after _ inv taken => serve_well_formed services after call inv taken) .initial calls trivial
    initial_well_formed

-- The first slot is free and carries the very value a closed connection
-- passes.
theorem closed_wait_parked : ¬ ∀ calls : List (Call (Fin 1)),
    StatesHold serve (fun services => WellFormed services.clocked.state) .initial calls := by
  intro always
  let calls : List (Call (Fin 1)) := [.openConn 0 5, .close 0, .round (.submit 0 ⟨10⟩)]
  obtain ⟨services, ran, parked⟩ : ∃ services, Base.run serve (.initial : Services (Fin 1)) calls = some services ∧
      ((services.clocked.state.connections 0).sd, (services.clocked.state.connections 0).rxQueue.items) = (-1, [⟨10⟩]) :=
    Option.map_eq_some_iff.mp (by decide)
  obtain ⟨free, queued⟩ := Prod.mk.inj parked
  have inv := Base.states_hold_last serve _ .initial services calls (always calls) ran
  have clean := (inv.clean 0 (by omega)).1
  rw [queued] at clean
  cases clean

-- A slot nobody's socket leads to any more: its service has closed the
-- socket, and the manager has not come by.
def LeftOver (services : Services ι) (slot : SlotId) : Prop :=
  0 ≤ (services.clocked.state.connections slot).sd ∧
    ∀ client, services.socket client ≠ (services.clocked.state.connections slot).sd

def FindsSlot (services : Services ι) : Call ι → Prop
  | .round (.submit client _) => 0 ≤ services.socket client →
      findSocket services.clocked.state.connections (services.socket client) ≠ none ∨
        findFreeSocket services.clocked.state.connections ≠ none
  | _ => True

-- At the first wait on a new socket the manager has released the slots of
-- all closed sockets.
def Released (services : Services ι) : Call ι → Prop
  | .round (.submit client _) => 0 ≤ services.socket client →
      (∀ slot, (services.clocked.state.connections slot).sd ≠ services.socket client) → ∀ slot, ¬ LeftOver services slot
  | _ => True

-- Four different sockets of at most four services are the sockets of all of
-- them.
theorem full_pool_serves [Fintype ι] (few : Fintype.card ι ≤ 4) (services : Services ι) (apart : Apart services.clocked.state)
    (full : ∀ slot, 0 ≤ (services.clocked.state.connections slot).sd) (current : ∀ slot, ¬ LeftOver services slot)
    (client : ι) : ∃ slot, (services.clocked.state.connections slot).sd = services.socket client := by
  have held : ∀ slot, ∃ tenant, services.socket tenant = (services.clocked.state.connections slot).sd := by
    intro slot
    by_contra none
    exact current slot ⟨full slot, not_exists.mp none⟩
  choose tenant holds using held
  have injective : Function.Injective tenant := by
    intro slot other same
    exact apart slot other (full slot) (by rw [← holds slot, ← holds other, same])
  obtain ⟨slot, rfl⟩ := tenants_surjective few tenant injective client
  exact ⟨slot, (holds slot).symm⟩

theorem released_finds_slot [Fintype ι] (few : Fintype.card ι ≤ 4) (services : Services ι) (call : Call ι)
    (apart : Apart services.clocked.state) (released : Released services call) : FindsSlot services call := by
  unfold FindsSlot
  split
  · rename_i client _
    intro opened
    by_contra lost
    obtain ⟨unknown, occupied⟩ := not_or.mp lost
    have missing := find_socket_none _ _ (not_not.mp unknown)
    have full := find_free_none _ (not_not.mp occupied)
    obtain ⟨slot, found⟩ := full_pool_serves few services apart full (released opened missing) client
    exact missing slot found
  · trivial

theorem serve_apart [DecidableEq ι] (services after : Services ι) (call : Call ι) (apart : Apart services.clocked.state)
    (taken : serve services call = some after) : Apart after.clocked.state := by
  cases serve_cases services after call taken with
  | quiet _ _ effect => exact effect_apart _ _ effect apart
  | waited client msg submitted =>
      generalize after.clocked.state = state at submitted
      cases submitted with
      | placed slot conn mine _ carries _ _ _ => exact place_apart services.socket _ client slot conn _ apart mine carries
      | lost _ _ => exact apart

theorem waits_find_slot [DecidableEq ι] [Fintype ι] (few : Fintype.card ι ≤ 4) (calls : List (Call ι))
    (released : StepsMeet serve Released (.initial : Services ι) calls) :
    StepsMeet serve FindsSlot (.initial : Services ι) calls :=
  Base.steps_meet_implied serve (fun services => Apart services.clocked.state) Released FindsSlot
    (fun services call after apart _ taken => serve_apart services after call apart taken)
    (fun services call apart met => released_finds_slot few services call apart met) .initial calls
    initial_well_formed.apart released

instance [Fintype ι] (services : Services ι) (slot : SlotId) : Decidable (LeftOver services slot) :=
  inferInstanceAs (Decidable (_ ∧ _))

instance (services : Services ι) : (call : Call ι) → Decidable (FindsSlot services call)
  | .round (.submit _ _) => inferInstanceAs (Decidable (_ → _))
  | .round (.notify _) | .round (.receive _) | .round (.tick _) | .round .manager | .round (.select _ _)
  | .openConn _ _ | .close _ | .suspend | .resume _ => inferInstanceAs (Decidable True)

instance [Fintype ι] (services : Services ι) : (call : Call ι) → Decidable (Released services call)
  | .round (.submit _ _) => inferInstanceAs (Decidable (_ → _))
  | .round (.notify _) | .round (.receive _) | .round (.tick _) | .round .manager | .round (.select _ _)
  | .openConn _ _ | .close _ | .suspend | .resume _ => inferInstanceAs (Decidable True)

end

def waitCalls (client : Fin 4) (sd : Int) : List (Call (Fin 4)) :=
  [.openConn client sd, .round (.submit client ⟨100⟩), .round (.notify client)]

-- Four services wait, the manager takes the requests and answers the first
-- service, which receives.
def answeredFirst : List (Call (Fin 4)) :=
  .resume false :: waitCalls 0 0 ++ waitCalls 1 1 ++ waitCalls 2 2 ++ waitCalls 3 3 ++
    List.replicate 5 (.round .manager) ++ [.round (.select 1 (fdSet 0 fdZero))] ++ List.replicate 4 (.round .manager) ++
    [.round (.receive 0)]

theorem waits_find_slot_released : StepsMeet serve FindsSlot (.initial : Services (Fin 4))
    (answeredFirst ++ [.round .manager, .round .manager, .close 0] ++ waitCalls 0 4) :=
  waits_find_slot (by decide) _ (by decide)

-- The manager is suspended after its answer and before the pass that would
-- release the slot.
theorem suspended_release_loses_wait : ¬ ∀ calls : List (Call (Fin 4)),
    StepsMeet serve FindsSlot (.initial : Services (Fin 4)) calls := by
  intro always
  have finds := always (answeredFirst ++ [.suspend, .close 0] ++ waitCalls 0 4)
  exact absurd finds (by decide)

end Services

end Miso.Mediator
