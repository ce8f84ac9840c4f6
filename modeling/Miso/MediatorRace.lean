import Miso.Mediator

set_option autoImplicit false

namespace Miso.Mediator

open Base (Queue Step Reach)

def Client.testing : Client → Option SlotId
  | .findFreeSocket slot _ => some slot
  | _ => none

-- Between a free test that succeeded and the write of sd.
def Client.claiming : Client → Option SlotId
  | .takeMutex slot _ | .writeSd slot _ => some slot
  | _ => none

-- Between the hit or the write of sd and the answer.
def Client.held : Client → Option SlotId
  | .giveMutex slot _ | .resetSignal slot _ | .sendQueue slot _ | .notify slot _ | .receive slot _ => some slot
  | _ => none

def Manager.releasing : Manager → Option SlotId
  | .writeSd slot => some slot
  | _ => none

section

variable {ι : Type}

-- No two tasks are between free test and write of one slot, and the manager
-- writes -1 only into a slot that no task is still waiting on.
def RaceFree (state : State ι) : Action ι → Prop
  | .client client => ∀ slot, (state.clients client).testing = some slot → (state.connections slot).sd < 0 →
      ∀ other, (state.clients other).claiming ≠ some slot
  | .manager => ∀ slot, state.manager.releasing = some slot → ∀ client, (state.clients client).held ≠ some slot
  | _ => True

instance (count : Nat) (state : State (Fin count)) (action : Action (Fin count)) : Decidable (RaceFree state action) :=
  match action with
  | .client client => inferInstanceAs (Decidable (∀ slot, (state.clients client).testing = some slot →
      (state.connections slot).sd < 0 → ∀ other, (state.clients other).claiming ≠ some slot))
  | .manager => inferInstanceAs (Decidable (∀ slot, state.manager.releasing = some slot →
      ∀ client, (state.clients client).held ≠ some slot))
  | .call _ _ | .readTick _ | .select _ _ => inferInstanceAs (Decidable True)

structure Exclusive (sd : ι → Int) (state : State ι) : Prop where
  carried : ∀ client slot, (state.clients client).held = some slot → (state.connections slot).sd = sd client
  free : ∀ client slot, (state.clients client).claiming = some slot → (state.connections slot).sd < 0
  sole : ∀ first second slot, (state.clients first).claiming = some slot → (state.clients second).claiming = some slot →
    first = second

theorem initial_exclusive (sd : ι → Int) : Exclusive sd (initial : State ι) where
  carried := by simp [initial, Client.held]
  free := by simp [initial, Client.claiming]
  sole := by simp [initial, Client.claiming]

theorem held_unique (sd : ι → Int) (distinct : Function.Injective sd) (state : State ι) (inv : Exclusive sd state)
    (first second : ι) (slot : SlotId) (left : (state.clients first).held = some slot)
    (right : (state.clients second).held = some slot) : first = second :=
  distinct ((inv.carried first slot left).symm.trans (inv.carried second slot right))

theorem exclusive_frame (sd : ι → Int) (state after : State ι) (inv : Exclusive sd state)
    (clients : after.clients = state.clients)
    (sds : ∀ slot, (after.connections slot).sd = (state.connections slot).sd) : Exclusive sd after where
  carried := fun client slot held => by rw [sds]; exact inv.carried client slot (by rwa [clients] at held)
  free := fun client slot claim => by rw [sds]; exact inv.free client slot (by rwa [clients] at claim)
  sole := fun first second slot left right =>
    inv.sole first second slot (by rwa [clients] at left) (by rwa [clients] at right)

theorem exclusive_move [DecidableEq ι] (sd : ι → Int) (state after : State ι) (client : ι) (position : Client)
    (inv : Exclusive sd state) (clients : after.clients = Function.update state.clients client position)
    (sds : ∀ slot, (after.connections slot).sd = (state.connections slot).sd)
    (carried : ∀ slot, position.held = some slot → (state.connections slot).sd = sd client)
    (free : ∀ slot, position.claiming = some slot → (state.connections slot).sd < 0 ∧
      ∀ other, other ≠ client → (state.clients other).claiming ≠ some slot) : Exclusive sd after where
  carried := by
    intro moved slot held
    rw [sds]
    by_cases same : moved = client
    · subst moved
      exact carried slot (by simpa [clients] using held)
    · exact inv.carried moved slot (by simpa [clients, same] using held)
  free := by
    intro moved slot claim
    rw [sds]
    by_cases same : moved = client
    · subst moved
      exact (free slot (by simpa [clients] using claim)).1
    · exact inv.free moved slot (by simpa [clients, same] using claim)
  sole := by
    intro first second slot left right
    by_cases here : first = client
    · subst first
      have claim : position.claiming = some slot := by simpa [clients] using left
      by_cases there : second = client
      · exact there.symm
      · exact absurd (by simpa [clients, there] using right) ((free slot claim).2 second there)
    · have kept : (state.clients first).claiming = some slot := by simpa [clients, here] using left
      by_cases there : second = client
      · subst second
        exact absurd kept ((free slot (by simpa [clients] using right)).2 first here)
      · exact inv.sole first second slot kept (by simpa [clients, there] using right)

theorem exclusive_hold [DecidableEq ι] (sd : ι → Int) (state after : State ι) (client : ι) (position : Client) (slot : SlotId)
    (inv : Exclusive sd state) (clients : after.clients = Function.update state.clients client position)
    (sds : ∀ other, (after.connections other).sd = (state.connections other).sd)
    (before : (state.clients client).held = some slot) (kept : position.held = some slot)
    (settled : position.claiming = none) : Exclusive sd after := by
  refine exclusive_move sd state after client position inv clients sds ?_ (by simp [settled])
  intro other held
  obtain rfl : slot = other := by simpa [kept] using held
  exact inv.carried client slot before

theorem set_connection_sd (state : State ι) (slot : SlotId) (conn : ConnectionManagerElement)
    (kept : conn.sd = (state.connections slot).sd) (other : SlotId) :
    ((state.setConnection slot conn).connections other).sd = (state.connections other).sd := by
  by_cases same : other = slot
  · subst other
    rw [set_connection_here, kept]
  · rw [set_connection_elsewhere state slot other conn same]

-- The claim itself: the slot was free, so nobody waits on it, and nobody else
-- was about to write it.
theorem exclusive_claim [DecidableEq ι] (sd : ι → Int) (nonneg : ∀ client, 0 ≤ sd client) (state : State ι) (client : ι)
    (slot : SlotId) (msg : TimeoutMsg) (inv : Exclusive sd state) (position : state.clients client = .writeSd slot msg) :
    Exclusive sd ((state.setConnection slot { state.connections slot with sd := sd client }).setClient client
      (.giveMutex slot msg)) := by
  have claim : (state.clients client).claiming = some slot := by rw [position]; rfl
  have open_ : (state.connections slot).sd < 0 := inv.free client slot claim
  constructor
  · intro moved other held
    by_cases same : moved = client
    · subst moved
      obtain rfl : slot = other := by simpa [Client.held] using held
      simp [State.setConnection]
    · have carried := inv.carried moved other (by simpa [same] using held)
      by_cases here : other = slot
      · subst other
        have bound := nonneg moved
        omega
      · simpa [State.setConnection, here] using carried
  · intro moved other claims
    by_cases same : moved = client
    · subst moved
      simp [Client.claiming] at claims
    · have kept : (state.clients moved).claiming = some other := by simpa [same] using claims
      by_cases here : other = slot
      · subst other
        exact absurd (inv.sole moved client slot kept claim) same
      · simpa [State.setConnection, here] using inv.free moved other kept
  · intro first second other left right
    by_cases here : first = client
    · subst first
      simp [Client.claiming] at left
    · by_cases there : second = client
      · subst second
        simp [Client.claiming] at right
      · exact inv.sole first second other (by simpa [here] using left) (by simpa [there] using right)

theorem exclusive_release (sd : ι → Int) (state after : State ι) (slot : SlotId) (inv : Exclusive sd state)
    (unused : ∀ client, (state.clients client).held ≠ some slot) (clients : after.clients = state.clients)
    (written : (after.connections slot).sd = -1)
    (others : ∀ other, other ≠ slot → (after.connections other).sd = (state.connections other).sd) :
    Exclusive sd after where
  carried := by
    intro client other held
    rw [clients] at held
    have different : other ≠ slot := fun same => unused client (same ▸ held)
    rw [others other different]
    exact inv.carried client other held
  free := by
    intro client other claim
    rw [clients] at claim
    by_cases same : other = slot
    · subst other
      omega
    · rw [others other same]
      exact inv.free client other claim
  sole := by rw [clients]; exact inv.sole

theorem client_exclusive [DecidableEq ι] (sd : ι → Int) (nonneg : ∀ client, 0 ≤ sd client) (state after : State ι) (client : ι)
    (inv : Exclusive sd state) (quiet : RaceFree state (.client client))
    (taken : clientStep sd state client = some after) : Exclusive sd after := by
  cases position : state.clients client with
  | idle | returned _ | unreachable => simp [clientStep, position] at taken
  | findSocket slot msg =>
      simp only [clientStep, position] at taken
      split at taken
      · rename_i hit
        cases taken
        exact exclusive_move sd state _ client _ inv rfl (fun _ => rfl)
          (by intro other held; obtain rfl : slot = other := by simpa [Client.held] using held
              exact hit) (by simp [Client.claiming])
      · split at taken <;> cases taken <;>
          exact exclusive_move sd state _ client _ inv rfl (fun _ => rfl) (by simp [Client.held]) (by simp [Client.claiming])
  | findFreeSocket slot msg =>
      simp only [clientStep, position] at taken
      split at taken
      · rename_i free
        cases taken
        refine exclusive_move sd state _ client _ inv rfl (fun _ => rfl) (by simp [Client.held]) ?_
        intro other claim
        obtain rfl : slot = other := by simpa [Client.claiming] using claim
        exact ⟨free, fun rival _ => quiet slot (by rw [position]; rfl) free rival⟩
      · split at taken <;> cases taken <;>
          exact exclusive_move sd state _ client _ inv rfl (fun _ => rfl) (by simp [Client.held]) (by simp [Client.claiming])
  | takeMutex slot msg =>
      simp only [clientStep, position] at taken
      split at taken
      · cases taken
      · cases taken
        have claim : (state.clients client).claiming = some slot := by rw [position]; rfl
        refine exclusive_move sd state _ client _ inv rfl (fun _ => rfl) (by simp [Client.held]) ?_
        intro other claims
        obtain rfl : slot = other := by simpa [Client.claiming] using claims
        exact ⟨inv.free client slot claim, fun rival different rivalClaim =>
          different (inv.sole rival client slot rivalClaim claim)⟩
  | writeSd slot msg =>
      simp only [clientStep, position, Option.some.injEq] at taken
      rw [← taken]
      exact exclusive_claim sd nonneg state client slot msg inv position
  | giveMutex slot msg | notify slot msg =>
      simp only [clientStep, position, Option.some.injEq] at taken
      rw [← taken]
      exact exclusive_hold sd state _ client _ slot inv rfl (fun _ => rfl) (by rw [position]; rfl) rfl rfl
  | resetSignal slot msg =>
      simp only [clientStep, position, Option.some.injEq] at taken
      rw [← taken]
      exact exclusive_hold sd state _ client _ slot inv rfl (set_connection_sd state slot _ rfl) (by rw [position]; rfl) rfl rfl
  | sendQueue slot msg =>
      simp only [clientStep, position] at taken
      obtain ⟨queue, _, rfl⟩ := Option.map_eq_some_iff.mp taken
      exact exclusive_hold sd state _ client _ slot inv rfl (set_connection_sd state slot _ rfl) (by rw [position]; rfl) rfl rfl
  | receive slot msg =>
      simp only [clientStep, position] at taken
      obtain ⟨answer, _, rfl⟩ := Option.map_eq_some_iff.mp taken
      exact exclusive_move sd state _ client _ inv rfl (set_connection_sd state slot _ rfl) (by simp [Client.held]) (by simp [Client.claiming])

theorem manager_exclusive (sd : ι → Int) (state after : State ι) (inv : Exclusive sd state)
    (quiet : RaceFree state .manager) (taken : managerStep state = some after) : Exclusive sd after := by
  obtain ⟨clients, effects⟩ := manager_effect state after taken
  cases releasing : state.manager.releasing with
  | none =>
      refine exclusive_frame sd state after inv clients (fun slot => ?_)
      cases effects slot with
      | same kept => rw [kept]
      | polled _ polled => rw [polled, ConnectionManagerElement.poll_sd]
      | released here _ => simp [here, Manager.releasing] at releasing
      | answered kept _ _ => exact kept
  | some slot =>
      have here : state.manager = .writeSd slot := by
        cases position : state.manager <;> simp_all [Manager.releasing]
      simp only [managerStep, here, Option.some.injEq] at taken
      rw [← taken]
      refine exclusive_release sd state _ slot inv (quiet slot releasing) rfl ?_ ?_
      · simp [State.setConnection]
      · intro other different
        simp [State.setConnection, different]

theorem step_exclusive [DecidableEq ι] (sd : ι → Int) (nonneg : ∀ client, 0 ≤ sd client) (state : State ι) (action : Action ι)
    (after : State ι) (inv : Exclusive sd state) (quiet : RaceFree state action)
    (taken : step sd state action = some after) : Exclusive sd after := by
  cases action with
  | call client msg =>
      have moved : after = state.setClient client (.findSocket 0 msg) := by
        simp only [step, callStep] at taken
        split at taken <;> simp_all
      rw [moved]
      exact exclusive_move sd state _ client _ inv rfl (fun _ => rfl) (by simp [Client.held]) (by simp [Client.claiming])
  | client client => exact client_exclusive sd nonneg state after client inv quiet taken
  | readTick tick =>
      simp only [step, readTickStep] at taken
      split at taken <;> cases taken
      exact exclusive_frame sd state _ inv rfl (fun _ => rfl)
  | select res fds =>
      simp only [step, selectStep] at taken
      split at taken <;> cases taken
      exact exclusive_frame sd state _ inv rfl (fun _ => rfl)
  | manager => exact manager_exclusive sd state after inv quiet taken

-- No free test is outdated when sd is written, and no slot serves two tasks.
def SlotExclusive (state : State ι) : Prop :=
  (∀ client slot msg, state.clients client = .writeSd slot msg → (state.connections slot).sd < 0) ∧
    ∀ first second slot, (state.clients first).held = some slot → (state.clients second).held = some slot → first = second

theorem reach_exclusive [DecidableEq ι] (sd : ι → Int) (nonneg : ∀ client, 0 ≤ sd client) (meets : State ι → Action ι → Prop)
    (implied : ∀ state action, meets state action → RaceFree state action) (state : State ι)
    (reached : Reach (step sd) meets initial state) : Exclusive sd state :=
  Base.reach_invariant (step sd) meets initial (Exclusive sd) (initial_exclusive sd)
    (fun before action after inv met taken =>
      step_exclusive sd nonneg before action after inv (implied before action met) taken) state reached

theorem slots_exclusive [DecidableEq ι] (sd : ι → Int) (nonneg : ∀ client, 0 ≤ sd client) (distinct : Function.Injective sd)
    (state : State ι) (reached : Reach (step sd) RaceFree initial state) : SlotExclusive state := by
  have inv := reach_exclusive sd nonneg RaceFree (fun _ _ quiet => quiet) state reached
  refine ⟨fun client slot msg position => inv.free client slot (by rw [position]; rfl), ?_⟩
  exact fun first second slot left right => held_unique sd distinct state inv first second slot left right

end

def descriptors (client : Fin 2) : Int := 5 + client.val

theorem descriptors_distinct : Function.Injective descriptors := by
  intro first second same
  exact Fin.ext (Int.ofNat.inj (Int.add_left_cancel same))

-- A task's way from the call to the write of sd, split at its free test.
def lookup (client : Fin 2) : List (Action (Fin 2)) := .call client ⟨10⟩ :: List.replicate 5 (.client client)
def claim (client : Fin 2) : List (Action (Fin 2)) := List.replicate 3 (.client client)

theorem slots_exclusive_two : ∃ state : State (Fin 2), Reach (step descriptors) RaceFree initial state ∧
    ((state.clients 0).held, (state.clients 1).held) = (some 0, some 1) ∧ SlotExclusive state := by
  obtain ⟨state, reached, seen⟩ := Base.guarded_run_view (step descriptors) RaceFree initial
    (lookup 0 ++ claim 0 ++ lookup 1 ++ .client 1 :: claim 1)
    (fun state => ((state.clients 0).held, (state.clients 1).held)) (some 0, some 1) (by decide)
  exact ⟨state, reached, seen, slots_exclusive descriptors (by decide) descriptors_distinct state reached⟩

-- Both tasks test slot 0 before either writes it.
theorem claim_race : ¬ ∀ state : State (Fin 2), Reach (step descriptors) Base.always initial state → SlotExclusive state := by
  intro exclusive
  obtain ⟨state, reached, seen⟩ := Base.guarded_run_view (step descriptors) Base.always initial
    (lookup 0 ++ lookup 1 ++ claim 0 ++ claim 1)
    (fun state => ((state.clients 0).held, (state.clients 1).held)) (some 0, some 0) (by decide)
  have both := Prod.mk.inj seen
  exact absurd ((exclusive state reached).2 0 1 0 both.1 both.2) (by decide)

end Miso.Mediator
