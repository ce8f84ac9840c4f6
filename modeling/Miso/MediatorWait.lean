import Miso.MediatorRace

set_option autoImplicit false

namespace Miso.Mediator

open Base (Queue Reach)

def Client.message : Client → Option TimeoutMsg
  | .findSocket _ msg | .findFreeSocket _ msg | .takeMutex _ msg | .writeSd _ msg | .giveMutex _ msg
  | .resetSignal _ msg | .sendQueue _ msg | .notify _ msg | .receive _ msg => some msg
  | .idle | .returned _ | .unreachable => none

def Client.waiting : Client → Option (SlotId × TimeoutMsg)
  | .notify slot msg | .receive slot msg => some (slot, msg)
  | _ => none

def Pending (msg : TimeoutMsg) (conn : ConnectionManagerElement) : Prop :=
  msg ∈ conn.rxQueue.items ∨ conn.rxWaitDeadlineMs ≠ 0 ∨ conn.rxSignal.items ≠ []

section

variable {ι : Type}

def NonzeroCall : Action ι → Prop
  | .call _ msg => msg.deadline ≠ 0
  | _ => True

def Timely (_ : State ι) (action : Action ι) : Prop := NonzeroCall action

def TimelyRaceFree (state : State ι) (action : Action ι) : Prop := NonzeroCall action ∧ RaceFree state action

structure Served (state : State ι) : Prop where
  queued : ∀ slot msg, msg ∈ (state.connections slot).rxQueue.items → msg.deadline ≠ 0
  carried : ∀ client msg, (state.clients client).message = some msg → msg.deadline ≠ 0
  waiting : ∀ client slot msg, (state.clients client).waiting = some (slot, msg) → Pending msg (state.connections slot)

theorem initial_served : Served (initial : State ι) where
  queued := by simp [initial, ConnectionManagerElement.init]
  carried := by simp [initial, Client.message]
  waiting := by simp [initial, Client.waiting]

theorem poll_pending (conn : ConnectionManagerElement) (msg : TimeoutMsg)
    (nonzero : ∀ item, item ∈ conn.rxQueue.items → item.deadline ≠ 0) (pending : Pending msg conn) :
    Pending msg conn.poll := by
  rcases Queue.single_cases conn.rxQueue with none | ⟨item, one⟩
  · simpa [Pending, ConnectionManagerElement.poll_idle conn none] using pending
  · have armed := (ConnectionManagerElement.poll_request conn item one).1
    refine .inr (.inl ?_)
    rw [armed]
    exact ConnectionManagerElement.rearm_nonzero _ item (nonzero item (by simp [one]))

theorem effect_queued (manager : Manager) (slot : SlotId) (before after : ConnectionManagerElement)
    (effect : ManagerEffect manager slot before after) (msg : TimeoutMsg) (queued : msg ∈ after.rxQueue.items) :
    msg ∈ before.rxQueue.items := by
  cases effect with
  | same kept => rwa [kept] at queued
  | polled _ taken => simp [taken, ConnectionManagerElement.poll_drains] at queued
  | released _ taken => simpa [taken] using queued
  | answered _ kept _ => rwa [kept] at queued

theorem effect_pending (manager : Manager) (slot : SlotId) (before after : ConnectionManagerElement)
    (effect : ManagerEffect manager slot before after) (msg : TimeoutMsg)
    (nonzero : ∀ item, item ∈ before.rxQueue.items → item.deadline ≠ 0) (pending : Pending msg before) :
    Pending msg after := by
  cases effect with
  | same kept => rwa [kept]
  | polled _ taken =>
      rw [taken]
      exact poll_pending before msg nonzero pending
  | released _ taken => simpa [taken, Pending] using pending
  | answered _ _ signalled => exact .inr (.inr signalled)

theorem manager_served (state after : State ι) (inv : Served state) (taken : managerStep state = some after) :
    Served after := by
  obtain ⟨clients, effects⟩ := manager_effect state after taken
  refine ⟨?_, by rw [clients]; exact inv.carried, ?_⟩
  · exact fun slot msg held => inv.queued slot msg (effect_queued _ slot _ _ (effects slot) msg held)
  · intro client slot msg position
    rw [clients] at position
    exact effect_pending _ slot _ _ (effects slot) msg (inv.queued slot) (inv.waiting client slot msg position)

theorem served_frame (state after : State ι) (inv : Served state) (clients : after.clients = state.clients)
    (connections : after.connections = state.connections) : Served after where
  queued := by rw [connections]; exact inv.queued
  carried := by rw [clients]; exact inv.carried
  waiting := by rw [clients, connections]; exact inv.waiting

theorem waiting_held (position : Client) (slot : SlotId) (msg : TimeoutMsg)
    (waits : position.waiting = some (slot, msg)) : position.held = some slot := by
  cases position <;> simp_all [Client.waiting, Client.held]

theorem served_stay [DecidableEq ι] (state after : State ι) (client : ι) (position : Client) (inv : Served state)
    (clients : after.clients = Function.update state.clients client position)
    (connections : after.connections = state.connections)
    (carried : ∀ msg, position.message = some msg → msg.deadline ≠ 0)
    (mine : ∀ slot msg, position.waiting = some (slot, msg) → Pending msg (state.connections slot)) : Served after where
  queued := by rw [connections]; exact inv.queued
  carried := by
    intro moved msg message
    by_cases same : moved = client
    · subst moved
      exact carried msg (by simpa [clients] using message)
    · exact inv.carried moved msg (by simpa [clients, same] using message)
  waiting := by
    intro moved slot msg waits
    rw [connections]
    by_cases same : moved = client
    · subst moved
      exact mine slot msg (by simpa [clients] using waits)
    · exact inv.waiting moved slot msg (by simpa [clients, same] using waits)

-- A task changes a slot that no other task waits on, so only its own request
-- has to be accounted for.
theorem served_move [DecidableEq ι] (state : State ι) (client : ι) (slot : SlotId) (conn : ConnectionManagerElement)
    (position : Client) (inv : Served state)
    (alone : ∀ other msg, other ≠ client → (state.clients other).waiting ≠ some (slot, msg))
    (queued : ∀ msg, msg ∈ conn.rxQueue.items → msg.deadline ≠ 0)
    (carried : ∀ msg, position.message = some msg → msg.deadline ≠ 0)
    (mine : ∀ other msg, position.waiting = some (other, msg) → other = slot ∧ Pending msg conn) :
    Served ((state.setConnection slot conn).setClient client position) where
  queued := by
    intro other msg held
    by_cases here : other = slot
    · subst other
      exact queued msg (by simpa [State.setConnection] using held)
    · exact inv.queued other msg (by simpa [State.setConnection, here] using held)
  carried := by
    intro moved msg message
    by_cases same : moved = client
    · subst moved
      exact carried msg (by simpa using message)
    · exact inv.carried moved msg (by simpa [same] using message)
  waiting := by
    intro moved other msg waits
    by_cases same : moved = client
    · subst moved
      obtain ⟨rfl, pending⟩ := mine other msg (by simpa using waits)
      simpa [State.setConnection] using pending
    · have before : (state.clients moved).waiting = some (other, msg) := by simpa [same] using waits
      have elsewhere : other ≠ slot := fun here => alone moved msg same (here ▸ before)
      simpa [State.setConnection, elsewhere] using inv.waiting moved other msg before

theorem held_alone (sd : ι → Int) (distinct : Function.Injective sd) (state : State ι) (inv : Exclusive sd state)
    (client : ι) (slot : SlotId) (holds : (state.clients client).held = some slot) (other : ι) (msg : TimeoutMsg)
    (different : other ≠ client) : (state.clients other).waiting ≠ some (slot, msg) := by
  intro waits
  exact different (held_unique sd distinct state inv other client slot (waiting_held _ slot msg waits) holds)

theorem claim_alone (sd : ι → Int) (nonneg : ∀ client, 0 ≤ sd client) (state : State ι) (inv : Exclusive sd state)
    (client : ι) (slot : SlotId) (claims : (state.clients client).claiming = some slot) (other : ι) (msg : TimeoutMsg) :
    (state.clients other).waiting ≠ some (slot, msg) := by
  intro waits
  have carried := inv.carried other slot (waiting_held _ slot msg waits)
  have free := inv.free client slot claims
  have bound := nonneg other
  omega

theorem client_served [DecidableEq ι] (sd : ι → Int) (nonneg : ∀ client, 0 ≤ sd client)
    (distinct : Function.Injective sd) (state after : State ι) (client : ι) (inv : Served state)
    (exclusive : Exclusive sd state) (taken : clientStep sd state client = some after) : Served after := by
  have carried := inv.carried client
  have waiting := inv.waiting client
  have alone := held_alone sd distinct state exclusive client
  cases position : state.clients client with
  | idle | returned _ | unreachable => simp [clientStep, position] at taken
  | findSocket slot msg | findFreeSocket slot msg =>
      have nonzero := carried msg (by rw [position]; rfl)
      simp only [clientStep, position] at taken
      split at taken
      · cases taken
        exact served_stay state _ client _ inv rfl rfl (by simpa [Client.message] using nonzero) (by simp [Client.waiting])
      · split at taken <;> cases taken <;>
          exact served_stay state _ client _ inv rfl rfl (by simp [Client.message, nonzero]) (by simp [Client.waiting])
  | takeMutex slot msg =>
      have nonzero := carried msg (by rw [position]; rfl)
      simp only [clientStep, position] at taken
      split at taken <;> cases taken
      exact served_stay state _ client _ inv rfl rfl (by simpa [Client.message] using nonzero) (by simp [Client.waiting])
  | giveMutex slot msg =>
      have nonzero := carried msg (by rw [position]; rfl)
      simp only [clientStep, position, Option.some.injEq] at taken
      rw [← taken]
      exact served_stay state _ client _ inv rfl rfl (by simpa [Client.message] using nonzero) (by simp [Client.waiting])
  | notify slot msg =>
      have nonzero := carried msg (by rw [position]; rfl)
      have pending := waiting slot msg (by rw [position]; rfl)
      simp only [clientStep, position, Option.some.injEq] at taken
      rw [← taken]
      refine served_stay state _ client _ inv rfl rfl (by simpa [Client.message] using nonzero) ?_
      simpa [Client.waiting] using pending
  | writeSd slot msg =>
      have nonzero := carried msg (by rw [position]; rfl)
      simp only [clientStep, position, Option.some.injEq] at taken
      rw [← taken]
      exact served_move state client slot _ _ inv
        (fun other item _ => claim_alone sd nonneg state exclusive client slot (by rw [position]; rfl) other item)
        (inv.queued slot) (by simpa [Client.message] using nonzero) (by simp [Client.waiting])
  | resetSignal slot msg =>
      have nonzero := carried msg (by rw [position]; rfl)
      simp only [clientStep, position, Option.some.injEq] at taken
      rw [← taken]
      exact served_move state client slot _ _ inv (alone slot (by rw [position]; rfl)) (inv.queued slot)
        (by simpa [Client.message] using nonzero) (by simp [Client.waiting])
  | sendQueue slot msg =>
      have nonzero := carried msg (by rw [position]; rfl)
      simp only [clientStep, position] at taken
      obtain ⟨queue, sent, rfl⟩ := Option.map_eq_some_iff.mp taken
      have filled := (Queue.send_single _ queue msg sent).2
      refine served_move state client slot _ _ inv (alone slot (by rw [position]; rfl)) ?_
        (by simpa [Client.message] using nonzero) ?_
      · intro item queued
        obtain rfl : item = msg := by simpa [filled] using queued
        exact nonzero
      · simp [Client.waiting, Pending, filled]
  | receive slot msg =>
      simp only [clientStep, position] at taken
      obtain ⟨answer, _, rfl⟩ := Option.map_eq_some_iff.mp taken
      exact served_move state client slot _ _ inv (alone slot (by rw [position]; rfl)) (inv.queued slot)
        (by simp [Client.message]) (by simp [Client.waiting])

theorem step_served [DecidableEq ι] (sd : ι → Int) (nonneg : ∀ client, 0 ≤ sd client) (distinct : Function.Injective sd)
    (state : State ι) (action : Action ι) (after : State ι) (inv : Served state) (exclusive : Exclusive sd state)
    (timely : NonzeroCall action) (taken : step sd state action = some after) : Served after := by
  cases action with
  | call client msg =>
      have moved : after = state.setClient client (.findSocket 0 msg) := by
        simp only [step, callStep] at taken
        split at taken <;> simp_all
      rw [moved]
      exact served_stay state _ client _ inv rfl rfl (by simpa [Client.message, NonzeroCall] using timely)
        (by simp [Client.waiting])
  | client client => exact client_served sd nonneg distinct state after client inv exclusive taken
  | readTick tick =>
      simp only [step, readTickStep] at taken
      split at taken <;> cases taken
      exact served_frame state _ inv rfl rfl
  | select res fds =>
      simp only [step, selectStep] at taken
      split at taken <;> cases taken
      exact served_frame state _ inv rfl rfl
  | manager => exact manager_served state after inv taken

def NoLostWait (sd : ι → Int) (state : State ι) : Prop :=
  ∀ client slot msg, state.clients client = .receive slot msg →
    (state.connections slot).sd = sd client ∧ Pending msg (state.connections slot)

theorem blocked_waits_served [DecidableEq ι] (sd : ι → Int) (nonneg : ∀ client, 0 ≤ sd client)
    (distinct : Function.Injective sd) (state : State ι)
    (reached : Reach (step sd) TimelyRaceFree initial state) : NoLostWait sd state := by
  have both : Exclusive sd state ∧ Served state := by
    refine Base.reach_invariant (step sd) TimelyRaceFree initial (fun state => Exclusive sd state ∧ Served state)
      ⟨initial_exclusive sd, initial_served⟩ ?_ state reached
    intro before action after inv met taken
    exact ⟨step_exclusive sd nonneg before action after inv.1 met.2 taken,
      step_served sd nonneg distinct before action after inv.2 inv.1 met.1 taken⟩
  intro client slot msg position
  exact ⟨both.1.carried client slot (by rw [position]; rfl), both.2.waiting client slot msg (by rw [position]; rfl)⟩

end

instance (count : Nat) (action : Action (Fin count)) : Decidable (NonzeroCall action) :=
  match action with
  | .call _ msg => inferInstanceAs (Decidable (msg.deadline ≠ 0))
  | .client _ | .readTick _ | .select _ _ | .manager => inferInstanceAs (Decidable True)

instance (count : Nat) (state : State (Fin count)) (action : Action (Fin count)) : Decidable (Timely state action) :=
  inferInstanceAs (Decidable (NonzeroCall action))

instance (count : Nat) (state : State (Fin count)) (action : Action (Fin count)) : Decidable (TimelyRaceFree state action) :=
  inferInstanceAs (Decidable (NonzeroCall action ∧ RaceFree state action))

def request (client : Fin 2) : List (Action (Fin 2)) := List.replicate 3 (.client client)

theorem blocked_waits_served_one : ∃ state : State (Fin 2), Reach (step descriptors) TimelyRaceFree initial state ∧
    (state.clients 0 = .receive 0 ⟨10⟩ ∧ (state.connections 0).rxWaitDeadlineMs = 10) ∧ NoLostWait descriptors state := by
  obtain ⟨state, reached, seen⟩ := Base.guarded_run_view (step descriptors) TimelyRaceFree initial
    (lookup 0 ++ claim 0 ++ request 0 ++ .readTick 3 :: List.replicate 2 .manager)
    (fun state => (state.clients 0, (state.connections 0).rxWaitDeadlineMs)) (.receive 0 ⟨10⟩, 10) (by decide)
  exact ⟨state, reached, Prod.mk.inj seen,
    blocked_waits_served descriptors (by decide) descriptors_distinct state reached⟩

-- The manager polls the empty queue of a fresh slot, the task sends its
-- request, and the manager releases the slot under it.
theorem release_race : ¬ ∀ state : State (Fin 2), Reach (step descriptors) Timely initial state →
    NoLostWait descriptors state := by
  intro served
  obtain ⟨state, reached, seen⟩ := Base.guarded_run_view (step descriptors) Timely initial
    (lookup 0 ++ claim 0 ++ Action.readTick 3 :: List.replicate 3 Action.manager ++ request 0 ++
      List.replicate 2 Action.manager)
    (fun state => (state.clients 0, (state.connections 0).sd)) (.receive 0 ⟨10⟩, -1) (by decide)
  obtain ⟨blocked, freed⟩ := Prod.mk.inj seen
  have carried := (served state reached 0 0 ⟨10⟩ blocked).1
  rw [freed] at carried
  exact absurd carried (by decide)

end Miso.Mediator
