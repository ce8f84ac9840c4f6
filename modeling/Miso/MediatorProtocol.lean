import Miso.MediatorAtomic

set_option autoImplicit false

namespace Miso.Mediator

open Base (Monitor)

-- What a task may expect of its wait, told without slots, queues and passes.
inductive Phase where
  | quiet
  | queued (deadline : Nat)
  | armed (deadline : Nat) (reported : Bool)
  | answered (ready : Bool) (undisturbed : Bool)
deriving DecidableEq

namespace Phase

def taken : Phase → Phase
  | .queued deadline => .armed deadline false
  | phase => phase

def reported (ready : Bool) : Phase → Phase
  | .armed deadline before => .armed deadline (before || ready)
  | phase => phase

-- Another socket's request may claim the released slot of an answered wait.
def disturbed : Phase → Phase
  | .answered ready _ => .answered ready false
  | phase => phase

def deadline : Phase → Nat
  | .queued deadline | .armed deadline _ => deadline
  | .quiet | .answered _ _ => 0

def pending : Phase → Bool
  | .queued _ | .armed _ _ => true
  | .quiet | .answered _ _ => false

def mayAnswer (now : Nat) (ready : Bool) : Phase → Prop
  | .armed deadline reported => if ready then reported = true else reported = false ∧ deadline < now
  | .quiet | .queued _ | .answered _ _ => False

-- A visit leaves no request in the queue, and an armed one its deadline.
def mayStay (left : Nat) : Phase → Prop
  | .quiet | .answered _ _ => left = 0
  | .queued _ => False
  | .armed deadline _ => left = deadline

def mayReturn (ready : Bool) : Phase → Prop
  | .answered value undisturbed => undisturbed = true → ready = value
  | .quiet | .queued _ | .armed _ _ => False

instance (now : Nat) (ready : Bool) (phase : Phase) : Decidable (phase.mayAnswer now ready) :=
  match phase with
  | .armed deadline reported =>
      inferInstanceAs (Decidable (if ready then reported = true else reported = false ∧ deadline < now))
  | .quiet | .queued _ | .answered _ _ => inferInstanceAs (Decidable False)

instance (left : Nat) (phase : Phase) : Decidable (phase.mayStay left) :=
  match phase with
  | .quiet | .answered _ _ => inferInstanceAs (Decidable (left = 0))
  | .queued _ => inferInstanceAs (Decidable False)
  | .armed deadline _ => inferInstanceAs (Decidable (left = deadline))

instance (ready : Bool) (phase : Phase) : Decidable (phase.mayReturn ready) :=
  match phase with
  | .answered value undisturbed => inferInstanceAs (Decidable (undisturbed = true → ready = value))
  | .quiet | .queued _ | .armed _ _ => inferInstanceAs (Decidable False)

end Phase

structure Ledger where
  now : Nat
  phase : Int → Phase

def Ledger.initial : Ledger where
  now := 0
  phase := fun _ => .quiet

def Ledger.set (ledger : Ledger) (sd : Int) (phase : Phase) : Ledger :=
  { ledger with phase := fun other => if other = sd then phase else ledger.phase other }

inductive Event where
  | submitted (sd : Int) (deadline : Nat)
  | dropped (sd : Int)
  | ticked (now : Nat)
  | reported (fds : FdSet)
  | taken (sd : Int) (deadline : Nat)
  | responded (sd : Int) (ready : Bool)
  | stayed (sd : Int) (deadline : Nat)
  | released (sd : Int)
  | returned (sd : Int) (ready : Bool)
deriving DecidableEq

def Ledger.disturb (ledger : Ledger) : Ledger := { ledger with phase := fun sd => (ledger.phase sd).disturbed }

def Ledger.update (ledger : Ledger) : Event → Ledger
  | .submitted sd deadline => ledger.disturb.set sd (.queued deadline)
  | .ticked now => { ledger with now := now }
  | .taken sd _ => ledger.set sd (ledger.phase sd).taken
  | .reported fds => { ledger with phase := fun sd => (ledger.phase sd).reported (fdIsset sd fds == 1) }
  | .responded sd ready => ledger.set sd (.answered ready true)
  | .returned sd _ => ledger.set sd .quiet
  | .dropped _ | .stayed _ _ | .released _ => ledger

-- A request is taken with its own deadline and stays armed with it until it
-- is answered; a release leaves none behind.
def Ledger.allowed (ledger : Ledger) : Event → Prop
  | .submitted sd _ => ledger.phase sd = .quiet
  | .dropped _ => False
  | .ticked _ | .reported _ => True
  | .taken sd deadline => ledger.phase sd = .queued deadline
  | .stayed sd deadline => (ledger.phase sd).mayStay deadline
  | .released sd => (ledger.phase sd).pending = false
  | .responded sd ready => (ledger.phase sd).mayAnswer ledger.now ready
  | .returned sd ready => (ledger.phase sd).mayReturn ready

instance (ledger : Ledger) (event : Event) : Decidable (ledger.allowed event) :=
  match event with
  | .submitted sd _ => inferInstanceAs (Decidable (ledger.phase sd = .quiet))
  | .dropped _ => inferInstanceAs (Decidable False)
  | .ticked _ | .reported _ => inferInstanceAs (Decidable True)
  | .taken sd deadline => inferInstanceAs (Decidable (ledger.phase sd = .queued deadline))
  | .stayed sd deadline => inferInstanceAs (Decidable ((ledger.phase sd).mayStay deadline))
  | .released sd => inferInstanceAs (Decidable ((ledger.phase sd).pending = false))
  | .responded sd ready => inferInstanceAs (Decidable ((ledger.phase sd).mayAnswer ledger.now ready))
  | .returned sd ready => inferInstanceAs (Decidable ((ledger.phase sd).mayReturn ready))

def protocol : Monitor Ledger Event where
  update := Ledger.update
  allowed := Ledger.allowed

section

variable {ι : Type}

def takenShown (before after : ConnectionManagerElement) : List Event :=
  if after.rxQueue.items = before.rxQueue.items then []
  else before.rxQueue.items.map fun msg => .taken before.sd msg.deadline

def respondedShown (before after : ConnectionManagerElement) : List Event :=
  if after.rxSignal.items = before.rxSignal.items then []
  else after.rxSignal.items.map fun answer => .responded before.sd (answer.timeout == 1)

def stayedShown (visited : Bool) (before after : ConnectionManagerElement) : List Event :=
  if before.sd < 0 then []
  else if after.sd < 0 then [.released before.sd]
  else if visited then [.stayed before.sd after.rxWaitDeadlineMs]
  else []

-- What a step did to one slot, in the order of a visit.
def slotShown (visited : Bool) (before after : ConnectionManagerElement) : List Event :=
  takenShown before after ++ (respondedShown before after ++ stayedShown visited before after)

def visits (state : State ι) (slot : SlotId) : Round ι → Bool
  | .manager => match state.manager with
      | .check visited => visited == slot
      | _ => false
  | _ => false

-- The request is new in the queue of the slot that carries the socket.
def requestSent (before after : State ι) (sd : Int) (msg : TimeoutMsg) : Bool :=
  slots.any fun slot => (after.connections slot).sd = sd ∧ (before.connections slot).rxQueue.items = [] ∧
    (after.connections slot).rxQueue.items = [msg]

def callShown (sd : ι → Int) (before : Clocked ι) (action : Round ι) (after : Clocked ι) : List Event :=
  match action with
  | .submit client msg =>
      if requestSent before.state after.state (sd client) msg then [.submitted (sd client) msg.deadline]
      else [.dropped (sd client)]
  | .receive client => match after.state.clients client with
      | .returned ready => [.returned (sd client) ready]
      | _ => []
  | .tick _ => [.ticked after.now]
  | .select res fds => if res > 0 then [.reported fds] else []
  | .notify _ | .manager => []

def slotsShown (before : State ι) (action : Round ι) (after : State ι) : List Event :=
  slots.flatMap fun slot => slotShown (visits before slot action) (before.connections slot) (after.connections slot)

-- Events are read off the states around a step, whatever the step was to do.
def shows (sd : ι → Int) (before : Clocked ι) (action : Round ι) (after : Clocked ι) : List Event :=
  callShown sd before action after ++ slotsShown before.state action after.state

theorem slot_shown_same (conn : ConnectionManagerElement) : slotShown false conn conn = [] := by
  unfold slotShown takenShown respondedShown stayedShown
  by_cases free : conn.sd < 0 <;> simp [free]

theorem slots_shown_at (before after : State ι) (action : Round ι) (slot : SlotId)
    (elsewhere : ∀ other, other ≠ slot → visits before other action = false ∧ after.connections other = before.connections other) :
    slotsShown before action after =
      slotShown (visits before slot action) (before.connections slot) (after.connections slot) := by
  have silent (other : SlotId) (different : other ≠ slot) :
      slotShown (visits before other action) (before.connections other) (after.connections other) = [] := by
    obtain ⟨unvisited, same⟩ := elsewhere other different
    rw [unvisited, same]
    exact slot_shown_same _
  unfold slotsShown slots
  simp only [List.flatMap_cons, List.flatMap_nil]
  match slot with
  | 0 => rw [silent 1 (by decide), silent 2 (by decide), silent 3 (by decide)]; simp
  | 1 => rw [silent 0 (by decide), silent 2 (by decide), silent 3 (by decide)]; simp
  | 2 => rw [silent 0 (by decide), silent 1 (by decide), silent 3 (by decide)]; simp
  | 3 => rw [silent 0 (by decide), silent 1 (by decide), silent 2 (by decide)]; simp

theorem slots_shown_silent (before after : State ι) (action : Round ι) (unvisited : ∀ slot, visits before slot action = false)
    (same : after.connections = before.connections) : slotsShown before action after = [] := by
  rw [slots_shown_at before after action 0 fun other _ => ⟨unvisited other, by rw [same]⟩, unvisited, same]
  exact slot_shown_same _

end

@[simp] theorem set_phase_here (ledger : Ledger) (sd : Int) (phase : Phase) : (ledger.set sd phase).phase sd = phase := by
  simp [Ledger.set]

theorem set_phase_elsewhere (ledger : Ledger) (sd other : Int) (phase : Phase) (different : other ≠ sd) :
    (ledger.set sd phase).phase other = ledger.phase other := by
  simp [Ledger.set, different]

theorem set_phase_twice (ledger : Ledger) (sd : Int) (first second : Phase) :
    (ledger.set sd first).set sd second = ledger.set sd second := by
  simp only [Ledger.set, Ledger.mk.injEq, true_and]
  funext other
  split <;> rfl

theorem set_phase_same (ledger : Ledger) (sd : Int) : ledger.set sd (ledger.phase sd) = ledger := by
  cases ledger with
  | mk now phase =>
      simp only [Ledger.set, Ledger.mk.injEq, true_and]
      funext other
      split
      · rename_i same
        rw [same]
      · rfl

namespace Phase

theorem taken_idle (phase : Phase) (idle : phase.pending = false) : phase.taken = phase ∧ phase.deadline = 0 := by
  cases phase with
  | quiet | answered _ _ => exact ⟨rfl, rfl⟩
  | queued _ | armed _ _ => cases idle

theorem disturbed_armed (phase : Phase) (deadline : Nat) (reported : Bool) :
    phase.disturbed = .armed deadline reported ↔ phase = .armed deadline reported := by
  cases phase <;> simp [disturbed]

theorem reported_false (phase : Phase) : phase.reported false = phase := by
  cases phase <;> simp [reported]

end Phase

end Miso.Mediator
