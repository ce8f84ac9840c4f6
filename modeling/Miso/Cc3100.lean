import Miso.Base.Queue
import Miso.Base.Run

set_option autoImplicit false

namespace Miso.Cc3100

open Base (Queue Step StatesHold StepsMeet)

inductive Ecode where
  | ok
  | timeout
  | other (code : BitVec 32)
deriving DecidableEq

structure TransferStatus where
  transferStatus : Ecode
  itemsTransferred : Int
deriving DecidableEq

-- What a callback posts; transfer, the number of the transfer that completed,
-- is for the specification only.
structure Posted where
  transfer : Nat
  status : TransferStatus
deriving DecidableEq

inductive Direction where
  | rx
  | tx
deriving DecidableEq

structure Transfer where
  number : Nat
  direction : Direction
deriving DecidableEq

def boardCc3100Fd : Int := 1

-- The arguments of one call; pBuff says whether the pointer is not NULL.
structure Request where
  fd : Int
  pBuff : Bool
  len : Int

def Request.valid (request : Request) : Bool := request.pBuff ∧ request.len > 0 ∧ request.fd = boardCc3100Fd

-- Where the one call in progress stands.
inductive Phase where
  | idle
  | selected (direction : Direction)
  | emptied (direction : Direction)
  | waiting (direction : Direction) (number : Nat)
deriving DecidableEq

-- How a call ended: the number of the transfer it started, and what it took
-- from the queue.
structure Returned where
  own : Option Nat
  consumed : Option Posted
  retVal : Int
deriving DecidableEq

-- next, completed and returned are for the specification only.
structure Spi where
  queue : Direction → Option (Queue Posted 1)
  active : Option Transfer
  phase : Phase
  next : Nat
  completed : List Posted
  returned : List Returned

inductive Action where
  | call (direction : Direction) (request : Request)
  | queueReset
  | start (ecode : Ecode)
  | receive
  | timeout
  | complete (status : TransferStatus)

def ifRead (request : Request) : Action := .call .rx request

def ifWrite (request : Request) : Action := .call .tx request

namespace Spi

def opened (created : Direction → Bool) : Spi where
  queue := fun direction => if created direction then some .empty else none
  active := none
  phase := .idle
  next := 0
  completed := []
  returned := []

def pending (spi : Spi) (direction : Direction) : List Posted := match spi.queue direction with
  | some queue => queue.items
  | none => []

def setQueue (spi : Spi) (direction : Direction) (queue : Option (Queue Posted 1)) : Spi :=
  { spi with queue := fun other => if other = direction then queue else spi.queue other }

def ret (spi : Spi) (own : Option Nat) (consumed : Option Posted) (retVal : Int) : Spi :=
  { spi with phase := .idle, returned := ⟨own, consumed, retVal⟩ :: spi.returned }

-- xQueueSendFromISR drops what a full queue has no room for.
def callback (direction : Direction) (posted : Posted) (spi : Spi) : Spi :=
  spi.setQueue direction ((spi.queue direction).map fun queue => (queue.send posted).getD queue)

def recieveCallback : Posted → Spi → Spi := callback .rx

def sendCallback : Posted → Spi → Spi := callback .tx

def callbackOf : Direction → Posted → Spi → Spi
  | .rx => recieveCallback
  | .tx => sendCallback

-- CC3100_IfRead and CC3100_IfWrite run through the same steps, each with its
-- own queue and callback, and SPIDRV refuses a transfer while one is active.
def step : Step Spi Action := fun spi action => match action, spi.phase with
  | .call direction request, .idle =>
      if request.valid && (spi.queue direction).isSome then some { spi with phase := .selected direction }
      else some (spi.ret none none (-1))
  | .queueReset, .selected direction => some { spi.setQueue direction (some .empty) with phase := .emptied direction }
  | .start ecode, .emptied direction =>
      if ecode = .ok then
        if spi.active.isSome then none
        else some
          { spi with active := some ⟨spi.next, direction⟩, phase := .waiting direction spi.next, next := spi.next + 1 }
      else some (spi.ret none none (-1))
  | .receive, .waiting direction number => match (spi.queue direction).bind Queue.receive with
      | some (posted, rest) =>
          let retVal := if posted.status.transferStatus = .ok then posted.status.itemsTransferred else -1
          some ((spi.setQueue direction (some rest)).ret (some number) (some posted) retVal)
      | none => none
  | .timeout, .waiting direction number =>
      if spi.pending direction = [] then some (spi.ret (some number) none (-1)) else none
  | .complete status, _ => match spi.active with
      | some transfer =>
          let posted : Posted := ⟨transfer.number, status⟩
          let called := callbackOf transfer.direction posted spi
          some { called with active := none, completed := posted :: spi.completed }
      | none => none
  | _, _ => none

end Spi

-- What a call returns is about the transfer it started itself.
def Owned (spi : Spi) : Prop := ∀ entry, entry ∈ spi.returned →
  (∀ posted, entry.consumed = some posted → entry.own = some posted.transfer) ∧
    (0 ≤ entry.retVal → ∃ number, entry.own = some number ∧ ⟨number, .ok, entry.retVal⟩ ∈ spi.completed)

-- A transfer is accepted only while the queue it will report to is still empty.
def Undisturbed (spi : Spi) : Action → Prop
  | .start ecode => ecode = .ok → ∀ direction, spi.phase = .emptied direction → spi.pending direction = []
  | _ => True

namespace Spi

@[simp] theorem pending_set_here (spi : Spi) (direction : Direction) (queue : Queue Posted 1) :
    (spi.setQueue direction (some queue)).pending direction = queue.items := by simp [setQueue, pending]

theorem pending_set_elsewhere (spi : Spi) (direction other : Direction) (queue : Option (Queue Posted 1))
    (different : other ≠ direction) : (spi.setQueue direction queue).pending other = spi.pending other := by
  simp [setQueue, pending, different]

theorem callback_of_eq (direction : Direction) (posted : Posted) (spi : Spi) :
    callbackOf direction posted spi = callback direction posted spi := by cases direction <;> rfl

-- A callback finds room, or its status is lost.
theorem pending_callback (direction : Direction) (posted : Posted) (spi : Spi) :
    (spi.callback direction posted).pending direction = spi.pending direction ∨
      (spi.pending direction = [] ∧ (spi.callback direction posted).pending direction = [posted]) := by
  cases queued : spi.queue direction with
  | none => simp [callback, setQueue, pending, queued]
  | some queue =>
      cases sent : queue.send posted with
      | none => simp [callback, setQueue, pending, queued, sent]
      | some after =>
          obtain ⟨empty, one⟩ := Queue.send_single queue after posted sent
          simp [callback, setQueue, pending, queued, sent, empty, one]

end Spi

inductive Moved (spi : Spi) : Action → Spi → Prop where
  | refused (direction : Direction) (request : Request) (idle : spi.phase = .idle) :
      Moved spi (.call direction request) (spi.ret none none (-1))
  | selected (direction : Direction) (request : Request) (idle : spi.phase = .idle) :
      Moved spi (.call direction request) { spi with phase := .selected direction }
  | emptied (direction : Direction) (selected : spi.phase = .selected direction) :
      Moved spi .queueReset { spi.setQueue direction (some .empty) with phase := .emptied direction }
  | accepted (direction : Direction) (emptied : spi.phase = .emptied direction) (free : spi.active = none) :
      Moved spi (.start .ok)
        { spi with active := some ⟨spi.next, direction⟩, phase := .waiting direction spi.next, next := spi.next + 1 }
  | rejected (direction : Direction) (ecode : Ecode) (emptied : spi.phase = .emptied direction) (failed : ecode ≠ .ok) :
      Moved spi (.start ecode) (spi.ret none none (-1))
  | received (direction : Direction) (number : Nat) (posted : Posted) (rest : Queue Posted 1) (retVal : Int)
      (waiting : spi.phase = .waiting direction number) (pending : spi.pending direction = posted :: rest.items)
      (value : retVal = if posted.status.transferStatus = .ok then posted.status.itemsTransferred else -1) :
      Moved spi .receive ((spi.setQueue direction (some rest)).ret (some number) (some posted) retVal)
  | timedOut (direction : Direction) (number : Nat) (waiting : spi.phase = .waiting direction number)
      (empty : spi.pending direction = []) : Moved spi .timeout (spi.ret (some number) none (-1))
  | completed (transfer : Transfer) (status : TransferStatus) (active : spi.active = some transfer) :
      Moved spi (.complete status)
        { spi.callback transfer.direction ⟨transfer.number, status⟩ with
          active := none
          completed := ⟨transfer.number, status⟩ :: spi.completed }

theorem step_moved (spi after : Spi) (action : Action) (taken : Spi.step spi action = some after) : Moved spi action after := by
  cases action with
  | call direction request =>
      cases phase : spi.phase with
      | idle =>
          simp only [Spi.step, phase] at taken
          split at taken
          · cases taken
            exact .selected direction request phase
          · cases taken
            exact .refused direction request phase
      | selected | emptied | waiting => simp [Spi.step, phase] at taken
  | queueReset =>
      cases phase : spi.phase with
      | selected direction =>
          simp only [Spi.step, phase, Option.some.injEq] at taken
          subst taken
          exact .emptied direction phase
      | idle | emptied | waiting => simp [Spi.step, phase] at taken
  | start ecode =>
      cases phase : spi.phase with
      | emptied direction =>
          simp only [Spi.step, phase] at taken
          by_cases ok : ecode = .ok
          · subst ok
            cases free : spi.active with
            | none =>
                simp [free] at taken
                subst taken
                exact .accepted direction phase free
            | some _ => simp [free] at taken
          · rw [if_neg ok] at taken
            cases taken
            exact .rejected direction ecode phase ok
      | idle | selected | waiting => simp [Spi.step, phase] at taken
  | receive =>
      cases phase : spi.phase with
      | waiting direction number =>
          simp only [Spi.step, phase] at taken
          split at taken
          · rename_i posted rest received
            obtain ⟨queue, queued, first⟩ := Option.bind_eq_some_iff.mp received
            cases taken
            refine .received direction number posted rest _ phase ?_ rfl
            simpa [Spi.pending, queued] using Queue.receive_some queue rest posted first
          · cases taken
      | idle | selected | emptied => simp [Spi.step, phase] at taken
  | timeout =>
      cases phase : spi.phase with
      | waiting direction number =>
          simp only [Spi.step, phase] at taken
          split at taken
          · rename_i empty
            cases taken
            exact .timedOut direction number phase empty
          · cases taken
      | idle | selected | emptied => simp [Spi.step, phase] at taken
  | complete status =>
      simp only [Spi.step] at taken
      split at taken
      · rename_i transfer active
        simp only [Spi.callback_of_eq, Option.some.injEq] at taken
        subst taken
        exact .completed transfer status active
      · cases taken

-- While a call waits, the queue holds nothing but the status of its transfer.
structure Tracked (spi : Spi) : Prop where
  active : ∀ direction number transfer, spi.phase = .waiting direction number → spi.active = some transfer →
    transfer = ⟨number, direction⟩ ∧ spi.pending direction = []
  queued : ∀ direction number, spi.phase = .waiting direction number → spi.pending direction = [] ∨
    ∃ status, spi.pending direction = [⟨number, status⟩] ∧ ⟨number, status⟩ ∈ spi.completed
  owned : Owned spi

theorem owned_ret (spi : Spi) (own : Option Nat) (consumed : Option Posted) (retVal : Int) (owned : Owned spi)
    (taken : ∀ posted, consumed = some posted → own = some posted.transfer)
    (counted : 0 ≤ retVal → ∃ number, own = some number ∧ ⟨number, .ok, retVal⟩ ∈ spi.completed) :
    Owned (spi.ret own consumed retVal) := by
  intro entry member
  rcases List.mem_cons.mp member with rfl | older
  · exact ⟨taken, counted⟩
  · exact owned entry older

theorem tracked_ret (spi : Spi) (own : Option Nat) (consumed : Option Posted) (retVal : Int)
    (owned : Owned (spi.ret own consumed retVal)) : Tracked (spi.ret own consumed retVal) :=
  ⟨fun _ _ _ waiting => by simp [Spi.ret] at waiting, fun _ _ waiting => by simp [Spi.ret] at waiting, owned⟩

theorem moved_tracked (spi after : Spi) (action : Action) (tracked : Tracked spi) (undisturbed : Undisturbed spi action)
    (moved : Moved spi action after) : Tracked after := by
  have failed (own : Option Nat) : Tracked (spi.ret own none (-1)) :=
    tracked_ret spi own none (-1) (owned_ret spi own none (-1) tracked.owned (by simp) (by simp))
  cases moved with
  | refused _ _ _ => exact failed none
  | selected direction _ _ =>
      exact ⟨fun _ _ _ waiting => by simp at waiting, fun _ _ waiting => by simp at waiting, tracked.owned⟩
  | emptied direction _ =>
      exact ⟨fun _ _ _ waiting => by simp at waiting, fun _ _ waiting => by simp at waiting, tracked.owned⟩
  | accepted direction emptied free =>
      have empty := undisturbed rfl direction emptied
      refine ⟨?_, ?_, tracked.owned⟩
      · rintro other number transfer waiting active
        cases waiting
        cases active
        exact ⟨rfl, empty⟩
      · rintro other number waiting
        cases waiting
        exact .inl empty
  | rejected _ _ _ _ => exact failed none
  | received direction number posted rest retVal waiting pending value =>
      obtain empty | ⟨status, one, logged⟩ := tracked.queued direction number waiting
      · simp [empty] at pending
      · obtain ⟨rfl, _⟩ : posted = ⟨number, status⟩ ∧ rest.items = [] := by simpa [eq_comm] using one.symm.trans pending
        refine tracked_ret (spi.setQueue direction (some rest)) _ _ _ ?_
        refine owned_ret (spi.setQueue direction (some rest)) _ _ _ tracked.owned (by simp) fun counted => ?_
        refine ⟨number, rfl, ?_⟩
        by_cases ok : status.transferStatus = .ok
        · rw [value, if_pos ok, ← ok]
          exact logged
        · rw [value, if_neg ok] at counted
          omega
  | timedOut direction number _ _ => exact failed (some number)
  | completed transfer status active =>
      refine ⟨fun _ _ _ _ free => by simp at free, ?_, ?_⟩
      · intro direction number waiting
        obtain ⟨rfl, empty⟩ := tracked.active direction number transfer waiting active
        rcases Spi.pending_callback direction ⟨number, status⟩ spi with same | ⟨_, one⟩
        · exact .inl (same.trans empty)
        · exact .inr ⟨status, one, List.mem_cons_self⟩
      · intro entry member
        obtain ⟨taken, counted⟩ := tracked.owned entry member
        refine ⟨taken, fun nonneg => ?_⟩
        obtain ⟨number, own, logged⟩ := counted nonneg
        exact ⟨number, own, List.mem_cons_of_mem _ logged⟩

structure Numbered (spi : Spi) : Prop where
  active : ∀ transfer, spi.active = some transfer → transfer.number < spi.next
  pending : ∀ direction posted, posted ∈ spi.pending direction → posted.transfer < spi.next

theorem pending_set_mem (spi : Spi) (direction other : Direction) (queue : Queue Posted 1) (posted : Posted)
    (kept : posted ∈ queue.items → posted ∈ spi.pending direction)
    (member : posted ∈ (spi.setQueue direction (some queue)).pending other) : posted ∈ spi.pending other := by
  by_cases same : other = direction
  · subst same
    exact kept (by simpa using member)
  · rwa [Spi.pending_set_elsewhere spi direction other _ same] at member

theorem moved_numbered (spi after : Spi) (action : Action) (numbered : Numbered spi) (moved : Moved spi action after) :
    Numbered after := by
  cases moved with
  | refused _ _ _ | selected _ _ _ | rejected _ _ _ _ | timedOut _ _ _ _ => exact ⟨numbered.active, numbered.pending⟩
  | emptied direction _ =>
      exact ⟨numbered.active, fun other posted member =>
        numbered.pending other posted (pending_set_mem spi direction other .empty posted (by simp) member)⟩
  | accepted direction _ _ =>
      refine ⟨?_, fun other posted member => Nat.lt_succ_of_lt (numbered.pending other posted member)⟩
      rintro transfer same
      cases same
      exact Nat.lt_succ_self _
  | received direction number posted rest _ _ pending _ =>
      exact ⟨numbered.active, fun other posted member =>
        numbered.pending other posted (pending_set_mem spi direction other rest posted (by simp +contextual [pending]) member)⟩
  | completed transfer status active =>
      refine ⟨fun _ free => by simp at free, fun other posted member => ?_⟩
      by_cases same : other = transfer.direction
      · subst same
        rcases Spi.pending_callback transfer.direction ⟨transfer.number, status⟩ spi with kept | ⟨_, one⟩
        · exact numbered.pending transfer.direction posted (kept ▸ member)
        · have fresh : posted ∈ [(⟨transfer.number, status⟩ : Posted)] := one ▸ member
          rw [List.mem_singleton.mp fresh]
          exact numbered.active transfer active
      · have kept := Spi.pending_set_elsewhere spi transfer.direction other
          ((spi.queue transfer.direction).map fun queue => (queue.send ⟨transfer.number, status⟩).getD queue) same
        exact numbered.pending other posted (kept ▸ member)

-- A call waits and the status of another transfer is in its queue, or a call
-- has taken one.
def Mixed (spi : Spi) : Prop :=
  (∃ direction number posted, spi.phase = .waiting direction number ∧ spi.pending direction = [posted] ∧
    posted.transfer ≠ number) ∨
    ∃ entry posted, entry ∈ spi.returned ∧ entry.consumed = some posted ∧ entry.own ≠ some posted.transfer

theorem moved_mixed (spi after : Spi) (action : Action) (mixed : Mixed spi) (moved : Moved spi action after) : Mixed after := by
  rcases mixed with ⟨direction, number, posted, waiting, pending, other⟩ | ⟨entry, posted, member, taken, other⟩
  · cases moved with
    | refused _ _ phase | selected _ _ phase | emptied _ phase | accepted _ phase _ | rejected _ _ phase _ =>
        simp [waiting] at phase
    | received direction' number' posted' rest retVal phase first _ =>
        obtain ⟨rfl, rfl⟩ : direction = direction' ∧ number = number' := by simpa [waiting] using phase
        obtain ⟨rfl, _⟩ : posted = posted' ∧ rest.items = [] := by simpa [eq_comm] using pending.symm.trans first
        exact .inr ⟨_, posted, List.mem_cons_self, rfl, fun same => other (Option.some.inj same).symm⟩
    | timedOut direction' number' phase empty =>
        obtain ⟨rfl, rfl⟩ : direction = direction' ∧ number = number' := by simpa [waiting] using phase
        simp [pending] at empty
    | completed transfer status _ =>
        refine .inl ⟨direction, number, posted, waiting, ?_, other⟩
        by_cases same : direction = transfer.direction
        · subst same
          rcases Spi.pending_callback transfer.direction ⟨transfer.number, status⟩ spi with kept | ⟨empty, _⟩
          · exact kept.trans pending
          · simp [pending] at empty
        · exact (Spi.pending_set_elsewhere spi transfer.direction direction _ same).trans pending
  · cases moved with
    | refused _ _ _ | rejected _ _ _ _ | received _ _ _ _ _ _ _ _ | timedOut _ _ _ _ =>
        exact .inr ⟨entry, posted, List.mem_cons_of_mem _ member, taken, other⟩
    | selected _ _ _ | emptied _ _ | accepted _ _ _ | completed _ _ _ => exact .inr ⟨entry, posted, member, taken, other⟩

theorem disturbed_mixed (spi after : Spi) (action : Action) (numbered : Numbered spi) (disturbed : ¬ Undisturbed spi action)
    (moved : Moved spi action after) : Mixed after := by
  cases moved with
  | accepted direction emptied _ =>
      have waiting : spi.pending direction ≠ [] := by
        intro empty
        refine disturbed fun _ other phase => ?_
        obtain rfl : direction = other := by simpa [emptied] using phase
        exact empty
      obtain ⟨posted, one⟩ : ∃ posted, spi.pending direction = [posted] := by
        unfold Spi.pending at waiting ⊢
        cases queued : spi.queue direction with
        | none => simp [queued] at waiting
        | some queue =>
            rcases Queue.single_cases queue with none | one
            · simp [queued, none] at waiting
            · exact one
      have older := numbered.pending direction posted (by simp [one])
      exact .inl ⟨direction, spi.next, posted, rfl, one, Nat.ne_of_lt older⟩
  | rejected _ ecode _ failed => exact absurd (fun ok => absurd ok failed) disturbed
  | refused _ _ _ | selected _ _ _ | emptied _ _ | received _ _ _ _ _ _ _ _ | timedOut _ _ _ _ | completed _ _ _ =>
      exact absurd trivial disturbed

theorem opened_tracked (created : Direction → Bool) : Tracked (.opened created) :=
  ⟨fun _ _ _ waiting => by simp [Spi.opened] at waiting, fun _ _ waiting => by simp [Spi.opened] at waiting,
    fun _ member => by simp [Spi.opened] at member⟩

theorem opened_numbered (created : Direction → Bool) : Numbered (.opened created) := by
  refine ⟨fun _ active => by simp [Spi.opened] at active, fun direction posted member => ?_⟩
  cases made : created direction <;> simp [Spi.opened, Spi.pending, made] at member

theorem transfers_owned (created : Direction → Bool) (actions : List Action) (spi : Spi)
    (ran : Base.run Spi.step (.opened created) actions = some spi) :
    (StepsMeet Spi.step Undisturbed (.opened created) actions → StatesHold Spi.step Owned (.opened created) actions) ∧
      (spi.phase = .idle → Owned spi → StepsMeet Spi.step Undisturbed (.opened created) actions) := by
  constructor
  · exact Base.steps_meet_states_hold Spi.step Tracked Owned Undisturbed
      (fun state action after tracked met taken => moved_tracked state after action tracked met (step_moved state after action taken))
      (fun _ tracked => tracked.owned) (.opened created) actions (opened_tracked created)
  · intro idle owned
    have safe : ¬ Mixed spi := by
      rintro (⟨_, _, _, waiting, _⟩ | ⟨entry, posted, member, taken, other⟩)
      · simp [idle] at waiting
      · exact other ((owned entry member).1 posted taken)
    exact (Base.steps_meet_of_safe Spi.step Numbered Mixed Undisturbed
      (fun state action after numbered taken => moved_numbered state after action numbered (step_moved state after action taken))
      (fun state action after numbered unmet taken =>
        disturbed_mixed state after action numbered unmet (step_moved state after action taken))
      (fun state action after _ mixed taken => moved_mixed state after action mixed (step_moved state after action taken))
      (.opened created) spi actions (opened_numbered created) ran safe).1

def Direction.other : Direction → Direction
  | .rx => .tx
  | .tx => .rx

def Phase.mirrored : Phase → Phase
  | .idle => .idle
  | .selected direction => .selected direction.other
  | .emptied direction => .emptied direction.other
  | .waiting direction number => .waiting direction.other number

def Action.mirrored : Action → Action
  | .call direction request => .call direction.other request
  | .queueReset => .queueReset
  | .start ecode => .start ecode
  | .receive => .receive
  | .timeout => .timeout
  | .complete status => .complete status

def Spi.mirrored (spi : Spi) : Spi :=
  { spi with
    queue := fun direction => spi.queue direction.other
    active := spi.active.map fun transfer => ⟨transfer.number, transfer.direction.other⟩
    phase := spi.phase.mirrored }

@[simp] theorem other_other (direction : Direction) : direction.other.other = direction := by cases direction <;> rfl

theorem other_eq_iff (direction other : Direction) : direction.other = other ↔ direction = other.other := by
  cases direction <;> cases other <;> simp [Direction.other]

@[simp] theorem mirrored_ret (spi : Spi) (own : Option Nat) (consumed : Option Posted) (retVal : Int) :
    (spi.ret own consumed retVal).mirrored = spi.mirrored.ret own consumed retVal := rfl

@[simp] theorem mirrored_queue (spi : Spi) (direction : Direction) : spi.mirrored.queue direction.other = spi.queue direction := by
  simp [Spi.mirrored]

theorem mirrored_set (spi : Spi) (direction : Direction) (queue : Option (Queue Posted 1)) :
    (spi.setQueue direction queue).mirrored = spi.mirrored.setQueue direction.other queue := by
  simp [Spi.mirrored, Spi.setQueue, other_eq_iff]

theorem mirrored_callback (spi : Spi) (direction : Direction) (posted : Posted) :
    (spi.callback direction posted).mirrored = spi.mirrored.callback direction.other posted := by
  simp [Spi.callback, mirrored_set]

theorem mirrored_pending (spi : Spi) (direction : Direction) :
    spi.mirrored.pending direction.other = spi.pending direction := by
  simp [Spi.pending]

-- Nothing tells the two functions apart but the queue and the callback.
theorem step_mirrored (spi : Spi) (action : Action) :
    Spi.step spi.mirrored action.mirrored = (Spi.step spi action).map Spi.mirrored := by
  have phases : spi.mirrored.phase = spi.phase.mirrored := rfl
  cases action with
  | call direction request =>
      cases phase : spi.phase with
      | idle =>
          simp only [Spi.step, Action.mirrored, phases, phase, Phase.mirrored, mirrored_queue]
          split <;> simp [Spi.mirrored, Phase.mirrored, Spi.ret]
      | selected | emptied | waiting => simp [Spi.step, Action.mirrored, phases, phase, Phase.mirrored]
  | queueReset =>
      cases phase : spi.phase with
      | selected direction => simp [Spi.step, Action.mirrored, phase, Phase.mirrored, Spi.mirrored, Spi.setQueue, other_eq_iff]
      | idle | emptied | waiting => simp [Spi.step, Action.mirrored, phases, phase, Phase.mirrored]
  | start ecode =>
      cases phase : spi.phase with
      | emptied direction =>
          simp only [Spi.step, Action.mirrored, phases, phase, Phase.mirrored]
          by_cases ok : ecode = .ok
          · simp only [if_pos ok]
            cases free : spi.active <;> simp [Spi.mirrored, free, Phase.mirrored]
          · simp [if_neg ok, Spi.mirrored, Spi.ret, Phase.mirrored]
      | idle | selected | waiting => simp [Spi.step, Action.mirrored, phases, phase, Phase.mirrored]
  | receive =>
      cases phase : spi.phase with
      | waiting direction number =>
          simp only [Spi.step, Action.mirrored, phases, phase, Phase.mirrored, mirrored_queue]
          cases (spi.queue direction).bind Queue.receive with
          | none => rfl
          | some taken => simp [mirrored_set]
      | idle | selected | emptied => simp [Spi.step, Action.mirrored, phases, phase, Phase.mirrored]
  | timeout =>
      cases phase : spi.phase with
      | waiting direction number =>
          simp only [Spi.step, Action.mirrored, phases, phase, Phase.mirrored, mirrored_pending]
          split <;> simp
      | idle | selected | emptied => simp [Spi.step, Action.mirrored, phases, phase, Phase.mirrored]
  | complete status =>
      simp only [Spi.step, Action.mirrored]
      cases active : spi.active with
      | none => simp [Spi.mirrored, active]
      | some transfer =>
          have kept := mirrored_callback spi transfer.direction ⟨transfer.number, status⟩
          have running : spi.mirrored.active = some ⟨transfer.number, transfer.direction.other⟩ := by simp [Spi.mirrored, active]
          simp only [running, Spi.callback_of_eq, ← kept]
          rfl

theorem run_mirrored (spi : Spi) (actions : List Action) :
    Base.run Spi.step spi.mirrored (actions.map Action.mirrored) = (Base.run Spi.step spi actions).map Spi.mirrored := by
  induction actions generalizing spi with
  | nil => rfl
  | cons action rest ih =>
      simp only [List.map_cons, Base.run, step_mirrored]
      cases Spi.step spi action with
      | none => rfl
      | some after => exact ih after

theorem write_mirrors_read (request : Request) : (ifRead request).mirrored = ifWrite request := rfl

-- Reads and writes trade places, and every call returns what it returned.
theorem writes_return_as_reads (created : Direction → Bool) (actions : List Action) (spi : Spi)
    (ran : Base.run Spi.step (.opened created) actions = some spi) :
    ∃ written, Base.run Spi.step (.opened fun direction => created direction.other) (actions.map Action.mirrored) = some written ∧
      written.returned = spi.returned := by
  refine ⟨spi.mirrored, ?_, rfl⟩
  have mirrored := run_mirrored (.opened created) actions
  rw [ran] at mirrored
  exact mirrored

def fourBytes : Request := ⟨boardCc3100Fd, true, 4⟩

def timedOutRead : List Action := [ifRead fourBytes, .queueReset, .start .ok, .timeout]

-- The first transfer completes before the second read looks at its queue.
theorem transfers_owned_completed : StatesHold Spi.step Owned (.opened fun _ => true)
    (timedOutRead ++ [.complete ⟨.ok, 4⟩, ifRead fourBytes, .queueReset, .start .ok, .complete ⟨.ok, 3⟩, .receive]) := by
  obtain ⟨meets, _⟩ := transfers_owned (fun _ => true)
    (timedOutRead ++ [.complete ⟨.ok, 4⟩, ifRead fourBytes, .queueReset, .start .ok, .complete ⟨.ok, 3⟩, .receive]) _ rfl
  refine meets ?_
  refine (transfers_owned (fun _ => true) _ _ rfl).2 rfl ?_
  intro entry member
  have listed : entry ∈ ([⟨some 1, some ⟨1, .ok, 3⟩, 3⟩, ⟨some 0, none, -1⟩] : List Returned) := member
  obtain rfl | rfl : entry = ⟨some 1, some ⟨1, .ok, 3⟩, 3⟩ ∨ entry = ⟨some 0, none, -1⟩ := by simpa using listed
  · exact ⟨by simp, fun _ => ⟨1, rfl, by decide⟩⟩
  · exact ⟨by simp, by simp⟩

-- It completes between the queue reset and the start of the second read.
theorem late_completion_returned : ¬ ∀ created actions, StatesHold Spi.step Owned (.opened created) actions := by
  intro owned
  have last := Base.states_hold_last Spi.step Owned _ _ _ (owned (fun _ => true)
    (timedOutRead ++ [ifRead fourBytes, .queueReset, .complete ⟨.ok, 4⟩, .start .ok, .receive])) rfl
  exact absurd ((last ⟨some 1, some ⟨0, .ok, 4⟩, 4⟩ List.mem_cons_self).1 ⟨0, .ok, 4⟩ rfl) (by decide)

end Miso.Cc3100
