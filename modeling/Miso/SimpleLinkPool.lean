import Miso.Base.Run
import Miso.Base.Chain

set_option autoImplicit false

namespace Miso.ObjPool

open Base (Heap Chain Step Reach seek)

def maxConcurrentActions : Nat := 10

def slMaxSockets : BitVec 8 := 8

def bsdSocketIdMask : BitVec 8 := 0x0F

def slNetappFamilyMask : BitVec 8 := 0x80

def acceptId : BitVec 8 := 8

def connectId : BitVec 8 := 9

def getHostByNameId : BitVec 8 := 11

def recvId : BitVec 8 := 15

-- syncObj is a binary semaphore.
structure PoolObj where
  syncObj : Bool
  pRespArgs : Option Nat
  actionID : BitVec 8
  additionalData : BitVec 8
  nextIndex : Nat
deriving DecidableEq

structure DriverCb where
  objPool : Heap Nat PoolObj
  freePoolIdx : Nat
  pendingPoolIdx : Nat
  activePoolIdx : Nat
  activeActionsBitmap : BitVec 32

-- An index from MAX_CONCURRENT_ACTIONS on ends a list.
def inPool (idx : Nat) : Option Nat := if idx < maxConcurrentActions then some idx else none

def PoolObj.next (obj : PoolObj) : Option Nat := inPool obj.nextIndex

def PoolObj.socket (obj : PoolObj) : BitVec 8 := obj.additionalData &&& bsdSocketIdMask

def drvDriverCBInit : DriverCb where
  objPool := fun idx => if idx < maxConcurrentActions then some ⟨false, none, 0, slMaxSockets, idx + 1⟩ else none
  freePoolIdx := 0
  pendingPoolIdx := maxConcurrentActions
  activePoolIdx := maxConcurrentActions
  activeActionsBitmap := 0

def oneBit (position : BitVec 8) : BitVec 32 := 1#32 <<< position.toNat

def actionInProgress (bitmap : BitVec 32) (actionID socketID : BitVec 8) : Bool :=
  (decide (socketID < slMaxSockets) && bitmap &&& oneBit socketID != 0) ||
    (bitmap &&& oneBit actionID != 0 && slMaxSockets == socketID)

inductive Waited where
  | poolIsEmpty
  | pending (objIdx : Nat)
  | active (objIdx : Nat)
deriving DecidableEq

-- One pass of the while loop up to its wait, or what follows the loop: what
-- the protection lock keeps together.
def enterAction (cb : DriverCb) (currObjIndex : Nat) (actionID socketID : BitVec 8) : Option (DriverCb × Waited) :=
  (cb.objPool currObjIndex).map fun obj =>
    if actionInProgress cb.activeActionsBitmap actionID socketID then
      ({ cb with
          objPool := cb.objPool.write currObjIndex { obj with nextIndex := cb.pendingPoolIdx }
          pendingPoolIdx := currObjIndex }, .pending currObjIndex)
    else
      ({ cb with
          objPool := cb.objPool.write currObjIndex { obj with nextIndex := cb.activePoolIdx }
          activePoolIdx := currObjIndex
          activeActionsBitmap := cb.activeActionsBitmap |||
            oneBit (if socketID < slMaxSockets then socketID else actionID) }, .active currObjIndex)

def takeFree (cb : DriverCb) (actionID socketID : BitVec 8) : Option DriverCb :=
  (cb.objPool cb.freePoolIdx).map fun obj =>
    { cb with
      freePoolIdx := if obj.nextIndex < maxConcurrentActions then obj.nextIndex else maxConcurrentActions
      objPool := cb.objPool.write cb.freePoolIdx
        { obj with
          actionID := actionID
          additionalData := if socketID < slMaxSockets then socketID else obj.additionalData } }

def drvWaitForPoolObj (cb : DriverCb) (actionID socketID : BitVec 8) : Option (DriverCb × Waited) :=
  if cb.freePoolIdx < maxConcurrentActions then
    (takeFree cb actionID socketID).bind fun taken => enterAction taken cb.freePoolIdx actionID socketID
  else some (cb, .poolIsEmpty)

-- The list that starts at listIndex without itemIndex: the pool and the new
-- start. No object at an index that is read, or a list that does not end, is
-- none here.
def removeFromList (objPool : Heap Nat PoolObj) (listIndex itemIndex : Nat) : Option (Heap Nat PoolObj × Nat) :=
  (objPool listIndex).bind fun first =>
    if first.nextIndex = maxConcurrentActions then some (objPool, maxConcurrentActions)
    else if listIndex = itemIndex then (objPool itemIndex).map fun item => (objPool, item.nextIndex)
    else
      (seek PoolObj.next (fun obj => obj.next = some itemIndex) objPool maxConcurrentActions (inPool listIndex)).bind
        fun
        | none => some (objPool, listIndex)
        | some idx => (objPool idx).bind fun obj => (objPool itemIndex).map fun item =>
            (objPool.write idx { obj with nextIndex := item.nextIndex }, listIndex)

def wanted (obj pending : PoolObj) : Bool :=
  pending.actionID == obj.actionID &&
    (slMaxSockets == pending.socket || (decide (obj.socket < slMaxSockets) && pending.socket == obj.socket))

def signalPending (cb : DriverCb) (obj : PoolObj) : Option DriverCb :=
  (seek PoolObj.next (wanted obj) cb.objPool maxConcurrentActions (inPool cb.pendingPoolIdx)).bind
    fun
    | none => some cb
    | some pendingIndex => (removeFromList cb.objPool cb.pendingPoolIdx pendingIndex).bind fun (objPool, pendingPoolIdx) =>
        (objPool pendingIndex).map fun pending =>
          { cb with
            objPool := objPool.write pendingIndex { pending with syncObj := true }
            pendingPoolIdx := pendingPoolIdx }

def clearAction (cb : DriverCb) (obj : PoolObj) : DriverCb :=
  { cb with
    activeActionsBitmap := cb.activeActionsBitmap &&&
      ~~~ oneBit (if obj.socket < slMaxSockets then obj.socket else obj.actionID) }

def freeObj (cb : DriverCb) (objIdx : Nat) : Option DriverCb :=
  (cb.objPool objIdx).bind fun obj =>
    (removeFromList
        (cb.objPool.write objIdx { obj with pRespArgs := none, actionID := 0, additionalData := slMaxSockets })
        cb.activePoolIdx objIdx).bind fun (objPool, activePoolIdx) =>
      (objPool objIdx).map fun obj =>
        { cb with
          objPool := objPool.write objIdx { obj with nextIndex := cb.freePoolIdx }
          activePoolIdx := activePoolIdx
          freePoolIdx := objIdx }

def drvReleasePoolObj (cb : DriverCb) (objIdx : Nat) : Option DriverCb :=
  (cb.objPool objIdx).bind fun obj => (signalPending cb obj).bind fun signalled =>
    (signalled.objPool objIdx).bind fun obj => freeObj (clearAction signalled obj) objIdx

def slOpcodeIpv6 : BitVec 16 := 0x0200

def recvOpcodes : List (BitVec 16) := [0x100A, 0x100B, 0x120B]

-- _SlActionLookupTable by the opcodes, from ACCEPT_ID to START_STOP_ID.
def slActionLookupTable : List (BitVec 16) := [0x1003, 0x1006, 0x1007, 0x1820, 0x1835, 0x1822, 0x0073]

def unsetFamily (obj : PoolObj) (opcode : BitVec 16) : BitVec 16 :=
  if obj.additionalData &&& slNetappFamilyMask ≠ 0 then opcode &&& ~~~ slOpcodeIpv6 else opcode

def takesRecv (obj : PoolObj) (opcode : BitVec 16) (sd : BitVec 8) : Bool :=
  obj.actionID == recvId && sd == obj.additionalData && recvOpcodes.contains opcode

def takesAction (obj : PoolObj) (entry opcode : BitVec 16) (sd : BitVec 8) : Bool :=
  entry == opcode && ((sd == obj.socket && decide (sd < slMaxSockets)) || slMaxSockets == obj.socket)

-- The index that _SlFindAndSetActiveObj leaves in ActionIndex. A read past the
-- look-up table is none here, as one past the pool is.
def findAndSetActiveObj (objPool : Heap Nat PoolObj) (sd : BitVec 8) : Nat → BitVec 16 → Option Nat → Option (Option Nat)
  | _, _, none => some none
  | 0, _, some _ => none
  | fuel + 1, opcode, some activeIndex => (objPool activeIndex).bind fun obj =>
      if takesRecv obj (unsetFamily obj opcode) sd then some (some activeIndex)
      else (slActionLookupTable[(obj.actionID - slMaxSockets).toNat]?).bind fun entry =>
        if takesAction obj entry (unsetFamily obj opcode) sd then some (some activeIndex)
        else findAndSetActiveObj objPool sd fuel (unsetFamily obj opcode) obj.next

-- The arguments of the call that an object was given to, and whether it is
-- past the wait.
structure Request where
  actionID : BitVec 8
  socketID : BitVec 8
deriving DecidableEq

structure Call extends Request where
  holds : Bool
deriving DecidableEq

structure Driver where
  cb : DriverCb
  calls : Nat → Option Call

inductive Action where
  | waitForPoolObj (request : Request)
  | wake (objIdx : Nat)
  | setRespArgs (objIdx : Nat) (pRespArgs : Nat)
  | setFamily (objIdx : Nat)
  | signalResponse (objIdx : Nat)
  | takeResponse (objIdx : Nat)
  | releasePoolObj (objIdx : Nat)
  | handleError
deriving DecidableEq

def Driver.entered (driver : Driver) (request : Request) : DriverCb × Waited → Driver
  | (cb, .poolIsEmpty) => { driver with cb := cb }
  | (cb, .pending objIdx) => { cb := cb, calls := Function.update driver.calls objIdx (some ⟨request, false⟩) }
  | (cb, .active objIdx) => { cb := cb, calls := Function.update driver.calls objIdx (some ⟨request, true⟩) }

def Driver.write (driver : Driver) (objIdx : Nat) (obj : PoolObj) : Driver :=
  { driver with cb := { driver.cb with objPool := driver.cb.objPool.write objIdx obj } }

def Driver.holds (driver : Driver) (objIdx : Nat) : Bool := (driver.calls objIdx).any Call.holds

-- _SlDriverHandleError as the pool sees it: every object is signalled.
def driverHandleError (cb : DriverCb) : DriverCb :=
  { cb with objPool := fun idx => (cb.objPool idx).map fun obj => { obj with syncObj := true } }

-- A call past its wait owns its object until it releases it: it stores the
-- address of the response, marks an IPv6 look-up, takes the signal of the
-- response. A response signals an object of the active list.
def step : Step Driver Action
  | driver, .waitForPoolObj request =>
      (drvWaitForPoolObj driver.cb request.actionID request.socketID).map (driver.entered request)
  | driver, .wake objIdx =>
      (driver.calls objIdx).bind fun call => (driver.cb.objPool objIdx).bind fun obj =>
        if call.holds = false ∧ obj.syncObj = true then
          (enterAction (driver.write objIdx { obj with syncObj := false }).cb objIdx call.actionID call.socketID).map
            (driver.entered call.toRequest)
        else none
  | driver, .setRespArgs objIdx pRespArgs =>
      (driver.cb.objPool objIdx).bind fun obj =>
        if driver.holds objIdx then some (driver.write objIdx { obj with pRespArgs := some pRespArgs }) else none
  | driver, .setFamily objIdx =>
      (driver.cb.objPool objIdx).bind fun obj =>
        if driver.holds objIdx then
          some (driver.write objIdx { obj with additionalData := obj.additionalData ||| slNetappFamilyMask })
        else none
  | driver, .signalResponse objIdx =>
      (driver.cb.objPool objIdx).bind fun obj =>
        if driver.holds objIdx then some (driver.write objIdx { obj with syncObj := true }) else none
  | driver, .takeResponse objIdx =>
      (driver.cb.objPool objIdx).bind fun obj =>
        if driver.holds objIdx ∧ obj.syncObj = true then some (driver.write objIdx { obj with syncObj := false })
        else none
  | driver, .releasePoolObj objIdx =>
      if driver.holds objIdx then
        (drvReleasePoolObj driver.cb objIdx).map fun cb => { cb := cb, calls := Function.update driver.calls objIdx none }
      else none
  | driver, .handleError => some { driver with cb := driverHandleError driver.cb }

def Driver.start : Driver := ⟨drvDriverCBInit, fun _ => none⟩

-- What an object is to the calls: in the free list, in the pending list, taken
-- out of it and signalled, or in the active list.
inductive Slot where
  | idle
  | waiting (request : Request)
  | woken (request : Request)
  | holding (request : Request)
deriving DecidableEq

def Slot.request : Slot → Option Request
  | .idle => none
  | .waiting request => some request
  | .woken request => some request
  | .holding request => some request

def slotOf (signalled : Bool) : Option Call → Slot
  | none => .idle
  | some call =>
      if call.holds then .holding call.toRequest
      else if signalled then .woken call.toRequest
      else .waiting call.toRequest

def signalled (objPool : Heap Nat PoolObj) (objIdx : Nat) : Bool := (objPool objIdx).any PoolObj.syncObj

def Driver.slots (driver : Driver) (objIdx : Nat) : Slot := slotOf (signalled driver.cb.objPool objIdx) (driver.calls objIdx)

-- The bit that stands for an action: its socket, or itself where it has none.
def Request.key (request : Request) : BitVec 8 :=
  if request.socketID < slMaxSockets then request.socketID else request.actionID

def Request.wants (held pending : Request) : Prop :=
  pending.actionID = held.actionID ∧
    (pending.socketID = slMaxSockets ∨ held.socketID < slMaxSockets ∧ pending.socketID = held.socketID)

-- The actions of the driver are 8 .. 15, next to the sockets 0 .. 7.
def Request.Proper (request : Request) : Prop :=
  request.socketID ≤ slMaxSockets ∧ slMaxSockets ≤ request.actionID ∧ request.actionID ≤ recvId

instance (request : Request) : Decidable request.Proper := inferInstanceAs (Decidable (_ ∧ _ ∧ _))

def Busy (slots : Nat → Slot) (request : Request) : Prop :=
  ∃ objIdx held, slots objIdx = .holding held ∧ held.key = request.key

-- The pool by its purpose: a call holds an object, or waits for the one that
-- holds its socket or its action. The label is the request that a step takes
-- to the test of the loop.
inductive Moves (slots : Nat → Slot) : Option Request → (Nat → Slot) → Prop where
  | stay (entering : Option Request) : Moves slots entering slots
  | take (objIdx : Nat) (request : Request) (idle : slots objIdx = .idle) (clear : ¬ Busy slots request) :
      Moves slots (some request) (Function.update slots objIdx (.holding request))
  | block (objIdx : Nat) (request : Request) (idle : slots objIdx = .idle) (busy : Busy slots request) :
      Moves slots (some request) (Function.update slots objIdx (.waiting request))
  | proceed (objIdx : Nat) (request : Request) (woken : slots objIdx = .woken request) (clear : ¬ Busy slots request) :
      Moves slots (some request) (Function.update slots objIdx (.holding request))
  | again (objIdx : Nat) (request : Request) (woken : slots objIdx = .woken request) (busy : Busy slots request) :
      Moves slots (some request) (Function.update slots objIdx (.waiting request))
  | release (objIdx : Nat) (held : Request) (holding : slots objIdx = .holding held)
      (unwanted : ∀ other pending, slots other = .waiting pending → ¬ held.wants pending) :
      Moves slots none (Function.update slots objIdx .idle)
  | handOver (objIdx other : Nat) (held pending : Request) (holding : slots objIdx = .holding held)
      (waiting : slots other = .waiting pending) (wants : held.wants pending) :
      Moves slots none (Function.update (Function.update slots other (.woken pending)) objIdx .idle)

def Exclusive (slots : Nat → Slot) : Prop :=
  ∀ first second one two, slots first = .holding one → slots second = .holding two → one.key = two.key → first = second

theorem moves_exclusive (slots after : Nat → Slot) (entering : Option Request) (exclusive : Exclusive slots)
    (moved : Moves slots entering after) : Exclusive after := by
  have entered (objIdx : Nat) (request : Request) (clear : ¬ Busy slots request) :
      Exclusive (Function.update slots objIdx (.holding request)) := by
    intro first second one two holdsOne holdsTwo same
    simp only [Function.update_apply] at holdsOne holdsTwo
    by_cases atFirst : first = objIdx <;> by_cases atSecond : second = objIdx
    · exact atFirst.trans atSecond.symm
    · rw [if_pos atFirst] at holdsOne
      rw [if_neg atSecond] at holdsTwo
      cases holdsOne
      exact absurd ⟨second, two, holdsTwo, same.symm⟩ clear
    · rw [if_neg atFirst] at holdsOne
      rw [if_pos atSecond] at holdsTwo
      cases holdsTwo
      exact absurd ⟨first, one, holdsOne, same⟩ clear
    · rw [if_neg atFirst] at holdsOne
      rw [if_neg atSecond] at holdsTwo
      exact exclusive first second one two holdsOne holdsTwo same
  have left (some_ : Nat → Slot) (kept : ∀ objIdx held, some_ objIdx = .holding held → slots objIdx = .holding held) :
      Exclusive some_ := by
    intro first second one two holdsOne holdsTwo
    exact exclusive first second one two (kept first one holdsOne) (kept second two holdsTwo)
  cases moved with
  | stay => exact exclusive
  | take objIdx request _ clear => exact entered objIdx request clear
  | proceed objIdx request _ clear => exact entered objIdx request clear
  | block objIdx request _ _ => exact left _ (by grind [Function.update_apply])
  | again objIdx request _ _ => exact left _ (by grind [Function.update_apply])
  | release objIdx held _ _ => exact left _ (by grind [Function.update_apply])
  | handOver objIdx other held pending _ _ _ => exact left _ (by grind [Function.update_apply])

-- An action is about a socket always or never.
def Request.Regular (onSocket : BitVec 8 → Bool) (request : Request) : Prop :=
  onSocket request.actionID = decide (request.socketID < slMaxSockets)

instance (onSocket : BitVec 8 → Bool) (request : Request) : Decidable (request.Regular onSocket) :=
  inferInstanceAs (Decidable (_ = _))

-- Whoever holds what a request needs is about the same action.
def Agreed (slots : Nat → Slot) (request : Request) : Prop :=
  ∀ objIdx held, slots objIdx = .holding held → held.key = request.key → held.actionID = request.actionID

-- A call that waits has a call for the same before it that holds an object or
-- is about to look again.
def Attended (slots : Nat → Slot) : Prop :=
  ∀ objIdx request, slots objIdx = .waiting request → ∃ other, slots other = .holding request ∨ slots other = .woken request

theorem request_same (first second : Request) (action : first.actionID = second.actionID)
    (socket : first.socketID = second.socketID) : first = second := by
  cases first
  cases second
  cases action
  cases socket
  rfl

theorem regular_socket (onSocket : BitVec 8 → Bool) (first second : Request) (one : first.Regular onSocket)
    (two : second.Regular onSocket) (action : first.actionID = second.actionID) :
    first.socketID < slMaxSockets ↔ second.socketID < slMaxSockets := by
  unfold Request.Regular at one two
  rwa [action, two, decide_eq_decide, Iff.comm] at one

theorem regular_key (onSocket : BitVec 8 → Bool) (first second : Request) (firstProper : first.Proper)
    (secondProper : second.Proper) (one : first.Regular onSocket) (two : second.Regular onSocket)
    (action : first.actionID = second.actionID) (key : first.key = second.key) : first = second := by
  have alike := regular_socket onSocket first second one two action
  refine request_same first second action ?_
  unfold Request.key at key
  by_cases here : first.socketID < slMaxSockets
  · rwa [if_pos here, if_pos (alike.mp here)] at key
  · have absent (request : Request) (proper : request.Proper) (none : ¬ request.socketID < slMaxSockets) :
        request.socketID = slMaxSockets := BitVec.le_antisymm proper.1 (BitVec.not_lt.mp none)
    rw [absent first firstProper here, absent second secondProper (mt alike.mpr here)]

theorem regular_wants (onSocket : BitVec 8 → Bool) (held pending : Request) (heldProper : held.Proper)
    (pendingProper : pending.Proper) (heldRegular : held.Regular onSocket) (pendingRegular : pending.Regular onSocket) :
    held.wants pending ↔ held = pending := by
  constructor
  · rintro ⟨same, shared⟩
    have alike := regular_socket onSocket held pending heldRegular pendingRegular same.symm
    refine request_same held pending same.symm ?_
    rcases shared with none | ⟨_, socket⟩
    · have absent : ¬ held.socketID < slMaxSockets := by
        rw [alike, none]
        exact BitVec.lt_irrefl _
      rw [none]
      exact BitVec.le_antisymm heldProper.1 (BitVec.not_lt.mp absent)
    · exact socket.symm
  · rintro rfl
    refine ⟨rfl, ?_⟩
    by_cases here : held.socketID < slMaxSockets
    · exact .inr ⟨here, rfl⟩
    · exact .inl (BitVec.le_antisymm heldProper.1 (BitVec.not_lt.mp here))

def Requests (slots : Nat → Slot) (holds : Request → Prop) : Prop :=
  ∀ objIdx request, (slots objIdx).request = some request → holds request

theorem held_wants (onSocket : BitVec 8 → Bool) (slots : Nat → Slot) (proper : Requests slots Request.Proper)
    (regular : Requests slots (Request.Regular onSocket)) (first second : Nat) (held pending : Request)
    (holding : slots first = .holding held) (waiting : slots second = .waiting pending) :
    held.wants pending ↔ held = pending := by
  have one : (slots first).request = some held := by rw [holding]; rfl
  have two : (slots second).request = some pending := by rw [waiting]; rfl
  exact regular_wants onSocket held pending (proper first held one) (proper second pending two) (regular first held one)
    (regular second pending two)

theorem busy_same (onSocket : BitVec 8 → Bool) (slots : Nat → Slot) (request : Request)
    (proper : Requests slots Request.Proper) (regular : Requests slots (Request.Regular onSocket))
    (requestProper : request.Proper) (requestRegular : request.Regular onSocket) (agreed : Agreed slots request)
    (taken : Busy slots request) : ∃ other, slots other = .holding request := by
  obtain ⟨holder, held, holding, same⟩ := taken
  have carried : (slots holder).request = some held := by rw [holding]; rfl
  have equal := regular_key onSocket held request (proper holder held carried) requestProper (regular holder held carried)
    requestRegular (agreed holder held holding same) same
  exact ⟨holder, equal ▸ holding⟩

-- A call that still waits needs only be told who attends it when the one that
-- did is the object that moved.
theorem attended_update (slots : Nat → Slot) (objIdx : Nat) (slot : Slot) (attended : Attended slots)
    (fresh : ∀ request, slot = .waiting request → ∃ other, other ≠ objIdx ∧ slots other = .holding request)
    (passed : ∀ request, slots objIdx = .holding request ∨ slots objIdx = .woken request →
      (slot = .holding request ∨ slot = .woken request) ∨ ∃ other, other ≠ objIdx ∧ slots other = .holding request) :
    Attended (Function.update slots objIdx slot) := by
  have still (request : Request) (holder : ∃ other, other ≠ objIdx ∧ slots other = .holding request) :
      ∃ other, Function.update slots objIdx slot other = .holding request ∨
        Function.update slots objIdx slot other = .woken request := by
    obtain ⟨other, apart, holding⟩ := holder
    exact ⟨other, .inl (by rwa [Function.update_of_ne apart])⟩
  intro waiter request waiting
  by_cases here : waiter = objIdx
  · rw [here, Function.update_self] at waiting
    exact still request (fresh request waiting)
  · rw [Function.update_of_ne here] at waiting
    obtain ⟨other, state⟩ := attended waiter request waiting
    by_cases mover : other = objIdx
    · rw [mover] at state
      rcases passed request state with kept | holder
      · exact ⟨objIdx, by rwa [Function.update_self]⟩
      · exact still request holder
    · exact ⟨other, by rwa [Function.update_of_ne mover]⟩

theorem release_attended (slots : Nat → Slot) (objIdx : Nat) (held : Request) (holding : slots objIdx = .holding held)
    (wants : ∀ other pending, slots other = .waiting pending → (held.wants pending ↔ held = pending))
    (unwanted : ∀ other pending, slots other = .waiting pending → ¬ held.wants pending) (attended : Attended slots) :
    Attended (Function.update slots objIdx .idle) := by
  intro waiter request waiting
  have apart : waiter ≠ objIdx := by
    rintro rfl
    simp at waiting
  rw [Function.update_of_ne apart] at waiting
  obtain ⟨other, state⟩ := attended waiter request waiting
  have kept : other ≠ objIdx := by
    rintro rfl
    have here : held = request := by simpa [holding] using state
    exact unwanted waiter request waiting ((wants waiter request waiting).mpr here)
  exact ⟨other, by rwa [Function.update_of_ne kept]⟩

theorem hand_over_attended (slots : Nat → Slot) (objIdx next : Nat) (held : Request) (holding : slots objIdx = .holding held)
    (woken : slots next = .waiting held) (attended : Attended slots) :
    Attended (Function.update (Function.update slots next (.woken held)) objIdx .idle) := by
  have differs : next ≠ objIdx := by
    rintro rfl
    simp [woken] at holding
  have signalled : Function.update (Function.update slots next (.woken held)) objIdx .idle next = .woken held := by
    rw [Function.update_of_ne differs, Function.update_self]
  intro waiter request waiting
  have apart : waiter ≠ objIdx := by
    rintro rfl
    simp at waiting
  have notNext : waiter ≠ next := by
    rintro rfl
    simp [signalled] at waiting
  rw [Function.update_of_ne apart, Function.update_of_ne notNext] at waiting
  obtain ⟨other, state⟩ := attended waiter request waiting
  by_cases released : other = objIdx
  · have here : held = request := by simpa [released, holding] using state
    exact ⟨next, .inr (by rw [signalled, here])⟩
  · have kept : other ≠ next := by
      rintro rfl
      simp [woken] at state
    exact ⟨other, by rwa [Function.update_of_ne released, Function.update_of_ne kept]⟩

theorem moves_attended (onSocket : BitVec 8 → Bool) (slots after : Nat → Slot) (entering : Option Request)
    (proper : Requests slots Request.Proper) (regular : Requests slots (Request.Regular onSocket))
    (entered : ∀ request, entering = some request → request.Proper ∧ request.Regular onSocket ∧ Agreed slots request)
    (attended : Attended slots) (moved : Moves slots entering after) : Attended after := by
  have wants := held_wants onSocket slots proper regular
  have elsewhere (objIdx : Nat) (request : Request) (free : ∀ held, slots objIdx ≠ .holding held)
      (label : entering = some request) (taken : Busy slots request) :
      ∃ other, other ≠ objIdx ∧ slots other = .holding request := by
    obtain ⟨requestProper, requestRegular, agreed⟩ := entered request label
    obtain ⟨other, holding⟩ := busy_same onSocket slots request proper regular requestProper requestRegular agreed taken
    exact ⟨other, fun same => free request (same ▸ holding), holding⟩
  cases moved with
  | stay => exact attended
  | take objIdx request idle _ => exact attended_update slots objIdx _ attended nofun fun ahead state => by simp [idle] at state
  | block objIdx request idle taken =>
      refine attended_update slots objIdx _ attended (fun other same => ?_) fun ahead state => by simp [idle] at state
      cases same
      exact elsewhere objIdx request (by simp [idle]) rfl taken
  | proceed objIdx request woken _ =>
      refine attended_update slots objIdx _ attended nofun fun ahead state => .inl (.inl ?_)
      simpa [woken] using state
  | again objIdx request woken taken =>
      have holder := elsewhere objIdx request (by simp [woken]) rfl taken
      refine attended_update slots objIdx _ attended (fun other same => ?_) fun ahead state => .inr ?_
      · cases same
        exact holder
      · have here : request = ahead := by simpa [woken] using state
        exact here ▸ holder
  | release objIdx held holding unwanted =>
      exact release_attended slots objIdx held holding (fun other pending => wants objIdx other held pending holding) unwanted
        attended
  | handOver objIdx next held pending holding woken wanted =>
      obtain rfl := (wants objIdx next held pending holding woken).mp wanted
      exact hand_over_attended slots objIdx next held holding woken attended

end Miso.ObjPool
