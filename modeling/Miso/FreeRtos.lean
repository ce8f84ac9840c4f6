import Miso.Base.Wrapped

set_option autoImplicit false

namespace Miso.FreeRtos

open Base (Fallible Mapped failIf lifted okIf)

variable {σ η π : Type}

inductive FreeRtosError where
  | pdFAIL
  | taskCreationFailed
  | taskHandleAlreadyExists
  | taskNotifyFailed
  | queueCreationFailed
  | queueSendFailed
  | queueReceiveFailed
  | semaphoreCreationFailed
  | semaphoreTakeTimeout
  | timerCreationFailed
  | timerStartFailed
  | timerStopFailed
  | timerChangePeriodFailed
  | messageBufferCreationFailed
  | messageBufferReceiveFailed
  | messageBufferOverflow
deriving DecidableEq

def pdFALSE : Int := 0
def pdTRUE : Int := 1
def pdPASS : Int := pdTRUE
def pdFAIL : Int := pdFALSE
def portMaxDelay : BitVec 32 := 0xFFFFFFFF
def tskDefaultIndexToNotify : BitVec 32 := 0
def tmrCommandStart : Int := 1
def tmrCommandStop : Int := 3
def tmrCommandChangePeriod : Int := 4

inductive NotifyAction where
  | eNoAction
  | eSetBits
  | eIncrement
  | eSetValueWithOverwrite
  | eSetValueWithoutOverwrite
deriving DecidableEq

-- The kernel calls, with any result each: η are the handles and none is NULL,
-- π the addresses.
structure Kernel (σ η π : Type) where
  xTaskCreate (pxTaskCode pcName : π) (usStackDepth : BitVec 16) (pvParameters : Option π) (uxPriority : BitVec 32) :
    StateM σ (Int × Option η)
  xTaskCreateStatic (pxTaskCode pcName : π) (ulStackDepth : Nat) (pvParameters : Option π) (uxPriority : BitVec 32)
    (puxStackBuffer pxTaskBuffer : π) : StateM σ (Option η)
  xTaskGenericNotify (xTaskToNotify : Option η) (uxIndexToNotify ulValue : BitVec 32) (eAction : NotifyAction)
    (pulPreviousNotificationValue : Option π) : StateM σ Int
  xTaskGetTickCount : StateM σ (BitVec 32)
  xSemaphoreCreateBinary : StateM σ (Option η)
  xSemaphoreCreateBinaryStatic (pxSemaphoreBuffer : π) : StateM σ (Option η)
  xSemaphoreCreateCounting (uxMaxCount uxInitialCount : BitVec 32) : StateM σ (Option η)
  xSemaphoreCreateCountingStatic (uxMaxCount uxInitialCount : BitVec 32) (pxSemaphoreBuffer : π) : StateM σ (Option η)
  xSemaphoreCreateMutex : StateM σ (Option η)
  xSemaphoreCreateMutexStatic (pxMutexBuffer : π) : StateM σ (Option η)
  xSemaphoreTake (xSemaphore : Option η) (xBlockTime : BitVec 32) : StateM σ Int
  xSemaphoreGive (xSemaphore : Option η) : StateM σ Int
  xTimerCreate (pcTimerName : π) (xTimerPeriodInTicks : BitVec 32) (uxAutoReload : Int) (pvTimerID pxCallbackFunction : π) :
    StateM σ (Option η)
  xTimerCreateStatic (pcTimerName : π) (xTimerPeriodInTicks : BitVec 32) (uxAutoReload : Int)
    (pvTimerID pxCallbackFunction pxTimerBuffer : π) : StateM σ (Option η)
  xTimerGenericCommand (xTimer : Option η) (xCommandID : Int) (xOptionalValue : BitVec 32)
    (pxHigherPriorityTaskWoken : Option π) (xTicksToWait : BitVec 32) : StateM σ Int
  xStreamBufferGenericCreate (xBufferSizeBytes xTriggerLevelBytes : Nat) (xIsMessageBuffer : Int)
    (pxSendCompletedCallback pxReceiveCompletedCallback : Option π) : StateM σ (Option η)
  xStreamBufferGenericCreateStatic (xBufferSizeBytes xTriggerLevelBytes : Nat) (xIsMessageBuffer : Int)
    (pucStreamBufferStorageArea pxStaticStreamBuffer : π) (pxSendCompletedCallback pxReceiveCompletedCallback : Option π) :
    StateM σ (Option η)
  xQueueCreate (uxQueueLength uxItemSize : Nat) : StateM σ (Option η)
  xQueueCreateStatic (uxQueueLength uxItemSize : Nat) (pucQueueStorageBuffer pxQueueBuffer : π) : StateM σ (Option η)
  xQueueSend (xQueue : Option η) (pvItemToQueue : π) (xTicksToWait : BitVec 32) : StateM σ Int

structure Task (η : Type) where
  handle : Option η

namespace Task

def create (kernel : Kernel σ η π) (pxTaskCode pcName : π) (usStackDepth : BitVec 16) (pvParameters : Option π)
    (uxPriority : BitVec 32) : Fallible FreeRtosError σ (Task η) :=
  okIf (kernel.xTaskCreate pxTaskCode pcName usStackDepth pvParameters uxPriority) (fun result => pdPASS = result.1)
    .taskCreationFailed fun result => ⟨result.2⟩

def createStatic (kernel : Kernel σ η π) (pxTaskCode pcName : π) (pvParameters : Option π) (uxPriority : BitVec 32)
    (stackLen : Nat) (stack pxTaskBuffer : π) : Fallible FreeRtosError σ (Task η) :=
  failIf (kernel.xTaskCreateStatic pxTaskCode pcName stackLen pvParameters uxPriority stack pxTaskBuffer) Option.isNone
    .taskCreationFailed Task.mk

-- return if (pdPASS == ..) return FreeRtosError.TaskNotifyFailed;
def notify (kernel : Kernel σ η π) (self : Task η) (ulValue : BitVec 32) (eAction : NotifyAction) :
    Fallible FreeRtosError σ Unit :=
  failIf (kernel.xTaskGenericNotify self.handle tskDefaultIndexToNotify ulValue eAction none) (fun result => pdPASS = result)
    .taskNotifyFailed fun _ => ()

end Task

structure Semaphore (η : Type) where
  handle : Option η

namespace Semaphore

def createBinary (kernel : Kernel σ η π) : Fallible FreeRtosError σ (Semaphore η) :=
  failIf kernel.xSemaphoreCreateBinary Option.isNone .semaphoreCreationFailed Semaphore.mk

def createBinaryStatic (kernel : Kernel σ η π) (pxSemaphoreBuffer : π) : Fallible FreeRtosError σ (Semaphore η) :=
  failIf (kernel.xSemaphoreCreateBinaryStatic pxSemaphoreBuffer) Option.isNone .semaphoreCreationFailed Semaphore.mk

def createCountingSemaphore (kernel : Kernel σ η π) (uxMaxCount uxInitialCount : BitVec 32) :
    Fallible FreeRtosError σ (Semaphore η) :=
  failIf (kernel.xSemaphoreCreateCounting uxMaxCount uxInitialCount) Option.isNone .semaphoreCreationFailed Semaphore.mk

def createCountingSemaphoreStatic (kernel : Kernel σ η π) (uxMaxCount uxInitialCount : BitVec 32) (pxSemaphoreBuffer : π) :
    Fallible FreeRtosError σ (Semaphore η) :=
  failIf (kernel.xSemaphoreCreateCountingStatic uxMaxCount uxInitialCount pxSemaphoreBuffer) Option.isNone
    .semaphoreCreationFailed Semaphore.mk

def createMutex (kernel : Kernel σ η π) : Fallible FreeRtosError σ (Semaphore η) :=
  failIf kernel.xSemaphoreCreateMutex Option.isNone .semaphoreCreationFailed Semaphore.mk

def createMutexStatic (kernel : Kernel σ η π) (pxMutexBuffer : π) : Fallible FreeRtosError σ (Semaphore η) :=
  failIf (kernel.xSemaphoreCreateMutexStatic pxMutexBuffer) Option.isNone .semaphoreCreationFailed Semaphore.mk

def take (kernel : Kernel σ η π) (self : Semaphore η) (xTicksToWait : Option (BitVec 32)) : Fallible FreeRtosError σ Bool :=
  okIf (kernel.xSemaphoreTake self.handle (xTicksToWait.getD portMaxDelay)) (fun result => pdTRUE = result)
    .semaphoreTakeTimeout fun _ => true

def give (kernel : Kernel σ η π) (self : Semaphore η) : Fallible FreeRtosError σ Unit :=
  failIf (kernel.xSemaphoreGive self.handle) (fun result => pdTRUE ≠ result) .pdFAIL fun _ => ()

end Semaphore

structure Timer (η : Type) where
  handle : Option η

namespace Timer

def create (kernel : Kernel σ η π) (pcTimerName : π) (xTimerPeriodInTicks : BitVec 32) (autoReload : Bool)
    (pvTimerID pxCallbackFunction : π) : Fallible FreeRtosError σ (Timer η) :=
  failIf (kernel.xTimerCreate pcTimerName xTimerPeriodInTicks (if autoReload then pdTRUE else pdFALSE) pvTimerID
    pxCallbackFunction) Option.isNone .timerCreationFailed Timer.mk

def createStatic (kernel : Kernel σ η π) (pcTimerName : π) (xTimerPeriodInTicks : BitVec 32) (autoReload : Bool)
    (pvTimerID pxCallbackFunction pxTimerBuffer : π) : Fallible FreeRtosError σ (Timer η) :=
  failIf (kernel.xTimerCreateStatic pcTimerName xTimerPeriodInTicks (if autoReload then pdTRUE else pdFALSE) pvTimerID
    pxCallbackFunction pxTimerBuffer) Option.isNone .timerCreationFailed Timer.mk

def startCommand (kernel : Kernel σ η π) (self : Timer η) (xTicksToWait : Option (BitVec 32)) : StateM σ Int := do
  let now ← kernel.xTaskGetTickCount
  kernel.xTimerGenericCommand self.handle tmrCommandStart now none (xTicksToWait.getD portMaxDelay)

def stopCommand (kernel : Kernel σ η π) (self : Timer η) (xTicksToWait : Option (BitVec 32)) : StateM σ Int :=
  kernel.xTimerGenericCommand self.handle tmrCommandStop 0 none (xTicksToWait.getD portMaxDelay)

def changePeriodCommand (kernel : Kernel σ η π) (self : Timer η) (xNewPeriod : BitVec 32) (xBlockTime : Option (BitVec 32)) :
    StateM σ Int :=
  kernel.xTimerGenericCommand self.handle tmrCommandChangePeriod xNewPeriod none (xBlockTime.getD portMaxDelay)

def start (kernel : Kernel σ η π) (self : Timer η) (xTicksToWait : Option (BitVec 32)) : Fallible FreeRtosError σ Unit :=
  failIf (startCommand kernel self xTicksToWait) (fun result => pdFAIL = result) .timerStartFailed fun _ => ()

def stop (kernel : Kernel σ η π) (self : Timer η) (xTicksToWait : Option (BitVec 32)) : Fallible FreeRtosError σ Unit :=
  failIf (stopCommand kernel self xTicksToWait) (fun result => pdFAIL = result) .timerStopFailed fun _ => ()

def changePeriod (kernel : Kernel σ η π) (self : Timer η) (xNewPeriod : BitVec 32) (xBlockTime : Option (BitVec 32)) :
    Fallible FreeRtosError σ Unit :=
  failIf (changePeriodCommand kernel self xNewPeriod xBlockTime) (fun result => pdFAIL = result) .timerChangePeriodFailed
    fun _ => ()

end Timer

structure MessageBuffer (η : Type) where
  handle : Option η

namespace MessageBuffer

def create (kernel : Kernel σ η π) (xBufferSizeBytes : Nat) : Fallible FreeRtosError σ (MessageBuffer η) :=
  okIf (kernel.xStreamBufferGenericCreate xBufferSizeBytes 0 pdTRUE none none) Option.isSome .messageBufferCreationFailed
    MessageBuffer.mk

def initStatic (kernel : Kernel σ η π) (bufferLen : Nat) (buffer staticMessageBuffer : π) :
    Fallible FreeRtosError σ (MessageBuffer η) :=
  okIf (kernel.xStreamBufferGenericCreateStatic bufferLen 0 pdTRUE buffer staticMessageBuffer none none) Option.isSome
    .messageBufferCreationFailed MessageBuffer.mk

end MessageBuffer

-- itemSize and numItems are comptime parameters of the type.
structure Queue (η : Type) where
  handle : Option η

namespace Queue

def create (kernel : Kernel σ η π) (itemSize numItems : Nat) : Fallible FreeRtosError σ (Queue η) := do
  let handle ← lifted (kernel.xQueueCreate numItems itemSize)
  pure ⟨handle⟩

def createStatic (kernel : Kernel σ η π) (itemSize numItems : Nat) (buffer staticQueue : π) : StateM σ (Queue η) := do
  let handle ← kernel.xQueueCreateStatic numItems itemSize buffer staticQueue
  pure ⟨handle⟩

def send (kernel : Kernel σ η π) (self : Queue η) (item : π) (ticksToWait : Option (BitVec 32)) :
    Fallible FreeRtosError σ Unit :=
  failIf (kernel.xQueueSend self.handle item (ticksToWait.getD portMaxDelay)) (fun result => pdPASS ≠ result) .queueSendFailed
    fun _ => ()

end Queue

structure StaticQueue (η π : Type) where
  queue : Queue η
  staticQueue : π
  buffer : π

namespace StaticQueue

def create (kernel : Kernel σ η π) (self : StaticQueue η π) (itemSize numItems : Nat) :
    Fallible FreeRtosError σ (StaticQueue η π) := do
  let queue ← lifted (Queue.createStatic kernel itemSize numItems self.buffer self.staticQueue)
  pure { self with queue := queue }

def send (kernel : Kernel σ η π) (self : StaticQueue η π) (item : π) (ticksToWait : Option (BitVec 32)) :
    Fallible FreeRtosError σ Unit :=
  self.queue.send kernel item ticksToWait

end StaticQueue

inductive Wrapper (η π : Type) where
  | taskCreate (pxTaskCode pcName : π) (usStackDepth : BitVec 16) (pvParameters : Option π) (uxPriority : BitVec 32)
  | taskCreateStatic (pxTaskCode pcName : π) (pvParameters : Option π) (uxPriority : BitVec 32) (stackLen : Nat)
      (stack pxTaskBuffer : π)
  | taskNotify (self : Task η) (ulValue : BitVec 32) (eAction : NotifyAction)
  | semaphoreCreateBinary
  | semaphoreCreateBinaryStatic (pxSemaphoreBuffer : π)
  | semaphoreCreateCountingSemaphore (uxMaxCount uxInitialCount : BitVec 32)
  | semaphoreCreateCountingSemaphoreStatic (uxMaxCount uxInitialCount : BitVec 32) (pxSemaphoreBuffer : π)
  | semaphoreCreateMutex
  | semaphoreCreateMutexStatic (pxMutexBuffer : π)
  | semaphoreTake (self : Semaphore η) (xTicksToWait : Option (BitVec 32))
  | semaphoreGive (self : Semaphore η)
  | timerCreate (pcTimerName : π) (xTimerPeriodInTicks : BitVec 32) (autoReload : Bool) (pvTimerID pxCallbackFunction : π)
  | timerCreateStatic (pcTimerName : π) (xTimerPeriodInTicks : BitVec 32) (autoReload : Bool)
      (pvTimerID pxCallbackFunction pxTimerBuffer : π)
  | timerStart (self : Timer η) (xTicksToWait : Option (BitVec 32))
  | timerStop (self : Timer η) (xTicksToWait : Option (BitVec 32))
  | timerChangePeriod (self : Timer η) (xNewPeriod : BitVec 32) (xBlockTime : Option (BitVec 32))
  | messageBufferCreate (xBufferSizeBytes : Nat)
  | messageBufferInitStatic (bufferLen : Nat) (buffer staticMessageBuffer : π)
  | queueCreate (itemSize numItems : Nat)
  | queueSend (self : Queue η) (item : π) (ticksToWait : Option (BitVec 32))
  | staticQueueCreate (self : StaticQueue η π) (itemSize numItems : Nat)
  | staticQueueSend (self : StaticQueue η π) (item : π) (ticksToWait : Option (BitVec 32))

-- The kernel reports failure by a status that is not pdPASS, or by NULL.
def Refused (status : Int) : Prop := status ≠ pdPASS

def Missing (handle : Option η) : Prop := handle = none

-- The statuses that the timer calls are documented to return.
def Documented (status : Int) : Prop := status = pdPASS ∨ status = pdFAIL

namespace Wrapper

-- The wrapper's error is the kernel's failure, and its object has the handle
-- that the kernel gave.
def MapsErrors (kernel : Kernel σ η π) (state : σ) : Wrapper η π → Prop
  | .taskCreate pxTaskCode pcName usStackDepth pvParameters uxPriority =>
      Mapped (kernel.xTaskCreate pxTaskCode pcName usStackDepth pvParameters uxPriority) (fun result => Refused result.1)
        (fun result => ⟨result.2⟩) (Task.create kernel pxTaskCode pcName usStackDepth pvParameters uxPriority) state
  | .taskCreateStatic pxTaskCode pcName pvParameters uxPriority stackLen stack pxTaskBuffer =>
      Mapped (kernel.xTaskCreateStatic pxTaskCode pcName stackLen pvParameters uxPriority stack pxTaskBuffer) Missing Task.mk
        (Task.createStatic kernel pxTaskCode pcName pvParameters uxPriority stackLen stack pxTaskBuffer) state
  | .taskNotify self ulValue eAction =>
      Mapped (kernel.xTaskGenericNotify self.handle tskDefaultIndexToNotify ulValue eAction none) Refused (fun _ => ())
        (Task.notify kernel self ulValue eAction) state
  | .semaphoreCreateBinary =>
      Mapped kernel.xSemaphoreCreateBinary Missing Semaphore.mk (Semaphore.createBinary kernel) state
  | .semaphoreCreateBinaryStatic pxSemaphoreBuffer =>
      Mapped (kernel.xSemaphoreCreateBinaryStatic pxSemaphoreBuffer) Missing Semaphore.mk
        (Semaphore.createBinaryStatic kernel pxSemaphoreBuffer) state
  | .semaphoreCreateCountingSemaphore uxMaxCount uxInitialCount =>
      Mapped (kernel.xSemaphoreCreateCounting uxMaxCount uxInitialCount) Missing Semaphore.mk
        (Semaphore.createCountingSemaphore kernel uxMaxCount uxInitialCount) state
  | .semaphoreCreateCountingSemaphoreStatic uxMaxCount uxInitialCount pxSemaphoreBuffer =>
      Mapped (kernel.xSemaphoreCreateCountingStatic uxMaxCount uxInitialCount pxSemaphoreBuffer) Missing Semaphore.mk
        (Semaphore.createCountingSemaphoreStatic kernel uxMaxCount uxInitialCount pxSemaphoreBuffer) state
  | .semaphoreCreateMutex =>
      Mapped kernel.xSemaphoreCreateMutex Missing Semaphore.mk (Semaphore.createMutex kernel) state
  | .semaphoreCreateMutexStatic pxMutexBuffer =>
      Mapped (kernel.xSemaphoreCreateMutexStatic pxMutexBuffer) Missing Semaphore.mk
        (Semaphore.createMutexStatic kernel pxMutexBuffer) state
  | .semaphoreTake self xTicksToWait =>
      Mapped (kernel.xSemaphoreTake self.handle (xTicksToWait.getD portMaxDelay)) Refused (fun _ => true)
        (Semaphore.take kernel self xTicksToWait) state
  | .semaphoreGive self =>
      Mapped (kernel.xSemaphoreGive self.handle) Refused (fun _ => ()) (Semaphore.give kernel self) state
  | .timerCreate pcTimerName xTimerPeriodInTicks autoReload pvTimerID pxCallbackFunction =>
      Mapped (kernel.xTimerCreate pcTimerName xTimerPeriodInTicks (if autoReload then pdTRUE else pdFALSE) pvTimerID
        pxCallbackFunction) Missing Timer.mk
        (Timer.create kernel pcTimerName xTimerPeriodInTicks autoReload pvTimerID pxCallbackFunction) state
  | .timerCreateStatic pcTimerName xTimerPeriodInTicks autoReload pvTimerID pxCallbackFunction pxTimerBuffer =>
      Mapped (kernel.xTimerCreateStatic pcTimerName xTimerPeriodInTicks (if autoReload then pdTRUE else pdFALSE) pvTimerID
        pxCallbackFunction pxTimerBuffer) Missing Timer.mk
        (Timer.createStatic kernel pcTimerName xTimerPeriodInTicks autoReload pvTimerID pxCallbackFunction pxTimerBuffer) state
  | .timerStart self xTicksToWait =>
      Mapped (Timer.startCommand kernel self xTicksToWait) Refused (fun _ => ()) (Timer.start kernel self xTicksToWait) state
  | .timerStop self xTicksToWait =>
      Mapped (Timer.stopCommand kernel self xTicksToWait) Refused (fun _ => ()) (Timer.stop kernel self xTicksToWait) state
  | .timerChangePeriod self xNewPeriod xBlockTime =>
      Mapped (Timer.changePeriodCommand kernel self xNewPeriod xBlockTime) Refused (fun _ => ())
        (Timer.changePeriod kernel self xNewPeriod xBlockTime) state
  | .messageBufferCreate xBufferSizeBytes =>
      Mapped (kernel.xStreamBufferGenericCreate xBufferSizeBytes 0 pdTRUE none none) Missing MessageBuffer.mk
        (MessageBuffer.create kernel xBufferSizeBytes) state
  | .messageBufferInitStatic bufferLen buffer staticMessageBuffer =>
      Mapped (kernel.xStreamBufferGenericCreateStatic bufferLen 0 pdTRUE buffer staticMessageBuffer none none) Missing
        MessageBuffer.mk (MessageBuffer.initStatic kernel bufferLen buffer staticMessageBuffer) state
  | .queueCreate itemSize numItems =>
      Mapped (kernel.xQueueCreate numItems itemSize) Missing Queue.mk (Queue.create kernel itemSize numItems) state
  | .queueSend self item ticksToWait =>
      Mapped (kernel.xQueueSend self.handle item (ticksToWait.getD portMaxDelay)) Refused (fun _ => ())
        (Queue.send kernel self item ticksToWait) state
  | .staticQueueCreate self itemSize numItems =>
      Mapped (kernel.xQueueCreateStatic numItems itemSize self.buffer self.staticQueue) Missing
        (fun handle => { self with queue := ⟨handle⟩ }) (StaticQueue.create kernel self itemSize numItems) state
  | .staticQueueSend self item ticksToWait =>
      Mapped (kernel.xQueueSend self.queue.handle item (ticksToWait.getD portMaxDelay)) Refused (fun _ => ())
        (StaticQueue.send kernel self item ticksToWait) state

-- notify has its test the wrong way round, the queues' create has none, and
-- the timer commands take any status but pdFAIL for success.
def Heeded (kernel : Kernel σ η π) (state : σ) : Wrapper η π → Prop
  | .taskNotify _ _ _ => False
  | .queueCreate itemSize numItems => ¬ Missing ((kernel.xQueueCreate numItems itemSize).run state).1
  | .staticQueueCreate self itemSize numItems =>
      ¬ Missing ((kernel.xQueueCreateStatic numItems itemSize self.buffer self.staticQueue).run state).1
  | .timerStart self xTicksToWait => Documented ((Timer.startCommand kernel self xTicksToWait).run state).1
  | .timerStop self xTicksToWait => Documented ((Timer.stopCommand kernel self xTicksToWait).run state).1
  | .timerChangePeriod self xNewPeriod xBlockTime =>
      Documented ((Timer.changePeriodCommand kernel self xNewPeriod xBlockTime).run state).1
  | _ => True

end Wrapper

section Styles

variable {ρ α : Type} (failure : FreeRtosError) (state : σ)

theorem null_is_error (call : StateM σ (Option η)) (given : Option η → α) :
    Mapped call Missing given (failIf call Option.isNone failure given) state := by
  rw [Base.fail_if_mapped, Missing]
  exact Option.isNone_iff_eq_none

theorem not_null_is_object (call : StateM σ (Option η)) (given : Option η → α) :
    Mapped call Missing given (okIf call Option.isSome failure given) state := by
  rw [Base.ok_if_mapped, Missing]
  exact Option.isSome_eq_false_iff.trans Option.isNone_iff_eq_none

theorem pass_is_success (call : StateM σ ρ) (status : ρ → Int) (given : ρ → α) :
    Mapped call (fun result => Refused (status result)) given (okIf call (fun result => pdPASS = status result) failure given)
      state := by
  rw [Base.ok_if_mapped, Refused, decide_eq_false_iff_not]
  exact ne_comm

theorem not_pass_is_error (call : StateM σ Int) (given : Int → α) :
    Mapped call Refused given (failIf call (fun result => pdPASS ≠ result) failure given) state := by
  rw [Base.fail_if_mapped, Refused, decide_eq_true_iff]
  exact ne_comm

theorem fail_is_error (call : StateM σ Int) (given : Int → α) :
    Mapped call Refused given (failIf call (fun result => pdFAIL = result) failure given) state ↔
      Documented (call.run state).1 := by
  rw [Base.fail_if_mapped, Refused, Documented, decide_eq_true_iff]
  have apart : pdPASS ≠ pdFAIL := by decide
  constructor
  · intro same
    by_cases passed : (call.run state).1 = pdPASS
    · exact .inl passed
    · exact .inr (same.mpr passed).symm
  · rintro (passed | refused)
    · rw [passed]
      exact iff_of_false apart.symm (not_not_intro rfl)
    · rw [refused]
      exact iff_of_true rfl apart.symm

-- The test that takes success for the error is right about no status.
theorem pass_is_error (call : StateM σ Int) (given : Int → α) :
    ¬ Mapped call Refused given (failIf call (fun result => pdPASS = result) failure given) state := by
  rw [Base.fail_if_mapped, Refused, decide_eq_true_iff]
  intro same
  by_cases passed : pdPASS = (call.run state).1
  · exact same.mp passed passed.symm
  · exact passed (same.mpr (Ne.symm passed))

end Styles

theorem maps_errors_iff (kernel : Kernel σ η π) (wrapper : Wrapper η π) (state : σ) :
    wrapper.MapsErrors kernel state ↔ wrapper.Heeded kernel state := by
  cases wrapper with
  | taskCreate => exact iff_of_true (pass_is_success _ state _ Prod.fst _) trivial
  | taskCreateStatic => exact iff_of_true (null_is_error _ state _ _) trivial
  | taskNotify => exact iff_of_false (pass_is_error _ state _ _) not_false
  | semaphoreCreateBinary => exact iff_of_true (null_is_error _ state _ _) trivial
  | semaphoreCreateBinaryStatic => exact iff_of_true (null_is_error _ state _ _) trivial
  | semaphoreCreateCountingSemaphore => exact iff_of_true (null_is_error _ state _ _) trivial
  | semaphoreCreateCountingSemaphoreStatic => exact iff_of_true (null_is_error _ state _ _) trivial
  | semaphoreCreateMutex => exact iff_of_true (null_is_error _ state _ _) trivial
  | semaphoreCreateMutexStatic => exact iff_of_true (null_is_error _ state _ _) trivial
  | semaphoreTake => exact iff_of_true (pass_is_success _ state _ id _) trivial
  | semaphoreGive => exact iff_of_true (not_pass_is_error _ state _ _) trivial
  | timerCreate => exact iff_of_true (null_is_error _ state _ _) trivial
  | timerCreateStatic => exact iff_of_true (null_is_error _ state _ _) trivial
  | timerStart => exact fail_is_error _ state _ _
  | timerStop => exact fail_is_error _ state _ _
  | timerChangePeriod => exact fail_is_error _ state _ _
  | messageBufferCreate => exact iff_of_true (not_null_is_object _ state _ _) trivial
  | messageBufferInitStatic => exact iff_of_true (not_null_is_object _ state _ _) trivial
  | queueCreate => exact Base.unchecked_mapped _ Missing Queue.mk state
  | queueSend => exact iff_of_true (not_pass_is_error _ state _ _) trivial
  | staticQueueCreate self => exact Base.unchecked_mapped _ Missing (fun handle => { self with queue := ⟨handle⟩ }) state
  | staticQueueSend => exact iff_of_true (not_pass_is_error _ state _ _) trivial

-- A kernel that grants everything, but has no memory for another queue.
def crowded : Kernel Unit Nat Nat where
  xTaskCreate _ _ _ _ _ := pure (pdPASS, some 1)
  xTaskCreateStatic _ _ _ _ _ _ _ := pure (some 1)
  xTaskGenericNotify _ _ _ _ _ := pure pdPASS
  xTaskGetTickCount := pure 0
  xSemaphoreCreateBinary := pure (some 2)
  xSemaphoreCreateBinaryStatic _ := pure (some 2)
  xSemaphoreCreateCounting _ _ := pure (some 2)
  xSemaphoreCreateCountingStatic _ _ _ := pure (some 2)
  xSemaphoreCreateMutex := pure (some 2)
  xSemaphoreCreateMutexStatic _ := pure (some 2)
  xSemaphoreTake _ _ := pure pdTRUE
  xSemaphoreGive _ := pure pdTRUE
  xTimerCreate _ _ _ _ _ := pure (some 3)
  xTimerCreateStatic _ _ _ _ _ _ := pure (some 3)
  xTimerGenericCommand _ _ _ _ _ := pure pdPASS
  xStreamBufferGenericCreate _ _ _ _ _ := pure (some 4)
  xStreamBufferGenericCreateStatic _ _ _ _ _ _ _ := pure (some 4)
  xQueueCreate _ _ := pure none
  xQueueCreateStatic _ _ _ _ := pure none
  xQueueSend _ _ _ := pure pdPASS

theorem errors_not_mapped :
    (¬ ∀ (kernel : Kernel Unit Nat Nat) (self : Task Nat) (ulValue : BitVec 32) (eAction : NotifyAction),
      (Wrapper.taskNotify self ulValue eAction).MapsErrors kernel ()) ∧
    ¬ ∀ (kernel : Kernel Unit Nat Nat) (itemSize numItems : Nat), (Wrapper.queueCreate itemSize numItems).MapsErrors kernel () := by
  constructor
  · intro mapped
    have refused := (mapped crowded ⟨some 1⟩ 1 .eIncrement).errs.mp ⟨.taskNotifyFailed, rfl⟩
    exact refused rfl
  · intro mapped
    obtain ⟨failure, ended⟩ := (mapped crowded 4 1).errs.mpr rfl
    cases ended

theorem notify_inverted (kernel : Kernel σ η π) (self : Task η) (ulValue : BitVec 32) (eAction : NotifyAction) (state : σ) :
    (Fallible.exec (Task.notify kernel self ulValue eAction) state).1 = .error .taskNotifyFailed ↔
      ((kernel.xTaskGenericNotify self.handle tskDefaultIndexToNotify ulValue eAction none).run state).1 = pdPASS := by
  rw [Task.notify, Base.fail_if_error, decide_eq_true_iff]
  exact eq_comm

end Miso.FreeRtos
