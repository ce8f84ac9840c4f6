import Miso.Base.Notify

set_option autoImplicit false

namespace Miso.Wifi

open Base (Notification has)

abbrev Bits := BitVec 32

def wifiPendingState : Bits := 1

inductive WifiConnectionState where
  | initial | disconnected | connecting | connected
deriving DecidableEq

def WifiConnectionState.bits : WifiConnectionState → Bits
  | .initial => 0
  | .disconnected => 2
  | .connecting => 4
  | .connected => 8

inductive WifiIpAcquiredState where
  | notAcquired | acquired | v4Acquired | v6Acquired | released
deriving DecidableEq

def wifiIpMask : Bits := 16 ||| 32 ||| 64 ||| 128

def WifiIpAcquiredState.bits : WifiIpAcquiredState → Bits
  | .notAcquired => 0
  | .acquired => 16
  | .v4Acquired => (16 ||| 32) &&& wifiIpMask
  | .v6Acquired => (16 ||| 64) &&& wifiIpMask
  | .released => 128 &&& wifiIpMask

structure WifiStatus where
  connection : WifiConnectionState
  ip : WifiIpAcquiredState
deriving DecidableEq

def WifiStatus.isConnected (status : WifiStatus) : Bool := status.connection = .connected

inductive MisoEvent where
  | connectivityOn | connectivityOff
deriving DecidableEq

inductive Call where
  | misoNotifyEvent (event : MisoEvent)
  | suspendNetworkMediator
  | resumeNetworkMediator
  | wlanConnect
  | slStop
deriving DecidableEq

-- Each access of the task to the status or to its own notification, and each
-- call, is a step of its own. The value taken is carried along.
inductive Stage where
  | restart
  | setup
  | launch
  | wait
  | announceOff (notified : Bits)
  | suspend (notified : Bits)
  | writeConnecting (notified : Bits)
  | postConnecting (notified : Bits)
  | connect (notified : Bits)
  | resume (notified : Bits)
  | announceOn
  | stop
deriving DecidableEq

structure Service where
  status : WifiStatus
  notification : Notification 32
  stage : Stage
  calls : List Call
deriving DecidableEq

def boot : Service where
  status := ⟨.initial, .notAcquired⟩
  notification := .idle
  stage := .restart
  calls := []

def disconnectedMask : Bits := WifiConnectionState.disconnected.bits
def connectingMask : Bits := WifiConnectionState.connecting.bits
def acquiredMask : Bits := WifiIpAcquiredState.v4Acquired.bits ||| WifiIpAcquiredState.v6Acquired.bits

def Service.xTaskNotify (service : Service) (bits : Bits) : Service :=
  { service with notification := service.notification.setBits (bits ||| wifiPendingState) }

def Service.call (service : Service) (call : Call) (stage : Stage) : Service :=
  { service with calls := service.calls ++ [call], stage := stage }

def Service.connection (service : Service) (connection : WifiConnectionState) (stage : Stage) : Service :=
  { service with status.connection := connection, stage := stage }

-- The bits are handled in one fixed order, whatever the order of the events.
def wifiTask (service : Service) (connectResult : Int) : Service :=
  match service.stage with
  | .restart => service.connection .disconnected .setup
  | .setup => service.connection .connecting .launch
  | .launch => { service.xTaskNotify connectingMask with stage := .wait }
  | .wait =>
      match service.notification.wait wifiPendingState (BitVec.allOnes 32) with
      | (some notified, left) => { service with notification := left, stage := .announceOff notified }
      | (none, left) => { service with notification := left }
  | .announceOff notified =>
      if has notified disconnectedMask then service.call (.misoNotifyEvent .connectivityOff) (.suspend notified)
      else { service with stage := .connect notified }
  | .suspend notified => service.call .suspendNetworkMediator (.writeConnecting notified)
  | .writeConnecting notified => service.connection .connecting (.postConnecting notified)
  | .postConnecting notified => { service.xTaskNotify connectingMask with stage := .connect notified }
  | .connect notified =>
      if has notified connectingMask then
        service.call .wlanConnect (if connectResult ≠ 0 then .stop else .resume notified)
      else { service with stage := .resume notified }
  | .resume notified =>
      if has notified acquiredMask then service.call .resumeNetworkMediator .announceOn
      else { service with stage := .wait }
  | .announceOn => service.call (.misoNotifyEvent .connectivityOn) .wait
  | .stop => service.call .slStop .restart

inductive SlWlanEvent where
  | connect | disconnect | smartConfigComplete | smartConfigStop | staConnected | staDisconnected
  | p2pDevFound | p2pNegReqReceived | connectionFailed | unknown (event : Nat)
deriving DecidableEq

inductive SlNetAppEvent where
  | ipv4IpAcquired | ipv6IpAcquired | ipLeased | ipReleased | unknown (event : Nat)
deriving DecidableEq

def connectionAfter (connection : WifiConnectionState) : SlWlanEvent → WifiConnectionState
  | .connect => .connected
  | .disconnect => .disconnected
  | .connectionFailed => .disconnected
  | _ => connection

def ipAfter (ip : WifiIpAcquiredState) : SlNetAppEvent → WifiIpAcquiredState
  | .ipv4IpAcquired => .v4Acquired
  | .ipv6IpAcquired => .v6Acquired
  | .ipReleased => .released
  | _ => ip

-- Both handlers post the stored status, whether or not the event changed it.
def cc3100WlanEvtHdlr (service : Service) : Option SlWlanEvent → Service
  | none => service
  | some event =>
      let connection := connectionAfter service.status.connection event
      { service with status.connection := connection }.xTaskNotify connection.bits

def cc3100NetAppEvtHdlr (service : Service) (event : SlNetAppEvent) : Service :=
  let ip := ipAfter service.status.ip event
  { service with status.ip := ip }.xTaskNotify ip.bits

inductive Event where
  | wlan (event : Option SlWlanEvent)
  | netApp (event : SlNetAppEvent)
deriving DecidableEq

def deliver (service : Service) : Event → Service
  | .wlan event => cc3100WlanEvtHdlr service event
  | .netApp event => cc3100NetAppEvtHdlr service event

-- A run is any interleaving of deliveries with steps of the task. A step at
-- the wait with nothing notified stands for the task being blocked.
inductive Input where
  | task (connectResult : Int)
  | event (event : Event)
deriving DecidableEq

def Service.step (service : Service) : Input → Service
  | .task connectResult => wifiTask service connectResult
  | .event event => deliver service event

def runInputs (inputs : List Input) : Service := inputs.foldl Service.step boot

theorem run_inputs_append (inputs : List Input) (input : Input) :
    runInputs (inputs ++ [input]) = (runInputs inputs).step input := by simp [runInputs]

def Drained (service : Service) : Prop := service.stage = .wait ∧ service.notification.received = false

instance (service : Service) : Decidable (Drained service) := inferInstanceAs (Decidable (_ ∧ _))

def mediatorResumed (calls : List Call) : Bool :=
  calls.foldl (fun resumed call => match call with
    | .suspendNetworkMediator => false
    | .resumeNetworkMediator => true
    | _ => resumed) false

def lastAnnounced (calls : List Call) : Option MisoEvent :=
  calls.foldl (fun last call => match call with
    | .misoNotifyEvent event => some event
    | _ => last) none

@[simp] theorem mediator_resumed_append (calls : List Call) (call : Call) :
    mediatorResumed (calls ++ [call]) = match call with
      | .suspendNetworkMediator => false
      | .resumeNetworkMediator => true
      | _ => mediatorResumed calls := by
  simp only [mediatorResumed, List.foldl_append, List.foldl_cons, List.foldl_nil]

@[simp] theorem last_announced_append (calls : List Call) (call : Call) :
    lastAnnounced (calls ++ [call]) = match call with
      | .misoNotifyEvent event => some event
      | _ => lastAnnounced calls := by
  simp only [lastAnnounced, List.foldl_append, List.foldl_cons, List.foldl_nil]

end Miso.Wifi
