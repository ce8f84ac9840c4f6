import Miso.WifiDrain

set_option autoImplicit false

namespace Miso.Wifi

open Base (has has_or has_zero Notification)

def online (calls : List Call) : Bool := mediatorResumed calls && lastAnnounced calls = some .connectivityOn

def verdict : Event → Option Bool
  | .wlan (some .disconnect) | .wlan (some .connectionFailed) => some false
  | .netApp .ipv4IpAcquired | .netApp .ipv6IpAcquired => some true
  | _ => none

def acquiredLast (inputs : List Input) : Bool :=
  inputs.foldl (fun last input => match input with
    | .task _ => last
    | .event event => (verdict event).getD last) false

@[simp] theorem acquired_last_task (inputs : List Input) (connectResult : Int) :
    acquiredLast (inputs ++ [.task connectResult]) = acquiredLast inputs := by simp [acquiredLast]

@[simp] theorem acquired_last_event (inputs : List Input) (event : Event) :
    acquiredLast (inputs ++ [.event event]) = (verdict event).getD (acquiredLast inputs) := by simp [acquiredLast]

-- What one wake-up makes of its bits: the acquired bits are handled last.
def outcome (notified : Bits) (rest : Bool) : Bool :=
  has notified acquiredMask || (!has notified disconnectedMask && rest)

def underway (service : Service) : Bool :=
  match service.stage with
  | .announceOff notified => outcome notified (online service.calls)
  | .suspend notified => has notified acquiredMask
  | .writeConnecting notified | .postConnecting notified | .connect notified | .resume notified =>
      has notified acquiredMask || online service.calls
  | .announceOn => mediatorResumed service.calls
  | _ => online service.calls

-- Where the service will come to rest if no further event is delivered.
def forecast (service : Service) : Bool := outcome service.notification.value (underway service)

@[simp] theorem outcome_zero (rest : Bool) : outcome 0#32 rest = rest := by simp [outcome]

theorem outcome_or (first second : Bits) (rest : Bool) :
    outcome (first ||| second) rest = (has second acquiredMask || (outcome first (!has second disconnectedMask && rest))) := by
  simp only [outcome, has_or]
  cases has first acquiredMask <;> cases has second acquiredMask <;> cases has first disconnectedMask <;> simp

theorem connecting_neutral (notified : Bits) (rest : Bool) :
    outcome (notified ||| (connectingMask ||| wifiPendingState)) rest = outcome notified rest := by
  have acquired : has (connectingMask ||| wifiPendingState) acquiredMask = false := by decide
  have disconnected : has (connectingMask ||| wifiPendingState) disconnectedMask = false := by decide
  simp only [outcome_or, acquired, disconnected, Bool.false_or, Bool.not_false, Bool.true_and]

@[simp] theorem online_off (calls : List Call) : online (calls ++ [.suspendNetworkMediator]) = false := by simp [online]

@[simp] theorem online_on (calls : List Call) :
    online (calls ++ [.misoNotifyEvent .connectivityOn]) = mediatorResumed calls := by simp [online]

@[simp] theorem online_connect (calls : List Call) : online (calls ++ [.wlanConnect]) = online calls := by simp [online]

@[simp] theorem online_stop (calls : List Call) : online (calls ++ [.slStop]) = online calls := by simp [online]

theorem forecast_task (service : Service) (clean : Clean service) : forecast (wifiTask service 0) = forecast service := by
  cases stage : service.stage with
  | wait =>
      simp only [wifiTask, stage, wait_clean service clean]
      cases pending : service.notification.received with
      | true => simp [forecast, underway, stage, Notification.idle]
      | false => simp [forecast, underway, stage, Notification.idle, clean pending]
  | launch | postConnecting notified =>
      simp only [wifiTask, stage, forecast, Service.xTaskNotify, Base.set_bits_value, connecting_neutral, underway]
  | announceOff notified =>
      cases lost : has notified disconnectedMask <;>
        simp [wifiTask, stage, forecast, underway, Service.call, lost, outcome]
  | connect notified =>
      cases asked : has notified connectingMask <;> simp [wifiTask, stage, forecast, underway, Service.call, asked]
  | resume notified =>
      cases acquired : has notified acquiredMask <;>
        simp [wifiTask, stage, forecast, underway, Service.call, acquired]
  | _ => simp [wifiTask, stage, forecast, underway, Service.call, Service.connection]

theorem forecast_drained (service : Service) (clean : Clean service) (drained : Drained service) :
    forecast service = online service.calls := by
  obtain ⟨stage, idle⟩ := drained
  simp [forecast, underway, stage, clean idle]

-- A delivery is ordered when the bits it posts cannot be handled out of order:
-- no loss is reported while an address waits to be handled, and an event that
-- only repeats the stored status does not repeat an outdated one.
def Ordered (service : Service) (acquired : Bool) : Event → Prop
  | .wlan none => True
  | .wlan (some .connect) => True
  | .wlan (some .disconnect) | .wlan (some .connectionFailed) => has service.notification.value acquiredMask = false
  | .wlan (some _) =>
      service.status.connection = .disconnected → has service.notification.value acquiredMask ∨ acquired = false
  | .netApp .ipv4IpAcquired | .netApp .ipv6IpAcquired | .netApp .ipReleased => True
  | .netApp _ => has service.status.ip.bits acquiredMask → acquired = true

theorem forecast_wlan (service : Service) (event : SlWlanEvent) :
    forecast (cc3100WlanEvtHdlr service (some event)) =
      outcome service.notification.value
        (connectionAfter service.status.connection event ≠ .disconnected && underway service) := by
  obtain ⟨loss, address⟩ := connection_posts_loss (connectionAfter service.status.connection event)
  have same : underway (cc3100WlanEvtHdlr service (some event)) = underway service := rfl
  rw [forecast, same]
  simp [cc3100WlanEvtHdlr, Service.xTaskNotify, outcome_or, loss, address]

theorem forecast_net_app (service : Service) (event : SlNetAppEvent) :
    forecast (cc3100NetAppEvtHdlr service event) =
      (has (ipAfter service.status.ip event).bits acquiredMask || forecast service) := by
  obtain ⟨loss, address⟩ := ip_posts_address (ipAfter service.status.ip event)
  have same : underway (cc3100NetAppEvtHdlr service event) = underway service := rfl
  rw [forecast, same]
  simp [cc3100NetAppEvtHdlr, Service.xTaskNotify, outcome_or, loss, address, forecast]

theorem ordered_wlan_iff (service : Service) (acquired : Bool) (event : SlWlanEvent) (agrees : forecast service = acquired) :
    forecast (cc3100WlanEvtHdlr service (some event)) = (verdict (.wlan (some event))).getD acquired ↔
      Ordered service acquired (.wlan (some event)) := by
  subst agrees
  rw [forecast_wlan]
  cases event with
  | connect => simp [connectionAfter, verdict, Ordered, forecast]
  | disconnect | connectionFailed => simp [connectionAfter, verdict, Ordered, outcome]
  | _ =>
      simp only [connectionAfter, verdict, Ordered, forecast, Option.getD_none]
      by_cases lost : service.status.connection = .disconnected
      · cases address : has service.notification.value acquiredMask <;> simp [outcome, lost, address]
      · simp [lost]

theorem ordered_net_app_iff (service : Service) (acquired : Bool) (event : SlNetAppEvent)
    (agrees : forecast service = acquired) :
    forecast (cc3100NetAppEvtHdlr service event) = (verdict (.netApp event)).getD acquired ↔
      Ordered service acquired (.netApp event) := by
  subst agrees
  rw [forecast_net_app]
  have given : has WifiIpAcquiredState.v4Acquired.bits acquiredMask = true := by decide
  have given6 : has WifiIpAcquiredState.v6Acquired.bits acquiredMask = true := by decide
  have released : has WifiIpAcquiredState.released.bits acquiredMask = false := by decide
  cases event with
  | ipv4IpAcquired => simp [ipAfter, verdict, Ordered, given]
  | ipv6IpAcquired => simp [ipAfter, verdict, Ordered, given6]
  | ipReleased => simp [ipAfter, verdict, Ordered, released]
  | _ => simp [ipAfter, verdict, Ordered]

theorem ordered_iff (service : Service) (acquired : Bool) (event : Event) (agrees : forecast service = acquired) :
    forecast (deliver service event) = (verdict event).getD acquired ↔ Ordered service acquired event := by
  match event with
  | .wlan none => simpa [deliver, cc3100WlanEvtHdlr, verdict, Ordered] using agrees
  | .wlan (some event) => exact ordered_wlan_iff service acquired event agrees
  | .netApp event => exact ordered_net_app_iff service acquired event agrees

-- The service follows the events: left to itself it drains, and where it is
-- drained the network is up exactly when the last event was an acquisition.
def FollowsEvents (inputs : List Input) : Prop :=
  (∃ count, Drained (runInputs (inputs ++ List.replicate count (.task 0)))) ∧
    ∀ count, Drained (runInputs (inputs ++ List.replicate count (.task 0))) →
      ((mediatorResumed (runInputs (inputs ++ List.replicate count (.task 0))).calls = true ∧
        lastAnnounced (runInputs (inputs ++ List.replicate count (.task 0))).calls = some .connectivityOn) ↔
          acquiredLast inputs = true)

theorem follows_events_iff (inputs : List Input) :
    FollowsEvents inputs ↔ forecast (runInputs inputs) = acquiredLast inputs := by
  rw [← rests_iff forecast forecast_task (fun service => online service.calls) forecast_drained inputs (acquiredLast inputs)]
  refine and_congr_right fun _ => forall_congr' fun count => forall_congr' fun _ => ?_
  refine Iff.trans ?_ Bool.eq_iff_iff.symm
  simp [online]

def DeliversOrdered (inputs : List Input) : Prop :=
  ∀ seen event, seen ++ [.event event] <+: inputs → Ordered (runInputs seen) (acquiredLast seen) event

theorem delivers_ordered_append_iff (inputs : List Input) (input : Input) :
    DeliversOrdered (inputs ++ [input]) ↔
      DeliversOrdered inputs ∧ ∀ event, input = .event event → Ordered (runInputs inputs) (acquiredLast inputs) event :=
  delivers_all_append_iff (fun seen event => Ordered (runInputs seen) (acquiredLast seen) event) inputs input

theorem connectivity_follows_events (inputs : List Input) (connects : ∀ result, .task result ∈ inputs → result = 0) :
    (∀ seen, seen <+: inputs → FollowsEvents seen) ↔ DeliversOrdered inputs := by
  have deliver_iff (seen : List Input) (event : Event) (agrees : forecast (runInputs seen) = acquiredLast seen) :
      forecast (deliver (runInputs seen) event) = acquiredLast (seen ++ [.event event]) ↔
        Ordered (runInputs seen) (acquiredLast seen) event := by
    rw [acquired_last_event]
    exact ordered_iff _ _ event agrees
  simp only [follows_events_iff]
  exact run_agrees_iff forecast forecast_task acquiredLast _ acquired_last_task (by decide) deliver_iff inputs connects

def reconnecting : List Input :=
  [.event (.wlan (some .connectionFailed)), .event (.wlan (some .connect)), .event (.netApp .ipv4IpAcquired)]

theorem reconnecting_ordered : DeliversOrdered reconnecting := by
  apply (delivers_ordered_append_iff [.event (.wlan (some .connectionFailed)), .event (.wlan (some .connect))] _).mpr
  refine ⟨?_, fun event same => by cases same; trivial⟩
  apply (delivers_ordered_append_iff [.event (.wlan (some .connectionFailed))] _).mpr
  refine ⟨?_, fun event same => by cases same; trivial⟩
  apply (delivers_ordered_append_iff [] _).mpr
  exact ⟨fun seen event before => by simp at before, fun event same => by cases same; rfl⟩

theorem connectivity_follows_events_reconnecting : FollowsEvents reconnecting :=
  (connectivity_follows_events reconnecting (by simp [reconnecting])).mpr reconnecting_ordered reconnecting List.prefix_rfl

-- The task is at its wait. The address is acquired and the connection lost
-- before it looks: the loss is handled first and the network announced as up.
theorem loss_handled_first :
    let inputs := List.replicate 12 (Input.task 0) ++
      [.event (.wlan (some .connect)), .event (.netApp .ipv4IpAcquired), .event (.wlan (some .disconnect))]
    let service := runInputs (inputs ++ List.replicate 16 (.task 0))
    Drained (runInputs (List.replicate 12 (.task 0))) ∧ Drained service ∧ mediatorResumed service.calls = true ∧
      lastAnnounced service.calls = some .connectivityOn ∧ acquiredLast inputs = false := by decide

end Miso.Wifi
