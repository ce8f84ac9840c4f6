import Miso.WifiDrain

set_option autoImplicit false

namespace Miso.Wifi

open Base (has has_or Notification)

def linkVerdict : Event → Option Bool
  | .wlan (some .connect) => some true
  | .wlan (some .disconnect) | .wlan (some .connectionFailed) => some false
  | _ => none

def connectedLast (inputs : List Input) : Bool :=
  inputs.foldl (fun last input => match input with
    | .task _ => last
    | .event event => (linkVerdict event).getD last) false

theorem connected_last_task (inputs : List Input) (connectResult : Int) :
    connectedLast (inputs ++ [.task connectResult]) = connectedLast inputs := by simp [connectedLast]

theorem connected_last_event (inputs : List Input) (event : Event) :
    connectedLast (inputs ++ [.event event]) = (linkVerdict event).getD (connectedLast inputs) := by simp [connectedLast]

-- The task has yet to write the connection: on its way to the loop, or because
-- of a loss that it has not handled to the end.
def Stage.overwrites : Stage → Bool
  | .restart | .setup | .suspend _ | .writeConnecting _ | .stop => true
  | .announceOff notified => has notified disconnectedMask
  | .launch | .wait | .postConnecting _ | .connect _ | .resume _ | .announceOn => false

def overwrites (service : Service) : Bool := has service.notification.value disconnectedMask || service.stage.overwrites

def willConnect (service : Service) : Bool := service.status.isConnected && !overwrites service

theorem posted_quiet (value bits : Bits) (quiet : has bits disconnectedMask = false) :
    has (value ||| bits) disconnectedMask = has value disconnectedMask := by rw [has_or, quiet, Bool.or_false]

theorem will_connect_task (service : Service) (clean : Clean service) :
    willConnect (wifiTask service 0) = willConnect service := by
  have quiet : has (connectingMask ||| wifiPendingState) disconnectedMask = false := by decide
  cases stage : service.stage with
  | wait =>
      simp only [wifiTask, stage, wait_clean service clean]
      cases pending : service.notification.received with
      | true => simp [willConnect, overwrites, Stage.overwrites, stage, Notification.idle]
      | false => simp [willConnect, overwrites, Stage.overwrites, stage, Notification.idle, clean pending]
  | launch | postConnecting notified =>
      simp only [wifiTask, stage, willConnect, overwrites, Stage.overwrites, Service.xTaskNotify,
        Base.set_bits_value, posted_quiet _ _ quiet]
  | announceOff notified =>
      cases lost : has notified disconnectedMask <;> simp [wifiTask, stage, willConnect, overwrites, Stage.overwrites, Service.call, lost]
  | connect notified =>
      cases asked : has notified connectingMask <;> simp [wifiTask, stage, willConnect, overwrites, Stage.overwrites, Service.call, asked]
  | resume notified =>
      cases acquired : has notified acquiredMask <;>
        simp [wifiTask, stage, willConnect, overwrites, Stage.overwrites, Service.call, acquired]
  | restart | setup | writeConnecting notified =>
      simp [wifiTask, stage, willConnect, overwrites, Stage.overwrites, Service.connection, WifiStatus.isConnected]
  | suspend notified | announceOn | stop => simp [wifiTask, stage, willConnect, overwrites, Stage.overwrites, Service.call]

theorem will_connect_drained (service : Service) (clean : Clean service) (drained : Drained service) :
    willConnect service = service.status.isConnected := by
  obtain ⟨stage, idle⟩ := drained
  simp [willConnect, overwrites, Stage.overwrites, stage, clean idle]

theorem overwrites_posted (service : Service) (status : WifiStatus) (bits : Bits)
    (quiet : has (bits ||| wifiPendingState) disconnectedMask = false) :
    overwrites ({ service with status := status }.xTaskNotify bits) = overwrites service := by
  rw [overwrites, overwrites]
  rw [Service.xTaskNotify, Base.set_bits_value, posted_quiet _ _ quiet]

-- Only a stored loss is posted as one, and then the service is not connected.
theorem will_connect_wlan (service : Service) (event : SlWlanEvent) :
    willConnect (cc3100WlanEvtHdlr service (some event)) =
      (connectionAfter service.status.connection event = .connected && !overwrites service) := by
  have loss := (connection_posts_loss (connectionAfter service.status.connection event)).1
  cases stored : connectionAfter service.status.connection event with
  | disconnected => simp [cc3100WlanEvtHdlr, willConnect, Service.xTaskNotify, WifiStatus.isConnected, stored]
  | initial | connecting | connected =>
      rw [stored] at loss
      simp only [cc3100WlanEvtHdlr, willConnect, stored]
      rw [overwrites_posted service _ _ (by simpa using loss)]
      rfl

theorem will_connect_net_app (service : Service) (event : SlNetAppEvent) :
    willConnect (cc3100NetAppEvtHdlr service event) = willConnect service := by
  simp only [cc3100NetAppEvtHdlr, willConnect]
  rw [overwrites_posted service _ _ (ip_posts_address _).1]
  rfl

def Unwritten (service : Service) (event : Event) : Prop := event = .wlan (some .connect) → overwrites service = false

theorem unwritten_iff (service : Service) (connected : Bool) (event : Event) (agrees : willConnect service = connected) :
    willConnect (deliver service event) = (linkVerdict event).getD connected ↔ Unwritten service event := by
  subst agrees
  match event with
  | .wlan none => simp [deliver, cc3100WlanEvtHdlr, linkVerdict, Unwritten]
  | .netApp event => simp [deliver, will_connect_net_app, linkVerdict, Unwritten]
  | .wlan (some event) =>
      simp only [deliver, will_connect_wlan]
      cases event with
      | connect => simp [connectionAfter, linkVerdict, Unwritten]
      | disconnect | connectionFailed => simp [connectionAfter, linkVerdict, Unwritten]
      | _ =>
          refine iff_of_true ?_ (fun same => by cases same)
          rfl

-- Left to itself the service drains, and where it is drained it shows the last
-- of the link events.
def FollowsLink (inputs : List Input) : Prop :=
  (∃ count, Drained (runInputs (inputs ++ List.replicate count (.task 0)))) ∧
    ∀ count, Drained (runInputs (inputs ++ List.replicate count (.task 0))) →
      (runInputs (inputs ++ List.replicate count (.task 0))).status.isConnected = connectedLast inputs

theorem connection_follows_link (inputs : List Input) (connects : ∀ result, .task result ∈ inputs → result = 0) :
    (∀ seen, seen <+: inputs → FollowsLink seen) ↔ DeliversAll (fun seen event => Unwritten (runInputs seen) event) inputs := by
  have follows_iff (seen : List Input) : FollowsLink seen ↔ willConnect (runInputs seen) = connectedLast seen :=
    rests_iff willConnect will_connect_task (fun service => service.status.isConnected) will_connect_drained seen
      (connectedLast seen)
  have deliver_iff (seen : List Input) (event : Event) (agrees : willConnect (runInputs seen) = connectedLast seen) :
      willConnect (deliver (runInputs seen) event) = connectedLast (seen ++ [.event event]) ↔
        Unwritten (runInputs seen) event := by
    rw [connected_last_event]
    exact unwritten_iff _ _ event agrees
  simp only [follows_iff]
  exact run_agrees_iff willConnect will_connect_task connectedLast _ connected_last_task (by decide) deliver_iff inputs connects

def connecting : List Input := List.replicate 12 (.task 0) ++ [.event (.wlan (some .connect))]

theorem connecting_unwritten : DeliversAll (fun seen event => Unwritten (runInputs seen) event) connecting := by
  apply (delivers_all_append_iff (fun seen event => Unwritten (runInputs seen) event) (List.replicate 12 (.task 0)) _).mpr
  refine ⟨fun seen event before => ?_, fun event _ _ => by decide⟩
  have member : Input.event event ∈ List.replicate 12 (Input.task 0) := before.subset (by simp)
  cases List.eq_of_mem_replicate member

theorem connection_follows_link_connecting : FollowsLink connecting :=
  (connection_follows_link connecting (by simp [connecting])).mpr connecting_unwritten connecting List.prefix_rfl

-- The link comes back before the task has looked at its loss: the task writes
-- its own state over the connected one.
theorem reconnect_overwritten :
    let inputs := List.replicate 12 (Input.task 0) ++ [.event (.wlan (some .connect)), .task 0, .task 0, .task 0, .task 0,
      .event (.wlan (some .disconnect)), .event (.wlan (some .connect))]
    let service := runInputs (inputs ++ List.replicate 16 (.task 0))
    Drained service ∧ service.status.isConnected = false ∧ connectedLast inputs = true := by decide

end Miso.Wifi
