import Mathlib.Data.List.Induction
import Miso.Wifi

set_option autoImplicit false

namespace Miso.Wifi

open Base (has Notification work_settles work_keeps wait_received)

-- An idle notification holds no bits, so that waiting on it changes nothing.
def Clean (service : Service) : Prop := service.notification.received = false → service.notification.value = 0#32

theorem wait_clean (service : Service) (clean : Clean service) :
    service.notification.wait wifiPendingState (BitVec.allOnes 32) =
      (if service.notification.received then some service.notification.value else none, .idle) := by
  cases pending : service.notification.received with
  | true => exact wait_received _ _ pending
  | false => simp [Notification.wait, Notification.idle, pending, clean pending]

theorem clean_task (service : Service) (connectResult : Int) (clean : Clean service) :
    Clean (wifiTask service connectResult) := by
  cases stage : service.stage with
  | wait =>
      simp only [wifiTask, stage, wait_clean service clean]
      cases service.notification.received <;> exact fun _ => rfl
  | launch => simp [wifiTask, stage, Clean, Service.xTaskNotify]
  | postConnecting notified => simp [wifiTask, stage, Clean, Service.xTaskNotify]
  | announceOff notified | connect notified | resume notified =>
      simp only [wifiTask, stage]
      split <;> exact clean
  | _ =>
      simp only [wifiTask, stage]
      exact clean

theorem clean_deliver (service : Service) (event : Event) (clean : Clean service) : Clean (deliver service event) := by
  match event with
  | .wlan none => exact clean
  | .wlan (some event) => simp [deliver, cc3100WlanEvtHdlr, Clean, Service.xTaskNotify]
  | .netApp event => simp [deliver, cc3100NetAppEvtHdlr, Clean, Service.xTaskNotify]

theorem clean_run (inputs : List Input) : Clean (runInputs inputs) := by
  induction inputs using List.reverseRecOn with
  | nil => exact fun _ => rfl
  | append_singleton inputs input ih =>
      rw [run_inputs_append]
      cases input with
      | task connectResult => exact clean_task _ connectResult ih
      | event event => exact clean_deliver _ event ih

def pendingEffort (notification : Notification 32) : Nat :=
  if notification.received then if has notification.value disconnectedMask then 30 else 10 else 0

-- A lost connection makes the task post to itself, so it counts for two
-- wake-ups until that is done.
def stageEffort : Stage → Nat
  | .stop => 23
  | .restart => 22
  | .setup => 21
  | .launch => 20
  | .wait => 0
  | .announceOff notified => if has notified disconnectedMask then 20 else 4
  | .suspend _ => 19
  | .writeConnecting _ => 18
  | .postConnecting _ => 17
  | .connect _ => 3
  | .resume _ => 2
  | .announceOn => 1

def effort (service : Service) : Nat := stageEffort service.stage + pendingEffort service.notification

theorem post_effort (service : Service) (clean : Clean service) :
    pendingEffort (service.notification.setBits (connectingMask ||| wifiPendingState)) ≤
      pendingEffort service.notification + 10 := by
  have quiet : has (connectingMask ||| wifiPendingState) disconnectedMask = false := by decide
  cases pending : service.notification.received with
  | true => simp [pendingEffort, pending, quiet]
  | false => simp [pendingEffort, pending, quiet, clean pending]

theorem effort_task (service : Service) (clean : Clean service) (busy : ¬ Drained service) :
    effort (wifiTask service 0) < effort service := by
  have posted := post_effort service clean
  cases stage : service.stage with
  | wait =>
      have pending : service.notification.received = true := by simpa [Drained, stage] using busy
      simp only [wifiTask, stage, wait_clean service clean, pending, if_true, effort, stageEffort, pendingEffort,
        Notification.idle]
      split <;> simp
  | launch | postConnecting notified =>
      simp only [wifiTask, stage, effort, stageEffort, Service.xTaskNotify]
      omega
  | announceOff notified =>
      cases lost : has notified disconnectedMask <;>
        simp [wifiTask, stage, effort, stageEffort, Service.call, lost]
  | connect notified =>
      cases asked : has notified connectingMask <;> simp [wifiTask, stage, effort, stageEffort, Service.call, asked]
  | resume notified =>
      cases acquired : has notified acquiredMask <;>
        simp [wifiTask, stage, effort, stageEffort, Service.call, acquired]
  | _ => simp [wifiTask, stage, effort, stageEffort, Service.call, Service.connection]

theorem run_inputs_settling (inputs : List Input) (count : Nat) :
    runInputs (inputs ++ List.replicate count (.task 0)) = (wifiTask · 0)^[count] (runInputs inputs) := by
  induction count generalizing inputs with
  | zero => simp
  | succ count ih =>
      have shifted : inputs ++ List.replicate (count + 1) (Input.task 0) =
          (inputs ++ [Input.task 0]) ++ List.replicate count (Input.task 0) := by simp [List.replicate_succ]
      rw [shifted, ih, run_inputs_append]
      rfl

theorem drains (inputs : List Input) :
    ∃ count, Drained (runInputs (inputs ++ List.replicate count (.task 0))) := by
  obtain ⟨count, settled⟩ := work_settles (wifiTask · 0) Clean (fun service => clean_task service 0) Drained effort
    effort_task (runInputs inputs) (clean_run inputs)
  exact ⟨count, by rwa [run_inputs_settling]⟩

theorem connection_posts_loss (connection : WifiConnectionState) :
    has (connection.bits ||| wifiPendingState) disconnectedMask = decide (connection = .disconnected) ∧
      has (connection.bits ||| wifiPendingState) acquiredMask = false := by cases connection <;> decide

theorem ip_posts_address (ip : WifiIpAcquiredState) :
    has (ip.bits ||| wifiPendingState) disconnectedMask = false ∧
      has (ip.bits ||| wifiPendingState) acquiredMask = has ip.bits acquiredMask := by cases ip <;> decide

def DeliversAll (fine : List Input → Event → Prop) (inputs : List Input) : Prop :=
  ∀ seen event, seen ++ [.event event] <+: inputs → fine seen event

theorem delivers_all_append_iff (fine : List Input → Event → Prop) (inputs : List Input) (input : Input) :
    DeliversAll fine (inputs ++ [input]) ↔ DeliversAll fine inputs ∧ ∀ event, input = .event event → fine inputs event := by
  constructor
  · intro delivered
    constructor
    · exact fun seen event before => delivered seen event (before.trans (List.prefix_append inputs [input]))
    · rintro event rfl
      exact delivered inputs event List.prefix_rfl
  · rintro ⟨earlier, last⟩ seen event before
    rcases List.prefix_concat_iff.mp before with whole | inside
    · obtain ⟨rfl, same⟩ := List.append_inj' whole rfl
      exact last event (List.singleton_inj.mp same).symm
    · exact earlier seen event inside

section Reading

-- A reading of the service that its task never changes: what the service will
-- show at rest if no further event comes.
variable (reading : Service → Bool) (kept : ∀ service, Clean service → reading (wifiTask service 0) = reading service)

include kept

theorem rests_iff (shown : Service → Bool) (rest : ∀ service, Clean service → Drained service → reading service = shown service)
    (inputs : List Input) (value : Bool) :
    ((∃ count, Drained (runInputs (inputs ++ List.replicate count (.task 0)))) ∧
      ∀ count, Drained (runInputs (inputs ++ List.replicate count (.task 0))) →
        shown (runInputs (inputs ++ List.replicate count (.task 0))) = value) ↔ reading (runInputs inputs) = value := by
  have seen (count : Nat) (drained : Drained (runInputs (inputs ++ List.replicate count (.task 0)))) :
      shown (runInputs (inputs ++ List.replicate count (.task 0))) = reading (runInputs inputs) := by
    rw [← rest _ (clean_run _) drained, run_inputs_settling]
    exact work_keeps (wifiTask · 0) Clean (fun service => clean_task service 0) reading kept _ (clean_run inputs) count
  constructor
  · rintro ⟨⟨count, drained⟩, follows⟩
    rw [← seen count drained]
    exact follows count drained
  · intro agrees
    exact ⟨drains inputs, fun count drained => (seen count drained).trans agrees⟩

theorem run_agrees_iff (last : List Input → Bool) (fine : List Input → Event → Prop)
    (lastTask : ∀ inputs connectResult, last (inputs ++ [.task connectResult]) = last inputs)
    (base : reading boot = last [])
    (deliver_iff : ∀ inputs event, reading (runInputs inputs) = last inputs →
      (reading (deliver (runInputs inputs) event) = last (inputs ++ [.event event]) ↔ fine inputs event))
    (inputs : List Input) (connects : ∀ result, .task result ∈ inputs → result = 0) :
    (∀ seen, seen <+: inputs → reading (runInputs seen) = last seen) ↔ DeliversAll fine inputs := by
  induction inputs using List.reverseRecOn with
  | nil =>
      refine iff_of_true (fun seen empty => ?_) (fun seen event before => by simp at before)
      obtain rfl := List.prefix_nil.mp empty
      exact base
  | append_singleton inputs input ih =>
      have earlier := ih fun result member => connects result (List.mem_append_left _ member)
      rw [delivers_all_append_iff]
      constructor
      · intro agrees
        have before (seen : List Input) (inside : seen <+: inputs) := agrees seen (inside.trans (List.prefix_append _ _))
        refine ⟨earlier.mp before, ?_⟩
        rintro event rfl
        have whole := agrees _ List.prefix_rfl
        rw [run_inputs_append] at whole
        exact (deliver_iff inputs event (before inputs List.prefix_rfl)).mp whole
      · rintro ⟨fineBefore, fineLast⟩ seen before
        have agreed := earlier.mpr fineBefore
        rcases List.prefix_concat_iff.mp before with whole | inside
        · rw [whole, run_inputs_append]
          cases input with
          | task result =>
              obtain rfl : result = 0 := connects result (by simp)
              rw [lastTask, ← agreed inputs List.prefix_rfl]
              exact kept _ (clean_run inputs)
          | event event => exact (deliver_iff inputs event (agreed inputs List.prefix_rfl)).mpr (fineLast event rfl)
        · exact agreed seen inside

end Reading

end Miso.Wifi
