import Miso.WifiDrain

set_option autoImplicit false

namespace Miso.Wifi

open Base (has has_or has_zero Notification work_settles work_keeps)

def actedOn : Event → Bool
  | .wlan (some .connect) | .wlan (some .disconnect) | .wlan (some .connectionFailed) => true
  | .netApp .ipv4IpAcquired | .netApp .ipv6IpAcquired | .netApp .ipReleased => true
  | _ => false

theorem deliver_unrelated (service : Service) (event : Event) (unrelated : actedOn event = false) :
    deliver service event = match event with
      | .wlan none => service
      | .wlan (some _) => service.xTaskNotify service.status.connection.bits
      | .netApp _ => service.xTaskNotify service.status.ip.bits := by
  match event with
  | .wlan none => rfl
  | .wlan (some kind) =>
      have stored : connectionAfter service.status.connection kind = service.status.connection := by
        cases kind <;> first | rfl | cases unrelated
      simp [deliver, cc3100WlanEvtHdlr, stored]
  | .netApp kind =>
      have stored : ipAfter service.status.ip kind = service.status.ip := by
        cases kind <;> first | rfl | cases unrelated
      simp [deliver, cc3100NetAppEvtHdlr, stored]

-- The task has yet to post the connecting bit to itself before it next looks
-- at its notification.
@[simp] def Stage.posts : Stage → Bool
  | .restart | .setup | .launch | .suspend _ | .writeConnecting _ | .postConnecting _ | .stop => true
  | .announceOff notified => has notified disconnectedMask
  | .wait | .connect _ | .resume _ | .announceOn => false

@[simp] def Stage.loses : Stage → Bool
  | .announceOff notified => has notified disconnectedMask
  | _ => false

@[simp] def Stage.suspends : Stage → Bool
  | .suspend _ => true
  | stage => stage.loses

@[simp] def Stage.connects : Stage → Bool
  | .announceOff notified | .suspend notified | .writeConnecting notified | .postConnecting notified
  | .connect notified => has notified connectingMask
  | _ => false

@[simp] def Stage.resumes : Stage → Bool
  | .announceOff notified | .suspend notified | .writeConnecting notified | .postConnecting notified
  | .connect notified | .resume notified => has notified acquiredMask
  | _ => false

@[simp] def Stage.announces : Stage → Bool
  | .announceOn => true
  | stage => stage.resumes

@[simp] def Stage.stops : Stage → Bool
  | .stop => true
  | _ => false

-- The calls the task still makes if nothing more happens. A pending loss leads
-- to a connect of its own, besides one that is already pending or to be posted.
@[simp] def owed (service : Service) : Call → Nat
  | .misoNotifyEvent .connectivityOff => service.stage.loses.toNat + (has service.notification.value disconnectedMask).toNat
  | .suspendNetworkMediator => service.stage.suspends.toNat + (has service.notification.value disconnectedMask).toNat
  | .wlanConnect =>
      service.stage.connects.toNat + (has service.notification.value connectingMask || service.stage.posts).toNat +
        (has service.notification.value disconnectedMask).toNat
  | .resumeNetworkMediator => service.stage.resumes.toNat + (has service.notification.value acquiredMask).toNat
  | .misoNotifyEvent .connectivityOn => service.stage.announces.toNat + (has service.notification.value acquiredMask).toNat
  | .slStop => service.stage.stops.toNat

def due (service : Service) (call : Call) : Nat := service.calls.count call + owed service call

theorem due_call (service : Service) (made : Call) (stage : Stage) (call : Call) :
    due (service.call made stage) call =
      service.calls.count call + (if made = call then 1 else 0) + owed { service with stage := stage } call := by
  have counted : (service.calls ++ [made]).count call = service.calls.count call + (if made = call then 1 else 0) := by
    simp [List.count_singleton]
  rw [due, Service.call, counted]
  rfl

theorem due_task (service : Service) (clean : Clean service) (call : Call) :
    due (wifiTask service 0) call = due service call := by
  have loss : has (connectingMask ||| wifiPendingState) disconnectedMask = false := by decide
  have address : has (connectingMask ||| wifiPendingState) acquiredMask = false := by decide
  have connect : has (connectingMask ||| wifiPendingState) connectingMask = true := by decide
  cases stage : service.stage with
  | wait =>
      simp only [wifiTask, stage, wait_clean service clean]
      cases pending : service.notification.received with
      | true =>
          cases call with
          | misoNotifyEvent event => cases event <;> simp [due, stage, Notification.idle]
          | _ => simp [due, stage, Notification.idle]
      | false => simp [due, stage, Notification.idle, clean pending]
  | launch | postConnecting notified =>
      simp only [wifiTask, stage]
      cases call with
      | misoNotifyEvent event => cases event <;> simp [due, stage, Service.xTaskNotify, loss, address]
      | _ => simp [due, stage, Service.xTaskNotify, loss, address, connect]
  | announceOff notified =>
      simp only [wifiTask, stage]
      cases lost : has notified disconnectedMask with
      | true =>
          rw [if_pos rfl, due_call]
          cases call with
          | misoNotifyEvent event => cases event <;> simp +arith [due, stage, lost]
          | _ => simp [due, stage, lost]
      | false =>
          cases call with
          | misoNotifyEvent event => cases event <;> simp [due, stage, lost]
          | _ => simp [due, stage, lost]
  | connect notified =>
      simp only [wifiTask, stage]
      cases asked : has notified connectingMask with
      | true =>
          rw [if_pos rfl, due_call]
          cases call with
          | misoNotifyEvent event => cases event <;> simp [due, stage]
          | _ => simp +arith [due, stage, asked]
      | false =>
          cases call with
          | misoNotifyEvent event => cases event <;> simp [due, stage]
          | _ => simp [due, stage, asked]
  | resume notified =>
      simp only [wifiTask, stage]
      cases acquired : has notified acquiredMask with
      | true =>
          rw [if_pos rfl, due_call]
          cases call with
          | misoNotifyEvent event => cases event <;> simp [due, stage, acquired]
          | _ => simp +arith [due, stage, acquired]
      | false =>
          cases call with
          | misoNotifyEvent event => cases event <;> simp [due, stage, acquired]
          | _ => simp [due, stage, acquired]
  | suspend notified | announceOn | stop =>
      simp only [wifiTask, stage, due_call]
      cases call with
      | misoNotifyEvent event => cases event <;> simp +arith [due, stage]
      | _ => simp +arith [due, stage]
  | restart | setup | writeConnecting notified =>
      simp only [wifiTask, stage]
      cases call with
      | misoNotifyEvent event => cases event <;> simp [due, stage, Service.connection]
      | _ => simp [due, stage, Service.connection]

theorem due_tasks (service : Service) (clean : Clean service) (call : Call) (count : Nat) :
    due ((wifiTask · 0)^[count] service) call = due service call :=
  work_keeps (wifiTask · 0) Clean (fun state => clean_task state 0) (due · call) (fun state kept => due_task state kept call)
    service clean count

theorem due_drained (service : Service) (clean : Clean service) (drained : Drained service) (call : Call) :
    due service call = service.calls.count call := by
  obtain ⟨stage, idle⟩ := drained
  cases call with
  | misoNotifyEvent event => cases event <;> simp [due, stage, clean idle]
  | _ => simp [due, stage, clean idle]

theorem connection_posts_connect (connection : WifiConnectionState) :
    has (connection.bits ||| wifiPendingState) connectingMask = decide (connection = .connecting) := by
  cases connection <;> decide

theorem ip_posts_no_connect (ip : WifiIpAcquiredState) : has (ip.bits ||| wifiPendingState) connectingMask = false := by
  cases ip <;> decide

-- What the posted status can add to the pending notification is already there,
-- or makes no difference before the task looks at it.
def Harmless (service : Service) : Event → Prop
  | .wlan none => True
  | .wlan (some _) =>
      (service.status.connection = .disconnected → has service.notification.value disconnectedMask) ∧
        (service.status.connection = .connecting → has service.notification.value connectingMask ∨ service.stage.posts)
  | .netApp _ => has service.status.ip.bits acquiredMask → has service.notification.value acquiredMask

instance (service : Service) : (event : Event) → Decidable (Harmless service event)
  | .wlan none => isTrue trivial
  | .wlan (some _) => inferInstanceAs (Decidable (_ ∧ _))
  | .netApp _ => inferInstanceAs (Decidable (_ → _))

theorem harmless_of_due (service : Service) (event : Event) (unrelated : actedOn event = false)
    (bounded : ∀ call, due (deliver service event) call ≤ due service call) : Harmless service event := by
  rw [deliver_unrelated service event unrelated] at bounded
  match event with
  | .wlan none => trivial
  | .wlan (some _) =>
      constructor
      · intro lost
        have posted : has (WifiConnectionState.disconnected.bits ||| wifiPendingState) disconnectedMask = true := by decide
        have same := bounded (.misoNotifyEvent .connectivityOff)
        simp only [due, owed, lost, Service.xTaskNotify, Base.set_bits_value, has_or, posted, Bool.or_true] at same
        cases pending : has service.notification.value disconnectedMask with
        | true => rfl
        | false =>
            simp only [pending, Bool.toNat_true, Bool.toNat_false] at same
            omega
      · intro asked
        have posted : has (WifiConnectionState.connecting.bits ||| wifiPendingState) connectingMask = true := by decide
        have quiet : has (WifiConnectionState.connecting.bits ||| wifiPendingState) disconnectedMask = false := by decide
        have same := bounded .wlanConnect
        simp only [due, owed, asked, Service.xTaskNotify, Base.set_bits_value, has_or, posted, quiet, Bool.or_true,
          Bool.or_false, Bool.true_or] at same
        cases pending : has service.notification.value connectingMask with
        | true => exact .inl rfl
        | false =>
            cases later : service.stage.posts with
            | true => exact .inr rfl
            | false =>
                simp only [pending, later, Bool.or_self, Bool.toNat_true, Bool.toNat_false] at same
                omega
  | .netApp _ =>
      intro acquired
      have posted : has (service.status.ip.bits ||| wifiPendingState) acquiredMask = true :=
        (ip_posts_address service.status.ip).2.trans acquired
      have same := bounded .resumeNetworkMediator
      simp only [due, owed, Service.xTaskNotify, Base.set_bits_value, has_or, posted, Bool.or_true] at same
      cases pending : has service.notification.value acquiredMask with
      | true => rfl
      | false =>
          simp only [pending, Bool.toNat_true, Bool.toNat_false] at same
          omega

-- The same inputs with some steps of the task left out: every event is
-- delivered, at the same place among the others.
inductive Thinned : List Input → List Input → Prop where
  | nil : Thinned [] []
  | keep (input : Input) (inputs fewer : List Input) (rest : Thinned inputs fewer) : Thinned (input :: inputs) (input :: fewer)
  | skip (connectResult : Int) (inputs fewer : List Input) (rest : Thinned inputs fewer) :
      Thinned (.task connectResult :: inputs) fewer

theorem thinned_tasks (count : Nat) (fewer : List Input) (thinned : Thinned (List.replicate count (.task 0)) fewer) :
    ∃ kept, fewer = List.replicate kept (.task 0) := by
  induction count generalizing fewer with
  | zero =>
      cases thinned
      exact ⟨0, rfl⟩
  | succ count ih =>
      rw [List.replicate_succ] at thinned
      cases thinned with
      | keep _ _ fewer rest =>
          obtain ⟨kept, rfl⟩ := ih fewer rest
          exact ⟨kept + 1, rfl⟩
      | skip _ _ _ rest => exact ih fewer rest

-- Whatever follows the event, the calls are those of a run without it, in which
-- the task looks at its notification later at most.
def NoEffect (service : Service) (event : Event) : Prop :=
  ∀ later, ∃ fewer, Thinned later fewer ∧
    (later.foldl Service.step (deliver service event)).calls = (fewer.foldl Service.step service).calls

theorem steps_tasks (service : Service) (count : Nat) :
    (List.replicate count (.task 0)).foldl Service.step service = (wifiTask · 0)^[count] service := by
  induction count generalizing service with
  | zero => rfl
  | succ count ih => exact ih (wifiTask service 0)

theorem no_effect_due (service : Service) (event : Event) (clean : Clean service) (free : NoEffect service event)
    (call : Call) : due (deliver service event) call ≤ due service call := by
  have cleanAfter := clean_deliver service event clean
  obtain ⟨count, drained⟩ := work_settles (wifiTask · 0) Clean (fun state => clean_task state 0) Drained effort effort_task
    (deliver service event) cleanAfter
  obtain ⟨fewer, thinned, same⟩ := free (List.replicate count (.task 0))
  obtain ⟨kept, rfl⟩ := thinned_tasks count fewer thinned
  rw [steps_tasks, steps_tasks] at same
  have settled : Clean ((wifiTask · 0)^[count] (deliver service event)) :=
    Function.Iterate.rec Clean cleanAfter (fun state kept => clean_task state 0 kept) count
  calc due (deliver service event) call
      = due ((wifiTask · 0)^[count] (deliver service event)) call := (due_tasks _ cleanAfter call count).symm
    _ = ((wifiTask · 0)^[count] (deliver service event)).calls.count call := due_drained _ settled drained call
    _ = ((wifiTask · 0)^[kept] service).calls.count call := by rw [same]
    _ ≤ due ((wifiTask · 0)^[kept] service) call := Nat.le_add_right _ _
    _ = due service call := due_tasks service clean call kept

section Simulation

-- What the task reads off the bits it was notified with.
def Alike (left right : Bits) : Prop :=
  has left disconnectedMask = has right disconnectedMask ∧ has left connectingMask = has right connectingMask ∧
    has left acquiredMask = has right acquiredMask

def Stage.notified : Stage → Bits
  | .announceOff notified | .suspend notified | .writeConnecting notified | .postConnecting notified
  | .connect notified | .resume notified => notified
  | _ => 0

def Stage.carry (bits : Bits) : Stage → Stage
  | .announceOff _ => .announceOff bits
  | .suspend _ => .suspend bits
  | .writeConnecting _ => .writeConnecting bits
  | .postConnecting _ => .postConnecting bits
  | .connect _ => .connect bits
  | .resume _ => .resume bits
  | stage => stage

-- The task handles bits that ask nothing of it any more.
def Stage.idles : Stage → Bool
  | .announceOff notified => !has notified disconnectedMask && !has notified connectingMask && !has notified acquiredMask
  | .connect notified => !has notified connectingMask && !has notified acquiredMask
  | .resume notified => !has notified acquiredMask
  | _ => false

-- The service that had the event beside the one that had not: the first may be
-- handling a notification the second has not, which asks nothing of it.
structure Follows (ahead behind : Service) : Prop where
  status : behind.status = ahead.status
  calls : behind.calls = ahead.calls
  clean : Clean ahead
  cleanBehind : Clean behind
  losses : has ahead.notification.value disconnectedMask = has behind.notification.value disconnectedMask
  connects : ahead.stage.posts = false →
    has ahead.notification.value connectingMask = has behind.notification.value connectingMask
  addresses : has ahead.notification.value acquiredMask = has behind.notification.value acquiredMask
  stages : (∃ bits, behind.stage = ahead.stage.carry bits ∧ Alike ahead.stage.notified bits) ∨
    (ahead.stage.idles ∧ behind.stage = .wait)

theorem follows_idle (ahead behind : Service) (follows : Follows ahead behind) (idles : ahead.stage.idles)
    (waits : behind.stage = .wait) (connectResult : Int) : Follows (wifiTask ahead connectResult) behind := by
  have clean := clean_task ahead connectResult follows.clean
  have aligned := follows.connects
  cases stage : ahead.stage with
  | announceOff notified =>
      simp only [stage, Stage.idles, Bool.and_eq_true, Bool.not_eq_true'] at idles
      simp only [wifiTask, stage, idles.1.1, Bool.false_eq_true, if_false] at clean ⊢
      exact ⟨follows.status, follows.calls, clean, follows.cleanBehind, follows.losses,
        fun _ => aligned (by simp [stage, idles.1.1]), follows.addresses, .inr ⟨by simp [Stage.idles, idles], waits⟩⟩
  | connect notified =>
      simp only [stage, Stage.idles, Bool.and_eq_true, Bool.not_eq_true'] at idles
      simp only [wifiTask, stage, idles.1, Bool.false_eq_true, if_false] at clean ⊢
      exact ⟨follows.status, follows.calls, clean, follows.cleanBehind, follows.losses,
        fun _ => aligned (by simp [stage]), follows.addresses, .inr ⟨by simp [Stage.idles, idles], waits⟩⟩
  | resume notified =>
      simp only [stage, Stage.idles, Bool.not_eq_true'] at idles
      simp only [wifiTask, stage, idles, Bool.false_eq_true, if_false] at clean ⊢
      exact ⟨follows.status, follows.calls, clean, follows.cleanBehind, follows.losses,
        fun _ => aligned (by simp [stage]), follows.addresses, .inl ⟨0, waits, rfl, rfl, rfl⟩⟩
  | _ => simp [stage, Stage.idles] at idles

theorem follows_wait (ahead behind : Service) (follows : Follows ahead behind) (stage : ahead.stage = .wait)
    (waits : behind.stage = .wait) (connectResult : Int) :
    Follows (wifiTask ahead connectResult) behind ∨ Follows (wifiTask ahead connectResult) (wifiTask behind connectResult) := by
  obtain ⟨status, calls, clean, cleanBehind, losses, connects, addresses, _⟩ := follows
  have asked := connects (by rw [stage]; rfl)
  simp only [wifiTask, stage, waits, wait_clean ahead clean, wait_clean behind cleanBehind]
  cases pending : ahead.notification.received with
  | false =>
      have empty := clean pending
      rw [empty] at losses asked addresses
      exact .inl ⟨status, calls, fun _ => rfl, cleanBehind, losses, fun _ => asked, addresses, .inl ⟨0, waits, rfl, rfl, rfl⟩⟩
  | true =>
      cases idles : (Stage.announceOff ahead.notification.value).idles with
      | true =>
          have quiet := idles
          simp only [Stage.idles, Bool.and_eq_true, Bool.not_eq_true'] at quiet
          obtain ⟨⟨quietLosses, quietConnects⟩, quietAddresses⟩ := quiet
          refine .inl ⟨status, calls, fun _ => rfl, cleanBehind, ?_, fun _ => ?_, ?_, .inr ⟨idles, waits⟩⟩
          · simp [Notification.idle, ← losses, quietLosses]
          · simp [Notification.idle, ← asked, quietConnects]
          · simp [Notification.idle, ← addresses, quietAddresses]
      | false =>
          -- A bit that is pending on one side is pending on the other.
          have pendingBehind : behind.notification.received = true := by
            cases missing : behind.notification.received with
            | true => rfl
            | false =>
                have empty := cleanBehind missing
                rw [empty] at losses asked addresses
                simp [Stage.idles, losses, asked, addresses] at idles
          rw [pendingBehind]
          exact .inr ⟨status, calls, fun _ => rfl, fun _ => rfl, rfl, fun _ => rfl, rfl,
            .inl ⟨behind.notification.value, rfl, losses, asked, addresses⟩⟩

theorem follows_posted (ahead behind : Service) (follows : Follows ahead behind) (bits : Bits) (stage : Stage)
    (seen : Bits) (alike : Alike stage.notified seen)
    (asks : has (bits ||| wifiPendingState) connectingMask = true) :
    Follows { ahead.xTaskNotify bits with stage := stage } { behind.xTaskNotify bits with stage := stage.carry seen } := by
  obtain ⟨status, calls, _, _, losses, _, addresses, _⟩ := follows
  refine ⟨status, calls, (by simp [Clean, Service.xTaskNotify]), (by simp [Clean, Service.xTaskNotify]), ?_, fun _ => ?_, ?_,
    .inl ⟨seen, rfl, alike⟩⟩
  · simp only [Service.xTaskNotify, Base.set_bits_value, has_or, losses]
  · simp only [Service.xTaskNotify, Base.set_bits_value, has_or, asks, Bool.or_true]
  · simp only [Service.xTaskNotify, Base.set_bits_value, has_or, addresses]

theorem follows_stage (ahead behind : Service) (follows : Follows ahead behind) (stage : Stage) (status : WifiStatus)
    (calls : List Call) (posts : stage.posts = false → ahead.stage.posts = false) (seen : Bits)
    (alike : Alike stage.notified seen) :
    Follows { ahead with status := status, calls := calls, stage := stage }
      { behind with status := status, calls := calls, stage := stage.carry seen } :=
  ⟨rfl, rfl, follows.clean, follows.cleanBehind, follows.losses, fun waits => follows.connects (posts waits),
    follows.addresses, .inl ⟨seen, rfl, alike⟩⟩

theorem follows_task (ahead behind : Service) (follows : Follows ahead behind) (connectResult : Int) :
    Follows (wifiTask ahead connectResult) behind ∨ Follows (wifiTask ahead connectResult) (wifiTask behind connectResult) := by
  rcases follows.stages with ⟨seen, carried, alike⟩ | ⟨idles, waits⟩
  · obtain ⟨status, left, _, calls⟩ := behind
    obtain rfl : status = ahead.status := follows.status
    obtain rfl : calls = ahead.calls := follows.calls
    obtain rfl := carried
    have asks : has (connectingMask ||| wifiPendingState) connectingMask = true := by decide
    have blank : Alike 0 0 := ⟨rfl, rfl, rfl⟩
    cases stage : ahead.stage with
    | wait => exact stage ▸ follows_wait ahead _ follows stage (by rw [stage]; rfl) connectResult
    | restart | setup | writeConnecting notified | suspend notified | announceOn | stop =>
        rw [stage] at follows alike
        simp only [wifiTask, stage, Stage.carry, Service.connection, Service.call]
        exact .inr (follows_stage ahead _ follows _ _ _ (by simp [stage]) seen alike)
    | launch =>
        rw [stage] at follows alike
        simp only [wifiTask, stage, Stage.carry]
        exact .inr (follows_posted ahead _ follows connectingMask .wait seen alike asks)
    | postConnecting notified =>
        rw [stage] at follows alike
        simp only [wifiTask, stage, Stage.carry]
        exact .inr (follows_posted ahead _ follows connectingMask (.connect notified) seen alike asks)
    | announceOff notified =>
        rw [stage] at follows alike
        have same : has seen disconnectedMask = has notified disconnectedMask := alike.1.symm
        simp only [wifiTask, stage, Stage.carry, Service.call, same]
        cases lost : has notified disconnectedMask with
        | true => exact .inr (follows_stage ahead _ follows (.suspend notified) _ _ (by simp) seen alike)
        | false => exact .inr (follows_stage ahead _ follows (.connect notified) _ _ (by simp [stage, lost]) seen alike)
    | connect notified =>
        rw [stage] at follows alike
        have same : has seen connectingMask = has notified connectingMask := alike.2.1.symm
        simp only [wifiTask, stage, Stage.carry, Service.call, same]
        cases asked : has notified connectingMask with
        | false => exact .inr (follows_stage ahead _ follows (.resume notified) _ _ (by simp [stage]) seen alike)
        | true =>
            by_cases failed : connectResult ≠ 0
            · simp only [if_true, if_pos failed]
              exact .inr (follows_stage ahead _ follows .stop _ _ (by simp) 0 blank)
            · simp only [if_true, if_neg failed]
              exact .inr (follows_stage ahead _ follows (.resume notified) _ _ (by simp [stage]) seen alike)
    | resume notified =>
        rw [stage] at follows alike
        have same : has seen acquiredMask = has notified acquiredMask := alike.2.2.symm
        simp only [wifiTask, stage, Stage.carry, Service.call, same]
        cases acquired : has notified acquiredMask with
        | true => exact .inr (follows_stage ahead _ follows .announceOn _ _ (by simp [stage]) 0 blank)
        | false => exact .inr (follows_stage ahead _ follows .wait _ _ (by simp [stage]) 0 blank)
  · exact .inl (follows_idle ahead behind follows idles waits connectResult)

theorem follows_deliver (ahead behind : Service) (follows : Follows ahead behind) (event : Event) :
    Follows (deliver ahead event) (deliver behind event) := by
  obtain ⟨status, calls, clean, cleanBehind, losses, connects, addresses, stages⟩ := follows
  have cleanAfter := clean_deliver ahead event clean
  have cleanAfterBehind := clean_deliver behind event cleanBehind
  match event with
  | .wlan none => exact ⟨status, calls, clean, cleanBehind, losses, connects, addresses, stages⟩
  | .wlan (some event) =>
      simp only [deliver, cc3100WlanEvtHdlr, status] at cleanAfter cleanAfterBehind ⊢
      refine ⟨rfl, calls, cleanAfter, cleanAfterBehind, ?_, fun waits => ?_, ?_, stages⟩
      · simp only [Service.xTaskNotify, Base.set_bits_value, has_or, losses]
      · simp only [Service.xTaskNotify, Base.set_bits_value, has_or, connects waits]
      · simp only [Service.xTaskNotify, Base.set_bits_value, has_or, addresses]
  | .netApp event =>
      simp only [deliver, cc3100NetAppEvtHdlr, status] at cleanAfter cleanAfterBehind ⊢
      refine ⟨rfl, calls, cleanAfter, cleanAfterBehind, ?_, fun waits => ?_, ?_, stages⟩
      · simp only [Service.xTaskNotify, Base.set_bits_value, has_or, losses]
      · simp only [Service.xTaskNotify, Base.set_bits_value, has_or, connects waits]
      · simp only [Service.xTaskNotify, Base.set_bits_value, has_or, addresses]

theorem follows_run (later : List Input) (ahead behind : Service) (follows : Follows ahead behind) :
    ∃ fewer, Thinned later fewer ∧ Follows (later.foldl Service.step ahead) (fewer.foldl Service.step behind) := by
  induction later generalizing ahead behind with
  | nil => exact ⟨[], .nil, follows⟩
  | cons input later ih =>
      cases input with
      | event event =>
          obtain ⟨fewer, thinned, reached⟩ := ih _ _ (follows_deliver ahead behind follows event)
          exact ⟨.event event :: fewer, .keep _ _ _ thinned, reached⟩
      | task connectResult =>
          rcases follows_task ahead behind follows connectResult with lags | together
          · obtain ⟨fewer, thinned, reached⟩ := ih _ _ lags
            exact ⟨fewer, .skip _ _ _ thinned, reached⟩
          · obtain ⟨fewer, thinned, reached⟩ := ih _ _ together
            exact ⟨.task connectResult :: fewer, .keep _ _ _ thinned, reached⟩

theorem follows_refl (service : Service) (clean : Clean service) : Follows service service := by
  refine ⟨rfl, rfl, clean, clean, rfl, fun _ => rfl, rfl, .inl ⟨service.stage.notified, ?_, rfl, rfl, rfl⟩⟩
  cases service.stage <;> rfl

theorem harmless_posted (service : Service) (clean : Clean service) (bits : Bits)
    (losses : has (bits ||| wifiPendingState) disconnectedMask → has service.notification.value disconnectedMask)
    (connects : has (bits ||| wifiPendingState) connectingMask →
      has service.notification.value connectingMask ∨ service.stage.posts)
    (addresses : has (bits ||| wifiPendingState) acquiredMask → has service.notification.value acquiredMask) :
    Follows (service.xTaskNotify bits) service := by
  refine ⟨rfl, rfl, (by simp [Clean, Service.xTaskNotify]), clean, ?_, fun waits => ?_, ?_, (follows_refl service clean).stages⟩
  · simp only [Service.xTaskNotify, Base.set_bits_value, has_or _ (bits ||| wifiPendingState), Bool.or_eq_left_iff_imp]
    exact losses
  · simp only [Service.xTaskNotify, Base.set_bits_value, has_or _ (bits ||| wifiPendingState), Bool.or_eq_left_iff_imp]
    intro posted
    exact (connects posted).resolve_right (by rw [show service.stage.posts = false from waits]; simp)
  · simp only [Service.xTaskNotify, Base.set_bits_value, has_or _ (bits ||| wifiPendingState), Bool.or_eq_left_iff_imp]
    exact addresses

theorem harmless_follows (service : Service) (event : Event) (unrelated : actedOn event = false) (clean : Clean service)
    (harmless : Harmless service event) : Follows (deliver service event) service := by
  rw [deliver_unrelated service event unrelated]
  match event with
  | .wlan none => exact follows_refl service clean
  | .wlan (some _) =>
      obtain ⟨losses, connects⟩ := harmless
      refine harmless_posted service clean _ ?_ ?_ ?_
      · rw [(connection_posts_loss service.status.connection).1]
        exact fun lost => losses (of_decide_eq_true lost)
      · rw [connection_posts_connect]
        exact fun asked => connects (of_decide_eq_true asked)
      · rw [(connection_posts_loss service.status.connection).2]
        exact fun none => by cases none
  | .netApp _ =>
      refine harmless_posted service clean _ ?_ ?_ ?_
      · rw [(ip_posts_address service.status.ip).1]
        exact fun none => by cases none
      · rw [ip_posts_no_connect]
        exact fun none => by cases none
      · rw [(ip_posts_address service.status.ip).2]
        exact harmless

end Simulation

theorem unrelated_event_ignored (inputs : List Input) (event : Event) (unrelated : actedOn event = false) :
    NoEffect (runInputs inputs) event ↔ Harmless (runInputs inputs) event := by
  have clean := clean_run inputs
  constructor
  · intro free
    exact harmless_of_due (runInputs inputs) event unrelated (no_effect_due (runInputs inputs) event clean free)
  · intro harmless later
    obtain ⟨fewer, thinned, follows⟩ :=
      follows_run later _ _ (harmless_follows (runInputs inputs) event unrelated clean harmless)
    exact ⟨fewer, thinned, follows.calls.symm⟩

-- The access point is joined, so what the ignored event posts asks for nothing.
theorem unrelated_event_ignored_connected :
    NoEffect (runInputs (List.replicate 12 (.task 0) ++ [.event (.wlan (some .connect))])) (.wlan (some .smartConfigStop)) :=
  (unrelated_event_ignored _ (.wlan (some .smartConfigStop)) rfl).mpr (by decide +kernel)

-- The task has asked for its connection and waits. The ignored event posts the
-- stored connecting state once more, and the task connects a second time.
theorem unrelated_event_reconnects :
    let service := runInputs (List.replicate 12 (.task 0))
    Drained service ∧ service.calls.count .wlanConnect = 1 ∧ ¬ NoEffect service (.wlan (some .smartConfigStop)) := by
  refine ⟨by decide, by decide, fun free => ?_⟩
  have bounded := no_effect_due _ _ (clean_run _) free .wlanConnect
  revert bounded
  decide

end Miso.Wifi
