import Miso.SimpleLinkPoolLists

set_option autoImplicit false

namespace Miso.ObjPool

open Base (Heap Chain Step Reach seek)

structure Sound (driver : Driver) (free pending active : List Nat) : Prop where
  rep : Rep driver.cb driver.slots free pending active
  exclusive : Exclusive driver.slots

theorem slots_idle (driver : Driver) (idx : Nat) : driver.slots idx = .idle ↔ driver.calls idx = none := by
  unfold Driver.slots slotOf
  cases driver.calls idx with
  | none => simp
  | some call => grind

theorem slots_holding (driver : Driver) (idx : Nat) (request : Request) :
    driver.slots idx = .holding request ↔ driver.calls idx = some ⟨request, true⟩ := by
  unfold Driver.slots slotOf
  cases driver.calls idx with
  | none => simp
  | some call =>
      obtain ⟨inner, holds⟩ := call
      cases holds <;> cases signalled driver.cb.objPool idx <;> simp

theorem slots_woken (driver : Driver) (idx : Nat) (request : Request) :
    driver.slots idx = .woken request ↔
      driver.calls idx = some ⟨request, false⟩ ∧ signalled driver.cb.objPool idx = true := by
  unfold Driver.slots slotOf
  cases driver.calls idx with
  | none => simp
  | some call =>
      obtain ⟨inner, holds⟩ := call
      cases holds <;> cases signalled driver.cb.objPool idx <;> simp

theorem slots_waiting (driver : Driver) (idx : Nat) (request : Request) :
    driver.slots idx = .waiting request ↔
      driver.calls idx = some ⟨request, false⟩ ∧ signalled driver.cb.objPool idx = false := by
  unfold Driver.slots slotOf
  cases driver.calls idx with
  | none => simp
  | some call =>
      obtain ⟨inner, holds⟩ := call
      cases holds <;> cases signalled driver.cb.objPool idx <;> simp

theorem start_sound : Sound Driver.start (List.range maxConcurrentActions) [] [] := by
  have idle (idx : Nat) : Driver.start.slots idx = .idle := (slots_idle Driver.start idx).mpr rfl
  have read (idx : Nat) (obj : PoolObj) (stored : Driver.start.cb.objPool idx = some obj) :
      idx < maxConcurrentActions ∧ obj = ⟨false, none, 0, slMaxSockets, idx + 1⟩ := by
    change (if idx < maxConcurrentActions then some _ else none) = some obj at stored
    split at stored
    · exact ⟨‹_›, (Option.some.inj stored).symm⟩
    · cases stored
  have allocated (idx : Nat) (bound : idx < maxConcurrentActions) :
      Driver.start.cb.objPool idx = some ⟨false, none, 0, slMaxSockets, idx + 1⟩ := if_pos bound
  have chain (count : Nat) (fits : count ≤ maxConcurrentActions) :
      Chain PoolObj.next Driver.start.cb.objPool (inPool (maxConcurrentActions - count))
        (List.range' (maxConcurrentActions - count) count) := by
    induction count with
    | zero => exact .nil none
    | succ count ih =>
        have bound : maxConcurrentActions - (count + 1) < maxConcurrentActions := by omega
        rw [List.range'_succ, inPool, if_pos bound]
        refine .cons _ _ _ none (allocated _ bound) ?_
        have onward : maxConcurrentActions - (count + 1) + 1 = maxConcurrentActions - count := by omega
        rw [onward]
        exact ih (by omega)
  refine ⟨⟨fun idx => ⟨fun stored => stored.elim fun obj here => (read idx obj here).1, fun bound => ⟨_, allocated idx bound⟩⟩, ?_,
    Nat.zero_le _, Nat.le_refl _, Nat.le_refl _, ?_, .nil none, .nil none, fun idx => ?_, fun idx => ?_, fun idx => ?_, ?_, ?_,
    ?_, fun index => ?_⟩, ?_⟩
  · intro idx obj stored
    obtain ⟨bound, rfl⟩ := read idx obj stored
    exact bound
  · have whole := chain maxConcurrentActions (Nat.le_refl _)
    rwa [Nat.sub_self, ← List.range_eq_range'] at whole
  · rw [List.mem_range, idle idx]
    exact (and_iff_left rfl).symm
  · simp [IsWaiting, idle idx]
  · simp [IsHolding, idle idx]
  · intro idx obj stored
    obtain ⟨_, rfl⟩ := read idx obj stored
    rw [idle idx]
    refine ⟨fun _ => ⟨rfl, rfl⟩, fun request carried => ?_, fun request carried => ?_⟩
    · cases carried
    · cases carried
  · intro idx busy
    exact absurd (idle idx) busy
  · intro idx request carried
    rw [idle idx] at carried
    cases carried
  · change (0#32).getLsbD index = true ↔ _
    simp [idle]
  · intro first second one two holds
    rw [idle first] at holds
    cases holds

-- What the callers of the pool keep to: the arguments are actions and sockets
-- of the driver, only a host look-up by name marks its object, and the
-- response of an action is taken before its object is released. No error of
-- the driver is handled.
def Usage (driver : Driver) : Action → Prop
  | .waitForPoolObj request => request.Proper
  | .setFamily objIdx => (driver.calls objIdx).any (·.actionID = getHostByNameId) = true
  | .releasePoolObj objIdx => signalled driver.cb.objPool objIdx = false
  | .handleError => False
  | _ => True

instance (driver : Driver) (action : Action) : Decidable (Usage driver action) :=
  match action with
  | .waitForPoolObj request => inferInstanceAs (Decidable request.Proper)
  | .setFamily _ => inferInstanceAs (Decidable (_ = true))
  | .releasePoolObj _ => inferInstanceAs (Decidable (_ = false))
  | .handleError => inferInstanceAs (Decidable False)
  | .wake _ | .setRespArgs _ _ | .signalResponse _ | .takeResponse _ => inferInstanceAs (Decidable True)

def Enabled (driver : Driver) : Action → Prop
  | .waitForPoolObj _ => True
  | .wake objIdx => ∃ request, driver.slots objIdx = .woken request
  | .setRespArgs objIdx _ => IsHolding (driver.slots objIdx)
  | .setFamily objIdx => IsHolding (driver.slots objIdx)
  | .signalResponse objIdx => IsHolding (driver.slots objIdx)
  | .takeResponse objIdx => IsHolding (driver.slots objIdx) ∧ signalled driver.cb.objPool objIdx = true
  | .releasePoolObj objIdx => IsHolding (driver.slots objIdx)
  | .handleError => True

theorem holds_holding (driver : Driver) (objIdx : Nat) : driver.holds objIdx = true ↔ IsHolding (driver.slots objIdx) := by
  unfold IsHolding
  simp only [slots_holding]
  unfold Driver.holds
  cases driver.calls objIdx with
  | none => simp
  | some call =>
      obtain ⟨inner, holds⟩ := call
      cases holds <;> simp

theorem step_enabled (driver after : Driver) (action : Action) (taken : step driver action = some after) :
    Enabled driver action := by
  have owner (objIdx : Nat) (obj : PoolObj) (test : Bool) (next : Driver)
      (done : (if driver.holds objIdx ∧ test then some next else none) = some after) :
      IsHolding (driver.slots objIdx) ∧ test = true := by
    by_cases both : driver.holds objIdx ∧ test
    · exact ⟨(holds_holding driver objIdx).mp both.1, both.2⟩
    · rw [if_neg both] at done
      cases done
  cases action with
  | waitForPoolObj request => trivial
  | wake objIdx =>
      obtain ⟨call, given, onward⟩ := Option.bind_eq_some_iff.mp taken
      obtain ⟨obj, stored, done⟩ := Option.bind_eq_some_iff.mp onward
      by_cases both : call.holds = false ∧ obj.syncObj = true
      · refine ⟨call.toRequest, (slots_woken driver objIdx _).mpr ⟨?_, ?_⟩⟩
        · rw [given, ← both.1]
        · rw [signalled, stored, Option.any_some, both.2]
      · rw [if_neg both] at done
        cases done
  | setRespArgs objIdx pRespArgs =>
      obtain ⟨obj, _, done⟩ := Option.bind_eq_some_iff.mp taken
      exact (owner objIdx obj true _ (by simpa using done)).1
  | setFamily objIdx =>
      obtain ⟨obj, _, done⟩ := Option.bind_eq_some_iff.mp taken
      exact (owner objIdx obj true _ (by simpa using done)).1
  | signalResponse objIdx =>
      obtain ⟨obj, _, done⟩ := Option.bind_eq_some_iff.mp taken
      exact (owner objIdx obj true _ (by simpa using done)).1
  | takeResponse objIdx =>
      obtain ⟨obj, stored, done⟩ := Option.bind_eq_some_iff.mp taken
      obtain ⟨holding, signal⟩ := owner objIdx obj obj.syncObj _ (by simpa using done)
      exact ⟨holding, by rw [signalled, stored, Option.any_some, signal]⟩
  | releasePoolObj objIdx =>
      by_cases holds : driver.holds objIdx
      · exact (holds_holding driver objIdx).mp holds
      · have done : (if driver.holds objIdx = true then _ else none) = some after := taken
        rw [if_neg holds] at done
        cases done
  | handleError => trivial

theorem rep_touch (cb : DriverCb) (slots : Nat → Slot) (free pending active : List Nat)
    (rep : Rep cb slots free pending active) (idx : Nat) (old new : PoolObj) (read : cb.objPool idx = some old)
    (link : new.nextIndex = old.nextIndex) (agrees : Agrees new (slots idx)) :
    Rep { cb with objPool := cb.objPool.write idx new } slots free pending active := by
  have bound : idx < maxConcurrentActions := (rep.allocated idx).mp ⟨old, read⟩
  have chain (head : Option Nat) (nodes : List Nat) (before : Chain PoolObj.next cb.objPool head nodes) :
      Chain PoolObj.next (cb.objPool.write idx new) head nodes := by
    refine Base.segment_links _ head none nodes (fun place _ => ?_) before
    by_cases here : place = idx
    · rw [here, Heap.write_here, read, Option.map_some, Option.map_some, PoolObj.next, PoolObj.next, link]
    · rw [Heap.write_elsewhere _ _ _ _ here]
  refine { rep with
    allocated := allocated_write _ _ _ rep.allocated bound
    small := small_write _ _ _ rep.small (link ▸ rep.small idx old read)
    freeChain := chain _ _ rep.freeChain
    pendingChain := chain _ _ rep.pendingChain
    activeChain := chain _ _ rep.activeChain
    agrees := fun place cell stored => ?_ }
  have data := agrees_write cb.objPool slots idx new (slots idx) rep.agrees agrees place cell stored
  rwa [Function.update_eq_self] at data

theorem touched_slots (driver : Driver) (idx : Nat) (new : PoolObj) (holding : IsHolding (driver.slots idx)) :
    (driver.write idx new).slots = driver.slots := by
  obtain ⟨request, holds⟩ := holding
  funext other
  by_cases here : other = idx
  · rw [here, holds, slots_holding]
    exact (slots_holding driver idx request).mp holds
  · unfold Driver.slots
    congr 1
    exact congrArg (Option.any PoolObj.syncObj) (Heap.write_elsewhere driver.cb.objPool idx other new here)

theorem holder_touch (driver : Driver) (free pending active : List Nat) (sound : Sound driver free pending active) (idx : Nat)
    (old new : PoolObj) (read : driver.cb.objPool idx = some old) (holding : IsHolding (driver.slots idx))
    (link : new.nextIndex = old.nextIndex) (action : new.actionID = old.actionID) (socket : new.socket = old.socket)
    (plain : new.additionalData = old.additionalData ∨
      ∀ request, driver.slots idx = .holding request → request.actionID = getHostByNameId) :
    Sound (driver.write idx new) free pending active ∧ Moves driver.slots none (driver.write idx new).slots := by
  rw [touched_slots driver idx new holding]
  refine ⟨⟨?_, by rw [touched_slots driver idx new holding]; exact sound.exclusive⟩, .stay none⟩
  rw [touched_slots driver idx new holding]
  refine rep_touch driver.cb driver.slots free pending active sound.rep idx old new read link ?_
  have data := sound.rep.agrees idx old read
  obtain ⟨request, holds⟩ := holding
  refine ⟨fun idle => by simp [holds] at idle, fun carried same => ?_, fun carried same other => ?_⟩
  · rw [action, socket]
    exact data.carries carried same
  · rcases plain with kept | marked
    · rw [kept, socket]
      exact data.plain carried same other
    · rw [holds] at same
      cases same
      exact absurd (marked request holds) other

theorem entered_slots (driver : Driver) (entered : DriverCb) (idx : Nat) (request : Request) (holds : Bool)
    (sync : ∀ other, other ≠ idx → signalled entered.objPool other = signalled driver.cb.objPool other)
    (quiet : signalled entered.objPool idx = false) :
    Driver.slots ⟨entered, Function.update driver.calls idx (some ⟨request, holds⟩)⟩ =
      Function.update driver.slots idx (if holds then .holding request else .waiting request) := by
  funext other
  change slotOf (signalled entered.objPool other) (Function.update driver.calls idx (some ⟨request, holds⟩) other) = _
  by_cases here : other = idx
  · rw [here, Function.update_self, Function.update_self, quiet]
    cases holds <;> rfl
  · rw [Function.update_of_ne here, Function.update_of_ne here, sync other here]
    rfl

-- The second half of _SlDrvWaitForPoolObj, run on an object that is in no list.
theorem enter_sound (driver : Driver) (cb : DriverCb) (free pending active : List Nat) (idx : Nat) (request : Request)
    (rep : Rep cb (Function.update driver.slots idx (.woken request)) free pending active) (exclusive : Exclusive driver.slots)
    (source : driver.slots idx = .idle ∨ driver.slots idx = .woken request)
    (sync : ∀ other, other ≠ idx → signalled cb.objPool other = signalled driver.cb.objPool other)
    (quiet : signalled cb.objPool idx = false) :
    ∃ entered waited left remaining, enterAction cb idx request.actionID request.socketID = some (entered, waited) ∧
      waited ≠ .poolIsEmpty ∧ Sound (driver.entered request (entered, waited)) free left remaining ∧
      Moves driver.slots (some request) (driver.entered request (entered, waited)).slots := by
  have busy : Busy (Function.update driver.slots idx (.woken request)) request ↔ Busy driver.slots request :=
    holders_apart driver.slots idx _ (by rcases source with idle | woken <;> simp [IsHolding, *]) (by simp [IsHolding]) _
  obtain ⟨entered, entrySync, ⟨taken, done, after⟩ | ⟨clear, done, after⟩⟩ :=
    enter_action cb _ free pending active rep idx request (Function.update_self ..)
  · have slots := entered_slots driver entered idx request false
      (fun other here => (entrySync other).trans (sync other here)) ((entrySync idx).trans quiet)
    have moved : Moves driver.slots (some request) (Function.update driver.slots idx (.waiting request)) := by
      rcases source with idle | woken
      · exact .block idx request idle (busy.mp taken)
      · exact .again idx request woken (busy.mp taken)
    rw [Function.update_idem] at after
    refine ⟨entered, .pending idx, idx :: pending, active, done, by simp, ⟨?_, ?_⟩, ?_⟩
    · exact slots.symm ▸ after
    · exact slots.symm ▸ moves_exclusive driver.slots _ _ exclusive moved
    · exact slots.symm ▸ moved
  · have slots := entered_slots driver entered idx request true
      (fun other here => (entrySync other).trans (sync other here)) ((entrySync idx).trans quiet)
    have moved : Moves driver.slots (some request) (Function.update driver.slots idx (.holding request)) := by
      rcases source with idle | woken
      · exact .take idx request idle (mt busy.mpr clear)
      · exact .proceed idx request woken (mt busy.mpr clear)
    rw [Function.update_idem] at after
    refine ⟨entered, .active idx, pending, idx :: active, done, by simp, ⟨?_, ?_⟩, ?_⟩
    · exact slots.symm ▸ after
    · exact slots.symm ▸ moves_exclusive driver.slots _ _ exclusive moved
    · exact slots.symm ▸ moved

theorem wait_sound (driver : Driver) (free pending active : List Nat) (sound : Sound driver free pending active)
    (request : Request) (proper : request.Proper) :
    ∃ cb waited free' pending' active', drvWaitForPoolObj driver.cb request.actionID request.socketID = some (cb, waited) ∧
      (waited = .poolIsEmpty ↔ ∀ idx, idx < maxConcurrentActions → driver.calls idx ≠ none) ∧
      Sound (driver.entered request (cb, waited)) free' pending' active' ∧
      Moves driver.slots (some request) (driver.entered request (cb, waited)).slots := by
  by_cases available : driver.cb.freePoolIdx < maxConcurrentActions
  · obtain ⟨rest, taken, idle, took, rep, quiet, sync⟩ :=
      take_free driver.cb driver.slots free pending active sound.rep request proper available
    obtain ⟨entered, waited, left, remaining, done, served, after, moved⟩ :=
      enter_sound driver taken rest pending active _ request rep sound.exclusive (.inl idle) (fun other _ => sync other) quiet
    refine ⟨entered, waited, rest, left, remaining, ?_, iff_of_false served fun all => ?_, after, moved⟩
    · rw [drvWaitForPoolObj, if_pos available, took, Option.bind_some, done]
    · exact all _ available ((slots_idle driver _).mp idle)
  · have empty : free = [] := by
      have chain := sound.rep.freeChain
      rw [inPool, if_neg available] at chain
      cases chain
      rfl
    refine ⟨driver.cb, .poolIsEmpty, free, pending, active, by rw [drvWaitForPoolObj, if_neg available],
      iff_of_true rfl fun idx bound idle => ?_, sound, .stay _⟩
    have member := (sound.rep.memFree idx).mpr ⟨bound, (slots_idle driver idx).mpr idle⟩
    simp [empty] at member

theorem family_socket (data : BitVec 8) : (data ||| slNetappFamilyMask) &&& bsdSocketIdMask = data &&& bsdSocketIdMask := by
  rw [BitVec.and_or_distrib_right]
  exact BitVec.or_zero

-- The request that a step takes to the test of the loop.
def Action.entering (driver : Driver) : Action → Option Request
  | .waitForPoolObj request => some request
  | .wake objIdx => (driver.calls objIdx).map Call.toRequest
  | _ => none

theorem wake_sound (driver : Driver) (free pending active : List Nat) (sound : Sound driver free pending active)
    (idx : Nat) (request : Request) (woken : driver.slots idx = .woken request) :
    ∃ after left remaining, step driver (.wake idx) = some after ∧ Sound after free left remaining ∧
      Moves driver.slots ((Action.wake idx).entering driver) after.slots := by
  obtain ⟨obj, read⟩ := (sound.rep.allocated idx).mpr (sound.rep.inside idx (by simp [woken]))
  obtain ⟨given, signal⟩ := (slots_woken driver idx request).mp woken
  have set : obj.syncObj = true := by rwa [signalled, read, Option.any_some] at signal
  have data := sound.rep.agrees idx obj read
  have lowered := rep_touch driver.cb driver.slots free pending active sound.rep idx obj { obj with syncObj := false } read rfl
    ⟨fun idle => by simp [woken] at idle, data.carries, data.plain⟩
  have still : Function.update driver.slots idx (.woken request) = driver.slots := by
    rw [← woken, Function.update_eq_self]
  obtain ⟨entered, waited, left, remaining, done, _, after, moved⟩ :=
    enter_sound driver (driver.write idx { obj with syncObj := false }).cb free pending active idx request
      (still.symm ▸ lowered) sound.exclusive (.inr woken)
      (fun other here => congrArg (Option.any PoolObj.syncObj) (Heap.write_elsewhere driver.cb.objPool idx other _ here))
      (congrArg (Option.any PoolObj.syncObj) (Heap.write_here driver.cb.objPool idx { obj with syncObj := false }))
  have label : (Action.wake idx).entering driver = some request := by rw [Action.entering, given, Option.map_some]
  refine ⟨_, left, remaining, ?_, after, label ▸ moved⟩
  rw [step, given, Option.bind_some, read, Option.bind_some, if_pos ⟨rfl, set⟩]
  exact congrArg (Option.map (driver.entered request)) done

-- What the calls and the signals say of each object once one is given back.
theorem released_slots (driver : Driver) (freed : DriverCb) (idx : Nat) (after : Nat → Slot) (idle : after idx = .idle)
    (states : (after = Function.update driver.slots idx .idle ∧
        ∀ place, signalled freed.objPool place = signalled driver.cb.objPool place) ∨
      ∃ other request, driver.slots other = .waiting request ∧
        after = Function.update (Function.update driver.slots other (.woken request)) idx .idle ∧
        ∀ place, signalled freed.objPool place = if place = other then true else signalled driver.cb.objPool place) :
    Driver.slots ⟨freed, Function.update driver.calls idx none⟩ = after := by
  funext place
  by_cases here : place = idx
  · rw [here, idle, slots_idle]
    exact Function.update_self ..
  · change slotOf (signalled freed.objPool place) (Function.update driver.calls idx none place) = _
    rw [Function.update_of_ne here]
    rcases states with ⟨same, sync⟩ | ⟨other, request, waiting, same, sync⟩
    · rw [same, Function.update_of_ne here]
      exact congrArg (slotOf · (driver.calls place)) (sync place)
    · rw [same, Function.update_of_ne here]
      by_cases there : place = other
      · obtain ⟨given, _⟩ := (slots_waiting driver other request).mp waiting
        rw [there, Function.update_self, given, sync other, if_pos rfl]
        rfl
      · rw [Function.update_of_ne there, sync place, if_neg there]
        rfl

theorem release_sound (driver : Driver) (free pending active : List Nat) (sound : Sound driver free pending active)
    (idx : Nat) (held : Request) (holding : driver.slots idx = .holding held)
    (lowered : signalled driver.cb.objPool idx = false) :
    ∃ after left remaining, step driver (.releasePoolObj idx) = some after ∧ Sound after (idx :: free) left remaining ∧
      Moves driver.slots none after.slots := by
  obtain ⟨obj, read⟩ := (sound.rep.allocated idx).mpr (sound.rep.inside idx (by simp [holding]))
  have holds : driver.holds idx = true := (holds_holding driver idx).mpr ⟨held, holding⟩
  have quiet : obj.syncObj = false := by rwa [signalled, read, Option.any_some] at lowered
  obtain ⟨freed, after, left, remaining, done, moved, idle, rep, states⟩ :=
    release_pool_obj driver.cb driver.slots free pending active sound.rep sound.exclusive idx obj held read holding quiet
  have slots := released_slots driver freed idx after idle states
  refine ⟨_, left, remaining, by rw [step, if_pos holds, done, Option.map_some], ⟨?_, ?_⟩, ?_⟩
  · exact slots.symm ▸ rep
  · exact slots.symm ▸ moves_exclusive driver.slots after none sound.exclusive moved
  · exact slots.symm ▸ moved

theorem step_works (driver : Driver) (free pending active : List Nat) (sound : Sound driver free pending active)
    (action : Action) (usage : Usage driver action) (enabled : Enabled driver action) :
    ∃ after free' pending' active', step driver action = some after ∧ Sound after free' pending' active' ∧
      Moves driver.slots (action.entering driver) after.slots := by
  have owned (idx : Nat) (holding : IsHolding (driver.slots idx)) :
      ∃ obj, driver.cb.objPool idx = some obj ∧ driver.holds idx = true := by
    have inside := sound.rep.inside idx (by obtain ⟨request, holds⟩ := holding; simp [holds])
    obtain ⟨obj, read⟩ := (sound.rep.allocated idx).mpr inside
    exact ⟨obj, read, (holds_holding driver idx).mpr holding⟩
  cases action with
  | waitForPoolObj request =>
      obtain ⟨cb, waited, free', pending', active', done, _, after, moved⟩ :=
        wait_sound driver free pending active sound request usage
      exact ⟨_, free', pending', active', by rw [step, done, Option.map_some], after, moved⟩
  | wake idx =>
      obtain ⟨request, woken⟩ := enabled
      obtain ⟨after, left, remaining, done, kept⟩ := wake_sound driver free pending active sound idx request woken
      exact ⟨after, free, left, remaining, done, kept⟩
  | setRespArgs idx pRespArgs =>
      obtain ⟨obj, read, holds⟩ := owned idx enabled
      have kept := holder_touch driver free pending active sound idx obj { obj with pRespArgs := some pRespArgs } read enabled
        rfl rfl rfl (.inl rfl)
      exact ⟨_, free, pending, active, by rw [step, read, Option.bind_some, if_pos holds], kept⟩
  | setFamily idx =>
      obtain ⟨obj, read, holds⟩ := owned idx enabled
      have marked (request : Request) (holding : driver.slots idx = .holding request) : request.actionID = getHostByNameId := by
        have lookUp : (driver.calls idx).any (·.actionID = getHostByNameId) = true := usage
        rw [(slots_holding driver idx request).mp holding] at lookUp
        exact of_decide_eq_true lookUp
      have kept := holder_touch driver free pending active sound idx obj
        { obj with additionalData := obj.additionalData ||| slNetappFamilyMask } read enabled rfl rfl (family_socket _) (.inr marked)
      exact ⟨_, free, pending, active, by rw [step, read, Option.bind_some, if_pos holds], kept⟩
  | signalResponse idx =>
      obtain ⟨obj, read, holds⟩ := owned idx enabled
      have kept := holder_touch driver free pending active sound idx obj { obj with syncObj := true } read enabled
        rfl rfl rfl (.inl rfl)
      exact ⟨_, free, pending, active, by rw [step, read, Option.bind_some, if_pos holds], kept⟩
  | takeResponse idx =>
      obtain ⟨holding, signal⟩ := enabled
      obtain ⟨obj, read, holds⟩ := owned idx holding
      rw [signalled, read, Option.any_some] at signal
      have kept := holder_touch driver free pending active sound idx obj { obj with syncObj := false } read holding
        rfl rfl rfl (.inl rfl)
      exact ⟨_, free, pending, active, by rw [step, read, Option.bind_some, if_pos ⟨holds, signal⟩], kept⟩
  | releasePoolObj idx =>
      obtain ⟨held, holding⟩ := enabled
      obtain ⟨after, left, remaining, done, kept⟩ := release_sound driver free pending active sound idx held holding usage
      exact ⟨after, idx :: free, left, remaining, done, kept⟩
  | handleError => cases usage

theorem reach_sound (meets : Driver → Action → Prop) (usage : ∀ driver action, meets driver action → Usage driver action)
    (driver : Driver) (reached : Reach step meets Driver.start driver) :
    ∃ free pending active, Sound driver free pending active := by
  refine Base.reach_invariant step meets Driver.start (fun driver => ∃ free pending active, Sound driver free pending active)
    ⟨_, _, _, start_sound⟩ ?_ driver reached
  rintro before action after ⟨free, pending, active, sound⟩ met taken
  obtain ⟨next, free', pending', active', done, kept, _⟩ :=
    step_works before free pending active sound action (usage before action met) (step_enabled before after action taken)
  obtain rfl : next = after := Option.some.inj (done.symm.trans taken)
  exact ⟨free', pending', active', kept⟩

-- Two calls that receive on one socket, a third that looks a host up.
def receiving : List Action :=
  [Action.waitForPoolObj ⟨recvId, 3⟩, Action.waitForPoolObj ⟨recvId, 3⟩, Action.waitForPoolObj ⟨getHostByNameId, 8⟩,
    Action.setFamily 2]

def receivedPool : Driver := (Base.run (Base.guarded step Usage) Driver.start receiving).getD Driver.start

-- Every object is in the list its call says, the lists end, and no operation
-- that a call may make next reads outside the pool or fails to end. A call is
-- turned away only when the ten objects are all given out.
theorem pool_lists (driver : Driver) (reached : Reach step Usage Driver.start driver) :
    (∃ free pending active, Chain PoolObj.next driver.cb.objPool (inPool driver.cb.freePoolIdx) free ∧
      Chain PoolObj.next driver.cb.objPool (inPool driver.cb.pendingPoolIdx) pending ∧
      Chain PoolObj.next driver.cb.objPool (inPool driver.cb.activePoolIdx) active ∧
      (∀ idx, idx ∈ free ↔ idx < maxConcurrentActions ∧ driver.calls idx = none) ∧
      (∀ idx, idx ∈ pending ↔
        ∃ request, driver.calls idx = some ⟨request, false⟩ ∧ signalled driver.cb.objPool idx = false) ∧
      ∀ idx, idx ∈ active ↔ ∃ request, driver.calls idx = some ⟨request, true⟩) ∧
    (∀ action, Usage driver action → Enabled driver action → (step driver action).isSome) ∧
    ∀ request : Request, request.Proper → ∃ cb waited,
      drvWaitForPoolObj driver.cb request.actionID request.socketID = some (cb, waited) ∧
        (waited = .poolIsEmpty ↔ ∀ idx, idx < maxConcurrentActions → driver.calls idx ≠ none) := by
  obtain ⟨free, pending, active, sound⟩ := reach_sound Usage (fun _ _ => id) driver reached
  refine ⟨⟨free, pending, active, sound.rep.freeChain, sound.rep.pendingChain, sound.rep.activeChain, fun idx => ?_,
    fun idx => ?_, fun idx => ?_⟩, fun action usage enabled => ?_, fun request proper => ?_⟩
  · rw [sound.rep.memFree, slots_idle]
  · rw [sound.rep.memPending, IsWaiting]
    simp only [slots_waiting]
  · rw [sound.rep.memActive, IsHolding]
    simp only [slots_holding]
  · obtain ⟨after, _, _, _, done, _⟩ := step_works driver free pending active sound action usage enabled
    rw [done]
    rfl
  · obtain ⟨cb, waited, _, _, _, done, refused, _⟩ := wait_sound driver free pending active sound request proper
    exact ⟨cb, waited, done, refused⟩

theorem pool_lists_receiving : (step receivedPool (.releasePoolObj 0)).isSome :=
  (pool_lists receivedPool (Base.guarded_run_reach step Usage Driver.start receivedPool receiving rfl)).2.1 (.releasePoolObj 0) rfl
    ⟨⟨recvId, 3⟩, rfl⟩

def Given (driver : Driver) (holds : Request → Prop) : Prop :=
  ∀ idx call, driver.calls idx = some call → holds call.toRequest

theorem given_entered (driver : Driver) (holds : Request → Prop) (given : Given driver holds) (request : Request)
    (fits : holds request) (result : DriverCb × Waited) : Given (driver.entered request result) holds := by
  have updated (cb : DriverCb) (objIdx : Nat) (past : Bool) :
      Given ⟨cb, Function.update driver.calls objIdx (some ⟨request, past⟩)⟩ holds := by
    intro idx call taken
    change Function.update driver.calls objIdx _ idx = some call at taken
    by_cases here : idx = objIdx
    · rw [here, Function.update_self] at taken
      cases taken
      exact fits
    · rw [Function.update_of_ne here] at taken
      exact given idx call taken
  obtain ⟨cb, waited⟩ := result
  cases waited with
  | poolIsEmpty => exact given
  | pending objIdx => exact updated cb objIdx false
  | active objIdx => exact updated cb objIdx true

theorem step_given (driver after : Driver) (action : Action) (holds : Request → Prop) (given : Given driver holds)
    (fits : ∀ request, action = .waitForPoolObj request → holds request) (taken : step driver action = some after) :
    Given after holds := by
  have written (objIdx : Nat) (obj : PoolObj) (condition : Prop) [Decidable condition]
      (done : (if condition then some (driver.write objIdx obj) else none) = some after) : Given after holds := by
    split at done
    · exact Option.some.inj done ▸ given
    · cases done
  cases action with
  | waitForPoolObj request =>
      obtain ⟨result, _, rfl⟩ := Option.map_eq_some_iff.mp taken
      exact given_entered driver holds given request (fits request rfl) result
  | wake objIdx =>
      obtain ⟨call, owner, onward⟩ := Option.bind_eq_some_iff.mp taken
      obtain ⟨obj, _, done⟩ := Option.bind_eq_some_iff.mp onward
      split at done
      · obtain ⟨result, _, rfl⟩ := Option.map_eq_some_iff.mp done
        exact given_entered driver holds given call.toRequest (given objIdx call owner) result
      · cases done
  | setRespArgs objIdx pRespArgs =>
      obtain ⟨obj, _, done⟩ := Option.bind_eq_some_iff.mp taken
      exact written objIdx _ _ done
  | setFamily objIdx =>
      obtain ⟨obj, _, done⟩ := Option.bind_eq_some_iff.mp taken
      exact written objIdx _ _ done
  | signalResponse objIdx =>
      obtain ⟨obj, _, done⟩ := Option.bind_eq_some_iff.mp taken
      exact written objIdx _ _ done
  | takeResponse objIdx =>
      obtain ⟨obj, _, done⟩ := Option.bind_eq_some_iff.mp taken
      exact written objIdx _ _ done
  | releasePoolObj objIdx =>
      change (if driver.holds objIdx then _ else none) = some after at taken
      split at taken
      · obtain ⟨cb, _, rfl⟩ := Option.map_eq_some_iff.mp taken
        intro idx call owner
        change Function.update driver.calls objIdx none idx = some call at owner
        by_cases here : idx = objIdx
        · rw [here, Function.update_self] at owner
          cases owner
        · rw [Function.update_of_ne here] at owner
          exact given idx call owner
      · cases taken
  | handleError =>
      obtain rfl : _ = after := Option.some.inj taken
      exact given

theorem slots_given (driver : Driver) (holds : Request → Prop) (given : Given driver holds) : Requests driver.slots holds := by
  intro idx request carried
  unfold Driver.slots slotOf at carried
  cases owner : driver.calls idx with
  | none =>
      rw [owner] at carried
      cases carried
  | some call =>
      have fits := given idx call owner
      rw [owner] at carried
      obtain rfl : call.toRequest = request := by grind [Slot.request]
      exact fits

def SameAction (driver : Driver) (request : Request) : Prop :=
  ∀ objIdx < maxConcurrentActions, ∀ call ∈ driver.calls objIdx,
    call.holds = true → call.key = request.key → call.actionID = request.actionID

-- An action is about a socket always or never, and a call that comes to the
-- test of the loop finds no other action at its socket.
def RegularUsage (onSocket : BitVec 8 → Bool) (driver : Driver) (action : Action) : Prop :=
  Usage driver action ∧ ∀ request ∈ action.entering driver, request.Regular onSocket ∧ SameAction driver request

instance (driver : Driver) (request : Request) : Decidable (SameAction driver request) :=
  inferInstanceAs (Decidable (∀ objIdx < maxConcurrentActions, ∀ call ∈ driver.calls objIdx, _ → _ → _))

instance (onSocket : BitVec 8 → Bool) (driver : Driver) (action : Action) : Decidable (RegularUsage onSocket driver action) :=
  inferInstanceAs (Decidable (_ ∧ ∀ request ∈ action.entering driver, _))

theorem same_action_agreed (driver : Driver) (request : Request) (free pending active : List Nat)
    (sound : Sound driver free pending active) (same : SameAction driver request) : Agreed driver.slots request := by
  intro objIdx held holding key
  have bound : objIdx < maxConcurrentActions := sound.rep.inside objIdx (by simp [holding])
  exact same objIdx bound ⟨held, true⟩ ((slots_holding driver objIdx held).mp holding) rfl key

theorem entering_proper (driver : Driver) (action : Action) (request : Request) (free pending active : List Nat)
    (sound : Sound driver free pending active) (usage : Usage driver action) (label : action.entering driver = some request) :
    request.Proper := by
  cases action with
  | waitForPoolObj other =>
      cases label
      exact usage
  | wake objIdx =>
      obtain ⟨call, owner, rfl⟩ := Option.map_eq_some_iff.mp label
      refine sound.rep.proper objIdx call.toRequest ?_
      rw [Driver.slots, owner]
      grind [slotOf, Slot.request]
  | setRespArgs | setFamily | signalResponse | takeResponse | releasePoolObj | handleError => cases label

-- A call that waits is never left behind: one for the same socket and action,
-- or for the same action where it has no socket, holds an object or was
-- signalled and will take it.
theorem no_lost_wake_up (onSocket : BitVec 8 → Bool) (driver : Driver)
    (reached : Reach step (RegularUsage onSocket) Driver.start driver) (objIdx : Nat) (request : Request)
    (waits : driver.calls objIdx = some ⟨request, false⟩) (still : signalled driver.cb.objPool objIdx = false) :
    ∃ other, driver.calls other = some ⟨request, true⟩ ∨
      driver.calls other = some ⟨request, false⟩ ∧ signalled driver.cb.objPool other = true := by
  have kept : Given driver (Request.Regular onSocket) ∧ Attended driver.slots ∧
      ∃ free pending active, Sound driver free pending active := by
    refine Base.reach_invariant step (RegularUsage onSocket) Driver.start
      (fun driver => Given driver (Request.Regular onSocket) ∧ Attended driver.slots ∧
        ∃ free pending active, Sound driver free pending active) ⟨nofun, ?_, _, _, _, start_sound⟩ ?_ driver reached
    · intro idx waiting state
      cases ((slots_waiting Driver.start idx waiting).mp state).1
    · rintro before action after ⟨regular, attended, free, pending, active, sound⟩ ⟨usage, fits⟩ taken
      obtain ⟨next, free', pending', active', done, sound', moved⟩ :=
        step_works before free pending active sound action usage (step_enabled before after action taken)
      obtain rfl : next = after := Option.some.inj (done.symm.trans taken)
      have arriving (request : Request) (same : action = .waitForPoolObj request) : request.Regular onSocket :=
        (fits request (by rw [same]; rfl)).1
      have entered (request : Request) (label : action.entering before = some request) :
          request.Proper ∧ request.Regular onSocket ∧ Agreed before.slots request :=
        ⟨entering_proper before action request free pending active sound usage label, (fits request label).1,
          same_action_agreed before request free pending active sound (fits request label).2⟩
      exact ⟨step_given before next action _ regular arriving taken,
        moves_attended onSocket before.slots next.slots _ sound.rep.proper (slots_given before _ regular) entered attended moved,
        free', pending', active', sound'⟩
  obtain ⟨other, state⟩ := kept.2.1 objIdx request ((slots_waiting driver objIdx request).mpr ⟨waits, still⟩)
  refine ⟨other, ?_⟩
  rcases state with holding | woken
  · exact .inl ((slots_holding driver other request).mp holding)
  · exact .inr ((slots_woken driver other request).mp woken)

-- Accepts, connects and receives are about a socket.
def ofSocket (action : BitVec 8) : Bool := action == acceptId || action == connectId || action == recvId

-- Socket 3 is connected, and two calls receive on it after that.
def connectedThenReceived : List Action :=
  [.waitForPoolObj ⟨connectId, 3⟩, .signalResponse 0, .takeResponse 0, .releasePoolObj 0, .waitForPoolObj ⟨recvId, 3⟩,
    .waitForPoolObj ⟨recvId, 3⟩]

def received : Driver :=
  (Base.run (Base.guarded step (RegularUsage ofSocket)) Driver.start connectedThenReceived).getD Driver.start

theorem no_lost_wake_up_received : ∃ other, received.calls other = some ⟨⟨recvId, 3⟩, true⟩ ∨
    received.calls other = some ⟨⟨recvId, 3⟩, false⟩ ∧ signalled received.cb.objPool other = true :=
  no_lost_wake_up ofSocket received
    (Base.guarded_run_reach step (RegularUsage ofSocket) Driver.start received connectedThenReceived rfl) 1 ⟨recvId, 3⟩ rfl rfl

-- A receive that waits while the socket is being connected stays behind.
example : (Base.run (Base.guarded step Usage) Driver.start [.waitForPoolObj ⟨connectId, 3⟩, .waitForPoolObj ⟨recvId, 3⟩,
    .releasePoolObj 0]).map (fun driver => (List.range maxConcurrentActions).filterMap driver.calls) =
      some [⟨⟨recvId, 3⟩, false⟩] := by decide

theorem unset_family_recv (obj : PoolObj) (opcode : BitVec 16) (recv : opcode ∈ recvOpcodes) :
    unsetFamily obj opcode ∈ recvOpcodes := by
  unfold unsetFamily
  split
  · simp only [recvOpcodes, List.mem_cons, List.not_mem_nil, or_false] at recv
    rcases recv with rfl | rfl | rfl <;> decide
  · exact recv

theorem lookup_not_recv (index : Nat) (bound : index < slActionLookupTable.length) :
    ∃ entry, slActionLookupTable[index]? = some entry ∧ entry ∉ recvOpcodes := by
  have apart : ∀ entry ∈ slActionLookupTable, entry ∉ recvOpcodes := by simp [slActionLookupTable, recvOpcodes]
  cases looked : slActionLookupTable[index]? with
  | none => exact absurd (List.getElem?_eq_none_iff.mp looked) (Nat.not_le.mpr bound)
  | some entry => exact ⟨entry, rfl, apart entry (List.mem_of_getElem? looked)⟩

theorem find_recv (objPool : Heap Nat PoolObj) (sd : BitVec 8) (before after : List Nat) (idx : Nat) (head : Option Nat)
    (fuel : Nat) (opcode : BitVec 16) (chain : Chain PoolObj.next objPool head (before ++ idx :: after))
    (enough : before.length < fuel) (recv : opcode ∈ recvOpcodes)
    (target : ∀ obj, objPool idx = some obj → obj.actionID = recvId ∧ obj.additionalData = sd)
    (others : ∀ other ∈ before, ∀ obj, objPool other = some obj → slMaxSockets ≤ obj.actionID ∧ obj.actionID ≤ recvId ∧
      (obj.actionID = recvId → obj.additionalData ≠ sd)) :
    findAndSetActiveObj objPool sd fuel opcode head =
      if before.any fun other => (objPool other).any (·.actionID = recvId) then none else some (some idx) := by
  induction before generalizing head fuel opcode with
  | nil =>
      cases fuel with
      | zero => simp at enough
      | succ fuel =>
          cases chain with
          | cons _ obj _ _ read _ =>
              obtain ⟨action, data⟩ := target obj read
              have takes : takesRecv obj (unsetFamily obj opcode) sd = true := by
                have listed := List.contains_iff_mem.mpr (unset_family_recv obj opcode recv)
                rw [takesRecv, action, data, listed, beq_self_eq_true, beq_self_eq_true]
                rfl
              rw [findAndSetActiveObj, read, Option.bind_some, if_pos takes]
              rfl
  | cons other rest ih =>
      cases fuel with
      | zero => simp at enough
      | succ fuel =>
          cases chain with
          | cons _ obj _ _ read tail =>
              obtain ⟨low, high, foreign⟩ := others other List.mem_cons_self obj read
              have lowBound : 8 ≤ obj.actionID.toNat := BitVec.le_def.mp low
              have highBound : obj.actionID.toNat ≤ 15 := BitVec.le_def.mp high
              have place : (obj.actionID - slMaxSockets).toNat = obj.actionID.toNat - 8 := BitVec.toNat_sub_of_le low
              rw [findAndSetActiveObj, read, Option.bind_some, List.any_cons, read, Option.any_some, place]
              by_cases receives : obj.actionID = recvId
              · have refused : takesRecv obj (unsetFamily obj opcode) sd = false := by
                  rw [takesRecv, beq_eq_false_iff_ne.mpr (foreign receives).symm, Bool.and_false, Bool.false_and]
                rw [refused, if_neg Bool.false_ne_true, receives, decide_eq_true rfl, Bool.true_or, if_pos rfl]
                rfl
              · have refused : takesRecv obj (unsetFamily obj opcode) sd = false := by
                  rw [takesRecv, beq_eq_false_iff_ne.mpr receives, Bool.false_and, Bool.false_and]
                have notLast : obj.actionID.toNat ≠ 15 := fun last => receives (BitVec.eq_of_toNat_eq last)
                have listed := unset_family_recv obj opcode recv
                obtain ⟨entry, looked, apart⟩ := lookup_not_recv (obj.actionID.toNat - 8) (by
                  change obj.actionID.toNat - 8 < 7
                  omega)
                have passed : takesAction obj entry (unsetFamily obj opcode) sd = false := by
                  have differs : entry ≠ unsetFamily obj opcode := fun same => apart (same ▸ listed)
                  rw [takesAction, beq_eq_false_iff_ne.mpr differs, Bool.false_and]
                rw [refused, if_neg Bool.false_ne_true, looked, Option.bind_some, passed, if_neg Bool.false_ne_true,
                  decide_eq_false receives, Bool.false_or]
                exact ih obj.next fuel _ tail (by simpa using enough) listed fun later member =>
                  others later (List.mem_cons_of_mem other member)

-- The response to a receive reaches the call that asked for it, unless a call
-- that receives on another socket has become active since: RECV_ID has no row
-- in the look-up table, and the search reads past it there.
theorem recv_response (driver : Driver) (reached : Reach step Usage Driver.start driver) (idx : Nat) (sd : BitVec 8)
    (socket : sd < slMaxSockets) (holds : driver.calls idx = some ⟨⟨recvId, sd⟩, true⟩) (opcode : BitVec 16)
    (recv : opcode ∈ recvOpcodes) :
    ∃ before after, Chain PoolObj.next driver.cb.objPool (inPool driver.cb.activePoolIdx) (before ++ idx :: after) ∧
      findAndSetActiveObj driver.cb.objPool sd maxConcurrentActions opcode (inPool driver.cb.activePoolIdx) =
        if before.any fun other => (driver.calls other).any (·.actionID = recvId) then none else some (some idx) := by
  obtain ⟨free, pending, active, sound⟩ := reach_sound Usage (fun _ _ => id) driver reached
  have held := (slots_holding driver idx _).mpr holds
  obtain ⟨before, after, rfl⟩ := List.append_of_mem ((sound.rep.memActive idx).mpr ⟨_, held⟩)
  have distinct := Base.chain_nodup _ _ sound.rep.activeChain
  have short := short_list driver.cb _ _ sound.rep.activeChain (holding_bound driver.cb driver.slots _ _ _ sound.rep)
  have owner (other : Nat) (member : other ∈ before) : ∃ request obj, driver.calls other = some ⟨request, true⟩ ∧
      driver.cb.objPool other = some obj ∧ request.Proper ∧ obj.actionID = request.actionID ∧
      (request.actionID = recvId → obj.additionalData ≠ sd) := by
    obtain ⟨request, holding⟩ := (sound.rep.memActive other).mp (List.mem_append_left _ member)
    obtain ⟨obj, read⟩ := (sound.rep.allocated other).mpr (sound.rep.inside other (by simp [holding]))
    have carried : (driver.slots other).request = some request := by rw [holding]; rfl
    have data := sound.rep.agrees other obj read
    obtain ⟨action, field⟩ := data.carries request carried
    refine ⟨request, obj, (slots_holding driver other request).mp holding, read, sound.rep.proper other request carried, action,
      fun receives same => ?_⟩
    have plain := data.plain request carried (by rw [receives]; decide)
    have equal : request.socketID = sd := by
      rw [plain, field] at same
      by_cases here : request.socketID < slMaxSockets
      · rwa [if_pos here] at same
      · rw [if_neg here] at same
        rw [← same] at socket
        exact absurd socket (BitVec.lt_irrefl _)
    have same : request.key = Request.key ⟨recvId, sd⟩ := by rw [Request.key, Request.key, equal, receives]
    obtain rfl := sound.exclusive other idx request _ holding held same
    exact List.disjoint_of_nodup_append distinct member List.mem_cons_self
  have found := find_recv driver.cb.objPool sd before after idx _ maxConcurrentActions opcode sound.rep.activeChain (by
      simp only [List.length_append, List.length_cons] at short
      omega) recv (fun obj read => ?_) fun other member obj read => ?_
  · refine ⟨before, after, sound.rep.activeChain, found.trans ?_⟩
    have same (other : Nat) (member : other ∈ before) :
        (driver.cb.objPool other).any (·.actionID = recvId) = (driver.calls other).any (·.actionID = recvId) := by
      obtain ⟨request, obj, owned, read, _, action, _⟩ := owner other member
      rw [read, owned, Option.any_some, Option.any_some, action]
    have agree : (before.any fun other => (driver.cb.objPool other).any (·.actionID = recvId)) =
        before.any fun other => (driver.calls other).any (·.actionID = recvId) := by
      rw [Bool.eq_iff_iff, List.any_eq_true, List.any_eq_true]
      exact exists_congr fun other => and_congr_right fun member => by rw [same other member]
    rw [agree]
  · have data := sound.rep.agrees idx obj read
    have carried : (driver.slots idx).request = some ⟨recvId, sd⟩ := by rw [held]; rfl
    obtain ⟨action, field⟩ := data.carries _ carried
    rw [if_pos socket] at field
    exact ⟨action, (data.plain _ carried (fun same : recvId = getHostByNameId => absurd same (by decide))).trans field⟩
  · obtain ⟨request, cell, _, stored, proper, action, foreign⟩ := owner other member
    obtain rfl : cell = obj := Option.some.inj (stored.symm.trans read)
    rw [action]
    exact ⟨proper.2.1, proper.2.2, foreign⟩

theorem recv_response_receiving : ∃ before after,
    Chain PoolObj.next receivedPool.cb.objPool (inPool receivedPool.cb.activePoolIdx) (before ++ 0 :: after) ∧
      findAndSetActiveObj receivedPool.cb.objPool 3 maxConcurrentActions 0x120B (inPool receivedPool.cb.activePoolIdx) =
        if before.any fun other => (receivedPool.calls other).any (·.actionID = recvId) then none else some (some 0) :=
  recv_response receivedPool (Base.guarded_run_reach step Usage Driver.start receivedPool receiving rfl) 0 3 (by decide) rfl
    0x120B (by simp [recvOpcodes])

end Miso.ObjPool
