import Miso.SimpleLinkPoolRuns

set_option autoImplicit false

namespace Miso.ObjPool

open Base (Heap Chain Step Reach seek)

-- All that is asked of a caller here: actions and sockets of the driver.
def Asked (_ : Driver) : Action → Prop
  | .waitForPoolObj request => request.Proper
  | _ => True

instance (driver : Driver) (action : Action) : Decidable (Asked driver action) :=
  match action with
  | .waitForPoolObj request => inferInstanceAs (Decidable request.Proper)
  | .wake _ | .setRespArgs _ _ | .setFamily _ | .signalResponse _ | .takeResponse _ | .releasePoolObj _ | .handleError =>
      inferInstanceAs (Decidable True)

-- What holds whatever the signals are: the free list, what the objects say of
-- their calls, and the bitmap. Of the other two lists nothing is known.
structure Keyed (driver : Driver) (free : List Nat) : Prop where
  inside : ∀ idx obj, driver.cb.objPool idx = some obj → idx < maxConcurrentActions
  chain : Chain PoolObj.next driver.cb.objPool (inPool driver.cb.freePoolIdx) free
  idle : ∀ idx ∈ free, driver.calls idx = none
  blank : ∀ idx obj, driver.calls idx = none → driver.cb.objPool idx = some obj →
    obj.actionID = 0 ∧ obj.additionalData = slMaxSockets
  proper : Given driver Request.Proper
  carries : ∀ idx call obj, driver.calls idx = some call → driver.cb.objPool idx = some obj →
    obj.actionID = call.actionID ∧ obj.socket = if call.socketID < slMaxSockets then call.socketID else slMaxSockets
  exclusive : ∀ first second one two, driver.calls first = some ⟨one, true⟩ → driver.calls second = some ⟨two, true⟩ →
    one.key = two.key → first = second
  bits : Bits driver.cb.activeActionsBitmap fun idx held => driver.calls idx = some ⟨held, true⟩

theorem start_keyed : Keyed Driver.start (List.range maxConcurrentActions) where
  inside := fun idx obj read => (start_sound.rep.allocated idx).mp ⟨obj, read⟩
  chain := start_sound.rep.freeChain
  idle := fun _ _ => rfl
  blank := by
    intro idx obj _ read
    change (if idx < maxConcurrentActions then some _ else none) = some obj at read
    split at read
    · cases read
      exact ⟨rfl, rfl⟩
    · cases read
  proper := nofun
  carries := nofun
  exclusive := nofun
  bits := by
    intro index
    change (0#32).getLsbD index = true ↔ _
    simp [Driver.start]

-- An object changes no more than it may for the call it is given to.
structure Alike (given : Bool) (new old : PoolObj) : Prop where
  action : new.actionID = old.actionID
  socket : new.socket = old.socket
  data : given = false → new.additionalData = old.additionalData

theorem keyed_pool (driver : Driver) (free : List Nat) (keyed : Keyed driver free) (objPool : Heap Nat PoolObj)
    (links : ∀ idx ∈ free, (objPool idx).map PoolObj.next = (driver.cb.objPool idx).map PoolObj.next)
    (alike : ∀ idx obj, objPool idx = some obj →
      ∃ old, driver.cb.objPool idx = some old ∧ Alike (driver.calls idx).isSome obj old) :
    Keyed { driver with cb := { driver.cb with objPool := objPool } } free where
  inside := by
    intro idx obj read
    obtain ⟨old, stored, _⟩ := alike idx obj read
    exact keyed.inside idx old stored
  chain := Base.segment_links _ _ none free links keyed.chain
  idle := keyed.idle
  blank := by
    intro idx obj unused read
    have still : driver.calls idx = none := unused
    obtain ⟨old, stored, same⟩ := alike idx obj read
    rw [same.action, same.data (by rw [still]; rfl)]
    exact keyed.blank idx old unused stored
  proper := keyed.proper
  carries := by
    intro idx call obj given read
    obtain ⟨old, stored, same⟩ := alike idx obj read
    rw [same.action, same.socket]
    exact keyed.carries idx call old given stored
  exclusive := keyed.exclusive
  bits := keyed.bits

theorem keyed_write (driver : Driver) (free : List Nat) (keyed : Keyed driver free) (idx : Nat) (old new : PoolObj)
    (read : driver.cb.objPool idx = some old) (apart : idx ∉ free ∨ new.nextIndex = old.nextIndex)
    (alike : Alike (driver.calls idx).isSome new old) : Keyed (driver.write idx new) free := by
  refine keyed_pool driver free keyed _ (fun other member => ?_) fun other obj stored => ?_
  · by_cases here : other = idx
    · have link : new.nextIndex = old.nextIndex := apart.resolve_left fun absent => absent (here ▸ member)
      rw [here, Heap.write_here, read, Option.map_some, Option.map_some, PoolObj.next, PoolObj.next, link]
    · rw [Heap.write_elsewhere _ _ _ _ here]
  · by_cases here : other = idx
    · rw [here, Heap.write_here] at stored
      obtain rfl : new = obj := Option.some.inj stored
      exact ⟨old, here ▸ read, here ▸ alike⟩
    · rw [Heap.write_elsewhere _ _ _ _ here] at stored
      exact ⟨obj, stored, rfl, rfl, fun _ => rfl⟩

theorem keyed_heads (driver : Driver) (free : List Nat) (keyed : Keyed driver free) (pendingPoolIdx activePoolIdx : Nat) :
    Keyed { driver with cb := { driver.cb with pendingPoolIdx := pendingPoolIdx, activePoolIdx := activePoolIdx } } free :=
  ⟨keyed.inside, keyed.chain, keyed.idle, keyed.blank, keyed.proper, keyed.carries, keyed.exclusive, keyed.bits⟩

theorem given_apart (driver : Driver) (free : List Nat) (keyed : Keyed driver free) (idx : Nat)
    (given : driver.calls idx ≠ none) : idx ∉ free := fun member => given (keyed.idle idx member)

-- Whatever the links are, a removal changes the link of one object at most,
-- the one before the item.
theorem remove_keyed (driver : Driver) (free : List Nat) (keyed : Keyed driver free) (listIndex item start : Nat)
    (left : Heap Nat PoolObj) (apart : item ∉ free) (removed : removeFromList driver.cb.objPool listIndex item = some (left, start)) :
    Keyed { driver with cb := { driver.cb with objPool := left } } free := by
  obtain ⟨first, _, onward⟩ := Option.bind_eq_some_iff.mp removed
  have same (kept : left = driver.cb.objPool) : Keyed { driver with cb := { driver.cb with objPool := left } } free := by
    rw [kept]
    exact keyed
  split at onward
  · cases onward
    exact same rfl
  · split at onward
    · obtain ⟨_, _, done⟩ := Option.map_eq_some_iff.mp onward
      cases done
      exact same rfl
    · obtain ⟨parent, sought, further⟩ := Option.bind_eq_some_iff.mp onward
      cases parent with
      | none =>
          cases further
          exact same rfl
      | some parent =>
          obtain ⟨obj, read, later⟩ := Option.bind_eq_some_iff.mp further
          obtain ⟨past, _, done⟩ := Option.map_eq_some_iff.mp later
          cases done
          obtain ⟨cell, stored, stop⟩ := Base.seek_found _ _ _ _ sought
          obtain rfl : obj = cell := Option.some.inj (read.symm.trans stored)
          have outside : parent ∉ free := fun member =>
            apart (Base.chain_next_mem _ free keyed.chain parent item obj member read (of_decide_eq_true stop))
          exact keyed_write driver free keyed parent obj _ read (.inl outside) ⟨rfl, rfl, fun _ => rfl⟩

theorem given_update (driver : Driver) (cb : DriverCb) (holds : Request → Prop) (given : Given driver holds) (idx : Nat)
    (call : Option Call) (fits : ∀ new, call = some new → holds new.toRequest) :
    Given ⟨cb, Function.update driver.calls idx call⟩ holds := by
  intro other new owner
  change Function.update driver.calls idx call other = some new at owner
  by_cases here : other = idx
  · rw [here, Function.update_self] at owner
    exact fits new owner
  · rw [Function.update_of_ne here] at owner
    exact given other new owner

theorem others_update (calls : Nat → Option Call) (idx other : Nat) (call : Option Call) (held : Request)
    (old : (calls idx).any Call.holds = false) (new : call.any Call.holds = false) :
    Function.update calls idx call other = some ⟨held, true⟩ ↔ calls other = some ⟨held, true⟩ := by
  by_cases here : other = idx
  · rw [here, Function.update_self]
    refine iff_of_false ?_ ?_
    · rintro rfl
      cases new
    · intro holds
      rw [holds] at old
      cases old
  · rw [Function.update_of_ne here]

theorem take_keyed (driver : Driver) (free : List Nat) (keyed : Keyed driver free) (request : Request) (taken : DriverCb)
    (proper : request.Proper) (available : driver.cb.freePoolIdx < maxConcurrentActions)
    (done : takeFree driver.cb request.actionID request.socketID = some taken) :
    ∃ rest, Keyed ⟨taken, Function.update driver.calls driver.cb.freePoolIdx (some ⟨request, false⟩)⟩ rest := by
  obtain ⟨obj, read, rfl⟩ := Option.map_eq_some_iff.mp done
  obtain ⟨idx, here⟩ : ∃ idx, driver.cb.freePoolIdx = idx := ⟨_, rfl⟩
  have chain := keyed.chain
  rw [here] at available read ⊢
  rw [here, inPool, if_pos available] at chain
  obtain ⟨rest, rfl⟩ : ∃ rest, free = idx :: rest := by cases chain; exact ⟨_, rfl⟩
  have unused : driver.calls idx = none := keyed.idle idx List.mem_cons_self
  have absent : idx ∉ rest := (List.nodup_cons.mp (Base.chain_nodup _ _ chain)).1
  have remaining : inPool (if obj.nextIndex < maxConcurrentActions then obj.nextIndex else maxConcurrentActions) = obj.next := by
    unfold PoolObj.next inPool
    grind
  have quiet : (driver.calls idx).any Call.holds = false := by rw [unused]; rfl
  refine ⟨rest, fun other cell stored => ?_, ?_, fun other member => ?_, fun other cell unowned stored => ?_,
    given_update driver _ _ keyed.proper idx _ (fun _ same => Option.some.inj same ▸ proper),
    fun other call cell owner stored => ?_, fun first second one two holdsOne holdsTwo same => ?_, fun index => ?_⟩
  · by_cases there : other = idx
    · exact there ▸ available
    · exact keyed.inside other cell ((Heap.write_elsewhere _ _ _ _ there).symm.trans stored)
  · change Chain PoolObj.next _ (inPool (if obj.nextIndex < _ then _ else _)) rest
    rw [remaining]
    cases chain with
    | cons _ first _ _ stored tail =>
        obtain rfl : obj = first := Option.some.inj (read.symm.trans stored)
        exact chain_apart driver.cb.objPool _ rest idx _ tail absent
  · have apart : other ≠ idx := fun same => absent (same ▸ member)
    exact (Function.update_of_ne apart _ _).trans (keyed.idle other (List.mem_cons_of_mem idx member))
  · have apart : other ≠ idx := by
      rintro rfl
      simp at unowned
    exact keyed.blank other cell ((Function.update_of_ne apart _ _).symm.trans unowned)
      ((Heap.write_elsewhere _ _ _ _ apart).symm.trans stored)
  · by_cases there : other = idx
    · obtain rfl : (⟨request, false⟩ : Call) = call := by simpa [there] using owner
      change Heap.write _ _ _ other = some cell at stored
      rw [there, Heap.write_here] at stored
      obtain rfl := Option.some.inj stored
      refine ⟨rfl, ?_⟩
      rw [PoolObj.socket, (keyed.blank idx obj unused read).2]
      by_cases socket : request.socketID < slMaxSockets
      · rw [if_pos socket]
        exact socket_mask _ proper.1
      · rw [if_neg socket]
        exact socket_mask _ (BitVec.le_refl _)
    · exact keyed.carries other call cell ((Function.update_of_ne there _ _).symm.trans owner)
        ((Heap.write_elsewhere _ _ _ _ there).symm.trans stored)
  · exact keyed.exclusive first second one two ((others_update _ _ _ _ _ quiet rfl).mp holdsOne)
      ((others_update _ _ _ _ _ quiet rfl).mp holdsTwo) same
  · simp only [others_update driver.calls idx _ (some ⟨request, false⟩) _ quiet rfl]
    exact keyed.bits index

theorem enter_keyed (driver : Driver) (free : List Nat) (keyed : Keyed driver free) (idx : Nat) (request : Request)
    (given : driver.calls idx = some ⟨request, false⟩) (result : DriverCb × Waited)
    (entered : enterAction driver.cb idx request.actionID request.socketID = some result) :
    Keyed (driver.entered request result) free := by
  have apart := given_apart driver free keyed idx (by simp [given])
  have proper : request.Proper := keyed.proper idx _ given
  obtain ⟨obj, read, done⟩ := Option.map_eq_some_iff.mp entered
  have written (nextIndex : Nat) : Keyed (driver.write idx { obj with nextIndex := nextIndex }) free :=
    keyed_write driver free keyed idx obj _ read (.inl apart) ⟨rfl, rfl, fun _ => rfl⟩
  rw [in_progress_key _ request proper] at done
  split at done
  · subst done
    have still : Function.update driver.calls idx (some ⟨request, false⟩) = driver.calls := by
      rw [← given, Function.update_eq_self]
    rw [Driver.entered, still]
    exact keyed_heads _ free (written driver.cb.pendingPoolIdx) idx driver.cb.activePoolIdx
  · rename_i clear
    subst done
    have moved := written driver.cb.activePoolIdx
    have nobody (other : Nat) (held : Request) (holds : driver.calls other = some ⟨held, true⟩) : held.key ≠ request.key := by
      intro same
      exact clear ((keyed.bits _).mpr ⟨other, held, holds, by rw [same]⟩)
    have holder (other : Nat) (held : Request) :
        Function.update driver.calls idx (some (Call.mk request true)) other = some ⟨held, true⟩ ↔
          driver.calls other = some ⟨held, true⟩ ∨ other = idx ∧ held = request := by
      by_cases here : other = idx
      · rw [here, Function.update_self, given]
        simp [eq_comm]
      · rw [Function.update_of_ne here, or_iff_left fun both => here both.1]
    refine ⟨moved.inside, moved.chain, fun other member => ?_, fun other cell unused stored => ?_,
      given_update driver _ _ keyed.proper idx _ (fun _ same => Option.some.inj same ▸ proper),
      fun other call cell owner stored => ?_, fun first second one two holdsOne holdsTwo same => ?_,
      bits_set _ _ _ keyed.bits idx request proper holder⟩
    · have elsewhere : other ≠ idx := fun same => apart (same ▸ member)
      exact (Function.update_of_ne elsewhere _ _).trans (keyed.idle other member)
    · have elsewhere : other ≠ idx := by
        rintro rfl
        simp [Driver.entered] at unused
      exact moved.blank other cell ((Function.update_of_ne elsewhere _ _).symm.trans unused) stored
    · by_cases here : other = idx
      · obtain rfl : (⟨request, true⟩ : Call) = call := by simpa [Driver.entered, here] using owner
        exact moved.carries other ⟨request, false⟩ cell (here ▸ given) stored
      · exact moved.carries other call cell ((Function.update_of_ne here _ _).symm.trans owner) stored
    · rcases (holder first one).mp holdsOne with other | ⟨atFirst, rfl⟩
      · rcases (holder second two).mp holdsTwo with rival | ⟨_, rfl⟩
        · exact keyed.exclusive first second one two other rival same
        · exact absurd same (nobody first one other)
      · rcases (holder second two).mp holdsTwo with rival | ⟨atSecond, _⟩
        · exact absurd same.symm (nobody second two rival)
        · rw [atFirst, atSecond]

theorem wait_keyed (driver : Driver) (free : List Nat) (keyed : Keyed driver free) (request : Request) (proper : request.Proper)
    (result : DriverCb × Waited) (done : drvWaitForPoolObj driver.cb request.actionID request.socketID = some result) :
    ∃ left, Keyed (driver.entered request result) left := by
  unfold drvWaitForPoolObj at done
  split at done
  · rename_i available
    obtain ⟨taken, took, entered⟩ := Option.bind_eq_some_iff.mp done
    obtain ⟨rest, moved⟩ := take_keyed driver free keyed request taken proper available took
    have kept := enter_keyed _ rest moved driver.cb.freePoolIdx request (Function.update_self ..) result entered
    refine ⟨rest, ?_⟩
    obtain ⟨obj, _, same⟩ := Option.map_eq_some_iff.mp entered
    split at same
    · subst same
      simpa [Driver.entered] using kept
    · subst same
      simpa [Driver.entered] using kept
  · cases done
    exact ⟨free, keyed⟩

theorem signal_keyed (driver : Driver) (free : List Nat) (keyed : Keyed driver free) (obj : PoolObj) (signalled : DriverCb)
    (action : obj.actionID ≠ 0) (done : signalPending driver.cb obj = some signalled) :
    Keyed { driver with cb := signalled } free := by
  obtain ⟨found, sought, onward⟩ := Option.bind_eq_some_iff.mp done
  cases found with
  | none =>
      cases onward
      exact keyed
  | some pendingIndex =>
      obtain ⟨cell, stored, matched⟩ := Base.seek_found _ _ _ _ sought
      have given : driver.calls pendingIndex ≠ none := by
        intro unused
        have same : cell.actionID = obj.actionID := by
          rw [wanted, Bool.and_eq_true, beq_iff_eq] at matched
          exact matched.1
        exact action (same.symm.trans (keyed.blank pendingIndex cell unused stored).1)
      obtain ⟨⟨left, start⟩, removed, further⟩ := Option.bind_eq_some_iff.mp onward
      obtain ⟨pending, read, rfl⟩ := Option.map_eq_some_iff.mp further
      have shorter := remove_keyed driver free keyed _ pendingIndex start left (given_apart driver free keyed _ given) removed
      have raised := keyed_write _ free shorter pendingIndex pending { pending with syncObj := true } read (.inr rfl)
        ⟨rfl, rfl, fun _ => rfl⟩
      exact keyed_heads _ free raised start driver.cb.activePoolIdx

-- The object is blank and in no call's hands, but not yet in the free list.
theorem clear_keyed (driver : Driver) (free : List Nat) (keyed : Keyed driver free) (idx : Nat) (obj : PoolObj) (held : Request)
    (holds : driver.calls idx = some ⟨held, true⟩) (read : driver.cb.objPool idx = some obj) :
    Keyed ⟨{ clearAction driver.cb obj with
        objPool := driver.cb.objPool.write idx { obj with pRespArgs := none, actionID := 0, additionalData := slMaxSockets } },
      Function.update driver.calls idx none⟩ free := by
  have absent := given_apart driver free keyed idx (by simp [holds])
  have key := cleared_key obj held (keyed.carries idx _ obj holds read)
  refine ⟨fun other cell stored => ?_, chain_apart driver.cb.objPool _ free idx _ keyed.chain absent, fun other member => ?_,
    fun other cell unowned stored => ?_, given_update driver _ _ keyed.proper idx none nofun,
    fun other call cell owner stored => ?_, fun first second one two holdsOne holdsTwo same => ?_, ?_⟩
  · by_cases here : other = idx
    · exact here ▸ keyed.inside idx obj read
    · exact keyed.inside other cell ((Heap.write_elsewhere _ _ _ _ here).symm.trans stored)
  · have apart : other ≠ idx := fun same => absent (same ▸ member)
    exact (Function.update_of_ne apart _ _).trans (keyed.idle other member)
  · change Heap.write _ _ _ other = some cell at stored
    by_cases here : other = idx
    · rw [here, Heap.write_here] at stored
      cases stored
      exact ⟨rfl, rfl⟩
    · rw [Heap.write_elsewhere _ _ _ _ here] at stored
      exact keyed.blank other cell ((Function.update_of_ne here _ _).symm.trans unowned) stored
  · have here : other ≠ idx := by
      rintro rfl
      simp at owner
    exact keyed.carries other call cell ((Function.update_of_ne here _ _).symm.trans owner)
      ((Heap.write_elsewhere _ _ _ _ here).symm.trans stored)
  · have before (other : Nat) (carried : Request) (owner : Function.update driver.calls idx none other = some ⟨carried, true⟩) :
        driver.calls other = some ⟨carried, true⟩ := by
      by_cases here : other = idx
      · simp [here] at owner
      · rwa [Function.update_of_ne here] at owner
    exact keyed.exclusive first second one two (before first one holdsOne) (before second two holdsTwo) same
  · rw [clearAction, key]
    refine bits_cleared _ _ _ keyed.bits idx held (fun other ahead owner => keyed.proper other _ owner) holds
      (fun other ahead owner same => keyed.exclusive other idx ahead held owner holds same) (fun other ahead => ?_)
      fun ahead owner => ?_
    · change Function.update driver.calls idx none other = some ⟨ahead, true⟩ ↔ _
      by_cases here : other = idx
      · simp [here]
      · rw [Function.update_of_ne here, and_iff_left here]
    · simpa [holds, eq_comm] using owner

theorem free_keyed (driver : Driver) (free : List Nat) (keyed : Keyed driver free) (idx : Nat) (obj : PoolObj)
    (unused : driver.calls idx = none) (absent : idx ∉ free) (read : driver.cb.objPool idx = some obj) :
    Keyed { driver with cb := { driver.cb with
      objPool := driver.cb.objPool.write idx { obj with nextIndex := driver.cb.freePoolIdx }, freePoolIdx := idx } }
      (idx :: free) := by
  have linked := keyed_write driver free keyed idx obj { obj with nextIndex := driver.cb.freePoolIdx } read (.inl absent)
    ⟨rfl, rfl, fun _ => rfl⟩
  refine ⟨linked.inside, ?_, fun other member => ?_, linked.blank, linked.proper, linked.carries, linked.exclusive, linked.bits⟩
  · change Chain PoolObj.next _ (inPool idx) _
    rw [inPool, if_pos (keyed.inside idx obj read)]
    exact Base.chain_push _ free idx _ keyed.chain absent rfl
  · rcases List.mem_cons.mp member with rfl | later
    · exact unused
    · exact keyed.idle other later

theorem release_keyed (driver : Driver) (free : List Nat) (keyed : Keyed driver free) (idx : Nat) (held : Request) (freed : DriverCb)
    (holds : driver.calls idx = some ⟨held, true⟩) (done : drvReleasePoolObj driver.cb idx = some freed) :
    Keyed ⟨freed, Function.update driver.calls idx none⟩ (idx :: free) := by
  obtain ⟨obj, read, onward⟩ := Option.bind_eq_some_iff.mp done
  obtain ⟨signalled, raised, further⟩ := Option.bind_eq_some_iff.mp onward
  obtain ⟨again, reread, freeing⟩ := Option.bind_eq_some_iff.mp further
  have action : obj.actionID ≠ 0 := by
    rw [(keyed.carries idx _ obj holds read).1]
    intro zero
    have low := (keyed.proper idx _ holds).2.1
    rw [zero] at low
    exact absurd low (by decide)
  have woken := signal_keyed driver free keyed obj signalled action raised
  have cleared := clear_keyed _ free woken idx again held holds reread
  have absent := given_apart driver free keyed idx (by simp [holds])
  obtain ⟨cell, stored, removal⟩ := Option.bind_eq_some_iff.mp freeing
  obtain rfl : again = cell := Option.some.inj (reread.symm.trans stored)
  obtain ⟨⟨left, start⟩, removed, last⟩ := Option.bind_eq_some_iff.mp removal
  obtain ⟨item, itemRead, rfl⟩ := Option.map_eq_some_iff.mp last
  have shorter := remove_keyed _ free cleared _ idx start left absent removed
  have headed := keyed_heads _ free shorter signalled.pendingPoolIdx start
  exact free_keyed _ free headed idx item (Function.update_self ..) absent itemRead

theorem step_keyed (driver after : Driver) (free : List Nat) (keyed : Keyed driver free) (action : Action)
    (asked : Asked driver action) (taken : step driver action = some after) : ∃ left, Keyed after left := by
  have touched (idx : Nat) (old new : PoolObj) (read : driver.cb.objPool idx = some old) (test : Prop) [Decidable test]
      (holds : test → driver.holds idx = true) (link : new.nextIndex = old.nextIndex)
      (kept : new.actionID = old.actionID) (socket : new.socket = old.socket)
      (done : (if test then some (driver.write idx new) else none) = some after) : ∃ left, Keyed after left := by
    split at done
    · cases done
      refine ⟨free, keyed_write driver free keyed idx old new read (.inr link) ⟨kept, socket, fun none => ?_⟩⟩
      have owner := holds ‹_›
      cases call : driver.calls idx with
      | none => simp [Driver.holds, call] at owner
      | some _ => simp [call] at none
    · cases done
  cases action with
  | waitForPoolObj request =>
      obtain ⟨result, done, rfl⟩ := Option.map_eq_some_iff.mp taken
      exact wait_keyed driver free keyed request asked result done
  | wake idx =>
      obtain ⟨call, owner, onward⟩ := Option.bind_eq_some_iff.mp taken
      obtain ⟨obj, read, done⟩ := Option.bind_eq_some_iff.mp onward
      split at done
      · rename_i waits
        obtain ⟨result, entered, rfl⟩ := Option.map_eq_some_iff.mp done
        have lowered := keyed_write driver free keyed idx obj { obj with syncObj := false } read (.inr rfl)
          ⟨rfl, rfl, fun _ => rfl⟩
        have given : driver.calls idx = some ⟨call.toRequest, false⟩ := by rw [owner, ← waits.1]
        have kept := enter_keyed _ free lowered idx call.toRequest given result entered
        obtain ⟨cb, waited⟩ := result
        cases waited <;> exact ⟨free, kept⟩
      · cases done
  | setRespArgs idx pRespArgs =>
      obtain ⟨obj, read, done⟩ := Option.bind_eq_some_iff.mp taken
      exact touched idx obj { obj with pRespArgs := some pRespArgs } read _ id rfl rfl rfl done
  | setFamily idx =>
      obtain ⟨obj, read, done⟩ := Option.bind_eq_some_iff.mp taken
      exact touched idx obj { obj with additionalData := obj.additionalData ||| slNetappFamilyMask } read _ id rfl rfl
        (family_socket obj.additionalData) done
  | signalResponse idx =>
      obtain ⟨obj, read, done⟩ := Option.bind_eq_some_iff.mp taken
      exact touched idx obj { obj with syncObj := true } read _ id rfl rfl rfl done
  | takeResponse idx =>
      obtain ⟨obj, read, done⟩ := Option.bind_eq_some_iff.mp taken
      exact touched idx obj { obj with syncObj := false } read _ And.left rfl rfl rfl done
  | releasePoolObj idx =>
      change (if driver.holds idx then _ else none) = some after at taken
      split at taken
      · rename_i holds
        obtain ⟨freed, done, rfl⟩ := Option.map_eq_some_iff.mp taken
        obtain ⟨held, holding⟩ := (holds_holding driver idx).mp holds
        exact ⟨idx :: free, release_keyed driver free keyed idx held freed ((slots_holding driver idx held).mp holding) done⟩
      · cases taken
  | handleError =>
      cases taken
      refine ⟨free, keyed_pool driver free keyed _ (fun idx _ => ?_) fun idx obj stored => ?_⟩
      · exact Option.map_map PoolObj.next _ _
      · obtain ⟨old, read, rfl⟩ := Option.map_eq_some_iff.mp stored
        exact ⟨old, read, rfl, rfl, fun _ => rfl⟩

-- No socket, and no action without a socket, is in the hands of two calls, and
-- the bitmap that decides who waits says which are taken: also after an error
-- of the driver, when calls wait in vain and the other lists may be rings.
theorem one_holder_per_key (driver : Driver) (reached : Reach step Asked Driver.start driver) :
    (∀ first second one two, driver.calls first = some ⟨one, true⟩ → driver.calls second = some ⟨two, true⟩ →
      one.key = two.key → first = second) ∧
    ∀ request : Request, request.Proper →
      (actionInProgress driver.cb.activeActionsBitmap request.actionID request.socketID = true ↔
        ∃ objIdx held, driver.calls objIdx = some ⟨held, true⟩ ∧ held.key = request.key) := by
  obtain ⟨free, keyed⟩ : ∃ free, Keyed driver free :=
    Base.reach_invariant step Asked Driver.start (fun driver => ∃ free, Keyed driver free) ⟨_, start_keyed⟩
      (fun before action after ⟨free, keyed⟩ asked taken => step_keyed before after free keyed action asked taken) driver reached
  refine ⟨keyed.exclusive, fun request proper => ?_⟩
  rw [in_progress_key _ _ proper, keyed.bits]
  simp only [BitVec.toNat_inj]

-- Two calls receive on one socket when the driver handles an error: the second
-- wakes, finds the socket taken and enters the pending list that it is in. The
-- first leaves the signal of the error in its object, which the third gets.
def errorHandled : List Action :=
  [.waitForPoolObj ⟨recvId, 3⟩, .waitForPoolObj ⟨recvId, 3⟩, .handleError, .wake 1, .releasePoolObj 0,
    .waitForPoolObj ⟨recvId, 3⟩, .wake 1]

def erredPool : Driver := (Base.run (Base.guarded step Asked) Driver.start errorHandled).getD Driver.start

theorem one_holder_per_key_error : ¬ ∃ objIdx held, objIdx ≠ 0 ∧ erredPool.calls objIdx = some ⟨held, true⟩ ∧
    held.key = Request.key ⟨recvId, 3⟩ := fun ⟨objIdx, held, other, holds, same⟩ =>
  other ((one_holder_per_key erredPool (Base.guarded_run_reach step Asked Driver.start erredPool errorHandled rfl)).1 objIdx 0
    held ⟨recvId, 3⟩ holds rfl same)

end Miso.ObjPool
