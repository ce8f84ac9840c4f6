import Mathlib.Data.List.Perm.Subperm
import Miso.SimpleLinkPool

set_option autoImplicit false

namespace Miso.ObjPool

open Base (Heap Chain Step Reach seek)

theorem one_bit (position : BitVec 8) (index : Nat) (small : position.toNat < 32) :
    (oneBit position).getLsbD index = decide (index = position.toNat) := by
  rw [oneBit, BitVec.getLsbD_shiftLeft, BitVec.getLsbD_one]
  grind

theorem and_one_bit (bitmap : BitVec 32) (position : BitVec 8) (small : position.toNat < 32) :
    (bitmap &&& oneBit position != 0) = bitmap.getLsbD position.toNat := by
  cases read : bitmap.getLsbD position.toNat with
  | true =>
      refine bne_iff_ne.mpr fun cleared => ?_
      have bit := congrArg (BitVec.getLsbD · position.toNat) cleared
      simp [one_bit position _ small, read] at bit
  | false =>
      refine bne_eq_false_iff_eq.mpr (BitVec.eq_of_getLsbD_eq fun index _ => ?_)
      rw [BitVec.getLsbD_and, one_bit position index small]
      by_cases here : index = position.toNat <;> simp [here, read]

theorem proper_bound (request : Request) (proper : request.Proper) :
    request.key.toNat < 32 ∧ request.actionID.toNat < 32 ∧ request.socketID.toNat < 32 := by
  obtain ⟨socket, _, action⟩ := proper
  have socketBound : request.socketID.toNat ≤ 8 := BitVec.le_def.mp socket
  have actionBound : request.actionID.toNat ≤ 15 := BitVec.le_def.mp action
  refine ⟨?_, by omega, by omega⟩
  unfold Request.key
  split <;> omega

theorem in_progress_key (bitmap : BitVec 32) (request : Request) (proper : request.Proper) :
    actionInProgress bitmap request.actionID request.socketID = bitmap.getLsbD request.key.toNat := by
  obtain ⟨_, action, socket⟩ := proper_bound request proper
  rw [actionInProgress, and_one_bit bitmap _ socket, and_one_bit bitmap _ action]
  by_cases here : request.socketID < slMaxSockets
  · have apart : (slMaxSockets == request.socketID) = false := by
      refine beq_eq_false_iff_ne.mpr fun same => ?_
      exact absurd (same ▸ here) (BitVec.lt_irrefl _)
    rw [decide_eq_true here, apart, Request.key, if_pos here, Bool.true_and, Bool.and_false, Bool.or_false]
  · have same : request.socketID = slMaxSockets := BitVec.le_antisymm proper.1 (BitVec.not_lt.mp here)
    rw [decide_eq_false here, same, Request.key, if_neg here, beq_self_eq_true, Bool.false_and, Bool.false_or, Bool.and_true]

-- Every bit of a bitmap is the key of a request that somebody holds.
def Bits (bitmap : BitVec 32) (holds : Nat → Request → Prop) : Prop :=
  ∀ index, bitmap.getLsbD index = true ↔ ∃ idx held, holds idx held ∧ held.key.toNat = index

theorem bits_set (bitmap : BitVec 32) (holds after : Nat → Request → Prop) (bits : Bits bitmap holds) (idx : Nat)
    (request : Request) (proper : request.Proper) (entered : ∀ other held, after other held ↔ holds other held ∨
      other = idx ∧ held = request) : Bits (bitmap ||| oneBit request.key) after := by
  intro index
  rw [BitVec.getLsbD_or, Bool.or_eq_true, bits index, one_bit _ index (proper_bound request proper).1, decide_eq_true_eq]
  constructor
  · rintro (⟨other, held, holding, same⟩ | same)
    · exact ⟨other, held, (entered other held).mpr (.inl holding), same⟩
    · exact ⟨idx, request, (entered idx request).mpr (.inr ⟨rfl, rfl⟩), same.symm⟩
  · rintro ⟨other, held, holding, same⟩
    rcases (entered other held).mp holding with before | ⟨_, rfl⟩
    · exact .inl ⟨other, held, before, same⟩
    · exact .inr same.symm

theorem bits_cleared (bitmap : BitVec 32) (holds after : Nat → Request → Prop) (bits : Bits bitmap holds) (idx : Nat)
    (request : Request) (proper : ∀ other held, holds other held → held.Proper) (holder : holds idx request)
    (alone : ∀ other held, holds other held → held.key = request.key → other = idx)
    (left : ∀ other held, after other held ↔ holds other held ∧ other ≠ idx)
    (only : ∀ held, holds idx held → held = request) : Bits (bitmap &&& ~~~ oneBit request.key) after := by
  intro index
  rw [BitVec.getLsbD_and, Bool.and_eq_true, bits index, BitVec.getLsbD_not,
    one_bit _ index (proper_bound request (proper idx request holder)).1, Bool.and_eq_true, decide_eq_true_eq,
    Bool.not_eq_true', decide_eq_false_iff_not]
  constructor
  · rintro ⟨⟨other, held, holding, same⟩, _, differs⟩
    refine ⟨other, held, (left other held).mpr ⟨holding, ?_⟩, same⟩
    rintro rfl
    exact differs (by rw [← same, only held holding])
  · rintro ⟨other, held, holding, same⟩
    obtain ⟨before, elsewhere⟩ := (left other held).mp holding
    refine ⟨⟨other, held, before, same⟩, same ▸ (proper_bound held (proper other held before)).1, fun equal => elsewhere ?_⟩
    exact alone other held before (BitVec.eq_of_toNat_eq (same.trans equal))

theorem next_end (obj : PoolObj) (small : obj.nextIndex ≤ maxConcurrentActions) :
    obj.next = none ↔ obj.nextIndex = maxConcurrentActions := by
  unfold PoolObj.next inPool
  grind

theorem in_pool_some (idx address : Nat) (here : inPool idx = some address) : idx = address ∧ idx < maxConcurrentActions := by
  unfold inPool at here
  grind

def PoolObj.unlinked (obj : PoolObj) : PoolObj := { obj with nextIndex := 0 }

def Small (objPool : Heap Nat PoolObj) : Prop :=
  ∀ idx obj, objPool idx = some obj → obj.nextIndex ≤ maxConcurrentActions

theorem small_write (objPool : Heap Nat PoolObj) (idx : Nat) (obj : PoolObj) (small : Small objPool)
    (bound : obj.nextIndex ≤ maxConcurrentActions) : Small (objPool.write idx obj) := by
  intro other cell read
  by_cases here : other = idx
  · rw [here, Heap.write_here] at read
    exact Option.some.inj read ▸ bound
  · rw [Heap.write_elsewhere _ _ _ _ here] at read
    exact small other cell read

theorem write_unlinked (objPool : Heap Nat PoolObj) (idx : Nat) (old new : PoolObj) (read : objPool idx = some old)
    (same : new.unlinked = old.unlinked) (other : Nat) :
    (objPool.write idx new other).map PoolObj.unlinked = (objPool other).map PoolObj.unlinked := by
  by_cases here : other = idx
  · rw [here, Heap.write_here, read, Option.map_some, Option.map_some, same]
  · rw [Heap.write_elsewhere _ _ _ _ here]

-- _SlRemoveFromList on a list that holds the item: it ends, and what is left
-- is the list without the item. Only links change, none of a later object.
theorem remove_from_list (objPool : Heap Nat PoolObj) (listIndex item : Nat) (before after : List Nat)
    (small : Small objPool) (chain : Chain PoolObj.next objPool (inPool listIndex) (before ++ item :: after))
    (short : (before ++ item :: after).length ≤ maxConcurrentActions) :
    ∃ left start, removeFromList objPool listIndex item = some (left, start) ∧ start ≤ maxConcurrentActions ∧ Small left ∧
      Chain PoolObj.next left (inPool start) (before ++ after) ∧ (∀ idx, idx ∉ before → left idx = objPool idx) ∧
      ∀ idx, (left idx).map PoolObj.unlinked = (objPool idx).map PoolObj.unlinked := by
  have distinct := Base.chain_nodup _ _ chain
  obtain ⟨first, rest, shape⟩ : ∃ first rest, before ++ item :: after = first :: rest := by
    cases before <;> exact ⟨_, _, rfl⟩
  have starts := Base.segment_head _ none first rest (shape ▸ chain)
  obtain ⟨rfl, inside⟩ := in_pool_some listIndex first starts
  obtain ⟨cell, read⟩ := Base.segment_reads _ _ none chain listIndex (by rw [shape]; exact List.mem_cons_self)
  obtain ⟨itemCell, itemRead⟩ := Base.segment_reads _ _ none chain item (by simp)
  rw [removeFromList, read, Option.bind_some]
  by_cases single : cell.nextIndex = maxConcurrentActions
  · have ends := (next_end cell (small listIndex cell read)).mpr single
    obtain ⟨rfl, rfl, rfl⟩ : before = [] ∧ item = listIndex ∧ after = [] := by
      rw [shape, starts] at chain
      cases chain with
      | cons _ other _ _ reread tail =>
          obtain rfl : cell = other := Option.some.inj (read.symm.trans reread)
          rw [ends] at tail
          cases rest with
          | cons _ _ => cases tail
          | nil =>
              cases before with
              | nil => simpa using shape
              | cons _ more => simp at shape
    rw [if_pos single]
    exact ⟨objPool, maxConcurrentActions, rfl, Nat.le_refl _, small, .nil none, fun _ _ => rfl, fun _ => rfl⟩
  · rw [if_neg single]
    cases List.eq_nil_or_concat before with
    | inl empty =>
        subst empty
        obtain ⟨rfl, rfl⟩ : item = listIndex ∧ after = rest := by simpa using shape
        rw [if_pos rfl, itemRead, Option.map_some]
        refine ⟨objPool, itemCell.nextIndex, rfl, small item itemCell itemRead, small, ?_, fun _ _ => rfl, fun _ => rfl⟩
        rw [starts] at chain
        cases chain with
        | cons _ other _ _ reread tail =>
            obtain rfl : itemCell = other := Option.some.inj (itemRead.symm.trans reread)
            exact tail
    | inr more =>
        obtain ⟨init, parent, last⟩ := more
        rw [List.concat_eq_append] at last
        subst last
        have differs : listIndex ≠ item := by
          rintro rfl
          have early : listIndex ∈ init ++ [parent] := by
            cases init with
            | nil => simp_all
            | cons head tail => simp_all
          exact List.disjoint_of_nodup_append distinct early List.mem_cons_self
        have enough : init.length < maxConcurrentActions := by
          simp only [List.length_append, List.length_cons, List.length_nil] at short
          omega
        obtain ⟨parentCell, parentRead⟩ := Base.segment_reads _ _ none chain parent (by simp)
        rw [if_neg differs, Base.seek_parent init after parent item _ _ chain enough, Option.bind_some]
        simp only [parentRead, itemRead, Option.bind_some, Option.map_some]
        refine ⟨_, listIndex, rfl, Nat.le_of_lt inside, ?_, ?_, ?_, ?_⟩
        · exact small_write objPool parent _ small (small item itemCell itemRead)
        · exact Base.chain_skip _ init after parent item itemCell _ chain itemRead rfl
        · intro idx absent
          refine Heap.write_elsewhere _ _ _ _ ?_
          rintro rfl
          exact absent (by simp)
        · exact write_unlinked objPool parent parentCell _ parentRead rfl

structure Agrees (obj : PoolObj) (slot : Slot) : Prop where
  idle : slot = .idle → obj.syncObj = false ∧ obj.additionalData = slMaxSockets
  carries : ∀ request, slot.request = some request → obj.actionID = request.actionID ∧
    obj.socket = if request.socketID < slMaxSockets then request.socketID else slMaxSockets
  plain : ∀ request, slot.request = some request → request.actionID ≠ getHostByNameId → obj.additionalData = obj.socket

def IsWaiting (slot : Slot) : Prop := ∃ request, slot = .waiting request

def IsHolding (slot : Slot) : Prop := ∃ request, slot = .holding request

-- The three lists of the control block keep the objects by what they are to
-- the calls, and the bitmap has the keys of the calls that hold one.
structure Rep (cb : DriverCb) (slots : Nat → Slot) (free pending active : List Nat) : Prop where
  allocated : ∀ idx, (∃ obj, cb.objPool idx = some obj) ↔ idx < maxConcurrentActions
  small : Small cb.objPool
  freeStart : cb.freePoolIdx ≤ maxConcurrentActions
  pendingStart : cb.pendingPoolIdx ≤ maxConcurrentActions
  activeStart : cb.activePoolIdx ≤ maxConcurrentActions
  freeChain : Chain PoolObj.next cb.objPool (inPool cb.freePoolIdx) free
  pendingChain : Chain PoolObj.next cb.objPool (inPool cb.pendingPoolIdx) pending
  activeChain : Chain PoolObj.next cb.objPool (inPool cb.activePoolIdx) active
  memFree : ∀ idx, idx ∈ free ↔ idx < maxConcurrentActions ∧ slots idx = .idle
  memPending : ∀ idx, idx ∈ pending ↔ IsWaiting (slots idx)
  memActive : ∀ idx, idx ∈ active ↔ IsHolding (slots idx)
  agrees : ∀ idx obj, cb.objPool idx = some obj → Agrees obj (slots idx)
  inside : ∀ idx, slots idx ≠ .idle → idx < maxConcurrentActions
  proper : Requests slots Request.Proper
  bits : Bits cb.activeActionsBitmap fun idx held => slots idx = .holding held

theorem mem_push (nodes : List Nat) (slots : Nat → Slot) (belongs : Nat → Slot → Prop) (idx : Nat) (slot : Slot)
    (members : ∀ other, other ∈ nodes ↔ belongs other (slots other)) (fits : belongs idx slot) :
    ∀ other, other ∈ idx :: nodes ↔ belongs other (Function.update slots idx slot other) := by
  intro other
  by_cases here : other = idx
  · rw [here, Function.update_self]
    exact iff_of_true List.mem_cons_self fits
  · rw [Function.update_of_ne here, ← members other, List.mem_cons, or_iff_right here]

theorem mem_apart (nodes : List Nat) (slots : Nat → Slot) (belongs : Nat → Slot → Prop) (idx : Nat) (slot : Slot)
    (members : ∀ other, other ∈ nodes ↔ belongs other (slots other)) (old : ¬ belongs idx (slots idx))
    (new : ¬ belongs idx slot) : ∀ other, other ∈ nodes ↔ belongs other (Function.update slots idx slot other) := by
  intro other
  by_cases here : other = idx
  · rw [here, Function.update_self, members idx]
    exact iff_of_false old new
  · rw [Function.update_of_ne here, members other]

theorem mem_drop (before after : List Nat) (slots : Nat → Slot) (belongs : Nat → Slot → Prop) (idx : Nat) (slot : Slot)
    (distinct : (before ++ idx :: after).Nodup)
    (members : ∀ other, other ∈ before ++ idx :: after ↔ belongs other (slots other)) (new : ¬ belongs idx slot) :
    ∀ other, other ∈ before ++ after ↔ belongs other (Function.update slots idx slot other) := by
  intro other
  by_cases here : other = idx
  · rw [here, Function.update_self]
    refine iff_of_false ?_ new
    simpa using (List.nodup_cons.mp (List.nodup_middle.mp distinct)).1
  · rw [Function.update_of_ne here, ← members other]
    simp [here]

theorem requests_update (slots : Nat → Slot) (holds : Request → Prop) (idx : Nat) (slot : Slot) (requests : Requests slots holds)
    (new : ∀ request, slot.request = some request → holds request) : Requests (Function.update slots idx slot) holds := by
  intro other request carried
  by_cases here : other = idx
  · rw [here, Function.update_self] at carried
    exact new request carried
  · rw [Function.update_of_ne here] at carried
    exact requests other request carried

theorem inside_update (slots : Nat → Slot) (idx : Nat) (slot : Slot) (inside : ∀ other, slots other ≠ .idle → other < maxConcurrentActions)
    (bound : idx < maxConcurrentActions) :
    ∀ other, Function.update slots idx slot other ≠ .idle → other < maxConcurrentActions := by
  intro other busy
  by_cases here : other = idx
  · exact here ▸ bound
  · rw [Function.update_of_ne here] at busy
    exact inside other busy

theorem allocated_write (objPool : Heap Nat PoolObj) (idx : Nat) (obj : PoolObj)
    (allocated : ∀ other, (∃ cell, objPool other = some cell) ↔ other < maxConcurrentActions) (bound : idx < maxConcurrentActions) :
    ∀ other, (∃ cell, objPool.write idx obj other = some cell) ↔ other < maxConcurrentActions := by
  intro other
  by_cases here : other = idx
  · rw [here, Heap.write_here]
    exact iff_of_true ⟨obj, rfl⟩ bound
  · rw [Heap.write_elsewhere _ _ _ _ here, allocated other]

theorem agrees_write (objPool : Heap Nat PoolObj) (slots : Nat → Slot) (idx : Nat) (obj : PoolObj) (slot : Slot)
    (agrees : ∀ other cell, objPool other = some cell → Agrees cell (slots other)) (new : Agrees obj slot) :
    ∀ other cell, objPool.write idx obj other = some cell → Agrees cell (Function.update slots idx slot other) := by
  intro other cell read
  by_cases here : other = idx
  · rw [here, Heap.write_here] at read
    rw [here, Function.update_self]
    exact Option.some.inj read ▸ new
  · rw [Heap.write_elsewhere _ _ _ _ here] at read
    rw [Function.update_of_ne here]
    exact agrees other cell read

theorem chain_apart (objPool : Heap Nat PoolObj) (head : Option Nat) (nodes : List Nat) (idx : Nat) (obj : PoolObj)
    (chain : Chain PoolObj.next objPool head nodes) (apart : idx ∉ nodes) :
    Chain PoolObj.next (objPool.write idx obj) head nodes := by
  refine Base.segment_frame _ head none nodes (fun other member => Heap.write_elsewhere _ _ _ _ ?_) chain
  rintro rfl
  exact apart member

theorem signalled_write (objPool : Heap Nat PoolObj) (idx : Nat) (old new : PoolObj) (read : objPool idx = some old)
    (same : new.syncObj = old.syncObj) (other : Nat) : signalled (objPool.write idx new) other = signalled objPool other := by
  unfold signalled
  by_cases here : other = idx
  · rw [here, Heap.write_here, read, Option.any_some, Option.any_some, same]
  · rw [Heap.write_elsewhere _ _ _ _ here]

theorem socket_mask (socketID : BitVec 8) (bound : socketID ≤ slMaxSockets) : socketID &&& bsdSocketIdMask = socketID := by
  have small : socketID.toNat ≤ 8 := BitVec.le_def.mp bound
  refine BitVec.eq_of_toNat_eq ?_
  rw [BitVec.toNat_and]
  change socketID.toNat &&& (2 ^ 4 - 1) = socketID.toNat
  rw [Nat.and_two_pow_sub_one_eq_mod]
  omega

theorem holders_apart (slots : Nat → Slot) (idx : Nat) (slot : Slot) (old : ¬ IsHolding (slots idx)) (new : ¬ IsHolding slot)
    (meets : Request → Prop) :
    (∃ other held, Function.update slots idx slot other = .holding held ∧ meets held) ↔
      ∃ other held, slots other = .holding held ∧ meets held := by
  constructor
  · rintro ⟨other, held, holding, met⟩
    by_cases here : other = idx
    · rw [here, Function.update_self] at holding
      exact absurd ⟨held, holding⟩ new
    · rw [Function.update_of_ne here] at holding
      exact ⟨other, held, holding, met⟩
  · rintro ⟨other, held, holding, met⟩
    by_cases here : other = idx
    · exact absurd ⟨held, here ▸ holding⟩ old
    · exact ⟨other, held, by rwa [Function.update_of_ne here], met⟩

theorem take_free (cb : DriverCb) (slots : Nat → Slot) (free pending active : List Nat)
    (rep : Rep cb slots free pending active) (request : Request) (proper : request.Proper)
    (available : cb.freePoolIdx < maxConcurrentActions) :
    ∃ rest taken, slots cb.freePoolIdx = .idle ∧ takeFree cb request.actionID request.socketID = some taken ∧
      Rep taken (Function.update slots cb.freePoolIdx (.woken request)) rest pending active ∧
      signalled taken.objPool cb.freePoolIdx = false ∧
      ∀ other, signalled taken.objPool other = signalled cb.objPool other := by
  obtain ⟨idx, here⟩ : ∃ idx, cb.freePoolIdx = idx := ⟨_, rfl⟩
  rw [here] at available ⊢
  have chain := rep.freeChain
  rw [here, inPool, if_pos available] at chain
  cases chain with
  | cons _ obj rest _ read tail =>
      have idle : slots idx = .idle := ((rep.memFree idx).mp List.mem_cons_self).2
      have data := (rep.agrees idx obj read).idle idle
      have distinct := List.nodup_cons.mp (Base.chain_nodup _ _ rep.freeChain)
      obtain ⟨new, changed⟩ : ∃ new, new = { obj with
          actionID := request.actionID
          additionalData := if request.socketID < slMaxSockets then request.socketID else obj.additionalData } := ⟨_, rfl⟩
      have sync (other : Nat) : signalled (cb.objPool.write idx new) other = signalled cb.objPool other :=
        signalled_write cb.objPool idx obj new read (by rw [changed]) other
      have bound : obj.nextIndex ≤ maxConcurrentActions := rep.small idx obj read
      have field : new.additionalData = (if request.socketID < slMaxSockets then request.socketID else slMaxSockets) ∧
          new.socket = (if request.socketID < slMaxSockets then request.socketID else slMaxSockets) := by
        rw [PoolObj.socket, changed, data.2]
        by_cases socket : request.socketID < slMaxSockets
        · rw [if_pos socket]
          exact ⟨rfl, socket_mask _ proper.1⟩
        · rw [if_neg socket]
          exact ⟨rfl, socket_mask _ (BitVec.le_refl _)⟩
      have remaining : (if obj.nextIndex < maxConcurrentActions then obj.nextIndex else maxConcurrentActions) = obj.nextIndex := by
        split <;> omega
      refine ⟨rest, _, idle, by rw [takeFree, here, read, Option.map_some, ← changed, remaining], ?_, ?_, sync⟩
      · refine ⟨allocated_write _ _ _ rep.allocated available, small_write _ _ _ rep.small (changed ▸ bound), bound,
          rep.pendingStart, rep.activeStart, chain_apart _ _ _ _ _ tail distinct.1, chain_apart _ _ _ _ _ rep.pendingChain ?_,
          chain_apart _ _ _ _ _ rep.activeChain ?_, ?_, ?_, ?_, agrees_write _ _ _ _ _ rep.agrees ⟨nofun, ?_, ?_⟩,
          inside_update _ _ _ rep.inside available, requests_update _ _ _ _ rep.proper ?_, ?_⟩
        · rw [rep.memPending idx, idle]
          rintro ⟨_, ⟨⟩⟩
        · rw [rep.memActive idx, idle]
          rintro ⟨_, ⟨⟩⟩
        · exact mem_drop [] rest slots (fun other slot => other < maxConcurrentActions ∧ slot = .idle) idx _
            (Base.chain_nodup _ _ rep.freeChain) rep.memFree (by simp)
        · exact mem_apart pending slots (fun _ => IsWaiting) idx _ rep.memPending (by simp [IsWaiting, idle]) (by simp [IsWaiting])
        · exact mem_apart active slots (fun _ => IsHolding) idx _ rep.memActive (by simp [IsHolding, idle]) (by simp [IsHolding])
        · intro other same
          cases same
          exact ⟨by rw [changed], field.2⟩
        · intro other same _
          exact field.1.trans field.2.symm
        · intro other same
          cases same
          exact proper
        · intro index
          rw [rep.bits index]
          exact (holders_apart slots idx _ (by simp [IsHolding, idle]) (by simp [IsHolding]) _).symm
      · rw [sync idx, signalled, read, Option.any_some, data.1]

theorem busy_bit (cb : DriverCb) (slots : Nat → Slot) (free pending active : List Nat)
    (rep : Rep cb slots free pending active) (request : Request) (proper : request.Proper) :
    actionInProgress cb.activeActionsBitmap request.actionID request.socketID = true ↔ Busy slots request := by
  rw [in_progress_key _ _ proper, rep.bits]
  unfold Busy
  simp only [BitVec.toNat_inj]

theorem enter_action (cb : DriverCb) (slots : Nat → Slot) (free pending active : List Nat)
    (rep : Rep cb slots free pending active) (idx : Nat) (request : Request) (woken : slots idx = .woken request) :
    ∃ entered, (∀ other, signalled entered.objPool other = signalled cb.objPool other) ∧
      (Busy slots request ∧ enterAction cb idx request.actionID request.socketID = some (entered, .pending idx) ∧
          Rep entered (Function.update slots idx (.waiting request)) free (idx :: pending) active ∨
        ¬ Busy slots request ∧ enterAction cb idx request.actionID request.socketID = some (entered, .active idx) ∧
          Rep entered (Function.update slots idx (.holding request)) free pending (idx :: active)) := by
  have bound : idx < maxConcurrentActions := rep.inside idx (by simp [woken])
  have proper : request.Proper := rep.proper idx request (by rw [woken]; rfl)
  obtain ⟨obj, read⟩ := (rep.allocated idx).mpr bound
  have data := rep.agrees idx obj read
  have notFree : idx ∉ free := by simp [rep.memFree, woken]
  have notPending : idx ∉ pending := by simp [rep.memPending, IsWaiting, woken]
  have notActive : idx ∉ active := by simp [rep.memActive, IsHolding, woken]
  have here : inPool idx = some idx := if_pos bound
  have carried (slot : Slot) (same : slot.request = some request) (other : Request) (taken : slot.request = some other) :
      other.Proper := Option.some.inj (same.symm.trans taken) ▸ proper
  have fits (link : Nat) (slot : Slot) (same : slot.request = some request) (busy : slot ≠ .idle) :
      Agrees { obj with nextIndex := link } slot := by
    refine ⟨fun idle => absurd idle busy, fun other taken => ?_, fun other taken => ?_⟩
    · obtain rfl := Option.some.inj (same.symm.trans taken)
      exact data.carries request (by rw [woken]; rfl)
    · obtain rfl := Option.some.inj (same.symm.trans taken)
      exact data.plain request (by rw [woken]; rfl)
  cases busy : actionInProgress cb.activeActionsBitmap request.actionID request.socketID with
  | true =>
      refine ⟨_, fun other => signalled_write cb.objPool idx obj { obj with nextIndex := cb.pendingPoolIdx } read rfl other,
        .inl ⟨(busy_bit cb slots free pending active rep request proper).mp busy,
          by rw [enterAction, read, Option.map_some, busy, if_pos rfl], ?_⟩⟩
      refine ⟨allocated_write _ _ _ rep.allocated bound, small_write _ _ _ rep.small rep.pendingStart, rep.freeStart,
        Nat.le_of_lt bound, rep.activeStart, chain_apart _ _ _ _ _ rep.freeChain notFree, ?_,
        chain_apart _ _ _ _ _ rep.activeChain notActive, ?_, ?_, ?_,
        agrees_write _ _ _ _ _ rep.agrees (fits _ _ rfl nofun), inside_update _ _ _ rep.inside bound,
        requests_update _ _ _ _ rep.proper (carried _ rfl), fun index => ?_⟩
      · rw [here]
        exact Base.chain_push _ pending idx _ rep.pendingChain notPending rfl
      · exact mem_apart free slots (fun other slot => other < maxConcurrentActions ∧ slot = .idle) idx _ rep.memFree
          (by simp [woken]) (by simp)
      · exact mem_push pending slots (fun _ => IsWaiting) idx _ rep.memPending ⟨request, rfl⟩
      · exact mem_apart active slots (fun _ => IsHolding) idx _ rep.memActive (by simp [IsHolding, woken]) (by simp [IsHolding])
      · rw [rep.bits index]
        exact (holders_apart slots idx _ (by simp [IsHolding, woken]) (by simp [IsHolding]) _).symm
  | false =>
      have clear : ¬ Busy slots request := by
        rw [← busy_bit cb slots free pending active rep request proper, busy]
        exact Bool.false_ne_true
      refine ⟨_, fun other => signalled_write cb.objPool idx obj { obj with nextIndex := cb.activePoolIdx } read rfl other,
        .inr ⟨clear, by rw [enterAction, read, Option.map_some, busy, if_neg Bool.false_ne_true], ?_⟩⟩
      refine ⟨allocated_write _ _ _ rep.allocated bound, small_write _ _ _ rep.small rep.activeStart, rep.freeStart,
        rep.pendingStart, Nat.le_of_lt bound, chain_apart _ _ _ _ _ rep.freeChain notFree,
        chain_apart _ _ _ _ _ rep.pendingChain notPending, ?_, ?_, ?_, ?_,
        agrees_write _ _ _ _ _ rep.agrees (fits _ _ rfl nofun), inside_update _ _ _ rep.inside bound,
        requests_update _ _ _ _ rep.proper (carried _ rfl), fun index => ?_⟩
      · rw [here]
        exact Base.chain_push _ active idx _ rep.activeChain notActive rfl
      · exact mem_apart free slots (fun other slot => other < maxConcurrentActions ∧ slot = .idle) idx _ rep.memFree
          (by simp [woken]) (by simp)
      · exact mem_apart pending slots (fun _ => IsWaiting) idx _ rep.memPending (by simp [IsWaiting, woken]) (by simp [IsWaiting])
      · exact mem_push active slots (fun _ => IsHolding) idx _ rep.memActive ⟨request, rfl⟩
      · refine bits_set _ _ _ rep.bits idx request proper (fun other held => ?_) index
        by_cases there : other = idx
        · rw [there, Function.update_self, woken]
          simp [eq_comm]
        · rw [Function.update_of_ne there, or_iff_left fun both => there both.1]

theorem wanted_wants (obj other : PoolObj) (held pending : Request) (heldProper : held.Proper)
    (pendingProper : pending.Proper)
    (heldData : obj.actionID = held.actionID ∧ obj.socket = if held.socketID < slMaxSockets then held.socketID else slMaxSockets)
    (pendingData : other.actionID = pending.actionID ∧
      other.socket = if pending.socketID < slMaxSockets then pending.socketID else slMaxSockets) :
    wanted obj other = true ↔ held.wants pending := by
  have field (request : Request) (proper : request.Proper) :
      (if request.socketID < slMaxSockets then request.socketID else slMaxSockets) = request.socketID := by
    split
    · rfl
    · exact BitVec.le_antisymm (BitVec.not_lt.mp ‹_›) proper.1
  rw [field held heldProper] at heldData
  rw [field pending pendingProper] at pendingData
  rw [wanted, heldData.1, heldData.2, pendingData.1, pendingData.2, Request.wants]
  simp only [Bool.and_eq_true, Bool.or_eq_true, beq_iff_eq, decide_eq_true_eq, eq_comm (a := slMaxSockets)]

theorem short_list (cb : DriverCb) (nodes : List Nat) (head : Option Nat) (chain : Chain PoolObj.next cb.objPool head nodes)
    (inside : ∀ idx ∈ nodes, idx < maxConcurrentActions) : nodes.length ≤ maxConcurrentActions := by
  have fits : nodes ⊆ List.range maxConcurrentActions := fun idx member => List.mem_range.mpr (inside idx member)
  simpa using (List.Nodup.subperm (Base.chain_nodup _ _ chain) fits).length_le

-- The list lemma for a list of the control block: every field of every object
-- but its link is kept.
theorem agrees_kept (objPool left : Heap Nat PoolObj) (slots : Nat → Slot)
    (same : ∀ idx, (left idx).map PoolObj.unlinked = (objPool idx).map PoolObj.unlinked)
    (agrees : ∀ idx obj, objPool idx = some obj → Agrees obj (slots idx)) :
    ∀ idx obj, left idx = some obj → Agrees obj (slots idx) := by
  intro idx obj read
  have kept := same idx
  rw [read, Option.map_some] at kept
  obtain ⟨old, oldRead, fields⟩ := Option.map_eq_some_iff.mp kept.symm
  have data := agrees idx old oldRead
  simp only [PoolObj.unlinked, PoolObj.mk.injEq] at fields
  obtain ⟨sync, _, action, additional, _⟩ := fields
  refine ⟨fun idle => ?_, fun request carried => ?_, fun request carried => ?_⟩
  · rw [← sync, ← additional]
    exact data.idle idle
  · rw [PoolObj.socket, ← action, ← additional]
    exact data.carries request carried
  · rw [PoolObj.socket, ← additional]
    exact data.plain request carried

theorem allocated_kept (objPool left : Heap Nat PoolObj)
    (same : ∀ idx, (left idx).map PoolObj.unlinked = (objPool idx).map PoolObj.unlinked)
    (allocated : ∀ idx, (∃ obj, objPool idx = some obj) ↔ idx < maxConcurrentActions) :
    ∀ idx, (∃ obj, left idx = some obj) ↔ idx < maxConcurrentActions := by
  intro idx
  have kept := congrArg Option.isSome (same idx)
  rw [Option.isSome_map, Option.isSome_map] at kept
  rw [← allocated idx, ← Option.isSome_iff_exists, ← Option.isSome_iff_exists, kept]

theorem signalled_kept (objPool left : Heap Nat PoolObj)
    (same : ∀ idx, (left idx).map PoolObj.unlinked = (objPool idx).map PoolObj.unlinked) (idx : Nat) :
    signalled left idx = signalled objPool idx := by
  have kept := congrArg (Option.any PoolObj.syncObj) (same idx)
  rw [Option.any_map, Option.any_map] at kept
  exact kept

theorem waiting_bound (cb : DriverCb) (slots : Nat → Slot) (free pending active : List Nat)
    (rep : Rep cb slots free pending active) : ∀ idx ∈ pending, idx < maxConcurrentActions := by
  intro idx member
  obtain ⟨request, waiting⟩ := (rep.memPending idx).mp member
  exact rep.inside idx (by simp [waiting])

theorem holding_bound (cb : DriverCb) (slots : Nat → Slot) (free pending active : List Nat)
    (rep : Rep cb slots free pending active) : ∀ idx ∈ active, idx < maxConcurrentActions := by
  intro idx member
  obtain ⟨request, holding⟩ := (rep.memActive idx).mp member
  exact rep.inside idx (by simp [holding])

theorem signal_pending (cb : DriverCb) (slots : Nat → Slot) (free pending active : List Nat)
    (rep : Rep cb slots free pending active) (idx : Nat) (obj : PoolObj) (held : Request) (read : cb.objPool idx = some obj)
    (holding : slots idx = .holding held) :
    (signalPending cb obj = some cb ∧ ∀ other request, slots other = .waiting request → ¬ held.wants request) ∨
      ∃ other request before after raised, pending = before ++ other :: after ∧ slots other = .waiting request ∧
        held.wants request ∧ signalPending cb obj = some raised ∧
        Rep raised (Function.update slots other (.woken request)) free (before ++ after) active ∧
        ∀ place, signalled raised.objPool place = if place = other then true else signalled cb.objPool place := by
  have heldProper : held.Proper := rep.proper idx held (by rw [holding]; rfl)
  have heldData := (rep.agrees idx obj read).carries held (by rw [holding]; rfl)
  have matched (other : Nat) (cell : PoolObj) (request : Request) (stored : cb.objPool other = some cell)
      (waiting : slots other = .waiting request) : wanted obj cell = true ↔ held.wants request :=
    wanted_wants obj cell held request heldProper (rep.proper other request (by rw [waiting]; rfl)) heldData
      ((rep.agrees other cell stored).carries request (by rw [waiting]; rfl))
  have short := short_list cb pending _ rep.pendingChain (waiting_bound cb slots free pending active rep)
  have sought := Base.seek_chain (wanted obj) pending _ _ rep.pendingChain short
  cases found : pending.find? fun address => ((cb.objPool address).map (wanted obj)).getD false with
  | none =>
      rw [found] at sought
      refine .inl ⟨by rw [signalPending, sought, Option.bind_some], fun other request waiting wants => ?_⟩
      obtain ⟨cell, stored⟩ := (rep.allocated other).mpr (rep.inside other (by simp [waiting]))
      have missed := List.find?_eq_none.mp found other ((rep.memPending other).mpr ⟨request, waiting⟩)
      rw [stored, Option.map_some, Option.getD_some] at missed
      exact missed ((matched other cell request stored waiting).mpr wants)
  | some other =>
      rw [found] at sought
      obtain ⟨passed, before, after, shape, _⟩ := List.find?_eq_some_iff_append.mp found
      obtain ⟨request, waiting⟩ := (rep.memPending other).mp (by rw [shape]; simp)
      have bound : other < maxConcurrentActions := rep.inside other (by simp [waiting])
      obtain ⟨cell, stored⟩ := (rep.allocated other).mpr bound
      rw [stored, Option.map_some, Option.getD_some] at passed
      obtain ⟨left, start, removed, startBound, small, chain, untouched, same⟩ :=
        remove_from_list cb.objPool cb.pendingPoolIdx other before after rep.small (shape ▸ rep.pendingChain) (shape ▸ short)
      obtain ⟨cell', reread⟩ := (allocated_kept _ _ same rep.allocated other).mpr bound
      have distinct := Base.chain_nodup _ _ rep.pendingChain
      rw [shape] at distinct
      have notKept : other ∉ before ++ after := (List.nodup_cons.mp (List.nodup_middle.mp distinct)).1
      have notFree : other ∉ free := by simp [rep.memFree, waiting]
      have notActive : other ∉ active := by simp [rep.memActive, IsHolding, waiting]
      have moved (nodes : List Nat) (head : Option Nat) (old : Chain PoolObj.next cb.objPool head nodes)
          (foreign : ∀ place ∈ nodes, ¬ IsWaiting (slots place)) : Chain PoolObj.next left head nodes := by
        refine Base.segment_frame _ head none nodes (fun place member => ?_) old
        refine untouched place fun early => foreign place member ((rep.memPending place).mp ?_)
        rw [shape]
        simp [early]
      obtain ⟨raised, made⟩ : ∃ raised : DriverCb, raised =
          { cb with objPool := left.write other { cell' with syncObj := true }, pendingPoolIdx := start } := ⟨_, rfl⟩
      refine .inr ⟨other, request, before, after, raised, shape, waiting, (matched other cell request stored waiting).mp passed,
        ?_, ?_, ?_⟩
      · rw [signalPending, sought, Option.bind_some]
        simp only [removed, Option.bind_some, reread, Option.map_some, made]
      · rw [made]
        refine ⟨allocated_write _ _ _ (allocated_kept _ _ same rep.allocated) bound,
          small_write _ _ _ small (small other cell' reread), rep.freeStart, startBound, rep.activeStart,
          chain_apart _ _ _ _ _ (moved free _ rep.freeChain ?_) notFree, chain_apart _ _ _ _ _ chain notKept,
          chain_apart _ _ _ _ _ (moved active _ rep.activeChain ?_) notActive, ?_, ?_, ?_,
          agrees_write _ _ _ _ _ (agrees_kept _ _ _ same rep.agrees) ⟨nofun, ?_, ?_⟩, inside_update _ _ _ rep.inside bound,
          requests_update _ _ _ _ rep.proper ?_, fun index => ?_⟩
        · rintro place member ⟨_, waits⟩
          simp [rep.memFree, waits] at member
        · rintro place member ⟨_, waits⟩
          simp [rep.memActive, IsHolding, waits] at member
        · exact mem_apart free slots (fun place slot => place < maxConcurrentActions ∧ slot = .idle) other _ rep.memFree
            (by simp [waiting]) (by simp)
        · exact mem_drop before after slots (fun _ => IsWaiting) other _ distinct (shape ▸ rep.memPending) (by simp [IsWaiting])
        · exact mem_apart active slots (fun _ => IsHolding) other _ rep.memActive (by simp [IsHolding, waiting]) (by simp [IsHolding])
        · intro carried equal
          cases equal
          exact (agrees_kept _ _ _ same rep.agrees other cell' reread).carries request (by rw [waiting]; rfl)
        · intro carried equal
          cases equal
          exact (agrees_kept _ _ _ same rep.agrees other cell' reread).plain request (by rw [waiting]; rfl)
        · intro carried equal
          cases equal
          exact rep.proper other request (by rw [waiting]; rfl)
        · rw [rep.bits index]
          exact (holders_apart slots other _ (by simp [IsHolding, waiting]) (by simp [IsHolding]) _).symm
      · intro place
        by_cases here : place = other
        · rw [if_pos here, here, made]
          exact congrArg (Option.any PoolObj.syncObj) (Heap.write_here left other _)
        · rw [made, if_neg here, ← signalled_kept _ _ same place]
          exact congrArg (Option.any PoolObj.syncObj) (Heap.write_elsewhere left other place _ here)

theorem cleared_key (obj : PoolObj) (held : Request) (data : obj.actionID = held.actionID ∧
    obj.socket = if held.socketID < slMaxSockets then held.socketID else slMaxSockets) :
    (if obj.socket < slMaxSockets then obj.socket else obj.actionID) = held.key := by
  rw [data.2, data.1, Request.key]
  by_cases here : held.socketID < slMaxSockets
  · rw [if_pos here, if_pos here]
  · rw [if_neg here, if_neg here, if_neg (BitVec.lt_irrefl _)]

theorem clear_bits (cb : DriverCb) (slots : Nat → Slot) (free pending active : List Nat)
    (rep : Rep cb slots free pending active) (exclusive : Exclusive slots) (idx : Nat) (obj : PoolObj) (held : Request)
    (read : cb.objPool idx = some obj) (holding : slots idx = .holding held) :
    Bits (clearAction cb obj).activeActionsBitmap fun other ahead => Function.update slots idx .idle other = .holding ahead := by
  rw [clearAction, cleared_key obj held ((rep.agrees idx obj read).carries held (by rw [holding]; rfl))]
  refine bits_cleared _ _ _ rep.bits idx held (fun other ahead holds => rep.proper other ahead (by rw [holds]; rfl)) holding
    (fun other ahead holds same => exclusive other idx ahead held holds holding same) (fun other ahead => ?_)
    (fun ahead holds => ?_)
  · by_cases here : other = idx
    · rw [here, Function.update_self]
      simp
    · rw [Function.update_of_ne here, and_iff_left here]
  · simpa [holding, eq_comm] using holds

theorem free_obj (cb : DriverCb) (slots : Nat → Slot) (free pending active : List Nat)
    (rep : Rep cb slots free pending active) (exclusive : Exclusive slots) (idx : Nat) (obj : PoolObj) (held : Request)
    (read : cb.objPool idx = some obj) (holding : slots idx = .holding held) (quiet : obj.syncObj = false) :
    ∃ freed remaining, freeObj (clearAction cb obj) idx = some freed ∧
      Rep freed (Function.update slots idx .idle) (idx :: free) pending remaining ∧
      ∀ place, signalled freed.objPool place = signalled cb.objPool place := by
  have bound : idx < maxConcurrentActions := rep.inside idx (by simp [holding])
  have notFree : idx ∉ free := by simp [rep.memFree, holding]
  have notPending : idx ∉ pending := by simp [rep.memPending, IsWaiting, holding]
  obtain ⟨before, after, shape⟩ := List.append_of_mem ((rep.memActive idx).mpr ⟨held, holding⟩)
  obtain ⟨cleared, data⟩ : ∃ cleared, cleared =
      { obj with pRespArgs := none, actionID := 0, additionalData := slMaxSockets } := ⟨_, rfl⟩
  have link : cleared.next = obj.next := by rw [data]; rfl
  have chain : Chain PoolObj.next (cb.objPool.write idx cleared) (inPool cb.activePoolIdx) (before ++ idx :: after) := by
    refine Base.segment_links _ _ none _ (fun place _ => ?_) (shape ▸ rep.activeChain)
    by_cases here : place = idx
    · rw [here, Heap.write_here, read, Option.map_some, Option.map_some, link]
    · rw [Heap.write_elsewhere _ _ _ _ here]
  have short := short_list cb active _ rep.activeChain (holding_bound cb slots free pending active rep)
  have kept : Small (cb.objPool.write idx cleared) :=
    small_write _ _ _ rep.small (by rw [data]; exact rep.small idx obj read)
  obtain ⟨left, start, removed, startBound, small, remaining, untouched, same⟩ :=
    remove_from_list (cb.objPool.write idx cleared) cb.activePoolIdx idx before after kept chain (shape ▸ short)
  have allocated := allocated_kept _ _ same (allocated_write _ idx cleared rep.allocated bound)
  have agrees := agrees_kept _ _ _ same (agrees_write cb.objPool slots idx cleared .idle rep.agrees
    ⟨fun _ => by rw [data]; exact ⟨quiet, rfl⟩, nofun, nofun⟩)
  obtain ⟨last, reread⟩ := (allocated idx).mpr bound
  have distinct := Base.chain_nodup _ _ chain
  have notKept : idx ∉ before ++ after := (List.nodup_cons.mp (List.nodup_middle.mp distinct)).1
  have moved (nodes : List Nat) (head : Option Nat) (old : Chain PoolObj.next cb.objPool head nodes) (apart : idx ∉ nodes)
      (foreign : ∀ place ∈ nodes, ¬ IsHolding (slots place)) : Chain PoolObj.next left head nodes := by
    refine Base.segment_frame _ head none nodes (fun place member => ?_) (chain_apart _ _ _ idx cleared old apart)
    refine untouched place fun early => foreign place member ((rep.memActive place).mp ?_)
    rw [shape]
    simp [early]
  have freeLeft : Chain PoolObj.next left (inPool cb.freePoolIdx) free := by
    refine moved free _ rep.freeChain notFree ?_
    rintro place member ⟨_, holds⟩
    simp [rep.memFree, holds] at member
  have pendingLeft : Chain PoolObj.next left (inPool cb.pendingPoolIdx) pending := by
    refine moved pending _ rep.pendingChain notPending ?_
    rintro place member ⟨_, holds⟩
    simp [rep.memPending, IsWaiting, holds] at member
  have reset := agrees idx last reread
  rw [Function.update_self] at reset
  refine ⟨{ clearAction cb obj with
      objPool := left.write idx { last with nextIndex := cb.freePoolIdx }
      activePoolIdx := start
      freePoolIdx := idx }, before ++ after, ?_, ?_, fun place => ?_⟩
  · change (cb.objPool idx).bind _ = _
    rw [read, Option.bind_some, ← data]
    change (removeFromList (cb.objPool.write idx cleared) cb.activePoolIdx idx).bind _ = _
    rw [removed, Option.bind_some]
    change (left idx).map _ = _
    rw [reread, Option.map_some]
    rfl
  · refine ⟨allocated_write _ _ _ allocated bound, small_write _ _ _ small rep.freeStart, Nat.le_of_lt bound,
      rep.pendingStart, startBound, ?_, chain_apart _ _ _ _ _ pendingLeft notPending,
      chain_apart _ _ _ _ _ remaining notKept, ?_, ?_, ?_, fun place cell stored => ?_, inside_update _ _ _ rep.inside bound,
      requests_update _ _ _ _ rep.proper nofun, clear_bits cb slots free pending active rep exclusive idx obj held read holding⟩
    · change Chain _ _ (inPool idx) _
      rw [inPool, if_pos bound]
      exact Base.chain_push _ free idx _ freeLeft notFree rfl
    · exact mem_push free slots (fun place slot => place < maxConcurrentActions ∧ slot = .idle) idx _ rep.memFree ⟨bound, rfl⟩
    · exact mem_apart pending slots (fun _ => IsWaiting) idx _ rep.memPending (by simp [IsWaiting, holding]) (by simp [IsWaiting])
    · exact mem_drop before after slots (fun _ => IsHolding) idx _ distinct (shape ▸ rep.memActive) (by simp [IsHolding])
    · have data := agrees_write left _ idx { last with nextIndex := cb.freePoolIdx } .idle agrees
        ⟨fun _ => reset.idle rfl, nofun, nofun⟩ place cell stored
      rwa [Function.update_idem] at data
  · have unlinked : signalled (left.write idx { last with nextIndex := cb.freePoolIdx }) place = signalled left place :=
      signalled_write left idx last { last with nextIndex := cb.freePoolIdx } reread rfl place
    have stored : signalled (cb.objPool.write idx cleared) place = signalled cb.objPool place :=
      signalled_write cb.objPool idx obj cleared read (by rw [data]) place
    rw [← stored, ← signalled_kept _ _ same place]
    exact unlinked

theorem release_pool_obj (cb : DriverCb) (slots : Nat → Slot) (free pending active : List Nat)
    (rep : Rep cb slots free pending active) (exclusive : Exclusive slots) (idx : Nat) (obj : PoolObj) (held : Request)
    (read : cb.objPool idx = some obj) (holding : slots idx = .holding held) (quiet : obj.syncObj = false) :
    ∃ freed after left remaining, drvReleasePoolObj cb idx = some freed ∧ Moves slots none after ∧ after idx = .idle ∧
      Rep freed after (idx :: free) left remaining ∧
      ((after = Function.update slots idx .idle ∧ ∀ place, signalled freed.objPool place = signalled cb.objPool place) ∨
        ∃ other request, slots other = .waiting request ∧
          after = Function.update (Function.update slots other (.woken request)) idx .idle ∧
          ∀ place, signalled freed.objPool place = if place = other then true else signalled cb.objPool place) := by
  rcases signal_pending cb slots free pending active rep idx obj held read holding with
    ⟨raised, unwanted⟩ | ⟨other, request, before, later, raised, _, waiting, wants, raises, raisedRep, raisedSync⟩
  · obtain ⟨freed, remaining, done, freedRep, sync⟩ := free_obj cb slots free pending active rep exclusive idx obj held read holding quiet
    refine ⟨freed, _, pending, remaining, ?_, .release idx held holding unwanted, Function.update_self .., freedRep, .inl ⟨rfl, sync⟩⟩
    rw [drvReleasePoolObj, read, Option.bind_some, raised, Option.bind_some, read, Option.bind_some, done]
  · have elsewhere : idx ≠ other := by
      rintro rfl
      simp [waiting] at holding
    have moved := Moves.handOver idx other held request holding waiting wants
    have still : Function.update slots other (.woken request) idx = .holding held := by
      rw [Function.update_of_ne elsewhere, holding]
    have exclusiveRaised : Exclusive (Function.update slots other (.woken request)) := by
      intro first second one two holdsOne holdsTwo same
      have holder (place : Nat) (carried : Request)
          (holds : Function.update slots other (.woken request) place = .holding carried) : slots place = .holding carried := by
        by_cases here : place = other
        · rw [here, Function.update_self] at holds
          cases holds
        · rwa [Function.update_of_ne here] at holds
      exact exclusive first second one two (holder first one holdsOne) (holder second two holdsTwo) same
    have kept := raisedSync idx
    obtain ⟨again, reread⟩ := (raisedRep.allocated idx).mpr (raisedRep.inside idx (by simp [still]))
    rw [if_neg elsewhere, signalled, reread, signalled, read, Option.any_some, Option.any_some, quiet] at kept
    obtain ⟨freed, remaining, done, freedRep, sync⟩ :=
      free_obj raised _ free (before ++ later) active raisedRep exclusiveRaised idx again held reread still kept
    refine ⟨freed, _, before ++ later, remaining, ?_, moved, Function.update_self .., freedRep,
      .inr ⟨other, request, waiting, rfl, fun place => ?_⟩⟩
    · rw [drvReleasePoolObj, read, Option.bind_some, raises, Option.bind_some, reread, Option.bind_some, done]
    · rw [sync place, raisedSync place]

end Miso.ObjPool
