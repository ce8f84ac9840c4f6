import Mathlib.Data.List.Nodup

set_option autoImplicit false

namespace Miso.Base

-- Cells at addresses; an address without a cell is not allocated.
abbrev Heap (α β : Type) := α → Option β

namespace Heap

variable {α β : Type} [DecidableEq α]

def write (heap : Heap α β) (address : α) (cell : β) : Heap α β :=
  fun other => if other = address then some cell else heap other

def free (heap : Heap α β) (address : α) : Heap α β := fun other => if other = address then none else heap other

@[simp] theorem write_here (heap : Heap α β) (address : α) (cell : β) : heap.write address cell address = some cell := by
  simp [write]

theorem write_elsewhere (heap : Heap α β) (address other : α) (cell : β) (different : other ≠ address) :
    heap.write address cell other = heap other := by simp [write, different]

@[simp] theorem free_here (heap : Heap α β) (address : α) : heap.free address address = none := by simp [free]

theorem free_elsewhere (heap : Heap α β) (address other : α) (different : other ≠ address) :
    heap.free address other = heap other := by simp [free, different]

end Heap

section Chains

variable {α β : Type}

-- The cells met on the way from one pointer to another.
inductive Segment (next : β → Option α) (heap : Heap α β) : Option α → List α → Option α → Prop where
  | nil (pointer : Option α) : Segment next heap pointer [] pointer
  | cons (address : α) (cell : β) (rest : List α) (last : Option α) (read : heap address = some cell)
      (tail : Segment next heap (next cell) rest last) : Segment next heap (some address) (address :: rest) last

def Chain (next : β → Option α) (heap : Heap α β) (head : Option α) (nodes : List α) : Prop :=
  Segment next heap head nodes none

variable {next : β → Option α} {heap : Heap α β}

theorem segment_append (first second : List α) (head middle last : Option α) (left : Segment next heap head first middle)
    (right : Segment next heap middle second last) : Segment next heap head (first ++ second) last := by
  induction left with
  | nil => exact right
  | cons address cell rest _ read _ ih => exact .cons address cell (rest ++ second) last read (ih right)

theorem segment_split (first second : List α) (head last : Option α) (whole : Segment next heap head (first ++ second) last) :
    ∃ middle, Segment next heap head first middle ∧ Segment next heap middle second last := by
  induction first generalizing head with
  | nil => exact ⟨head, .nil head, whole⟩
  | cons address rest ih =>
      cases whole with
      | cons _ cell _ _ read tail =>
          obtain ⟨middle, left, right⟩ := ih (next cell) tail
          exact ⟨middle, .cons address cell rest middle read left, right⟩

theorem segment_frame (other : Heap α β) (head last : Option α) (nodes : List α)
    (agree : ∀ address, address ∈ nodes → other address = heap address) (segment : Segment next heap head nodes last) :
    Segment next other head nodes last := by
  induction segment with
  | nil pointer => exact .nil pointer
  | cons address cell rest last read _ ih =>
      refine .cons address cell rest last ((agree address List.mem_cons_self).trans read) ?_
      exact ih fun later member => agree later (List.mem_cons_of_mem address member)

theorem segment_head (head last : Option α) (address : α) (rest : List α)
    (segment : Segment next heap head (address :: rest) last) : head = some address := by
  cases segment
  rfl

theorem segment_nil (head last : Option α) (segment : Segment next heap head [] last) : head = last := by
  cases segment
  rfl

theorem segment_last (nodes : List α) (address : α) (head last : Option α)
    (segment : Segment next heap head (nodes ++ [address]) last) :
    Segment next heap head nodes (some address) ∧ ∃ cell, heap address = some cell ∧ next cell = last := by
  obtain ⟨middle, left, right⟩ := segment_split nodes [address] head last segment
  cases right with
  | cons _ cell _ _ read tail =>
      exact ⟨left, cell, read, segment_nil (next cell) last tail⟩

theorem segment_reads (nodes : List α) (head last : Option α) (segment : Segment next heap head nodes last) (address : α)
    (member : address ∈ nodes) : ∃ cell, heap address = some cell := by
  induction segment with
  | nil => simp at member
  | cons first cell rest _ read _ ih =>
      rcases List.mem_cons.mp member with rfl | later
      · exact ⟨cell, read⟩
      · exact ih later

theorem chain_unique (head : Option α) (first second : List α) (left : Chain next heap head first)
    (right : Chain next heap head second) : first = second := by
  unfold Chain at left right
  generalize ended : (none : Option α) = last at left
  induction left generalizing second with
  | nil =>
      subst ended
      cases right
      rfl
  | cons address cell rest last read _ ih =>
      cases right with
      | cons _ other later _ reread tail =>
          obtain rfl : cell = other := Option.some.inj (read.symm.trans reread)
          rw [ih later tail ended]

-- A chain that met an address twice would never end.
theorem chain_nodup (head : Option α) (nodes : List α) (chain : Chain next heap head nodes) : nodes.Nodup := by
  induction nodes generalizing head with
  | nil => exact List.nodup_nil
  | cons address rest ih =>
      cases chain with
      | cons _ cell _ _ read tail =>
          refine List.nodup_cons.mpr ⟨fun again => ?_, ih (next cell) tail⟩
          obtain ⟨before, after, rfl⟩ := List.append_of_mem again
          obtain ⟨middle, _, right⟩ := segment_split before (address :: after) (next cell) none tail
          cases right with
          | cons _ other _ _ reread later =>
              obtain rfl : cell = other := Option.some.inj (read.symm.trans reread)
              have same := chain_unique (next cell) _ _ tail later
              have lengths := congrArg List.length same
              simp at lengths
              omega

theorem chain_next_mem (head : Option α) (nodes : List α) (chain : Chain next heap head nodes) (address other : α) (cell : β)
    (member : address ∈ nodes) (read : heap address = some cell) (link : next cell = some other) : other ∈ nodes := by
  unfold Chain at chain
  generalize ended : (none : Option α) = last at chain
  induction chain with
  | nil => simp at member
  | cons first here rest last stored tail ih =>
      rcases List.mem_cons.mp member with rfl | later
      · obtain rfl : here = cell := Option.some.inj (stored.symm.trans read)
        rw [link] at tail
        cases rest with
        | nil => exact absurd (segment_nil (some other) last tail) (by simp [← ended])
        | cons second rest => simp [Option.some.inj (segment_head (some other) last second rest tail)]
      · exact List.mem_cons_of_mem first (ih later ended)

-- Only the links matter to a segment.
theorem segment_links (other : Heap α β) (head last : Option α) (nodes : List α)
    (agree : ∀ address, address ∈ nodes → (other address).map next = (heap address).map next)
    (segment : Segment next heap head nodes last) : Segment next other head nodes last := by
  induction segment with
  | nil pointer => exact .nil pointer
  | cons address cell rest last read _ ih =>
      have same := agree address List.mem_cons_self
      rw [read, Option.map_some] at same
      obtain ⟨changed, reread, link⟩ := Option.map_eq_some_iff.mp same
      refine .cons address changed rest last reread ?_
      rw [link]
      exact ih fun later member => agree later (List.mem_cons_of_mem address member)

-- The first address of a chain whose cell passes a test; the outer none is
-- out of fuel or a pointer to nothing.
def seek (next : β → Option α) (stop : β → Bool) (heap : Heap α β) : Nat → Option α → Option (Option α)
  | _, none => some none
  | 0, some _ => none
  | fuel + 1, some address => match heap address with
      | none => none
      | some cell => if stop cell then some (some address) else seek next stop heap fuel (next cell)

theorem seek_step (stop : β → Bool) (fuel : Nat) (address : α) (cell : β) (read : heap address = some cell) :
    seek next stop heap (fuel + 1) (some address) =
      if stop cell then some (some address) else seek next stop heap fuel (next cell) := by
  rw [seek, read]

theorem seek_found (stop : β → Bool) (fuel : Nat) (head : Option α) (address : α)
    (found : seek next stop heap fuel head = some (some address)) : ∃ cell, heap address = some cell ∧ stop cell = true := by
  induction fuel generalizing head with
  | zero => cases head <;> cases found
  | succ fuel ih =>
      cases head with
      | none => cases found
      | some first =>
          cases read : heap first with
          | none => simp [seek, read] at found
          | some cell =>
              rw [seek_step stop fuel first cell read] at found
              split at found
              · cases found
                exact ⟨cell, read, ‹_›⟩
              · exact ih (next cell) found

theorem seek_last (nodes : List α) (last : α) (head : Option α) (fuel : Nat)
    (chain : Chain next heap head (nodes ++ [last])) (enough : nodes.length < fuel) :
    seek next (fun cell => (next cell).isNone) heap fuel head = some (some last) := by
  induction nodes generalizing head fuel with
  | nil =>
      cases fuel with
      | zero => simp at enough
      | succ fuel =>
          cases chain with
          | cons _ cell _ _ read tail => rw [seek_step _ fuel last cell read, segment_nil (next cell) none tail]; rfl
  | cons address rest ih =>
      cases fuel with
      | zero => simp at enough
      | succ fuel =>
          cases chain with
          | cons _ cell _ _ read tail =>
              have onward : (next cell).isNone = false := by
                cases pointer : next cell with
                | none =>
                    rw [pointer] at tail
                    cases rest <;> cases tail
                | some _ => rfl
              rw [seek_step _ fuel address cell read, onward]
              exact ih (next cell) fuel tail (by simpa using enough)

theorem seek_chain (stop : β → Bool) (nodes : List α) (head : Option α) (fuel : Nat) (chain : Chain next heap head nodes)
    (enough : nodes.length ≤ fuel) :
    seek next stop heap fuel head = some (nodes.find? fun address => ((heap address).map stop).getD false) := by
  induction nodes generalizing head fuel with
  | nil =>
      rw [segment_nil head none chain]
      cases fuel <;> rfl
  | cons address rest ih =>
      cases fuel with
      | zero => simp at enough
      | succ fuel =>
          cases chain with
          | cons _ cell _ _ read tail =>
              rw [seek_step _ fuel address cell read, List.find?_cons, read, Option.map_some, Option.getD_some]
              cases stop cell with
              | true => rfl
              | false => exact ih (next cell) fuel tail (by simpa using enough)

variable [DecidableEq α]

theorem chain_push (head : Option α) (nodes : List α) (fresh : α) (cell : β) (chain : Chain next heap head nodes)
    (apart : fresh ∉ nodes) (links : next cell = head) :
    Chain next (heap.write fresh cell) (some fresh) (fresh :: nodes) := by
  refine .cons fresh cell nodes none (Heap.write_here heap fresh cell) ?_
  rw [links]
  refine segment_frame _ head none nodes (fun address member => Heap.write_elsewhere _ _ _ _ ?_) chain
  rintro rfl
  exact apart member

theorem seek_parent (before after : List α) (parent target : α) (head : Option α) (fuel : Nat)
    (chain : Chain next heap head (before ++ [parent] ++ target :: after)) (enough : before.length < fuel) :
    seek next (fun cell => next cell = some target) heap fuel head = some (some parent) := by
  induction before generalizing head fuel with
  | nil =>
      cases fuel with
      | zero => simp at enough
      | succ fuel =>
          cases chain with
          | cons _ cell _ _ read tail =>
              have pointer := segment_head (next cell) none target after tail
              rw [seek_step _ fuel parent cell read, if_pos (by simp [pointer])]
  | cons address rest ih =>
      cases fuel with
      | zero => simp at enough
      | succ fuel =>
          cases chain with
          | cons _ cell _ _ read tail =>
              have distinct := chain_nodup (next cell) _ tail
              have passed : next cell ≠ some target := by
                intro pointer
                rw [pointer] at tail
                cases rest with
                | nil => cases tail; simp at distinct
                | cons first rest => cases tail; simp at distinct
              rw [seek_step _ fuel address cell read, if_neg (by simp [passed])]
              exact ih (next cell) fuel tail (by simpa using enough)

theorem seek_absent (nodes : List α) (target : α) (head : Option α) (fuel : Nat) (chain : Chain next heap head nodes)
    (absent : target ∉ nodes) (enough : nodes.length ≤ fuel) :
    seek next (fun cell => next cell = some target) heap fuel head = some none := by
  induction nodes generalizing head fuel with
  | nil =>
      rw [segment_nil head none chain]
      cases fuel <;> rfl
  | cons address rest ih =>
      cases fuel with
      | zero => simp at enough
      | succ fuel =>
          obtain ⟨_, missing⟩ := not_or.mp fun either => absent (List.mem_cons.mpr either)
          cases chain with
          | cons _ cell _ _ read tail =>
              have passed : next cell ≠ some target := by
                intro pointer
                rw [pointer] at tail
                cases tail
                simp at missing
              rw [seek_step _ fuel address cell read, if_neg (by simp [passed])]
              exact ih (next cell) fuel tail missing (by simpa using enough)

-- Writing a link to a new last cell into the cell that was the last.
theorem chain_link (head : Option α) (nodes : List α) (last fresh : α) (linked new : β)
    (chain : Chain next heap head (nodes ++ [last])) (unused : heap fresh = none) (ends : next new = none)
    (links : next linked = some fresh) :
    Chain next ((heap.write fresh new).write last linked) head (nodes ++ [last] ++ [fresh]) := by
  have distinct := chain_nodup head _ chain
  have apart : ∀ address, address ∈ nodes ++ [last] → address ≠ fresh := by
    rintro address member rfl
    obtain ⟨cell, read⟩ := segment_reads _ head none chain address member
    simp [unused] at read
  obtain ⟨before, _, _, _⟩ := segment_last nodes last head none chain
  have kept : Segment next ((heap.write fresh new).write last linked) head nodes (some last) := by
    refine segment_frame _ head (some last) nodes (fun address member => ?_) before
    have other : address ≠ last := by
      rintro rfl
      exact absurd distinct (by simp [List.nodup_append, member])
    rw [Heap.write_elsewhere _ _ _ _ other, Heap.write_elsewhere _ _ _ _ (apart address (by simp [member]))]
  rw [List.append_assoc]
  refine segment_append nodes [last, fresh] head (some last) none kept ?_
  refine .cons last linked [fresh] none (Heap.write_here _ last linked) ?_
  rw [links]
  refine .cons fresh new [] none ?_ (by rw [ends]; exact .nil none)
  rw [Heap.write_elsewhere _ _ _ _ (Ne.symm (apart last (by simp))), Heap.write_here]

-- Writing a link past a cell into the cell before it.
theorem chain_unlink (head : Option α) (before after : List α) (parent target : α) (cell past : β)
    (chain : Chain next heap head (before ++ [parent] ++ target :: after)) (read : heap target = some cell)
    (links : next past = next cell) :
    Chain next ((heap.write parent past).free target) head (before ++ [parent] ++ after) := by
  have distinct := chain_nodup head _ chain
  obtain ⟨middle, left, right⟩ := segment_split (before ++ [parent]) (target :: after) head none chain
  obtain ⟨first, _⟩ := segment_last before parent head middle left
  simp only [List.append_assoc, List.singleton_append, List.nodup_append, List.nodup_cons, List.mem_cons] at distinct
  obtain ⟨_, ⟨parentApart, targetApart, _⟩, crossed⟩ := distinct
  rw [not_or] at parentApart
  have frame (address : α) (notParent : address ≠ parent) (notTarget : address ≠ target) :
      (heap.write parent past).free target address = heap address := by
    rw [Heap.free_elsewhere _ _ _ notTarget, Heap.write_elsewhere _ _ _ _ notParent]
  rw [List.append_assoc]
  refine segment_append before (parent :: after) head (some parent) none ?_ ?_
  · refine segment_frame _ head (some parent) before (fun address member => frame address ?_ ?_) first
    · exact crossed address member parent (.inl rfl)
    · exact crossed address member target (.inr (.inl rfl))
  · refine .cons parent past after none ?_ ?_
    · rw [Heap.free_elsewhere _ _ _ parentApart.1, Heap.write_here]
    · cases right with
      | cons _ other _ _ reread tail =>
          obtain rfl : cell = other := Option.some.inj (read.symm.trans reread)
          rw [links]
          refine segment_frame _ (next cell) none after (fun address member => frame address ?_ ?_) tail
          · rintro rfl
            exact parentApart.2 member
          · rintro rfl
            exact targetApart member

-- The same when the cell that is passed keeps its place.
theorem chain_skip (head : Option α) (before after : List α) (parent target : α) (cell past : β)
    (chain : Chain next heap head (before ++ [parent] ++ target :: after)) (read : heap target = some cell)
    (links : next past = next cell) : Chain next (heap.write parent past) head (before ++ [parent] ++ after) := by
  have distinct := chain_nodup head _ chain
  refine segment_frame _ head none _ (fun address member => ?_)
    (chain_unlink head before after parent target cell past chain read links)
  refine (Heap.free_elsewhere _ _ _ ?_).symm
  rintro rfl
  simp only [List.append_assoc, List.singleton_append, List.nodup_append, List.nodup_cons, List.mem_append,
    List.mem_cons] at distinct member
  obtain ⟨_, ⟨parentApart, targetApart, _⟩, crossed⟩ := distinct
  rcases member with early | rfl | late
  · exact crossed address early address (.inr (.inl rfl)) rfl
  · exact parentApart (.inl rfl)
  · exact targetApart late

-- Ending a chain at a cell in its middle.
theorem chain_cut (head : Option α) (before after : List α) (last : α) (cell : β)
    (chain : Chain next heap head (before ++ [last] ++ after)) (ends : next cell = none) :
    Chain next (heap.write last cell) head (before ++ [last]) := by
  have distinct := chain_nodup head _ chain
  obtain ⟨middle, left, _⟩ := segment_split (before ++ [last]) after head none chain
  obtain ⟨first, _⟩ := segment_last before last head middle left
  have kept : Segment next (heap.write last cell) head before (some last) := by
    refine segment_frame _ head (some last) before (fun address member => Heap.write_elsewhere _ _ _ _ ?_) first
    rintro rfl
    simp only [List.append_assoc, List.singleton_append, List.nodup_append, List.mem_cons] at distinct
    exact distinct.2.2 address member address (.inl rfl) rfl
  refine segment_append before [last] head (some last) none kept (.cons last cell [] none (Heap.write_here _ _ _) ?_)
  rw [ends]
  exact .nil none

theorem chain_behead (head : Option α) (target : α) (after : List α) (cell : β)
    (chain : Chain next heap head (target :: after)) (read : heap target = some cell) :
    Chain next (heap.free target) (next cell) after := by
  have distinct := List.nodup_cons.mp (chain_nodup head _ chain)
  cases chain with
  | cons _ other _ _ reread tail =>
      obtain rfl : cell = other := Option.some.inj (read.symm.trans reread)
      refine segment_frame _ (next cell) none after (fun address member => ?_) tail
      refine Heap.free_elsewhere _ _ _ ?_
      rintro rfl
      exact distinct.1 member

end Chains

end Miso.Base
