import Mathlib.Data.Nat.Count
import Miso.Base.Chain
import Miso.FatFsChain

set_option autoImplicit false

namespace Miso.FatFs

theorem count_same (before after : Nat → Prop) [DecidablePred before] [DecidablePred after] (total : Nat)
    (same : ∀ index, index < total → (after index ↔ before index)) : Nat.count after total = Nat.count before total :=
  Nat.le_antisymm (Nat.count_mono_left fun index less => (same index less).mp)
    (Nat.count_mono_left fun index less => (same index less).mpr)

theorem count_one_more (before after : Nat → Prop) [DecidablePred before] [DecidablePred after] (place total : Nat)
    (inside : place < total) (others : ∀ index, index < total → index ≠ place → (after index ↔ before index))
    (absent : ¬ before place) (present : after place) : Nat.count after total = Nat.count before total + 1 := by
  induction total with
  | zero => exact absurd inside (Nat.not_lt_zero _)
  | succ total ih =>
      rw [Nat.count_succ, Nat.count_succ]
      by_cases here : total = place
      · rw [here, if_pos present, if_neg absent]
        have same := count_same before after place fun index less => others index (by omega) (by omega)
        omega
      · have same := others total (by omega) here
        have more := ih (by omega) fun index less => others index (by omega)
        by_cases counts : before total
        · rw [if_pos counts, if_pos (same.mpr counts)]
          omega
        · rw [if_neg counts, if_neg fun later => counts (same.mp later)]
          exact more

def freeCount (layout : Layout) (table : BitVec 32 → BitVec 32) : Nat :=
  Nat.count (fun index => 2 ≤ index ∧ table (BitVec.ofNat 32 index) = 0) layout.nFatent.toNat

theorem count_two (total : Nat) : Nat.count (fun index => 2 ≤ index) total = total - 2 := by
  induction total with
  | zero => rfl
  | succ total ih =>
      rw [Nat.count_succ, ih]
      by_cases counts : 2 ≤ total
      · rw [if_pos counts]
        omega
      · rw [if_neg counts]
        omega

theorem free_count_bound (layout : Layout) (table : BitVec 32 → BitVec 32) : freeCount layout table ≤ layout.nFatent.toNat - 2 := by
  rw [← count_two]
  exact Nat.count_mono_left fun index _ counts => counts.1

theorem index_of (layout : Layout) (clst : BitVec 32) (index : Nat) (inside : index < layout.nFatent.toNat)
    (same : BitVec.ofNat 32 index = clst) : index = clst.toNat := by
  have small := layout.nFatent.isLt
  have value := congrArg BitVec.toNat same
  rwa [BitVec.toNat_ofNat, Nat.mod_eq_of_lt (by omega)] at value

-- A cluster that becomes free is one more.
theorem free_one_more (layout : Layout) (before after : BitVec 32 → BitVec 32) (clst : BitVec 32) (valid : layout.valid clst)
    (others : ∀ other, other ≠ clst → (after other = 0 ↔ before other = 0)) (used : before clst ≠ 0) (free : after clst = 0) :
    freeCount layout after = freeCount layout before + 1 := by
  have low := BitVec.le_def.mp valid.1
  have place : BitVec.ofNat 32 clst.toNat = clst := by rw [BitVec.ofNat_toNat, BitVec.setWidth_eq]
  refine count_one_more _ _ clst.toNat _ (BitVec.lt_def.mp valid.2) (fun index less other => ?_) ?_ ?_
  · have apart : BitVec.ofNat 32 index ≠ clst := fun same => other (index_of layout clst index less same)
    exact and_congr_right fun _ => others _ apart
  · rw [place]
    exact fun both => used both.2
  · rw [place]
    exact ⟨low, free⟩

theorem free_same (layout : Layout) (before after : BitVec 32 → BitVec 32)
    (same : ∀ clst, layout.valid clst → (after clst = 0 ↔ before clst = 0)) : freeCount layout after = freeCount layout before := by
  refine count_same _ _ _ fun index less => and_congr_right fun low => same _ ?_
  have small := layout.nFatent.isLt
  have place : (BitVec.ofNat 32 index).toNat = index := by
    rw [BitVec.toNat_ofNat]
    exact Nat.mod_eq_of_lt (by omega)
  unfold Layout.valid
  rw [BitVec.le_def, BitVec.lt_def, place]
  exact ⟨low, less⟩

theorem noted_freed (vol : Volume) : vol.noteFreed.layout = vol.layout ∧ vol.noteFreed.table = vol.table ∧
    (vol.Held → vol.noteFreed.Held) ∧
    vol.noteFreed.freeClst = if vol.freeClst < vol.layout.nFatent - 2 then vol.freeClst + 1 else vol.freeClst := by
  unfold Volume.noteFreed
  by_cases room : vol.freeClst < vol.layout.nFatent - 2
  · rw [if_pos room, if_pos room]
    exact ⟨rfl, rfl, id, rfl⟩
  · rw [if_neg room, if_neg room]
    exact ⟨rfl, rfl, id, rfl⟩

theorem zero_kept (mask : BitVec 32) : (0 : BitVec 32) &&& mask = 0 := BitVec.zero_and

-- Whatever is in the FAT, removing a chain ends: each round frees a cluster.
theorem remove_links_ends (faults : Faults) (fuel : Nat) (clst : BitVec 32) (vol : Volume) (held : vol.Held)
    (enough : vol.layout.nFatent.toNat ≤ freeCount vol.layout vol.table + fuel + 1) (some_ : 0 < fuel) :
    ∃ after res, removeLinks faults fuel clst vol = some (after, res) := by
  induction fuel generalizing clst vol with
  | zero => exact absurd some_ (Nat.lt_irrefl 0)
  | succ fuel ih =>
      unfold removeLinks
      dsimp only
      by_cases empty : (getFat faults vol clst).2 = 0
      · exact ⟨_, _, if_pos empty⟩
      · rw [if_neg empty]
        by_cases odd : (getFat faults vol clst).2 = 1
        · exact ⟨_, _, if_pos odd⟩
        · rw [if_neg odd]
          by_cases err : (getFat faults vol clst).2 = 0xFFFFFFFF
          · exact ⟨_, _, if_pos err⟩
          · rw [if_neg err]
            have valid : vol.layout.valid clst := by
              by_contra invalid
              rw [get_invalid faults vol clst invalid] at odd
              exact odd rfl
            obtain ⟨same, stillHeld, value⟩ := get_fat faults vol clst held valid.1 valid.2
            have known := value.resolve_right err
            obtain ⟨kept, putHeld, outcome⟩ := put_fat faults (getFat faults vol clst).1 clst 0 stillHeld valid.1
              (by rw [same.layout]; exact valid.2)
            by_cases ok : (putFat faults (getFat faults vol clst).1 clst 0).2 = .ok
            · rw [if_pos ok]
              by_cases more : (getFat faults vol clst).2 < vol.layout.nFatent
              · rw [if_pos more]
                obtain ⟨layout, table, freedHeld, _⟩ := noted_freed (putFat faults (getFat faults vol clst).1 clst 0).1
                have written := (outcome.resolve_right fun failed => ok_or _ failed.1 ok).2
                rw [same_table vol _ same, zero_kept] at written
                have whole : (putFat faults (getFat faults vol clst).1 clst 0).1.noteFreed.layout = vol.layout :=
                  layout.trans (kept.layout.trans same.layout)
                have freed : freeCount vol.layout (Function.update vol.table clst 0) = freeCount vol.layout vol.table + 1 :=
                  free_one_more vol.layout _ _ clst valid (fun other apart => by rw [Function.update_of_ne apart])
                    (fun zero => empty (known.trans zero)) (Function.update_self _ _ _)
                have bound := free_count_bound vol.layout (Function.update vol.table clst 0)
                have entries := vol.layout.some_
                refine ih _ _ (freedHeld putHeld) ?_ ?_
                · rw [whole, table, written]
                  omega
                · omega
              · rw [if_neg more]
                exact ⟨_, _, rfl⟩
            · exact ⟨_, _, if_neg ok⟩

theorem remove_chain_ends (faults : Faults) (vol : Volume) (clst pclst : BitVec 32) (held : vol.Held) :
    ∃ after res, removeChain faults vol clst pclst = some (after, res) := by
  have entries := vol.layout.some_
  unfold removeChain
  dsimp only
  by_cases refused : clst < 2 ∨ vol.layout.nFatent ≤ clst
  · exact ⟨_, _, if_pos refused⟩
  · rw [if_neg refused]
    by_cases whole : pclst = 0
    · rw [if_pos whole]
      exact remove_links_ends faults _ clst vol held (by omega) (by omega)
    · rw [if_neg whole]
      by_cases ok : (putFat faults vol pclst 0xFFFFFFFF).2 = .ok
      · rw [if_pos ok]
        have valid : vol.layout.valid pclst := by
          by_contra invalid
          have ends : putFat faults vol pclst 0xFFFFFFFF = (vol, .intErr) := by
            rw [putFat, if_neg (show ¬ (2 ≤ pclst ∧ pclst < vol.layout.nFatent) from invalid)]
          rw [ends] at ok
          exact FResult.noConfusion ok
        obtain ⟨kept, stillHeld, _⟩ := put_fat faults vol pclst 0xFFFFFFFF held valid.1 valid.2
        refine remove_links_ends faults _ clst _ stillHeld ?_ (by omega)
        rw [kept.layout]
        omega
      · exact ⟨_, _, if_neg ok⟩

theorem search_ends (faults : Faults) (vol : Volume) (clst scl : BitVec 32) (held : vol.Held) (low : 1 ≤ scl.toNat)
    (inside : scl.toNat < vol.layout.nFatent.toNat) : ∃ answer, searchCluster faults vol clst scl = some answer := by
  have entries := vol.layout.some_
  have enough : searchLeft vol.layout scl scl < vol.layout.nFatent.toNat := by
    rw [searchLeft, if_neg (Nat.lt_irrefl _)]
    omega
  obtain ⟨after, result, ran, _⟩ := find_free faults scl _ scl vol held low inside low inside enough
  rw [searchCluster, ran]
  exact ⟨_, rfl⟩

theorem place_ends (faults : Faults) (vol : Volume) (clst scl : BitVec 32) (held : vol.Held) (low : 1 ≤ scl.toNat)
    (inside : scl.toNat < vol.layout.nFatent.toNat) : ∃ answer, placeCluster faults vol clst scl = some answer := by
  unfold placeCluster
  dsimp only
  by_cases none_ : vol.freeClst = 0
  · exact ⟨_, if_pos none_⟩
  · rw [if_neg none_]
    by_cases stretches : scl = clst
    · rw [if_pos stretches]
      by_cases odd : (getFat faults vol (vol.layout.following scl)).2 = 1 ∨ (getFat faults vol (vol.layout.following scl)).2 = 0xFFFFFFFF
      · exact ⟨_, if_pos odd⟩
      · rw [if_neg odd]
        by_cases free : (getFat faults vol (vol.layout.following scl)).2 = 0
        · exact ⟨_, if_pos free⟩
        · rw [if_neg free]
          obtain ⟨same, stillHeld, _⟩ := get_read faults vol _ held (following_valid vol.layout scl low inside)
          by_cases suggested : 2 ≤ vol.lastClst ∧ vol.lastClst < vol.layout.nFatent
          · rw [if_pos suggested]
            obtain ⟨lastLow, lastInside⟩ := valid_range vol.layout vol.lastClst suggested
            exact search_ends faults _ clst _ stillHeld lastLow (by rw [same.layout]; exact lastInside)
          · rw [if_neg suggested]
            exact search_ends faults _ clst _ stillHeld low (by rw [same.layout]; exact inside)
    · rw [if_neg stretches]
      exact search_ends faults vol clst scl held low inside

theorem create_chain_ends (faults : Faults) (vol : Volume) (clst : BitVec 32) (held : vol.Held) :
    ∃ answer, createChain faults vol clst = some answer := by
  have entries := vol.layout.some_
  unfold createChain
  dsimp only
  by_cases first : clst = 0
  · rw [if_pos first]
    by_cases unset : vol.lastClst = 0 ∨ vol.layout.nFatent ≤ vol.lastClst
    · rw [if_pos unset]
      exact place_ends faults vol 0 1 held (by decide) (Nat.lt_trans (by decide) entries)
    · rw [if_neg unset]
      rw [not_or] at unset
      have some_ : vol.lastClst.toNat ≠ 0 := fun zero => unset.1 (BitVec.eq_of_toNat_eq zero)
      exact place_ends faults vol 0 vol.lastClst held (Nat.one_le_iff_ne_zero.mpr some_) (BitVec.lt_def.mp (BitVec.not_le.mp unset.2))
  · rw [if_neg first]
    by_cases odd : (getFat faults vol clst).2 < 2
    · exact ⟨_, if_pos odd⟩
    · rw [if_neg odd]
      by_cases err : (getFat faults vol clst).2 = 0xFFFFFFFF
      · exact ⟨_, if_pos err⟩
      · rw [if_neg err]
        by_cases follows : (getFat faults vol clst).2 < vol.layout.nFatent
        · exact ⟨_, if_pos follows⟩
        · rw [if_neg follows]
          have valid : vol.layout.valid clst := by
            by_contra invalid
            rw [get_invalid faults vol clst invalid] at odd
            exact odd (show (1 : BitVec 32) < 2 by decide)
          obtain ⟨same, stillHeld, _⟩ := get_read faults vol clst held valid
          obtain ⟨low, inside⟩ := valid_range vol.layout clst valid
          exact place_ends faults _ clst clst stillHeld low (by rw [same.layout]; exact inside)

-- Neither function runs on for ever, whatever the FAT holds (chains that meet
-- or end in a ring) and whatever transfers fail.
theorem chain_functions_end (faults : Faults) (vol : Volume) (clst pclst : BitVec 32) (held : vol.Held) :
    (∃ answer, createChain faults vol clst = some answer) ∧ ∃ answer, removeChain faults vol clst pclst = some answer := by
  obtain ⟨after, res, ran⟩ := remove_chain_ends faults vol clst pclst held
  exact ⟨create_chain_ends faults vol clst held, (after, res), ran⟩

-- Clusters 2 and 3 follow each other for ever.
def ringVolume : Volume := (serveAll noFaults smallVolume [.putFat 2 3, .putFat 3 2]).1

theorem ring_held : ringVolume.Held := by
  intro clean
  exact absurd clean (by decide +kernel)

theorem chain_functions_end_ring : (∃ answer, createChain noFaults ringVolume 2 = some answer) ∧
    ∃ answer, removeChain noFaults ringVolume 2 0 = some answer :=
  chain_functions_end noFaults ringVolume 2 0 ring_held

-- The links of the files: what an entry points to, and the entries in use.
def follow (layout : Layout) (value : BitVec 32) : Option (BitVec 32) := if value < layout.nFatent then some value else none

def inUse (layout : Layout) (table : BitVec 32 → BitVec 32) : Base.Heap (BitVec 32) (BitVec 32) :=
  fun clst => if layout.valid clst ∧ 2 ≤ table clst then some (table clst) else none

def FileOf (layout : Layout) (table : BitVec 32 → BitVec 32) (clusters : List (BitVec 32)) : Prop :=
  Base.Chain (follow layout) (inUse layout table) clusters.head? clusters

theorem in_use_put (layout : Layout) (table : BitVec 32 → BitVec 32) (clst val : BitVec 32) (valid : layout.valid clst)
    (low : 2 ≤ val) : inUse layout (Function.update table clst val) = (inUse layout table).write clst val := by
  funext other
  unfold inUse
  by_cases here : other = clst
  · rw [here, Function.update_self, if_pos ⟨valid, low⟩, Base.Heap.write_here]
  · rw [Function.update_of_ne here, Base.Heap.write_elsewhere _ _ _ _ here]

theorem in_use_reads (layout : Layout) (table : BitVec 32 → BitVec 32) (clst val : BitVec 32)
    (read : inUse layout table clst = some val) : layout.valid clst ∧ 2 ≤ table clst ∧ table clst = val := by
  unfold inUse at read
  by_cases used : layout.valid clst ∧ 2 ≤ table clst
  · rw [if_pos used] at read
    exact ⟨used.1, used.2, Option.some.inj read⟩
  · rw [if_neg used] at read
    cases read

theorem file_member (layout : Layout) (table : BitVec 32 → BitVec 32) (clusters : List (BitVec 32)) (file : FileOf layout table clusters)
    (clst : BitVec 32) (member : clst ∈ clusters) : layout.valid clst ∧ 2 ≤ table clst := by
  obtain ⟨val, read⟩ := Base.segment_reads clusters _ _ file clst member
  obtain ⟨valid, low, _⟩ := in_use_reads layout table clst val read
  exact ⟨valid, low⟩

theorem file_kept (layout : Layout) (before after : BitVec 32 → BitVec 32) (clusters : List (BitVec 32))
    (file : FileOf layout before clusters) (agree : ∀ clst, clst ∈ clusters → after clst = before clst) :
    FileOf layout after clusters := by
  refine Base.segment_frame _ _ none clusters (fun clst member => ?_) file
  unfold inUse
  rw [agree clst member]

theorem eoc_low (layout : Layout) : 2 ≤ layout.eoc := by
  have entries := layout.some_
  have above := BitVec.le_def.mp (end_above layout)
  rw [BitVec.le_def]
  exact Nat.le_trans (Nat.le_of_lt entries) above

theorem eoc_follow (layout : Layout) : follow layout layout.eoc = none :=
  if_neg (BitVec.not_lt.mpr (end_above layout))

theorem link_follow (layout : Layout) (clst : BitVec 32) (valid : layout.valid clst) : follow layout clst = some clst :=
  if_pos valid.2

theorem file_created (layout : Layout) (table : BitVec 32 → BitVec 32) (ncl : BitVec 32) (valid : layout.valid ncl) :
    FileOf layout (Function.update table ncl layout.eoc) [ncl] := by
  refine .cons ncl layout.eoc [] none ?_ ?_
  · rw [in_use_put layout table ncl layout.eoc valid (eoc_low layout)]
    exact Base.Heap.write_here _ _ _
  · rw [eoc_follow]
    exact .nil none

theorem head_append (first : List (BitVec 32)) (last : BitVec 32) (more : List (BitVec 32)) :
    (first ++ [last] ++ more).head? = (first ++ [last]).head? := by
  cases first <;> rfl

theorem file_stretched (layout : Layout) (table : BitVec 32 → BitVec 32) (first : List (BitVec 32)) (last ncl : BitVec 32)
    (file : FileOf layout table (first ++ [last])) (valid : layout.valid ncl) (free : table ncl = 0) :
    FileOf layout (Function.update (Function.update table ncl layout.eoc) last ncl) (first ++ [last] ++ [ncl]) := by
  have lastValid := (file_member layout table _ file last (List.mem_append_right _ List.mem_cons_self)).1
  unfold FileOf
  rw [in_use_put layout _ last ncl lastValid valid.1, in_use_put layout table ncl layout.eoc valid (eoc_low layout), head_append]
  refine Base.chain_link _ first last ncl ncl layout.eoc file ?_ (eoc_follow layout) (link_follow layout ncl valid)
  unfold inUse
  rw [free]
  exact if_neg fun used => absurd used.2 (by decide)

theorem file_cut (layout : Layout) (table : BitVec 32 → BitVec 32) (first rest : List (BitVec 32)) (last : BitVec 32)
    (file : FileOf layout table (first ++ [last] ++ rest)) : FileOf layout (Function.update table last layout.eoc) (first ++ [last]) := by
  have lastValid := (file_member layout table _ file last (by simp)).1
  unfold FileOf at file ⊢
  rw [head_append] at file
  rw [in_use_put layout table last layout.eoc lastValid (eoc_low layout)]
  exact Base.chain_cut _ first rest last layout.eoc file (eoc_follow layout)

theorem file_rest (layout : Layout) (table : BitVec 32 → BitVec 32) (first rest : List (BitVec 32))
    (file : FileOf layout table (first ++ rest)) : FileOf layout table rest := by
  obtain ⟨middle, _, right⟩ := Base.segment_split first rest _ none file
  cases rest with
  | nil => exact .nil none
  | cons clst more =>
      have head := Base.segment_head middle none clst more right
      rw [head] at right
      exact right

theorem file_next (layout : Layout) (table : BitVec 32 → BitVec 32) (clst next : BitVec 32) (rest : List (BitVec 32))
    (file : FileOf layout table (clst :: next :: rest)) : table clst < layout.nFatent ∧ table clst = next := by
  cases file with
  | cons _ val _ _ read tail =>
      obtain ⟨_, _, value⟩ := in_use_reads layout table clst val read
      have head := Base.segment_head _ none next rest tail
      rw [follow, ← value] at head
      by_cases inside : table clst < layout.nFatent
      · rw [if_pos inside] at head
        exact ⟨inside, Option.some.inj head⟩
      · rw [if_neg inside] at head
        cases head

theorem file_last (layout : Layout) (table : BitVec 32 → BitVec 32) (clst : BitVec 32) (file : FileOf layout table [clst]) :
    ¬ table clst < layout.nFatent := by
  intro more
  cases file with
  | cons _ val _ _ read tail =>
      obtain ⟨_, _, value⟩ := in_use_reads layout table clst val read
      have stop := Base.segment_nil _ none tail
      rw [follow, ← value, if_pos more] at stop
      cases stop

-- The count of free clusters is never below the truth, and without disk errors
-- it is the truth or known to be unknown.
structure Counted (faults : Faults) (vol : Volume) : Prop where
  room : freeCount vol.layout vol.table ≤ vol.freeClst.toNat
  exact_ : Quiet faults → vol.freeClst.toNat ≤ freeCount vol.layout vol.table ∨ vol.layout.nFatent.toNat - 2 < vol.freeClst.toNat

theorem entries_nat (layout : Layout) : (layout.nFatent - 2).toNat = layout.nFatent.toNat - 2 := by
  have entries : (2 : BitVec 32) ≤ layout.nFatent := BitVec.le_def.mpr (Nat.le_of_lt layout.some_)
  rw [BitVec.toNat_sub_of_le entries]
  rfl

theorem counted_kept (faults : Faults) (vol after : Volume) (counted : Counted faults vol) (kept : vol.Kept after)
    (table : after.table = vol.table) : Counted faults after := by
  obtain ⟨room, exact_⟩ := counted
  rw [← kept.layout, ← table, ← kept.freeClst] at room exact_
  exact ⟨room, exact_⟩

theorem counted_same (faults : Faults) (vol after : Volume) (counted : Counted faults vol) (same : vol.Same after) :
    Counted faults after := counted_kept faults vol after counted same.kept (same_table vol after same)

theorem counted_freed (faults : Faults) (vol after : Volume) (counted : Counted faults vol) (kept : vol.Kept after)
    (more : freeCount vol.layout after.table = freeCount vol.layout vol.table + 1) : Counted faults after.noteFreed := by
  have bound := free_count_bound vol.layout after.table
  have entries := entries_nat vol.layout
  have small := vol.layout.nFatent.isLt
  obtain ⟨room, exact_⟩ := counted
  obtain ⟨layout, table, _, count⟩ := noted_freed after
  rw [kept.layout] at layout
  rw [kept.layout, kept.freeClst] at count
  by_cases less : vol.freeClst < vol.layout.nFatent - 2
  · have lessNat := BitVec.lt_def.mp less
    have next : (vol.freeClst + 1).toNat = vol.freeClst.toNat + 1 := by
      rw [BitVec.toNat_add, show (1 : BitVec 32).toNat = 1 from rfl]
      exact Nat.mod_eq_of_lt (by omega)
    rw [if_pos less] at count
    constructor
    · rw [layout, table, count, next, more]
      omega
    · intro quiet
      have before := exact_ quiet
      rw [layout, table, count, next, more]
      omega
  · have lessNat : ¬ vol.freeClst.toNat < (vol.layout.nFatent - 2).toNat := fun lower => less (BitVec.lt_def.mpr lower)
    rw [if_neg less] at count
    constructor
    · rw [layout, table, count, more]
      omega
    · intro quiet
      have before := exact_ quiet
      rw [layout, table, count, more]
      omega

-- What removing the rest of a file does to the table.
structure Removed (faults : Faults) (vol after : Volume) (res : FResult) (clusters : List (BitVec 32)) : Prop where
  layout : after.layout = vol.layout
  held : after.Held
  counted : Counted faults after
  others : ∀ clst, clst ∉ clusters → after.table clst = vol.table clst
  lower : ∀ clst, after.table clst = vol.table clst ∨ after.table clst = 0
  done : res = .ok → ∀ clst, clst ∈ clusters → after.table clst = 0
  quiet : Quiet faults → res = .ok

theorem remove_links_step (faults : Faults) (fuel : Nat) (clst : BitVec 32) (vol : Volume) (got : Volume × BitVec 32)
    (put : Volume × FResult) (read : getFat faults vol clst = got) (wrote : putFat faults got.1 clst 0 = put) (some_ : got.2 ≠ 0)
    (fine : got.2 ≠ 1) (whole : got.2 ≠ 0xFFFFFFFF) :
    removeLinks faults (fuel + 1) clst vol =
      if put.2 = .ok then
        if got.2 < vol.layout.nFatent then removeLinks faults fuel got.2 put.1.noteFreed else some (put.1.noteFreed, .ok)
      else some put := by
  subst wrote
  subst read
  rw [removeLinks]
  dsimp only
  rw [if_neg some_, if_neg fine, if_neg whole]

-- One round: the first cluster is freed, or a disk error ends it all.
theorem remove_round (faults : Faults) (fuel : Nat) (clst : BitVec 32) (vol : Volume) (held : vol.Held)
    (firm : Firm faults vol.layout) (counted : Counted faults vol) (valid : vol.layout.valid clst) (used : 2 ≤ vol.table clst) :
    (∃ after res, removeLinks faults (fuel + 1) clst vol = some (after, res) ∧ after.layout = vol.layout ∧ after.Held ∧
        Counted faults after ∧ after.table = vol.table ∧ res ≠ .ok ∧ ¬ Quiet faults) ∨
      ∃ freed, freed.layout = vol.layout ∧ freed.Held ∧ Counted faults freed ∧
        freed.table = Function.update vol.table clst 0 ∧ removeLinks faults (fuel + 1) clst vol =
          if vol.table clst < vol.layout.nFatent then removeLinks faults fuel (vol.table clst) freed else some (freed, .ok) := by
  obtain ⟨same, stillHeld, value⟩ := get_read faults vol clst held valid
  obtain ⟨got, read⟩ : ∃ got, getFat faults vol clst = got := ⟨_, rfl⟩
  rw [read] at same stillHeld value
  have table := same_table vol got.1 same
  rcases value with known | ⟨err, noisy⟩
  · have low := BitVec.le_def.mp used
    have some_ : got.2 ≠ 0 := by
      rw [known]
      intro zero
      rw [zero] at low
      exact absurd low (by decide)
    have fine : got.2 ≠ 1 := by
      rw [known]
      intro one
      rw [one] at low
      exact absurd low (by decide)
    have whole : got.2 ≠ 0xFFFFFFFF := by
      rw [known]
      exact table_small vol clst
    obtain ⟨kept, putHeld, outcome⟩ := put_written faults got.1 clst 0 stillHeld (by rw [same.layout]; exact valid)
      (by rw [same.layout]; exact firm)
    obtain ⟨put, wrote⟩ : ∃ put, putFat faults got.1 clst 0 = put := ⟨_, rfl⟩
    rw [wrote] at kept putHeld outcome
    rw [table, zero_kept] at outcome
    have step := remove_links_step faults fuel clst vol got put read wrote some_ fine whole
    have wholeKept := same.kept.trans kept
    rcases outcome with ⟨ok, written⟩ | ⟨err, unwritten, noisy⟩
    · obtain ⟨layout, freedTable, freedHeld, _⟩ := noted_freed put.1
      refine .inr ⟨put.1.noteFreed, layout.trans wholeKept.layout, freedHeld putHeld, ?_, freedTable.trans written, ?_⟩
      · refine counted_freed faults vol put.1 counted wholeKept ?_
        rw [written]
        exact free_one_more vol.layout _ _ clst valid (fun other apart => by rw [Function.update_of_ne apart])
          (fun zero => some_ (known.trans zero)) (Function.update_self _ _ _)
      · rw [step, if_pos ok, known]
    · refine .inl ⟨put.1, put.2, ?_, wholeKept.layout, putHeld, ?_, unwritten, ok_or _ err, noisy⟩
      · rw [step, if_neg (ok_or _ err)]
      · exact counted_kept faults vol put.1 counted wholeKept unwritten
  · refine .inl ⟨got.1, .diskErr, ?_, same.layout, stillHeld, counted_same faults vol got.1 counted same, table,
      FResult.noConfusion, noisy⟩
    rw [removeLinks, read]
    dsimp only
    rw [err, if_neg (by decide), if_neg (by decide), if_pos rfl]

theorem removed_failed (faults : Faults) (vol after : Volume) (res : FResult) (clusters : List (BitVec 32))
    (layout : after.layout = vol.layout) (held : after.Held) (counted : Counted faults after) (table : after.table = vol.table)
    (err : res ≠ .ok) (noisy : ¬ Quiet faults) : Removed faults vol after res clusters where
  layout := layout
  held := held
  counted := counted
  others := fun clst _ => congrFun table clst
  lower := fun clst => .inl (congrFun table clst)
  done := fun ok => absurd ok err
  quiet := fun quiet => absurd quiet noisy

theorem remove_links_file (faults : Faults) (rest : List (BitVec 32)) (fuel : Nat) (clst : BitVec 32) (vol : Volume)
    (held : vol.Held) (firm : Firm faults vol.layout) (counted : Counted faults vol)
    (file : FileOf vol.layout vol.table (clst :: rest)) (enough : rest.length < fuel) :
    ∃ after res, removeLinks faults fuel clst vol = some (after, res) ∧ Removed faults vol after res (clst :: rest) := by
  induction rest generalizing fuel clst vol with
  | nil =>
      obtain ⟨fuel, rfl⟩ : ∃ less, fuel = less + 1 := ⟨fuel - 1, by omega⟩
      obtain ⟨valid, used⟩ := file_member vol.layout vol.table _ file clst List.mem_cons_self
      rcases remove_round faults fuel clst vol held firm counted valid used with
        ⟨after, res, ran, layout, stillHeld, stillCounted, table, err, noisy⟩ |
          ⟨freed, layout, freedHeld, freedCounted, table, ran⟩
      · exact ⟨after, res, ran, removed_failed faults vol after res [clst] layout stillHeld stillCounted table err noisy⟩
      · rw [if_neg (file_last vol.layout vol.table clst file)] at ran
        refine ⟨freed, .ok, ran, layout, freedHeld, freedCounted, fun other apart => ?_, fun other => ?_, fun _ other member => ?_,
          fun _ => rfl⟩
        · rw [table, Function.update_of_ne fun same : other = clst => apart (same ▸ List.mem_cons_self)]
        · by_cases same : other = clst
          · rw [table, same, Function.update_self]
            exact .inr rfl
          · rw [table, Function.update_of_ne same]
            exact .inl rfl
        · rw [table, List.mem_singleton.mp member, Function.update_self]
  | cons next rest ih =>
      obtain ⟨fuel, rfl⟩ : ∃ less, fuel = less + 1 := ⟨fuel - 1, by omega⟩
      obtain ⟨valid, used⟩ := file_member vol.layout vol.table _ file clst List.mem_cons_self
      have distinct := List.nodup_cons.mp (Base.chain_nodup _ _ file)
      rcases remove_round faults fuel clst vol held firm counted valid used with
        ⟨after, res, ran, layout, stillHeld, stillCounted, table, err, noisy⟩ |
          ⟨freed, layout, freedHeld, freedCounted, table, ran⟩
      · exact ⟨after, res, ran, removed_failed faults vol after res _ layout stillHeld stillCounted table err noisy⟩
      · have link := file_next vol.layout vol.table clst next rest file
        have later : FileOf freed.layout freed.table (next :: rest) := by
          rw [layout, table]
          refine file_kept vol.layout vol.table _ _ (file_rest vol.layout vol.table [clst] (next :: rest) file) fun other member => ?_
          exact Function.update_of_ne (fun same : other = clst => distinct.1 (same ▸ member)) _ _
        rw [if_pos link.1, link.2] at ran
        obtain ⟨after, res, done, removed⟩ := ih fuel next freed freedHeld (by rw [layout]; exact firm) freedCounted later
          (Nat.lt_of_succ_lt_succ enough)
        refine ⟨after, res, ran.trans done, removed.layout.trans layout, removed.held, removed.counted, fun other apart => ?_,
          fun other => ?_, fun ok other member => ?_, removed.quiet⟩
        · rw [removed.others other fun member => apart (List.mem_cons_of_mem _ member), table,
            Function.update_of_ne fun same : other = clst => apart (same ▸ List.mem_cons_self)]
        · rcases removed.lower other with kept | zero
          · by_cases same : other = clst
            · rw [kept, table, same, Function.update_self]
              exact .inr rfl
            · rw [kept, table, Function.update_of_ne same]
              exact .inl rfl
          · exact .inr zero
        · rcases List.mem_cons.mp member with same | deeper
          · rw [removed.others other (same ▸ distinct.1), table, same, Function.update_self]
          · exact removed.done ok other deeper

end Miso.FatFs
