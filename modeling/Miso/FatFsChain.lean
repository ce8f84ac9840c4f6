import Miso.FatFsRuns

set_option autoImplicit false

namespace Miso.FatFs

def Volume.noteFreed (vol : Volume) : Volume :=
  if vol.freeClst < vol.layout.nFatent - 2 then
    { vol with freeClst := vol.freeClst + 1, fsiFlag := vol.fsiFlag ||| 1 }
  else vol

-- The fuel bounds the clusters that are visited.
def removeLinks (faults : Faults) : Nat → BitVec 32 → Volume → Option (Volume × FResult)
  | 0, _, _ => none
  | fuel + 1, clst, vol =>
      let got := getFat faults vol clst
      if got.2 = 0 then some (got.1, .ok)
      else if got.2 = 1 then some (got.1, .intErr)
      else if got.2 = 0xFFFFFFFF then some (got.1, .diskErr)
      else
        let put := putFat faults got.1 clst 0
        if put.2 = .ok then
          if got.2 < vol.layout.nFatent then removeLinks faults fuel got.2 put.1.noteFreed
          else some (put.1.noteFreed, .ok)
        else some put

def removeChain (faults : Faults) (vol : Volume) (clst pclst : BitVec 32) : Option (Volume × FResult) :=
  if clst < 2 ∨ vol.layout.nFatent ≤ clst then some (vol, .intErr)
  else if pclst = 0 then removeLinks faults vol.layout.nFatent.toNat clst vol
  else
    let put := putFat faults vol pclst 0xFFFFFFFF
    if put.2 = .ok then removeLinks faults vol.layout.nFatent.toNat clst put.1 else some put

def Layout.following (layout : Layout) (clst : BitVec 32) : BitVec 32 :=
  if layout.nFatent ≤ clst + 1 then 2 else clst + 1

-- A free cluster, or what create_chain answers without one. The clusters are
-- looked at in turn, from the one behind scl round to scl.
def findFree (faults : Faults) (scl : BitVec 32) : Nat → BitVec 32 → Volume → Option (Volume × Except (BitVec 32) (BitVec 32))
  | 0, _, _ => none
  | fuel + 1, last, vol =>
      if vol.layout.nFatent ≤ last + 1 ∧ scl < 2 then some (vol, .error 0)
      else
        let ncl := vol.layout.following last
        let got := getFat faults vol ncl
        if got.2 = 0 then some (got.1, .ok ncl)
        else if got.2 = 1 ∨ got.2 = 0xFFFFFFFF then some (got.1, .error got.2)
        else if ncl = scl then some (got.1, .error 0)
        else findFree faults scl fuel ncl got.1

def Volume.noteUsed (vol : Volume) (ncl : BitVec 32) : Volume :=
  { vol with
    lastClst := ncl
    freeClst := if vol.freeClst ≤ vol.layout.nFatent - 2 then vol.freeClst - 1 else vol.freeClst
    fsiFlag := vol.fsiFlag ||| 1 }

def linkCluster (faults : Faults) (vol : Volume) (clst ncl : BitVec 32) : Volume × FResult :=
  let marked := putFat faults vol ncl 0xFFFFFFFF
  if marked.2 = .ok ∧ clst ≠ 0 then putFat faults marked.1 clst ncl else marked

def addCluster (faults : Faults) (vol : Volume) (clst ncl : BitVec 32) : Volume × BitVec 32 :=
  let linked := linkCluster faults vol clst ncl
  if linked.2 = .ok then (linked.1.noteUsed ncl, ncl)
  else (linked.1, if linked.2 = .diskErr then 0xFFFFFFFF else 1)

def searchCluster (faults : Faults) (vol : Volume) (clst scl : BitVec 32) : Option (Volume × BitVec 32) :=
  (findFree faults scl vol.layout.nFatent.toNat scl vol).map fun found =>
    match found.2 with
    | .ok ncl => addCluster faults found.1 clst ncl
    | .error val => (found.1, val)

def placeCluster (faults : Faults) (vol : Volume) (clst scl : BitVec 32) : Option (Volume × BitVec 32) :=
  if vol.freeClst = 0 then some (vol, 0)
  else if scl = clst then
    let got := getFat faults vol (vol.layout.following scl)
    if got.2 = 1 ∨ got.2 = 0xFFFFFFFF then some got
    else if got.2 = 0 then some (addCluster faults got.1 clst (vol.layout.following scl))
    else searchCluster faults got.1 clst
      (if 2 ≤ vol.lastClst ∧ vol.lastClst < vol.layout.nFatent then vol.lastClst else scl)
  else searchCluster faults vol clst scl

def createChain (faults : Faults) (vol : Volume) (clst : BitVec 32) : Option (Volume × BitVec 32) :=
  if clst = 0 then
    placeCluster faults vol 0 (if vol.lastClst = 0 ∨ vol.layout.nFatent ≤ vol.lastClst then 1 else vol.lastClst)
  else
    let got := getFat faults vol clst
    if got.2 < 2 then some (got.1, 1)
    else if got.2 = 0xFFFFFFFF then some got
    else if got.2 < vol.layout.nFatent then some got
    else placeCluster faults got.1 clst clst

def Quiet (faults : Faults) : Prop := ∀ transfer sect, faults transfer sect = none

-- No write of an entry is left half done.
def Firm (faults : Faults) (layout : Layout) : Prop := layout.fsType = .fat12 → Quiet faults

section Quiet

variable (faults : Faults) (quiet : Quiet faults)

include quiet

theorem sync_quiet (vol : Volume) : (syncWindow faults vol).2 = .ok := by
  unfold syncWindow
  by_cases dirty : vol.wflag
  · rw [if_pos dirty, diskWrite, quiet]
  · rw [if_neg dirty]

theorem fill_quiet (vol : Volume) (sect : Lba) : (fillWindow faults vol sect).2 = .ok := by
  rw [fillWindow, diskRead, quiet]

theorem move_quiet (vol : Volume) (sect : Lba) : (moveWindow faults vol sect).2 = .ok := by
  unfold moveWindow
  by_cases here : sect = vol.winsect
  · rw [if_neg (not_not_intro here)]
  · rw [if_pos here, if_pos (sync_quiet faults quiet vol)]
    exact fill_quiet faults quiet _ sect

theorem on_ok_quiet {α : Type} (vol : Volume) (sect : Lba) (next : Volume → Volume × α) (failed : FResult → α) :
    onOk (moveWindow faults vol sect) next failed = next (moveWindow faults vol sect).1 :=
  if_pos (move_quiet faults quiet vol sect)

theorem put_quiet (vol : Volume) (clst val : BitVec 32) (valid : vol.layout.valid clst) : (putFat faults vol clst val).2 = .ok := by
  have checked : 2 ≤ clst ∧ clst < vol.layout.nFatent := valid
  unfold putFat
  rw [if_pos checked]
  cases vol.layout.fsType with
  | fat12 =>
      show (putFat12 faults vol clst val).2 = .ok
      rw [putFat12, on_ok_quiet faults quiet, on_ok_quiet faults quiet]
  | fat16 =>
      show (putFat16 faults vol clst val).2 = .ok
      rw [putFat16, on_ok_quiet faults quiet]
  | fat32 =>
      show (putFat32 faults vol clst val).2 = .ok
      rw [putFat32, on_ok_quiet faults quiet]

theorem get_quiet (vol : Volume) (clst : BitVec 32) (valid : vol.layout.valid clst) :
    ((getFat faults vol clst).2).getLsbD 31 = false := by
  have checked : ¬ (clst < 2 ∨ vol.layout.nFatent ≤ clst) := by
    obtain ⟨low, inside⟩ := valid
    rw [BitVec.le_def] at low ⊢
    rw [BitVec.lt_def] at inside ⊢
    omega
  unfold getFat
  rw [if_neg checked]
  cases vol.layout.fsType with
  | fat12 =>
      show ((getFat12 faults vol clst).2).getLsbD 31 = false
      rw [getFat12, on_ok_quiet faults quiet, on_ok_quiet faults quiet, adjust12]
      by_cases odd : clst.toNat % 2 = 1
      · rw [if_pos odd, BitVec.getLsbD_setWidth, BitVec.getLsbD_of_ge _ 31 (by decide), Bool.and_false]
      · rw [if_neg odd, BitVec.getLsbD_setWidth, BitVec.getLsbD_of_ge _ 31 (by decide), Bool.and_false]
  | fat16 =>
      show ((getFat16 faults vol clst).2).getLsbD 31 = false
      rw [getFat16, on_ok_quiet faults quiet, BitVec.getLsbD_setWidth, BitVec.getLsbD_of_ge _ 31 (by decide), Bool.and_false]
  | fat32 =>
      show ((getFat32 faults vol clst).2).getLsbD 31 = false
      rw [getFat32, on_ok_quiet faults quiet, BitVec.getLsbD_and, low_mask 31 (by decide)]
      exact Bool.and_false _

end Quiet

theorem mask_keeps (fsType : FsType) (val : BitVec 32) (small : val.toNat < fsType.limit) : val &&& fsType.mask = val := by
  apply BitVec.eq_of_toNat_eq
  rw [BitVec.toNat_and]
  cases fsType with
  | fat12 => exact Nat.and_two_pow_sub_one_of_lt_two_pow (n := 12) (Nat.lt_trans small (by decide))
  | fat16 => exact Nat.and_two_pow_sub_one_of_lt_two_pow (n := 16) (Nat.lt_trans small (by decide))
  | fat32 => exact Nat.and_two_pow_sub_one_of_lt_two_pow (n := 28) (Nat.lt_trans small (by decide))

theorem link_kept (layout : Layout) (clst : BitVec 32) (inside : clst < layout.nFatent) : clst &&& layout.fsType.mask = clst :=
  mask_keeps layout.fsType clst (Nat.lt_of_lt_of_le (BitVec.lt_def.mp inside) layout.limited)

-- What an end of chain is written as lies above the entries.
theorem end_above (layout : Layout) : layout.nFatent ≤ 0xFFFFFFFF &&& layout.fsType.mask := by
  have whole : (0xFFFFFFFF : BitVec 32) &&& layout.fsType.mask = layout.fsType.mask := BitVec.allOnes_and
  have bound : layout.fsType.limit ≤ layout.fsType.mask.toNat := by
    cases layout.fsType <;> decide
  rw [whole, BitVec.le_def]
  exact Nat.le_trans layout.limited bound

theorem table_small (vol : Volume) (clst : BitVec 32) : vol.table clst ≠ 0xFFFFFFFF := by
  intro same
  have reads := entry_reads vol.layout.fsType vol.fat clst 31 (by decide)
  have top : decide (31 < vol.layout.fsType.payload) = false := by
    cases vol.layout.fsType <;> rfl
  rw [top, Bool.false_and] at reads
  rw [Volume.table] at same
  rw [same] at reads
  exact absurd reads (by decide)

-- What the chain functions rely on: an entry is read as it is or the disk
-- failed, and written as asked or not at all.
structure Read (faults : Faults) (vol : Volume) (clst : BitVec 32) (answer : Volume × BitVec 32) : Prop where
  same : vol.Same answer.1
  held : answer.1.Held
  value : answer.2 = vol.table clst ∨ answer.2 = 0xFFFFFFFF ∧ ¬ Quiet faults

structure Written (faults : Faults) (vol : Volume) (clst val : BitVec 32) (answer : Volume × FResult) : Prop where
  kept : vol.Kept answer.1
  held : answer.1.Held
  outcome : answer.2 = .ok ∧ answer.1.table = Function.update vol.table clst (val &&& vol.layout.fsType.mask) ∨
    answer.2 = .diskErr ∧ answer.1.table = vol.table ∧ ¬ Quiet faults

theorem get_read (faults : Faults) (vol : Volume) (clst : BitVec 32) (held : vol.Held) (valid : vol.layout.valid clst) :
    Read faults vol clst (getFat faults vol clst) := by
  obtain ⟨same, stillHeld, value⟩ := get_fat faults vol clst held valid.1 valid.2
  refine ⟨same, stillHeld, ?_⟩
  rcases value with known | err
  · exact .inl known
  · refine .inr ⟨err, fun quiet => ?_⟩
    have top := get_quiet faults quiet vol clst valid
    rw [err] at top
    exact absurd top (by decide)

theorem put_written (faults : Faults) (vol : Volume) (clst val : BitVec 32) (held : vol.Held) (valid : vol.layout.valid clst)
    (firm : Firm faults vol.layout) : Written faults vol clst val (putFat faults vol clst val) := by
  obtain ⟨kept, stillHeld, outcome⟩ := put_fat faults vol clst val held valid.1 valid.2
  refine ⟨kept, stillHeld, ?_⟩
  rcases outcome with done | ⟨err, _, whole⟩
  · exact .inl done
  · have noisy : ¬ Quiet faults := by
      intro quiet
      rw [put_quiet faults quiet vol clst val valid] at err
      exact FResult.noConfusion err
    exact .inr ⟨err, whole fun twelve => noisy (firm twelve), noisy⟩

theorem get_invalid (faults : Faults) (vol : Volume) (clst : BitVec 32) (invalid : ¬ vol.layout.valid clst) :
    getFat faults vol clst = (vol, 1) := by
  have refused : clst < 2 ∨ vol.layout.nFatent ≤ clst := by
    rw [Layout.valid, BitVec.le_def, BitVec.lt_def] at invalid
    rw [BitVec.lt_def, BitVec.le_def]
    omega
  rw [getFat, if_pos refused]

-- The clusters that the search for a free one has still to look at.
def Ahead (scl last clst : BitVec 32) : Prop :=
  if last.toNat < scl.toNat then last.toNat < clst.toNat ∧ clst.toNat ≤ scl.toNat
  else last.toNat < clst.toNat ∨ clst.toNat ≤ scl.toNat

def searchLeft (layout : Layout) (scl last : BitVec 32) : Nat :=
  if last.toNat < scl.toNat then scl.toNat - last.toNat else layout.nFatent.toNat - 2 + scl.toNat - last.toNat

inductive Searched (faults : Faults) (vol : Volume) (ahead : BitVec 32 → Prop) : Except (BitVec 32) (BitVec 32) → Prop where
  | found (ncl : BitVec 32) (valid : vol.layout.valid ncl) (free : vol.table ncl = 0) : Searched faults vol ahead (.ok ncl)
  | full (used : ∀ clst, vol.layout.valid clst → ahead clst → vol.table clst ≠ 0) : Searched faults vol ahead (.error 0)
  | odd (clst : BitVec 32) (valid : vol.layout.valid clst) (value : vol.table clst = 1) : Searched faults vol ahead (.error 1)
  | failed (noisy : ¬ Quiet faults) : Searched faults vol ahead (.error 0xFFFFFFFF)

theorem next_nat (layout : Layout) (last : BitVec 32) (inside : last.toNat < layout.nFatent.toNat) :
    (last + 1).toNat = last.toNat + 1 := by
  have small := layout.nFatent.isLt
  rw [BitVec.toNat_add, show (1 : BitVec 32).toNat = 1 from rfl]
  exact Nat.mod_eq_of_lt (by omega)

theorem following_nat (layout : Layout) (last : BitVec 32) (inside : last.toNat < layout.nFatent.toNat) :
    (layout.following last).toNat = if layout.nFatent.toNat ≤ last.toNat + 1 then 2 else last.toNat + 1 := by
  have next := next_nat layout last inside
  unfold Layout.following
  by_cases wraps : layout.nFatent.toNat ≤ last.toNat + 1
  · have wrapsBits : layout.nFatent ≤ last + 1 := BitVec.le_def.mpr (by rw [next]; exact wraps)
    rw [if_pos wraps, if_pos wrapsBits]
    rfl
  · have stays : ¬ layout.nFatent ≤ last + 1 := fun beyond => wraps (by rw [← next]; exact BitVec.le_def.mp beyond)
    rw [if_neg wraps, if_neg stays, next]

theorem following_valid (layout : Layout) (last : BitVec 32) (low : 1 ≤ last.toNat) (inside : last.toNat < layout.nFatent.toNat) :
    layout.valid (layout.following last) := by
  have place := following_nat layout last inside
  have entries := layout.some_
  unfold Layout.valid
  rw [BitVec.le_def, BitVec.lt_def, place, show (2 : BitVec 32).toNat = 2 from rfl]
  by_cases wraps : layout.nFatent.toNat ≤ last.toNat + 1
  · rw [if_pos wraps]
    exact ⟨Nat.le_refl 2, entries⟩
  · rw [if_neg wraps]
    omega

-- The search has looked at everything when it comes round from the last entry
-- without a cluster to stop at, or to that cluster.
theorem ahead_round (layout : Layout) (scl last clst : BitVec 32) (inside : last.toNat < layout.nFatent.toNat)
    (sclLow : 1 ≤ scl.toNat) (round : layout.nFatent ≤ last + 1 ∧ scl < 2) (valid : layout.valid clst) : ¬ Ahead scl last clst := by
  have low := BitVec.le_def.mp valid.1
  have high := BitVec.lt_def.mp valid.2
  have next := next_nat layout last inside
  have two : (2 : BitVec 32).toNat = 2 := rfl
  rw [BitVec.le_def, BitVec.lt_def, next, two] at round
  unfold Ahead
  by_cases before : last.toNat < scl.toNat
  · rw [if_pos before]
    omega
  · rw [if_neg before]
    omega

theorem ahead_following (layout : Layout) (scl last clst : BitVec 32) (inside : last.toNat < layout.nFatent.toNat)
    (valid : layout.valid clst) (ahead : Ahead scl last clst)
    (differs : clst ≠ layout.following last) : layout.following last ≠ scl ∧ Ahead scl (layout.following last) clst := by
  have clstLow := BitVec.le_def.mp valid.1
  have clstHigh := BitVec.lt_def.mp valid.2
  have place := following_nat layout last inside
  have apart : clst.toNat ≠ (layout.following last).toNat := fun equal => differs (BitVec.eq_of_toNat_eq equal)
  rw [show (2 : BitVec 32).toNat = 2 from rfl] at clstLow
  have stop : layout.following last = scl → (layout.following last).toNat = scl.toNat := fun equal => congrArg BitVec.toNat equal
  unfold Ahead at ahead ⊢
  by_cases wraps : layout.nFatent.toNat ≤ last.toNat + 1
  · rw [if_pos wraps] at place
    rw [place] at apart stop ⊢
    by_cases before : last.toNat < scl.toNat
    · rw [if_pos before] at ahead
      omega
    · rw [if_neg before] at ahead
      refine ⟨fun equal => by have := stop equal; omega, ?_⟩
      by_cases still : 2 < scl.toNat
      · rw [if_pos still]
        omega
      · rw [if_neg still]
        omega
  · rw [if_neg wraps] at place
    rw [place] at apart stop ⊢
    by_cases before : last.toNat < scl.toNat
    · rw [if_pos before] at ahead
      refine ⟨fun equal => by have := stop equal; omega, ?_⟩
      by_cases still : last.toNat + 1 < scl.toNat
      · rw [if_pos still]
        omega
      · rw [if_neg still]
        omega
    · rw [if_neg before] at ahead
      refine ⟨fun equal => by have := stop equal; omega, ?_⟩
      rw [if_neg (by omega)]
      omega

theorem left_following (layout : Layout) (scl last : BitVec 32) (sclLow : 1 ≤ scl.toNat) (inside : last.toNat < layout.nFatent.toNat)
    (sclInside : scl.toNat < layout.nFatent.toNat) (goes : ¬ (layout.nFatent ≤ last + 1 ∧ scl < 2))
    (differs : layout.following last ≠ scl) : searchLeft layout scl (layout.following last) < searchLeft layout scl last := by
  have next := next_nat layout last inside
  have place := following_nat layout last inside
  have two : (2 : BitVec 32).toNat = 2 := rfl
  have apart : (layout.following last).toNat ≠ scl.toNat := fun equal => differs (BitVec.eq_of_toNat_eq equal)
  rw [BitVec.le_def, BitVec.lt_def, next, two] at goes
  unfold searchLeft
  by_cases wraps : layout.nFatent.toNat ≤ last.toNat + 1
  · rw [if_pos wraps] at place
    rw [place] at apart ⊢
    rw [if_neg (show ¬ last.toNat < scl.toNat by omega), if_pos (show 2 < scl.toNat by omega)]
    omega
  · rw [if_neg wraps] at place
    rw [place] at apart ⊢
    by_cases before : last.toNat < scl.toNat
    · rw [if_pos before, if_pos (show last.toNat + 1 < scl.toNat by omega)]
      omega
    · rw [if_neg before, if_neg (show ¬ last.toNat + 1 < scl.toNat by omega)]
      omega

theorem searched_further (faults : Faults) (vol after : Volume) (ahead further : BitVec 32 → Prop)
    (result : Except (BitVec 32) (BitVec 32)) (same : vol.Same after) (searched : Searched faults after further result)
    (covers : ∀ clst, vol.layout.valid clst → ahead clst → vol.table clst ≠ 0 ∨ further clst) : Searched faults vol ahead result := by
  have table := same_table vol after same
  cases searched with
  | found clst valid free =>
      rw [same.layout] at valid
      rw [table] at free
      exact .found clst valid free
  | full used =>
      rw [same.layout, table] at used
      refine .full fun clst valid here => ?_
      rcases covers clst valid here with known | later
      · exact known
      · exact used clst valid later
  | odd clst valid one =>
      rw [same.layout] at valid
      rw [table] at one
      exact .odd clst valid one
  | failed noisy => exact .failed noisy

theorem find_free_step (faults : Faults) (scl : BitVec 32) (fuel : Nat) (last : BitVec 32) (vol : Volume)
    (goes : ¬ (vol.layout.nFatent ≤ last + 1 ∧ scl < 2)) (got : Volume × BitVec 32)
    (read : getFat faults vol (vol.layout.following last) = got) :
    findFree faults scl (fuel + 1) last vol =
      if got.2 = 0 then some (got.1, .ok (vol.layout.following last))
      else if got.2 = 1 ∨ got.2 = 0xFFFFFFFF then some (got.1, .error got.2)
      else if vol.layout.following last = scl then some (got.1, .error 0)
      else findFree faults scl fuel (vol.layout.following last) got.1 := by
  subst read
  rw [findFree, if_neg goes]

theorem find_free (faults : Faults) (scl : BitVec 32) (fuel : Nat) (last : BitVec 32) (vol : Volume) (held : vol.Held)
    (sclLow : 1 ≤ scl.toNat) (sclInside : scl.toNat < vol.layout.nFatent.toNat) (low : 1 ≤ last.toNat)
    (inside : last.toNat < vol.layout.nFatent.toNat) (enough : searchLeft vol.layout scl last < fuel) :
    ∃ after result, findFree faults scl fuel last vol = some (after, result) ∧ vol.Same after ∧ after.Held ∧
      Searched faults vol (Ahead scl last) result := by
  induction fuel generalizing last vol with
  | zero => exact absurd enough (Nat.not_lt_zero _)
  | succ fuel ih =>
      by_cases round : vol.layout.nFatent ≤ last + 1 ∧ scl < 2
      · refine ⟨vol, .error 0, by rw [findFree, if_pos round], .refl vol, held, .full fun clst valid ahead => ?_⟩
        exact absurd ahead (ahead_round vol.layout scl last clst inside sclLow round valid)
      · have valid := following_valid vol.layout last low inside
        obtain ⟨got, read⟩ : ∃ got, getFat faults vol (vol.layout.following last) = got := ⟨_, rfl⟩
        obtain ⟨same, stillHeld, value⟩ := get_read faults vol (vol.layout.following last) held valid
        rw [read] at same stillHeld value
        rw [find_free_step faults scl fuel last vol round got read]
        rcases value with known | ⟨err, noisy⟩
        · have covers (clst : BitVec 32) (clstValid : vol.layout.valid clst) (ahead : Ahead scl last clst) (used : got.2 ≠ 0) :
              vol.table clst ≠ 0 ∨ vol.layout.following last ≠ scl ∧ Ahead scl (vol.layout.following last) clst := by
            by_cases here : clst = vol.layout.following last
            · rw [here, ← known]
              exact .inl used
            · exact .inr (ahead_following vol.layout scl last clst inside clstValid ahead here)
          by_cases free : got.2 = 0
          · rw [if_pos free]
            exact ⟨got.1, .ok _, rfl, same, stillHeld, .found _ valid (known.symm.trans free)⟩
          · rw [if_neg free]
            by_cases odd : got.2 = 1 ∨ got.2 = 0xFFFFFFFF
            · rw [if_pos odd]
              rcases odd with one | all
              · rw [one]
                exact ⟨got.1, .error 1, rfl, same, stillHeld, .odd _ valid (known.symm.trans one)⟩
              · exact absurd (known.symm.trans all) (table_small vol _)
            · rw [if_neg odd]
              by_cases ends : vol.layout.following last = scl
              · rw [if_pos ends]
                refine ⟨got.1, .error 0, rfl, same, stillHeld, .full fun clst clstValid ahead => ?_⟩
                rcases covers clst clstValid ahead free with used | ⟨other, _⟩
                · exact used
                · exact absurd ends other
              · rw [if_neg ends]
                have fewer := left_following vol.layout scl last sclLow inside sclInside round ends
                have nclLow := BitVec.le_def.mp valid.1
                have nclInside := BitVec.lt_def.mp valid.2
                rw [show (2 : BitVec 32).toNat = 2 from rfl] at nclLow
                obtain ⟨after, result, ran, again, afterHeld, searched⟩ := ih (vol.layout.following last) got.1 stillHeld
                  (by rw [same.layout]; exact sclInside) (by omega) (by rw [same.layout]; exact nclInside)
                  (by rw [same.layout]; omega)
                refine ⟨after, result, ran, same.trans again, afterHeld, ?_⟩
                refine searched_further faults vol got.1 _ _ result same searched fun clst clstValid ahead => ?_
                rcases covers clst clstValid ahead free with used | ⟨_, later⟩
                · exact .inl used
                · exact .inr later
        · rw [err, if_neg (by decide), if_pos (.inr rfl)]
          exact ⟨got.1, .error 0xFFFFFFFF, rfl, same, stillHeld, .failed noisy⟩

def Layout.eoc (layout : Layout) : BitVec 32 := 0xFFFFFFFF &&& layout.fsType.mask

-- The table with a new cluster, linked from the last one of its chain.
def linked (layout : Layout) (table : BitVec 32 → BitVec 32) (clst ncl : BitVec 32) : BitVec 32 → BitVec 32 :=
  if clst = 0 then Function.update table ncl layout.eoc else Function.update (Function.update table ncl layout.eoc) clst ncl

-- A chain is started, or continued behind its last cluster.
def Tail (vol : Volume) (clst : BitVec 32) : Prop := clst = 0 ∨ vol.layout.valid clst ∧ vol.layout.nFatent ≤ vol.table clst

inductive Created (faults : Faults) (vol : Volume) (clst : BitVec 32) (after : Volume) : BitVec 32 → Prop where
  | follows (valid : vol.layout.valid clst) (low : 2 ≤ vol.table clst) (inside : vol.table clst < vol.layout.nFatent)
      (same : vol.Same after) : Created faults vol clst after (vol.table clst)
  | full (same : vol.Same after) (used : vol.freeClst = 0 ∨ ∀ other, vol.layout.valid other → vol.table other ≠ 0) :
      Created faults vol clst after 0
  | refused (same : vol.Same after)
      (odd : clst ≠ 0 ∧ (vol.layout.valid clst → vol.table clst < 2) ∨ ∃ other, vol.layout.valid other ∧ vol.table other = 1) :
      Created faults vol clst after 1
  | failed (kept : vol.Kept after) (noisy : ¬ Quiet faults)
      (table : after.table = vol.table ∨ ∃ ncl, vol.layout.valid ncl ∧ vol.table ncl = 0 ∧
        after.table = Function.update vol.table ncl vol.layout.eoc) : Created faults vol clst after 0xFFFFFFFF
  | added (ncl : BitVec 32) (valid : vol.layout.valid ncl) (free : vol.table ncl = 0) (tail : Tail vol clst)
      (layout : after.layout = vol.layout) (table : after.table = linked vol.layout vol.table clst ncl)
      (count : after.freeClst = if vol.freeClst ≤ vol.layout.nFatent - 2 then vol.freeClst - 1 else vol.freeClst) :
      Created faults vol clst after ncl

theorem created_later (faults : Faults) (vol middle after : Volume) (clst ans : BitVec 32) (same : vol.Same middle)
    (created : Created faults middle clst after ans) : Created faults vol clst after ans := by
  have table := same_table vol middle same
  cases created with
  | follows valid low inside again =>
      rw [table] at low inside ⊢
      rw [same.layout] at valid inside
      exact .follows valid low inside (same.trans again)
  | full again used =>
      rw [table, same.layout, same.kept.freeClst] at used
      exact .full (same.trans again) used
  | refused again odd =>
      rw [table, same.layout] at odd
      exact .refused (same.trans again) odd
  | failed kept noisy left =>
      rw [table, same.layout] at left
      exact .failed (same.kept.trans kept) noisy left
  | added _ valid free tail layout new count =>
      rw [same.layout] at valid layout new
      rw [table] at free new
      rw [Tail, table, same.layout] at tail
      rw [same.layout, same.kept.freeClst] at count
      exact .added ans valid free tail layout new count

theorem ok_or (res : FResult) (err : res = .diskErr) : res ≠ .ok := by
  rw [err]
  exact FResult.noConfusion

theorem link_cluster (faults : Faults) (vol : Volume) (clst ncl : BitVec 32) (held : vol.Held) (firm : Firm faults vol.layout)
    (valid : vol.layout.valid ncl) (head : clst = 0 ∨ vol.layout.valid clst) :
    vol.Kept (linkCluster faults vol clst ncl).1 ∧ (linkCluster faults vol clst ncl).1.Held ∧
      ((linkCluster faults vol clst ncl).2 = .ok ∧
          (linkCluster faults vol clst ncl).1.table = linked vol.layout vol.table clst ncl ∨
        (linkCluster faults vol clst ncl).2 = .diskErr ∧ ¬ Quiet faults ∧
          ((linkCluster faults vol clst ncl).1.table = vol.table ∨
            (linkCluster faults vol clst ncl).1.table = Function.update vol.table ncl vol.layout.eoc)) := by
  obtain ⟨kept, stillHeld, outcome⟩ := put_written faults vol ncl 0xFFFFFFFF held valid firm
  obtain ⟨marked, markedIs⟩ : ∃ marked, putFat faults vol ncl 0xFFFFFFFF = marked := ⟨_, rfl⟩
  rw [markedIs] at kept stillHeld outcome
  have step : linkCluster faults vol clst ncl = if marked.2 = .ok ∧ clst ≠ 0 then putFat faults marked.1 clst ncl else marked := by
    rw [linkCluster, markedIs]
  rcases outcome with ⟨ok, table⟩ | ⟨err, table, noisy⟩
  · by_cases first : clst = 0
    · rw [step, if_neg fun both => both.2 first]
      refine ⟨kept, stillHeld, .inl ⟨ok, ?_⟩⟩
      rw [linked, if_pos first]
      exact table
    · have clstValid : vol.layout.valid clst := head.resolve_left first
      rw [step, if_pos ⟨ok, first⟩]
      obtain ⟨keptLink, linkHeld, linkOutcome⟩ := put_written faults marked.1 clst ncl stillHeld (by rw [kept.layout]; exact clstValid)
        (by rw [kept.layout]; exact firm)
      rw [kept.layout, table, link_kept vol.layout ncl valid.2] at linkOutcome
      refine ⟨kept.trans keptLink, linkHeld, ?_⟩
      rcases linkOutcome with ⟨linkOk, linkTable⟩ | ⟨linkErr, linkTable, noisy⟩
      · refine .inl ⟨linkOk, ?_⟩
        rw [linked, if_neg first]
        exact linkTable
      · exact .inr ⟨linkErr, noisy, .inr linkTable⟩
  · rw [step, if_neg fun both => ok_or _ err both.1]
    exact ⟨kept, stillHeld, .inr ⟨err, noisy, .inl table⟩⟩

theorem add_cluster (faults : Faults) (vol : Volume) (clst ncl : BitVec 32) (held : vol.Held) (firm : Firm faults vol.layout)
    (valid : vol.layout.valid ncl) (free : vol.table ncl = 0) (tail : Tail vol clst) :
    (addCluster faults vol clst ncl).1.Held ∧
      Created faults vol clst (addCluster faults vol clst ncl).1 (addCluster faults vol clst ncl).2 := by
  obtain ⟨kept, stillHeld, outcome⟩ := link_cluster faults vol clst ncl held firm valid (tail.imp_right And.left)
  unfold addCluster
  rcases outcome with ⟨ok, table⟩ | ⟨err, noisy, table⟩
  · rw [if_pos ok]
    refine ⟨stillHeld, .added ncl valid free tail kept.layout table ?_⟩
    rw [Volume.noteUsed, kept.layout, kept.freeClst]
  · rw [if_neg (ok_or _ err), if_pos err]
    refine ⟨stillHeld, .failed kept noisy ?_⟩
    rcases table with same | new
    · exact .inl same
    · exact .inr ⟨ncl, valid, free, new⟩

theorem search_cluster (faults : Faults) (vol : Volume) (clst scl : BitVec 32) (held : vol.Held) (firm : Firm faults vol.layout)
    (tail : Tail vol clst) (low : 1 ≤ scl.toNat) (inside : scl.toNat < vol.layout.nFatent.toNat) :
    ∃ after ans, searchCluster faults vol clst scl = some (after, ans) ∧ after.Held ∧ Created faults vol clst after ans := by
  have entries := vol.layout.some_
  have enough : searchLeft vol.layout scl scl < vol.layout.nFatent.toNat := by
    rw [searchLeft, if_neg (Nat.lt_irrefl _)]
    omega
  obtain ⟨after, result, ran, same, stillHeld, searched⟩ := find_free faults scl vol.layout.nFatent.toNat scl vol held low inside
    low inside enough
  unfold searchCluster
  rw [ran]
  cases searched with
  | found ncl valid free =>
      obtain ⟨lastHeld, created⟩ := add_cluster faults after clst ncl stillHeld (by rw [same.layout]; exact firm)
        (by rw [same.layout]; exact valid) (by rw [same_table vol after same]; exact free)
        (by rw [Tail, same_table vol after same, same.layout]; exact tail)
      exact ⟨_, _, rfl, lastHeld, created_later faults vol after _ clst _ same created⟩
  | full used =>
      refine ⟨after, 0, rfl, stillHeld, .full same (.inr fun other valid => used other valid ?_)⟩
      rw [Ahead, if_neg (Nat.lt_irrefl _)]
      omega
  | odd other valid one => exact ⟨after, 1, rfl, stillHeld, .refused same (.inr ⟨other, valid, one⟩)⟩
  | failed noisy =>
      exact ⟨after, 0xFFFFFFFF, rfl, stillHeld, .failed same.kept noisy (.inl (same_table vol after same))⟩

theorem valid_range (layout : Layout) (clst : BitVec 32) (valid : layout.valid clst) :
    1 ≤ clst.toNat ∧ clst.toNat < layout.nFatent.toNat := by
  have low := BitVec.le_def.mp valid.1
  rw [show (2 : BitVec 32).toNat = 2 from rfl] at low
  exact ⟨Nat.le_of_succ_le low, BitVec.lt_def.mp valid.2⟩

theorem place_stretch (faults : Faults) (vol : Volume) (clst : BitVec 32) (held : vol.Held) (firm : Firm faults vol.layout)
    (valid : vol.layout.valid clst) (ends : vol.layout.nFatent ≤ vol.table clst) :
    ∃ after ans, placeCluster faults vol clst clst = some (after, ans) ∧ after.Held ∧ Created faults vol clst after ans := by
  obtain ⟨low, inside⟩ := valid_range vol.layout clst valid
  unfold placeCluster
  by_cases none_ : vol.freeClst = 0
  · rw [if_pos none_]
    exact ⟨vol, 0, rfl, held, .full (.refl vol) (.inl none_)⟩
  · rw [if_neg none_, if_pos rfl]
    have nextValid := following_valid vol.layout clst low inside
    obtain ⟨same, stillHeld, value⟩ := get_read faults vol (vol.layout.following clst) held nextValid
    obtain ⟨got, gotIs⟩ : ∃ got, getFat faults vol (vol.layout.following clst) = got := ⟨_, rfl⟩
    rw [gotIs] at same stillHeld value ⊢
    have table := same_table vol got.1 same
    dsimp only
    rcases value with known | ⟨err, noisy⟩
    · by_cases odd : got.2 = 1 ∨ got.2 = 0xFFFFFFFF
      · rw [if_pos odd]
        rcases odd with one | all
        · refine ⟨got.1, 1, by rw [← one], stillHeld, .refused same (.inr ⟨_, nextValid, known.symm.trans one⟩)⟩
        · exact absurd (known.symm.trans all) (table_small vol _)
      · rw [if_neg odd]
        by_cases free : got.2 = 0
        · rw [if_pos free]
          obtain ⟨lastHeld, created⟩ := add_cluster faults got.1 clst (vol.layout.following clst) stillHeld
            (by rw [same.layout]; exact firm) (by rw [same.layout]; exact nextValid) (by rw [table, ← known]; exact free)
            (by rw [Tail, table, same.layout]; exact .inr ⟨valid, ends⟩)
          exact ⟨_, _, rfl, lastHeld, created_later faults vol got.1 _ clst _ same created⟩
        · rw [if_neg free]
          have start : 1 ≤ (if 2 ≤ vol.lastClst ∧ vol.lastClst < vol.layout.nFatent then vol.lastClst else clst).toNat ∧
              (if 2 ≤ vol.lastClst ∧ vol.lastClst < vol.layout.nFatent then vol.lastClst else clst).toNat <
                got.1.layout.nFatent.toNat := by
            rw [same.layout]
            by_cases suggested : 2 ≤ vol.lastClst ∧ vol.lastClst < vol.layout.nFatent
            · rw [if_pos suggested]
              exact valid_range vol.layout vol.lastClst suggested
            · rw [if_neg suggested]
              exact ⟨low, inside⟩
          obtain ⟨after, ans, ran, lastHeld, created⟩ := search_cluster faults got.1 clst _ stillHeld (by rw [same.layout]; exact firm)
            (by rw [Tail, table, same.layout]; exact .inr ⟨valid, ends⟩) start.1 start.2
          exact ⟨after, ans, ran, lastHeld, created_later faults vol got.1 after clst ans same created⟩
    · refine ⟨got.1, 0xFFFFFFFF, ?_, stillHeld, .failed same.kept noisy (.inl table)⟩
      rw [if_pos (.inr err), ← err]

theorem place_create (faults : Faults) (vol : Volume) (scl : BitVec 32) (held : vol.Held) (firm : Firm faults vol.layout)
    (low : 1 ≤ scl.toNat) (inside : scl.toNat < vol.layout.nFatent.toNat) :
    ∃ after ans, placeCluster faults vol 0 scl = some (after, ans) ∧ after.Held ∧ Created faults vol 0 after ans := by
  unfold placeCluster
  by_cases none_ : vol.freeClst = 0
  · rw [if_pos none_]
    exact ⟨vol, 0, rfl, held, .full (.refl vol) (.inl none_)⟩
  · have some_ : scl ≠ 0 := by
      rintro rfl
      exact absurd low (by decide)
    rw [if_neg none_, if_neg some_]
    exact search_cluster faults vol 0 scl held firm (.inl rfl) low inside

-- create_chain always ends, and does one of these things.
theorem create_chain (faults : Faults) (vol : Volume) (clst : BitVec 32) (held : vol.Held) (firm : Firm faults vol.layout) :
    ∃ after ans, createChain faults vol clst = some (after, ans) ∧ after.Held ∧ Created faults vol clst after ans := by
  unfold createChain
  by_cases first : clst = 0
  · rw [if_pos first, first]
    have entries := vol.layout.some_
    by_cases unset : vol.lastClst = 0 ∨ vol.layout.nFatent ≤ vol.lastClst
    · rw [if_pos unset]
      exact place_create faults vol 1 held firm (by decide) (Nat.lt_trans (by decide) entries)
    · rw [if_neg unset, ← BitVec.not_lt, not_or, not_not] at *
      have some_ : vol.lastClst.toNat ≠ 0 := fun zero => unset.1 (BitVec.eq_of_toNat_eq zero)
      exact place_create faults vol vol.lastClst held firm (Nat.one_le_iff_ne_zero.mpr some_) (BitVec.lt_def.mp unset.2)
  · rw [if_neg first]
    dsimp only
    by_cases valid : vol.layout.valid clst
    · obtain ⟨same, stillHeld, value⟩ := get_read faults vol clst held valid
      obtain ⟨got, gotIs⟩ : ∃ got, getFat faults vol clst = got := ⟨_, rfl⟩
      rw [gotIs] at same stillHeld value ⊢
      have table := same_table vol got.1 same
      rcases value with known | ⟨err, noisy⟩
      · by_cases odd : got.2 < 2
        · rw [if_pos odd]
          exact ⟨got.1, 1, rfl, stillHeld, .refused same (.inl ⟨first, fun _ => known ▸ odd⟩)⟩
        · rw [if_neg odd, if_neg (by rw [known]; exact table_small vol clst)]
          by_cases inside : got.2 < vol.layout.nFatent
          · rw [if_pos inside]
            refine ⟨got.1, vol.table clst, by rw [← known], stillHeld, .follows valid ?_ (known ▸ inside) same⟩
            rw [← known]
            exact BitVec.not_lt.mp odd
          · rw [if_neg inside]
            obtain ⟨after, ans, ran, lastHeld, created⟩ := place_stretch faults got.1 clst stillHeld (by rw [same.layout]; exact firm)
              (by rw [same.layout]; exact valid) (by rw [table, same.layout, ← known]; exact BitVec.not_lt.mp inside)
            exact ⟨after, ans, ran, lastHeld, created_later faults vol got.1 after clst ans same created⟩
      · refine ⟨got.1, 0xFFFFFFFF, ?_, stillHeld, .failed same.kept noisy (.inl table)⟩
        rw [err, if_neg (by decide), if_pos rfl, ← err]
    · have refused : ((vol, 1) : Volume × BitVec 32).2 < 2 := show (1 : BitVec 32) < 2 by decide
      rw [get_invalid faults vol clst valid, if_pos refused]
      exact ⟨vol, 1, rfl, held, .refused (.refl vol) (.inl ⟨first, fun here => absurd here valid⟩)⟩

end Miso.FatFs
