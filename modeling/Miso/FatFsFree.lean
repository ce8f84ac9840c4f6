import Miso.FatFsFiles

set_option autoImplicit false

namespace Miso.FatFs

-- FAT12: the entries are read one by one, the reserved ones not.
def scanLinks (faults : Faults) : Nat → BitVec 32 → BitVec 32 → Volume → Volume × Except FResult (BitVec 32)
  | 0, _, nfree, vol => (vol, .ok nfree)
  | left + 1, clst, nfree, vol =>
      let got := getFat faults vol clst
      if got.2 = 0xFFFFFFFF then (got.1, .error .diskErr)
      else if got.2 = 1 then (got.1, .error .intErr)
      else scanLinks faults left (clst + 1) (if got.2 = 0 then nfree + 1 else nfree) got.1

def FsType.width : FsType → Nat
  | .fat12 => 0
  | .fat16 => 2
  | .fat32 => 4

def entryAt (fsType : FsType) (win : Sector) (i : Nat) : BitVec 32 :=
  if fsType = .fat16 then (ldWord (win i) (win (i + 1))).setWidth 32 else ldDwordAt win i &&& 0x0FFFFFFF

-- FAT16 and FAT32: sector by sector, the reserved entries too.
def scanSectors (faults : Faults) : Nat → Lba → Nat → BitVec 32 → Volume → Volume × Except FResult (BitVec 32)
  | 0, _, _, nfree, vol => (vol, .ok nfree)
  | left + 1, sect, i, nfree, vol =>
      let moved := if i = 0 then moveWindow faults vol sect else (vol, .ok)
      if moved.2 = .ok then
        scanSectors faults left (if i = 0 then sect + 1 else sect) ((i + vol.layout.fsType.width) % ss)
          (if entryAt vol.layout.fsType moved.1.win i = 0 then nfree + 1 else nfree) moved.1
      else (moved.1, .error moved.2)

def scanFree (faults : Faults) (vol : Volume) : Volume × Except FResult (BitVec 32) :=
  if vol.layout.fsType = .fat12 then scanLinks faults (vol.layout.nFatent.toNat - 2) 2 0 vol
  else scanSectors faults vol.layout.nFatent.toNat vol.layout.fatbase 0 0 vol

def getFree (faults : Faults) (vol : Volume) : Volume × Except FResult (BitVec 32) :=
  if vol.freeClst ≤ vol.layout.nFatent - 2 then (vol, .ok vol.freeClst)
  else
    match scanFree faults vol with
    | (scanned, .ok nfree) => ({ scanned with freeClst := nfree, fsiFlag := scanned.fsiFlag ||| 1 }, .ok nfree)
    | (scanned, .error res) => (scanned, .error res)

-- The entries from one on that are free.
def zeroCount (layout : Layout) (table : BitVec 32 → BitVec 32) (first : Nat) : Nat :=
  Nat.count (fun index => first ≤ index ∧ table (BitVec.ofNat 32 index) = 0) layout.nFatent.toNat

theorem count_from (holds : Nat → Prop) [DecidablePred holds] (start total : Nat) (less : start < total) :
    Nat.count (fun index => start ≤ index ∧ holds index) total =
      (if holds start then 1 else 0) + Nat.count (fun index => start + 1 ≤ index ∧ holds index) total := by
  by_cases here : holds start
  · rw [if_pos here, Nat.add_comm]
    refine count_one_more _ _ start total less (fun index _ other => ?_) (fun both => by omega) ⟨Nat.le_refl _, here⟩
    exact and_congr_left fun _ => by omega
  · rw [if_neg here, Nat.zero_add]
    refine count_same _ _ total fun index _ => ?_
    by_cases same : index = start
    · rw [same]
      exact iff_of_false (fun both => here both.2) fun both => here both.2
    · exact and_congr_left fun _ => by omega

theorem count_end (holds : Nat → Prop) [DecidablePred holds] (start total : Nat) (more : total ≤ start) :
    Nat.count (fun index => start ≤ index ∧ holds index) total = 0 := by
  induction total with
  | zero => rfl
  | succ total ih =>
      rw [Nat.count_succ, ih (by omega), if_neg fun both => by omega]

inductive Scanned (faults : Faults) (vol : Volume) (count : Nat) : Except FResult (BitVec 32) → Prop where
  | counted (nfree : BitVec 32) (value : nfree.toNat = count) : Scanned faults vol count (.ok nfree)
  | failed (noisy : ¬ Quiet faults) : Scanned faults vol count (.error .diskErr)
  | odd (twelve : vol.layout.fsType = .fat12) (clst : BitVec 32) (valid : vol.layout.valid clst) (one : vol.table clst = 1) :
      Scanned faults vol count (.error .intErr)

theorem scanned_later (faults : Faults) (vol middle : Volume) (count : Nat) (res : Except FResult (BitVec 32))
    (same : vol.Same middle) (scanned : Scanned faults middle count res) : Scanned faults vol count res := by
  have table := same_table vol middle same
  cases scanned with
  | counted nfree value => exact .counted nfree value
  | failed noisy => exact .failed noisy
  | odd twelve clst valid one =>
      rw [same.layout] at twelve valid
      rw [table] at one
      exact .odd twelve clst valid one

theorem more_free (nfree : BitVec 32) (zero : Prop) [Decidable zero] (room : nfree.toNat + 1 < 4294967296) :
    (if zero then nfree + 1 else nfree).toNat = nfree.toNat + if zero then 1 else 0 := by
  by_cases here : zero
  · rw [if_pos here, if_pos here, BitVec.toNat_add, show (1 : BitVec 32).toNat = 1 from rfl]
    exact Nat.mod_eq_of_lt room
  · rw [if_neg here, if_neg here, Nat.add_zero]

theorem index_nat (layout : Layout) (index : Nat) (inside : index < layout.nFatent.toNat) : (BitVec.ofNat 32 index).toNat = index := by
  have small := layout.nFatent.isLt
  rw [BitVec.toNat_ofNat]
  exact Nat.mod_eq_of_lt (by omega)

theorem scan_links (faults : Faults) (left index : Nat) (nfree : BitVec 32) (vol : Volume) (held : vol.Held)
    (twelve : vol.layout.fsType = .fat12) (low : 2 ≤ index) (entries : index + left = vol.layout.nFatent.toNat)
    (room : nfree.toNat + left < 4294967296) :
    ∃ after res, scanLinks faults left (BitVec.ofNat 32 index) nfree vol = (after, res) ∧ vol.Same after ∧ after.Held ∧
      Scanned faults vol (nfree.toNat + zeroCount vol.layout vol.table index) res := by
  induction left generalizing index nfree vol with
  | zero =>
      refine ⟨vol, .ok nfree, rfl, .refl vol, held, .counted nfree ?_⟩
      rw [zeroCount, count_end _ index _ (by omega), Nat.add_zero]
  | succ left ih =>
      have inside : index < vol.layout.nFatent.toNat := by omega
      have place := index_nat vol.layout index inside
      have valid : vol.layout.valid (BitVec.ofNat 32 index) := by
        unfold Layout.valid
        rw [BitVec.le_def, BitVec.lt_def, place]
        exact ⟨low, inside⟩
      have next : BitVec.ofNat 32 index + 1 = BitVec.ofNat 32 (index + 1) := (BitVec.ofNat_add index 1).symm
      obtain ⟨same, stillHeld, value⟩ := get_read faults vol _ held valid
      obtain ⟨got, read⟩ : ∃ got, getFat faults vol (BitVec.ofNat 32 index) = got := ⟨_, rfl⟩
      rw [read] at same stillHeld value
      have table := same_table vol got.1 same
      unfold scanLinks
      rw [read]
      dsimp only
      rcases value with known | ⟨err, noisy⟩
      · rw [if_neg (by rw [known]; exact table_small vol _)]
        by_cases odd : got.2 = 1
        · rw [if_pos odd]
          exact ⟨_, _, rfl, same, stillHeld, .odd twelve _ valid (known.symm.trans odd)⟩
        · have step := more_free nfree (got.2 = 0) (by omega)
          have within : (if got.2 = 0 then nfree + 1 else nfree).toNat + left < 4294967296 := by
            rw [step]
            split <;> omega
          rw [if_neg odd, next]
          obtain ⟨after, res, ran, again, afterHeld, scanned⟩ := ih (index + 1) (if got.2 = 0 then nfree + 1 else nfree) got.1
            stillHeld (by rw [same.layout]; exact twelve) (by omega) (by rw [same.layout]; omega) within
          refine ⟨after, res, ran, same.trans again, afterHeld, scanned_later faults vol got.1 _ res same ?_⟩
          rw [step, table, same.layout, Nat.add_assoc] at scanned
          rw [zeroCount, count_from _ index _ inside, ← known]
          exact scanned
      · rw [if_pos err]
        exact ⟨_, _, rfl, same, stillHeld, .failed noisy⟩

theorem scan_entry (vol : Volume) (index : Nat) (wide : vol.layout.fsType ≠ .fat12) (inside : index < vol.layout.nFatent.toNat)
    (here : vol.winsect = vol.layout.fatSector (index * vol.layout.fsType.width)) :
    entryAt vol.layout.fsType vol.win (index * vol.layout.fsType.width % ss) = vol.table (BitVec.ofNat 32 index) := by
  have place := index_nat vol.layout index inside
  have bound := entry_inside vol.layout (BitVec.ofNat 32 index) (by rw [BitVec.lt_def, place]; exact inside)
  rw [place] at bound
  unfold Volume.table
  cases type : vol.layout.fsType with
  | fat12 => exact absurd type wide
  | fat16 =>
      simp only [type] at bound here
      obtain ⟨next, after⟩ := same_sector vol.layout (index * 2) 1 (by unfold ss; omega)
      rw [entry, place, entryAt, if_pos rfl]
      show (ldWord (vol.win (index * 2 % ss)) (vol.win (index * 2 % ss + 1))).setWidth 32 = _
      rw [win_fat vol (index * 2) (by omega) here, ← after, win_fat vol (index * 2 + 1) bound (here.trans next.symm)]
  | fat32 =>
      simp only [type] at bound here
      rw [entry, place, entryAt, if_neg FsType.noConfusion]
      show ldDwordAt vol.win (index * 4 % ss) &&& 0x0FFFFFFF = _
      rw [ld_dword_moved vol vol (.refl vol) index bound here]

-- Behind an entry comes the next entry of its sector or the next sector.
theorem next_entry (layout : Layout) (index : Nat) (wide : layout.fsType ≠ .fat12) :
    (index * layout.fsType.width % ss + layout.fsType.width) % ss = (index + 1) * layout.fsType.width % ss ∧
      ((index + 1) * layout.fsType.width % ss = 0 →
        layout.fatSector ((index + 1) * layout.fsType.width) = layout.fatSector (index * layout.fsType.width) + 1) ∧
      ((index + 1) * layout.fsType.width % ss ≠ 0 →
        layout.fatSector ((index + 1) * layout.fsType.width) = layout.fatSector (index * layout.fsType.width)) := by
  have sector (offset more : Nat) (step : (offset + more) / ss = offset / ss + 1) :
      layout.fatSector (offset + more) = layout.fatSector offset + 1 := by
    rw [Layout.fatSector, Layout.fatSector, step, BitVec.ofNat_add, BitVec.add_assoc]
    rfl
  have stays (offset more : Nat) (step : (offset + more) / ss = offset / ss) :
      layout.fatSector (offset + more) = layout.fatSector offset := by
    rw [Layout.fatSector, Layout.fatSector, step]
  rw [Nat.succ_mul]
  refine ⟨?_, fun ends => sector _ _ ?_, fun goes => stays _ _ ?_⟩
  · exact Nat.mod_add_mod _ _ _
  · cases type : layout.fsType with
    | fat12 => exact absurd type wide
    | fat16 =>
        simp only [type, FsType.width, ss] at ends ⊢
        omega
    | fat32 =>
        simp only [type, FsType.width, ss] at ends ⊢
        omega
  · cases type : layout.fsType with
    | fat12 => exact absurd type wide
    | fat16 =>
        simp only [type, FsType.width, ss] at goes ⊢
        omega
    | fat32 =>
        simp only [type, FsType.width, ss] at goes ⊢
        omega

theorem scan_moved (faults : Faults) (vol : Volume) (held : vol.Held) (i : Nat) (sect here : Lba) (first : i = 0 → sect = here)
    (later : i ≠ 0 → vol.winsect = here) :
    ∃ moved, (if i = 0 then moveWindow faults vol sect else (vol, .ok)) = moved ∧ vol.Same moved.1 ∧ moved.1.Held ∧
      (moved.2 = .ok ∧ moved.1.winsect = here ∨ moved.2 = .diskErr ∧ ¬ Quiet faults) := by
  by_cases start : i = 0
  · obtain ⟨same, stillHeld, outcome⟩ := move_window faults vol sect held
    refine ⟨_, if_pos start, same, stillHeld, ?_⟩
    rcases outcome with ⟨ok, place⟩ | err
    · exact .inl ⟨ok, place.trans (first start)⟩
    · refine .inr ⟨err, fun quiet => ?_⟩
      rw [move_quiet faults quiet vol sect] at err
      exact FResult.noConfusion err
  · exact ⟨(vol, .ok), if_neg start, .refl vol, held, .inl ⟨rfl, later start⟩⟩

theorem scan_sectors (faults : Faults) (left index : Nat) (sect : Lba) (nfree : BitVec 32) (vol : Volume) (held : vol.Held)
    (wide : vol.layout.fsType ≠ .fat12) (entries : index + left = vol.layout.nFatent.toNat)
    (room : nfree.toNat + left < 4294967296)
    (first : index * vol.layout.fsType.width % ss = 0 → sect = vol.layout.fatSector (index * vol.layout.fsType.width))
    (later : index * vol.layout.fsType.width % ss ≠ 0 → sect = vol.layout.fatSector (index * vol.layout.fsType.width) + 1 ∧
      vol.winsect = vol.layout.fatSector (index * vol.layout.fsType.width)) :
    ∃ after res, scanSectors faults left sect (index * vol.layout.fsType.width % ss) nfree vol = (after, res) ∧
      vol.Same after ∧ after.Held ∧ Scanned faults vol (nfree.toNat + zeroCount vol.layout vol.table index) res := by
  induction left generalizing index sect nfree vol with
  | zero =>
      refine ⟨vol, .ok nfree, rfl, .refl vol, held, .counted nfree ?_⟩
      rw [zeroCount, count_end _ index _ (by omega), Nat.add_zero]
  | succ left ih =>
      have inside : index < vol.layout.nFatent.toNat := by omega
      obtain ⟨moved, movedIs, same, stillHeld, outcome⟩ := scan_moved faults vol held (index * vol.layout.fsType.width % ss) sect
        (vol.layout.fatSector (index * vol.layout.fsType.width)) first fun more => (later more).2
      unfold scanSectors
      rw [movedIs]
      dsimp only
      rcases outcome with ⟨ok, window⟩ | ⟨err, noisy⟩
      · have table := same_table vol moved.1 same
        have value := scan_entry moved.1 index (by rw [same.layout]; exact wide) (by rw [same.layout]; exact inside)
          (by rw [same.layout]; exact window)
        rw [same.layout, table] at value
        obtain ⟨offset, ends, goes⟩ := next_entry vol.layout index wide
        have step := more_free nfree (vol.table (BitVec.ofNat 32 index) = 0) (by omega)
        have within : (if vol.table (BitVec.ofNat 32 index) = 0 then nfree + 1 else nfree).toNat + left < 4294967296 := by
          rw [step]
          split <;> omega
        have further : (if index * vol.layout.fsType.width % ss = 0 then sect + 1 else sect) =
            vol.layout.fatSector (index * vol.layout.fsType.width) + 1 := by
          by_cases start : index * vol.layout.fsType.width % ss = 0
          · rw [if_pos start, first start]
          · rw [if_neg start]
            exact (later start).1
        rw [if_pos ok, value, offset, further]
        have rest := ih (index + 1) (vol.layout.fatSector (index * vol.layout.fsType.width) + 1)
          (if vol.table (BitVec.ofNat 32 index) = 0 then nfree + 1 else nfree) moved.1 stillHeld (by rw [same.layout]; exact wide)
          (by rw [same.layout]; omega) within (by rw [same.layout]; exact fun zero => (ends zero).symm)
          (by rw [same.layout]; exact fun more => ⟨by rw [goes more], window.trans (goes more).symm⟩)
        rw [same.layout, table] at rest
        obtain ⟨after, res, ran, again, afterHeld, scanned⟩ := rest
        refine ⟨after, res, ran, same.trans again, afterHeld, ?_⟩
        have whole := scanned_later faults vol moved.1 _ res same scanned
        rw [step, Nat.add_assoc] at whole
        rw [zeroCount, count_from _ index _ inside]
        exact whole
      · rw [if_neg (ok_or _ err), err]
        exact ⟨_, _, rfl, same, stillHeld, .failed noisy⟩

-- FAT16 and FAT32 count reserved entries that are 0.
def reservedZeros (vol : Volume) : Nat :=
  if vol.layout.fsType = .fat12 then 0 else (if vol.table 0 = 0 then 1 else 0) + if vol.table 1 = 0 then 1 else 0

theorem scan_free (faults : Faults) (vol : Volume) (held : vol.Held) :
    vol.Same (scanFree faults vol).1 ∧ (scanFree faults vol).1.Held ∧
      Scanned faults vol (freeCount vol.layout vol.table + reservedZeros vol) (scanFree faults vol).2 := by
  have entries := vol.layout.some_
  have small := vol.layout.nFatent.isLt
  unfold scanFree reservedZeros
  by_cases twelve : vol.layout.fsType = .fat12
  · rw [if_pos twelve, if_pos twelve]
    obtain ⟨after, res, ran, same, stillHeld, scanned⟩ := scan_links faults (vol.layout.nFatent.toNat - 2) 2 0 vol held twelve
      (Nat.le_refl 2) (by omega) (by rw [show (0 : BitVec 32).toNat = 0 from rfl]; omega)
    have start : scanLinks faults (vol.layout.nFatent.toNat - 2) 2 0 vol = (after, res) := ran
    rw [show (0 : BitVec 32).toNat = 0 from rfl, Nat.zero_add] at scanned
    rw [start]
    exact ⟨same, stillHeld, scanned⟩
  · rw [if_neg twelve, if_neg twelve]
    obtain ⟨after, res, ran, same, stillHeld, scanned⟩ := scan_sectors faults vol.layout.nFatent.toNat 0 vol.layout.fatbase 0 vol held
      twelve (Nat.zero_add _) (by rw [show (0 : BitVec 32).toNat = 0 from rfl]; omega)
      (fun _ => by rw [Nat.zero_mul, Layout.fatSector]; exact (BitVec.add_zero _).symm)
      (fun more => absurd (by rw [Nat.zero_mul]; rfl) more)
    rw [Nat.zero_mul, Nat.zero_mod] at ran
    rw [show (0 : BitVec 32).toNat = 0 from rfl, Nat.zero_add, zeroCount, count_from _ 0 _ (by omega), count_from _ 1 _ (by omega)]
      at scanned
    rw [ran]
    refine ⟨same, stillHeld, ?_⟩
    rw [Nat.add_comm, freeCount, Nat.add_assoc]
    exact scanned

end Miso.FatFs
