import Miso.Base.Run
import Miso.FatFsTable

set_option autoImplicit false

namespace Miso.FatFs

-- The sectors of the second copy.
def Layout.inSecond (layout : Layout) (sect : Lba) : Prop := layout.nFats = 2 ∧ layout.inFirst (sect - layout.fsize)

instance (layout : Layout) (sect : Lba) : Decidable (layout.inSecond sect) :=
  inferInstanceAs (Decidable (layout.nFats = 2 ∧ layout.inFirst (sect - layout.fsize)))

def Layout.outside (layout : Layout) (sect : Lba) : Prop := ¬ layout.inFirst sect ∧ ¬ layout.inSecond sect

-- The sectors of the reserved area beside the boot sector are there.
def Layout.hasInfo (layout : Layout) : Prop := layout.volbase.toNat + 1 < layout.fatbase.toNat

def stDwordAt (win : Sector) (place : Nat) (val : BitVec 32) : Sector :=
  Function.update (Function.update (Function.update (Function.update win place (val.setWidth 8)) (place + 1)
    ((val >>> 8).setWidth 8)) (place + 2) ((val >>> 16).setWidth 8)) (place + 3) ((val >>> 24).setWidth 8)

def fsiLeadSig : Nat := 0

def fsiStrucSig : Nat := 484

def fsiFreeCount : Nat := 488

def fsiNxtFree : Nat := 492

def bs55AA : Nat := 510

def fsInfo (freeClst lastClst : BitVec 32) : Sector :=
  stDwordAt (stDwordAt (stDwordAt (stDwordAt
    (Function.update (Function.update (fun _ => 0) bs55AA 0x55) (bs55AA + 1) 0xAA)
    fsiLeadSig 0x41615252) fsiStrucSig 0x61417272) fsiFreeCount freeClst) fsiNxtFree lastClst

-- What the write of the FSInfo sector answers is not looked at.
def writeInfo (faults : Faults) (vol : Volume) : Volume :=
  if vol.layout.fsType = .fat32 ∧ vol.fsiFlag = 1 then
    { vol with
      win := fsInfo vol.freeClst vol.lastClst
      winsect := vol.layout.volbase + 1
      disk := (diskWrite faults vol.disk (fsInfo vol.freeClst vol.lastClst) (vol.layout.volbase + 1)).1
      fsiFlag := 0 }
  else vol

-- What CTRL_SYNC answers is the driver's.
def syncFs (faults : Faults) (control : Bool) (vol : Volume) : Volume × FResult :=
  onOk (syncWindow faults vol) (fun synced => (writeInfo faults synced, if control then .ok else .diskErr)) id

def clst2sect (layout : Layout) (clst : BitVec 32) : Lba :=
  if layout.nFatent - 2 ≤ clst - 2 then 0 else layout.database + BitVec.ofNat 32 layout.csize * (clst - 2)

-- Sectors are written until one fails.
def clearSectors (faults : Faults) (sect : Lba) : Nat → Nat → Disk → Disk × Bool
  | 0, _, disk => (disk, true)
  | left + 1, n, disk =>
      if (diskWrite faults disk (fun _ => 0) (sect + BitVec.ofNat 32 n)).2 then
        clearSectors faults sect left (n + 1) (diskWrite faults disk (fun _ => 0) (sect + BitVec.ofNat 32 n)).1
      else ((diskWrite faults disk (fun _ => 0) (sect + BitVec.ofNat 32 n)).1, false)

def dirClear (faults : Faults) (vol : Volume) (clst : BitVec 32) : Volume × FResult :=
  onOk (syncWindow faults vol)
    (fun synced =>
      let cleared := clearSectors faults (clst2sect synced.layout clst) synced.layout.csize 0 synced.disk
      ({ synced with winsect := clst2sect synced.layout clst, win := fun _ => 0, disk := cleared.1 },
        if cleared.2 then .ok else .diskErr))
    fun _ => .diskErr

-- What is asked of a mounted volume: the entries of the FAT, the sectors of
-- directories, changed in the window, and those of files, which pass it by.
inductive Request where
  | getFat (clst : BitVec 32)
  | putFat (clst val : BitVec 32)
  | edit (sect : Lba) (bytes : List (Nat × Byte))
  | clear (clst : BitVec 32)
  | load (sect : Lba)
  | store (sect : Lba) (buff : Sector)
  | sync (control : Bool)

inductive Answer where
  | entry (val : BitVec 32)
  | result (res : FResult)
deriving DecidableEq

def Volume.pokes (vol : Volume) (bytes : List (Nat × Byte)) : Volume :=
  bytes.foldl (fun edited byte => edited.poke byte.1 byte.2) vol

def edit (faults : Faults) (vol : Volume) (sect : Lba) (bytes : List (Nat × Byte)) : Volume × FResult :=
  onOk (moveWindow faults vol sect) (fun moved => (moved.pokes bytes, .ok)) id

def transferred (done : Bool) : Answer := .result (if done then .ok else .diskErr)

def serve (faults : Faults) (vol : Volume) : Request → Volume × Answer
  | .getFat clst => ((getFat faults vol clst).1, .entry (getFat faults vol clst).2)
  | .putFat clst val => ((putFat faults vol clst val).1, .result (putFat faults vol clst val).2)
  | .edit sect bytes => ((edit faults vol sect bytes).1, .result (edit faults vol sect bytes).2)
  | .clear clst => ((dirClear faults vol clst).1, .result (dirClear faults vol clst).2)
  | .load sect => ({ vol with disk := (diskRead faults vol.disk sect).1 }, transferred (diskRead faults vol.disk sect).2.2)
  | .store sect buff =>
      ({ vol with disk := (diskWrite faults vol.disk buff sect).1 }, transferred (diskWrite faults vol.disk buff sect).2)
  | .sync control => ((syncFs faults control vol).1, .result (syncFs faults control vol).2)

def serveAll (faults : Faults) (vol : Volume) : List Request → Volume × List (Request × Answer)
  | [] => (vol, [])
  | request :: rest =>
      ((serveAll faults (serve faults vol request).1 rest).1,
        (request, (serve faults vol request).2) :: (serveAll faults (serve faults vol request).1 rest).2)

-- Directories and files are not in the FATs.
def Request.Fits (layout : Layout) : Request → Prop
  | .edit sect _ => layout.outside sect
  | .store sect _ => layout.outside sect
  | .clear clst => 2 ≤ clst ∧ clst < layout.nFatent
  | .getFat _ => True
  | .putFat _ _ => True
  | .load _ => True
  | .sync _ => True

def Layout.valid (layout : Layout) (clst : BitVec 32) : Prop := 2 ≤ clst ∧ clst < layout.nFatent

instance (layout : Layout) (clst : BitVec 32) : Decidable (layout.valid clst) :=
  inferInstanceAs (Decidable (2 ≤ clst ∧ clst < layout.nFatent))

theorem in_second_index (layout : Layout) (sect : Lba) (second : layout.inSecond sect) :
    ∃ index, index < layout.fsize.toNat ∧ sect.toNat = layout.fatbase.toNat + layout.fsize.toNat + index ∧
      layout.nFats = 2 := by
  obtain ⟨two, first⟩ := second
  obtain ⟨index, bound, place⟩ := in_first_index layout _ first
  have whole := fats_region layout
  rw [two] at whole
  have back : sect - layout.fsize + layout.fsize = sect := BitVec.sub_add_cancel sect layout.fsize
  have sum := congrArg BitVec.toNat back
  rw [BitVec.toNat_add, place, Nat.mod_eq_of_lt (by omega)] at sum
  exact ⟨index, bound, by omega, two⟩

theorem first_not_second (layout : Layout) (sect : Lba) (first : layout.inFirst sect) : ¬ layout.inSecond sect := by
  intro second
  obtain ⟨index, bound, place⟩ := in_first_index layout sect first
  obtain ⟨other, _, otherPlace, _⟩ := in_second_index layout sect second
  omega

theorem outside_of (layout : Layout) (sect : Lba)
    (apart : sect.toNat < layout.fatbase.toNat ∨ layout.fatbase.toNat + layout.nFats * layout.fsize.toNat ≤ sect.toNat) :
    layout.outside sect := by
  have some_ : layout.fsize.toNat ≤ layout.nFats * layout.fsize.toNat := by
    rcases layout.copies with one | two
    · rw [one]
      omega
    · rw [two]
      omega
  constructor
  · intro first
    obtain ⟨index, bound, place⟩ := in_first_index layout sect first
    omega
  · intro second
    obtain ⟨index, bound, place, two⟩ := in_second_index layout sect second
    rw [two] at apart
    omega

theorem invalid_outside (layout : Layout) : layout.outside 0xFFFFFFFF := by
  have whole := fats_region layout
  refine outside_of layout _ (.inr ?_)
  rw [show (0xFFFFFFFF : Lba).toNat = 4294967295 from rfl]
  omega

theorem info_outside (layout : Layout) (info : layout.hasInfo) : layout.outside (layout.volbase + 1) := by
  have whole := fats_region layout
  unfold Layout.hasInfo at info
  refine outside_of layout _ (.inl ?_)
  rw [BitVec.toNat_add, show (1 : Lba).toNat = 1 from rfl, Nat.mod_eq_of_lt (by omega)]
  exact info

theorem cluster_sector (layout : Layout) (clst : BitVec 32) (n : Nat) (valid : layout.valid clst) (within : n < layout.csize) :
    (clst2sect layout clst + BitVec.ofNat 32 n).toNat = layout.database.toNat + layout.csize * (clst.toNat - 2) + n := by
  obtain ⟨low, high⟩ := valid
  have clusters := layout.clusters
  have lowNat : 2 ≤ clst.toNat := BitVec.le_def.mp low
  have highNat : clst.toNat < layout.nFatent.toNat := BitVec.lt_def.mp high
  have order : (clst - 2).toNat = clst.toNat - 2 := by
    rw [BitVec.toNat_sub_of_le low]
    rfl
  have entries : (layout.nFatent - 2).toNat = layout.nFatent.toNat - 2 := by
    rw [BitVec.toNat_sub_of_le (BitVec.le_def.mpr (Nat.le_trans lowNat (Nat.le_of_lt highNat)))]
    rfl
  have known : ¬ layout.nFatent - 2 ≤ clst - 2 := by
    rw [BitVec.le_def, order, entries]
    omega
  have room : layout.csize * (clst.toNat - 2) + layout.csize ≤ layout.csize * (layout.nFatent.toNat - 2) := by
    rw [← Nat.mul_succ]
    exact Nat.mul_le_mul_left _ (by omega)
  have size : layout.csize ≤ layout.csize * (layout.nFatent.toNat - 2) := by omega
  have sizeNat : (BitVec.ofNat 32 layout.csize).toNat = layout.csize := by
    rw [BitVec.toNat_ofNat]
    exact Nat.mod_eq_of_lt (by omega)
  have product : (BitVec.ofNat 32 layout.csize * (clst - 2)).toNat = layout.csize * (clst.toNat - 2) := by
    rw [BitVec.toNat_mul, order, sizeNat]
    exact Nat.mod_eq_of_lt (by omega)
  rw [clst2sect, if_neg known, BitVec.toNat_add, BitVec.toNat_add, product, BitVec.toNat_ofNat, Nat.mod_eq_of_lt (a := n) (by omega)]
  rw [Nat.mod_eq_of_lt (by omega), Nat.mod_eq_of_lt (by omega)]

theorem cluster_outside (layout : Layout) (clst : BitVec 32) (n : Nat) (valid : layout.valid clst) (within : n < layout.csize) :
    layout.outside (clst2sect layout clst + BitVec.ofNat 32 n) := by
  have before := layout.fats
  refine outside_of layout _ (.inr ?_)
  rw [cluster_sector layout clst n valid within]
  omega

-- Two clusters share no sector.
theorem clusters_apart (layout : Layout) (clst other : BitVec 32) (n m : Nat) (valid : layout.valid clst)
    (otherValid : layout.valid other) (within : n < layout.csize) (otherWithin : m < layout.csize)
    (same : clst2sect layout clst + BitVec.ofNat 32 n = clst2sect layout other + BitVec.ofNat 32 m) : clst = other ∧ n = m := by
  have places := congrArg BitVec.toNat same
  rw [cluster_sector layout clst n valid within, cluster_sector layout other m otherValid otherWithin] at places
  have lowNat : 2 ≤ clst.toNat := BitVec.le_def.mp valid.1
  have otherLow : 2 ≤ other.toNat := BitVec.le_def.mp otherValid.1
  rcases Nat.lt_trichotomy clst.toNat other.toNat with less | equal | more
  · have step : layout.csize * (clst.toNat - 2) + layout.csize ≤ layout.csize * (other.toNat - 2) := by
      rw [← Nat.mul_succ]
      exact Nat.mul_le_mul_left _ (by omega)
    omega
  · rw [equal] at places
    exact ⟨BitVec.eq_of_toNat_eq equal, by omega⟩
  · have step : layout.csize * (other.toNat - 2) + layout.csize ≤ layout.csize * (clst.toNat - 2) := by
      rw [← Nat.mul_succ]
      exact Nat.mul_le_mul_left _ (by omega)
    omega

-- The FAT as an array of entries. FAT12 entries whose last write failed are
-- torn: their two bytes may be of different writes.
structure Cells where
  value : BitVec 32 → BitVec 32
  torn : BitVec 32 → Bool

def Cells.note (layout : Layout) (cells : Cells) : Request × Answer → Cells
  | (.putFat clst val, .result .ok) =>
      ⟨Function.update cells.value clst (val &&& layout.fsType.mask), Function.update cells.torn clst false⟩
  | (.putFat clst _, .result .diskErr) =>
      if layout.fsType = .fat12 then ⟨cells.value, Function.update cells.torn clst true⟩ else cells
  | _ => cells

def Cells.Allows (layout : Layout) (cells : Cells) : Request × Answer → Prop
  | (.getFat clst, .entry val) =>
      if layout.valid clst then val = cells.value clst ∨ val = 0xFFFFFFFF ∨ cells.torn clst = true else val = 1
  | (.putFat clst _, .result res) => if layout.valid clst then res = .ok ∨ res = .diskErr else res = .intErr
  | (.getFat _, .result _) => False
  | (_, .result res) => res = .ok ∨ res = .diskErr
  | (_, .entry _) => False

def fatCells (layout : Layout) : Base.Monitor Cells (Request × Answer) := ⟨Cells.note layout, Cells.Allows layout⟩

structure Cells.Of (layout : Layout) (cells : Cells) (vol : Volume) : Prop where
  mounted : vol.layout = layout
  held : vol.Held
  entries : ∀ clst, layout.valid clst → cells.torn clst = false → vol.table clst = cells.value clst

-- The first FAT as it is on the medium.
def Disk.fat (layout : Layout) (disk : Disk) (offset : Nat) : Byte :=
  if offset < ss * layout.fsize.toNat then disk.sectors (layout.fatSector offset) (offset % ss) else 0

theorem clean_fat (vol : Volume) (held : vol.Held) (clean : vol.wflag = false) : vol.disk.fat vol.layout = vol.fat := by
  funext offset
  unfold Disk.fat Volume.fat
  by_cases inside : offset < ss * vol.layout.fsize.toNat
  · rw [if_pos inside, if_pos inside, Volume.sector]
    by_cases here : vol.layout.fatSector offset = vol.winsect
    · have first := (fat_sector_index vol.layout offset inside).2
      rw [if_pos here, here, held clean (here ▸ first)]
    · rw [if_neg here]
  · rw [if_neg inside, if_neg inside]

-- A step that leaves the FAT as it is.
structure Leaves (vol after : Volume) : Prop where
  layout : after.layout = vol.layout
  freeClst : after.freeClst = vol.freeClst
  fat : after.fat = vol.fat
  held : after.Held

theorem same_leaves (vol after : Volume) (same : vol.Same after) (held : after.Held) : Leaves vol after :=
  ⟨same.layout, same.kept.freeClst, same.fat, held⟩

theorem Leaves.trans {vol middle after : Volume} (first : Leaves vol middle) (second : Leaves middle after) : Leaves vol after :=
  ⟨second.layout.trans first.layout, second.freeClst.trans first.freeClst, second.fat.trans first.fat, second.held⟩

-- A window that is put elsewhere, with the sectors of the FAT as they were.
theorem fat_kept (vol after : Volume) (layout : after.layout = vol.layout) (count : after.freeClst = vol.freeClst)
    (clean : vol.wflag = false) (held : vol.Held) (away : ¬ vol.layout.inFirst after.winsect)
    (sectors : ∀ sect, vol.layout.inFirst sect → after.disk.sectors sect = vol.disk.sectors sect) : Leaves vol after := by
  refine ⟨layout, count, fat_same vol after layout fun sect first => ?_, fun _ first => absurd (layout ▸ first) away⟩
  have moved : sect ≠ after.winsect := fun here => away (here ▸ first)
  rw [Volume.sector, if_neg moved, sectors sect first, Volume.sector]
  by_cases here : sect = vol.winsect
  · rw [if_pos here, here]
    exact held clean (here ▸ first)
  · rw [if_neg here]

theorem poke_outside (vol : Volume) (place : Nat) (value : Byte) (away : ¬ vol.layout.inFirst vol.winsect) :
    Leaves vol (vol.poke place value) := by
  refine ⟨rfl, rfl, fat_same vol _ rfl fun sect first => ?_, fun clean => by cases clean⟩
  have other : sect ≠ vol.winsect := fun here => away (here ▸ first)
  rw [Volume.sector, Volume.sector, if_neg other]
  exact if_neg other

theorem pokes_outside (bytes : List (Nat × Byte)) (vol : Volume) (held : vol.Held) (away : ¬ vol.layout.inFirst vol.winsect) :
    Leaves vol (vol.pokes bytes) := by
  induction bytes generalizing vol with
  | nil => exact ⟨rfl, rfl, rfl, held⟩
  | cons byte rest ih =>
      have first := poke_outside vol byte.1 byte.2 away
      exact first.trans (ih (vol.poke byte.1 byte.2) first.held away)

theorem edit_leaves (faults : Faults) (vol : Volume) (sect : Lba) (bytes : List (Nat × Byte)) (held : vol.Held)
    (away : ¬ vol.layout.inFirst sect) :
    Leaves vol (edit faults vol sect bytes).1 ∧ ((edit faults vol sect bytes).2 = .ok ∨ (edit faults vol sect bytes).2 = .diskErr) := by
  refine on_ok_moved faults vol held sect _ _
    (fun answer : Volume × FResult => Leaves vol answer.1 ∧ (answer.2 = .ok ∨ answer.2 = .diskErr)) (fun after same stillHeld here => ?_)
    fun after same stillHeld => ⟨same_leaves vol after same stillHeld, .inr rfl⟩
  have outside : ¬ after.layout.inFirst after.winsect := by
    rw [same.layout, here]
    exact away
  exact ⟨(same_leaves vol after same stillHeld).trans (pokes_outside bytes after stillHeld outside), .inl rfl⟩

theorem write_elsewhere (faults : Faults) (disk : Disk) (buff : Sector) (sect other : Lba) (different : other ≠ sect) :
    (diskWrite faults disk buff sect).1.sectors other = disk.sectors other := by
  unfold diskWrite
  cases faults disk.ops sect with
  | none => exact Function.update_of_ne different _ _
  | some left => exact Function.update_of_ne different _ _

theorem store_leaves (faults : Faults) (vol : Volume) (sect : Lba) (buff : Sector) (held : vol.Held)
    (away : ¬ vol.layout.inFirst sect) : Leaves vol { vol with disk := (diskWrite faults vol.disk buff sect).1 } := by
  have kept (other : Lba) (first : vol.layout.inFirst other) :
      (diskWrite faults vol.disk buff sect).1.sectors other = vol.disk.sectors other :=
    write_elsewhere faults vol.disk buff sect other fun here => away (here ▸ first)
  refine ⟨rfl, rfl, fat_same vol _ rfl fun other first => ?_, fun clean first => (kept _ first).trans (held clean first)⟩
  unfold Volume.sector
  by_cases here : other = vol.winsect
  · rw [if_pos here, if_pos here]
  · rw [if_neg here, if_neg here]
    exact kept other first

theorem read_sectors (faults : Faults) (disk : Disk) (sect : Lba) : (diskRead faults disk sect).1.sectors = disk.sectors := by
  unfold diskRead
  cases faults disk.ops sect with
  | none => rfl
  | some left => rfl

theorem read_buffer (faults : Faults) (disk : Disk) (sect : Lba) (fine : (diskRead faults disk sect).2.2 = true) :
    (diskRead faults disk sect).2.1 = disk.sectors sect := by
  unfold diskRead at fine ⊢
  cases fault : faults disk.ops sect with
  | none => rfl
  | some left =>
      rw [fault] at fine
      cases fine

theorem load_leaves (faults : Faults) (vol : Volume) (sect : Lba) (held : vol.Held) :
    Leaves vol { vol with disk := (diskRead faults vol.disk sect).1 } := by
  have kept := read_sectors faults vol.disk sect
  refine ⟨rfl, rfl, fat_same vol _ rfl fun other _ => ?_, fun clean first => (congrFun kept _).trans (held clean first)⟩
  unfold Volume.sector
  by_cases here : other = vol.winsect
  · rw [if_pos here, if_pos here]
  · rw [if_neg here, if_neg here, kept]

theorem clear_sectors_kept (faults : Faults) (sect other : Lba) (left n : Nat) (disk : Disk)
    (apart : ∀ more, n ≤ more → more < n + left → other ≠ sect + BitVec.ofNat 32 more) :
    (clearSectors faults sect left n disk).1.sectors other = disk.sectors other := by
  induction left generalizing n disk with
  | zero => rfl
  | succ left ih =>
      have here := write_elsewhere faults disk (fun _ => 0) (sect + BitVec.ofNat 32 n) other
        (apart n (Nat.le_refl n) (by omega))
      unfold clearSectors
      by_cases done : (diskWrite faults disk (fun _ => 0) (sect + BitVec.ofNat 32 n)).2
      · rw [if_pos done, ih (n + 1) _ fun more above below => apart more (by omega) (by omega), here]
      · rw [if_neg done, here]

theorem on_ok_synced (faults : Faults) (vol : Volume) (held : vol.Held) {α : Type} (next : Volume → Volume × α)
    (failed : FResult → α) (holds : Volume × α → Prop)
    (synced : ∀ after, vol.Same after → after.Held → after.wflag = false → holds (next after))
    (lost : ∀ after, vol.Same after → after.Held → holds (after, failed .diskErr)) :
    holds (onOk (syncWindow faults vol) next failed) := by
  obtain ⟨same, _, _, stillHeld, outcome⟩ := sync_window faults vol held
  unfold onOk
  rcases outcome with ⟨ok, clean⟩ | ⟨err, _⟩
  · rw [if_pos ok]
    exact synced _ same stillHeld clean
  · rw [if_neg (by rw [err]; exact FResult.noConfusion), err]
    exact lost _ same stillHeld

theorem dir_clear_leaves (faults : Faults) (vol : Volume) (clst : BitVec 32) (held : vol.Held) (valid : vol.layout.valid clst) :
    Leaves vol (dirClear faults vol clst).1 ∧ ((dirClear faults vol clst).2 = .ok ∨ (dirClear faults vol clst).2 = .diskErr) := by
  refine on_ok_synced faults vol held _ _
    (fun answer : Volume × FResult => Leaves vol answer.1 ∧ (answer.2 = .ok ∨ answer.2 = .diskErr)) (fun after same stillHeld clean => ?_)
    fun after same stillHeld => ⟨same_leaves vol after same stillHeld, .inr rfl⟩
  have away (n : Nat) (within : n < after.layout.csize) : ¬ after.layout.inFirst (clst2sect after.layout clst + BitVec.ofNat 32 n) :=
    (cluster_outside after.layout clst n (by rw [same.layout]; exact valid) within).1
  refine ⟨(same_leaves vol after same stillHeld).trans (fat_kept after _ rfl rfl clean stillHeld ?_ fun other first => ?_), ?_⟩
  · have start := away 0 after.layout.sized
    rw [BitVec.add_zero] at start
    exact start
  · exact clear_sectors_kept faults _ other after.layout.csize 0 after.disk fun more _ below here =>
      away more (by omega) (here ▸ first)
  · by_cases done : (clearSectors faults (clst2sect after.layout clst) after.layout.csize 0 after.disk).2
    · exact .inl (if_pos done)
    · exact .inr (if_neg done)

theorem write_info_leaves (faults : Faults) (vol : Volume) (held : vol.Held) (clean : vol.wflag = false)
    (info : vol.layout.fsType = .fat32 → vol.layout.hasInfo) :
    Leaves vol (writeInfo faults vol) ∧ (writeInfo faults vol).wflag = false := by
  unfold writeInfo
  by_cases due : vol.layout.fsType = .fat32 ∧ vol.fsiFlag = 1
  · rw [if_pos due]
    have away := (info_outside vol.layout (info due.1)).1
    exact ⟨fat_kept vol _ rfl rfl clean held away fun sect first =>
      write_elsewhere faults vol.disk _ _ sect fun here => away (here ▸ first), clean⟩
  · rw [if_neg due]
    exact ⟨⟨rfl, rfl, rfl, held⟩, clean⟩

theorem sync_fs (faults : Faults) (control : Bool) (vol : Volume) (held : vol.Held)
    (info : vol.layout.fsType = .fat32 → vol.layout.hasInfo) :
    Leaves vol (syncFs faults control vol).1 ∧
      ((syncFs faults control vol).2 = .ok ∧ (syncFs faults control vol).1.wflag = false ∨ (syncFs faults control vol).2 = .diskErr) := by
  refine on_ok_synced faults vol held _ _
    (fun answer : Volume × FResult => Leaves vol answer.1 ∧ (answer.2 = .ok ∧ answer.1.wflag = false ∨ answer.2 = .diskErr))
    (fun after same stillHeld clean => ?_)
    fun after same stillHeld => ⟨same_leaves vol after same stillHeld, .inr rfl⟩
  obtain ⟨leaves, stillClean⟩ := write_info_leaves faults after stillHeld clean (by rw [same.layout]; exact info)
  refine ⟨(same_leaves vol after same stillHeld).trans leaves, ?_⟩
  cases control with
  | true => exact .inl ⟨rfl, stillClean⟩
  | false => exact .inr rfl

theorem leaves_cells (layout : Layout) (cells : Cells) (vol after : Volume) (of : cells.Of layout vol) (leaves : Leaves vol after) :
    cells.Of layout after := by
  refine ⟨leaves.layout.trans of.mounted, leaves.held, fun clst valid sound => ?_⟩
  rw [← of.entries clst valid sound]
  unfold Volume.table
  rw [leaves.layout, leaves.fat]

theorem allows_get (layout : Layout) (cells : Cells) (clst val : BitVec 32) : cells.Allows layout (.getFat clst, .entry val) ↔
    if layout.valid clst then val = cells.value clst ∨ val = 0xFFFFFFFF ∨ cells.torn clst = true else val = 1 := Iff.rfl

theorem allows_put (layout : Layout) (cells : Cells) (clst val : BitVec 32) (res : FResult) :
    cells.Allows layout (.putFat clst val, .result res) ↔
      if layout.valid clst then res = .ok ∨ res = .diskErr else res = .intErr := Iff.rfl

theorem get_serves (faults : Faults) (layout : Layout) (vol : Volume) (cells : Cells) (of : cells.Of layout vol) (clst : BitVec 32) :
    cells.Allows layout (.getFat clst, .entry (getFat faults vol clst).2) ∧ cells.Of layout (getFat faults vol clst).1 := by
  have mounted := of.mounted
  rw [allows_get]
  by_cases valid : layout.valid clst
  · rw [if_pos valid]
    obtain ⟨same, held, value⟩ := get_fat faults vol clst of.held valid.1 (by rw [mounted]; exact valid.2)
    refine ⟨?_, leaves_cells layout cells vol _ of (same_leaves vol _ same held)⟩
    rcases value with known | err
    · cases torn : cells.torn clst with
      | true => exact .inr (.inr rfl)
      | false => exact .inl (known.trans (of.entries clst valid torn))
    · exact .inr (.inl err)
  · have refused : clst < 2 ∨ vol.layout.nFatent ≤ clst := by
      rw [Layout.valid, BitVec.le_def, BitVec.lt_def] at valid
      rw [mounted, BitVec.lt_def, BitVec.le_def]
      omega
    have ends : getFat faults vol clst = (vol, 1) := by rw [getFat, if_pos refused]
    rw [if_neg valid, ends]
    exact ⟨rfl, of⟩

theorem put_accepted (layout : Layout) (vol after : Volume) (cells : Cells) (of : cells.Of layout vol) (clst val : BitVec 32)
    (mounted : after.layout = layout) (held : after.Held)
    (table : after.table = Function.update vol.table clst (val &&& layout.fsType.mask)) :
    (cells.note layout (.putFat clst val, .result .ok)).Of layout after := by
  have noted : cells.note layout (.putFat clst val, .result .ok) =
      ⟨Function.update cells.value clst (val &&& layout.fsType.mask), Function.update cells.torn clst false⟩ := rfl
  rw [noted]
  refine ⟨mounted, held, fun other valid sound => ?_⟩
  rw [table]
  dsimp only at sound ⊢
  by_cases same : other = clst
  · rw [same, Function.update_self, Function.update_self]
  · rw [Function.update_of_ne same, Function.update_of_ne same]
    exact of.entries other valid ((Function.update_of_ne same false cells.torn).symm.trans sound)

theorem put_failed (layout : Layout) (vol after : Volume) (cells : Cells) (of : cells.Of layout vol) (clst val : BitVec 32)
    (mounted : after.layout = layout) (held : after.Held) (others : ∀ other, other ≠ clst → after.table other = vol.table other)
    (whole : layout.fsType ≠ .fat12 → after.table = vol.table) :
    (cells.note layout (.putFat clst val, .result .diskErr)).Of layout after := by
  by_cases twelve : layout.fsType = .fat12
  · have noted : cells.note layout (.putFat clst val, .result .diskErr) =
        ⟨cells.value, Function.update cells.torn clst true⟩ := if_pos twelve
    rw [noted]
    refine ⟨mounted, held, fun other valid sound => ?_⟩
    by_cases same : other = clst
    · rw [same] at sound
      have torn := (Function.update_self clst true cells.torn).symm.trans sound
      cases torn
    · rw [others other same]
      exact of.entries other valid ((Function.update_of_ne same true cells.torn).symm.trans sound)
  · have noted : cells.note layout (.putFat clst val, .result .diskErr) = cells := if_neg twelve
    rw [noted]
    refine ⟨mounted, held, fun other valid sound => ?_⟩
    rw [whole twelve]
    exact of.entries other valid sound

theorem put_serves (faults : Faults) (layout : Layout) (vol : Volume) (cells : Cells) (of : cells.Of layout vol) (clst val : BitVec 32) :
    cells.Allows layout (.putFat clst val, .result (putFat faults vol clst val).2) ∧
      (cells.note layout (.putFat clst val, .result (putFat faults vol clst val).2)).Of layout (putFat faults vol clst val).1 := by
  have mounted := of.mounted
  rw [allows_put]
  by_cases valid : layout.valid clst
  · rw [if_pos valid]
    obtain ⟨kept, held, outcome⟩ := put_fat faults vol clst val of.held valid.1 (by rw [mounted]; exact valid.2)
    have still := kept.layout.trans mounted
    rw [mounted] at outcome
    rcases outcome with ⟨ok, table⟩ | ⟨err, others, whole⟩
    · rw [ok]
      exact ⟨.inl rfl, put_accepted layout vol _ cells of clst val still held table⟩
    · rw [err]
      exact ⟨.inr rfl, put_failed layout vol _ cells of clst val still held others whole⟩
  · have refused : ¬ (2 ≤ clst ∧ clst < vol.layout.nFatent) := by
      rw [mounted]
      exact valid
    have ends : putFat faults vol clst val = (vol, .intErr) := by rw [putFat, if_neg refused]
    rw [if_neg valid, ends]
    exact ⟨rfl, of⟩

theorem transferred_result (done : Bool) (other : Request) (layout : Layout) (cells : Cells)
    (passes : ∀ res, cells.Allows layout (other, .result res) ↔ res = .ok ∨ res = .diskErr) :
    cells.Allows layout (other, transferred done) := by
  cases done with
  | true => exact (passes .ok).mpr (.inl rfl)
  | false => exact (passes .diskErr).mpr (.inr rfl)

-- What one request does to the array.
theorem serve_cells (faults : Faults) (layout : Layout) (vol : Volume) (cells : Cells) (request : Request) (of : cells.Of layout vol)
    (info : layout.fsType = .fat32 → layout.hasInfo) (fits : request.Fits layout) :
    cells.Allows layout (request, (serve faults vol request).2) ∧
      (cells.note layout (request, (serve faults vol request).2)).Of layout (serve faults vol request).1 := by
  have mounted := of.mounted
  cases request with
  | getFat clst => exact get_serves faults layout vol cells of clst
  | putFat clst val => exact put_serves faults layout vol cells of clst val
  | edit sect bytes =>
      obtain ⟨leaves, answer⟩ := edit_leaves faults vol sect bytes of.held (by rw [mounted]; exact fits.1)
      exact ⟨answer, leaves_cells layout cells vol _ of leaves⟩
  | clear clst =>
      obtain ⟨leaves, answer⟩ := dir_clear_leaves faults vol clst of.held (by rw [mounted]; exact fits)
      exact ⟨answer, leaves_cells layout cells vol _ of leaves⟩
  | load sect =>
      exact ⟨transferred_result _ _ layout cells fun _ => Iff.rfl,
        leaves_cells layout cells vol _ of (load_leaves faults vol sect of.held)⟩
  | store sect buff =>
      exact ⟨transferred_result _ _ layout cells fun _ => Iff.rfl,
        leaves_cells layout cells vol _ of (store_leaves faults vol sect buff of.held (by rw [mounted]; exact fits.1))⟩
  | sync control =>
      obtain ⟨leaves, answer⟩ := sync_fs faults control vol of.held (by rw [mounted]; exact info)
      refine ⟨?_, leaves_cells layout cells vol _ of leaves⟩
      rcases answer with ⟨ok, _⟩ | err
      · exact .inl ok
      · exact .inr err

theorem serve_all_cells (faults : Faults) (layout : Layout) (requests : List Request)
    (info : layout.fsType = .fat32 → layout.hasInfo) (fits : ∀ request, request ∈ requests → request.Fits layout) (vol : Volume)
    (cells : Cells) (of : cells.Of layout vol) :
    (fatCells layout).Accepts cells (serveAll faults vol requests).2 ∧
      ((fatCells layout).after cells (serveAll faults vol requests).2).Of layout (serveAll faults vol requests).1 := by
  induction requests generalizing vol cells with
  | nil => exact ⟨trivial, of⟩
  | cons request rest ih =>
      obtain ⟨allowed, served⟩ := serve_cells faults layout vol cells request of info (fits request List.mem_cons_self)
      obtain ⟨accepts, after⟩ := ih (fun other mem => fits other (List.mem_cons_of_mem _ mem)) _ _ served
      exact ⟨⟨allowed, accepts⟩, after⟩

-- Every run of requests sees the FAT as an array of entries, and a successful
-- sync leaves that array on the medium.
theorem fat_is_an_array (faults : Faults) (layout : Layout) (vol : Volume) (cells : Cells) (requests : List Request)
    (of : cells.Of layout vol) (info : layout.fsType = .fat32 → layout.hasInfo)
    (fits : ∀ request, request ∈ requests → request.Fits layout) :
    (fatCells layout).Accepts cells (serveAll faults vol requests).2 ∧
      ((syncFs faults true (serveAll faults vol requests).1).2 = .ok → ∀ clst, layout.valid clst →
        ((fatCells layout).after cells (serveAll faults vol requests).2).torn clst = false →
        entry layout.fsType ((syncFs faults true (serveAll faults vol requests).1).1.disk.fat layout) clst =
          ((fatCells layout).after cells (serveAll faults vol requests).2).value clst) := by
  obtain ⟨accepts, served⟩ := serve_all_cells faults layout requests info fits vol cells of
  refine ⟨accepts, fun ok clst valid sound => ?_⟩
  obtain ⟨leaves, answer⟩ := sync_fs faults true _ served.held (by rw [served.mounted]; exact info)
  have synced := leaves_cells layout _ _ _ served leaves
  rcases answer with ⟨_, clean⟩ | err
  · have medium := clean_fat _ leaves.held clean
    rw [synced.mounted] at medium
    rw [medium, ← synced.entries clst valid sound, Volume.table, synced.mounted]
  · rw [ok] at err
    exact FResult.noConfusion err

-- A FAT12 volume of three clusters of 32 sectors, all of them free.
def smallLayout : Layout where
  fsType := .fat12
  nFats := 2
  nFatent := 5
  csize := 32
  volbase := 0
  fatbase := 1
  fsize := 1
  dirSects := 1
  database := 4
  some_ := by decide
  sized := by decide
  limited := by decide
  fits := by decide
  reserved := by decide
  fats := by decide
  clusters := by decide
  copies := .inr rfl

def bootBytes : List (Nat × Byte) :=
  [(0, 0xEB), (12, 0x02), (13, 32), (14, 1), (16, 2), (17, 16), (19, 128), (22, 1), (510, 0x55), (511, 0xAA)]

def smallSectors (sect : Lba) : Sector :=
  if sect = 0 then fun offset => (bootBytes.lookup offset).getD 0
  else if sect = 1 ∨ sect = 2 then fun offset => if offset < 3 then 0xFF else 0
  else fun _ => 0

def smallVolume : Volume := ⟨smallLayout, 0, false, smallSectors 0, ⟨smallSectors, 1⟩, 0xFFFFFFFF, 0xFFFFFFFF, 0x80⟩

def noFaults : Faults := fun _ _ => none

theorem small_held : smallVolume.Held := fun _ first => absurd first (by decide)

theorem fat_is_an_array_small :
    entry .fat12 ((syncFs noFaults true (serveAll noFaults smallVolume [.putFat 2 0xFFFFFFFF]).1).1.disk.fat smallLayout) 2 =
      0xFFF :=
  (fat_is_an_array noFaults smallLayout smallVolume ⟨smallVolume.table, fun _ => false⟩ [.putFat 2 0xFFFFFFFF]
    ⟨rfl, small_held, fun _ _ _ => rfl⟩ (fun other => FsType.noConfusion other)
    (fun request member => by rw [List.mem_singleton.mp member]; trivial)).2 (by decide +kernel) 2 (by decide)
      (by decide +kernel)

end Miso.FatFs
