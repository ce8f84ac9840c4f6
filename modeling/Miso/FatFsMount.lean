import Miso.FatFsFileRuns

set_option autoImplicit false

namespace Miso.FatFs

def ldWordAt (win : Sector) (place : Nat) : BitVec 16 := ldWord (win place) (win (place + 1))

def bsJmpBoot : Nat := 0

def bpbBytsPerSec : Nat := 11

def bpbSecPerClus : Nat := 13

def bpbRsvdSecCnt : Nat := 14

def bpbNumFATs : Nat := 16

def bpbRootEntCnt : Nat := 17

def bpbTotSec16 : Nat := 19

def bpbFATSz16 : Nat := 22

def bpbTotSec32 : Nat := 32

def bpbFATSz32 : Nat := 36

def bpbFSVer32 : Nat := 42

def bpbRootClus32 : Nat := 44

def bpbFSInfo32 : Nat := 48

def bsFilSysType32 : Nat := 82

def mbrTable : Nat := 446

def szPte : Nat := 16

def pteStLba : Nat := 8

def entriesPerSector : BitVec 16 := 16

def isFat32Name (win : Sector) : Bool :=
  ([0x46, 0x41, 0x54, 0x33, 0x32, 0x20, 0x20, 0x20] : List Byte).zipIdx.all fun letter => win (bsFilSysType32 + letter.2) = letter.1

-- 0: a FAT boot sector, 2 and 3: another one with and without signature.
def checkSector (win : Sector) : Nat :=
  let sign := ldWordAt win bs55AA
  let jump := win bsJmpBoot
  if (jump = 0xEB ∨ jump = 0xE9 ∨ jump = 0xE8) ∧
      (sign = 0xAA55 ∧ isFat32Name win ∨
        ldWordAt win bpbBytsPerSec &&& (ldWordAt win bpbBytsPerSec - 1) = 0 ∧ ldWordAt win bpbBytsPerSec = 512 ∧
          win bpbSecPerClus ≠ 0 ∧ win bpbSecPerClus &&& (win bpbSecPerClus - 1) = 0 ∧ ldWordAt win bpbRsvdSecCnt ≠ 0 ∧
          (win bpbNumFATs = 1 ∨ win bpbNumFATs = 2) ∧ ldWordAt win bpbRootEntCnt ≠ 0 ∧
          (128 ≤ ldWordAt win bpbTotSec16 ∨ 0x10000 ≤ ldDwordAt win bpbTotSec32) ∧ ldWordAt win bpbFATSz16 ≠ 0) then 0
  else if sign = 0xAA55 then 2 else 3

structure Probe where
  disk : Disk
  win : Sector
  winsect : Lba
  fmt : Nat

-- check_fs: the window is clean and on no sector, which is sector 0xFFFFFFFF.
def checkFs (faults : Faults) (disk : Disk) (win : Sector) (sect : Lba) : Probe :=
  if sect = 0xFFFFFFFF then ⟨disk, win, 0xFFFFFFFF, checkSector win⟩
  else
    match diskRead faults disk sect with
    | (disk, win, true) => ⟨disk, win, sect, checkSector win⟩
    | (disk, win, false) => ⟨disk, win, 0xFFFFFFFF, 4⟩

-- The partitions are looked at until one is FAT.
def findPartition (faults : Faults) : List Lba → Probe → Probe
  | [], probe => probe
  | start :: rest, probe =>
      let next := if start = 0 then { probe with fmt := 3 } else checkFs faults probe.disk probe.win start
      if 2 ≤ next.fmt then findPartition faults rest next else next

def findVolume (faults : Faults) (disk : Disk) (win : Sector) : Probe :=
  let first := checkFs faults disk win 0
  if first.fmt = 2 then
    findPartition faults ([0, 1, 2, 3].map fun part => ldDwordAt first.win (mbrTable + part * szPte + pteStLba)) first
  else first

def fatSize (win : Sector) : BitVec 32 :=
  if ldWordAt win bpbFATSz16 = 0 then ldDwordAt win bpbFATSz32 else (ldWordAt win bpbFATSz16).setWidth 32

def totalSectors (win : Sector) : BitVec 32 :=
  if ldWordAt win bpbTotSec16 = 0 then ldDwordAt win bpbTotSec32 else (ldWordAt win bpbTotSec16).setWidth 32

def fatArea (win : Sector) : BitVec 32 := fatSize win * (win bpbNumFATs).setWidth 32

def rootSectors (win : Sector) : BitVec 16 := ldWordAt win bpbRootEntCnt / entriesPerSector

-- Reserved sectors, FATs and root directory.
def systemSectors (win : Sector) : BitVec 32 :=
  (ldWordAt win bpbRsvdSecCnt).setWidth 32 + fatArea win + (rootSectors win).setWidth 32

def clusterCount (win : Sector) : BitVec 32 := (totalSectors win - systemSectors win) / (win bpbSecPerClus).setWidth 32

def fsTypeOf (nclst : BitVec 32) : Option FsType :=
  if nclst ≤ 0xFF5 then some .fat12
  else if nclst ≤ 0xFFF5 then some .fat16
  else if nclst ≤ 0x0FFFFFF5 then some .fat32
  else none

def neededBytes (fsType : FsType) (nFatent : BitVec 32) : BitVec 32 :=
  match fsType with
  | .fat12 => nFatent * 3 / 2 + (nFatent &&& 1)
  | .fat16 => nFatent * 2
  | .fat32 => nFatent * 4

structure Bpb where
  fsType : FsType
  nFats : Byte
  nFatent : BitVec 32
  csize : Byte
  nRootdir : BitVec 16
  volbase : Lba
  fatbase : Lba
  fsize : BitVec 32
  database : Lba
  dirbase : BitVec 32
deriving DecidableEq

-- The order of the checks does not show: each answers FR_NO_FILESYSTEM.
def parseBpb (win : Sector) (bsect : Lba) : Option Bpb :=
  if ldWordAt win bpbBytsPerSec = 512 ∧ (win bpbNumFATs = 1 ∨ win bpbNumFATs = 2) ∧
      (win bpbSecPerClus ≠ 0 ∧ win bpbSecPerClus &&& (win bpbSecPerClus - 1) = 0) ∧
      ldWordAt win bpbRootEntCnt % entriesPerSector = 0 ∧ ldWordAt win bpbRsvdSecCnt ≠ 0 ∧
      systemSectors win ≤ totalSectors win ∧ clusterCount win ≠ 0 then
    (fsTypeOf (clusterCount win)).bind fun fsType =>
      if (fsType = .fat32 ∧ ldWordAt win bpbFSVer32 = 0 ∧ ldWordAt win bpbRootEntCnt = 0 ∨
            fsType ≠ .fat32 ∧ ldWordAt win bpbRootEntCnt ≠ 0) ∧
          ¬ fatSize win < (neededBytes fsType (clusterCount win + 2) + 511) / 512 then
        some {
          fsType := fsType
          nFats := win bpbNumFATs
          nFatent := clusterCount win + 2
          csize := win bpbSecPerClus
          nRootdir := ldWordAt win bpbRootEntCnt
          volbase := bsect
          fatbase := bsect + (ldWordAt win bpbRsvdSecCnt).setWidth 32
          fsize := fatSize win
          database := bsect + systemSectors win
          dirbase := if fsType = .fat32 then ldDwordAt win bpbRootClus32
            else bsect + (ldWordAt win bpbRsvdSecCnt).setWidth 32 + fatArea win }
      else none
  else none

def readInfo (win : Sector) : BitVec 32 × BitVec 32 :=
  if ldWordAt win bs55AA = 0xAA55 ∧ ldDwordAt win fsiLeadSig = 0x41615252 ∧ ldDwordAt win fsiStrucSig = 0x61417272 then
    (ldDwordAt win fsiFreeCount, ldDwordAt win fsiNxtFree)
  else (0xFFFFFFFF, 0xFFFFFFFF)

structure Mounted where
  bpb : Bpb
  disk : Disk
  win : Sector
  winsect : Lba
  freeClst : BitVec 32
  lastClst : BitVec 32
  fsiFlag : BitVec 8

def loadInfo (faults : Faults) (bpb : Bpb) (disk : Disk) (win : Sector) (bsect : Lba) : Mounted :=
  if bpb.fsType = .fat32 ∧ ldWordAt win bpbFSInfo32 = 1 then
    match diskRead faults disk (bsect + 1) with
    | (disk, info, true) => ⟨bpb, disk, info, bsect + 1, (readInfo info).1, (readInfo info).2, 0⟩
    | (disk, info, false) => ⟨bpb, disk, info, 0xFFFFFFFF, 0xFFFFFFFF, 0xFFFFFFFF, 0x80⟩
  else ⟨bpb, disk, win, bsect, 0xFFFFFFFF, 0xFFFFFFFF, 0x80⟩

def mountVolume (faults : Faults) (disk : Disk) (win : Sector) : Except FResult Mounted :=
  let found := findVolume faults disk win
  if found.fmt = 4 then .error .diskErr
  else if 2 ≤ found.fmt then .error .noFilesystem
  else
    match parseBpb found.win found.winsect with
    | none => .error .noFilesystem
    | some bpb => .ok (loadInfo faults bpb found.disk found.win found.winsect)

structure Bpb.Of (bpb : Bpb) (layout : Layout) : Prop where
  fsType : layout.fsType = bpb.fsType
  nFats : layout.nFats = bpb.nFats.toNat
  nFatent : layout.nFatent = bpb.nFatent
  csize : layout.csize = bpb.csize.toNat
  volbase : layout.volbase = bpb.volbase
  fatbase : layout.fatbase = bpb.fatbase
  fsize : layout.fsize = bpb.fsize
  dirSects : layout.dirSects = bpb.nRootdir.toNat / 16
  database : layout.database = bpb.database

-- What the checks of mount_volume come to, in numbers.
structure Checked (win : Sector) (fsType : FsType) : Prop where
  copies : (win bpbNumFATs).toNat = 1 ∨ (win bpbNumFATs).toNat = 2
  sized : 0 < (win bpbSecPerClus).toNat
  reserved : 0 < (ldWordAt win bpbRsvdSecCnt).toNat
  some_ : 0 < (clusterCount win).toNat
  limited : (clusterCount win).toNat + 2 ≤ fsType.limit
  fits : fsType.needed ((clusterCount win).toNat + 2) ≤ 512 * (fatSize win).toNat

theorem type_limited (nclst : BitVec 32) (fsType : FsType) (known : fsTypeOf nclst = some fsType) :
    nclst.toNat + 2 ≤ fsType.limit := by
  unfold fsTypeOf at known
  by_cases twelve : nclst ≤ 0xFF5
  · rw [if_pos twelve] at known
    rw [← Option.some.inj known]
    exact Nat.add_le_add_right (BitVec.le_def.mp twelve) 2
  · rw [if_neg twelve] at known
    by_cases sixteen : nclst ≤ 0xFFF5
    · rw [if_pos sixteen] at known
      rw [← Option.some.inj known]
      exact Nat.add_le_add_right (BitVec.le_def.mp sixteen) 2
    · rw [if_neg sixteen] at known
      by_cases more : nclst ≤ 0x0FFFFFF5
      · rw [if_pos more] at known
        rw [← Option.some.inj known]
        exact Nat.add_le_add_right (BitVec.le_def.mp more) 2
      · rw [if_neg more] at known
        cases known

theorem needed_bytes (fsType : FsType) (nFatent : BitVec 32) (limited : nFatent.toNat ≤ fsType.limit) :
    (neededBytes fsType nFatent).toNat = fsType.needed nFatent.toNat ∧ fsType.needed nFatent.toNat < 4294966000 := by
  have two : (2 : BitVec 32).toNat = 2 := rfl
  have three : (3 : BitVec 32).toNat = 3 := rfl
  have four : (4 : BitVec 32).toNat = 4 := rfl
  cases fsType with
  | fat12 =>
      have bound : nFatent.toNat ≤ 4087 := limited
      have odd : (nFatent &&& 1).toNat = nFatent.toNat % 2 := by
        rw [BitVec.toNat_and, show (1 : BitVec 32).toNat = 1 from rfl, Nat.and_one_is_mod]
      have product : (nFatent * 3).toNat = nFatent.toNat * 3 := by
        rw [BitVec.toNat_mul, three]
        exact Nat.mod_eq_of_lt (by omega)
      rw [neededBytes, FsType.needed, BitVec.toNat_add, BitVec.toNat_udiv, product, odd, two]
      exact ⟨Nat.mod_eq_of_lt (by omega), by omega⟩
  | fat16 =>
      have bound : nFatent.toNat ≤ 65527 := limited
      rw [neededBytes, FsType.needed, BitVec.toNat_mul, two]
      exact ⟨Nat.mod_eq_of_lt (by omega), by omega⟩
  | fat32 =>
      have bound : nFatent.toNat ≤ 268435447 := limited
      rw [neededBytes, FsType.needed, BitVec.toNat_mul, four]
      exact ⟨Nat.mod_eq_of_lt (by omega), by omega⟩

theorem entries_sum (nclst : BitVec 32) (fsType : FsType) (limited : nclst.toNat + 2 ≤ fsType.limit) :
    (nclst + 2).toNat = nclst.toNat + 2 := by
  have bound : fsType.limit ≤ 268435447 := by
    cases fsType <;> decide
  rw [BitVec.toNat_add, show (2 : BitVec 32).toNat = 2 from rfl]
  exact Nat.mod_eq_of_lt (by omega)

theorem positive (width : Nat) (value : BitVec width) (some_ : value ≠ 0) : 0 < value.toNat :=
  Nat.pos_of_ne_zero fun zero => some_ (BitVec.eq_of_toNat_eq zero)

theorem parse_checked (win : Sector) (bsect : Lba) (bpb : Bpb) (accepted : parseBpb win bsect = some bpb) :
    Checked win bpb.fsType ∧ bpb.nFats = win bpbNumFATs ∧ bpb.nFatent = clusterCount win + 2 ∧ bpb.csize = win bpbSecPerClus ∧
      bpb.nRootdir = ldWordAt win bpbRootEntCnt ∧ bpb.volbase = bsect ∧
      bpb.fatbase = bsect + (ldWordAt win bpbRsvdSecCnt).setWidth 32 ∧ bpb.fsize = fatSize win ∧
      bpb.database = bsect + systemSectors win := by
  unfold parseBpb at accepted
  by_cases checks : ldWordAt win bpbBytsPerSec = 512 ∧ (win bpbNumFATs = 1 ∨ win bpbNumFATs = 2) ∧
      (win bpbSecPerClus ≠ 0 ∧ win bpbSecPerClus &&& (win bpbSecPerClus - 1) = 0) ∧
      ldWordAt win bpbRootEntCnt % entriesPerSector = 0 ∧ ldWordAt win bpbRsvdSecCnt ≠ 0 ∧
      systemSectors win ≤ totalSectors win ∧ clusterCount win ≠ 0
  · rw [if_pos checks] at accepted
    obtain ⟨fsType, known, rest⟩ := Option.bind_eq_some_iff.mp accepted
    obtain ⟨_, copies, ⟨sized, _⟩, _, reserved, _, some_⟩ := checks
    have limited := type_limited (clusterCount win) fsType known
    have sum := entries_sum (clusterCount win) fsType limited
    by_cases fits : (fsType = .fat32 ∧ ldWordAt win bpbFSVer32 = 0 ∧ ldWordAt win bpbRootEntCnt = 0 ∨
        fsType ≠ .fat32 ∧ ldWordAt win bpbRootEntCnt ≠ 0) ∧
        ¬ fatSize win < (neededBytes fsType (clusterCount win + 2) + 511) / 512
    · rw [if_pos fits] at rest
      obtain rfl := Option.some.inj rest
      refine ⟨⟨?_, positive 8 _ sized, positive 16 _ reserved, positive 32 _ some_, limited, ?_⟩,
        rfl, rfl, rfl, rfl, rfl, rfl, rfl, rfl⟩
      · rcases copies with one | two
        · rw [one]
          exact .inl rfl
        · rw [two]
          exact .inr rfl
      · obtain ⟨value, bound⟩ := needed_bytes fsType (clusterCount win + 2) (by rw [sum]; exact limited)
        have sectors := BitVec.le_def.mp (BitVec.not_lt.mp fits.2)
        rw [BitVec.toNat_udiv, BitVec.toNat_add, value, show (511 : BitVec 32).toNat = 511 from rfl,
          show (512 : BitVec 32).toNat = 512 from rfl, Nat.mod_eq_of_lt (by omega)] at sectors
        rw [sum] at sectors
        show fsType.needed ((clusterCount win).toNat + 2) ≤ 512 * (fatSize win).toNat
        omega
    · rw [if_neg fits] at rest
      cases rest
  · rw [if_neg checks] at accepted
    cases accepted

-- The sectors before the clusters, without a bound on the sum.
def systemTotal (win : Sector) : Nat :=
  (ldWordAt win bpbRsvdSecCnt).toNat + (win bpbNumFATs).toNat * (fatSize win).toNat + (ldWordAt win bpbRootEntCnt).toNat / 16

theorem wide_nat (narrow : Nat) (value : BitVec narrow) (fits : narrow ≤ 32) : (value.setWidth 32).toNat = value.toNat :=
  BitVec.toNat_setWidth_of_le fits

theorem system_total (win : Sector) (small : systemTotal win < 4294967296) : (systemSectors win).toNat = systemTotal win := by
  unfold systemTotal at small ⊢
  have area : (fatArea win).toNat = (win bpbNumFATs).toNat * (fatSize win).toNat := by
    rw [fatArea, BitVec.toNat_mul, wide_nat 8 _ (by decide), Nat.mul_comm]
    exact Nat.mod_eq_of_lt (by omega)
  have root : (rootSectors win).toNat = (ldWordAt win bpbRootEntCnt).toNat / 16 := by
    rw [rootSectors, BitVec.toNat_udiv]
    rfl
  rw [systemSectors, BitVec.toNat_add, BitVec.toNat_add, wide_nat 16 _ (by decide), wide_nat 16 _ (by decide), area, root,
    Nat.mod_eq_of_lt (a := _ + _ * _) (by omega)]
  exact Nat.mod_eq_of_lt (by omega)

theorem layout_bounds (win : Sector) (bsect : Lba) (bpb : Bpb) (accepted : parseBpb win bsect = some bpb) (layout : Layout)
    (of : bpb.Of layout) : systemTotal win < 4294967296 ∧
      bsect.toNat + systemTotal win + (win bpbSecPerClus).toNat * (clusterCount win).toNat < 4294967296 := by
  obtain ⟨⟨copies, sized, reserved, some_, limited, fits⟩, nFats, nFatent, csize, nRootdir, volbase, fatbase, fsize, database⟩ :=
    parse_checked win bsect bpb accepted
  have sum := entries_sum (clusterCount win) bpb.fsType limited
  have count : (clusterCount win).toNat + 2 - 2 = (clusterCount win).toNat := Nat.add_sub_cancel _ 2
  have before := layout.reserved
  have fats := layout.fats
  have clusters := layout.clusters
  have start := bsect.isLt
  rw [of.volbase, of.fatbase, volbase, fatbase, BitVec.toNat_add, wide_nat 16 _ (by decide)] at before
  rw [of.fatbase, of.nFats, of.fsize, of.dirSects, of.database, fatbase, nFats, fsize, nRootdir, database, BitVec.toNat_add,
    wide_nat 16 _ (by decide), BitVec.toNat_add] at fats
  rw [of.database, of.csize, of.nFatent, database, csize, nFatent, sum, count, BitVec.toNat_add] at clusters
  have first : bsect.toNat + (ldWordAt win bpbRsvdSecCnt).toNat < 4294967296 := by omega
  rw [Nat.mod_eq_of_lt first] at fats
  have small : systemTotal win < 4294967296 := by
    unfold systemTotal
    omega
  have whole := system_total win small
  rw [whole] at fats clusters
  unfold systemTotal at *
  exact ⟨small, by omega⟩

theorem bounded_layout (win : Sector) (bsect : Lba) (bpb : Bpb) (accepted : parseBpb win bsect = some bpb)
    (small : systemTotal win < 4294967296)
    (ends : bsect.toNat + systemTotal win + (win bpbSecPerClus).toNat * (clusterCount win).toNat < 4294967296) :
    ∃ layout, bpb.Of layout := by
  obtain ⟨⟨copies, sized, reserved, some_, limited, fits⟩, nFats, nFatent, csize, nRootdir, volbase, fatbase, fsize, database⟩ :=
    parse_checked win bsect bpb accepted
  have sum := entries_sum (clusterCount win) bpb.fsType limited
  have count : (clusterCount win).toNat + 2 - 2 = (clusterCount win).toNat := Nat.add_sub_cancel _ 2
  have whole := system_total win small
  have databaseNat : bpb.database.toNat = bsect.toNat + systemTotal win := by
    rw [database, BitVec.toNat_add, whole]
    exact Nat.mod_eq_of_lt (by omega)
  have fatbaseNat : bpb.fatbase.toNat = bsect.toNat + (ldWordAt win bpbRsvdSecCnt).toNat := by
    rw [fatbase, BitVec.toNat_add, wide_nat 16 _ (by decide)]
    unfold systemTotal at ends
    exact Nat.mod_eq_of_lt (by omega)
  have countNat : bpb.nFatent.toNat = (clusterCount win).toNat + 2 := by rw [nFatent, sum]
  refine ⟨{
    fsType := bpb.fsType
    nFats := bpb.nFats.toNat
    nFatent := bpb.nFatent
    csize := bpb.csize.toNat
    volbase := bpb.volbase
    fatbase := bpb.fatbase
    fsize := bpb.fsize
    dirSects := bpb.nRootdir.toNat / 16
    database := bpb.database
    some_ := ?_
    sized := ?_
    limited := ?_
    fits := ?_
    reserved := ?_
    fats := ?_
    clusters := ?_
    copies := ?_ }, ⟨rfl, rfl, rfl, rfl, rfl, rfl, rfl, rfl, rfl⟩⟩
  · rw [countNat]
    omega
  · rw [csize]
    exact sized
  · rw [countNat]
    exact limited
  · rw [countNat, fsize]
    exact fits
  · rw [volbase, fatbaseNat]
    omega
  · rw [fatbaseNat, databaseNat, nFats, fsize, nRootdir, systemTotal]
    omega
  · rw [databaseNat, csize, countNat, count]
    exact ends
  · rw [nFats]
    exact copies

-- The parts of a volume that mount_volume accepts lie apart exactly when
-- neither the sectors before the clusters nor those of the whole volume exceed
-- 32 bits. The checks do not see to it.
theorem accepted_sound_iff (win : Sector) (bsect : Lba) (bpb : Bpb) (accepted : parseBpb win bsect = some bpb) :
    (∃ layout, bpb.Of layout) ↔ systemTotal win < 4294967296 ∧
      bsect.toNat + systemTotal win + (win bpbSecPerClus).toNat * (clusterCount win).toNat < 4294967296 := by
  constructor
  · intro ⟨layout, of⟩
    exact layout_bounds win bsect bpb accepted layout of
  · intro ⟨small, ends⟩
    exact bounded_layout win bsect bpb accepted small ends

theorem accepted_sound_iff_small : ∃ bpb layout, parseBpb (smallSectors 0) 0 = some bpb ∧ bpb.Of layout := by
  obtain ⟨bpb, accepted⟩ := Option.isSome_iff_exists.mp (by decide +kernel : (parseBpb (smallSectors 0) 0).isSome = true)
  obtain ⟨layout, of⟩ := (accepted_sound_iff (smallSectors 0) 0 bpb accepted).mpr (by decide +kernel)
  exact ⟨bpb, layout, accepted, of⟩

-- One FAT of 0x80000001 sectors would do, and two of them are 2 sectors to the
-- checks.
def wrappingSector : Sector :=
  stDwordAt (Function.update (smallSectors 0) bpbFATSz16 0) bpbFATSz32 0x80000001

theorem wrapping_sector_accepted : ∃ bpb, parseBpb wrappingSector 0 = some bpb ∧ ¬ ∃ layout, bpb.Of layout := by
  obtain ⟨bpb, accepted⟩ := Option.isSome_iff_exists.mp (by decide +kernel : (parseBpb wrappingSector 0).isSome = true)
  refine ⟨bpb, accepted, fun ⟨layout, of⟩ => ?_⟩
  have small := (layout_bounds wrappingSector 0 bpb accepted layout of).1
  exact absurd small (by decide +kernel)

theorem byte_of_place (val : BitVec 32) (win : Sector) (place : Nat) : ldDwordAt (stDwordAt win place val) place = val := by
  unfold ldDwordAt stDwordAt ldDword
  rw [Function.update_self, Function.update_of_ne (show place + 2 ≠ place + 3 by omega), Function.update_self,
    Function.update_of_ne (show place + 1 ≠ place + 3 by omega), Function.update_of_ne (show place + 1 ≠ place + 2 by omega),
    Function.update_self, Function.update_of_ne (show place ≠ place + 3 by omega),
    Function.update_of_ne (show place ≠ place + 2 by omega), Function.update_of_ne (show place ≠ place + 1 by omega),
    Function.update_self]
  refine BitVec.eq_of_getLsbD_eq fun bit small => ?_
  rw [BitVec.getLsbD_append, BitVec.getLsbD_append, BitVec.getLsbD_append]
  by_cases first : bit < 8
  · rw [if_pos first, BitVec.getLsbD_setWidth]
    simp [first]
  · rw [if_neg first]
    by_cases second : bit < 16
    · rw [if_pos (by omega), BitVec.getLsbD_setWidth, BitVec.getLsbD_ushiftRight, show 8 + (bit - 8) = bit by omega]
      simp [show bit - 8 < 8 by omega]
    · rw [if_neg (by omega)]
      by_cases third : bit < 24
      · rw [if_pos (by omega), BitVec.getLsbD_setWidth, BitVec.getLsbD_ushiftRight, show 16 + (bit - 8 - 8) = bit by omega]
        simp [show bit - 8 - 8 < 8 by omega]
      · rw [if_neg (by omega), BitVec.getLsbD_setWidth, BitVec.getLsbD_ushiftRight, show 24 + (bit - 8 - 8 - 8) = bit by omega]
        simp [show bit - 8 - 8 - 8 < 8 by omega]

theorem store_apart (val : BitVec 32) (win : Sector) (place other : Nat) (apart : other < place ∨ place + 4 ≤ other) :
    stDwordAt win place val other = win other := by
  unfold stDwordAt
  rw [Function.update_of_ne (by omega), Function.update_of_ne (by omega), Function.update_of_ne (by omega),
    Function.update_of_ne (by omega)]

theorem load_apart (val : BitVec 32) (win : Sector) (place other : Nat) (apart : other + 4 ≤ place ∨ place + 4 ≤ other) :
    ldDwordAt (stDwordAt win place val) other = ldDwordAt win other := by
  unfold ldDwordAt
  rw [store_apart val win place other (by omega), store_apart val win place (other + 1) (by omega),
    store_apart val win place (other + 2) (by omega), store_apart val win place (other + 3) (by omega)]

theorem info_read_back (freeClst lastClst : BitVec 32) : readInfo (fsInfo freeClst lastClst) = (freeClst, lastClst) := by
  have sign : ldWordAt (fsInfo freeClst lastClst) bs55AA = 0xAA55 := by
    unfold ldWordAt fsInfo
    rw [store_apart _ _ _ _ (by decide), store_apart _ _ _ _ (by decide), store_apart _ _ _ _ (by decide),
      store_apart _ _ _ _ (by decide), store_apart _ _ _ _ (by decide), store_apart _ _ _ _ (by decide),
      store_apart _ _ _ _ (by decide), store_apart _ _ _ _ (by decide)]
    decide
  have lead : ldDwordAt (fsInfo freeClst lastClst) fsiLeadSig = 0x41615252 := by
    unfold fsInfo
    rw [load_apart _ _ _ _ (by decide), load_apart _ _ _ _ (by decide), load_apart _ _ _ _ (by decide), byte_of_place]
  have struc : ldDwordAt (fsInfo freeClst lastClst) fsiStrucSig = 0x61417272 := by
    unfold fsInfo
    rw [load_apart _ _ _ _ (by decide), load_apart _ _ _ _ (by decide), byte_of_place]
  have free : ldDwordAt (fsInfo freeClst lastClst) fsiFreeCount = freeClst := by
    unfold fsInfo
    rw [load_apart _ _ _ _ (by decide), byte_of_place]
  have last : ldDwordAt (fsInfo freeClst lastClst) fsiNxtFree = lastClst := by
    unfold fsInfo
    rw [byte_of_place]
  rw [readInfo, if_pos ⟨sign, lead, struc⟩, free, last]

-- What a look at the medium leaves: the medium as it was, and in the window
-- the sector it is on.
structure Shows (disk : Disk) (after : Disk) (win : Sector) (winsect : Lba) : Prop where
  sectors : after.sectors = disk.sectors
  window : winsect ≠ 0xFFFFFFFF → win = disk.sectors winsect

theorem check_fs (faults : Faults) (disk : Disk) (win : Sector) (sect : Lba) :
    Shows disk (checkFs faults disk win sect).disk (checkFs faults disk win sect).win (checkFs faults disk win sect).winsect := by
  have sectors := read_sectors faults disk sect
  have buffer := read_buffer faults disk sect
  unfold checkFs
  by_cases none_ : sect = 0xFFFFFFFF
  · rw [if_pos none_]
    exact ⟨rfl, fun valid => absurd rfl valid⟩
  · rw [if_neg none_]
    obtain ⟨answer, answerIs⟩ : ∃ answer, diskRead faults disk sect = answer := ⟨_, rfl⟩
    rw [answerIs] at sectors buffer ⊢
    obtain ⟨after, buff, done⟩ := answer
    cases done with
    | true => exact ⟨sectors, fun _ => buffer rfl⟩
    | false => exact ⟨sectors, fun valid => absurd rfl valid⟩

theorem find_partition (faults : Faults) (disk : Disk) (starts : List Lba) (probe : Probe)
    (shows_ : Shows disk probe.disk probe.win probe.winsect) :
    Shows disk (findPartition faults starts probe).disk (findPartition faults starts probe).win
      (findPartition faults starts probe).winsect := by
  induction starts generalizing probe with
  | nil => exact shows_
  | cons start rest ih =>
      unfold findPartition
      dsimp only
      have next : Shows disk (if start = 0 then { probe with fmt := 3 } else checkFs faults probe.disk probe.win start).disk
          (if start = 0 then { probe with fmt := 3 } else checkFs faults probe.disk probe.win start).win
          (if start = 0 then { probe with fmt := 3 } else checkFs faults probe.disk probe.win start).winsect := by
        by_cases none_ : start = 0
        · rw [if_pos none_]
          exact shows_
        · rw [if_neg none_]
          obtain ⟨sectors, window⟩ := check_fs faults probe.disk probe.win start
          rw [shows_.sectors] at sectors window
          exact ⟨sectors, window⟩
      by_cases more : 2 ≤ (if start = 0 then { probe with fmt := 3 } else checkFs faults probe.disk probe.win start).fmt
      · rw [if_pos more]
        exact ih _ next
      · rw [if_neg more]
        exact next

theorem find_volume (faults : Faults) (disk : Disk) (win : Sector) :
    Shows disk (findVolume faults disk win).disk (findVolume faults disk win).win (findVolume faults disk win).winsect := by
  have first := check_fs faults disk win 0
  unfold findVolume
  dsimp only
  by_cases parts : (checkFs faults disk win 0).fmt = 2
  · rw [if_pos parts]
    exact find_partition faults disk _ _ first
  · rw [if_neg parts]
    exact first

def Mounted.volume (mounted : Mounted) (layout : Layout) : Volume :=
  ⟨layout, mounted.winsect, false, mounted.win, mounted.disk, mounted.freeClst, mounted.lastClst, mounted.fsiFlag⟩

-- A mount leaves the window on what it shows, and takes the counts from the
-- FSInfo sector behind the boot sector or holds them for unknown.
structure Loaded (disk : Disk) (mounted : Mounted) : Prop where
  shows_ : Shows disk mounted.disk mounted.win mounted.winsect
  counts : mounted.fsiFlag = 0x80 ∧ mounted.freeClst = 0xFFFFFFFF ∨
    mounted.fsiFlag = 0 ∧ mounted.bpb.fsType = .fat32 ∧
      (mounted.freeClst, mounted.lastClst) = readInfo (disk.sectors (mounted.bpb.volbase + 1))

theorem load_info (faults : Faults) (bpb : Bpb) (disk before : Disk) (win : Sector) (bsect : Lba) (volbase : bpb.volbase = bsect)
    (shows_ : Shows before disk win bsect) : Loaded before (loadInfo faults bpb disk win bsect) ∧
      (loadInfo faults bpb disk win bsect).bpb = bpb := by
  have sectors := read_sectors faults disk (bsect + 1)
  have buffer := read_buffer faults disk (bsect + 1)
  unfold loadInfo
  by_cases due : bpb.fsType = .fat32 ∧ ldWordAt win bpbFSInfo32 = 1
  · rw [if_pos due]
    obtain ⟨answer, answerIs⟩ : ∃ answer, diskRead faults disk (bsect + 1) = answer := ⟨_, rfl⟩
    rw [answerIs, shows_.sectors] at sectors
    rw [answerIs, shows_.sectors] at buffer
    rw [answerIs]
    obtain ⟨after, info, done⟩ := answer
    cases done with
    | true =>
        have loaded : info = before.sectors (bsect + 1) := buffer rfl
        refine ⟨⟨⟨sectors, fun _ => loaded⟩, .inr ⟨rfl, due.1, ?_⟩⟩, rfl⟩
        rw [volbase, ← loaded]
    | false => exact ⟨⟨⟨sectors, fun valid => absurd rfl valid⟩, .inl ⟨rfl, rfl⟩⟩, rfl⟩
  · rw [if_neg due]
    exact ⟨⟨shows_, .inl ⟨rfl, rfl⟩⟩, rfl⟩

theorem mount_volume (faults : Faults) (disk : Disk) (win : Sector) (mounted : Mounted)
    (ok : mountVolume faults disk win = .ok mounted) : Loaded disk mounted := by
  have found := find_volume faults disk win
  unfold mountVolume at ok
  dsimp only at ok
  by_cases err : (findVolume faults disk win).fmt = 4
  · rw [if_pos err] at ok
    cases ok
  · rw [if_neg err] at ok
    by_cases other : 2 ≤ (findVolume faults disk win).fmt
    · rw [if_pos other] at ok
      cases ok
    · rw [if_neg other] at ok
      cases parsed : parseBpb (findVolume faults disk win).win (findVolume faults disk win).winsect with
      | none =>
          rw [parsed] at ok
          cases ok
      | some bpb =>
          rw [parsed] at ok
          obtain rfl := Except.ok.inj ok
          obtain ⟨_, _, _, _, _, volbase, _⟩ := parse_checked _ _ _ parsed
          exact (load_info faults bpb _ disk _ _ volbase found).1

-- What a volume reads of its FAT after a mount is what the medium has.
theorem loaded_table (disk : Disk) (mounted : Mounted) (layout : Layout) (loaded : Loaded disk mounted) :
    (mounted.volume layout).Held ∧ (mounted.volume layout).table = entry layout.fsType (disk.fat layout) := by
  have held : (mounted.volume layout).Held := by
    intro _ first
    have valid := in_first_valid layout mounted.winsect first
    show mounted.disk.sectors mounted.winsect = mounted.win
    rw [loaded.shows_.sectors, loaded.shows_.window valid]
  refine ⟨held, ?_⟩
  have medium := clean_fat (mounted.volume layout) held rfl
  have same : mounted.disk.fat layout = disk.fat layout := by
    funext offset
    unfold Disk.fat
    rw [loaded.shows_.sectors]
  unfold Volume.table
  rw [← medium]
  show entry layout.fsType (mounted.disk.fat layout) = _
  rw [same]

-- The FSInfo sector after a sync that had to write it.
theorem synced_info (faults : Faults) (vol : Volume) (quiet : Quiet faults) (held : vol.Held)
    (due : vol.layout.fsType = .fat32 ∧ vol.fsiFlag = 1) :
    (syncFs faults true vol).1.disk.sectors (vol.layout.volbase + 1) = fsInfo vol.freeClst vol.lastClst := by
  obtain ⟨⟨⟨layout, freeClst, lastClst, fsiFlag⟩, _⟩, _⟩ := sync_window faults vol held
  have written : (syncFs faults true vol).1 = writeInfo faults (syncWindow faults vol).1 := by
    unfold syncFs onOk
    rw [if_pos (sync_quiet faults quiet vol)]
  have set : (syncWindow faults vol).1.layout.fsType = .fat32 ∧ (syncWindow faults vol).1.fsiFlag = 1 := by
    rw [layout, fsiFlag]
    exact due
  rw [written, writeInfo, if_pos set]
  show (diskWrite faults (syncWindow faults vol).1.disk _ _).1.sectors _ = _
  rw [layout, freeClst, lastClst, diskWrite, quiet]
  exact Function.update_self _ _ _

theorem counted_unknown (faults : Faults) (vol : Volume) (unknown : vol.freeClst = 0xFFFFFFFF) : Counted faults vol := by
  have bound := free_count_bound vol.layout vol.table
  have small := vol.layout.nFatent.isLt
  have value : vol.freeClst.toNat = 4294967295 := by rw [unknown]; rfl
  exact ⟨by omega, fun _ => .inr (by omega)⟩

theorem mount_answers (faults : Faults) (disk : Disk) (win : Sector) (done : (mountVolume faults disk win).isOk = true) :
    ∃ mounted, mountVolume faults disk win = .ok mounted := by
  cases ran : mountVolume faults disk win with
  | error res =>
      rw [ran] at done
      cases done
  | ok mounted => exact ⟨mounted, rfl⟩

-- After a successful sync the next mount finds every file as it was: the
-- volume it makes is one that the results about runs hold for again.
theorem files_survive_mount (faults later : Faults) (layout : Layout) (firm : Firm faults layout)
    (info : layout.fsType = .fat32 → layout.hasInfo) (foreign : BitVec 32 → Prop) (initial drive : Drive)
    (stored : Stored faults layout foreign initial) (reached : Base.Reach (step faults) (Regular layout) initial drive)
    (synced : (syncFs faults true drive.vol).2 = .ok) (win : Sector) (mounted : Mounted)
    (ok : mountVolume later (syncFs faults true drive.vol).1.disk win = .ok mounted) (of : mounted.bpb.Of layout)
    (count : mounted.freeClst = 0xFFFFFFFF ∨ Quiet faults ∧ drive.vol.fsiFlag = 1) :
    Stored later layout (fun clst => foreign clst ∨ ¬ Quiet faults) ⟨mounted.volume layout, drive.files⟩ := by
  obtain ⟨driveMounted, held, counted, laid, sound, reserved, tight⟩ :=
    reached_stored faults layout foreign firm info initial stored drive reached
  have loaded := mount_volume later _ win mounted ok
  obtain ⟨newHeld, newTable⟩ := loaded_table _ mounted layout loaded
  obtain ⟨leaves, answer⟩ := sync_fs faults true drive.vol held (by rw [driveMounted]; exact info)
  have clean := (answer.resolve_right fun err => ok_or _ err synced).2
  have table : (mounted.volume layout).table = drive.vol.table := by
    have medium := clean_fat _ leaves.held clean
    rw [leaves.layout, driveMounted, leaves.fat] at medium
    have value : drive.vol.table = entry layout.fsType drive.vol.fat := by
      unfold Volume.table
      rw [driveMounted]
    rw [newTable, medium, value]
  have newCounted : Counted later (mounted.volume layout) := by
    rcases count with unknown | known
    · exact counted_unknown later _ unknown
    rcases loaded.counts with ⟨_, unknown⟩ | ⟨_, fat32, counts⟩
    · exact counted_unknown later _ unknown
    · have due : drive.vol.layout.fsType = .fat32 ∧ drive.vol.fsiFlag = 1 :=
        ⟨by rw [driveMounted, of.fsType]; exact fat32, known.2⟩
      have written := synced_info faults drive.vol known.1 held due
      rw [← of.volbase, ← driveMounted, written, info_read_back] at counts
      have free : (mounted.volume layout).freeClst = drive.vol.freeClst := congrArg Prod.fst counts
      obtain ⟨room, exact_⟩ := counted
      rw [driveMounted] at room exact_
      constructor
      · rw [table, free]
        exact room
      · rw [table, free]
        exact fun _ => exact_ known.1
  refine ⟨rfl, newHeld, newCounted, by rw [table]; exact laid, by rw [table]; exact sound,
    by rw [table]; exact reserved, fun _ => ?_⟩
  rw [table]
  intro clst valid used
  by_cases quiet : Quiet faults
  · exact (tight quiet clst valid used).imp_left .inl
  · exact .inl (.inr quiet)

theorem files_survive_mount_two_files : ∃ mounted,
    mountVolume noFaults (syncFs noFaults true twoFiles.vol).1.disk (fun _ => 0) = .ok mounted ∧
      Stored noFaults smallLayout (fun _ => False ∨ ¬ Quiet noFaults) ⟨mounted.volume smallLayout, twoFiles.files⟩ := by
  obtain ⟨mounted, ran⟩ := mount_answers noFaults (syncFs noFaults true twoFiles.vol).1.disk (fun _ => 0) (by decide +kernel)
  have fields : (mountVolume noFaults (syncFs noFaults true twoFiles.vol).1.disk (fun _ => 0)).toOption.map
      (fun mounted => (mounted.bpb, mounted.freeClst)) = some (⟨.fat12, 2, 5, 32, 16, 0, 1, 1, 4, 3⟩, 0xFFFFFFFF) := by decide +kernel
  rw [ran] at fields
  obtain ⟨bpb, unknown⟩ := Prod.mk.inj (Option.some.inj fields)
  have of : mounted.bpb.Of smallLayout := by
    rw [bpb]
    exact ⟨rfl, rfl, rfl, rfl, rfl, rfl, rfl, rfl, rfl⟩
  exact ⟨mounted, ran, files_survive_mount noFaults noFaults smallLayout (fun _ => quiet_none)
    (fun other => FsType.noConfusion other) (fun _ => False) emptyDrive twoFiles small_stored two_files_reached
    (by decide +kernel) _ mounted ran of (.inl unknown)⟩

end Miso.FatFs
