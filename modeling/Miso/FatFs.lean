import Mathlib.Logic.Function.Basic

set_option autoImplicit false

namespace Miso.FatFs

abbrev Byte := BitVec 8

abbrev Lba := BitVec 32

-- Bytes by their offset; only those below ss are on the medium.
abbrev Sector := Nat → Byte

def ss : Nat := 512

inductive FResult where
  | ok
  | diskErr
  | intErr
  | noFilesystem
deriving DecidableEq

inductive FsType where
  | fat12
  | fat16
  | fat32
deriving DecidableEq

-- The entries of the FAT as the type counts them, and the bytes they need.
def FsType.limit : FsType → Nat
  | .fat12 => 0xFF5 + 2
  | .fat16 => 0xFFF5 + 2
  | .fat32 => 0x0FFFFFF5 + 2

def FsType.needed (fsType : FsType) (nFatent : Nat) : Nat :=
  match fsType with
  | .fat12 => nFatent * 3 / 2 + nFatent % 2
  | .fat16 => nFatent * 2
  | .fat32 => nFatent * 4

-- Where the parts of a mounted volume are: the reserved sectors, the copies of
-- the FAT, the root directory and the clusters follow each other, the entries
-- fit into a copy, and no part reaches the sector that marks an invalid window.
structure Layout where
  fsType : FsType
  nFats : Nat
  nFatent : BitVec 32
  csize : Nat
  volbase : Lba
  fatbase : Lba
  fsize : BitVec 32
  dirSects : Nat
  database : Lba
  some_ : 2 < nFatent.toNat
  sized : 0 < csize
  limited : nFatent.toNat ≤ fsType.limit
  fits : fsType.needed nFatent.toNat ≤ 512 * fsize.toNat
  reserved : volbase.toNat < fatbase.toNat
  fats : fatbase.toNat + nFats * fsize.toNat + dirSects ≤ database.toNat
  clusters : database.toNat + csize * (nFatent.toNat - 2) < 4294967296
  copies : nFats = 1 ∨ nFats = 2

-- The medium, and how many transfers were asked of it.
structure Disk where
  sectors : Lba → Sector
  ops : Nat

structure Volume where
  layout : Layout
  winsect : Lba
  wflag : Bool
  win : Sector
  disk : Disk
  freeClst : BitVec 32
  lastClst : BitVec 32
  fsiFlag : BitVec 8

-- Which transfers fail, by their number and their sector, and what they leave:
-- a write in the sector, a read in the buffer.
abbrev Faults := Nat → Lba → Option Sector

def diskWrite (faults : Faults) (disk : Disk) (buff : Sector) (sector : Lba) : Disk × Bool :=
  match faults disk.ops sector with
  | none => (⟨Function.update disk.sectors sector buff, disk.ops + 1⟩, true)
  | some left => (⟨Function.update disk.sectors sector left, disk.ops + 1⟩, false)

def diskRead (faults : Faults) (disk : Disk) (sector : Lba) : Disk × Sector × Bool :=
  match faults disk.ops sector with
  | none => (⟨disk.sectors, disk.ops + 1⟩, disk.sectors sector, true)
  | some left => (⟨disk.sectors, disk.ops + 1⟩, left, false)

def Layout.inFirst (layout : Layout) (sector : Lba) : Prop := sector - layout.fatbase < layout.fsize

instance (layout : Layout) (sector : Lba) : Decidable (layout.inFirst sector) :=
  inferInstanceAs (Decidable (sector - layout.fatbase < layout.fsize))

-- What the write to the second FAT answers is not looked at.
def reflect (faults : Faults) (vol : Volume) : Disk :=
  if vol.layout.inFirst vol.winsect ∧ vol.layout.nFats = 2 then
    (diskWrite faults vol.disk vol.win (vol.winsect + vol.layout.fsize)).1
  else vol.disk

def syncWindow (faults : Faults) (vol : Volume) : Volume × FResult :=
  if vol.wflag then
    match diskWrite faults vol.disk vol.win vol.winsect with
    | (disk, true) => ({ vol with wflag := false, disk := reflect faults { vol with disk := disk } }, .ok)
    | (disk, false) => ({ vol with disk := disk }, .diskErr)
  else (vol, .ok)

def fillWindow (faults : Faults) (vol : Volume) (sect : Lba) : Volume × FResult :=
  match diskRead faults vol.disk sect with
  | (disk, win, true) => ({ vol with disk := disk, win := win, winsect := sect }, .ok)
  | (disk, win, false) => ({ vol with disk := disk, win := win, winsect := 0xFFFFFFFF }, .diskErr)

def moveWindow (faults : Faults) (vol : Volume) (sect : Lba) : Volume × FResult :=
  if sect ≠ vol.winsect then
    if (syncWindow faults vol).2 = .ok then fillWindow faults (syncWindow faults vol).1 sect else syncWindow faults vol
  else (vol, .ok)

-- The sectors as the file system has them: the window stands for its sector.
def Volume.sector (vol : Volume) (sect : Lba) : Sector := if sect = vol.winsect then vol.win else vol.disk.sectors sect

def Layout.fatSector (layout : Layout) (offset : Nat) : Lba := layout.fatbase + BitVec.ofNat 32 (offset / ss)

-- The first FAT, byte by byte.
def Volume.fat (vol : Volume) (offset : Nat) : Byte :=
  if offset < ss * vol.layout.fsize.toNat then vol.sector (vol.layout.fatSector offset) (offset % ss) else 0

theorem fats_region (layout : Layout) : layout.fatbase.toNat + layout.nFats * layout.fsize.toNat < 4294967296 := by
  have before := layout.fats
  have whole := layout.clusters
  omega

theorem first_region (layout : Layout) : layout.fatbase.toNat + layout.fsize.toNat < 4294967296 := by
  have whole := fats_region layout
  rcases layout.copies with one | two
  · rw [one] at whole
    omega
  · rw [two] at whole
    omega

theorem fat_sector_index (layout : Layout) (offset : Nat) (inside : offset < ss * layout.fsize.toNat) :
    (layout.fatSector offset).toNat = layout.fatbase.toNat + offset / ss ∧ layout.inFirst (layout.fatSector offset) := by
  have bound : offset / ss < layout.fsize.toNat := (Nat.div_lt_iff_lt_mul (by decide)).mpr (by rwa [Nat.mul_comm])
  have region := first_region layout
  have small : (BitVec.ofNat 32 (offset / ss)).toNat = offset / ss := by
    rw [BitVec.toNat_ofNat]
    exact Nat.mod_eq_of_lt (by omega)
  refine ⟨?_, ?_⟩
  · rw [Layout.fatSector, BitVec.toNat_add, small]
    exact Nat.mod_eq_of_lt (by omega)
  · rw [Layout.inFirst, Layout.fatSector, BitVec.add_comm, BitVec.add_sub_cancel, BitVec.lt_def, small]
    exact bound

theorem in_first_index (layout : Layout) (sect : Lba) (first : layout.inFirst sect) :
    ∃ index, index < layout.fsize.toNat ∧ sect.toNat = layout.fatbase.toNat + index := by
  have bound := BitVec.lt_def.mp first
  have region := first_region layout
  refine ⟨(sect - layout.fatbase).toNat, bound, ?_⟩
  have back : layout.fatbase + (sect - layout.fatbase) = sect := by rw [BitVec.add_comm, BitVec.sub_add_cancel]
  have sum := congrArg BitVec.toNat back
  rw [BitVec.toNat_add, Nat.mod_eq_of_lt (by omega)] at sum
  exact sum.symm

theorem in_first_valid (layout : Layout) (sect : Lba) (first : layout.inFirst sect) : sect ≠ 0xFFFFFFFF := by
  rintro rfl
  obtain ⟨index, bound, place⟩ := in_first_index layout _ first
  have region := first_region layout
  rw [show (0xFFFFFFFF : Lba).toNat = 4294967295 from rfl] at place
  omega

theorem mirror_apart (layout : Layout) (two : layout.nFats = 2) (sect other : Lba) (first : layout.inFirst sect)
    (otherFirst : layout.inFirst other) : other ≠ sect + layout.fsize := by
  rintro rfl
  obtain ⟨index, bound, place⟩ := in_first_index layout sect first
  obtain ⟨otherIndex, otherBound, otherPlace⟩ := in_first_index layout _ otherFirst
  have whole := fats_region layout
  rw [two] at whole
  rw [BitVec.toNat_add, place, Nat.mod_eq_of_lt (by omega)] at otherPlace
  omega

-- A clean window holds what its sector holds.
def Volume.Held (vol : Volume) : Prop :=
  vol.wflag = false → vol.layout.inFirst vol.winsect → vol.disk.sectors vol.winsect = vol.win

-- Nothing but the window and the medium changed.
structure Volume.Kept (vol after : Volume) : Prop where
  layout : after.layout = vol.layout
  freeClst : after.freeClst = vol.freeClst
  lastClst : after.lastClst = vol.lastClst
  fsiFlag : after.fsiFlag = vol.fsiFlag

theorem Volume.Kept.refl (vol : Volume) : vol.Kept vol := ⟨rfl, rfl, rfl, rfl⟩

theorem Volume.Kept.trans {vol middle after : Volume} (first : vol.Kept middle) (second : middle.Kept after) : vol.Kept after :=
  ⟨second.layout.trans first.layout, second.freeClst.trans first.freeClst, second.lastClst.trans first.lastClst,
    second.fsiFlag.trans first.fsiFlag⟩

-- And the FAT reads the same.
structure Volume.Same (vol after : Volume) : Prop where
  kept : vol.Kept after
  fat : after.fat = vol.fat

theorem Volume.Same.layout {vol after : Volume} (same : vol.Same after) : after.layout = vol.layout := same.kept.layout

theorem Volume.Same.refl (vol : Volume) : vol.Same vol := ⟨.refl vol, rfl⟩

theorem Volume.Same.trans {vol middle after : Volume} (first : vol.Same middle) (second : middle.Same after) : vol.Same after :=
  ⟨first.kept.trans second.kept, second.fat.trans first.fat⟩

theorem fat_same (vol after : Volume) (layout : after.layout = vol.layout)
    (sectors : ∀ sect, vol.layout.inFirst sect → after.sector sect = vol.sector sect) : after.fat = vol.fat := by
  funext offset
  unfold Volume.fat
  rw [layout]
  by_cases inside : offset < ss * vol.layout.fsize.toNat
  · rw [if_pos inside, if_pos inside, sectors _ (fat_sector_index vol.layout offset inside).2]
  · rw [if_neg inside, if_neg inside]

theorem reflect_first (faults : Faults) (vol : Volume) (sect : Lba) (first : vol.layout.inFirst sect) :
    (reflect faults vol).sectors sect = vol.disk.sectors sect := by
  unfold reflect
  by_cases here : vol.layout.inFirst vol.winsect ∧ vol.layout.nFats = 2
  · rw [if_pos here]
    have apart := mirror_apart vol.layout here.2 vol.winsect sect here.1 first
    unfold diskWrite
    cases faults vol.disk.ops (vol.winsect + vol.layout.fsize) with
    | none => exact Function.update_of_ne apart _ _
    | some left => exact Function.update_of_ne apart _ _
  · rw [if_neg here]

theorem sync_window (faults : Faults) (vol : Volume) (held : vol.Held) :
    vol.Same (syncWindow faults vol).1 ∧ (syncWindow faults vol).1.winsect = vol.winsect ∧
      (syncWindow faults vol).1.win = vol.win ∧ (syncWindow faults vol).1.Held ∧
      ((syncWindow faults vol).2 = .ok ∧ (syncWindow faults vol).1.wflag = false ∨
        (syncWindow faults vol).2 = .diskErr ∧ (syncWindow faults vol).1.wflag = true) := by
  cases dirty : vol.wflag with
  | false =>
      have ends : syncWindow faults vol = (vol, .ok) := by rw [syncWindow, dirty, if_neg Bool.false_ne_true]
      rw [ends]
      exact ⟨.refl vol, rfl, rfl, held, .inl ⟨rfl, dirty⟩⟩
  | true =>
      cases fault : faults vol.disk.ops vol.winsect with
      | none =>
          obtain ⟨stored, storedIs⟩ : ∃ stored : Volume, stored = { vol with
            disk := ⟨Function.update vol.disk.sectors vol.winsect vol.win, vol.disk.ops + 1⟩ } := ⟨_, rfl⟩
          have ends : syncWindow faults vol = ({ vol with wflag := false, disk := reflect faults stored }, .ok) := by
            rw [syncWindow, if_pos dirty, diskWrite, fault, storedIs]
          have read (sect : Lba) (first : vol.layout.inFirst sect) : (reflect faults stored).sectors sect =
              Function.update vol.disk.sectors vol.winsect vol.win sect := by
            rw [reflect_first faults stored sect (storedIs ▸ first), storedIs]
          rw [ends]
          refine ⟨⟨⟨rfl, rfl, rfl, rfl⟩, fat_same vol _ rfl fun sect first => ?_⟩, rfl, rfl, fun _ first => ?_,
            .inl ⟨rfl, rfl⟩⟩
          · unfold Volume.sector
            by_cases here : sect = vol.winsect
            · rw [if_pos here, if_pos here]
            · rw [if_neg here, if_neg here]
              exact (read sect first).trans (Function.update_of_ne here _ _)
          · exact (read vol.winsect first).trans (Function.update_self _ _ _)
      | some left =>
          have ends : syncWindow faults vol = ({ vol with
              disk := ⟨Function.update vol.disk.sectors vol.winsect left, vol.disk.ops + 1⟩ }, .diskErr) := by
            rw [syncWindow, if_pos dirty, diskWrite, fault]
          rw [ends]
          refine ⟨⟨⟨rfl, rfl, rfl, rfl⟩, fat_same vol _ rfl fun sect _ => ?_⟩, rfl, rfl, fun clean => ?_,
            .inr ⟨rfl, dirty⟩⟩
          · unfold Volume.sector
            by_cases here : sect = vol.winsect
            · rw [if_pos here, if_pos here]
            · rw [if_neg here, if_neg here]
              exact Function.update_of_ne here _ _
          · exact absurd (dirty.symm.trans clean) (by decide)

theorem fill_window (faults : Faults) (vol : Volume) (sect : Lba) (held : vol.Held) (clean : vol.wflag = false) :
    vol.Same (fillWindow faults vol sect).1 ∧ (fillWindow faults vol sect).1.Held ∧
      ((fillWindow faults vol sect).2 = .ok ∧ (fillWindow faults vol sect).1.winsect = sect ∨
        (fillWindow faults vol sect).2 = .diskErr) := by
  have window (other : Lba) (first : vol.layout.inFirst other) : vol.sector other = vol.disk.sectors other := by
    unfold Volume.sector
    by_cases here : other = vol.winsect
    · rw [if_pos here, here]
      exact (held clean (here ▸ first)).symm
    · rw [if_neg here]
  cases fault : faults vol.disk.ops sect with
  | none =>
      have ends : fillWindow faults vol sect = ({ vol with
          disk := ⟨vol.disk.sectors, vol.disk.ops + 1⟩, win := vol.disk.sectors sect, winsect := sect }, .ok) := by
        rw [fillWindow, diskRead, fault]
      rw [ends]
      refine ⟨⟨⟨rfl, rfl, rfl, rfl⟩, fat_same vol _ rfl fun other first => ?_⟩, fun _ _ => rfl, .inl ⟨rfl, rfl⟩⟩
      rw [window other first, Volume.sector]
      by_cases here : other = sect
      · rw [if_pos here, here]
      · rw [if_neg here]
  | some left =>
      have ends : fillWindow faults vol sect = ({ vol with
          disk := ⟨vol.disk.sectors, vol.disk.ops + 1⟩, win := left, winsect := 0xFFFFFFFF }, .diskErr) := by
        rw [fillWindow, diskRead, fault]
      rw [ends]
      refine ⟨⟨⟨rfl, rfl, rfl, rfl⟩, fat_same vol _ rfl fun other first => ?_⟩, fun _ first => ?_, .inr rfl⟩
      · rw [window other first, Volume.sector, if_neg (in_first_valid vol.layout other first)]
      · exact absurd rfl (in_first_valid vol.layout _ first)

-- Moving the window changes no byte of the FAT, also where a transfer fails.
theorem move_window (faults : Faults) (vol : Volume) (sect : Lba) (held : vol.Held) :
    vol.Same (moveWindow faults vol sect).1 ∧ (moveWindow faults vol sect).1.Held ∧
      ((moveWindow faults vol sect).2 = .ok ∧ (moveWindow faults vol sect).1.winsect = sect ∨
        (moveWindow faults vol sect).2 = .diskErr) := by
  unfold moveWindow
  by_cases here : sect = vol.winsect
  · rw [if_neg (not_not_intro here)]
    exact ⟨.refl vol, held, .inl ⟨rfl, here.symm⟩⟩
  · rw [if_pos here]
    obtain ⟨same, _, _, syncHeld, outcome⟩ := sync_window faults vol held
    rcases outcome with ⟨done, clean⟩ | ⟨failed, _⟩
    · rw [if_pos done]
      obtain ⟨filled, fillHeld, ends⟩ := fill_window faults (syncWindow faults vol).1 sect syncHeld clean
      exact ⟨.trans same filled, fillHeld, ends⟩
    · rw [if_neg (by rw [failed]; exact FResult.noConfusion)]
      exact ⟨same, syncHeld, .inr failed⟩

-- What the window shows of the FAT, and what writing into it does.
theorem win_fat (vol : Volume) (offset : Nat) (inside : offset < ss * vol.layout.fsize.toNat)
    (here : vol.winsect = vol.layout.fatSector offset) : vol.win (offset % ss) = vol.fat offset := by
  rw [Volume.fat, if_pos inside, Volume.sector, if_pos here.symm]

def Volume.poke (vol : Volume) (place : Nat) (value : Byte) : Volume :=
  { vol with win := Function.update vol.win place value, wflag := true }

theorem poke_kept (vol : Volume) (place : Nat) (value : Byte) : vol.Kept (vol.poke place value) := ⟨rfl, rfl, rfl, rfl⟩

theorem poke_fat (vol : Volume) (offset : Nat) (value : Byte) (inside : offset < ss * vol.layout.fsize.toNat)
    (here : vol.winsect = vol.layout.fatSector offset) :
    (vol.poke (offset % ss) value).fat = Function.update vol.fat offset value ∧ (vol.poke (offset % ss) value).Held := by
  refine ⟨?_, fun clean => by cases clean⟩
  funext other
  by_cases same : other = offset
  · have poked : (vol.poke (offset % ss) value).fat offset = (vol.poke (offset % ss) value).win (offset % ss) :=
      (win_fat (vol.poke (offset % ss) value) offset inside here).symm
    rw [same, Function.update_self, poked]
    exact Function.update_self _ _ _
  · rw [Function.update_of_ne same]
    unfold Volume.fat
    by_cases otherInside : other < ss * vol.layout.fsize.toNat
    · have layout : (vol.poke (offset % ss) value).layout = vol.layout := rfl
      rw [layout, if_pos otherInside, if_pos otherInside]
      unfold Volume.sector
      by_cases window : vol.layout.fatSector other = vol.winsect
      · have kept : (vol.poke (offset % ss) value).winsect = vol.winsect := rfl
        rw [kept, if_pos window, if_pos window]
        have place := (fat_sector_index vol.layout other otherInside).1
        rw [window, here, (fat_sector_index vol.layout offset inside).1] at place
        have apart : other % ss ≠ offset % ss := by
          intro aligned
          have first := Nat.div_add_mod other ss
          have second := Nat.div_add_mod offset ss
          rw [aligned, show other / ss = offset / ss by omega] at first
          exact same (first.symm.trans second)
        exact Function.update_of_ne apart _ _
      · have kept : (vol.poke (offset % ss) value).winsect = vol.winsect := rfl
        rw [kept, if_neg window, if_neg window]
        rfl
    · have layout : (vol.poke (offset % ss) value).layout = vol.layout := rfl
      rw [layout, if_neg otherInside, if_neg otherInside]

end Miso.FatFs
