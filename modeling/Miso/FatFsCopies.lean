import Miso.FatFsRuns

set_option autoImplicit false

namespace Miso.FatFs

-- A property that moving the window within the FAT and writing into it keep.
structure Steady (faults : Faults) (keeps : Volume → Prop) : Prop where
  held : ∀ vol, keeps vol → vol.Held
  moves : ∀ vol sect, keeps vol → vol.layout.inFirst sect → keeps (moveWindow faults vol sect).1
  pokes : ∀ vol place value, keeps vol → keeps (vol.poke place value)

section Steady

variable {faults : Faults} {keeps : Volume → Prop} {α : Type}

theorem on_ok_steady (steady : Steady faults keeps) (vol : Volume) (sect : Lba) (next : Volume → Volume × α)
    (failed : FResult → α) (before : keeps vol) (first : vol.layout.inFirst sect)
    (moved : ∀ after, vol.Same after → keeps after → keeps (next after).1) :
    keeps (onOk (moveWindow faults vol sect) next failed).1 := by
  have after := steady.moves vol sect before first
  obtain ⟨same, _, _⟩ := move_window faults vol sect (steady.held vol before)
  unfold onOk
  by_cases ok : (moveWindow faults vol sect).2 = .ok
  · rw [if_pos ok]
    exact moved _ same after
  · rw [if_neg ok]
    exact after

theorem offset_first (layout : Layout) (offset : Nat) (inside : offset < ss * layout.fsize.toNat) :
    layout.inFirst (layout.fatSector offset) := (fat_sector_index layout offset inside).2

theorem get_fat_steady (steady : Steady faults keeps) (vol : Volume) (clst : BitVec 32) (before : keeps vol) :
    keeps (getFat faults vol clst).1 := by
  unfold getFat
  by_cases refused : clst < 2 ∨ vol.layout.nFatent ≤ clst
  · rw [if_pos refused]
    exact before
  · rw [if_neg refused]
    have inside : clst < vol.layout.nFatent := by
      rw [BitVec.le_def] at refused
      rw [BitVec.lt_def]
      omega
    have bound := entry_inside vol.layout clst inside
    cases type : vol.layout.fsType with
    | fat12 =>
        simp only [type] at bound
        refine on_ok_steady steady vol (vol.layout.fatSector (bc12 clst)) _ _ before (offset_first _ _ (by omega))
          fun first same kept => ?_
        refine on_ok_steady steady first (first.layout.fatSector (bc12 clst + 1)) _ _ kept
          (offset_first _ _ (by rw [same.layout]; exact bound)) fun second _ done => done
    | fat16 =>
        simp only [type] at bound
        unfold getFat16
        rw [sector16]
        exact on_ok_steady steady vol _ _ _ before (offset_first _ _ (by omega)) fun after _ kept => kept
    | fat32 =>
        simp only [type] at bound
        unfold getFat32
        rw [sector32]
        exact on_ok_steady steady vol _ _ _ before (offset_first _ _ (by omega)) fun after _ kept => kept

theorem put_fat_steady (steady : Steady faults keeps) (vol : Volume) (clst val : BitVec 32) (before : keeps vol) :
    keeps (putFat faults vol clst val).1 := by
  unfold putFat
  by_cases valid : 2 ≤ clst ∧ clst < vol.layout.nFatent
  · rw [if_pos valid]
    have bound := entry_inside vol.layout clst valid.2
    cases type : vol.layout.fsType with
    | fat12 =>
        simp only [type] at bound
        refine on_ok_steady steady vol (vol.layout.fatSector (bc12 clst)) _ _ before (offset_first _ _ (by omega))
          fun first same kept => ?_
        exact on_ok_steady steady _ (first.layout.fatSector (bc12 clst + 1)) _ _ (steady.pokes first _ _ kept)
          (offset_first first.layout _ (by rw [same.layout]; exact bound)) fun second _ done => steady.pokes second _ _ done
    | fat16 =>
        simp only [type] at bound
        unfold putFat16
        rw [sector16]
        exact on_ok_steady steady vol _ _ _ before (offset_first _ _ (by omega))
          fun after _ kept => steady.pokes _ _ _ (steady.pokes _ _ _ kept)
    | fat32 =>
        simp only [type] at bound
        unfold putFat32
        rw [sector32]
        exact on_ok_steady steady vol _ _ _ before (offset_first _ _ (by omega))
          fun after _ kept => steady.pokes _ _ _ (steady.pokes _ _ _ (steady.pokes _ _ _ (steady.pokes _ _ _ kept)))
  · rw [if_neg valid]
    exact before

end Steady

-- A sector of the FAT is the same in both copies.
def Disk.copies (layout : Layout) (disk : Disk) (sect : Lba) : Prop := disk.sectors (sect + layout.fsize) = disk.sectors sect

-- Both copies are the same, but for the sector that waits in the window.
structure Copied (layout : Layout) (vol : Volume) : Prop where
  mounted : vol.layout = layout
  held : vol.Held
  away : ¬ layout.inSecond vol.winsect
  copies : ∀ sect, layout.inFirst sect → (vol.wflag = true → sect ≠ vol.winsect) → vol.disk.copies layout sect

theorem mirror_second (layout : Layout) (two : layout.nFats = 2) (sect : Lba) (first : layout.inFirst sect) :
    layout.inSecond (sect + layout.fsize) := by
  refine ⟨two, ?_⟩
  rw [BitVec.add_sub_cancel]
  exact first

theorem write_copies (faults : Faults) (layout : Layout) (two : layout.nFats = 2) (disk : Disk) (buff : Sector) (place sect : Lba)
    (first : layout.inFirst sect) (away : ¬ layout.inSecond place) (different : sect ≠ place) (before : disk.copies layout sect) :
    (diskWrite faults disk buff place).1.copies layout sect := by
  have second : sect + layout.fsize ≠ place := fun here => away (here ▸ mirror_second layout two sect first)
  rw [Disk.copies, write_elsewhere faults disk buff place _ second, write_elsewhere faults disk buff place _ different]
  exact before

theorem write_done (faults : Faults) (disk : Disk) (buff : Sector) (sect : Lba) (fine : faults disk.ops sect = none) :
    diskWrite faults disk buff sect = (⟨Function.update disk.sectors sect buff, disk.ops + 1⟩, true) := by
  rw [diskWrite, fine]

theorem write_lost (faults : Faults) (disk : Disk) (buff left : Sector) (sect : Lba) (lost : faults disk.ops sect = some left) :
    diskWrite faults disk buff sect = (⟨Function.update disk.sectors sect left, disk.ops + 1⟩, false) := by
  rw [diskWrite, lost]

theorem fill_copies (faults : Faults) (layout : Layout) (vol : Volume) (sect : Lba) (copied : Copied layout vol)
    (clean : vol.wflag = false) (away : ¬ layout.inSecond sect) : Copied layout (fillWindow faults vol sect).1 := by
  obtain ⟨same, held, _⟩ := fill_window faults vol sect copied.held clean
  have copies (other : Lba) (first : layout.inFirst other) : vol.disk.copies layout other :=
    copied.copies other first fun dirty => by rw [clean] at dirty; exact absurd dirty Bool.false_ne_true
  unfold fillWindow diskRead at same held ⊢
  cases fault : faults vol.disk.ops sect with
  | none =>
      rw [fault] at same held
      exact ⟨copied.mounted, held, away, fun other first _ => copies other first⟩
  | some left =>
      rw [fault] at same held
      exact ⟨copied.mounted, held, (invalid_outside layout).2, fun other first _ => copies other first⟩

theorem poke_copies (layout : Layout) (vol : Volume) (place : Nat) (value : Byte) (copied : Copied layout vol) :
    Copied layout (vol.poke place value) :=
  ⟨copied.mounted, (fun clean => by cases clean), copied.away,
    fun sect first waits => copied.copies sect first fun _ => waits rfl⟩

-- A window put elsewhere by a clean volume, and sectors written outside the FATs.
theorem outside_copies (layout : Layout) (two : layout.nFats = 2) (vol after : Volume) (copied : Copied layout vol)
    (clean : vol.wflag = false) (mounted : after.layout = layout) (held : after.Held) (away : ¬ layout.inSecond after.winsect)
    (sectors : ∀ sect, layout.inFirst sect ∨ layout.inSecond sect → after.disk.sectors sect = vol.disk.sectors sect) :
    Copied layout after := by
  refine ⟨mounted, held, away, fun sect first _ => ?_⟩
  have before := copied.copies sect first fun dirty => by rw [clean] at dirty; exact absurd dirty Bool.false_ne_true
  rw [Disk.copies, sectors sect (.inl first), sectors _ (.inr (mirror_second layout two sect first))]
  exact before

theorem outside_ne (layout : Layout) (sect other : Lba) (away : layout.outside sect)
    (inside : layout.inFirst other ∨ layout.inSecond other) : other ≠ sect := by
  rintro rfl
  exact inside.elim away.1 away.2

section Copies

variable (faults : Faults) (layout : Layout) (two : layout.nFats = 2)
  (quiet : ∀ transfer sect, layout.inSecond sect → faults transfer sect = none)

include two quiet

theorem reflect_copies (vol : Volume) (mounted : vol.layout = layout) (sect : Lba) (first : layout.inFirst sect)
    (others : sect ≠ vol.winsect → vol.disk.copies layout sect) (here : vol.disk.sectors vol.winsect = vol.win) :
    (reflect faults vol).copies layout sect := by
  unfold reflect
  rw [mounted]
  by_cases window : layout.inFirst vol.winsect ∧ layout.nFats = 2
  · rw [if_pos window]
    have fault := quiet vol.disk.ops _ (mirror_second layout two vol.winsect window.1)
    rw [write_done faults _ _ _ fault, Disk.copies]
    dsimp only
    by_cases same : sect = vol.winsect
    · rw [same, Function.update_self, Function.update_of_ne (mirror_apart layout two vol.winsect vol.winsect window.1 window.1)]
      exact here.symm
    · have shifted : sect + layout.fsize ≠ vol.winsect + layout.fsize := fun equal => same ((BitVec.add_left_inj layout.fsize).mp equal)
      rw [Function.update_of_ne shifted, Function.update_of_ne (mirror_apart layout two vol.winsect sect window.1 first)]
      exact others same
  · rw [if_neg window]
    exact others fun same => window ⟨same ▸ first, two⟩

theorem sync_copies (vol : Volume) (copied : Copied layout vol) : Copied layout (syncWindow faults vol).1 := by
  obtain ⟨same, winsect, _, held, _⟩ := sync_window faults vol copied.held
  refine ⟨same.layout.trans copied.mounted, held, by rw [winsect]; exact copied.away, fun sect first waits => ?_⟩
  rw [winsect] at waits
  cases dirty : vol.wflag with
  | false =>
      have ends : syncWindow faults vol = (vol, .ok) := by rw [syncWindow, dirty, if_neg Bool.false_ne_true]
      rw [ends]
      exact copied.copies sect first fun wet => by rw [dirty] at wet; exact absurd wet Bool.false_ne_true
  | true =>
      have others (different : sect ≠ vol.winsect) :=
        write_copies faults layout two vol.disk vol.win vol.winsect sect first copied.away different
          (copied.copies sect first fun _ => different)
      cases fault : faults vol.disk.ops vol.winsect with
      | none =>
          have stored := write_done faults vol.disk vol.win vol.winsect fault
          obtain ⟨written, writtenIs⟩ : ∃ written : Volume, written = { vol with
            disk := ⟨Function.update vol.disk.sectors vol.winsect vol.win, vol.disk.ops + 1⟩ } := ⟨_, rfl⟩
          have ends : (syncWindow faults vol).1.disk = reflect faults written := by
            rw [syncWindow, if_pos dirty, stored, writtenIs]
          rw [stored] at others
          rw [ends]
          exact reflect_copies faults layout two quiet written (by rw [writtenIs]; exact copied.mounted) sect first
            (by rw [writtenIs]; exact others) (by rw [writtenIs]; exact Function.update_self _ _ _)
      | some left =>
          have stored := write_lost faults vol.disk vol.win left vol.winsect fault
          rw [stored] at others
          have ends : (syncWindow faults vol).1 = { vol with
              disk := ⟨Function.update vol.disk.sectors vol.winsect left, vol.disk.ops + 1⟩ } := by
            rw [syncWindow, if_pos dirty, stored]
          rw [ends] at waits ⊢
          exact others (waits dirty)

theorem move_copies (vol : Volume) (sect : Lba) (copied : Copied layout vol) (away : ¬ layout.inSecond sect) :
    Copied layout (moveWindow faults vol sect).1 := by
  have synced := sync_copies faults layout two quiet vol copied
  obtain ⟨_, _, _, _, outcome⟩ := sync_window faults vol copied.held
  unfold moveWindow
  by_cases here : sect = vol.winsect
  · rw [if_neg (not_not_intro here)]
    exact copied
  · rw [if_pos here]
    rcases outcome with ⟨ok, clean⟩ | ⟨err, _⟩
    · rw [if_pos ok]
      exact fill_copies faults layout _ sect synced clean away
    · rw [if_neg (by rw [err]; exact FResult.noConfusion)]
      exact synced

theorem copied_steady : Steady faults (Copied layout) where
  held := fun _ copied => copied.held
  moves := fun vol sect copied first =>
    move_copies faults layout two quiet vol sect copied (first_not_second layout sect (copied.mounted ▸ first))
  pokes := fun vol place value copied => poke_copies layout vol place value copied

theorem edit_copies (vol : Volume) (sect : Lba) (bytes : List (Nat × Byte)) (copied : Copied layout vol)
    (away : ¬ layout.inSecond sect) : Copied layout (edit faults vol sect bytes).1 := by
  have moved := move_copies faults layout two quiet vol sect copied away
  have edited : ∀ start : Volume, Copied layout start → Copied layout (start.pokes bytes) := by
    induction bytes with
    | nil => exact fun start kept => kept
    | cons byte rest ih => exact fun start kept => ih _ (poke_copies layout start byte.1 byte.2 kept)
  unfold edit onOk
  by_cases ok : (moveWindow faults vol sect).2 = .ok
  · rw [if_pos ok]
    exact edited _ moved
  · rw [if_neg ok]
    exact moved

theorem on_ok_sync_copies {α : Type} (vol : Volume) (next : Volume → Volume × α) (failed : FResult → α)
    (copied : Copied layout vol)
    (synced : ∀ after, Copied layout after → after.wflag = false → Copied layout (next after).1) :
    Copied layout (onOk (syncWindow faults vol) next failed).1 := by
  have before := sync_copies faults layout two quiet vol copied
  obtain ⟨_, _, _, _, outcome⟩ := sync_window faults vol copied.held
  unfold onOk
  rcases outcome with ⟨ok, clean⟩ | ⟨err, _⟩
  · rw [if_pos ok]
    exact synced _ before clean
  · rw [if_neg (by rw [err]; exact FResult.noConfusion)]
    exact before

theorem dir_clear_copies (vol : Volume) (clst : BitVec 32) (copied : Copied layout vol) (valid : layout.valid clst) :
    Copied layout (dirClear faults vol clst).1 := by
  refine on_ok_sync_copies faults layout two quiet vol _ _ copied fun after kept clean => ?_
  have away (n : Nat) (within : n < layout.csize) := cluster_outside layout clst n valid within
  have start := away 0 layout.sized
  rw [BitVec.add_zero] at start
  rw [kept.mounted]
  refine outside_copies layout two after _ kept clean rfl (fun _ first => absurd first start.1) start.2 ?_
  exact fun other inside => clear_sectors_kept faults _ other layout.csize 0 after.disk fun more _ below =>
    outside_ne layout _ other (away more (by omega)) inside

theorem sync_fs_copies (control : Bool) (vol : Volume) (copied : Copied layout vol)
    (info : layout.fsType = .fat32 → layout.hasInfo) : Copied layout (syncFs faults control vol).1 := by
  refine on_ok_sync_copies faults layout two quiet vol _ _ copied fun after kept clean => ?_
  unfold writeInfo
  rw [kept.mounted]
  by_cases due : layout.fsType = .fat32 ∧ after.fsiFlag = 1
  · rw [if_pos due]
    have away := info_outside layout (info due.1)
    refine outside_copies layout two after _ kept clean rfl (fun _ first => absurd first away.1) away.2 ?_
    exact fun other inside => write_elsewhere faults after.disk _ _ other (outside_ne layout _ other away inside)
  · rw [if_neg due]
    exact kept

theorem serve_copies (vol : Volume) (request : Request) (copied : Copied layout vol)
    (info : layout.fsType = .fat32 → layout.hasInfo) (fits : request.Fits layout) :
    Copied layout (serve faults vol request).1 := by
  have steady := copied_steady faults layout two quiet
  cases request with
  | getFat clst => exact get_fat_steady steady vol clst copied
  | putFat clst val => exact put_fat_steady steady vol clst val copied
  | edit sect bytes => exact edit_copies faults layout two quiet vol sect bytes copied fits.2
  | clear clst => exact dir_clear_copies faults layout two quiet vol clst copied fits
  | load sect =>
      have leaves := load_leaves faults vol sect copied.held
      refine ⟨copied.mounted, leaves.held, copied.away, fun other first waits => ?_⟩
      have before := copied.copies other first waits
      unfold Disk.copies at before ⊢
      rw [serve, read_sectors faults vol.disk sect]
      exact before
  | store sect buff =>
      have leaves := store_leaves faults vol sect buff copied.held (by rw [copied.mounted]; exact fits.1)
      refine ⟨copied.mounted, leaves.held, copied.away, fun other first waits => ?_⟩
      exact write_copies faults layout two vol.disk buff sect other first fits.2
        (outside_ne layout sect other fits (.inl first)) (copied.copies other first waits)
  | sync control => exact sync_fs_copies faults layout two quiet control vol copied info

theorem serve_all_copies (requests : List Request) (info : layout.fsType = .fat32 → layout.hasInfo)
    (fits : ∀ request, request ∈ requests → request.Fits layout) (vol : Volume) (copied : Copied layout vol) :
    Copied layout (serveAll faults vol requests).1 := by
  induction requests generalizing vol with
  | nil => exact copied
  | cons request rest ih =>
      exact ih (fun other mem => fits other (List.mem_cons_of_mem _ mem)) _
        (serve_copies faults layout two quiet vol request copied info (fits request List.mem_cons_self))

-- As long as no transfer to the second FAT fails, it is the first one again
-- after every successful sync, whatever else failed before.
theorem fat_copies_agree (requests : List Request) (info : layout.fsType = .fat32 → layout.hasInfo)
    (fits : ∀ request, request ∈ requests → request.Fits layout) (vol : Volume) (copied : Copied layout vol)
    (ok : (syncFs faults true (serveAll faults vol requests).1).2 = .ok) (sect : Lba) (first : layout.inFirst sect) :
    (syncFs faults true (serveAll faults vol requests).1).1.disk.sectors (sect + layout.fsize) =
      (syncFs faults true (serveAll faults vol requests).1).1.disk.sectors sect := by
  have served := serve_all_copies faults layout two quiet requests info fits vol copied
  have synced := sync_fs_copies faults layout two quiet true _ served info
  obtain ⟨_, answer⟩ := sync_fs faults true _ served.held (by rw [served.mounted]; exact info)
  rcases answer with ⟨_, clean⟩ | err
  · exact synced.copies sect first fun dirty => by rw [clean] at dirty; exact absurd dirty Bool.false_ne_true
  · rw [ok] at err
    exact FResult.noConfusion err

end Copies

theorem small_first (sect : Lba) (first : smallLayout.inFirst sect) : sect = 1 := by
  have near : sect - 1 < (1 : BitVec 32) := first
  bv_omega

theorem small_copies (sect : Lba) (first : smallLayout.inFirst sect)
    (_ : smallVolume.wflag = true → sect ≠ smallVolume.winsect) : smallVolume.disk.copies smallLayout sect := by
  rw [small_first sect first]
  rfl

theorem fat_copies_agree_small :
    (syncFs noFaults true (serveAll noFaults smallVolume [.putFat 2 0xFFFFFFFF]).1).1.disk.sectors (1 + 1) =
      (syncFs noFaults true (serveAll noFaults smallVolume [.putFat 2 0xFFFFFFFF]).1).1.disk.sectors 1 :=
  fat_copies_agree noFaults smallLayout rfl (fun _ _ _ => rfl) [.putFat 2 0xFFFFFFFF]
    (fun other => FsType.noConfusion other) (fun request member => by rw [List.mem_singleton.mp member]; trivial)
    smallVolume ⟨rfl, small_held, by decide, small_copies⟩ (by decide +kernel) 1 (by decide)

end Miso.FatFs
