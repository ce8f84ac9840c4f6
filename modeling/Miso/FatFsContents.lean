import Miso.FatFsCopies
import Miso.FatFsMount

set_option autoImplicit false

namespace Miso.FatFs

theorem entry_start (layout : Layout) (index : Nat) (wide : layout.fsType ≠ .fat12) (inside : index < layout.nFatent.toNat) :
    index * layout.fsType.width < ss * layout.fsize.toNat := by
  have fits := layout.fits
  cases type : layout.fsType with
  | fat12 => exact absurd type wide
  | fat16 =>
      simp only [type, FsType.needed, FsType.width, ss] at fits ⊢
      omega
  | fat32 =>
      simp only [type, FsType.needed, FsType.width, ss] at fits ⊢
      omega

section Chains

variable {faults : Faults} {keeps : Volume → Prop} (steady : Steady faults keeps)
  (counts : ∀ vol freeClst lastClst fsiFlag, keeps vol →
    keeps { vol with freeClst := freeClst, lastClst := lastClst, fsiFlag := fsiFlag })

section Counts

include counts

theorem noted_freed_steady (vol : Volume) (before : keeps vol) : keeps vol.noteFreed := by
  unfold Volume.noteFreed
  by_cases less : vol.freeClst < vol.layout.nFatent - 2
  · rw [if_pos less]
    exact counts vol (vol.freeClst + 1) vol.lastClst (vol.fsiFlag ||| 1) before
  · rw [if_neg less]
    exact before

theorem noted_used_steady (vol : Volume) (ncl : BitVec 32) (before : keeps vol) : keeps (vol.noteUsed ncl) :=
  counts vol _ ncl _ before

end Counts

include steady

theorem find_free_steady (scl : BitVec 32) (fuel : Nat) (last : BitVec 32) (vol : Volume)
    (answer : Volume × Except (BitVec 32) (BitVec 32)) (before : keeps vol)
    (ran : findFree faults scl fuel last vol = some answer) : keeps answer.1 := by
  induction fuel generalizing last vol with
  | zero => cases ran
  | succ fuel ih =>
      have got := get_fat_steady steady vol (vol.layout.following last) before
      unfold findFree at ran
      dsimp only at ran
      split at ran
      · rw [← Option.some.inj ran]
        exact before
      · split at ran
        · rw [← Option.some.inj ran]
          exact got
        · split at ran
          · rw [← Option.some.inj ran]
            exact got
          · split at ran
            · rw [← Option.some.inj ran]
              exact got
            · exact ih _ _ got ran

theorem link_cluster_steady (vol : Volume) (clst ncl : BitVec 32) (before : keeps vol) :
    keeps (linkCluster faults vol clst ncl).1 := by
  have marked := put_fat_steady steady vol ncl 0xFFFFFFFF before
  unfold linkCluster
  dsimp only
  split
  · exact put_fat_steady steady _ clst ncl marked
  · exact marked

theorem scan_links_steady (left : Nat) (clst nfree : BitVec 32) (vol : Volume) (before : keeps vol) :
    keeps (scanLinks faults left clst nfree vol).1 := by
  induction left generalizing clst nfree vol with
  | zero => exact before
  | succ left ih =>
      have got := get_fat_steady steady vol clst before
      unfold scanLinks
      dsimp only
      split
      · exact got
      · split
        · exact got
        · exact ih _ _ _ got

theorem scan_sectors_steady (left index : Nat) (sect : Lba) (nfree : BitVec 32) (vol : Volume) (before : keeps vol)
    (wide : vol.layout.fsType ≠ .fat12) (entries : index + left = vol.layout.nFatent.toNat)
    (first : index * vol.layout.fsType.width % ss = 0 → sect = vol.layout.fatSector (index * vol.layout.fsType.width))
    (later : index * vol.layout.fsType.width % ss ≠ 0 →
      sect = vol.layout.fatSector (index * vol.layout.fsType.width) + 1) :
    keeps (scanSectors faults left sect (index * vol.layout.fsType.width % ss) nfree vol).1 := by
  induction left generalizing index sect nfree vol with
  | zero => exact before
  | succ left ih =>
      obtain ⟨moved, movedIs⟩ : ∃ moved,
          (if index * vol.layout.fsType.width % ss = 0 then moveWindow faults vol sect else (vol, .ok)) = moved := ⟨_, rfl⟩
      have kept : keeps moved.1 ∧ moved.1.layout = vol.layout := by
        rw [← movedIs]
        by_cases start : index * vol.layout.fsType.width % ss = 0
        · rw [if_pos start]
          have inside : vol.layout.inFirst sect := by
            rw [first start]
            exact offset_first vol.layout _ (entry_start vol.layout index wide (by omega))
          exact ⟨steady.moves vol sect before inside, (move_window faults vol sect (steady.held vol before)).1.layout⟩
        · rw [if_neg start]
          exact ⟨before, rfl⟩
      have further : (if index * vol.layout.fsType.width % ss = 0 then sect + 1 else sect) =
          vol.layout.fatSector (index * vol.layout.fsType.width) + 1 := by
        by_cases start : index * vol.layout.fsType.width % ss = 0
        · rw [if_pos start, first start]
        · rw [if_neg start]
          exact later start
      obtain ⟨offset, ends, goes⟩ := next_entry vol.layout index wide
      unfold scanSectors
      rw [movedIs, further]
      dsimp only
      split
      · rw [offset, ← kept.2]
        refine ih (index + 1) _ _ moved.1 kept.1 (by rw [kept.2]; exact wide) (by rw [kept.2]; omega) ?_ ?_
        · rw [kept.2]
          exact fun start => (ends start).symm
        · rw [kept.2]
          exact fun more => by rw [goes more]
      · exact kept.1

include counts

theorem remove_links_steady (fuel : Nat) (clst : BitVec 32) (vol : Volume) (answer : Volume × FResult) (before : keeps vol)
    (ran : removeLinks faults fuel clst vol = some answer) : keeps answer.1 := by
  induction fuel generalizing clst vol with
  | zero => cases ran
  | succ fuel ih =>
      have got := get_fat_steady steady vol clst before
      have put := put_fat_steady steady (getFat faults vol clst).1 clst 0 got
      have freed := noted_freed_steady counts _ put
      unfold removeLinks at ran
      dsimp only at ran
      split at ran
      · rw [← Option.some.inj ran]
        exact got
      · split at ran
        · rw [← Option.some.inj ran]
          exact got
        · split at ran
          · rw [← Option.some.inj ran]
            exact got
          · split at ran
            · split at ran
              · exact ih _ _ freed ran
              · rw [← Option.some.inj ran]
                exact freed
            · rw [← Option.some.inj ran]
              exact put

theorem remove_chain_steady (vol : Volume) (clst pclst : BitVec 32) (answer : Volume × FResult) (before : keeps vol)
    (ran : removeChain faults vol clst pclst = some answer) : keeps answer.1 := by
  have put := put_fat_steady steady vol pclst 0xFFFFFFFF before
  unfold removeChain at ran
  dsimp only at ran
  split at ran
  · rw [← Option.some.inj ran]
    exact before
  · split at ran
    · exact remove_links_steady steady counts _ clst vol answer before ran
    · split at ran
      · exact remove_links_steady steady counts _ clst _ answer put ran
      · rw [← Option.some.inj ran]
        exact put

theorem add_cluster_steady (vol : Volume) (clst ncl : BitVec 32) (before : keeps vol) :
    keeps (addCluster faults vol clst ncl).1 := by
  have linked := link_cluster_steady steady vol clst ncl before
  unfold addCluster
  dsimp only
  split
  · exact noted_used_steady counts _ ncl linked
  · exact linked

theorem search_cluster_steady (vol : Volume) (clst scl : BitVec 32) (answer : Volume × BitVec 32) (before : keeps vol)
    (ran : searchCluster faults vol clst scl = some answer) : keeps answer.1 := by
  obtain ⟨⟨after, res⟩, search, rfl⟩ := Option.map_eq_some_iff.mp ran
  have found := find_free_steady steady scl _ scl vol (after, res) before search
  cases res with
  | ok ncl => exact add_cluster_steady steady counts after clst ncl found
  | error val => exact found

theorem place_cluster_steady (vol : Volume) (clst scl : BitVec 32) (answer : Volume × BitVec 32) (before : keeps vol)
    (ran : placeCluster faults vol clst scl = some answer) : keeps answer.1 := by
  have got := get_fat_steady steady vol (vol.layout.following scl) before
  unfold placeCluster at ran
  dsimp only at ran
  split at ran
  · rw [← Option.some.inj ran]
    exact before
  · split at ran
    · split at ran
      · rw [← Option.some.inj ran]
        exact got
      · split at ran
        · rw [← Option.some.inj ran]
          exact add_cluster_steady steady counts _ clst _ got
        · exact search_cluster_steady steady counts _ clst _ answer got ran
    · exact search_cluster_steady steady counts vol clst scl answer before ran

theorem create_chain_steady (vol : Volume) (clst : BitVec 32) (answer : Volume × BitVec 32) (before : keeps vol)
    (ran : createChain faults vol clst = some answer) : keeps answer.1 := by
  have got := get_fat_steady steady vol clst before
  unfold createChain at ran
  dsimp only at ran
  split at ran
  · exact place_cluster_steady steady counts vol 0 _ answer before ran
  · split at ran
    · rw [← Option.some.inj ran]
      exact got
    · split at ran
      · rw [← Option.some.inj ran]
        exact got
      · split at ran
        · rw [← Option.some.inj ran]
          exact got
        · exact place_cluster_steady steady counts _ clst clst answer got ran

theorem get_free_steady (vol : Volume) (before : keeps vol) : keeps (getFree faults vol).1 := by
  have scanned : keeps (scanFree faults vol).1 := by
    unfold scanFree
    by_cases twelve : vol.layout.fsType = .fat12
    · rw [if_pos twelve]
      exact scan_links_steady steady _ 2 0 vol before
    · rw [if_neg twelve]
      have start := scan_sectors_steady steady vol.layout.nFatent.toNat 0 vol.layout.fatbase 0 vol before twelve (Nat.zero_add _)
      rw [Nat.zero_mul, Nat.zero_mod] at start
      exact start (fun _ => (BitVec.add_zero _).symm) fun more => absurd rfl more
  unfold getFree
  by_cases known : vol.freeClst ≤ vol.layout.nFatent - 2
  · rw [if_pos known]
    exact before
  · rw [if_neg known]
    obtain ⟨after, afterIs⟩ : ∃ after, scanFree faults vol = after := ⟨_, rfl⟩
    rw [afterIs] at scanned ⊢
    obtain ⟨after, res⟩ := after
    cases res with
    | ok nfree => exact counts after nfree after.lastClst _ scanned
    | error res => exact scanned

end Chains

-- A sector outside the FATs, as it is on the medium, with the window elsewhere.
structure Spared (layout : Layout) (sect : Lba) (data : Sector) (vol : Volume) : Prop where
  mounted : vol.layout = layout
  held : vol.Held
  away : vol.winsect ≠ sect
  kept : vol.disk.sectors sect = data

def Request.Spares (layout : Layout) (sect : Lba) : Request → Prop
  | .edit other _ => other ≠ sect
  | .store other _ => other ≠ sect
  | .clear clst => ∀ n, n < layout.csize → clst2sect layout clst + BitVec.ofNat 32 n ≠ sect
  | .getFat _ => True
  | .putFat _ _ => True
  | .load _ => True
  | .sync _ => True

section Spared

variable (faults : Faults) (layout : Layout) (sect : Lba) (data : Sector)

theorem poke_spared (vol : Volume) (place : Nat) (value : Byte) (spared : Spared layout sect data vol) :
    Spared layout sect data (vol.poke place value) :=
  ⟨spared.mounted, (fun clean => by cases clean), spared.away, spared.kept⟩

theorem pokes_spared (bytes : List (Nat × Byte)) (vol : Volume) (spared : Spared layout sect data vol) :
    Spared layout sect data (vol.pokes bytes) := by
  induction bytes generalizing vol with
  | nil => exact spared
  | cons byte rest ih => exact ih _ (poke_spared layout sect data vol byte.1 byte.2 spared)

theorem fill_spared (vol : Volume) (other : Lba) (spared : Spared layout sect data vol) (clean : vol.wflag = false)
    (real : sect ≠ 0xFFFFFFFF) (different : other ≠ sect) :
    Spared layout sect data (fillWindow faults vol other).1 := by
  obtain ⟨_, held, _⟩ := fill_window faults vol other spared.held clean
  unfold fillWindow diskRead at held ⊢
  cases fault : faults vol.disk.ops other with
  | none =>
      rw [fault] at held
      exact ⟨spared.mounted, held, different, spared.kept⟩
  | some left =>
      rw [fault] at held
      exact ⟨spared.mounted, held, real.symm, spared.kept⟩

variable (outside : layout.outside sect) (real : sect ≠ 0xFFFFFFFF)

include outside

theorem reflect_spared (vol : Volume) (mounted : vol.layout = layout) :
    (reflect faults vol).sectors sect = vol.disk.sectors sect := by
  unfold reflect
  by_cases window : vol.layout.inFirst vol.winsect ∧ vol.layout.nFats = 2
  · rw [if_pos window]
    refine write_elsewhere faults vol.disk vol.win _ sect fun here => outside.2 ?_
    rw [here, ← mounted]
    exact mirror_second vol.layout window.2 vol.winsect window.1
  · rw [if_neg window]

theorem sync_spared (vol : Volume) (spared : Spared layout sect data vol) :
    Spared layout sect data (syncWindow faults vol).1 := by
  obtain ⟨same, winsect, _, held, _⟩ := sync_window faults vol spared.held
  refine ⟨same.layout.trans spared.mounted, held, by rw [winsect]; exact spared.away, ?_⟩
  cases dirty : vol.wflag with
  | false =>
      rw [syncWindow, dirty, if_neg Bool.false_ne_true]
      exact spared.kept
  | true =>
      have other := write_elsewhere faults vol.disk vol.win vol.winsect sect spared.away.symm
      obtain ⟨⟨disk, done⟩, written⟩ : ∃ answer, diskWrite faults vol.disk vol.win vol.winsect = answer := ⟨_, rfl⟩
      rw [written] at other
      rw [syncWindow, if_pos dirty, written]
      cases done with
      | true =>
          have mirrored := reflect_spared faults layout sect outside { vol with disk := disk } spared.mounted
          exact mirrored.trans (other.trans spared.kept)
      | false => exact other.trans spared.kept

theorem on_ok_sync_spared {α : Type} (vol : Volume) (next : Volume → Volume × α) (failed : FResult → α)
    (spared : Spared layout sect data vol)
    (synced : ∀ after, Spared layout sect data after → after.wflag = false → Spared layout sect data (next after).1) :
    Spared layout sect data (onOk (syncWindow faults vol) next failed).1 := by
  have before := sync_spared faults layout sect data outside vol spared
  obtain ⟨_, _, _, _, outcome⟩ := sync_window faults vol spared.held
  unfold onOk
  rcases outcome with ⟨ok, clean⟩ | ⟨err, _⟩
  · rw [if_pos ok]
    exact synced _ before clean
  · rw [if_neg (ok_or _ err)]
    exact before

theorem dir_clear_spared (vol : Volume) (clst : BitVec 32) (spared : Spared layout sect data vol) (valid : layout.valid clst)
    (others : ∀ n, n < layout.csize → clst2sect layout clst + BitVec.ofNat 32 n ≠ sect) :
    Spared layout sect data (dirClear faults vol clst).1 := by
  refine on_ok_sync_spared faults layout sect data outside vol _ _ spared fun after kept clean => ?_
  have start := others 0 layout.sized
  rw [BitVec.add_zero] at start
  have leaves := (cluster_outside layout clst 0 valid layout.sized).1
  rw [BitVec.add_zero] at leaves
  rw [kept.mounted]
  refine ⟨rfl, fun _ first => absurd first leaves, start, ?_⟩
  refine (clear_sectors_kept faults _ sect layout.csize 0 after.disk fun more _ below => ?_).trans kept.kept
  exact (others more (by omega)).symm

theorem sync_fs_spared (control : Bool) (vol : Volume) (spared : Spared layout sect data vol)
    (info : layout.fsType = .fat32 → layout.hasInfo) (other : layout.volbase + 1 ≠ sect) :
    Spared layout sect data (syncFs faults control vol).1 := by
  refine on_ok_sync_spared faults layout sect data outside vol _ _ spared fun after kept clean => ?_
  unfold writeInfo
  by_cases due : after.layout.fsType = .fat32 ∧ after.fsiFlag = 1
  · rw [if_pos due, kept.mounted]
    rw [kept.mounted] at due
    have leaves := (info_outside layout (info due.1)).1
    refine ⟨rfl, fun _ first => absurd first leaves, other, ?_⟩
    exact (write_elsewhere faults after.disk _ _ sect other.symm).trans kept.kept
  · rw [if_neg due]
    exact kept

include real

theorem move_spared (vol : Volume) (other : Lba) (spared : Spared layout sect data vol) (different : other ≠ sect) :
    Spared layout sect data (moveWindow faults vol other).1 := by
  have synced := sync_spared faults layout sect data outside vol spared
  obtain ⟨_, _, _, _, outcome⟩ := sync_window faults vol spared.held
  unfold moveWindow
  by_cases here : other = vol.winsect
  · rw [if_neg (not_not_intro here)]
    exact spared
  · rw [if_pos here]
    rcases outcome with ⟨ok, clean⟩ | ⟨err, _⟩
    · rw [if_pos ok]
      exact fill_spared faults layout sect data _ other synced clean real different
    · rw [if_neg (ok_or _ err)]
      exact synced

theorem spared_steady : Steady faults (Spared layout sect data) where
  held := fun _ spared => spared.held
  moves := fun vol other spared first => move_spared faults layout sect data outside real vol other spared
    fun same => outside.1 (same ▸ (spared.mounted ▸ first : layout.inFirst other))
  pokes := fun vol place value spared => poke_spared layout sect data vol place value spared

theorem edit_spared (vol : Volume) (other : Lba) (bytes : List (Nat × Byte)) (spared : Spared layout sect data vol)
    (different : other ≠ sect) : Spared layout sect data (edit faults vol other bytes).1 := by
  have moved := move_spared faults layout sect data outside real vol other spared different
  unfold edit onOk
  by_cases ok : (moveWindow faults vol other).2 = .ok
  · rw [if_pos ok]
    exact pokes_spared layout sect data bytes _ moved
  · rw [if_neg ok]
    exact moved

theorem serve_spared (vol : Volume) (request : Request) (spared : Spared layout sect data vol)
    (info : layout.fsType = .fat32 → layout.hasInfo) (other : layout.volbase + 1 ≠ sect) (fits : request.Fits layout)
    (spares : request.Spares layout sect) : Spared layout sect data (serve faults vol request).1 := by
  have steady := spared_steady faults layout sect data outside real
  cases request with
  | getFat clst => exact get_fat_steady steady vol clst spared
  | putFat clst val => exact put_fat_steady steady vol clst val spared
  | edit place bytes => exact edit_spared faults layout sect data outside real vol place bytes spared spares
  | clear clst => exact dir_clear_spared faults layout sect data outside vol clst spared fits spares
  | load place =>
      have leaves := load_leaves faults vol place spared.held
      have read := read_sectors faults vol.disk place
      exact ⟨spared.mounted, leaves.held, spared.away, (congrFun read sect).trans spared.kept⟩
  | store place buff =>
      have leaves := store_leaves faults vol place buff spared.held (by rw [spared.mounted]; exact fits.1)
      exact ⟨spared.mounted, leaves.held, spared.away,
        (write_elsewhere faults vol.disk buff place sect (Ne.symm spares)).trans spared.kept⟩
  | sync control => exact sync_fs_spared faults layout sect data outside control vol spared info other

theorem step_spared (drive : Drive) (op : Op) (after : Drive) (spared : Spared layout sect data drive.vol)
    (info : layout.fsType = .fat32 → layout.hasInfo) (other : layout.volbase + 1 ≠ sect)
    (allowed : ∀ request, op = .other request → request.Fits layout ∧ request.Spares layout sect)
    (taken : step faults drive op = some after) : Spared layout sect data after.vol := by
  have steady := spared_steady faults layout sect data outside real
  have counts (vol : Volume) (freeClst lastClst : BitVec 32) (fsiFlag : BitVec 8) (before : Spared layout sect data vol) :
      Spared layout sect data { vol with freeClst := freeClst, lastClst := lastClst, fsiFlag := fsiFlag } :=
    ⟨before.mounted, before.held, before.away, before.kept⟩
  cases op with
  | create id =>
      dsimp only [step] at taken
      by_cases unnamed : drive.files id = []
      · rw [if_pos unnamed] at taken
        obtain ⟨made, ran, rfl⟩ := Option.map_eq_some_iff.mp taken
        exact create_chain_steady steady counts drive.vol 0 made spared ran
      · rw [if_neg unnamed] at taken
        cases taken
  | stretch id place =>
      obtain ⟨clst, _, rest⟩ := Option.bind_eq_some_iff.mp taken
      obtain ⟨made, ran, rfl⟩ := Option.map_eq_some_iff.mp rest
      exact create_chain_steady steady counts drive.vol clst made spared ran
  | truncate id place =>
      obtain ⟨clst, _, rest⟩ := Option.bind_eq_some_iff.mp taken
      obtain ⟨next, _, more⟩ := Option.bind_eq_some_iff.mp rest
      obtain ⟨cut, ran, rfl⟩ := Option.map_eq_some_iff.mp more
      exact remove_chain_steady steady counts drive.vol next clst cut spared ran
  | remove id =>
      obtain ⟨clst, _, rest⟩ := Option.bind_eq_some_iff.mp taken
      obtain ⟨gone, ran, rfl⟩ := Option.map_eq_some_iff.mp rest
      exact remove_chain_steady steady counts drive.vol clst 0 gone spared ran
  | getFree =>
      obtain rfl := Option.some.inj taken
      exact get_free_steady steady counts drive.vol spared
  | other request =>
      obtain rfl := Option.some.inj taken
      obtain ⟨fits, spares⟩ := allowed request rfl
      exact serve_spared faults layout sect data outside real drive.vol request spared info other fits spares

end Spared

-- Sectors before the clusters and sectors of other files.
def Elsewhere (layout : Layout) (files : Files) (id : Nat) (sect : Lba) : Prop :=
  sect.toNat < layout.database.toNat ∨ ∃ other clst n, other ≠ id ∧ clst ∈ files other ∧ n < layout.csize ∧
    sect = clst2sect layout clst + BitVec.ofNat 32 n

def Careful (layout : Layout) (files : Files) (id : Nat) : Op → Prop
  | .other (.edit sect _) => Elsewhere layout files id sect
  | .other (.store sect _) => Elsewhere layout files id sect
  | .other (.clear clst) => ∃ other, other ≠ id ∧ clst ∈ files other
  | _ => True

theorem cluster_real (layout : Layout) (clst : BitVec 32) (n : Nat) (valid : layout.valid clst) (within : n < layout.csize) :
    clst2sect layout clst + BitVec.ofNat 32 n ≠ 0xFFFFFFFF := by
  intro same
  have place := cluster_sector layout clst n valid within
  rw [same] at place
  have clusters := layout.clusters
  have low : 2 ≤ clst.toNat := BitVec.le_def.mp valid.1
  have high := BitVec.lt_def.mp valid.2
  have most : layout.csize * (clst.toNat - 2) + layout.csize ≤ layout.csize * (layout.nFatent.toNat - 2) := by
    rw [← Nat.mul_succ]
    exact Nat.mul_le_mul_left _ (by omega)
  have value : (0xFFFFFFFF : BitVec 32).toNat = 4294967295 := rfl
  omega

theorem info_apart (layout : Layout) (clst : BitVec 32) (n : Nat) (valid : layout.valid clst) (within : n < layout.csize) :
    layout.volbase + 1 ≠ clst2sect layout clst + BitVec.ofNat 32 n := by
  intro same
  have place := cluster_sector layout clst n valid within
  have before := layout.reserved
  have fats := layout.fats
  have whole := layout.clusters
  have one : (1 : BitVec 32).toNat = 1 := rfl
  have next : (layout.volbase + 1).toNat = layout.volbase.toNat + 1 := by
    rw [BitVec.toNat_add, one]
    exact Nat.mod_eq_of_lt (by omega)
  have copy : layout.fsize.toNat ≤ layout.nFats * layout.fsize.toNat := by
    rcases layout.copies with one | two
    · rw [one, Nat.one_mul]
    · rw [two]
      omega
  have fits := layout.fits
  have entries := layout.some_
  have some_ : 0 < layout.fsize.toNat := by
    unfold FsType.needed at fits
    split at fits
    · omega
    · omega
    · omega
  rw [← same, next] at place
  omega

theorem elsewhere_apart (layout : Layout) (table : BitVec 32 → BitVec 32) (files : Files) (laid : Laid layout table files) (id : Nat)
    (clst : BitVec 32) (n : Nat) (mine : clst ∈ files id) (within : n < layout.csize) (sect : Lba)
    (elsewhere : Elsewhere layout files id sect) : sect ≠ clst2sect layout clst + BitVec.ofNat 32 n := by
  have valid := (file_member layout table _ (laid.chains id) clst mine).1
  rintro rfl
  rcases elsewhere with before | ⟨other, clstOther, m, different, theirs, otherWithin, same⟩
  · rw [cluster_sector layout clst n valid within] at before
    omega
  · have otherValid := (file_member layout table _ (laid.chains other) clstOther theirs).1
    have one := (clusters_apart layout clst clstOther n m valid otherValid within otherWithin same).1
    exact different (laid.apart other id clstOther theirs (one ▸ mine))

theorem careful_spares (layout : Layout) (table : BitVec 32 → BitVec 32) (files : Files) (laid : Laid layout table files) (id : Nat)
    (clst : BitVec 32) (n : Nat) (mine : clst ∈ files id) (within : n < layout.csize) (request : Request)
    (careful : Careful layout files id (.other request)) :
    request.Spares layout (clst2sect layout clst + BitVec.ofNat 32 n) := by
  cases request with
  | edit sect bytes => exact elsewhere_apart layout table files laid id clst n mine within sect careful
  | store sect buff => exact elsewhere_apart layout table files laid id clst n mine within sect careful
  | clear cleared =>
      obtain ⟨other, different, theirs⟩ := careful
      exact fun m below => elsewhere_apart layout table files laid id clst n mine within _
        (.inr ⟨other, cleared, m, different, theirs, below, rfl⟩)
  | getFat clst => trivial
  | putFat clst val => trivial
  | load sect => trivial
  | sync control => trivial

theorem store_landed (faults : Faults) (vol : Volume) (sect : Lba) (buff : Sector)
    (ok : (serve faults vol (.store sect buff)).2 = .result .ok) :
    (serve faults vol (.store sect buff)).1.disk.sectors sect = buff := by
  rw [serve] at ok ⊢
  cases fault : faults vol.disk.ops sect with
  | none =>
      rw [write_done faults vol.disk buff sect fault]
      exact Function.update_self _ _ _
  | some left =>
      rw [write_lost faults vol.disk buff left sect fault] at ok
      cases ok

section Written

variable (faults : Faults) (layout : Layout) (firm : Firm faults layout) (info : layout.fsType = .fat32 → layout.hasInfo)
  (foreign : BitVec 32 → Prop) (initial written drive : Drive) (id : Nat) (clst : BitVec 32) (n : Nat) (buff : Sector)
  (stored : Stored faults layout foreign initial) (mine : clst ∈ initial.files id) (within : n < layout.csize)
  (away : initial.vol.winsect ≠ clst2sect layout clst + BitVec.ofNat 32 n)
  (wrote : step faults initial (.other (.store (clst2sect layout clst + BitVec.ofNat 32 n) buff)) = some written)
  (ok : (serve faults initial.vol (.store (clst2sect layout clst + BitVec.ofNat 32 n) buff)).2 = .result .ok)
  (reached : Base.Reach (step faults)
    (fun state op => Regular layout state op ∧ Careful layout state.files id op ∧ clst ∈ state.files id) written drive)

include firm info stored mine within away wrote ok reached

theorem written_spared : Spared layout (clst2sect layout clst + BitVec.ofNat 32 n) buff drive.vol := by
  have valid := (file_member layout initial.vol.table _ (stored.laid.chains id) clst mine).1
  have outside := cluster_outside layout clst n valid within
  have real := cluster_real layout clst n valid within
  have infoApart := info_apart layout clst n valid within
  obtain ⟨sect, sectIs⟩ : ∃ sect, clst2sect layout clst + BitVec.ofNat 32 n = sect := ⟨_, rfl⟩
  rw [sectIs] at outside real infoApart away wrote ok ⊢
  have regular : Regular layout initial (.other (.store sect buff)) := ⟨outside, fun _ _ same => Request.noConfusion same⟩
  have firstStored := step_stored faults layout foreign firm info initial _ written stored regular wrote
  have landed : written.vol.disk.sectors sect = buff := by
    obtain rfl := Option.some.inj wrote
    exact store_landed faults initial.vol sect buff ok
  have window : written.vol.winsect ≠ sect := by
    obtain rfl := Option.some.inj wrote
    exact away
  have kept := Base.reach_invariant (step faults) _ written
    (fun state => Stored faults layout foreign state ∧ Spared layout sect buff state.vol)
    ⟨firstStored, ⟨firstStored.mounted, firstStored.held, window, landed⟩⟩
    (fun state op after inv met taken => by
      obtain ⟨regular, careful, still⟩ := met
      refine ⟨step_stored faults layout foreign firm info state op after inv.1 regular taken,
        step_spared faults layout sect buff outside real state op after inv.2 info infoApart (fun request same => ?_) taken⟩
      rw [same] at regular careful
      have spares := careful_spares layout state.vol.table state.files inv.1.laid id clst n still within request careful
      rw [sectIs] at spares
      exact ⟨regular.1, spares⟩)
    drive reached
  exact kept.2

-- What a file's sector was written with is what is read of it later, as long
-- as the file has the cluster and nobody writes its sectors meanwhile.
theorem written_read_back :
    drive.vol.disk.sectors (clst2sect layout clst + BitVec.ofNat 32 n) = buff ∧
      ((diskRead faults drive.vol.disk (clst2sect layout clst + BitVec.ofNat 32 n)).2.2 = true →
        (diskRead faults drive.vol.disk (clst2sect layout clst + BitVec.ofNat 32 n)).2.1 = buff) := by
  have kept := (written_spared faults layout firm info foreign initial written drive id clst n buff stored mine within away wrote ok
    reached).kept
  exact ⟨kept, fun done => (read_buffer faults drive.vol.disk _ done).trans kept⟩

-- It is on the medium that the next mount finds, also where the sync failed.
theorem written_survives_mount (control : Bool) (later : Faults) (win : Sector) (mounted : Mounted)
    (mounts : mountVolume later (syncFs faults control drive.vol).1.disk win = .ok mounted) :
    mounted.disk.sectors (clst2sect layout clst + BitVec.ofNat 32 n) = buff := by
  have valid := (file_member layout initial.vol.table _ (stored.laid.chains id) clst mine).1
  have spared := written_spared faults layout firm info foreign initial written drive id clst n buff stored mine within away wrote ok
    reached
  have synced := sync_fs_spared faults layout _ buff (cluster_outside layout clst n valid within) control drive.vol spared info
    (info_apart layout clst n valid within)
  rw [(mount_volume later _ win mounted mounts).shows_.sectors]
  exact synced.kept

end Written

def sevens : Sector := fun _ => 7

def writtenTwo : Drive := stepped twoFiles (.other (.store (clst2sect smallLayout 2 + 0) sevens))

theorem two_files_stored : Stored noFaults smallLayout (fun _ => False) twoFiles :=
  reached_stored noFaults smallLayout (fun _ => False) (fun _ => quiet_none) (fun other => FsType.noConfusion other)
    emptyDrive small_stored twoFiles two_files_reached

theorem other_removed : Base.Reach (step noFaults)
    (fun state op => Regular smallLayout state op ∧ Careful smallLayout state.files 0 op ∧ 2 ∈ state.files 0) writtenTwo
    (stepped writtenTwo (.remove 1)) := by
  have removed := stepped_some writtenTwo (.remove 1) (by decide +kernel)
  have met : Regular smallLayout writtenTwo (.remove 1) ∧ Careful smallLayout writtenTwo.files 0 (.remove 1) ∧
      2 ∈ writtenTwo.files 0 := ⟨trivial, trivial, by decide +kernel⟩
  exact .next writtenTwo (.remove 1) _ .start met removed

theorem written_read_back_two_files :
    (diskRead noFaults (stepped writtenTwo (.remove 1)).vol.disk (clst2sect smallLayout 2 + 0)).2.1 = sevens :=
  (written_read_back noFaults smallLayout (fun _ => quiet_none) (fun other => FsType.noConfusion other) (fun _ => False)
    twoFiles writtenTwo (stepped writtenTwo (.remove 1)) 0 2 0 sevens two_files_stored (by decide +kernel) (by decide)
    (by decide +kernel) rfl rfl other_removed).2 (by decide +kernel)

theorem written_survives_mount_two_files : ∃ mounted,
    mountVolume noFaults (syncFs noFaults true (stepped writtenTwo (.remove 1)).vol).1.disk (fun _ => 0) = .ok mounted ∧
      mounted.disk.sectors (clst2sect smallLayout 2 + 0) = sevens := by
  obtain ⟨mounted, ran⟩ := mount_answers noFaults (syncFs noFaults true (stepped writtenTwo (.remove 1)).vol).1.disk
    (fun _ => 0) (by decide +kernel)
  exact ⟨mounted, ran, written_survives_mount noFaults smallLayout (fun _ => quiet_none)
    (fun other => FsType.noConfusion other) (fun _ => False) twoFiles writtenTwo (stepped writtenTwo (.remove 1)) 0 2 0
    sevens two_files_stored (by decide +kernel) (by decide) (by decide +kernel) rfl rfl other_removed true noFaults _ mounted ran⟩

end Miso.FatFs
