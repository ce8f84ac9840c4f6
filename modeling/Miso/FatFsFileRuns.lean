import Miso.FatFsFree

set_option autoImplicit false

namespace Miso.FatFs

abbrev Files := Nat → List (BitVec 32)

-- The clusters of each file follow each other in the table, and no cluster is
-- in two files.
structure Laid (layout : Layout) (table : BitVec 32 → BitVec 32) (files : Files) : Prop where
  chains : ∀ id, FileOf layout table (files id)
  apart : ∀ id other clst, clst ∈ files id → clst ∈ files other → id = other

section Laid

variable (layout : Layout) (before after : BitVec 32 → BitVec 32) (files : Files) (laid : Laid layout before files)

include laid

theorem laid_kept (agree : ∀ id clst, clst ∈ files id → after clst = before clst) : Laid layout after files :=
  ⟨fun id => file_kept layout before after (files id) (laid.chains id) (agree id), laid.apart⟩

theorem free_unused (clst : BitVec 32) (free : before clst = 0) (id : Nat) : clst ∉ files id := by
  intro member
  have used := (file_member layout before (files id) (laid.chains id) clst member).2
  rw [free] at used
  exact absurd used (by decide)

-- One file gets other clusters: fewer of its own, or more that were in none.
theorem laid_update (id : Nat) (clusters : List (BitVec 32)) (chain : FileOf layout after clusters)
    (own : ∀ clst, clst ∈ clusters → clst ∈ files id ∨ ∀ other, clst ∉ files other)
    (agree : ∀ other clst, other ≠ id → clst ∈ files other → after clst = before clst) :
    Laid layout after (Function.update files id clusters) := by
  constructor
  · intro other
    by_cases same : other = id
    · rw [same, Function.update_self]
      exact chain
    · rw [Function.update_of_ne same]
      exact file_kept layout before after (files other) (laid.chains other) fun clst => agree other clst same
  · have crossed (other : Nat) (clst : BitVec 32) (mine : clst ∈ clusters) (member : clst ∈ files other) : other = id := by
      rcases own clst mine with here | none_
      · exact laid.apart other id clst member here
      · exact absurd member (none_ other)
    intro first second clst left right
    by_cases one : first = id
    · by_cases two : second = id
      · rw [one, two]
      · rw [one, Function.update_self] at left
        rw [Function.update_of_ne two] at right
        exact absurd (crossed second clst left right) two
    · rw [Function.update_of_ne one] at left
      by_cases two : second = id
      · rw [two, Function.update_self] at right
        exact absurd (crossed first clst right left) one
      · rw [Function.update_of_ne two] at right
        exact laid.apart first second clst left right

theorem laid_created (id ncl : _) (valid : layout.valid ncl) (free : before ncl = 0) :
    Laid layout (Function.update before ncl layout.eoc) (Function.update files id [ncl]) := by
  have unused := free_unused layout before files laid ncl free
  refine laid_update layout before _ files laid id [ncl] (file_created layout before ncl valid) (fun clst mine => ?_)
    fun other clst _ member => ?_
  · rw [List.mem_singleton.mp mine]
    exact .inr unused
  · exact Function.update_of_ne (fun same : clst = ncl => unused other (same ▸ member)) _ _

theorem laid_stretched (id : Nat) (first : List (BitVec 32)) (last ncl : BitVec 32) (whole : files id = first ++ [last])
    (valid : layout.valid ncl) (free : before ncl = 0) :
    Laid layout (Function.update (Function.update before ncl layout.eoc) last ncl)
      (Function.update files id (files id ++ [ncl])) := by
  have unused := free_unused layout before files laid ncl free
  have file := laid.chains id
  have lastHere : last ∈ files id := by
    rw [whole]
    exact List.mem_append_right _ List.mem_cons_self
  rw [whole] at file
  refine laid_update layout before _ files laid id _ ?_ (fun clst mine => ?_) fun other clst different member => ?_
  · rw [whole]
    exact file_stretched layout before first last ncl file valid free
  · rcases List.mem_append.mp mine with here | new
    · exact .inl here
    · rw [List.mem_singleton.mp new]
      exact .inr unused
  · have notLast : clst ≠ last := fun same => different (laid.apart other id clst member (same ▸ lastHere))
    rw [Function.update_of_ne notLast, Function.update_of_ne fun same : clst = ncl => unused other (same ▸ member)]

theorem laid_cut (id : Nat) (first rest : List (BitVec 32)) (last : BitVec 32) (whole : files id = first ++ [last] ++ rest)
    (others : ∀ clst, clst ∉ rest → after clst = Function.update before last layout.eoc clst) :
    Laid layout after (Function.update files id (first ++ [last])) := by
  have file := laid.chains id
  rw [whole] at file
  have distinct := Base.chain_nodup _ _ file
  have lastHere : last ∈ files id := by
    rw [whole]
    exact List.mem_append_left _ (List.mem_append_right _ List.mem_cons_self)
  refine laid_update layout before after files laid id _ ?_ (fun clst mine => ?_) fun other clst different member => ?_
  · refine file_kept layout _ after _ (file_cut layout before first rest last file) fun clst member => others clst fun later => ?_
    exact (List.nodup_append.mp distinct).2.2 clst member clst later rfl
  · rw [whole]
    exact .inl (List.mem_append_left _ mine)
  · have away : clst ∉ files id := fun here => different (laid.apart other id clst member here)
    have notRest : clst ∉ rest := fun later => away (by rw [whole]; exact List.mem_append_right _ later)
    rw [others clst notRest, Function.update_of_ne fun same : clst = last => away (same ▸ lastHere)]

theorem laid_removed (id : Nat) (others : ∀ clst, clst ∉ files id → after clst = before clst) :
    Laid layout after (Function.update files id []) := by
  refine laid_update layout before after files laid id [] (.nil none) (fun clst mine => ?_) fun other clst different member => ?_
  · cases mine
  · exact others clst fun here => different (laid.apart other id clst member here)

end Laid

-- A volume and the clusters that its directory entries and open files know.
structure Drive where
  vol : Volume
  files : Files

inductive Op where
  | create (id : Nat)
  | stretch (id place : Nat)
  | truncate (id place : Nat)
  | remove (id : Nat)
  | getFree
  | other (request : Request)

-- The answers of create_chain that f_write and dir_next go on with.
def accepted (ans : BitVec 32) : Bool := ans ≠ 0 && ans ≠ 1 && ans ≠ 0xFFFFFFFF

def step (faults : Faults) : Base.Step Drive Op := fun drive op =>
  match op with
  | .create id =>
      if drive.files id = [] then
        (createChain faults drive.vol 0).map fun made =>
          ⟨made.1, if accepted made.2 then Function.update drive.files id [made.2] else drive.files⟩
      else none
  | .stretch id place =>
      (drive.files id)[place]?.bind fun clst =>
        (createChain faults drive.vol clst).map fun made =>
          ⟨made.1, if accepted made.2 ∧ place + 1 = (drive.files id).length then
            Function.update drive.files id (drive.files id ++ [made.2]) else drive.files⟩
  | .truncate id place =>
      (drive.files id)[place]?.bind fun clst => (drive.files id)[place + 1]?.bind fun next =>
        (removeChain faults drive.vol next clst).map fun cut =>
          ⟨cut.1, if cut.1.layout.nFatent ≤ cut.1.table clst then
            Function.update drive.files id ((drive.files id).take (place + 1)) else drive.files⟩
  | .remove id =>
      (drive.files id).head?.bind fun clst =>
        (removeChain faults drive.vol clst 0).map fun gone => ⟨gone.1, Function.update drive.files id []⟩
  | .getFree => some ⟨(getFree faults drive.vol).1, drive.files⟩
  | .other request => some ⟨(serve faults drive.vol request).1, drive.files⟩

-- Nobody else writes entries of the FAT.
def Regular (layout : Layout) (_ : Drive) (op : Op) : Prop :=
  match op with
  | .other request => request.Fits layout ∧ ∀ clst val, request ≠ .putFat clst val
  | _ => True

structure Stored (faults : Faults) (layout : Layout) (foreign : BitVec 32 → Prop) (drive : Drive) : Prop where
  mounted : drive.vol.layout = layout
  held : drive.vol.Held
  counted : Counted faults drive.vol
  laid : Laid layout drive.vol.table drive.files
  sound : ∀ clst, layout.valid clst → drive.vol.table clst ≠ 1
  reserved : layout.fsType ≠ .fat12 → drive.vol.table 0 ≠ 0 ∧ drive.vol.table 1 ≠ 0
  tight : Quiet faults → ∀ clst, layout.valid clst → drive.vol.table clst ≠ 0 → foreign clst ∨ ∃ id, clst ∈ drive.files id

section Steps

variable (faults : Faults) (layout : Layout) (foreign : BitVec 32 → Prop)

theorem reserved_kept (before after : BitVec 32 → BitVec 32) (same : ∀ clst, ¬ layout.valid clst → after clst = before clst)
    (reserved : layout.fsType ≠ .fat12 → before 0 ≠ 0 ∧ before 1 ≠ 0) (wide : layout.fsType ≠ .fat12) :
    after 0 ≠ 0 ∧ after 1 ≠ 0 := by
  rw [same 0 fun valid => absurd valid.1 (by decide), same 1 fun valid => absurd valid.1 (by decide)]
  exact reserved wide

theorem stored_same (drive : Drive) (after : Volume) (stored : Stored faults layout foreign drive)
    (mounted : after.layout = drive.vol.layout) (count : after.freeClst = drive.vol.freeClst) (held : after.Held)
    (table : after.table = drive.vol.table) : Stored faults layout foreign ⟨after, drive.files⟩ := by
  obtain ⟨drivenMounted, _, ⟨room, exact_⟩, laid, sound, reserved, tight⟩ := stored
  refine ⟨mounted.trans drivenMounted, held, ⟨?_, ?_⟩, ?_, ?_, ?_, ?_⟩
  · rw [mounted, table, count]
    exact room
  · rw [mounted, table, count]
    exact exact_
  · rw [table]
    exact laid
  · rw [table]
    exact sound
  · rw [table]
    exact reserved
  · rw [table]
    exact tight

-- A cluster marked as used, in no file: what a disk error leaves of create_chain.
theorem stored_lost (drive : Drive) (after : Volume) (stored : Stored faults layout foreign drive) (ncl : BitVec 32)
    (kept : drive.vol.Kept after) (held : after.Held) (noisy : ¬ Quiet faults) (valid : layout.valid ncl)
    (free : drive.vol.table ncl = 0) (table : after.table = Function.update drive.vol.table ncl layout.eoc) :
    Stored faults layout foreign ⟨after, drive.files⟩ := by
  have unused := free_unused layout drive.vol.table drive.files stored.laid ncl free
  have used : layout.eoc ≠ 0 := by
    intro zero
    have low := eoc_low layout
    rw [zero] at low
    exact absurd low (by decide)
  refine ⟨kept.layout.trans stored.mounted, held, ⟨?_, fun quiet => absurd quiet noisy⟩, ?_, fun clst clstValid => ?_,
    ?_, fun quiet => absurd quiet noisy⟩
  · have one := free_one_more layout after.table drive.vol.table ncl valid
      (fun other apart => by rw [table, Function.update_of_ne apart]) (by rw [table, Function.update_self]; exact used) free
    have room := stored.counted.room
    rw [stored.mounted] at room
    show freeCount after.layout after.table ≤ after.freeClst.toNat
    rw [kept.layout, stored.mounted, kept.freeClst]
    omega
  · rw [table]
    exact laid_kept layout _ _ drive.files stored.laid fun id clst member =>
      Function.update_of_ne (fun same : clst = ncl => unused id (same ▸ member)) _ _
  · rw [table]
    by_cases same : clst = ncl
    · rw [same, Function.update_self]
      intro one
      have low := eoc_low layout
      rw [one] at low
      exact absurd low (by decide)
    · rw [Function.update_of_ne same]
      exact stored.sound clst clstValid
  · refine reserved_kept layout drive.vol.table after.table (fun clst invalid => ?_) stored.reserved
    rw [table, Function.update_of_ne fun same : clst = ncl => invalid (same ▸ valid)]

theorem valid_accepted (ncl : BitVec 32) (valid : layout.valid ncl) : accepted ncl = true := by
  have low := BitVec.le_def.mp valid.1
  have high := BitVec.lt_def.mp valid.2
  have limited := layout.limited
  have limit : layout.fsType.limit < 4294967295 := by
    cases layout.fsType <;> decide
  have notZero : ncl ≠ 0 := by
    rintro rfl
    exact absurd low (by decide)
  have notOne : ncl ≠ 1 := by
    rintro rfl
    exact absurd low (by decide)
  have notAll : ncl ≠ 0xFFFFFFFF := by
    rintro rfl
    rw [show (0xFFFFFFFF : BitVec 32).toNat = 4294967295 from rfl] at high
    omega
  rw [accepted, decide_eq_true notZero, decide_eq_true notOne, decide_eq_true notAll]
  rfl

theorem counted_used (vol after : Volume) (counted : Counted faults vol) (mounted : after.layout = vol.layout)
    (count : after.freeClst = if vol.freeClst ≤ vol.layout.nFatent - 2 then vol.freeClst - 1 else vol.freeClst)
    (less : freeCount vol.layout vol.table = freeCount vol.layout after.table + 1) : Counted faults after := by
  have entries := entries_nat vol.layout
  have bound := free_count_bound vol.layout vol.table
  obtain ⟨room, exact_⟩ := counted
  by_cases known : vol.freeClst ≤ vol.layout.nFatent - 2
  · have some_ : (1 : BitVec 32) ≤ vol.freeClst := by
      rw [BitVec.le_def, show (1 : BitVec 32).toNat = 1 from rfl]
      omega
    have knownNat := BitVec.le_def.mp known
    have one : (vol.freeClst - 1).toNat = vol.freeClst.toNat - 1 := by
      rw [BitVec.toNat_sub_of_le some_]
      rfl
    rw [if_pos known] at count
    constructor
    · rw [mounted, count, one]
      omega
    · intro quiet
      have before := exact_ quiet
      rw [mounted, count, one]
      omega
  · have unknownNat : ¬ vol.freeClst.toNat ≤ (vol.layout.nFatent - 2).toNat := fun lower => known (BitVec.le_def.mpr lower)
    rw [if_neg known] at count
    constructor
    · rw [mounted, count]
      omega
    · intro quiet
      rw [mounted, count]
      omega

theorem tight_update (before after : BitVec 32 → BitVec 32) (files : Files) (id : Nat) (clusters : List (BitVec 32))
    (tight : ∀ clst, layout.valid clst → before clst ≠ 0 → foreign clst ∨ ∃ id, clst ∈ files id)
    (covers : ∀ clst, after clst ≠ 0 → clst ∈ clusters ∨ before clst ≠ 0 ∧ (clst ∈ files id → clst ∈ clusters))
    (clst : BitVec 32) (valid : layout.valid clst) (used : after clst ≠ 0) :
    foreign clst ∨ ∃ other, clst ∈ Function.update files id clusters other := by
  have here (mine : clst ∈ clusters) : ∃ other, clst ∈ Function.update files id clusters other :=
    ⟨id, by rw [Function.update_self]; exact mine⟩
  rcases covers clst used with mine | ⟨usedBefore, stays⟩
  · exact .inr (here mine)
  · rcases tight clst valid usedBefore with alien | ⟨other, member⟩
    · exact .inl alien
    · by_cases same : other = id
      · exact .inr (here (stays (same ▸ member)))
      · exact .inr ⟨other, by rw [Function.update_of_ne same]; exact member⟩

theorem low_sound (val : BitVec 32) (low : 2 ≤ val) : val ≠ 0 ∧ val ≠ 1 := by
  constructor
  · rintro rfl
    exact absurd low (by decide)
  · rintro rfl
    exact absurd low (by decide)

-- Answers of create_chain that put no cluster into a file.
theorem refused_stored (drive : Drive) (clst : BitVec 32) (after : Volume) (ans : BitVec 32) (held : after.Held)
    (stored : Stored faults layout foreign drive) (created : Created faults drive.vol clst after ans)
    (passed : accepted ans = true → ∃ next, drive.vol.table clst = next ∧ layout.valid clst ∧ next < layout.nFatent) :
    Stored faults layout foreign ⟨after, drive.files⟩ := by
  cases created with
  | follows _ _ _ same =>
      exact stored_same faults layout foreign drive after stored same.layout same.kept.freeClst held (same_table _ _ same)
  | full same _ =>
      exact stored_same faults layout foreign drive after stored same.layout same.kept.freeClst held (same_table _ _ same)
  | refused same _ =>
      exact stored_same faults layout foreign drive after stored same.layout same.kept.freeClst held (same_table _ _ same)
  | failed kept noisy table =>
      rw [stored.mounted] at table
      rcases table with same | ⟨ncl, valid, free, new⟩
      · exact stored_same faults layout foreign drive after stored kept.layout kept.freeClst held same
      · exact stored_lost faults layout foreign drive after stored ncl kept held noisy valid free new
  | added _ valid _ tail _ _ _ =>
      rw [stored.mounted] at valid
      obtain ⟨next, reads, clstValid, inside⟩ := passed (valid_accepted layout _ valid)
      rcases tail with zero | ⟨_, ends⟩
      · rw [zero] at clstValid
        exact absurd clstValid.1 (by decide)
      · rw [stored.mounted, reads] at ends
        exact absurd inside (BitVec.not_lt.mpr ends)

-- Marking and linking a cluster makes that one used, and no entry 1.
theorem linked_entries (table : BitVec 32 → BitVec 32) (clst ncl : BitVec 32) (valid : layout.valid ncl)
    (tail : clst = 0 ∨ clst ≠ ncl ∧ table clst ≠ 0) (other : BitVec 32) :
    (other ≠ ncl → (linked layout table clst ncl other = 0 ↔ table other = 0)) ∧
      (other = ncl → linked layout table clst ncl other ≠ 0) ∧ (linked layout table clst ncl other = 1 → table other = 1) := by
  have eocSound := low_sound layout.eoc (eoc_low layout)
  have nclSound := low_sound ncl valid.1
  have marked : (other ≠ ncl → (Function.update table ncl layout.eoc other = 0 ↔ table other = 0)) ∧
      (other = ncl → Function.update table ncl layout.eoc other ≠ 0) ∧
      (Function.update table ncl layout.eoc other = 1 → table other = 1) := by
    by_cases same : other = ncl
    · rw [same, Function.update_self]
      exact ⟨fun differs => absurd rfl differs, fun _ => eocSound.1, fun one => absurd one eocSound.2⟩
    · rw [Function.update_of_ne same]
      exact ⟨fun _ => Iff.rfl, fun equal => absurd equal same, id⟩
  unfold linked
  by_cases first : clst = 0
  · rw [if_pos first]
    exact marked
  · obtain ⟨differs, used⟩ := tail.resolve_left first
    rw [if_neg first]
    by_cases here : other = clst
    · rw [here, Function.update_self]
      exact ⟨fun _ => iff_of_false nclSound.1 used, fun equal => absurd equal differs, fun one => absurd one nclSound.2⟩
    · rw [Function.update_of_ne here]
      exact marked

theorem added_stored (drive : Drive) (clst : BitVec 32) (after : Volume) (ncl : BitVec 32) (id : Nat) (clusters : List (BitVec 32))
    (held : after.Held) (stored : Stored faults layout foreign drive) (valid : layout.valid ncl) (free : drive.vol.table ncl = 0)
    (tail : clst = 0 ∨ clst ≠ ncl ∧ drive.vol.table clst ≠ 0) (clstValid : clst = 0 ∨ layout.valid clst) (mounted : after.layout = drive.vol.layout)
    (table : after.table = linked layout drive.vol.table clst ncl)
    (count : after.freeClst = if drive.vol.freeClst ≤ drive.vol.layout.nFatent - 2 then drive.vol.freeClst - 1 else drive.vol.freeClst)
    (laid : Laid layout (linked layout drive.vol.table clst ncl) (Function.update drive.files id clusters))
    (grows : ∀ other, other ∈ drive.files id → other ∈ clusters) (holds : ncl ∈ clusters) :
    Stored faults layout foreign ⟨after, Function.update drive.files id clusters⟩ := by
  have entries := linked_entries layout drive.vol.table clst ncl valid tail
  rw [← table] at entries laid
  refine ⟨mounted.trans stored.mounted, held, ?_, laid, fun other otherValid one => ?_, ?_, fun quiet => ?_⟩
  · refine counted_used faults drive.vol after stored.counted mounted count ?_
    rw [stored.mounted]
    exact free_one_more layout after.table drive.vol.table ncl valid (fun other differs => ((entries other).1 differs).symm)
      ((entries ncl).2.1 rfl) free
  · exact stored.sound other otherValid ((entries other).2.2 one)
  · refine reserved_kept layout drive.vol.table after.table (fun other invalid => ?_) stored.reserved
    have notNew : other ≠ ncl := fun same => invalid (same ▸ valid)
    rw [table, linked]
    by_cases first : clst = 0
    · rw [if_pos first, Function.update_of_ne notNew]
    · rw [if_neg first, Function.update_of_ne fun same : other = clst => invalid (same ▸ clstValid.resolve_left first),
        Function.update_of_ne notNew]
  · refine tight_update layout foreign drive.vol.table after.table drive.files id clusters (stored.tight quiet) fun other used => ?_
    by_cases same : other = ncl
    · exact .inl (same ▸ holds)
    · exact .inr ⟨fun zero => used (((entries other).1 same).mpr zero), grows other⟩

theorem create_stored (firm : Firm faults layout) (drive : Drive) (id : Nat) (made : Volume × BitVec 32)
    (stored : Stored faults layout foreign drive) (unnamed : drive.files id = []) (ran : createChain faults drive.vol 0 = some made) :
    Stored faults layout foreign
      ⟨made.1, if accepted made.2 then Function.update drive.files id [made.2] else drive.files⟩ := by
  obtain ⟨after, ans, same, held, created⟩ := create_chain faults drive.vol 0 stored.held (by rw [stored.mounted]; exact firm)
  obtain rfl : made = (after, ans) := Option.some.inj (ran.symm.trans same)
  have outcome := created
  cases created with
  | follows valid _ _ _ => exact absurd valid.1 (by decide)
  | full _ _ => exact refused_stored faults layout foreign drive 0 after 0 held stored outcome fun yes => absurd yes (by decide)
  | refused _ _ => exact refused_stored faults layout foreign drive 0 after 1 held stored outcome fun yes => absurd yes (by decide)
  | failed _ _ _ =>
      exact refused_stored faults layout foreign drive 0 after 0xFFFFFFFF held stored outcome fun yes => absurd yes (by decide)
  | added _ valid free _ mounted table count =>
      rw [stored.mounted] at valid table
      rw [if_pos (valid_accepted layout ans valid)]
      refine added_stored faults layout foreign drive 0 after ans id [ans] held stored valid free (.inl rfl) (.inl rfl)
        mounted table count ?_ ?_ List.mem_cons_self
      · rw [linked, if_pos rfl]
        exact laid_created layout drive.vol.table drive.files stored.laid id ans valid free
      · rw [unnamed]
        exact fun other member => absurd member List.not_mem_nil

theorem place_split (clusters : List (BitVec 32)) (place : Nat) (clst : BitVec 32) (here : clusters[place]? = some clst) :
    clusters = clusters.take place ++ [clst] ++ clusters.drop (place + 1) := by
  obtain ⟨inside, value⟩ := List.getElem?_eq_some_iff.mp here
  have dropped := List.drop_eq_getElem_cons inside
  rw [value] at dropped
  rw [List.append_assoc, List.singleton_append, ← dropped, List.take_append_drop]

theorem stretch_stored (firm : Firm faults layout) (drive : Drive) (id place : Nat) (clst : BitVec 32) (made : Volume × BitVec 32)
    (stored : Stored faults layout foreign drive) (here : (drive.files id)[place]? = some clst)
    (ran : createChain faults drive.vol clst = some made) :
    Stored faults layout foreign
      ⟨made.1, if accepted made.2 ∧ place + 1 = (drive.files id).length then
        Function.update drive.files id (drive.files id ++ [made.2]) else drive.files⟩ := by
  obtain ⟨after, ans, same, held, created⟩ := create_chain faults drive.vol clst stored.held (by rw [stored.mounted]; exact firm)
  obtain rfl : made = (after, ans) := Option.some.inj (ran.symm.trans same)
  have file := stored.laid.chains id
  have whole := place_split (drive.files id) place clst here
  obtain ⟨clstValid, clstLow⟩ := file_member layout drive.vol.table _ file clst (List.mem_of_getElem? here)
  have outcome := created
  cases created with
  | follows _ low inside _ =>
      rw [stored.mounted] at inside
      have more : ¬ place + 1 = (drive.files id).length := by
        intro last
        rw [last, List.drop_length, List.append_nil] at whole
        rw [whole] at file
        exact file_last layout _ clst (file_rest layout _ _ _ file) inside
      rw [if_neg fun both => more both.2]
      exact refused_stored faults layout foreign drive clst after _ held stored outcome fun _ => ⟨_, rfl, clstValid, inside⟩
  | full _ _ => exact refused_stored faults layout foreign drive clst after 0 held stored outcome fun yes => absurd yes (by decide)
  | refused _ _ => exact refused_stored faults layout foreign drive clst after 1 held stored outcome fun yes => absurd yes (by decide)
  | failed _ _ _ =>
      exact refused_stored faults layout foreign drive clst after 0xFFFFFFFF held stored outcome fun yes => absurd yes (by decide)
  | added _ valid free tail mounted table count =>
      rw [stored.mounted] at valid table
      have notZero : clst ≠ 0 := (low_sound clst clstValid.1).1
      have ends := (tail.resolve_left notZero).2
      rw [stored.mounted] at ends
      have last : place + 1 = (drive.files id).length := by
        by_contra shorter
        have inside := (List.getElem?_eq_some_iff.mp here).1
        have rest : (drive.files id).drop (place + 1) ≠ [] := by
          rw [Ne, List.drop_eq_nil_iff]
          omega
        obtain ⟨next, more, restIs⟩ := List.exists_cons_of_ne_nil rest
        rw [whole, List.append_assoc, List.singleton_append, restIs] at file
        exact BitVec.not_lt.mpr ends (file_next layout _ clst next more (file_rest layout _ _ _ file)).1
      have split : drive.files id = (drive.files id).take place ++ [clst] := by
        rw [last, List.drop_length, List.append_nil] at whole
        exact whole
      have differs : clst ≠ ans := by
        intro equal
        rw [equal, free] at clstLow
        exact absurd clstLow (by decide)
      rw [if_pos ⟨valid_accepted layout ans valid, last⟩]
      refine added_stored faults layout foreign drive clst after ans id _ held stored valid free
        (.inr ⟨differs, (low_sound _ clstLow).1⟩) (.inr clstValid) mounted table count ?_ (fun other => List.mem_append_left _)
        (List.mem_append_right _ List.mem_cons_self)
      rw [linked, if_neg notZero]
      exact laid_stretched layout drive.vol.table drive.files stored.laid id _ clst ans split valid free

theorem file_length (table : BitVec 32 → BitVec 32) (clusters : List (BitVec 32)) (file : FileOf layout table clusters) :
    clusters.length ≤ layout.nFatent.toNat := by
  have distinct := (Base.chain_nodup _ _ file).map (fun _ _ => BitVec.eq_of_toNat_eq)
  have inside : clusters.map BitVec.toNat ⊆ List.range layout.nFatent.toNat := by
    intro index member
    obtain ⟨clst, mine, place⟩ := List.mem_map.mp member
    rw [List.mem_range, ← place]
    exact BitVec.lt_def.mp (file_member layout table clusters file clst mine).1.2
  have fewer := (List.subperm_of_subset distinct inside).length_le
  rwa [List.length_map, List.length_range] at fewer

theorem valid_checked (vol : Volume) (clst : BitVec 32) (valid : vol.layout.valid clst) :
    ¬ (clst < 2 ∨ vol.layout.nFatent ≤ clst) := by
  obtain ⟨low, inside⟩ := valid
  rw [BitVec.le_def] at low ⊢
  rw [BitVec.lt_def] at inside ⊢
  omega

theorem removed_sound (table : BitVec 32 → BitVec 32) (after : Volume)
    (removed : ∀ clst, after.table clst = table clst ∨ after.table clst = 0) (clst : BitVec 32) (sound : table clst ≠ 1) : after.table clst ≠ 1 := by
  rcases removed clst with kept | zero
  · rw [kept]
    exact sound
  · rw [zero]
    decide

theorem remove_stored (firm : Firm faults layout) (drive : Drive) (id : Nat) (clst : BitVec 32) (gone : Volume × FResult)
    (stored : Stored faults layout foreign drive) (here : (drive.files id).head? = some clst)
    (ran : removeChain faults drive.vol clst 0 = some gone) :
    Stored faults layout foreign ⟨gone.1, Function.update drive.files id []⟩ := by
  have file := stored.laid.chains id
  have whole : drive.files id = clst :: (drive.files id).tail := List.eq_cons_of_mem_head? here
  have valid := (file_member layout drive.vol.table _ file clst (by rw [whole]; exact List.mem_cons_self)).1
  have length := file_length layout _ _ file
  rw [whole] at file length
  have enough : (drive.files id).tail.length < drive.vol.layout.nFatent.toNat := by
    rw [stored.mounted]
    exact length
  obtain ⟨after, res, removes, removed⟩ := remove_links_file faults (drive.files id).tail _ clst drive.vol stored.held
    (by rw [stored.mounted]; exact firm) stored.counted (by rw [stored.mounted]; exact file) enough
  rw [removeChain, if_neg (valid_checked drive.vol clst (by rw [stored.mounted]; exact valid)), if_pos rfl, removes] at ran
  obtain rfl : (after, res) = gone := Option.some.inj ran
  rw [← whole] at removed
  have inside (other : BitVec 32) (mine : other ∈ drive.files id) : layout.valid other :=
    (file_member layout drive.vol.table _ (stored.laid.chains id) other mine).1
  refine ⟨removed.layout.trans stored.mounted, removed.held, removed.counted, ?_, fun other otherValid => ?_, ?_, fun quiet => ?_⟩
  · exact laid_removed layout drive.vol.table after.table drive.files stored.laid id removed.others
  · exact removed_sound drive.vol.table after removed.lower other (stored.sound other otherValid)
  · exact reserved_kept layout drive.vol.table after.table (fun other invalid =>
      removed.others other fun mine => invalid (inside other mine)) stored.reserved
  · refine tight_update layout foreign drive.vol.table after.table drive.files id [] (stored.tight quiet) fun other used => ?_
    have notMine : other ∉ drive.files id := fun mine => used (removed.done (removed.quiet quiet) other mine)
    rw [removed.others other notMine] at used
    exact .inr ⟨used, fun mine => absurd mine notMine⟩

theorem counted_zeros (vol after : Volume) (counted : Counted faults vol) (kept : vol.Kept after)
    (zeros : ∀ clst, vol.layout.valid clst → (after.table clst = 0 ↔ vol.table clst = 0)) : Counted faults after := by
  obtain ⟨room, exact_⟩ := counted
  rw [← free_same vol.layout vol.table after.table zeros, ← kept.layout, ← kept.freeClst] at room exact_
  exact ⟨room, exact_⟩

theorem pair_split (clusters : List (BitVec 32)) (place : Nat) (clst next : BitVec 32) (here : clusters[place]? = some clst)
    (later : clusters[place + 1]? = some next) :
    ∃ first more, clusters = first ++ [clst] ++ next :: more ∧ clusters.take (place + 1) = first ++ [clst] := by
  have whole := place_split clusters place clst here
  have taken : clusters.take (place + 1) = clusters.take place ++ [clst] := by
    rw [List.take_add_one, here]
    rfl
  have dropped : clusters.drop (place + 1) = next :: clusters.drop (place + 2) := by
    obtain ⟨inside, value⟩ := List.getElem?_eq_some_iff.mp later
    rw [List.drop_eq_getElem_cons inside, value]
  rw [dropped] at whole
  exact ⟨clusters.take place, clusters.drop (place + 2), whole, taken⟩

-- Marking a cluster in use as the end of a file frees none.
theorem marked_counted (vol marked : Volume) (clst : BitVec 32) (counted : Counted faults vol) (kept : vol.Kept marked)
    (used : 2 ≤ vol.table clst) (table : marked.table = Function.update vol.table clst vol.layout.eoc) : Counted faults marked := by
  refine counted_zeros faults vol marked counted kept fun other _ => ?_
  rw [table]
  by_cases same : other = clst
  · rw [same, Function.update_self]
    exact iff_of_false (low_sound _ (eoc_low vol.layout)).1 (low_sound _ used).1
  · rw [Function.update_of_ne same]

theorem marked_sound (table : BitVec 32 → BitVec 32) (clst other : BitVec 32) (sound : table other ≠ 1) :
    Function.update table clst layout.eoc other ≠ 1 := by
  by_cases same : other = clst
  · rw [same, Function.update_self]
    exact (low_sound _ (eoc_low layout)).2
  · rw [Function.update_of_ne same]
    exact sound

-- A file ends at a cluster, and what came after it is removed.
theorem cut_stored (drive : Drive) (id : Nat) (first more : List (BitVec 32)) (clst next : BitVec 32) (marked after : Volume)
    (res : FResult) (stored : Stored faults layout foreign drive) (whole : drive.files id = first ++ [clst] ++ next :: more)
    (mounted : after.layout = layout) (table : marked.table = Function.update drive.vol.table clst layout.eoc)
    (removed : Removed faults marked after res (next :: more)) :
    Stored faults layout foreign ⟨after, Function.update drive.files id (first ++ [clst])⟩ := by
  have file := stored.laid.chains id
  have inside (other : BitVec 32) (mine : other ∈ drive.files id) : layout.valid other :=
    (file_member layout drive.vol.table _ file other mine).1
  have clstHere : clst ∈ drive.files id := by
    rw [whole]
    exact List.mem_append_left _ (List.mem_append_right _ List.mem_cons_self)
  have restHere (other : BitVec 32) (mine : other ∈ next :: more) : other ∈ drive.files id := by
    rw [whole]
    exact List.mem_append_right _ mine
  refine ⟨mounted, removed.held, removed.counted, ?_, fun other otherValid => ?_, ?_, fun quiet => ?_⟩
  · refine laid_cut layout drive.vol.table after.table drive.files stored.laid id first (next :: more) clst whole fun other apart => ?_
    rw [removed.others other apart, table]
  · refine removed_sound marked.table after removed.lower other ?_
    rw [table]
    exact marked_sound layout drive.vol.table clst other (stored.sound other otherValid)
  · refine reserved_kept layout drive.vol.table after.table (fun other invalid => ?_) stored.reserved
    have notRest : other ∉ next :: more := fun mine => invalid (inside other (restHere other mine))
    rw [removed.others other notRest, table, Function.update_of_ne fun same : other = clst => invalid (same ▸ inside clst clstHere)]
  · refine tight_update layout foreign drive.vol.table after.table drive.files id _ (stored.tight quiet) fun other used => ?_
    have notRest : other ∉ next :: more := fun mine => used (removed.done (removed.quiet quiet) other mine)
    by_cases same : other = clst
    · exact .inl (same ▸ List.mem_append_right _ List.mem_cons_self)
    · rw [removed.others other notRest, table, Function.update_of_ne same] at used
      refine .inr ⟨used, fun mine => ?_⟩
      rw [whole] at mine
      exact (List.mem_append.mp mine).resolve_right notRest

theorem truncate_stored (firm : Firm faults layout) (drive : Drive) (id place : Nat) (clst next : BitVec 32) (cut : Volume × FResult)
    (stored : Stored faults layout foreign drive) (here : (drive.files id)[place]? = some clst)
    (later : (drive.files id)[place + 1]? = some next) (ran : removeChain faults drive.vol next clst = some cut) :
    Stored faults layout foreign
      ⟨cut.1, if cut.1.layout.nFatent ≤ cut.1.table clst then
        Function.update drive.files id ((drive.files id).take (place + 1)) else drive.files⟩ := by
  have file := stored.laid.chains id
  have length := file_length layout _ _ file
  obtain ⟨first, more, whole, taken⟩ := pair_split (drive.files id) place clst next here later
  rw [taken]
  obtain ⟨clstValid, clstLow⟩ := file_member layout drive.vol.table _ file clst (List.mem_of_getElem? here)
  have nextValid := (file_member layout drive.vol.table _ file next (List.mem_of_getElem? later)).1
  rw [whole] at file length
  have notLater : clst ∉ next :: more := fun again =>
    (List.nodup_append.mp (Base.chain_nodup _ _ file)).2.2 clst (List.mem_append_right _ List.mem_cons_self) clst again rfl
  have rest := file_rest layout _ _ _ file
  rw [List.append_assoc, List.singleton_append] at file
  have linkedNext := (file_next layout _ clst next more (file_rest layout _ _ _ file)).2
  have mounted := stored.mounted
  obtain ⟨kept, putHeld, outcome⟩ := put_written faults drive.vol clst 0xFFFFFFFF stored.held (by rw [mounted]; exact clstValid)
    (by rw [mounted]; exact firm)
  obtain ⟨put, putIs⟩ : ∃ put, putFat faults drive.vol clst 0xFFFFFFFF = put := ⟨_, rfl⟩
  rw [putIs] at kept putHeld outcome
  rw [removeChain, if_neg (valid_checked drive.vol next (by rw [mounted]; exact nextValid)),
    if_neg (low_sound clst clstValid.1).1, putIs] at ran
  dsimp only at ran
  have markedLayout : put.1.layout = layout := kept.layout.trans mounted
  rcases outcome with ⟨ok, table⟩ | ⟨err, table, noisy⟩
  · rw [if_pos ok, mounted] at ran
    have counted := marked_counted faults drive.vol put.1 clst stored.counted kept clstLow table
    rw [mounted] at table
    have restFile : FileOf put.1.layout put.1.table (next :: more) := by
      rw [markedLayout, table]
      exact file_kept layout _ _ _ rest fun other member =>
        Function.update_of_ne (fun same : other = clst => notLater (same ▸ member)) _ _
    have enough : more.length < layout.nFatent.toNat := by
      rw [List.length_append, List.length_cons] at length
      omega
    obtain ⟨after, res, removes, removed⟩ := remove_links_file faults more _ next put.1 putHeld (by rw [markedLayout]; exact firm)
      counted restFile enough
    obtain rfl : cut = (after, res) := Option.some.inj (ran.symm.trans removes)
    have afterLayout : after.layout = layout := removed.layout.trans markedLayout
    have ended : after.table clst = layout.eoc := by
      rw [removed.others clst notLater, table, Function.update_self]
      rfl
    rw [if_pos (by rw [afterLayout, ended]; exact end_above layout)]
    exact cut_stored faults layout foreign drive id first more clst next put.1 after res stored whole afterLayout table removed
  · rw [if_neg (ok_or _ err)] at ran
    obtain rfl : cut = put := (Option.some.inj ran).symm
    have open_ : ¬ cut.1.layout.nFatent ≤ cut.1.table clst := by
      rw [markedLayout, table, linkedNext]
      exact fun beyond => absurd nextValid.2 (BitVec.not_lt.mpr beyond)
    rw [if_neg open_]
    exact stored_same faults layout foreign drive cut.1 stored kept.layout kept.freeClst putHeld table

theorem served_leaves (request : Request) (vol : Volume) (mounted : vol.layout = layout) (held : vol.Held)
    (info : layout.fsType = .fat32 → layout.hasInfo) (fits : request.Fits layout)
    (reads : ∀ clst val, request ≠ .putFat clst val) : Leaves vol (serve faults vol request).1 := by
  cases request with
  | getFat clst =>
      by_cases valid : vol.layout.valid clst
      · obtain ⟨same, stillHeld, _⟩ := get_fat faults vol clst held valid.1 valid.2
        exact same_leaves vol _ same stillHeld
      · rw [serve, get_invalid faults vol clst valid]
        exact ⟨rfl, rfl, rfl, held⟩
  | putFat clst val => exact absurd rfl (reads clst val)
  | edit sect bytes => exact (edit_leaves faults vol sect bytes held (by rw [mounted]; exact fits.1)).1
  | clear clst => exact (dir_clear_leaves faults vol clst held (by rw [mounted]; exact fits)).1
  | load sect => exact load_leaves faults vol sect held
  | store sect buff => exact store_leaves faults vol sect buff held (by rw [mounted]; exact fits.1)
  | sync control => exact (sync_fs faults control vol held (by rw [mounted]; exact info)).1

-- What f_getfree answers, and that a scan leaves the count of the free clusters.
theorem get_free (drive : Drive) (stored : Stored faults layout foreign drive) :
    Stored faults layout foreign ⟨(getFree faults drive.vol).1, drive.files⟩ ∧
      (Quiet faults → ∃ nfree, (getFree faults drive.vol).2 = .ok nfree ∧ nfree.toNat = freeCount layout drive.vol.table) := by
  have mounted := stored.mounted
  have room := stored.counted.room
  have exact_ := stored.counted.exact_
  rw [mounted] at room exact_
  have entries := entries_nat layout
  unfold getFree
  by_cases known : drive.vol.freeClst ≤ drive.vol.layout.nFatent - 2
  · rw [if_pos known]
    refine ⟨stored, fun quiet => ⟨drive.vol.freeClst, rfl, ?_⟩⟩
    have knownNat := BitVec.le_def.mp known
    have most := exact_ quiet
    rw [mounted] at knownNat
    omega
  · rw [if_neg known]
    obtain ⟨same, held, scanned⟩ := scan_free faults drive.vol stored.held
    obtain ⟨after, afterIs⟩ : ∃ after, scanFree faults drive.vol = after := ⟨_, rfl⟩
    rw [afterIs] at same held scanned ⊢
    have none_ : reservedZeros drive.vol = 0 := by
      unfold reservedZeros
      rw [mounted]
      by_cases twelve : layout.fsType = .fat12
      · rw [if_pos twelve]
      · obtain ⟨zero, one⟩ := stored.reserved twelve
        rw [if_neg twelve, if_neg zero, if_neg one]
    have table := same_table drive.vol after.1 same
    have unchanged := stored_same faults layout foreign drive after.1 stored same.layout same.kept.freeClst held table
    rw [none_, mounted, Nat.add_zero] at scanned
    obtain ⟨vol, res⟩ := after
    cases scanned with
    | counted nfree value =>
        refine ⟨⟨unchanged.mounted, held, ⟨?_, fun _ => .inl ?_⟩, unchanged.laid, unchanged.sound, unchanged.reserved,
          unchanged.tight⟩, fun _ => ⟨nfree, rfl, value⟩⟩
        · show freeCount vol.layout vol.table ≤ nfree.toNat
          rw [unchanged.mounted, value, table]
        · show nfree.toNat ≤ freeCount vol.layout vol.table
          rw [unchanged.mounted, value, table]
    | failed noisy => exact ⟨unchanged, fun quiet => absurd quiet noisy⟩
    | odd _ clst valid one =>
        rw [mounted] at valid
        exact absurd one (stored.sound clst valid)

theorem step_stored (firm : Firm faults layout) (info : layout.fsType = .fat32 → layout.hasInfo) (drive : Drive) (op : Op)
    (after : Drive) (stored : Stored faults layout foreign drive) (regular : Regular layout drive op)
    (taken : step faults drive op = some after) : Stored faults layout foreign after := by
  cases op with
  | create id =>
      dsimp only [step] at taken
      by_cases unnamed : drive.files id = []
      · rw [if_pos unnamed] at taken
        obtain ⟨made, ran, rfl⟩ := Option.map_eq_some_iff.mp taken
        exact create_stored faults layout foreign firm drive id made stored unnamed ran
      · rw [if_neg unnamed] at taken
        cases taken
  | stretch id place =>
      obtain ⟨clst, here, rest⟩ := Option.bind_eq_some_iff.mp taken
      obtain ⟨made, ran, rfl⟩ := Option.map_eq_some_iff.mp rest
      exact stretch_stored faults layout foreign firm drive id place clst made stored here ran
  | truncate id place =>
      obtain ⟨clst, here, rest⟩ := Option.bind_eq_some_iff.mp taken
      obtain ⟨next, later, last⟩ := Option.bind_eq_some_iff.mp rest
      obtain ⟨cut, ran, rfl⟩ := Option.map_eq_some_iff.mp last
      exact truncate_stored faults layout foreign firm drive id place clst next cut stored here later ran
  | remove id =>
      obtain ⟨clst, here, rest⟩ := Option.bind_eq_some_iff.mp taken
      obtain ⟨gone, ran, rfl⟩ := Option.map_eq_some_iff.mp rest
      exact remove_stored faults layout foreign firm drive id clst gone stored here ran
  | getFree =>
      obtain rfl := Option.some.inj taken
      exact (get_free faults layout foreign drive stored).1
  | other request =>
      obtain rfl := Option.some.inj taken
      have leaves := served_leaves faults layout request drive.vol stored.mounted stored.held info regular.1 regular.2
      refine stored_same faults layout foreign drive _ stored leaves.layout leaves.freeClst leaves.held ?_
      unfold Volume.table
      rw [leaves.layout, leaves.fat]

theorem reached_stored (firm : Firm faults layout) (info : layout.fsType = .fat32 → layout.hasInfo) (initial : Drive)
    (stored : Stored faults layout foreign initial) (drive : Drive) (reached : Base.Reach (step faults) (Regular layout) initial drive) :
    Stored faults layout foreign drive :=
  Base.reach_invariant (step faults) (Regular layout) initial (Stored faults layout foreign) stored
    (fun state op after kept regular taken => step_stored faults layout foreign firm info state op after kept regular taken)
    drive reached

end Steps

-- Whatever is created, stretched, cut and removed, and whatever transfers fail
-- (none on FAT12), the files keep their own sectors, and get_fat walks each of
-- them to its end.
theorem files_stay_apart (faults : Faults) (layout : Layout) (firm : Firm faults layout)
    (info : layout.fsType = .fat32 → layout.hasInfo) (foreign : BitVec 32 → Prop) (initial drive : Drive)
    (stored : Stored faults layout foreign initial) (reached : Base.Reach (step faults) (Regular layout) initial drive) :
    (∀ id other clst clstOther n m, clst ∈ drive.files id → clstOther ∈ drive.files other → n < layout.csize → m < layout.csize →
        clst2sect layout clst + BitVec.ofNat 32 n = clst2sect layout clstOther + BitVec.ofNat 32 m →
        id = other ∧ clst = clstOther ∧ n = m) ∧
      (∀ id place clst, (drive.files id)[place]? = some clst → (getFat faults drive.vol clst).2 = 0xFFFFFFFF ∧ ¬ Quiet faults ∨
        (∀ next, (drive.files id)[place + 1]? = some next → (getFat faults drive.vol clst).2 = next) ∧
          ((drive.files id)[place + 1]? = none → layout.nFatent ≤ (getFat faults drive.vol clst).2)) := by
  obtain ⟨mounted, held, _, laid, _⟩ := reached_stored faults layout foreign firm info initial stored drive reached
  refine ⟨fun id other clst clstOther n m mine theirs within otherWithin same => ?_, fun id place clst here => ?_⟩
  · have valid := (file_member layout _ _ (laid.chains id) clst mine).1
    have otherValid := (file_member layout _ _ (laid.chains other) clstOther theirs).1
    obtain ⟨equal, sectors⟩ := clusters_apart layout clst clstOther n m valid otherValid within otherWithin same
    exact ⟨laid.apart id other clst mine (equal ▸ theirs), equal, sectors⟩
  · have file := laid.chains id
    have valid := (file_member layout _ _ file clst (List.mem_of_getElem? here)).1
    have whole := place_split (drive.files id) place clst here
    rw [whole, List.append_assoc, List.singleton_append] at file
    have rest := file_rest layout _ _ _ file
    obtain ⟨_, _, value⟩ := get_read faults drive.vol clst held (by rw [mounted]; exact valid)
    rcases value with known | failed
    · rw [known]
      refine .inr ⟨fun next later => ?_, fun last => ?_⟩
      · obtain ⟨inside, nextIs⟩ := List.getElem?_eq_some_iff.mp later
        rw [List.drop_eq_getElem_cons inside, nextIs] at rest
        exact (file_next layout _ clst next _ rest).2
      · rw [List.drop_eq_nil_of_le (List.getElem?_eq_none_iff.mp last)] at rest
        exact BitVec.not_lt.mp (file_last layout _ clst rest)
    · exact .inl failed

theorem small_valid (clst : BitVec 32) (valid : smallLayout.valid clst) : clst = 2 ∨ clst = 3 ∨ clst = 4 := by
  have low : (2 : BitVec 32) ≤ clst := valid.1
  have high : clst < (5 : BitVec 32) := valid.2
  bv_omega

-- Files 0 and 1 of the empty volume, after three calls of create_chain.
def emptyDrive : Drive := ⟨smallVolume, fun _ => []⟩

def stepped (drive : Drive) (op : Op) : Drive := (step noFaults drive op).getD drive

def twoFiles : Drive := stepped (stepped (stepped emptyDrive (.create 0)) (.stretch 0 0)) (.create 1)

theorem small_free (clst : BitVec 32) (valid : smallLayout.valid clst) : smallVolume.table clst = 0 := by
  rcases small_valid clst valid with rfl | rfl | rfl
  · decide +kernel
  · decide +kernel
  · decide +kernel

theorem small_stored : Stored noFaults smallLayout (fun _ => False) emptyDrive where
  mounted := rfl
  held := small_held
  counted := by
    have bound := free_count_bound smallLayout smallVolume.table
    exact ⟨Nat.le_trans bound (by decide), fun _ => .inr (by decide)⟩
  laid := ⟨fun _ => .nil none, fun _ _ _ member => by cases member⟩
  sound := fun clst valid => by
    show smallVolume.table clst ≠ 1
    rw [small_free clst valid]
    decide
  reserved := fun wide => absurd rfl wide
  tight := fun _ clst valid used => absurd (small_free clst valid) used

theorem stepped_some (drive : Drive) (op : Op) (taken : (step noFaults drive op).isSome = true) :
    step noFaults drive op = some (stepped drive op) := by
  obtain ⟨after, ran⟩ := Option.isSome_iff_exists.mp taken
  rw [stepped, ran, Option.getD_some]

theorem stepped_reached (drive : Drive) (op : Op) (reached : Base.Reach (step noFaults) (Regular smallLayout) emptyDrive drive)
    (met : Regular smallLayout drive op) (taken : (step noFaults drive op).isSome = true) :
    Base.Reach (step noFaults) (Regular smallLayout) emptyDrive (stepped drive op) :=
  .next drive op _ reached met (stepped_some drive op taken)

theorem two_files_reached : Base.Reach (step noFaults) (Regular smallLayout) emptyDrive twoFiles :=
  stepped_reached _ (.create 1)
    (stepped_reached _ (.stretch 0 0) (stepped_reached _ (.create 0) .start trivial (by decide +kernel)) trivial
      (by decide +kernel)) trivial (by decide +kernel)

theorem quiet_none : Quiet noFaults := fun _ _ => rfl

theorem files_stay_apart_two_files :
    clst2sect smallLayout 3 + 31 ≠ clst2sect smallLayout 4 + 0 ∧ (getFat noFaults twoFiles.vol 2).2 = 3 := by
  obtain ⟨apart, chains⟩ := files_stay_apart noFaults smallLayout (fun _ => quiet_none)
    (fun other => FsType.noConfusion other) (fun _ => False) emptyDrive twoFiles small_stored two_files_reached
  constructor
  · intro same
    have one := apart 0 1 3 4 31 0 (by decide +kernel) (by decide +kernel) (by decide) (by decide) same
    exact absurd one.1 (by decide)
  · have links := (chains 0 0 2 (by decide +kernel)).resolve_left fun failed => failed.2 quiet_none
    exact links.1 3 (by decide +kernel)

-- A volume is full for create_chain only when it is full, and without disk
-- errors it finds a cluster as long as there is one.
theorem create_finds_free (faults : Faults) (layout : Layout) (firm : Firm faults layout)
    (info : layout.fsType = .fat32 → layout.hasInfo) (foreign : BitVec 32 → Prop) (initial drive : Drive)
    (stored : Stored faults layout foreign initial) (reached : Base.Reach (step faults) (Regular layout) initial drive)
    (clst : BitVec 32) (tail : clst = 0 ∨ ∃ id, (drive.files id).getLast? = some clst) :
    ∃ after ans, createChain faults drive.vol clst = some (after, ans) ∧
      (ans = 0 → ∀ other, layout.valid other → drive.vol.table other ≠ 0) ∧
      (Quiet faults → (∃ other, layout.valid other ∧ drive.vol.table other = 0) →
        layout.valid ans ∧ drive.vol.table ans = 0) := by
  obtain ⟨mounted, held, counted, laid, sound, _, _⟩ := reached_stored faults layout foreign firm info initial stored drive reached
  obtain ⟨after, ans, ran, _, created⟩ := create_chain faults drive.vol clst held (by rw [mounted]; exact firm)
  have ends : clst = 0 ∨ layout.valid clst ∧ 2 ≤ drive.vol.table clst ∧ ¬ drive.vol.table clst < layout.nFatent := by
    rcases tail with zero | ⟨id, last⟩
    · exact .inl zero
    · have file := laid.chains id
      have valid := file_member layout _ _ file clst (List.mem_of_getLast? last)
      obtain ⟨first, split⟩ := List.getLast?_eq_some_iff.mp last
      rw [split] at file
      exact .inr ⟨valid.1, valid.2, file_last layout _ clst (file_rest layout _ first [clst] file)⟩
  have someFree (other : BitVec 32) (valid : layout.valid other) (free : drive.vol.table other = 0) : drive.vol.freeClst ≠ 0 := by
    intro zero
    have room := counted.room
    have one := free_one_more layout (Function.update drive.vol.table other layout.eoc) drive.vol.table other valid
      (fun another apart => by rw [Function.update_of_ne apart])
      (by rw [Function.update_self]; exact (low_sound _ (eoc_low layout)).1) free
    rw [mounted, one, zero] at room
    exact absurd room (Nat.not_succ_le_zero _)
  refine ⟨after, ans, ran, ?_⟩
  cases created with
  | follows valid low inside _ =>
      rw [mounted] at inside valid
      rcases ends with zero | ⟨_, _, last⟩
      · rw [zero] at valid
        exact absurd valid.1 (by decide)
      · exact absurd inside last
  | full _ used =>
      rw [mounted] at used
      have all (other : BitVec 32) (valid : layout.valid other) : drive.vol.table other ≠ 0 := by
        rcases used with none_ | all
        · exact fun free => someFree other valid free none_
        · exact all other valid
      exact ⟨fun _ => all, fun _ free => absurd free.choose_spec.2 (all _ free.choose_spec.1)⟩
  | refused _ odd =>
      rw [mounted] at odd
      rcases odd with ⟨notZero, bad⟩ | ⟨other, valid, one⟩
      · obtain ⟨valid, low, _⟩ := ends.resolve_left notZero
        exact absurd (bad valid) (BitVec.not_lt.mpr low)
      · exact absurd one (sound other valid)
  | failed _ noisy _ => exact ⟨fun zero => absurd zero (by decide), fun quiet => absurd quiet noisy⟩
  | added _ valid free _ _ _ _ =>
      rw [mounted] at valid
      exact ⟨fun zero => absurd zero (low_sound ans valid.1).1, fun _ _ => ⟨valid, free⟩⟩

theorem create_finds_free_two_files : ∃ after ans, createChain noFaults twoFiles.vol 3 = some (after, ans) ∧
    (ans = 0 → ∀ other, smallLayout.valid other → twoFiles.vol.table other ≠ 0) := by
  obtain ⟨after, ans, ran, full, _⟩ := create_finds_free noFaults smallLayout (fun _ => quiet_none)
    (fun other => FsType.noConfusion other) (fun _ => False) emptyDrive twoFiles small_stored two_files_reached 3
    (.inr ⟨0, by decide +kernel⟩)
  exact ⟨after, ans, ran, full⟩

-- Without disk errors no cluster is lost, and f_getfree answers how many are
-- free, from the count it keeps or by a scan.
theorem no_cluster_lost (faults : Faults) (layout : Layout) (quiet : Quiet faults)
    (info : layout.fsType = .fat32 → layout.hasInfo) (foreign : BitVec 32 → Prop) (initial drive : Drive)
    (stored : Stored faults layout foreign initial) (reached : Base.Reach (step faults) (Regular layout) initial drive) :
    (∀ clst, layout.valid clst → drive.vol.table clst ≠ 0 → foreign clst ∨ ∃ id, clst ∈ drive.files id) ∧
      ∃ nfree, (getFree faults drive.vol).2 = .ok nfree ∧ nfree.toNat = freeCount layout drive.vol.table := by
  have kept := reached_stored faults layout foreign (fun _ => quiet) info initial stored drive reached
  exact ⟨kept.tight quiet, (get_free faults layout foreign drive kept).2 quiet⟩

theorem no_cluster_lost_two_files : (∃ id, 4 ∈ twoFiles.files id) ∧
    ∃ nfree, (getFree noFaults twoFiles.vol).2 = .ok nfree ∧ nfree.toNat = freeCount smallLayout twoFiles.vol.table := by
  obtain ⟨owned, count⟩ := no_cluster_lost noFaults smallLayout quiet_none (fun other => FsType.noConfusion other)
    (fun _ => False) emptyDrive twoFiles small_stored two_files_reached
  exact ⟨(owned 4 (by decide) (by decide +kernel)).resolve_left id, count⟩

end Miso.FatFs
