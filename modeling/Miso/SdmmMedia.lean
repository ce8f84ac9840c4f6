import Miso.Base.Run
import Miso.Sdmm

set_option autoImplicit false

namespace Miso.Sdmm

open Base (Keeps keeps_pure keeps_bind keeps_ite keeps_retry Reach)

-- Everything of the driver but its traffic with the card.
def Sd.standing (sd : Sd) : DStatus × Byte × Nat × List Report := (sd.stat, sd.cardType, sd.looks, sd.history)

section

variable (board : Board)

theorem xmit_mmc_keeps (bytes : List Byte) : Keeps Sd.standing (xmitMmc board bytes) := fun _ => rfl

theorem rcvr_mmc_keeps (count : Nat) : Keeps Sd.standing (rcvrMmc board count) := fun _ => rfl

theorem rcvr_byte_keeps : Keeps Sd.standing (rcvrByte board) :=
  keeps_bind _ _ _ (rcvr_mmc_keeps board 1) fun _ => keeps_pure _ _

theorem rcvr_until_keeps (accepts : Byte → Bool) (tmr : Nat) (d : Byte) :
    Keeps Sd.standing (rcvrUntil board accepts tmr d) := by
  induction tmr generalizing d with
  | zero => exact keeps_pure _ _
  | succ tmr ih =>
      apply keeps_bind _ _ _ (rcvr_byte_keeps board)
      intro byte
      exact keeps_ite _ _ _ _ (keeps_pure _ _) (ih byte)

theorem wait_ready_keeps : Keeps Sd.standing (waitReady board) :=
  keeps_bind _ _ _ (rcvr_until_keeps board _ _ _) fun _ => keeps_pure _ _

theorem deselect_keeps : Keeps Sd.standing (deselect board) :=
  keeps_bind _ _ _ (rcvr_byte_keeps board) fun _ => keeps_pure _ _

theorem select_keeps : Keeps Sd.standing (select board) := by
  apply keeps_bind _ _ _ (rcvr_byte_keeps board)
  intro _
  apply keeps_bind _ _ _ (wait_ready_keeps board)
  intro ready
  exact keeps_ite _ _ _ _ (keeps_pure _ _) (keeps_bind _ _ _ (deselect_keeps board) fun _ => keeps_pure _ _)

theorem rcvr_datablock_keeps (btr : Nat) : Keeps Sd.standing (rcvrDatablock board btr) := by
  apply keeps_bind _ _ _ (rcvr_until_keeps board _ _ _)
  intro token
  apply keeps_ite _ _ _ _ (keeps_pure _ _)
  apply keeps_bind _ _ _ (rcvr_mmc_keeps board btr)
  intro buff
  exact keeps_bind _ _ _ (rcvr_mmc_keeps board 2) fun _ => keeps_pure _ _

theorem xmit_datablock_keeps (buff : List Byte) (token : Byte) : Keeps Sd.standing (xmitDatablock board buff token) := by
  apply keeps_bind _ _ _ (wait_ready_keeps board)
  intro ready
  apply keeps_ite _ _ _ _ _ (keeps_pure _ _)
  apply keeps_bind _ _ _ (xmit_mmc_keeps board [token])
  intro _
  apply keeps_ite _ _ _ _ _ (keeps_pure _ _)
  apply keeps_bind _ _ _ (xmit_mmc_keeps board buff)
  intro _
  apply keeps_bind _ _ _ (rcvr_mmc_keeps board 2)
  intro _
  exact keeps_bind _ _ _ (rcvr_byte_keeps board) fun _ => keeps_pure _ _

theorem send_packet_keeps (cmd : Byte) (arg : DWord) : Keeps Sd.standing (sendPacket board cmd arg) := by
  apply keeps_bind _ _ _ (xmit_mmc_keeps board _)
  intro _
  refine keeps_ite _ _ _ _ (keeps_bind _ _ _ (rcvr_byte_keeps board) fun _ => ?_) ?_
  all_goals exact keeps_bind _ _ _ (rcvr_until_keeps board _ _ _) fun _ => keeps_pure _ _

theorem send_plain_keeps (cmd : Byte) (arg : DWord) : Keeps Sd.standing (sendPlain board cmd arg) := by
  apply keeps_ite _ _ _ _ _ (send_packet_keeps board cmd arg)
  apply keeps_bind _ _ _ (deselect_keeps board)
  intro _
  apply keeps_bind _ _ _ (select_keeps board)
  intro selected
  exact keeps_ite _ _ _ _ (send_packet_keeps board cmd arg) (keeps_pure _ _)

theorem send_cmd_keeps (cmd : Byte) (arg : DWord) : Keeps Sd.standing (sendCmd board cmd arg) := by
  apply keeps_ite _ _ _ _ _ (send_plain_keeps board cmd arg)
  apply keeps_bind _ _ _ (send_plain_keeps board cmd55 0)
  intro n
  exact keeps_ite _ _ _ _ (keeps_pure _ _) (send_plain_keeps board _ arg)

theorem attempts_keeps (cmd : Byte) (arg : DWord) (tmr : Nat) :
    Keeps Sd.standing (Base.retry (do pure ((← sendCmd board cmd arg) = 0)) tmr) :=
  keeps_retry _ _ (keeps_bind _ _ _ (send_cmd_keeps board cmd arg) fun _ => keeps_pure _ _) tmr

theorem identify_sdv2_keeps : Keeps Sd.standing (identifySdv2 board) := by
  apply keeps_bind _ _ _ (rcvr_mmc_keeps board 4)
  intro buf
  apply keeps_ite _ _ _ _ _ (keeps_pure _ _)
  apply keeps_bind _ _ _ (attempts_keeps board acmd41 _ 1000)
  intro tmr
  apply keeps_ite _ _ _ _ _ (keeps_pure _ _)
  apply keeps_bind _ _ _ (send_cmd_keeps board cmd58 0)
  intro response
  apply keeps_ite _ _ _ _ _ (keeps_pure _ _)
  exact keeps_bind _ _ _ (rcvr_mmc_keeps board 4) fun _ => keeps_pure _ _

theorem identify_old_keeps : Keeps Sd.standing (identifyOld board) := by
  apply keeps_bind _ _ _ (send_cmd_keeps board acmd41 0)
  intro response
  apply keeps_bind _ _ _ (attempts_keeps board _ 0 1000)
  intro tmr
  apply keeps_ite _ _ _ _ (keeps_pure _ _)
  apply keeps_bind _ _ _ (send_cmd_keeps board cmd16 512)
  intro size
  exact keeps_ite _ _ _ _ (keeps_pure _ _) (keeps_pure _ _)

theorem identify_keeps : Keeps Sd.standing (identify board) := by
  apply keeps_bind _ _ _ (send_cmd_keeps board cmd0 0)
  intro idle
  apply keeps_ite _ _ _ _ _ (keeps_pure _ _)
  apply keeps_bind _ _ _ (send_cmd_keeps board cmd8 _)
  intro version
  exact keeps_ite _ _ _ _ (identify_sdv2_keeps board) (identify_old_keeps board)

theorem read_blocks_keeps (count : Nat) : Keeps Sd.standing (readBlocks board count) := by
  induction count with
  | zero => exact keeps_pure _ _
  | succ count ih =>
      apply keeps_bind _ _ _ (rcvr_datablock_keeps board 512)
      intro block
      cases block with
      | none => exact keeps_pure _ _
      | some block => exact keeps_bind _ _ _ ih fun _ => keeps_pure _ _

theorem write_blocks_keeps (buff : Nat → List Byte) (total count : Nat) :
    Keeps Sd.standing (writeBlocks board buff total count) := by
  induction count with
  | zero => exact keeps_pure _ _
  | succ count ih =>
      apply keeps_bind _ _ _ (xmit_datablock_keeps board _ _)
      intro sent
      exact keeps_ite _ _ _ _ ih (keeps_pure _ _)

theorem write_single_keeps (buff : Nat → List Byte) (sect : DWord) : Keeps Sd.standing (writeSingle board buff sect) := by
  apply keeps_bind _ _ _ (send_cmd_keeps board cmd24 sect)
  intro response
  apply keeps_ite _ _ _ _ _ (keeps_pure _ _)
  apply keeps_bind _ _ _ (xmit_datablock_keeps board _ _)
  intro sent
  exact keeps_ite _ _ _ _ (keeps_pure _ _) (keeps_pure _ _)

theorem write_multiple_keeps (buff : Nat → List Byte) (sect : DWord) (count : Nat) :
    Keeps Sd.standing (writeMultiple board buff sect count) := by
  have transfer : Keeps Sd.standing (do
      if (← sendCmd board cmd25 sect) = 0 then do
        let left ← writeBlocks board buff count count
        if ← xmitDatablock board [] 0xFD then pure left else pure 1
      else pure count) := by
    apply keeps_bind _ _ _ (send_cmd_keeps board cmd25 sect)
    intro response
    apply keeps_ite _ _ _ _ _ (keeps_pure _ _)
    apply keeps_bind _ _ _ (write_blocks_keeps board buff count count)
    intro left
    apply keeps_bind _ _ _ (xmit_datablock_keeps board _ _)
    intro stopped
    exact keeps_ite _ _ _ _ (keeps_pure _ _) (keeps_pure _ _)
  apply keeps_bind _ _ _ (fun _ => rfl)
  intro sd
  exact keeps_ite _ _ _ _ (keeps_bind _ _ _ (send_cmd_keeps board acmd23 _) fun _ => transfer) transfer

theorem read_sectors_keeps (sector : DWord) (count : Nat) : Keeps Sd.standing (readSectors board sector count) := by
  apply keeps_bind _ _ _ (fun _ => rfl)
  intro sd
  apply keeps_bind
  · apply keeps_bind _ _ _ (send_cmd_keeps board _ _)
    intro response
    apply keeps_ite _ _ _ _ _ (keeps_pure _ _)
    apply keeps_bind _ _ _ (read_blocks_keeps board count)
    intro read
    exact keeps_ite _ _ _ _ (keeps_bind _ _ _ (send_cmd_keeps board cmd12 0) fun _ => keeps_pure _ _) (keeps_pure _ _)
  · intro read
    exact keeps_bind _ _ _ (deselect_keeps board) fun _ => keeps_pure _ _

theorem write_sectors_keeps (buff : Nat → List Byte) (sector : DWord) (count : Nat) :
    Keeps Sd.standing (writeSectors board buff sector count) := by
  have finish (left : Nat) : Keeps Sd.standing (do
      deselect board
      pure (if left ≠ 0 then DResult.error else DResult.ok)) :=
    keeps_bind _ _ _ (deselect_keeps board) fun _ => keeps_pure _ _
  apply keeps_bind _ _ _ (fun _ => rfl)
  intro sd
  exact keeps_ite _ _ _ _ (keeps_bind _ _ _ (write_single_keeps board buff _) finish)
    (keeps_bind _ _ _ (write_multiple_keeps board buff _ count) finish)

theorem control_keeps (ctrl : Byte) : Keeps Sd.standing (controlAndDeselect board ctrl) := by
  apply keeps_bind
  · apply keeps_ite
    · apply keeps_bind _ _ _ (select_keeps board)
      intro selected
      exact keeps_ite _ _ _ _ (keeps_pure _ _) (keeps_pure _ _)
    · apply keeps_ite _ _ _ _ _ (keeps_ite _ _ _ _ (keeps_pure _ _) (keeps_pure _ _))
      apply keeps_bind _ _ _ (send_cmd_keeps board cmd9 0)
      intro response
      apply keeps_ite _ _ _ _ _ (keeps_pure _ _)
      apply keeps_bind _ _ _ (rcvr_datablock_keeps board 16)
      intro csd
      cases csd <;> exact keeps_pure _ _
  · intro result
    exact keeps_bind _ _ _ (deselect_keeps board) fun _ => keeps_pure _ _

inductive Call where
  | status
  | init
  | read (sector : DWord) (count : SectorCount)
  | write (buff : Nat → List Byte) (sector : DWord) (count : SectorCount)
  | ioctl (ctrl : Byte)

def logServed (before : Sd) (served : DResult × Sd) : Sd :=
  { served.2 with history := .served served.1 (served.2.wire.length = before.wire.length) :: served.2.history }

def step : Base.Step Sd Call := fun sd call =>
  match call with
  | .status => some ((diskStatus board 0).run sd).2
  | .init => some ((diskInitialize board 0).run sd).2
  | .read sector count => some (logServed sd ((Prod.fst <$> diskRead board 0 sector count).run sd))
  | .write buff sector count => some (logServed sd ((diskWrite board 0 buff sector count).run sd))
  | .ioctl ctrl => some (logServed sd ((Prod.fst <$> diskIoctl board 0 ctrl).run sd))

def Noinit (stat : DStatus) : Prop := stat &&& staNoinit ≠ 0

instance (stat : DStatus) : Decidable (Noinit stat) := inferInstanceAs (Decidable (_ ≠ _))

-- The slot was seen empty and no card has been initialised since.
def removed : List Report → Bool
  | [] => false
  | .status inserted _ :: rest => !inserted || removed rest
  | .initialised :: _ => false
  | .served _ _ :: rest => removed rest

def Reported : List Report → Prop
  | [] => True
  | .status _ reported :: rest => (removed rest = true → Noinit reported) ∧ Reported rest
  | .initialised :: rest => Reported rest
  | .served result quiet :: rest => (removed rest = true → result = .notrdy ∧ quiet = true) ∧ Reported rest

-- The slot is not seen empty while the drive counts as initialised.
def RemovalKnown (sd : Sd) (_ : Call) : Prop := board.isInserted sd.looks = true ∨ Noinit sd.stat

structure MediaSafe (sd : Sd) : Prop where
  reported : Reported sd.history
  noinit : removed sd.history = true → Noinit sd.stat

theorem noinit_look (inserted : Bool) (stat : DStatus) : Noinit (lookStat inserted stat) ↔ Noinit stat := by
  cases inserted <;> revert stat <;> decide

theorem standing_safe (sd after : Sd) (kept : after.standing = sd.standing) (inv : MediaSafe sd) : MediaSafe after := by
  obtain ⟨stat, _, _, history⟩ : after.stat = sd.stat ∧ after.cardType = sd.cardType ∧ after.looks = sd.looks ∧
      after.history = sd.history := by simpa [Sd.standing] using kept
  exact ⟨by rw [history]; exact inv.reported, by rw [history, stat]; exact inv.noinit⟩

def Sd.looked (sd : Sd) : Sd :=
  { sd with
    stat := lookStat (board.isInserted sd.looks) sd.stat
    looks := sd.looks + 1
    history := .status (board.isInserted sd.looks) (lookStat (board.isInserted sd.looks) sd.stat) :: sd.history }

theorem looked_safe (sd : Sd) (inv : MediaSafe sd) (known : board.isInserted sd.looks = true ∨ Noinit sd.stat) :
    MediaSafe (sd.looked board) where
  reported := ⟨fun gone => (noinit_look _ _).mpr (inv.noinit gone), inv.reported⟩
  noinit := by
    intro gone
    apply (noinit_look _ _).mpr
    simp only [Sd.looked, removed, Bool.or_eq_true, Bool.not_eq_true'] at gone
    rcases known with inserted | noinit
    · rcases gone with empty | before
      · simp [inserted] at empty
      · exact inv.noinit before
    · exact noinit

def guardedBy {α : Type} (refused : α) (serve : Driver α) : Driver α := do
  if (← diskStatus board 0) &&& staNoinit ≠ 0 then pure refused else serve

theorem guarded_run {α : Type} (refused : α) (serve : Driver α) (sd : Sd) :
    (guardedBy board refused serve).run sd =
      if Noinit (sd.looked board).stat then (refused, sd.looked board) else serve.run (sd.looked board) := by
  have opened : (guardedBy board refused serve).run sd =
      (if Noinit (sd.looked board).stat then pure refused else serve : Driver α).run (sd.looked board) := rfl
  rw [opened]
  split <;> rfl

theorem served_safe {α : Type} (answer : α → DResult) (refused : α) (serve : Driver α) (sd : Sd) (inv : MediaSafe sd)
    (known : board.isInserted sd.looks = true ∨ Noinit sd.stat) (notrdy : answer refused = .notrdy)
    (kept : Keeps Sd.standing serve) :
    MediaSafe (logServed sd ((answer <$> guardedBy board refused serve).run sd)) := by
  have looked := looked_safe board sd inv known
  have mapped : (answer <$> guardedBy board refused serve).run sd =
      (answer ((guardedBy board refused serve).run sd).1, ((guardedBy board refused serve).run sd).2) := rfl
  rw [mapped, guarded_run]
  by_cases noinit : Noinit (sd.looked board).stat
  · rw [if_pos noinit]
    exact ⟨⟨fun _ => ⟨notrdy, by simp [Sd.looked]⟩, looked.reported⟩, fun _ => noinit⟩
  · rw [if_neg noinit]
    have after := standing_safe (sd.looked board) (serve.run (sd.looked board)).2 (kept (sd.looked board)) looked
    have present : removed (serve.run (sd.looked board)).2.history = false := by
      by_contra gone
      have same := kept (sd.looked board)
      have stat : (serve.run (sd.looked board)).2.stat = (sd.looked board).stat := congrArg (fun standing => standing.1) same
      exact noinit (stat ▸ after.noinit (by simpa using gone))
    refine ⟨⟨fun gone => ?_, after.reported⟩, fun gone => ?_⟩
    · rw [present] at gone
      cases gone
    · exact after.noinit gone

-- Success clears STA_NOINIT for a card just initialised; after a failure it is
-- set when disk_disable asks for the status.
def Sd.identified (sd : Sd) (ty : Byte) : Sd :=
  { sd with
    cardType := ty
    stat := if ty ≠ 0 then 0 else staNoinit
    history := if ty ≠ 0 then .initialised :: sd.history else sd.history }

theorem run_initialisation_safe (sd : Sd) (inv : MediaSafe sd) : MediaSafe ((runInitialisation board).run sd).2 := by
  generalize ready : ((rcvrMmc board 10).run sd).2 = woken
  generalize named : (identify board).run woken = identified
  have same : identified.2.standing = sd.standing := by
    rw [← named, ← ready]
    exact (identify_keeps board _).trans (rcvr_mmc_keeps board 10 sd)
  have before := standing_safe sd identified.2 same inv
  have opened : (runInitialisation board).run sd = (if identified.1 ≠ 0 then pure 0 else diskDisable board : Driver DStatus).run
      ((deselect board).run (identified.2.identified identified.1)).2 := by
    unfold runInitialisation
    rw [Base.run_then, Base.run_then, ready, named]
    rfl
  rw [opened]
  have kept := deselect_keeps board (identified.2.identified identified.1)
  split
  · rename_i found
    refine standing_safe _ _ kept ⟨?_, ?_⟩
    · simp only [Sd.identified, found, if_true, ne_eq, not_false_eq_true]
      exact before.reported
    · simp only [Sd.identified, found, if_true, ne_eq, not_false_eq_true]
      exact fun gone => by cases gone
  · rename_i failed
    have failure : MediaSafe (identified.2.identified identified.1) := by
      refine ⟨?_, ?_⟩
      · simp only [Sd.identified, failed, if_false]
        exact before.reported
      · simp only [Sd.identified, failed, if_false]
        exact fun _ => by decide
    have off := standing_safe _ _ kept failure
    apply looked_safe board _ off
    right
    have stat : ((deselect board).run (identified.2.identified identified.1)).2.stat =
        (identified.2.identified identified.1).stat := congrArg (fun standing => standing.1) kept
    rw [stat]
    simp only [Sd.identified, failed, if_false]
    decide

theorem disk_initialize_safe (sd : Sd) (inv : MediaSafe sd) (known : board.isInserted sd.looks = true ∨ Noinit sd.stat) :
    MediaSafe ((diskInitialize board 0).run sd).2 := by
  have looked := looked_safe board sd inv known
  have opened : (diskInitialize board 0).run sd =
      (if (sd.looked board).stat = 0 then pure 0 else runInitialisation board : Driver DStatus).run (sd.looked board) := rfl
  rw [opened]
  split
  · exact looked
  · exact run_initialisation_safe board (sd.looked board) looked

theorem step_safe (sd after : Sd) (call : Call) (inv : MediaSafe sd) (known : RemovalKnown board sd call)
    (taken : step board sd call = some after) : MediaSafe after := by
  cases call with
  | status =>
      cases taken
      exact looked_safe board sd inv known
  | init =>
      cases taken
      exact disk_initialize_safe board sd inv known
  | read sector count =>
      cases taken
      exact served_safe board Prod.fst _ _ sd inv known rfl (read_sectors_keeps board sector count.count)
  | write buff sector count =>
      cases taken
      have served := served_safe board id DResult.notrdy _ sd inv known rfl (write_sectors_keeps board buff sector count.count)
      exact served
  | ioctl ctrl =>
      cases taken
      exact served_safe board Prod.fst _ _ sd inv known rfl (control_keeps board ctrl)

-- The condition cannot be dropped: a removal seen while STA_NOINIT is clear
-- breaks the next status, whatever the slot holds then.
theorem removal_unreported (sd : Sd) (empty : board.isInserted sd.looks = false) (ready : ¬ Noinit sd.stat) :
    ¬ Reported ((sd.looked board).looked board).history := by
  intro reported
  have gone : removed (sd.looked board).history = true := by simp [Sd.looked, removed, empty]
  have told := (noinit_look _ _).mp (reported.1 gone)
  exact ready ((noinit_look _ _).mp told)

theorem media_change_safe (sd : Sd) (reached : Reach (step board) (RemovalKnown board) .initial sd) :
    Reported sd.history := by
  have inv : MediaSafe sd := Base.reach_invariant (step board) (RemovalKnown board) .initial MediaSafe
    ⟨trivial, fun _ => by decide⟩ (fun before call after inv known taken => step_safe board before after call inv known taken)
    sd reached
  exact inv.reported

end

instance (board : Board) (sd : Sd) (call : Call) : Decidable (RemovalKnown board sd call) :=
  inferInstanceAs (Decidable (_ ∨ _))

def oldCard (inserted : Nat → Bool) : Board where
  isInserted := inserted
  code := fun _ => 0
  received := fun index _ => if index = 5 ∨ index = 15 ∨ index = 20 ∨ index = 25 then 0x01
    else if index = 10 then 0x05 else if index = 30 ∨ index = 35 then 0x00 else 0xFF

-- The empty slot is seen before the initialisation; the card comes later.
theorem media_change_safe_inserted : ∃ sd, Reach (step (oldCard fun look => look ≠ 0))
    (RemovalKnown (oldCard fun look => look ≠ 0)) .initial sd ∧
    sd.history = [.status true 0, .initialised, .status true 1, .status false 3] ∧ Reported sd.history := by
  obtain ⟨sd, reached, seen⟩ := Base.guarded_run_view (step (oldCard fun look => look ≠ 0))
    (RemovalKnown (oldCard fun look => look ≠ 0)) .initial [.status, .init, .status] Sd.history
    [.status true 0, .initialised, .status true 1, .status false 3] (by decide +kernel)
  exact ⟨sd, reached, seen, media_change_safe _ sd reached⟩

-- The card is taken out of an initialised drive, seen to be gone, and another
-- one is put in.
theorem removal_forgotten : ¬ ∀ (board : Board) (sd : Sd), Reach (step board) Base.always .initial sd → Reported sd.history := by
  intro safe
  obtain ⟨sd, reached, seen⟩ := Base.guarded_run_view (step (oldCard fun look => look ≠ 1)) Base.always .initial
    [.init, .status, .status] Sd.history
    [.status true 0, .status false 2, .initialised, .status true 1] (by decide +kernel)
  have reported := safe _ sd reached
  rw [seen] at reported
  exact absurd (reported.1 rfl) (by decide)

end Miso.Sdmm
