import Miso.SdmmMedia
import Miso.SdmmTraffic

set_option autoImplicit false

namespace Miso.Sdmm

open Base (Emits Then emits_pure emits_bind emits_iff emits_map emits_ite emits_get emits_run_iff)

-- The traffic of a call that returns RES_OK: the command accepted, every
-- block delivered or acknowledged, whatever comes of the commands whose
-- results the driver does not read.
inductive ReadAccepted (cmd : Byte) (sect : DWord) (count : Nat) : List Byte → List Event → Prop where
  | read (buff : List Byte) (last : Byte) (command blocks stop idle : List Event) (accepted : Commanded cmd sect 0 command)
      (received : Blocks count (0, buff) blocks)
      (stopped : if cmd = cmd18 then ∃ d, Commanded cmd12 0 d stop else stop = []) (deselected : Got .filler [last] idle) :
      ReadAccepted cmd sect count buff (command ++ blocks ++ stop ++ idle)

inductive WriteAccepted (cardType : Byte) (sect : DWord) (buff : Nat → List Byte) (count : Nat) : List Event → Prop where
  | single (last : Byte) (command block idle : List Event) (one : count = 1) (accepted : Commanded cmd24 sect 0 command)
      (acknowledged : SentBlock (buff 0) 0xFE true block) (deselected : Got .filler [last] idle) :
      WriteAccepted cardType sect buff count (command ++ block ++ idle)
  | multiple (last : Byte) (announced command blocks stop idle : List Event) (several : count ≠ 1)
      (announce : if cardType &&& ctSdc ≠ 0 then ∃ d, Commanded acmd23 count d announced else announced = [])
      (accepted : Commanded cmd25 sect 0 command) (acknowledged : SentBlocks buff count count 0 blocks)
      (stopped : SentBlock [] 0xFD true stop) (deselected : Got .filler [last] idle) :
      WriteAccepted cardType sect buff count (announced ++ command ++ blocks ++ stop ++ idle)

def readCmd (count : Nat) : Byte := if count > 1 then cmd18 else cmd17

def payloads (events : List Event) : List (List Byte) :=
  (events.filter fun event => event.role = .data).map fun event => event.transfer.bytes

def Succeeded (events : List Event) : Prop := ∀ event ∈ events, event.role ≠ .filler → event.transfer.code = 0

section

variable (board : Board)

-- On RES_OK every transfer of the call that is not a filler succeeded, and
-- its data transfers are the blocks of the buffer.
def ReadFaithful (sd : Sd) (drv : Byte) (sector : DWord) (count : SectorCount) : Prop :=
  ∀ buff after, (diskRead board drv sector count).run sd = ((.ok, buff), after) →
    let accepted := ReadAccepted (readCmd count.count) (cardAddress sd.cardType sector) count.count buff
    (∃ events, after.wire = (sd.logged events).wire ∧ accepted events) ∧
      ∀ events, after.wire = (sd.logged events).wire → accepted events →
        Succeeded events ∧ (payloads events).length = count.count ∧ (∀ block ∈ payloads events, block.length = 512) ∧
          (payloads events).flatten = buff

def WriteFaithful (sd : Sd) (drv : Byte) (buff : Nat → List Byte) (sector : DWord) (count : SectorCount) : Prop :=
  ∀ after, (diskWrite board drv buff sector count).run sd = (.ok, after) →
    let accepted := WriteAccepted sd.cardType (cardAddress sd.cardType sector) buff count.count
    (∃ events, after.wire = (sd.logged events).wire ∧ accepted events) ∧
      ∀ events, after.wire = (sd.logged events).wire → accepted events →
        Succeeded events ∧ payloads events = (List.range count.count).map buff

theorem fits_transfers (position : Nat) (events others : List Event)
    (same : events.map Event.transfer = others.map Event.transfer) (fits : FitsFrom board position events) :
    FitsFrom board position others := by
  induction others generalizing position events with
  | nil => trivial
  | cons other rest ih =>
      cases events with
      | nil => simp at same
      | cons event tail =>
          obtain ⟨head, later⟩ := List.cons.inj same
          exact ⟨head ▸ fits.1, ih (position + 1) tail later fits.2⟩

theorem logged_transfers (sd : Sd) (events others : List Event) (same : (sd.logged events).wire = (sd.logged others).wire) :
    events.map Event.transfer = others.map Event.transfer :=
  List.reverse_inj.mp (List.append_cancel_right same)

theorem read_command_emits (cmd : Byte) (sect : DWord) (count : Nat) (sd : Sd) :
    Emits (wireOf board) (readCommand board cmd sect count) sd fun result events =>
      (∃ command blocks stop, events = command ++ blocks ++ stop ∧ Commanded cmd sect 0 command ∧ Blocks count result blocks ∧
        if cmd = cmd18 then ∃ d, Commanded cmd12 0 d stop else stop = []) ∨
      ∃ d, d ≠ 0 ∧ Commanded cmd sect d events ∧ result = (count, []) := by
  have sent := emits_bind _ _ sd _ _ (cmd_emits board cmd sect sd) fun d events _ =>
    emits_ite (d = 0) _ _ _ _ _
      (fun _ => emits_bind _ _ _ _ _ (read_blocks_emits board count _) fun read events _ =>
        emits_ite (cmd = cmd18) _ _ _ _ _ (fun _ => emits_map _ (fun _ => read) _ _ (cmd_emits board cmd12 0 _))
          fun _ => emits_pure read _)
      fun _ => emits_pure (count, []) _
  apply emits_iff _ _ _ _ _ sent
  intro result events
  constructor
  · rintro ⟨d, command, after, rfl, commanded, ⟨rfl, read, blocks, stop, rfl, received, stopped⟩ | ⟨refused, rfl, rfl⟩⟩
    · refine .inl ⟨command, blocks, stop, (List.append_assoc _ _ _).symm, commanded, ?_⟩
      rcases stopped with ⟨multiple, d, stopped, rfl⟩ | ⟨single, rfl, rfl⟩
      · exact ⟨received, by rw [if_pos multiple]; exact ⟨d, stopped⟩⟩
      · exact ⟨received, by rw [if_neg single]⟩
    · rw [List.append_nil]
      exact .inr ⟨d, refused, commanded, rfl⟩
  · rintro (⟨command, blocks, stop, rfl, commanded, received, stopped⟩ | ⟨d, refused, commanded, rfl⟩)
    · refine ⟨0, command, blocks ++ stop, List.append_assoc _ _ _, commanded, .inl ⟨rfl, result, blocks, stop, rfl, received, ?_⟩⟩
      by_cases multiple : cmd = cmd18
      · rw [if_pos multiple] at stopped
        obtain ⟨d, stopped⟩ := stopped
        exact .inl ⟨multiple, d, stopped, rfl⟩
      · rw [if_neg multiple] at stopped
        exact .inr ⟨multiple, rfl, stopped⟩
    · exact ⟨d, events, [], (List.append_nil events).symm, commanded, .inr ⟨refused, rfl, rfl⟩⟩

theorem read_sectors_ok_iff (sector : DWord) (count : Nat) (positive : 0 < count) (buff : List Byte) (sd after : Sd) :
    (readSectors board sector count).run sd = ((.ok, buff), after) ↔
      ∃ events, FitsFrom board sd.wire.length events ∧
        ReadAccepted (readCmd count) (cardAddress sd.cardType sector) count buff events ∧ after = sd.logged events := by
  have read : Emits (wireOf board) (readSectors board sector count) sd _ :=
    emits_get _ sd _ (emits_bind _ _ sd _ _ (read_command_emits board (readCmd count) (cardAddress sd.cardType sector) count sd)
      fun result events _ =>
        emits_map _ (fun _ => (if result.1 ≠ 0 then DResult.error else .ok, result.2)) _ _ (deselect_emits board _))
  rw [emits_run_iff _ _ _ read]
  refine exists_congr fun events => and_congr_right fun _ => and_congr_left fun _ => ?_
  constructor
  · rintro ⟨⟨left, content⟩, before, idle, rfl, traffic, _, ⟨last, deselected⟩, outcome⟩
    obtain ⟨done, rfl⟩ := Prod.mk.inj outcome
    have none : left = 0 := by
      by_contra some
      simp [some] at done
    subst none
    rcases traffic with ⟨command, blocks, stop, rfl, accepted, received, stopped⟩ | ⟨d, _, _, failed⟩
    · exact .read buff last command blocks stop idle accepted received stopped deselected
    · obtain ⟨rfl, _⟩ := Prod.mk.inj failed
      exact absurd positive (Nat.lt_irrefl 0)
  · rintro ⟨last, command, blocks, stop, idle, accepted, received, stopped, deselected⟩
    exact ⟨(0, buff), command ++ blocks ++ stop, idle, rfl, .inl ⟨command, blocks, stop, rfl, accepted, received, stopped⟩, (),
      ⟨last, deselected⟩, rfl⟩

theorem write_single_emits (buff : Nat → List Byte) (sect : DWord) (sd : Sd) :
    Emits (wireOf board) (writeSingle board buff sect) sd fun left events =>
      (∃ command block ok, events = command ++ block ∧ Commanded cmd24 sect 0 command ∧ SentBlock (buff 0) 0xFE ok block ∧
        left = if ok then 0 else 1) ∨
      ∃ d, d ≠ 0 ∧ Commanded cmd24 sect d events ∧ left = 1 := by
  have sent := emits_bind _ _ sd _ _ (cmd_emits board cmd24 sect sd) fun d events _ =>
    emits_ite (d = 0) _ _ _ _ _
      (fun _ => emits_bind _ _ _ _ _ (xmit_datablock_emits board (buff 0) 0xFE _) fun ok events _ =>
        emits_ite (ok = true) _ _ _ _ _ (fun _ => emits_pure 0 _) fun _ => emits_pure 1 _)
      fun _ => emits_pure 1 _
  apply emits_iff _ _ _ _ _ sent
  intro left events
  constructor
  · rintro ⟨d, command, after, rfl, commanded, ⟨rfl, ok, block, rest, rfl, acknowledged, outcome⟩ | ⟨refused, rfl, rfl⟩⟩
    · rcases outcome with ⟨rfl, rfl, rfl⟩ | ⟨refused, rfl, rfl⟩
      · exact .inl ⟨command, block, true, by simp, commanded, acknowledged, rfl⟩
      · exact .inl ⟨command, block, ok, by simp, commanded, acknowledged, by simp [refused]⟩
    · rw [List.append_nil]
      exact .inr ⟨d, refused, commanded, rfl⟩
  · rintro (⟨command, block, ok, rfl, commanded, acknowledged, rfl⟩ | ⟨d, refused, commanded, rfl⟩)
    · refine ⟨0, command, block, rfl, commanded, .inl ⟨rfl, ok, block, [], (List.append_nil block).symm, acknowledged, ?_⟩⟩
      cases ok with
      | true => exact .inl ⟨rfl, rfl, rfl⟩
      | false => exact .inr ⟨by simp, rfl, rfl⟩
    · exact ⟨d, events, [], (List.append_nil events).symm, commanded, .inr ⟨refused, rfl, rfl⟩⟩

-- CMD25 with its blocks and the stop token, or its refusal.
def Written (buff : Nat → List Byte) (sect : DWord) (count left : Nat) (events : List Event) : Prop :=
  (∃ command blocks stop ok unsent, events = command ++ blocks ++ stop ∧ Commanded cmd25 sect 0 command ∧
    SentBlocks buff count count unsent blocks ∧ SentBlock [] 0xFD ok stop ∧ left = if ok then unsent else 1) ∨
  ∃ d, d ≠ 0 ∧ Commanded cmd25 sect d events ∧ left = count

theorem write_rest_emits (buff : Nat → List Byte) (sect : DWord) (count : Nat) (sd : Sd) :
    Emits (wireOf board) (do
      if (← sendCmd board cmd25 sect) = 0 then do
        let left ← writeBlocks board buff count count
        if ← xmitDatablock board [] 0xFD then pure left else pure 1
      else pure count) sd (Written buff sect count) := by
  have sent := emits_bind _ _ sd _ _ (cmd_emits board cmd25 sect sd) fun d events _ =>
    emits_ite (d = 0) _ _ _ _ _
      (fun _ => emits_bind _ _ _ _ _ (write_blocks_emits board buff count count _) fun unsent events _ =>
        emits_bind _ _ _ _ _ (xmit_datablock_emits board [] 0xFD _) fun ok events _ =>
          emits_ite (ok = true) _ _ _ _ _ (fun _ => emits_pure unsent _) fun _ => emits_pure 1 _)
      fun _ => emits_pure count _
  apply emits_iff _ _ _ _ _ sent
  intro left events
  constructor
  · rintro ⟨d, command, after, rfl, commanded, ⟨rfl, unsent, blocks, tail, rfl, sent, ok, stop, rest, rfl, stopped, outcome⟩ |
      ⟨refused, rfl, rfl⟩⟩
    · rcases outcome with ⟨rfl, rfl, rfl⟩ | ⟨refused, rfl, rfl⟩
      · exact .inl ⟨command, blocks, stop, true, left, by simp, commanded, sent, stopped, rfl⟩
      · exact .inl ⟨command, blocks, stop, ok, unsent, by simp, commanded, sent, stopped, by simp [refused]⟩
    · rw [List.append_nil]
      exact .inr ⟨d, refused, commanded, rfl⟩
  · rintro (⟨command, blocks, stop, ok, unsent, rfl, commanded, sent, stopped, rfl⟩ | ⟨d, refused, commanded, rfl⟩)
    · refine ⟨0, command, blocks ++ stop, List.append_assoc _ _ _, commanded,
        .inl ⟨rfl, unsent, blocks, stop, rfl, sent, ok, stop, [], (List.append_nil stop).symm, stopped, ?_⟩⟩
      cases ok with
      | true => exact .inl ⟨rfl, rfl, rfl⟩
      | false => exact .inr ⟨by simp, rfl, rfl⟩
    · exact ⟨d, events, [], (List.append_nil events).symm, commanded, .inr ⟨refused, rfl, rfl⟩⟩

theorem write_multiple_emits (buff : Nat → List Byte) (sect : DWord) (count : Nat) (sd : Sd) :
    Emits (wireOf board) (writeMultiple board buff sect count) sd fun left events =>
      ∃ announced rest, events = announced ++ rest ∧
        (if sd.cardType &&& ctSdc ≠ 0 then ∃ d, Commanded acmd23 count d announced else announced = []) ∧
        Written buff sect count left rest := by
  have sent : Emits (wireOf board) (writeMultiple board buff sect count) sd _ :=
    emits_get _ sd _ (emits_ite (sd.cardType &&& ctSdc ≠ 0) _ _ sd _ _
      (fun _ => emits_bind _ _ sd _ _ (cmd_emits board acmd23 count sd) fun _ events _ =>
        write_rest_emits board buff sect count _)
      fun _ => write_rest_emits board buff sect count sd)
  apply emits_iff _ _ _ _ _ sent
  intro left events
  constructor
  · rintro (⟨sdc, d, announced, rest, rfl, announce, outcome⟩ | ⟨other, outcome⟩)
    · exact ⟨announced, rest, rfl, by rw [if_pos sdc]; exact ⟨d, announce⟩, outcome⟩
    · exact ⟨[], events, rfl, by rw [if_neg other], outcome⟩
  · rintro ⟨announced, rest, rfl, announce, outcome⟩
    by_cases sdc : sd.cardType &&& ctSdc ≠ 0
    · rw [if_pos sdc] at announce
      obtain ⟨d, announce⟩ := announce
      exact .inl ⟨sdc, d, announced, rest, rfl, announce, outcome⟩
    · rw [if_neg sdc] at announce
      subst announce
      exact .inr ⟨sdc, outcome⟩

theorem write_sectors_ok_iff (buff : Nat → List Byte) (sector : DWord) (count : Nat) (positive : 0 < count) (sd after : Sd) :
    (writeSectors board buff sector count).run sd = (.ok, after) ↔
      ∃ events, FitsFrom board sd.wire.length events ∧
        WriteAccepted sd.cardType (cardAddress sd.cardType sector) buff count events ∧ after = sd.logged events := by
  have closed (left : Nat) (start : Sd) := emits_map _ (fun _ => if left ≠ 0 then DResult.error else .ok) start _
    (deselect_emits board start)
  have written : Emits (wireOf board) (writeSectors board buff sector count) sd _ :=
    emits_get _ sd _ (emits_ite (count = 1) _ _ sd _ _
      (fun _ => emits_bind _ _ sd _ _ (write_single_emits board buff (cardAddress sd.cardType sector) sd)
        fun left events _ => closed left _)
      fun _ => emits_bind _ _ sd _ _ (write_multiple_emits board buff (cardAddress sd.cardType sector) count sd)
        fun left events _ => closed left _)
  rw [emits_run_iff _ _ _ written]
  refine exists_congr fun events => and_congr_right fun _ => and_congr_left fun _ => ?_
  have finished (left : Nat) (done : DResult.ok = if left ≠ 0 then DResult.error else .ok) : left = 0 := by
    by_contra some
    simp [some] at done
  constructor
  · rintro (⟨one, left, before, idle, rfl, single, _, ⟨last, deselected⟩, outcome⟩ |
      ⟨several, left, before, idle, rfl, ⟨announced, rest, rfl, announce, multiple⟩, _, ⟨last, deselected⟩, outcome⟩)
    · obtain rfl := finished left outcome
      rcases single with ⟨command, block, ok, rfl, accepted, acknowledged, done⟩ | ⟨_, _, _, failed⟩
      · cases ok with
        | true => exact .single last command block idle one accepted acknowledged deselected
        | false => cases done
      · cases failed
    · obtain rfl := finished left outcome
      rcases multiple with ⟨command, blocks, stop, ok, unsent, rfl, accepted, acknowledged, stopped, done⟩ | ⟨_, _, _, failed⟩
      · cases ok with
        | true =>
            obtain rfl : 0 = unsent := done
            have traffic := WriteAccepted.multiple last announced command blocks stop idle several announce accepted acknowledged
              stopped deselected
            simpa only [List.append_assoc] using traffic
        | false => cases done
      · exact absurd failed (Nat.ne_of_lt positive)
  · intro traffic
    cases traffic with
    | single last command block idle one accepted acknowledged deselected =>
        exact .inl ⟨one, 0, command ++ block, idle, rfl, .inl ⟨command, block, true, rfl, accepted, acknowledged, rfl⟩, (),
          ⟨last, deselected⟩, rfl⟩
    | multiple last announced command blocks stop idle several announce accepted acknowledged stopped deselected =>
        refine .inr ⟨several, 0, announced ++ (command ++ blocks ++ stop), idle, by simp only [List.append_assoc],
          ⟨announced, _, rfl, announce, .inl ?_⟩, (), ⟨last, deselected⟩, rfl⟩
        exact ⟨command, blocks, stop, true, 0, rfl, accepted, acknowledged, stopped, rfl⟩

end

section Payloads

@[simp] theorem payloads_append (first second : List Event) : payloads (first ++ second) = payloads first ++ payloads second := by
  simp [payloads]

theorem payloads_got (role : Role) (bytes : List Byte) (events : List Event) (got : Got role bytes events) :
    payloads events = if role = .data then [bytes] else [] := by
  obtain ⟨code, rfl⟩ := got
  by_cases data : role = .data
  · simp [payloads, data, Transfer.bytes]
  · simp [payloads, data]

theorem payloads_put (role : Role) (bytes : List Byte) (events : List Event) (put : Put role bytes events) :
    payloads events = if role = .data then [bytes] else [] := by
  obtain ⟨code, rfl⟩ := put
  by_cases data : role = .data
  · simp [payloads, data, Transfer.bytes]
  · simp [payloads, data]

theorem polled_payloads (role : Role) (accepts : Byte → Bool) (other : role ≠ .data) (tmr : Nat) (last : Byte)
    (result : Nat × Byte) (events : List Event) (polled : Polled role accepts tmr last result events) : payloads events = [] := by
  induction polled with
  | spent => rfl
  | hit _ _ d poll _ got => rw [payloads_got role [d] poll got, if_neg other]
  | miss _ _ d _ poll rest _ got _ ih =>
      rw [payloads_append, payloads_got .filler [d] poll got, ih]
      rfl

theorem ready_payloads (ready : Bool) (events : List Event) (waited : Ready ready events) : payloads events = [] := by
  obtain ⟨_, _, polled, _⟩ := waited
  exact polled_payloads .filler _ (by decide) _ _ _ _ polled

theorem selected_payloads (selected : Bool) (events : List Event) (traffic : Selected selected events) : payloads events = [] := by
  cases traffic with
  | ready d dummy polls clock ready => rw [payloads_append, payloads_got _ _ _ clock, ready_payloads _ _ ready]; rfl
  | busy d last dummy polls idle clock busy deselected =>
      rw [payloads_append, payloads_append, payloads_got _ _ _ clock, ready_payloads _ _ busy, payloads_got _ _ _ deselected]
      rfl

theorem packet_payloads (cmd : Byte) (arg : DWord) (d : Byte) (events : List Event) (traffic : Packet cmd arg d events) :
    payloads events = [] := by
  cases traffic with
  | stop stuff _ left packet skipped polls _ sent skip answered =>
      rw [payloads_append, payloads_append, payloads_put _ _ _ sent, payloads_got _ _ _ skip,
        polled_payloads .response _ (by decide) _ _ _ _ answered]
      rfl
  | plain _ left packet polls _ sent answered =>
      rw [payloads_append, payloads_put _ _ _ sent, polled_payloads .response _ (by decide) _ _ _ _ answered]
      rfl

theorem plain_payloads (cmd : Byte) (arg : DWord) (d : Byte) (events : List Event) (traffic : Plain cmd arg d events) :
    payloads events = [] := by
  cases traffic with
  | stop _ _ _ sent => exact packet_payloads cmd arg d events sent
  | busy last idle failed _ deselected busy =>
      rw [payloads_append, payloads_got _ _ _ deselected, selected_payloads _ _ busy]
      rfl
  | ready _ last idle selected packet _ deselected ready sent =>
      rw [payloads_append, payloads_append, payloads_got _ _ _ deselected, selected_payloads _ _ ready,
        packet_payloads cmd arg d packet sent]
      rfl

theorem commanded_payloads (cmd : Byte) (arg : DWord) (d : Byte) (events : List Event) (traffic : Commanded cmd arg d events) :
    payloads events = [] := by
  cases traffic with
  | plain _ _ _ sent => exact plain_payloads cmd arg d events sent
  | refused _ _ _ first _ => exact plain_payloads cmd55 0 d events first
  | app n _ before after _ first _ second =>
      rw [payloads_append, plain_payloads _ _ _ _ first, plain_payloads _ _ _ _ second]
      rfl

theorem datablock_payloads (btr : Nat) (block : List Byte) (events : List Event) (traffic : DataBlock btr (some block) events) :
    payloads events = [block] ∧ block.length = btr := by
  cases traffic with
  | block left _ crc polls content check polled size received checked two =>
      refine ⟨?_, size⟩
      rw [payloads_append, payloads_append, polled_payloads .token _ (by decide) _ _ _ _ polled, payloads_got _ _ _ received,
        payloads_got _ _ _ checked]
      rfl

theorem blocks_payloads (count : Nat) (buff : List Byte) (events : List Event) (traffic : Blocks count (0, buff) events) :
    (payloads events).length = count ∧ (∀ block ∈ payloads events, block.length = 512) ∧ (payloads events).flatten = buff := by
  generalize result : (0, buff) = pair at traffic
  induction traffic generalizing buff with
  | done =>
      cases result
      simp [payloads]
  | failed count events refused => cases result
  | next count left block rest before after received later ih =>
      obtain ⟨rfl, rfl⟩ := Prod.mk.inj result
      obtain ⟨payload, size⟩ := datablock_payloads 512 block before received
      obtain ⟨number, sizes, content⟩ := ih rest rfl
      rw [payloads_append, payload]
      refine ⟨by simp [number], fun other member => ?_, by simp [content]⟩
      rcases List.mem_append.mp member with here | there
      · exact List.mem_singleton.mp here ▸ size
      · exact sizes other there

theorem sent_block_payloads (buff : List Byte) (token : Byte) (events : List Event) (traffic : SentBlock buff token true events) :
    payloads events = if token = 0xFD then [] else [buff] := by
  generalize result : true = ok at traffic
  cases traffic with
  | busy => cases result
  | stop polls mark ready stops marked =>
      rw [payloads_append, ready_payloads _ _ ready, payloads_put _ _ _ marked, if_pos stops]
      rfl
  | block d crc polls mark content check answer ready continues marked sent checked two answered =>
      simp only [payloads_append]
      rw [ready_payloads _ _ ready, payloads_put _ _ _ marked, payloads_put _ _ _ sent, payloads_got _ _ _ checked,
        payloads_got _ _ _ answered, if_neg continues]
      rfl

theorem sent_blocks_payloads (buff : Nat → List Byte) (total count : Nat) (events : List Event) (bound : count ≤ total)
    (traffic : SentBlocks buff total count 0 events) :
    payloads events = (List.range count).map fun index => buff (total - count + index) := by
  generalize none : 0 = left at traffic
  induction traffic with
  | done => rfl
  | failed count events refused => cases none
  | next count left before after accepted later ih =>
      rw [payloads_append, sent_block_payloads _ _ _ accepted, if_neg (by decide), ih (by omega) none, List.range_succ_eq_map,
        List.map_cons, List.map_map, List.singleton_append, Nat.add_zero]
      congr 1
      refine List.map_congr_left fun index _ => congrArg buff ?_
      simp only [Nat.succ_eq_add_one]
      omega

end Payloads

section Calls

variable (board : Board)

-- In whatever way the board's bytes can be read as an accepted call, the
-- transfers of that call succeed.
def ReadTransfersSucceed (sd : Sd) (drv : Byte) (sector : DWord) (count : SectorCount) : Prop :=
  drv = 0 → ¬ Noinit sd.stat → ∀ buff events, FitsFrom board sd.wire.length events →
    ReadAccepted (readCmd count.count) (cardAddress sd.cardType sector) count.count buff events → Succeeded events

def WriteTransfersSucceed (sd : Sd) (drv : Byte) (buff : Nat → List Byte) (sector : DWord) (count : SectorCount) : Prop :=
  drv = 0 → ¬ Noinit sd.stat → ∀ events, FitsFrom board sd.wire.length events →
    WriteAccepted sd.cardType (cardAddress sd.cardType sector) buff count.count events → Succeeded events

theorem noinit_or (stat : DStatus) : Noinit (stat ||| staNoinit) := by
  revert stat
  decide

theorem guarded_by_status {α : Type} (refused : α) (serve : Driver α) (drv : Byte) (sd : Sd) :
    (do if (← diskStatus board drv) &&& staNoinit ≠ 0 then pure refused else serve : Driver α).run sd =
      if drv = 0 ∧ ¬ Noinit sd.stat then serve.run (sd.looked board)
      else (refused, ((diskStatus board drv).run sd).2) := by
  have branch : (do if (← diskStatus board drv) &&& staNoinit ≠ 0 then pure refused else serve : Driver α).run sd =
      if Noinit ((diskStatus board drv).run sd).1 then (refused, ((diskStatus board drv).run sd).2)
      else serve.run ((diskStatus board drv).run sd).2 := by
    change (if Noinit ((diskStatus board drv).run sd).1 then pure refused else serve : Driver α).run _ = _
    split <;> rfl
  rw [branch]
  by_cases other : drv = 0
  · subst other
    have status : (diskStatus board 0).run sd = (lookStat (board.isInserted sd.looks) sd.stat, sd.looked board) := rfl
    rw [status]
    by_cases noinit : Noinit sd.stat
    · rw [if_pos ((noinit_look _ _).mpr noinit), if_neg (fun both => both.2 noinit)]
    · rw [if_neg (fun told => noinit ((noinit_look _ _).mp told)), if_pos ⟨rfl, noinit⟩]
  · have status : ((diskStatus board drv).run sd).1 = lookStat (board.isInserted sd.looks) (sd.stat ||| staNoinit) := by
      simp only [diskStatus, if_pos other]
      rfl
    have disabled : ¬ (drv = 0 ∧ ¬ Noinit sd.stat) := fun both => other both.1
    have refuses : Noinit ((diskStatus board drv).run sd).1 := by
      rw [status]
      exact (noinit_look _ _).mpr (noinit_or sd.stat)
    rw [if_neg disabled, if_pos refuses]

theorem read_transfers_iff (sd : Sd) (drv : Byte) (sector : DWord) (count : SectorCount) :
    ReadFaithful board sd drv sector count ↔ ReadTransfersSucceed board sd drv sector count := by
  have call : (diskRead board drv sector count).run sd = _ := guarded_by_status board _ (readSectors board sector count.count) drv sd
  have served (buff : List Byte) (after : Sd) := read_sectors_ok_iff board sector count.count count.positive buff (sd.looked board) after
  constructor
  · intro faithful zero ready buff events fits accepted
    have ran := (served buff ((sd.looked board).logged events)).mpr ⟨events, fits, accepted, rfl⟩
    rw [if_pos ⟨zero, ready⟩, ran] at call
    exact ((faithful buff _ call).2 events rfl accepted).1
  · intro succeed buff after ran
    by_cases enabled : drv = 0 ∧ ¬ Noinit sd.stat
    · rw [if_pos enabled] at call
      obtain ⟨events, fits, accepted, rfl⟩ := (served buff after).mp (call.symm.trans ran)
      refine ⟨⟨events, rfl, accepted⟩, fun others same traffic => ?_⟩
      have fitsOthers := fits_transfers board sd.wire.length events others (logged_transfers sd events others same) fits
      refine ⟨succeed enabled.1 enabled.2 buff others fitsOthers traffic, ?_⟩
      cases traffic with
      | read last command blocks stop idle accepted received stopped deselected =>
          have stop_payloads : payloads stop = [] := by
            split at stopped
            · obtain ⟨d, stopped⟩ := stopped
              exact commanded_payloads _ _ _ _ stopped
            · rw [stopped]
              rfl
          have whole : payloads (command ++ blocks ++ stop ++ idle) = payloads blocks := by
            rw [payloads_append, payloads_append, payloads_append, commanded_payloads _ _ _ _ accepted, stop_payloads,
              payloads_got _ _ _ deselected, if_neg (by decide), List.nil_append, List.append_nil, List.append_nil]
          rw [whole]
          exact blocks_payloads count.count buff blocks received
    · rw [if_neg enabled] at call
      have refused : DResult.notrdy = .ok := congrArg (fun result => result.1.1) (call.symm.trans ran)
      cases refused

theorem write_transfers_iff (sd : Sd) (drv : Byte) (buff : Nat → List Byte) (sector : DWord) (count : SectorCount) :
    WriteFaithful board sd drv buff sector count ↔ WriteTransfersSucceed board sd drv buff sector count := by
  have call : (diskWrite board drv buff sector count).run sd = _ :=
    guarded_by_status board _ (writeSectors board buff sector count.count) drv sd
  have served (after : Sd) := write_sectors_ok_iff board buff sector count.count count.positive (sd.looked board) after
  constructor
  · intro faithful zero ready events fits accepted
    have ran := (served ((sd.looked board).logged events)).mpr ⟨events, fits, accepted, rfl⟩
    rw [if_pos ⟨zero, ready⟩, ran] at call
    exact ((faithful _ call).2 events rfl accepted).1
  · intro succeed after ran
    by_cases enabled : drv = 0 ∧ ¬ Noinit sd.stat
    · rw [if_pos enabled] at call
      obtain ⟨events, fits, accepted, rfl⟩ := (served after).mp (call.symm.trans ran)
      refine ⟨⟨events, rfl, accepted⟩, fun others same traffic => ?_⟩
      have fitsOthers := fits_transfers board sd.wire.length events others (logged_transfers sd events others same) fits
      refine ⟨succeed enabled.1 enabled.2 others fitsOthers traffic, ?_⟩
      cases traffic with
      | single last command block idle one accepted acknowledged deselected =>
          rw [payloads_append, payloads_append, commanded_payloads _ _ _ _ accepted, sent_block_payloads _ _ _ acknowledged,
            if_neg (by decide), payloads_got _ _ _ deselected, if_neg (by decide), one]
          rfl
      | multiple last announced command blocks stop idle several announce accepted acknowledged stopped deselected =>
          have announce_payloads : payloads announced = [] := by
            split at announce
            · obtain ⟨d, announce⟩ := announce
              exact commanded_payloads _ _ _ _ announce
            · rw [announce]
              rfl
          simp only [payloads_append]
          rw [announce_payloads, commanded_payloads _ _ _ _ accepted, sent_block_payloads _ _ _ stopped, if_pos rfl,
            payloads_got _ _ _ deselected, if_neg (by decide),
            sent_blocks_payloads buff count.count count.count blocks (Nat.le_refl _) acknowledged]
          simp
    · rw [if_neg enabled] at call
      have refused : DResult.notrdy = .ok := congrArg (fun result => result.1) (call.symm.trans ran)
      cases refused

theorem ok_transfers_succeed (sd : Sd) (drv : Byte) (sector : DWord) (count : SectorCount) :
    (ReadFaithful board sd drv sector count ↔ ReadTransfersSucceed board sd drv sector count) ∧
      ∀ buff, WriteFaithful board sd drv buff sector count ↔ WriteTransfersSucceed board sd drv buff sector count :=
  ⟨read_transfers_iff board sd drv sector count, fun buff => write_transfers_iff board sd drv buff sector count⟩

end Calls

section Stale

-- The data transfer of a single block read fails; every byte received looks
-- as it should, and the buffer keeps what it held.
def staleBoard : Board where
  isInserted := fun _ => true
  code := fun position => if position = 6 then 1 else 0
  received := fun position _ => if position = 4 then 0 else if position = 5 then 0xFE else if position = 6 then 0xAA else 0xFF

def readySd : Sd := { Sd.initial with stat := 0, cardType := ctSdc2 ||| ctBlock }

def fillerEvent (bytes : List Byte) : Event := ⟨.filler, .received bytes 0⟩

def staleBlock : List Byte := (List.range 512).map (staleBoard.received 6)

def staleCommand : List Event :=
  [fillerEvent [0xFF]] ++ ([fillerEvent [0xFF]] ++ [fillerEvent [0xFF]]) ++
    ([⟨.command, .sent (commandBytes cmd17 0) 0⟩] ++ [⟨.response, .received [0] 0⟩])

def staleData : List Event :=
  [⟨.token, .received [0xFE] 0⟩] ++ [⟨.data, .received staleBlock 1⟩] ++ [fillerEvent [0xFF, 0xFF]]

theorem stale_commanded : Commanded cmd17 0 0 staleCommand := by
  have ready : Ready true [fillerEvent [0xFF]] := ⟨5000, 0xFF, .hit 4999 0 0xFF _ (by decide) ⟨0, rfl⟩, by decide⟩
  have packet : Packet cmd17 0 0 ([⟨.command, .sent (commandBytes cmd17 0) 0⟩] ++ [⟨.response, .received [0] 0⟩]) :=
    .plain 0 10 _ _ (by decide) ⟨0, rfl⟩ (.hit 9 0 0 _ (by decide) ⟨0, rfl⟩)
  exact .plain 0 _ (by decide) (.ready 0 0xFF _ _ _ (by decide) ⟨0, rfl⟩ (.ready 0xFF _ _ ⟨0, rfl⟩ ready) packet)

theorem stale_block_length : staleBlock.length = 512 := (List.length_map _).trans List.length_range

theorem stale_received : Blocks 1 (0, staleBlock ++ []) (staleData ++ []) := by
  have token : Polled .token (· ≠ 0xFF) 1000 0 (1000, 0xFE) [⟨.token, .received [0xFE] 0⟩] :=
    .hit 999 0 0xFE _ (by decide) ⟨0, rfl⟩
  have block : DataBlock 512 (some staleBlock) staleData :=
    .block 1000 staleBlock [0xFF, 0xFF] _ _ _ token stale_block_length ⟨1, rfl⟩ ⟨0, rfl⟩ rfl
  exact .next 0 0 staleBlock [] staleData [] block .done

theorem stale_fits : FitsFrom staleBoard 0 (staleCommand ++ (staleData ++ []) ++ [] ++ [fillerEvent [0xFF]]) := by
  refine ⟨?_, ?_, ?_, ?_, ?_, ?_, ?_, ?_, ?_, trivial⟩
  case refine_7 => exact ⟨rfl, by rw [stale_block_length]; rfl⟩
  all_goals decide

theorem stale_block_accepted : ¬ ReadFaithful staleBoard readySd 0 0 ⟨1, by decide, by decide⟩ := by
  intro faithful
  have accepted : ReadAccepted (readCmd 1) (cardAddress readySd.cardType 0) 1 staleBlock
      (staleCommand ++ (staleData ++ []) ++ [] ++ [fillerEvent [0xFF]]) := by
    rw [← List.append_nil staleBlock]
    exact .read _ 0xFF staleCommand _ [] _ stale_commanded stale_received rfl ⟨0, rfl⟩
  have ran := (read_sectors_ok_iff staleBoard 0 1 (by decide) staleBlock (readySd.looked staleBoard) _).mpr
    ⟨_, stale_fits, accepted, rfl⟩
  have call := guarded_by_status staleBoard (.notrdy, []) (readSectors staleBoard 0 1) 0 readySd
  rw [if_pos (by decide), ran] at call
  have succeeded := ((faithful staleBlock _ call).2 _ rfl accepted).1
  have failed := succeeded ⟨.data, .received staleBlock 1⟩ (by simp [staleCommand, staleData]) (by decide)
  exact absurd failed (by decide)

end Stale

end Miso.Sdmm
