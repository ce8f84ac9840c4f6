import Miso.Base.Emission
import Miso.Sdmm

set_option autoImplicit false

namespace Miso.Sdmm

open Base (Emission Emits Then emits_pure emits_bind emits_iff emits_map emits_ite emits_get)

-- What a transfer is for. Ready polls, dummy clocks, stuff bytes, checksums
-- and polls that bring no answer are fillers.
inductive Role where
  | filler
  | command
  | response
  | token
  | data
deriving DecidableEq

structure Event where
  role : Role
  transfer : Transfer
deriving DecidableEq

def Transfer.code : Transfer → BitVec 32
  | .sent _ code | .received _ code => code

def Transfer.bytes : Transfer → List Byte
  | .sent bytes _ | .received bytes _ => bytes

-- The transfer at a position of the wire ends and delivers as the board says.
def Transfer.Fits (board : Board) (position : Nat) : Transfer → Prop
  | .sent _ code => code = board.code position
  | .received bytes code => code = board.code position ∧ bytes = (List.range bytes.length).map (board.received position)

instance (board : Board) (position : Nat) : (transfer : Transfer) → Decidable (transfer.Fits board position)
  | .sent _ _ => inferInstanceAs (Decidable (_ = _))
  | .received _ _ => inferInstanceAs (Decidable (_ ∧ _))

def FitsFrom (board : Board) : Nat → List Event → Prop
  | _, [] => True
  | position, event :: rest => event.transfer.Fits board position ∧ FitsFrom board (position + 1) rest

theorem fits_append (board : Board) (position : Nat) (first second : List Event) :
    FitsFrom board position (first ++ second) ↔ FitsFrom board position first ∧ FitsFrom board (position + first.length) second := by
  induction first generalizing position with
  | nil => simp [FitsFrom]
  | cons event rest ih =>
      rw [List.cons_append, FitsFrom, FitsFrom, ih, List.length_cons, and_assoc]
      rw [show position + 1 + rest.length = position + (rest.length + 1) by omega]

def Sd.logged (sd : Sd) (events : List Event) : Sd := { sd with wire := (events.map Event.transfer).reverse ++ sd.wire }

def wireOf (board : Board) : Emission Sd Event where
  extend := Sd.logged
  fits sd events := FitsFrom board sd.wire.length events
  extend_nil := fun _ => rfl
  extend_append := fun sd first second => by simp [Sd.logged]
  fits_nil := fun _ => trivial
  fits_append := fun sd first second => by
    rw [fits_append]
    simp [Sd.logged, Nat.add_comm]

def Put (role : Role) (bytes : List Byte) (events : List Event) : Prop := ∃ code, events = [⟨role, .sent bytes code⟩]

def Got (role : Role) (bytes : List Byte) (events : List Event) : Prop := ∃ code, events = [⟨role, .received bytes code⟩]

-- Polls until a byte will do; only the poll that brings it has the role.
inductive Polled (role : Role) (accepts : Byte → Bool) : Nat → Byte → Nat × Byte → List Event → Prop where
  | spent (last : Byte) : Polled role accepts 0 last (0, last) []
  | hit (tmr : Nat) (last d : Byte) (poll : List Event) (accepted : accepts d = true) (got : Got role [d] poll) :
      Polled role accepts (tmr + 1) last (tmr + 1, d) poll
  | miss (tmr : Nat) (last d : Byte) (result : Nat × Byte) (poll rest : List Event) (refused : accepts d = false)
      (got : Got .filler [d] poll) (later : Polled role accepts tmr d result rest) :
      Polled role accepts (tmr + 1) last result (poll ++ rest)

def Ready (ready : Bool) (events : List Event) : Prop :=
  ∃ left d, Polled .filler (· = 0xFF) 5000 0 (left, d) events ∧ ready = decide (left ≠ 0)

inductive Selected : Bool → List Event → Prop where
  | ready (d : Byte) (dummy polls : List Event) (clock : Got .filler [d] dummy) (ready : Ready true polls) :
      Selected true (dummy ++ polls)
  | busy (d last : Byte) (dummy polls idle : List Event) (clock : Got .filler [d] dummy) (busy : Ready false polls)
      (deselected : Got .filler [last] idle) : Selected false (dummy ++ polls ++ idle)

inductive Packet (cmd : Byte) (arg : DWord) : Byte → List Event → Prop where
  | stop (stuff d : Byte) (left : Nat) (packet skipped polls : List Event) (stops : cmd = cmd12)
      (sent : Put .command (commandBytes cmd arg) packet) (skip : Got .filler [stuff] skipped)
      (answered : Polled .response (fun d => d &&& 0x80 = 0) 10 0 (left, d) polls) :
      Packet cmd arg d (packet ++ skipped ++ polls)
  | plain (d : Byte) (left : Nat) (packet polls : List Event) (continues : cmd ≠ cmd12)
      (sent : Put .command (commandBytes cmd arg) packet)
      (answered : Polled .response (fun d => d &&& 0x80 = 0) 10 0 (left, d) polls) :
      Packet cmd arg d (packet ++ polls)

inductive Plain (cmd : Byte) (arg : DWord) : Byte → List Event → Prop where
  | stop (d : Byte) (packet : List Event) (stops : cmd = cmd12) (sent : Packet cmd arg d packet) : Plain cmd arg d packet
  | busy (last : Byte) (idle failed : List Event) (continues : cmd ≠ cmd12) (deselected : Got .filler [last] idle)
      (busy : Selected false failed) : Plain cmd arg 0xFF (idle ++ failed)
  | ready (d last : Byte) (idle selected packet : List Event) (continues : cmd ≠ cmd12)
      (deselected : Got .filler [last] idle) (ready : Selected true selected) (sent : Packet cmd arg d packet) :
      Plain cmd arg d (idle ++ selected ++ packet)

inductive Commanded (cmd : Byte) (arg : DWord) : Byte → List Event → Prop where
  | plain (d : Byte) (events : List Event) (single : cmd &&& 0x80 = 0) (sent : Plain cmd arg d events) :
      Commanded cmd arg d events
  | refused (n : Byte) (events : List Event) (double : cmd &&& 0x80 ≠ 0) (first : Plain cmd55 0 n events) (refused : n > 1) :
      Commanded cmd arg n events
  | app (n d : Byte) (before after : List Event) (double : cmd &&& 0x80 ≠ 0) (first : Plain cmd55 0 n before)
      (accepted : ¬ n > 1) (second : Plain (cmd &&& 0x7F) arg d after) : Commanded cmd arg d (before ++ after)

inductive DataBlock (btr : Nat) : Option (List Byte) → List Event → Prop where
  | refused (left : Nat) (d : Byte) (polls : List Event) (polled : Polled .token (· ≠ 0xFF) 1000 0 (left, d) polls)
      (other : d ≠ 0xFE) : DataBlock btr none polls
  | block (left : Nat) (block crc : List Byte) (polls content check : List Event)
      (polled : Polled .token (· ≠ 0xFF) 1000 0 (left, 0xFE) polls) (size : block.length = btr)
      (received : Got .data block content) (checked : Got .filler crc check) (two : crc.length = 2) :
      DataBlock btr (some block) (polls ++ content ++ check)

inductive Blocks : Nat → Nat × List Byte → List Event → Prop where
  | done : Blocks 0 (0, []) []
  | failed (count : Nat) (events : List Event) (refused : DataBlock 512 none events) : Blocks (count + 1) (count + 1, []) events
  | next (count left : Nat) (block rest : List Byte) (before after : List Event) (received : DataBlock 512 (some block) before)
      (later : Blocks count (left, rest) after) : Blocks (count + 1) (left, block ++ rest) (before ++ after)

inductive SentBlock (buff : List Byte) (token : Byte) : Bool → List Event → Prop where
  | busy (polls : List Event) (busy : Ready false polls) : SentBlock buff token false polls
  | stop (polls mark : List Event) (ready : Ready true polls) (stops : token = 0xFD) (marked : Put .token [token] mark) :
      SentBlock buff token true (polls ++ mark)
  | block (d : Byte) (crc : List Byte) (polls mark content check answer : List Event) (ready : Ready true polls)
      (continues : token ≠ 0xFD) (marked : Put .token [token] mark) (sent : Put .data buff content)
      (checked : Got .filler crc check) (two : crc.length = 2) (answered : Got .response [d] answer) :
      SentBlock buff token (decide (d &&& 0x1F = 0x05)) (polls ++ mark ++ content ++ check ++ answer)

inductive SentBlocks (buff : Nat → List Byte) (total : Nat) : Nat → Nat → List Event → Prop where
  | done : SentBlocks buff total 0 0 []
  | failed (count : Nat) (events : List Event) (refused : SentBlock (buff (total - (count + 1))) 0xFC false events) :
      SentBlocks buff total (count + 1) (count + 1) events
  | next (count left : Nat) (before after : List Event)
      (accepted : SentBlock (buff (total - (count + 1))) 0xFC true before) (later : SentBlocks buff total count left after) :
      SentBlocks buff total (count + 1) left (before ++ after)

section

variable (board : Board)

theorem xmit_emits (role : Role) (bytes : List Byte) (sd : Sd) :
    Emits (wireOf board) (xmitMmc board bytes) sd (fun _ events => Put role bytes events) where
  sound := ⟨[⟨role, .sent bytes (board.code sd.wire.length)⟩], ⟨rfl, trivial⟩, ⟨_, rfl⟩, rfl⟩
  complete := by
    rintro result events fits ⟨code, rfl⟩
    obtain rfl : code = board.code sd.wire.length := fits.1
    rfl

-- The role may depend on what was received.
theorem rcvr_emits (role : List Byte → Role) (count : Nat) (sd : Sd) :
    Emits (wireOf board) (rcvrMmc board count) sd (fun bytes events => bytes.length = count ∧ Got (role bytes) bytes events) where
  sound := by
    let bytes := (List.range count).map (board.received sd.wire.length)
    have size : bytes.length = count := (List.length_map _).trans List.length_range
    refine ⟨[⟨role bytes, .received bytes (board.code sd.wire.length)⟩], ⟨⟨rfl, ?_⟩, trivial⟩, ⟨size, _, rfl⟩, rfl⟩
    rw [size]
  complete := by
    rintro bytes events fits ⟨size, code, rfl⟩
    obtain ⟨⟨rfl, content⟩, _⟩ := fits
    rw [size] at content
    subst content
    rfl

theorem byte_emits (role : Byte → Role) (sd : Sd) :
    Emits (wireOf board) (rcvrByte board) sd (fun d events => Got (role d) [d] events) := by
  apply emits_iff _ _ _ _ _ (emits_map _ (·.headD 0) sd _ (rcvr_emits board (fun bytes => role (bytes.headD 0)) 1 sd))
  intro d events
  constructor
  · rintro ⟨bytes, ⟨size, got⟩, rfl⟩
    obtain ⟨d, rfl⟩ := List.length_eq_one_iff.mp size
    exact got
  · intro got
    exact ⟨[d], ⟨rfl, got⟩, rfl⟩

theorem until_emits (role : Role) (accepts : Byte → Bool) (tmr : Nat) (last : Byte) (sd : Sd) :
    Emits (wireOf board) (rcvrUntil board accepts tmr last) sd (Polled role accepts tmr last) := by
  induction tmr generalizing last sd with
  | zero =>
      apply emits_iff _ _ _ _ _ (emits_pure ((0 : Nat), last) sd)
      intro result events
      constructor
      · rintro ⟨rfl, rfl⟩
        exact .spent last
      · rintro ⟨⟩
        exact ⟨rfl, rfl⟩
  | succ tmr ih =>
      have polled := emits_bind _ _ sd _ _ (byte_emits board (fun d => if accepts d then role else .filler) sd)
        fun d events _ => emits_ite (accepts d = true) _ _ _ _ _ (fun _ => emits_pure (tmr + 1, d) _) fun _ => ih d _
      apply emits_iff _ _ _ _ _ polled
      intro result events
      constructor
      · rintro ⟨d, poll, rest, rfl, got, ⟨accepted, rfl, rfl⟩ | ⟨refused, later⟩⟩
        · rw [if_pos accepted] at got
          rw [List.append_nil]
          exact .hit tmr last d poll accepted got
        · rw [if_neg refused] at got
          exact .miss tmr last d result poll rest (by simpa using refused) got later
      · intro polled
        cases polled with
        | hit _ _ d _ accepted got =>
            have roled : Got (if accepts d = true then role else .filler) [d] events := by
              rw [if_pos accepted]
              exact got
            exact ⟨d, events, [], (List.append_nil events).symm, roled, .inl ⟨accepted, rfl, rfl⟩⟩
        | miss _ _ d _ poll rest refused got later =>
            have no : ¬ accepts d = true := by simp [refused]
            have roled : Got (if accepts d = true then role else .filler) [d] poll := by
              rw [if_neg no]
              exact got
            exact ⟨d, poll, rest, rfl, roled, .inr ⟨no, later⟩⟩

theorem wait_ready_emits (sd : Sd) : Emits (wireOf board) (waitReady board) sd Ready := by
  have polled := until_emits board .filler (· = 0xFF) 5000 0 sd
  apply emits_iff _ _ _ _ _ (emits_map _ (fun result => decide (result.1 ≠ 0)) sd _ polled)
  intro ready events
  constructor
  · rintro ⟨⟨left, d⟩, polled, rfl⟩
    exact ⟨left, d, polled, rfl⟩
  · rintro ⟨left, d, polled, rfl⟩
    exact ⟨(left, d), polled, rfl⟩

theorem deselect_emits (sd : Sd) :
    Emits (wireOf board) (deselect board) sd (fun _ events => ∃ d, Got .filler [d] events) := by
  apply emits_iff _ _ _ _ _ (emits_map _ (fun _ => ()) sd _ (byte_emits board (fun _ => .filler) sd))
  simp

theorem select_emits (sd : Sd) : Emits (wireOf board) (select board) sd Selected := by
  have polled := emits_bind _ _ sd _ _ (byte_emits board (fun _ => .filler) sd) fun d events _ =>
    emits_bind _ _ _ _ _ (wait_ready_emits board _) fun ready events _ =>
      emits_ite (ready = true) _ _ _ _ _ (fun _ => emits_pure true _) fun _ =>
        emits_map _ (fun _ => false) _ _ (deselect_emits board _)
  apply emits_iff _ _ _ _ _ polled
  intro result events
  constructor
  · rintro ⟨d, dummy, after, rfl, clock, ready, polls, last, rfl, waited, outcome⟩
    rcases outcome with ⟨rfl, rfl, rfl⟩ | ⟨busy, _, ⟨other, deselected⟩, rfl⟩
    · rw [List.append_nil]
      exact .ready d dummy polls clock waited
    · rw [← List.append_assoc]
      rw [Bool.not_eq_true] at busy
      exact .busy d other dummy polls last clock (busy ▸ waited) deselected
  · intro selected
    cases selected with
    | ready d dummy polls clock ready =>
        exact ⟨d, dummy, polls, rfl, clock, true, polls, [], (List.append_nil polls).symm, ready, .inl ⟨rfl, rfl, rfl⟩⟩
    | busy d last dummy polls idle clock busy deselected =>
        exact ⟨d, dummy, polls ++ idle, List.append_assoc _ _ _, clock, false, polls, idle, rfl, busy,
          .inr ⟨by simp, (), ⟨last, deselected⟩, rfl⟩⟩

theorem answer_emits (sd : Sd) :
    Emits (wireOf board) (rcvrUntil board (fun d => d &&& 0x80 = 0) 10 0 >>= fun result => pure result.2) sd fun d events =>
      ∃ left, Polled .response (fun d => d &&& 0x80 = 0) 10 0 (left, d) events := by
  apply emits_iff _ _ _ _ _ (emits_map _ Prod.snd sd _ (until_emits board .response _ 10 0 sd))
  intro d events
  constructor
  · rintro ⟨⟨left, d⟩, polled, rfl⟩
    exact ⟨left, polled⟩
  · rintro ⟨left, polled⟩
    exact ⟨(left, d), polled, rfl⟩

theorem packet_emits (cmd : Byte) (arg : DWord) (sd : Sd) :
    Emits (wireOf board) (sendPacket board cmd arg) sd (Packet cmd arg) := by
  have sent := emits_bind _ _ sd _ _ (xmit_emits board .command (commandBytes cmd arg) sd) fun _ events _ =>
    emits_ite (cmd = cmd12) _ _ _ _ _
      (fun _ => emits_bind _ _ _ _ _ (byte_emits board (fun _ => .filler) _) fun _ events _ => answer_emits board _)
      fun _ => answer_emits board _
  apply emits_iff _ _ _ _ _ sent
  intro d events
  constructor
  · rintro ⟨_, packet, after, rfl, put, ⟨stops, stuff, skipped, polls, rfl, skip, left, answered⟩ | ⟨continues, left, answered⟩⟩
    · rw [← List.append_assoc]
      exact .stop stuff d left packet skipped polls stops put skip answered
    · exact .plain d left packet after continues put answered
  · intro traffic
    cases traffic with
    | stop stuff _ left packet skipped polls stops put skip answered =>
        exact ⟨(), packet, skipped ++ polls, List.append_assoc _ _ _, put,
          .inl ⟨stops, stuff, skipped, polls, rfl, skip, left, answered⟩⟩
    | plain _ left packet polls continues put answered =>
        exact ⟨(), packet, polls, rfl, put, .inr ⟨continues, left, answered⟩⟩

theorem plain_emits (cmd : Byte) (arg : DWord) (sd : Sd) :
    Emits (wireOf board) (sendPlain board cmd arg) sd (Plain cmd arg) := by
  have sent := emits_ite (cmd ≠ cmd12) _ _ sd _ _
    (fun _ => emits_bind _ _ _ _ _ (deselect_emits board sd) fun _ events _ =>
      emits_bind _ _ _ _ _ (select_emits board _) fun selected events _ =>
        emits_ite (selected = true) _ _ _ _ _ (fun _ => packet_emits board cmd arg _) fun _ => emits_pure 0xFF _)
    fun _ => packet_emits board cmd arg sd
  apply emits_iff _ _ _ _ _ sent
  intro d events
  constructor
  · rintro (⟨continues, _, idle, after, rfl, ⟨last, deselected⟩, selected, chosen, packet, rfl, select, outcome⟩ | ⟨stops, sent⟩)
    · rcases outcome with ⟨rfl, sent⟩ | ⟨busy, rfl, rfl⟩
      · rw [← List.append_assoc]
        exact .ready d last idle chosen packet continues deselected select sent
      · rw [Bool.not_eq_true] at busy
        rw [List.append_nil]
        exact .busy last idle chosen continues deselected (busy ▸ select)
    · exact .stop d events (Decidable.not_not.mp stops) sent
  · intro traffic
    cases traffic with
    | stop _ _ stops sent => exact .inr ⟨Decidable.not_not.mpr stops, sent⟩
    | busy last idle failed continues deselected busy =>
        exact .inl ⟨continues, (), idle, failed, rfl, ⟨last, deselected⟩, false, failed, [], (List.append_nil failed).symm, busy,
          .inr ⟨by simp, rfl, rfl⟩⟩
    | ready _ last idle selected packet continues deselected ready sent =>
        exact .inl ⟨continues, (), idle, selected ++ packet, List.append_assoc _ _ _, ⟨last, deselected⟩, true, selected, packet,
          rfl, ready, .inl ⟨rfl, sent⟩⟩

theorem cmd_emits (cmd : Byte) (arg : DWord) (sd : Sd) :
    Emits (wireOf board) (sendCmd board cmd arg) sd (Commanded cmd arg) := by
  have sent := emits_ite (cmd &&& 0x80 ≠ 0) _ _ sd _ _
    (fun _ => emits_bind _ _ _ _ _ (plain_emits board cmd55 0 sd) fun n events _ =>
      emits_ite (n > 1) _ _ _ _ _ (fun _ => emits_pure n _) fun _ => plain_emits board (cmd &&& 0x7F) arg _)
    fun _ => plain_emits board cmd arg sd
  apply emits_iff _ _ _ _ _ sent
  intro d events
  constructor
  · rintro (⟨double, n, before, after, rfl, first, ⟨refused, rfl, rfl⟩ | ⟨accepted, second⟩⟩ | ⟨single, plain⟩)
    · rw [List.append_nil]
      exact .refused d before double first refused
    · exact .app n d before after double first accepted second
    · exact .plain d events (Decidable.not_not.mp single) plain
  · intro traffic
    cases traffic with
    | plain _ _ single plain => exact .inr ⟨Decidable.not_not.mpr single, plain⟩
    | refused _ _ double first refused =>
        exact .inl ⟨double, d, events, [], (List.append_nil events).symm, first, .inl ⟨refused, rfl, rfl⟩⟩
    | app n _ before after double first accepted second =>
        exact .inl ⟨double, n, before, after, rfl, first, .inr ⟨accepted, second⟩⟩

theorem datablock_emits (btr : Nat) (sd : Sd) : Emits (wireOf board) (rcvrDatablock board btr) sd (DataBlock btr) := by
  have received := emits_bind _ _ sd _ _ (until_emits board .token (· ≠ 0xFF) 1000 0 sd) fun result events _ =>
    emits_ite (result.2 ≠ 0xFE) _ _ _ _ _ (fun _ => emits_pure none _) fun _ =>
      emits_bind _ _ _ _ _ (rcvr_emits board (fun _ => .data) btr _) fun buff events _ =>
        emits_map _ (fun _ => some buff) _ _ (rcvr_emits board (fun _ => .filler) 2 _)
  apply emits_iff _ _ _ _ _ received
  intro result events
  constructor
  · rintro ⟨⟨left, d⟩, polls, after, rfl, polled, ⟨other, rfl, rfl⟩ | ⟨token, buff, content, check, rfl, ⟨size, got⟩, crc, ⟨two, checked⟩, rfl⟩⟩
    · rw [List.append_nil]
      exact .refused left d polls polled other
    · obtain rfl : d = 0xFE := Decidable.not_not.mp token
      rw [← List.append_assoc]
      exact .block left buff crc polls content check polled size got checked two
  · intro traffic
    cases traffic with
    | refused left d _ polled other =>
        exact ⟨(left, d), events, [], (List.append_nil events).symm, polled, .inl ⟨other, rfl, rfl⟩⟩
    | block left block crc polls content check polled size received checked two =>
        exact ⟨(left, 0xFE), polls, content ++ check, List.append_assoc _ _ _, polled,
          .inr ⟨fun other => other rfl, block, content, check, rfl, ⟨size, received⟩, crc, ⟨two, checked⟩, rfl⟩⟩

theorem read_blocks_emits (count : Nat) (sd : Sd) : Emits (wireOf board) (readBlocks board count) sd (Blocks count) := by
  induction count generalizing sd with
  | zero =>
      apply emits_iff _ _ _ _ _ (emits_pure ((0 : Nat), ([] : List Byte)) sd)
      intro result events
      constructor
      · rintro ⟨rfl, rfl⟩
        exact .done
      · rintro ⟨⟩
        exact ⟨rfl, rfl⟩
  | succ count ih =>
      let rest (received : Option (List Byte)) (result : Nat × List Byte) (events : List Event) : Prop :=
        received.elim (result = (count + 1, []) ∧ events = []) fun block =>
          ∃ later, Blocks count later events ∧ result = (later.1, block ++ later.2)
      have received : Emits (wireOf board) (readBlocks board (count + 1)) sd (Then (DataBlock 512) rest) := by
        refine emits_bind _ _ sd _ rest (datablock_emits board 512 sd) fun received events _ => ?_
        cases received with
        | none => exact emits_pure (count + 1, []) _
        | some block => exact emits_map _ (fun later => (later.1, block ++ later.2)) _ _ (ih _)
      apply emits_iff _ _ _ _ _ received
      intro result events
      constructor
      · rintro ⟨received, before, after, rfl, traffic, outcome⟩
        cases received with
        | none =>
            obtain ⟨rfl, rfl⟩ := outcome
            rw [List.append_nil]
            exact .failed count before traffic
        | some block =>
            obtain ⟨⟨left, tail⟩, later, rfl⟩ := outcome
            exact .next count left block tail before after traffic later
      · intro traffic
        cases traffic with
        | failed _ _ refused => exact ⟨none, events, [], (List.append_nil events).symm, refused, rfl, rfl⟩
        | next _ left block tail before after received later =>
            exact ⟨some block, before, after, rfl, received, (left, tail), later, rfl⟩

theorem xmit_datablock_emits (buff : List Byte) (token : Byte) (sd : Sd) :
    Emits (wireOf board) (xmitDatablock board buff token) sd (SentBlock buff token) := by
  have sent := emits_bind _ _ sd _ _ (wait_ready_emits board sd) fun ready events _ =>
    emits_ite (ready = true) _ _ _ _ _
      (fun _ => emits_bind _ _ _ _ _ (xmit_emits board .token [token] _) fun _ events _ =>
        emits_ite (token ≠ 0xFD) _ _ _ _ _
          (fun _ => emits_bind _ _ _ _ _ (xmit_emits board .data buff _) fun _ events _ =>
            emits_bind _ _ _ _ _ (rcvr_emits board (fun _ => .filler) 2 _) fun crc events _ =>
              emits_map _ (fun response => decide (response &&& 0x1F = 0x05)) _ _ (byte_emits board (fun _ => .response) _))
          fun _ => emits_pure true _)
      fun _ => emits_pure false _
  apply emits_iff _ _ _ _ _ sent
  intro result events
  constructor
  · rintro ⟨ready, polls, after, rfl, waited, outcome⟩
    rcases outcome with ⟨rfl, _, mark, rest, rfl, marked, block⟩ | ⟨busy, rfl, rfl⟩
    · rcases block with
        ⟨continues, _, content, tail, rfl, put, crc, check, answer, rfl, ⟨two, checked⟩, d, answered, rfl⟩ | ⟨stops, rfl, rfl⟩
      · simp only [← List.append_assoc]
        exact .block d crc polls mark content check answer waited continues marked put checked two answered
      · rw [List.append_nil]
        exact .stop polls mark waited (Decidable.not_not.mp stops) marked
    · rw [Bool.not_eq_true] at busy
      rw [List.append_nil]
      exact .busy polls (busy ▸ waited)
  · intro traffic
    cases traffic with
    | busy _ busy => exact ⟨false, events, [], (List.append_nil events).symm, busy, .inr ⟨by simp, rfl, rfl⟩⟩
    | stop polls mark ready stops marked =>
        exact ⟨true, polls, mark, rfl, ready, .inl ⟨rfl, (), mark, [], (List.append_nil mark).symm, marked,
          .inr ⟨Decidable.not_not.mpr stops, rfl, rfl⟩⟩⟩
    | block d crc polls mark content check answer ready continues marked sent checked two answered =>
        refine ⟨true, polls, mark ++ (content ++ (check ++ answer)), by simp, ready, .inl ⟨rfl, (), mark, _, rfl, marked, ?_⟩⟩
        exact .inl ⟨continues, (), content, check ++ answer, rfl, sent, crc, check, answer, rfl, ⟨two, checked⟩, d, answered, rfl⟩

theorem write_blocks_emits (buff : Nat → List Byte) (total count : Nat) (sd : Sd) :
    Emits (wireOf board) (writeBlocks board buff total count) sd (SentBlocks buff total count) := by
  induction count generalizing sd with
  | zero =>
      apply emits_iff _ _ _ _ _ (emits_pure (0 : Nat) sd)
      intro result events
      constructor
      · rintro ⟨rfl, rfl⟩
        exact .done
      · rintro ⟨⟩
        exact ⟨rfl, rfl⟩
  | succ count ih =>
      have sent := emits_bind _ _ sd _ _ (xmit_datablock_emits board (buff (total - (count + 1))) 0xFC sd) fun ok events _ =>
        emits_ite (ok = true) _ _ _ _ _ (fun _ => ih _) fun _ => emits_pure (count + 1) _
      apply emits_iff _ _ _ _ _ sent
      intro left events
      constructor
      · rintro ⟨ok, before, after, rfl, block, ⟨rfl, later⟩ | ⟨refused, rfl, rfl⟩⟩
        · exact .next count left before after block later
        · rw [Bool.not_eq_true] at refused
          rw [List.append_nil]
          exact .failed count before (refused ▸ block)
      · intro traffic
        cases traffic with
        | failed _ _ refused => exact ⟨false, events, [], (List.append_nil events).symm, refused, .inr ⟨by simp, rfl, rfl⟩⟩
        | next _ _ before after accepted later => exact ⟨true, before, after, rfl, accepted, .inl ⟨rfl, later⟩⟩

end

end Miso.Sdmm
