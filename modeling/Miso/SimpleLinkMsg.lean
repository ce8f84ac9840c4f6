import Miso.Base.Run
import Miso.SimpleLinkRx

set_option autoImplicit false

namespace Miso.SlDrv

open Base (Quiet Step readExact run)

def slOpcodeSync : BitVec 16 := 0x0400
def slOpcodeDeviceInitComplete : BitVec 16 := 0x0008
def slOpcodeDeviceDeviceAsyncDummy : BitVec 16 := 0x0063
def slOpcodeSocketRecvAsyncResponse : BitVec 16 := 0x100A
def slOpcodeSocketRecvFromAsyncResponse : BitVec 16 := 0x100B
def slOpcodeSocketRecvFromAsyncResponseV6 : BitVec 16 := 0x120B
def slAsyncMaxPayloadLen : Nat := 160
def slMaxSockets : BitVec 8 := 8
def bsdSocketIdMask : BitVec 8 := 0x0F
def recvArgsSize : Nat := 4
def recvFromIpv4ArgsSize : Nat := 12
def recvFromIpv6ArgsSize : Nat := 24

def half (bytes : List Byte) (offset : Nat) : BitVec 16 := bytes.getD (offset + 1) 0 ++ bytes.getD offset 0

-- Of the header: GenHeader.Opcode, GenHeader.Len, TxPoolCnt, DevStatus,
-- SocketTXFailure, SocketNonBlocking.
def opcode (header : List Byte) : BitVec 16 := half header 0

def rspPayloadLen (header : List Byte) : BitVec 16 := half header 2 - 4

def protocolAlignSize (msgLen : Nat) : Nat := (msgLen + 3) / 4 * 4

-- The fields of g_pCB that reading a message writes.
structure RxCb where
  txSeqNum : BitVec 8
  txPoolCnt : BitVec 8
  socketNonBlocking : BitVec 8
  socketTXFailure : BitVec 8
deriving DecidableEq

def RxCb.status (cb : RxCb) (header : List Byte) : RxCb :=
  if opcode header = slOpcodeDeviceInitComplete then cb
  else { cb with
    txPoolCnt := header.getD 4 0, socketNonBlocking := header.getD 7 0, socketTXFailure := header.getD 6 0 }

inductive RxMsgClass where
  | recvResp
  | cmdResp
  | asyncEvt
  | dummyMsg
deriving DecidableEq

def drvClassifyRxMsg (opcode : BitVec 16) : RxMsgClass :=
  if slOpcodeSync &&& opcode = 0 then
    if opcode = slOpcodeDeviceDeviceAsyncDummy then .dummyMsg
    else if opcode = slOpcodeSocketRecvAsyncResponse ∨ opcode = slOpcodeSocketRecvFromAsyncResponse ∨
        opcode = slOpcodeSocketRecvFromAsyncResponseV6 then .recvResp
    else .asyncEvt
  else .cmdResp

-- pCmdCtrl->RxDescLen, and pCmdExt->RxPayloadLen where there is a pCmdExt.
structure Command where
  rxDescLen : BitVec 8
  pCmdExt : Option (BitVec 16)
deriving DecidableEq

-- What a message leaves in memory: the async buffer, the arguments and the data
-- of a receive, or of a command the descriptors, the payload, ActualRxPayloadLen
-- and RxPayloadLen.
inductive Received where
  | asyncEvt (pAsyncBuf : List Byte)
  | recvResp (pArgs pData : List Byte)
  | cmdResp (pTxRxDescBuff pRxPayload : List Byte) (actualRxPayloadLen rxPayloadLen : Option (BitVec 16))
  | dummyMsg
deriving DecidableEq

-- The rest of a message, dumped into TailBuffer by fours.
def dumpRest : Nat → List Byte → Option (Unit × List Byte)
  | 0, input => some ((), input)
  | words + 1, input => (readExact 4 input).bind fun tailBuffer => dumpRest words tailBuffer.2

-- Data of a length that need not be aligned: the aligned part as it is, of the
-- rest as many bytes of TailBuffer as there are.
def readData (count : BitVec 16) (input : List Byte) : Option (List Byte × List Byte) :=
  (if 4 ≤ (count &&& 0xFFFC).toNat then readExact (count &&& 0xFFFC).toNat input else some ([], input)).bind fun data =>
    if 0 < (count &&& 3).toNat then
      (readExact 4 data.2).map fun tailBuffer => (data.1 ++ tailBuffer.1.take (count &&& 3).toNat, tailBuffer.2)
    else some data

def asyncDumpWords (aligned : Nat) : Nat := if slAsyncMaxPayloadLen < aligned then (aligned - slAsyncMaxPayloadLen) / 4 else 0

def dumpAsync (header payload input : List Byte) : Option (Received × List Byte) :=
  (dumpRest (asyncDumpWords (protocolAlignSize (rspPayloadLen header).toNat)) input).map fun rest =>
    (.asyncEvt (header ++ payload ++ List.replicate (slAsyncMaxPayloadLen - payload.length) 0), rest.2)

-- The buffer is there: sl_Malloc has memory.
def readAsyncEvt (header input : List Byte) : Option (Received × List Byte) :=
  (readExact (min (protocolAlignSize (rspPayloadLen header).toNat) slAsyncMaxPayloadLen) input).bind fun payload =>
    dumpAsync header payload.1 payload.2

def expArgSize (opcode : BitVec 16) : Nat :=
  if opcode = slOpcodeSocketRecvFromAsyncResponse then recvFromIpv4ArgsSize
  else if opcode = slOpcodeSocketRecvFromAsyncResponseV6 then recvFromIpv6ArgsSize
  else recvArgsSize

def readRecvData (args more input : List Byte) : Option (Received × List Byte) :=
  (if (0 : BitVec 16).slt (half args 0) then readData (half args 0) input else some ([], input)).map
    fun data => (.recvResp (args ++ more) data.1, data.2)

-- found tells whether _SlFindAndSetActiveObj finds the object that waits.
def readRecvRest (found : BitVec 16 → BitVec 8 → Bool) (opcode : BitVec 16) (args input : List Byte) :
    Option (Received × List Byte) :=
  if args.getD 2 0 &&& bsdSocketIdMask < slMaxSockets ∧ found opcode (args.getD 2 0 &&& bsdSocketIdMask) = true then
    (readExact (expArgSize opcode - recvArgsSize) input).bind fun more => readRecvData args more.1 more.2
  else none

def readRecvResp (found : BitVec 16 → BitVec 8 → Bool) (header input : List Byte) : Option (Received × List Byte) :=
  (readExact recvArgsSize input).bind fun args => readRecvRest found (opcode header) args.1 args.2

def toCopy (actDataSize rxPayloadLen : BitVec 16) : BitVec 16 :=
  if rxPayloadLen.slt actDataSize then rxPayloadLen else actDataSize

-- ActDataSize after the copy.
def afterCopy (actDataSize rxPayloadLen : BitVec 16) : BitVec 16 :=
  if 0 < (toCopy actDataSize rxPayloadLen &&& 3).toNat then actDataSize - 4 else actDataSize

def cmdDumpWords (actDataSize rxPayloadLen : BitVec 16) : Nat :=
  if rxPayloadLen.slt (afterCopy actDataSize rxPayloadLen) then
    ((afterCopy actDataSize rxPayloadLen + 3 - rxPayloadLen) &&& 0xFFFC).toNat / 4
  else 0

def dumpPayload (actDataSize rxPayloadLen : BitVec 16) (data input : List Byte) : Option (List Byte × List Byte) :=
  (dumpRest (cmdDumpWords actDataSize rxPayloadLen) input).map fun rest => (data, rest.2)

def readPayload (actDataSize rxPayloadLen : BitVec 16) (input : List Byte) : Option (List Byte × List Byte) :=
  (readData (toCopy actDataSize rxPayloadLen) input).bind fun data => dumpPayload actDataSize rxPayloadLen data.1 data.2

def actDataSize (cmd : Command) (header : List Byte) : BitVec 16 := rspPayloadLen header - cmd.rxDescLen.setWidth 16

def readCmdRest (cmd : Command) (header desc input : List Byte) : Option (Received × List Byte) :=
  match cmd.pCmdExt with
  | none => some (.cmdResp desc [] none none, input)
  | some rxPayloadLen =>
      if rxPayloadLen = 0 then some (.cmdResp desc [] none (some 0), input)
      else if (actDataSize cmd header).sle 0 then some (.cmdResp desc [] (some (actDataSize cmd header)) (some 0), input)
      else (readPayload (actDataSize cmd header) rxPayloadLen input).map fun payload =>
        (.cmdResp desc payload.1 (some (actDataSize cmd header)) (some rxPayloadLen), payload.2)

def readCmdResp (cmd : Command) (header input : List Byte) : Option (Received × List Byte) :=
  (readExact (protocolAlignSize cmd.rxDescLen.toNat) input).bind fun desc => readCmdRest cmd header desc.1 desc.2

def readBody (found : BitVec 16 → BitVec 8 → Bool) (cmd : Command) (header input : List Byte) : Option (Received × List Byte) :=
  match drvClassifyRxMsg (opcode header) with
  | .asyncEvt => readAsyncEvt header input
  | .recvResp => readRecvResp found header input
  | .cmdResp => readCmdResp cmd header input
  | .dummyMsg => some (.dummyMsg, input)

-- None where a read of the interface or a check of the message fails.
def drvMsgRead (found : BitVec 16 → BitVec 8 → Bool) (cmd : Command) (stack : List Byte) (cb : RxCb) (input : List Byte) :
    Option (RxCb × Received × List Byte) :=
  (drvRxHdrRead cb.txSeqNum stack input).bind fun header =>
    (readBody found cmd header.1 header.2.2).map fun received =>
      ({ cb with txSeqNum := header.2.1 }.status header.1, received.1, received.2)

theorem dump_rest_iff (words : Nat) (input rest : List Byte) :
    dumpRest words input = some ((), rest) ↔ ∃ dumped, input = dumped ++ rest ∧ dumped.length = 4 * words := by
  induction words generalizing input with
  | zero =>
      rw [dumpRest]
      constructor
      · intro same
        cases same
        exact ⟨[], rfl, rfl⟩
      · intro parts
        obtain ⟨dumped, rfl, size⟩ := parts
        rw [List.length_eq_zero_iff.mp size, List.nil_append]
  | succ words ih =>
      rw [dumpRest, Option.bind_eq_some_iff]
      constructor
      · intro ran
        obtain ⟨⟨first, later⟩, read, dumps⟩ := ran
        obtain ⟨rfl, firstSize⟩ := (Base.read_exact_iff 4 input first later).mp read
        obtain ⟨dumped, tail, size⟩ := (ih later).mp dumps
        refine ⟨first ++ dumped, ?_, by rw [List.length_append]; omega⟩
        rw [List.append_assoc]
        exact congrArg (first ++ ·) tail
      · intro parts
        obtain ⟨dumped, rfl, size⟩ := parts
        refine ⟨(dumped.take 4, dumped.drop 4 ++ rest), ?_, (ih _).mpr ⟨dumped.drop 4, rfl, by rw [List.length_drop]; omega⟩⟩
        refine (Base.read_exact_iff 4 _ _ _).mpr ⟨?_, List.length_take_of_le (by omega)⟩
        rw [← List.append_assoc, List.take_append_drop]

theorem low_bits (count : BitVec 16) : (count &&& 3).toNat = count.toNat % 4 := by
  rw [BitVec.toNat_and]
  exact Nat.and_two_pow_sub_one_eq_mod count.toNat 2

theorem high_bits (count : BitVec 16) : (count &&& 0xFFFC).toNat = count.toNat / 4 * 4 := by
  have mask : ∀ position, position < 16 → (0xFFFC : BitVec 16).getLsbD position = decide (2 ≤ position) := by decide
  have shifted : count &&& (0xFFFC : BitVec 16) = (count >>> 2) <<< 2 := by
    refine BitVec.eq_of_getLsbD_eq fun position bound => ?_
    rw [BitVec.getLsbD_and, mask position bound, BitVec.getLsbD_shiftLeft, BitVec.getLsbD_ushiftRight]
    by_cases low : position < 2
    · simp [low]
    · have back : 2 + (position - 2) = position := by omega
      simp [bound, low, back, Nat.le_of_not_lt low]
  have small := count.isLt
  rw [shifted, BitVec.toNat_shiftLeft, BitVec.toNat_ushiftRight, Nat.shiftRight_eq_div_pow, Nat.shiftLeft_eq]
  exact Nat.mod_eq_of_lt (by omega)

theorem aligned_read (count : BitVec 16) (input : List Byte) :
    (if 4 ≤ (count &&& 0xFFFC).toNat then readExact (count &&& 0xFFFC).toNat input else some ([], input)) =
      readExact (count.toNat / 4 * 4) input := by
  rw [high_bits]
  by_cases some_ : 4 ≤ count.toNat / 4 * 4
  · rw [if_pos some_]
  · have nothing : count.toNat / 4 * 4 = 0 := by omega
    rw [if_neg some_, nothing]
    rfl

theorem read_data (count : BitVec 16) (data padding rest : List Byte) (size : data.length = count.toNat)
    (padded : padding.length = protocolAlignSize count.toNat - count.toNat) :
    readData count (data ++ padding ++ rest) = some (data, rest) := by
  unfold protocolAlignSize at padded
  obtain ⟨front, tail, shape, frontSize, tailSize⟩ : ∃ front tail, data = front ++ tail ∧
      front.length = count.toNat / 4 * 4 ∧ tail.length = count.toNat % 4 :=
    ⟨data.take (count.toNat / 4 * 4), data.drop (count.toNat / 4 * 4), (List.take_append_drop _ data).symm,
      List.length_take_of_le (by omega), by rw [List.length_drop]; omega⟩
  have first : readExact (count.toNat / 4 * 4) (data ++ padding ++ rest) = some (front, tail ++ padding ++ rest) :=
    (Base.read_exact_iff _ _ _ _).mpr ⟨by rw [shape]; simp only [List.append_assoc], frontSize⟩
  unfold readData
  rw [aligned_read, first, Option.bind_some, low_bits]
  by_cases uneven : 0 < count.toNat % 4
  · have second : readExact 4 (tail ++ padding ++ rest) = some (tail ++ padding, rest) :=
      (Base.read_exact_iff _ _ _ _).mpr ⟨rfl, by rw [List.length_append]; omega⟩
    rw [if_pos uneven, second, Option.map_some, ← tailSize, List.take_left, shape]
  · have noTail : tail = [] := List.length_eq_zero_iff.mp (by omega)
    have noPadding : padding = [] := List.length_eq_zero_iff.mp (by omega)
    rw [if_neg uneven, shape, noTail, noPadding, List.append_nil, List.append_nil, List.nil_append]

theorem slt_small (left right : BitVec 16) (leftSmall : left.toNat < 32768) (rightSmall : right.toNat < 32768) :
    left.slt right = decide (left.toNat < right.toNat) := by
  rw [BitVec.slt_eq_decide, BitVec.toInt_eq_toNat_of_lt (by omega), BitVec.toInt_eq_toNat_of_lt (by omega)]
  simp only [Int.ofNat_lt]

theorem to_copy (actDataSize rxPayloadLen : BitVec 16) (actSmall : actDataSize.toNat < 32768)
    (rxSmall : rxPayloadLen.toNat < 32768) :
    (toCopy actDataSize rxPayloadLen).toNat = min rxPayloadLen.toNat actDataSize.toNat := by
  unfold toCopy
  rw [slt_small rxPayloadLen actDataSize rxSmall actSmall]
  by_cases less : rxPayloadLen.toNat < actDataSize.toNat
  · rw [if_pos (decide_eq_true less), Nat.min_eq_left (Nat.le_of_lt less)]
  · rw [if_neg (by simpa using less), Nat.min_eq_right (Nat.le_of_not_lt less)]

theorem cmd_dump_words (actDataSize rxPayloadLen : BitVec 16) (actSmall : actDataSize.toNat < 32768)
    (rxSmall : rxPayloadLen.toNat < 32768) :
    cmdDumpWords actDataSize rxPayloadLen =
      if min rxPayloadLen.toNat actDataSize.toNat % 4 = 0 then
        if rxPayloadLen.toNat < actDataSize.toNat then (actDataSize.toNat + 3 - rxPayloadLen.toNat) / 4 else 0
      else if rxPayloadLen.toNat + 4 < actDataSize.toNat then (actDataSize.toNat - 1 - rxPayloadLen.toNat) / 4 else 0 := by
  have words (left : BitVec 16) (leftSmall : left.toNat < 32768) (less : rxPayloadLen.toNat < left.toNat) :
      ((left + 3 - rxPayloadLen) &&& 0xFFFC).toNat / 4 = (left.toNat + 3 - rxPayloadLen.toNat) / 4 := by
    have sum : (left + 3).toNat = left.toNat + 3 := by
      rw [BitVec.toNat_add]
      exact Nat.mod_eq_of_lt (by change left.toNat + 3 < 65536; omega)
    have difference : (left + 3 - rxPayloadLen).toNat = left.toNat + 3 - rxPayloadLen.toNat := by
      rw [BitVec.toNat_sub_of_le (BitVec.le_def.mpr (by omega)), sum]
    rw [high_bits, difference]
    omega
  unfold cmdDumpWords afterCopy
  rw [low_bits, to_copy actDataSize rxPayloadLen actSmall rxSmall]
  by_cases even : min rxPayloadLen.toNat actDataSize.toNat % 4 = 0
  · rw [if_neg (by omega : ¬ 0 < min rxPayloadLen.toNat actDataSize.toNat % 4), if_pos even,
      slt_small rxPayloadLen actDataSize rxSmall actSmall]
    by_cases less : rxPayloadLen.toNat < actDataSize.toNat
    · rw [if_pos (decide_eq_true less), if_pos less, words actDataSize actSmall less]
    · rw [if_neg (by simpa using less), if_neg less]
  · rw [if_pos (by omega : 0 < min rxPayloadLen.toNat actDataSize.toNat % 4), if_neg even]
    by_cases enough : 4 ≤ actDataSize.toNat
    · have rest : (actDataSize - 4).toNat = actDataSize.toNat - 4 := BitVec.toNat_sub_of_le (BitVec.le_def.mpr enough)
      rw [slt_small rxPayloadLen (actDataSize - 4) rxSmall (by omega), rest]
      by_cases less : rxPayloadLen.toNat + 4 < actDataSize.toNat
      · rw [if_pos (by simp; omega), if_pos less, words (actDataSize - 4) (by omega) (by omega), rest]
        congr 1
        omega
      · rw [if_neg (by simp; omega), if_neg less]
    · have negative : ¬ rxPayloadLen.slt (actDataSize - 4) = true := by
        have wrapped : (actDataSize - 4).toNat = actDataSize.toNat + 65532 := by
          rw [BitVec.toNat_sub]
          change (65536 - 4 + actDataSize.toNat) % 65536 = _
          omega
        rw [BitVec.slt_eq_decide, BitVec.toInt_eq_toNat_of_lt (by omega), BitVec.toInt_eq_toNat_cond, wrapped,
          if_neg (by omega)]
        simp only [decide_eq_true_eq]
        omega
      rw [if_neg negative, if_neg (by omega)]

theorem take_drop_split (items : List Byte) (first whole : Nat) (ordered : first ≤ whole) :
    items = items.take first ++ (items.drop first).take (whole - first) ++ items.drop whole := by
  have rest : items.drop whole = (items.drop first).drop (whole - first) := by
    rw [List.drop_drop, Nat.add_sub_cancel' ordered]
  rw [rest, List.append_assoc, List.take_append_drop, List.take_append_drop]

-- A command response of which the caller takes rxPayloadLen bytes at most gives
-- it that many, or all there are. It is read to its end, or one word stays: that
-- is where the caller takes fewer bytes than there are, an uneven number of them.
theorem command_response_left (cmd : Command) (rxPayloadLen : BitVec 16) (header body : List Byte)
    (ext : cmd.pCmdExt = some rxPayloadLen) (aligned : cmd.rxDescLen.toNat % 4 = 0)
    (covers : cmd.rxDescLen.toNat < (rspPayloadLen header).toNat)
    (actSmall : (rspPayloadLen header).toNat - cmd.rxDescLen.toNat < 32768)
    (some_ : 0 < rxPayloadLen.toNat) (rxSmall : rxPayloadLen.toNat < 32768)
    (size : body.length = protocolAlignSize (rspPayloadLen header).toNat) :
    ∃ left, readCmdResp cmd header body = some (.cmdResp (body.take cmd.rxDescLen.toNat)
        ((body.drop cmd.rxDescLen.toNat).take (min rxPayloadLen.toNat ((rspPayloadLen header).toNat - cmd.rxDescLen.toNat)))
        (some (actDataSize cmd header)) (some rxPayloadLen), left) ∧
      left = body.drop (body.length - left.length) ∧
      left.length = if rxPayloadLen.toNat < (rspPayloadLen header).toNat - cmd.rxDescLen.toNat ∧
        4 ≤ ((rspPayloadLen header).toNat - cmd.rxDescLen.toNat - rxPayloadLen.toNat - 1) % 4 + rxPayloadLen.toNat % 4
        then 4 else 0 := by
  have act : (actDataSize cmd header).toNat = (rspPayloadLen header).toNat - cmd.rxDescLen.toNat := by
    have wide : (cmd.rxDescLen.setWidth 16).toNat = cmd.rxDescLen.toNat := by
      rw [BitVec.toNat_setWidth]
      exact Nat.mod_eq_of_lt (Nat.lt_trans cmd.rxDescLen.isLt (by decide))
    rw [actDataSize, BitVec.toNat_sub_of_le (BitVec.le_def.mpr (by omega)), wide]
  rw [← act] at actSmall ⊢
  have positive : ¬ (actDataSize cmd header).sle 0 = true := by
    have zero : (0 : BitVec 16).toInt = 0 := rfl
    rw [BitVec.sle_eq_decide, BitVec.toInt_eq_toNat_of_lt (by omega), zero]
    simp only [decide_eq_true_eq]
    omega
  have given : ¬ rxPayloadLen = 0 := by
    intro zero
    rw [zero] at some_
    exact absurd some_ (Nat.lt_irrefl 0)
  have words := cmd_dump_words (actDataSize cmd header) rxPayloadLen actSmall rxSmall
  have copied := to_copy (actDataSize cmd header) rxPayloadLen actSmall rxSmall
  unfold protocolAlignSize at size
  generalize countIs : min rxPayloadLen.toNat (actDataSize cmd header).toNat = count at words copied ⊢
  generalize dumpIs : cmdDumpWords (actDataSize cmd header) rxPayloadLen = dumpWords at words
  have bound : cmd.rxDescLen.toNat + ((count + 3) / 4 * 4 + 4 * dumpWords) ≤ body.length := by
    rw [words]
    split <;> split <;> omega
  obtain ⟨payload, payloadIs⟩ : ∃ payload, payload = body.drop cmd.rxDescLen.toNat := ⟨_, rfl⟩
  have payloadSize : payload.length = body.length - cmd.rxDescLen.toNat := by rw [payloadIs, List.length_drop]
  have desc : readExact (protocolAlignSize cmd.rxDescLen.toNat) body = some (body.take cmd.rxDescLen.toNat, payload) := by
    refine (Base.read_exact_iff _ _ _ _).mpr ⟨by rw [payloadIs, List.take_append_drop], ?_⟩
    rw [List.length_take_of_le (by omega), protocolAlignSize]
    omega
  have split : payload = payload.take count ++ (payload.drop count).take ((count + 3) / 4 * 4 - count) ++
      payload.drop ((count + 3) / 4 * 4) := take_drop_split payload count ((count + 3) / 4 * 4) (by omega)
  have data : readData (toCopy (actDataSize cmd header) rxPayloadLen) payload =
      some (payload.take count, payload.drop ((count + 3) / 4 * 4)) := by
    nth_rewrite 1 [split]
    refine read_data _ _ _ _ ?_ ?_
    · rw [copied, List.length_take_of_le (by omega)]
    · rw [copied, protocolAlignSize, List.length_take_of_le (by rw [List.length_drop]; omega)]
  have dumped : dumpRest dumpWords (payload.drop ((count + 3) / 4 * 4)) =
      some ((), payload.drop ((count + 3) / 4 * 4 + 4 * dumpWords)) := by
    refine (dump_rest_iff _ _ _).mpr ⟨(payload.drop ((count + 3) / 4 * 4)).take (4 * dumpWords), ?_, ?_⟩
    · rw [← List.drop_drop, List.take_append_drop]
    · rw [List.length_take_of_le (by rw [List.length_drop]; omega)]
  refine ⟨payload.drop ((count + 3) / 4 * 4 + 4 * dumpWords), ?_, ?_, ?_⟩
  · unfold readCmdResp readCmdRest readPayload dumpPayload
    rw [desc, Option.bind_some]
    simp only [ext, if_neg given, if_neg positive, data, dumpIs, dumped, Option.bind_some, Option.map_some]
    rw [← payloadIs]
  · rw [List.length_drop, payloadSize, payloadIs, List.drop_drop]
    congr 1
    omega
  · rw [List.length_drop, payloadSize, words]
    split <;> split <;> split <;> omega

def shortBuffer : Command := ⟨4, some 7⟩

def longResponse : List Byte := [0x70, 0x04, 18, 0, 3, 0, 0, 0]

def longBody : List Byte := [1, 0, 0, 0, 10, 11, 12, 13, 14, 15, 16, 17, 18, 19, 0, 0]

theorem command_response_left_short_buffer :
    ∃ left, readCmdResp shortBuffer longResponse longBody = some (.cmdResp (longBody.take shortBuffer.rxDescLen.toNat)
        ((longBody.drop shortBuffer.rxDescLen.toNat).take
          (min (7 : BitVec 16).toNat ((rspPayloadLen longResponse).toNat - shortBuffer.rxDescLen.toNat)))
        (some (actDataSize shortBuffer longResponse)) (some 7), left) ∧
      left = longBody.drop (longBody.length - left.length) ∧
      left.length = if (7 : BitVec 16).toNat < (rspPayloadLen longResponse).toNat - shortBuffer.rxDescLen.toNat ∧
        4 ≤ ((rspPayloadLen longResponse).toNat - shortBuffer.rxDescLen.toNat - (7 : BitVec 16).toNat - 1) % 4 +
          (7 : BitVec 16).toNat % 4 then 4 else 0 :=
  command_response_left shortBuffer 7 longResponse longBody rfl (by decide) (by decide) (by decide) (by decide) (by decide) (by decide)

theorem dump_rest_stable (words : Nat) : Base.Stable (dumpRest words) := by
  intro input out left more dumps
  obtain ⟨dumped, shape, size⟩ := (dump_rest_iff words input left).mp dumps
  exact (dump_rest_iff words _ _).mpr ⟨dumped, by rw [shape, List.append_assoc], size⟩

theorem read_data_stable (count : BitVec 16) : Base.Stable (readData count) :=
  Base.stable_then (fun input =>
      if 4 ≤ (count &&& 0xFFFC).toNat then readExact (count &&& 0xFFFC).toNat input else some ([], input))
    (fun data input => if 0 < (count &&& 3).toNat then
      (readExact 4 input).map fun tailBuffer => (data ++ tailBuffer.1.take (count &&& 3).toNat, tailBuffer.2)
      else some (data, input))
    (Base.stable_ite _ _ _ (Base.stable_exact _) (Base.stable_give []))
    fun data => Base.stable_ite _ _ _ (Base.stable_map _ (data ++ ·.take (count &&& 3).toNat) (Base.stable_exact 4)) (Base.stable_give data)

theorem read_async_evt_stable (header : List Byte) : Base.Stable (readAsyncEvt header) :=
  Base.stable_then _ (dumpAsync header) (Base.stable_exact _) fun _ =>
    Base.stable_map _ (fun _ => Received.asyncEvt _) (dump_rest_stable _)

theorem read_recv_resp_stable (found : BitVec 16 → BitVec 8 → Bool) (header : List Byte) :
    Base.Stable (readRecvResp found header) := by
  refine Base.stable_then _ (readRecvRest found (opcode header)) (Base.stable_exact _) fun args => ?_
  refine Base.stable_ite _ _ _ ?_ Base.stable_fail
  refine Base.stable_then _ (readRecvData args) (Base.stable_exact _) fun more => ?_
  exact Base.stable_map _ (Received.recvResp (args ++ more)) (Base.stable_ite _ _ _ (read_data_stable _) (Base.stable_give []))

theorem read_payload_stable (actDataSize rxPayloadLen : BitVec 16) : Base.Stable (readPayload actDataSize rxPayloadLen) :=
  Base.stable_then _ (dumpPayload actDataSize rxPayloadLen) (read_data_stable _) fun data =>
    Base.stable_map _ (fun _ => data) (dump_rest_stable _)

theorem read_cmd_resp_stable (cmd : Command) (header : List Byte) : Base.Stable (readCmdResp cmd header) := by
  refine Base.stable_then _ (readCmdRest cmd header) (Base.stable_exact _) fun desc => ?_
  unfold readCmdRest
  cases cmd.pCmdExt with
  | none => exact Base.stable_give _
  | some rxPayloadLen =>
      refine Base.stable_ite _ _ _ (Base.stable_give _) (Base.stable_ite _ _ _ (Base.stable_give _) ?_)
      exact Base.stable_map _ (Received.cmdResp desc · _ _) (read_payload_stable _ _)

theorem read_body_stable (found : BitVec 16 → BitVec 8 → Bool) (cmd : Command) (header : List Byte) :
    Base.Stable (readBody found cmd header) := by
  unfold readBody
  cases drvClassifyRxMsg (opcode header) with
  | dummyMsg => exact Base.stable_give _
  | asyncEvt => exact read_async_evt_stable header
  | recvResp => exact read_recv_resp_stable found header
  | cmdResp => exact read_cmd_resp_stable cmd header

-- The messages read so far, the newest first.
structure RxState where
  cb : RxCb
  received : List Received
  input : List Byte
deriving DecidableEq

def readNext (found : BitVec 16 → BitVec 8 → Bool) : Step RxState (Command × List Byte) := fun state action =>
  (drvMsgRead found action.1 action.2 state.cb state.input).map fun next =>
    ⟨next.1, next.2.1 :: state.received, next.2.2⟩

-- What the NWP sends for one call, with the command that waits then, the stack
-- of the call, what its message says alone and which words of it stay unread.
structure Delivery where
  cmd : Command
  stack : List Byte
  sync : List Byte
  doubles : List (List Byte)
  header : List Byte
  body : List Byte
  received : Received
  left : List (List Byte)

def Delivery.wire (delivery : Delivery) : List Byte :=
  delivery.sync ++ (delivery.doubles.flatten ++ delivery.header ++ delivery.body)

-- The patterns carry the number that is due, no window over what was left and
-- the pattern matches before it, and the body alone is read.
structure Delivered (found : BitVec 16 → BitVec 8 → Bool) (txSeqNum : BitVec 8) (noise : List (List Byte)) (delivery : Delivery) :
    Prop where
  sync : delivery.sync.length = 4 ∧ n2hSyncPatternMatch txSeqNum delivery.sync = true
  quiet : Quiet (n2hSyncPatternMatch txSeqNum) 4 noise.flatten.length (noise.flatten ++ delivery.sync)
  doubles : ∀ double ∈ delivery.doubles, double.length = 4 ∧ n2hSyncPatternMatch txSeqNum double = true
  header : delivery.header.length = 8 ∧ n2hSyncPatternMatch txSeqNum (delivery.header.take 4) = false
  body : readBody found delivery.cmd delivery.header delivery.body = some (delivery.received, delivery.left.flatten)
  left : ∀ word ∈ delivery.left, word.length = 4

def DeliveredAll (found : BitVec 16 → BitVec 8 → Bool) : BitVec 8 → List (List Byte) → List Delivery → Prop
  | _, _, [] => True
  | txSeqNum, noise, delivery :: later =>
      Delivered found txSeqNum noise delivery ∧ DeliveredAll found (txSeqNum + 1) delivery.left later

def leftOver (noise : List (List Byte)) : List Delivery → List (List Byte)
  | [] => noise
  | delivery :: later => leftOver delivery.left later

theorem drv_msg_read (found : BitVec 16 → BitVec 8 → Bool) (cb : RxCb) (noise : List (List Byte))
    (words : ∀ word ∈ noise, word.length = 4) (delivery : Delivery) (more : List Byte)
    (delivered : Delivered found cb.txSeqNum noise delivery) :
    drvMsgRead found delivery.cmd delivery.stack cb (noise.flatten ++ (delivery.wire ++ more)) =
      some ({ cb with txSeqNum := cb.txSeqNum + 1 }.status delivery.header, delivery.received, delivery.left.flatten ++ more) := by
  have framed : Framed cb.txSeqNum (noise.flatten ++ (delivery.wire ++ more)) delivery.header (delivery.body ++ more) := by
    have shape : noise.flatten ++ (delivery.wire ++ more) =
        noise.flatten ++ delivery.sync ++ (delivery.doubles.flatten ++ delivery.header ++ (delivery.body ++ more)) := by
      simp only [Delivery.wire, List.append_assoc]
    rw [shape]
    exact framed_after_words cb.txSeqNum noise delivery.doubles delivery.sync delivery.header (delivery.body ++ more) words
      delivered.sync.1 delivered.sync.2 delivered.quiet delivered.doubles delivered.header.1 delivered.header.2
  have header := (rx_hdr_read_iff cb.txSeqNum (cb.txSeqNum + 1) delivery.stack _ _ _).mpr ⟨rfl, framed⟩
  have body := read_body_stable found delivery.cmd delivery.header _ _ _ more delivered.body
  rw [drvMsgRead, header, Option.bind_some]
  simp only [body, Option.map_some]

theorem status_keeps_seq (cb : RxCb) (header : List Byte) : (cb.status header).txSeqNum = cb.txSeqNum := by
  unfold RxCb.status
  split <;> rfl

-- Whatever messages the NWP sends in a row, each is read as if it came alone,
-- and none is lost or read twice, where the words that a message leaves unread
-- do not look like the next pattern.
theorem messages_in_order (found : BitVec 16 → BitVec 8 → Bool) (cb : RxCb) (received : List Received)
    (noise : List (List Byte)) (words : ∀ word ∈ noise, word.length = 4) (deliveries : List Delivery)
    (delivered : DeliveredAll found cb.txSeqNum noise deliveries) :
    ∃ final, run (readNext found) ⟨cb, received, noise.flatten ++ (deliveries.map Delivery.wire).flatten⟩
        (deliveries.map fun delivery => (delivery.cmd, delivery.stack)) = some final ∧
      final.received = (deliveries.map Delivery.received).reverse ++ received ∧
      final.input = (leftOver noise deliveries).flatten ∧
      final.cb.txSeqNum = cb.txSeqNum + BitVec.ofNat 8 deliveries.length := by
  induction deliveries generalizing cb received noise with
  | nil => exact ⟨_, rfl, rfl, by simp [leftOver], by simp⟩
  | cons delivery later ih =>
      obtain ⟨now, rest⟩ := delivered
      have next := drv_msg_read found cb noise words delivery (later.map Delivery.wire).flatten now
      have seq := status_keeps_seq { cb with txSeqNum := cb.txSeqNum + 1 } delivery.header
      obtain ⟨final, ran, all, remains, count⟩ := ih ({ cb with txSeqNum := cb.txSeqNum + 1 }.status delivery.header)
        (delivery.received :: received) delivery.left now.left (by rw [seq]; exact rest)
      refine ⟨final, ?_, ?_, remains, ?_⟩
      · rw [List.map_cons, List.map_cons, List.flatten_cons, run, readNext]
        simp only [next, Option.map_some, Option.bind_some]
        exact ran
      · rw [all, List.map_cons, List.reverse_cons, List.append_assoc]
        rfl
      · rw [count, seq, List.length_cons, BitVec.ofNat_add]
        simp only [BitVec.add_assoc]
        congr 1
        exact BitVec.add_comm _ _

def longDelivery : Delivery where
  cmd := shortBuffer
  stack := []
  sync := [0xBC, 0xDC, 0xCD, 0xAB]
  doubles := []
  header := longResponse
  body := longBody
  received := .cmdResp [1, 0, 0, 0] [10, 11, 12, 13, 14, 15, 16] (some 10) (some 7)
  left := [[18, 19, 0, 0]]

def dummyDelivery : Delivery where
  cmd := ⟨0, none⟩
  stack := []
  sync := [0xBD, 0xDC, 0xCD, 0xAB]
  doubles := [[0xBA, 0xDC, 0xCD, 0xAB]]
  header := [0x63, 0x00, 4, 0, 5, 0, 0, 0]
  body := []
  received := .dummyMsg
  left := []

theorem messages_in_order_after_left :
    ∃ final, run (readNext fun _ _ => false) ⟨⟨0, 1, 0, 0⟩, [], ([longDelivery, dummyDelivery].map Delivery.wire).flatten⟩
        [(shortBuffer, []), (⟨0, none⟩, [])] = some final ∧
      final.received = [.dummyMsg, longDelivery.received] ∧ final.input = [] ∧ final.cb.txSeqNum = 2 :=
  messages_in_order (fun _ _ => false) ⟨0, 1, 0, 0⟩ [] [] (by decide) [longDelivery, dummyDelivery]
    ⟨⟨by decide, by unfold Quiet; decide, by decide, by decide, by decide, by decide⟩,
      ⟨by decide, by unfold Quiet; decide, by decide, by decide, by decide, by decide⟩, trivial⟩

end Miso.SlDrv
