import Miso.Base.Frame

set_option autoImplicit false

namespace Miso.Sdmm

open Base (retry Keeps)

abbrev Byte := BitVec 8
abbrev DWord := BitVec 32
abbrev DStatus := BitVec 8

def staNoinit : DStatus := 0x01
def staNodisk : DStatus := 0x02

inductive DResult where
  | ok
  | error
  | notrdy
  | parerr
deriving DecidableEq

def cmd0 : Byte := 0
def cmd1 : Byte := 1
def acmd41 : Byte := 0x80 + 41
def cmd8 : Byte := 8
def cmd9 : Byte := 9
def cmd12 : Byte := 12
def cmd16 : Byte := 16
def cmd17 : Byte := 17
def cmd18 : Byte := 18
def acmd23 : Byte := 0x80 + 23
def cmd24 : Byte := 24
def cmd25 : Byte := 25
def cmd55 : Byte := 55
def cmd58 : Byte := 58

def ctMmc3 : Byte := 0x01
def ctSdc2 : Byte := 0x08
def ctSdc : Byte := 0x0C
def ctBlock : Byte := 0x10

-- The world outside the driver: what the detect switch says at each look, and
-- how each SPI transfer ends. A receive buffer holds what received says, also
-- after a failed transfer.
structure Board where
  isInserted : Nat → Bool
  code : Nat → BitVec 32
  received : Nat → Nat → Byte

inductive Transfer where
  | sent (bytes : List Byte) (code : BitVec 32)
  | received (bytes : List Byte) (code : BitVec 32)
deriving DecidableEq

-- For the specification only: what disk_status saw and said, the card
-- initialisations that succeeded, and how the calls for data ended, quiet when
-- no byte went over the wire. The newest entry comes first.
inductive Report where
  | status (inserted : Bool) (reported : DStatus)
  | initialised
  | served (result : DResult) (quiet : Bool)
deriving DecidableEq

structure Sd where
  stat : DStatus
  cardType : Byte
  looks : Nat
  wire : List Transfer
  history : List Report

def Sd.initial : Sd where
  stat := staNoinit
  cardType := 0
  looks := 0
  wire := []
  history := []

abbrev Driver (α : Type) := StateM Sd α

section

variable (board : Board)

-- The return codes of both transfers are dropped. Chip select and delays
-- change no modelled state and are left out.
def xmitMmc (bytes : List Byte) : Driver Unit :=
  modify fun sd => { sd with wire := .sent bytes (board.code sd.wire.length) :: sd.wire }

def rcvrMmc (count : Nat) : Driver (List Byte) := do
  let sd ← get
  let bytes := (List.range count).map (board.received sd.wire.length)
  set { sd with wire := .received bytes (board.code sd.wire.length) :: sd.wire }
  pure bytes

def rcvrByte : Driver Byte := do
  let bytes ← rcvrMmc board 1
  pure (bytes.headD 0)

-- Receives until a byte will do, at most tmr times: the count left and the
-- last byte.
def rcvrUntil (accepts : Byte → Bool) : Nat → Byte → Driver (Nat × Byte)
  | 0, d => pure (0, d)
  | tmr + 1, _ => do
      let d ← rcvrByte board
      if accepts d then pure (tmr + 1, d) else rcvrUntil accepts tmr d

def waitReady : Driver Bool := do
  let (tmr, _) ← rcvrUntil board (· = 0xFF) 5000 0
  pure (tmr ≠ 0)

def deselect : Driver Unit := do
  let _ ← rcvrByte board

def select : Driver Bool := do
  let _ ← rcvrByte board
  if ← waitReady board then pure true
  else do
    deselect board
    pure false

def rcvrDatablock (btr : Nat) : Driver (Option (List Byte)) := do
  let (_, token) ← rcvrUntil board (· ≠ 0xFF) 1000 0
  if token ≠ 0xFE then pure none
  else do
    let buff ← rcvrMmc board btr
    let _ ← rcvrMmc board 2
    pure (some buff)

def xmitDatablock (buff : List Byte) (token : Byte) : Driver Bool := do
  if ← waitReady board then do
    xmitMmc board [token]
    if token ≠ 0xFD then do
      xmitMmc board buff
      let _ ← rcvrMmc board 2
      let response ← rcvrByte board
      pure (response &&& 0x1F = 0x05)
    else pure true
  else pure false

def commandBytes (cmd : Byte) (arg : DWord) : List Byte :=
  [0x40 ||| cmd, (arg >>> 24).setWidth 8, (arg >>> 16).setWidth 8, (arg >>> 8).setWidth 8, arg.setWidth 8,
    if cmd = cmd8 then 0x87 else if cmd = cmd0 then 0x95 else 0x01]

def sendPacket (cmd : Byte) (arg : DWord) : Driver Byte := do
  xmitMmc board (commandBytes cmd arg)
  if cmd = cmd12 then
    let _ ← rcvrByte board
  let (_, d) ← rcvrUntil board (fun d => d &&& 0x80 = 0) 10 0
  pure d

-- send_cmd for a command below 0x80.
def sendPlain (cmd : Byte) (arg : DWord) : Driver Byte := do
  if cmd ≠ cmd12 then do
    deselect board
    if ← select board then sendPacket board cmd arg else pure 0xFF
  else sendPacket board cmd arg

def sendCmd (cmd : Byte) (arg : DWord) : Driver Byte := do
  if cmd &&& 0x80 ≠ 0 then do
    let n ← sendPlain board cmd55 0
    if n > 1 then pure n else sendPlain board (cmd &&& 0x7F) arg
  else sendPlain board cmd arg

def lookStat (inserted : Bool) (stat : DStatus) : DStatus :=
  if inserted then stat &&& ~~~staNodisk else stat ||| staNodisk

def diskStatus (drv : Byte) : Driver DStatus := do
  if drv ≠ 0 then modify fun sd => { sd with stat := sd.stat ||| staNoinit }
  let sd ← get
  let stat := lookStat (board.isInserted sd.looks) sd.stat
  set { sd with stat := stat, looks := sd.looks + 1, history := .status (board.isInserted sd.looks) stat :: sd.history }
  pure stat

-- The card identification of disk_initialize; the result is ty.
def identifySdv2 : Driver Byte := do
  let buf ← rcvrMmc board 4
  if buf.getD 2 0 = 0x01 ∧ buf.getD 3 0 = 0xAA then do
    let tmr ← retry (do pure ((← sendCmd board acmd41 (1 <<< 30)) = 0)) 1000
    if tmr ≠ 0 then do
      if (← sendCmd board cmd58 0) = 0 then do
        let ocr ← rcvrMmc board 4
        pure (if ocr.headD 0 &&& 0x40 ≠ 0 then ctSdc2 ||| ctBlock else ctSdc2)
      else pure 0
    else pure 0
  else pure 0

def identifyOld : Driver Byte := do
  let (ty, cmd) := if (← sendCmd board acmd41 0) ≤ 1 then (ctSdc2, acmd41) else (ctMmc3, cmd1)
  let tmr ← retry (do pure ((← sendCmd board cmd 0) = 0)) 1000
  if tmr = 0 then pure 0
  else do
    if (← sendCmd board cmd16 512) ≠ 0 then pure 0 else pure ty

def identify : Driver Byte := do
  if (← sendCmd board cmd0 0) = 1 then do
    if (← sendCmd board cmd8 0x1AA) = 1 then identifySdv2 board else identifyOld board
  else pure 0

-- disk_disable switches the interface off and asks for the status.
def diskDisable : Driver DStatus := diskStatus board 0

-- disk_initialize behind its status check.
def runInitialisation : Driver DStatus := do
  let _ ← rcvrMmc board 10
  let ty ← identify board
  modify fun sd => { sd with
    cardType := ty
    stat := if ty ≠ 0 then 0 else staNoinit
    history := if ty ≠ 0 then .initialised :: sd.history else sd.history }
  deselect board
  if ty ≠ 0 then pure 0 else diskDisable board

-- RES_NOTRDY for another drive is the status 3.
def diskInitialize (drv : Byte) : Driver DStatus := do
  if drv ≠ 0 then pure 3
  else do
    if (← diskStatus board drv) = 0 then pure 0 else runInitialisation board

-- Sector count (1..128)
structure SectorCount where
  count : Nat
  positive : 1 ≤ count
  bounded : count ≤ 128

def cardAddress (cardType : Byte) (sector : DWord) : DWord :=
  if cardType &&& ctBlock = 0 then sector * 512 else sector

-- The do loop of disk_read: the count left and the blocks received.
def readBlocks : Nat → Driver (Nat × List Byte)
  | 0 => pure (0, [])
  | count + 1 => do
      match ← rcvrDatablock board 512 with
      | none => pure (count + 1, [])
      | some block => do
          let (left, rest) ← readBlocks count
          pure (left, block ++ rest)

def readCommand (cmd : Byte) (sect : DWord) (count : Nat) : Driver (Nat × List Byte) := do
  if (← sendCmd board cmd sect) = 0 then do
    let read ← readBlocks board count
    if cmd = cmd18 then
      let _ ← sendCmd board cmd12 0
    pure read
  else pure (count, [])

-- disk_read behind its status check.
def readSectors (sector : DWord) (count : Nat) : Driver (DResult × List Byte) := do
  let sect := cardAddress (← get).cardType sector
  let cmd := if count > 1 then cmd18 else cmd17
  let (left, buff) ← readCommand board cmd sect count
  deselect board
  pure (if left ≠ 0 then .error else .ok, buff)

def diskRead (drv : Byte) (sector : DWord) (count : SectorCount) : Driver (DResult × List Byte) := do
  if (← diskStatus board drv) &&& staNoinit ≠ 0 then pure (.notrdy, []) else readSectors board sector count.count

def writeBlocks (buff : Nat → List Byte) (total : Nat) : Nat → Driver Nat
  | 0 => pure 0
  | count + 1 => do
      if ← xmitDatablock board (buff (total - (count + 1))) 0xFC then writeBlocks buff total count else pure (count + 1)

def writeSingle (buff : Nat → List Byte) (sect : DWord) : Driver Nat := do
  if (← sendCmd board cmd24 sect) = 0 then do
    if ← xmitDatablock board (buff 0) 0xFE then pure 0 else pure 1
  else pure 1

def writeMultiple (buff : Nat → List Byte) (sect : DWord) (count : Nat) : Driver Nat := do
  if (← get).cardType &&& ctSdc ≠ 0 then
    let _ ← sendCmd board acmd23 count
  if (← sendCmd board cmd25 sect) = 0 then do
    let left ← writeBlocks board buff count count
    if ← xmitDatablock board [] 0xFD then pure left else pure 1
  else pure count

-- buff gives the 512-byte block for each sector offset.
def writeSectors (buff : Nat → List Byte) (sector : DWord) (count : Nat) : Driver DResult := do
  let sect := cardAddress (← get).cardType sector
  let left ← if count = 1 then writeSingle board buff sect else writeMultiple board buff sect count
  deselect board
  pure (if left ≠ 0 then .error else .ok)

def diskWrite (drv : Byte) (buff : Nat → List Byte) (sector : DWord) (count : SectorCount) : Driver DResult := do
  if (← diskStatus board drv) &&& staNoinit ≠ 0 then pure .notrdy else writeSectors board buff sector count.count

def ctrlSync : Byte := 0
def getSectorCount : Byte := 1
def getBlockSize : Byte := 3

-- The C shift has no value for a negative or too large count.
def sectorCount (csd : List Byte) : Option DWord :=
  let at_ (index : Nat) : DWord := (csd.getD index 0).setWidth 32
  if at_ 0 >>> 6 = 1 then
    let cs := at_ 9 + (at_ 8 <<< 8) + ((at_ 7 &&& 63) <<< 16) + 1
    some (cs <<< 10)
  else
    let n := (at_ 5 &&& 15) + ((at_ 10 &&& 128) >>> 7) + ((at_ 9 &&& 3) <<< 1) + 2
    let cs := (at_ 8 >>> 6) + (at_ 7 <<< 2) + ((at_ 6 &&& 3) <<< 10) + 1
    if 9 ≤ n.toNat ∧ n.toNat < 41 then some (cs <<< (n.toNat - 9)) else none

def control (ctrl : Byte) : Driver (DResult × Option DWord) := do
  if ctrl = ctrlSync then do
    if ← select board then pure (.ok, none) else pure (.error, none)
  else if ctrl = getSectorCount then do
    if (← sendCmd board cmd9 0) = 0 then do
      match ← rcvrDatablock board 16 with
      | some csd => pure (.ok, sectorCount csd)
      | none => pure (.error, none)
    else pure (.error, none)
  else if ctrl = getBlockSize then pure (.ok, some 128)
  else pure (.parerr, none)

def controlAndDeselect (ctrl : Byte) : Driver (DResult × Option DWord) := do
  let result ← control board ctrl
  deselect board
  pure result

def diskIoctl (drv : Byte) (ctrl : Byte) : Driver (DResult × Option DWord) := do
  if (← diskStatus board drv) &&& staNoinit ≠ 0 then pure (.notrdy, none) else controlAndDeselect board ctrl

end

end Miso.Sdmm
