import Miso.SimpleLink
import Miso.Base.Written

set_option autoImplicit false

namespace Miso

open Base (Fallible Keeps lastWritten lifted zoom fail)

def slAfInet : BitVec 16 := 2
def slAfInet6Eui48 : BitVec 16 := 9
def sizeofSlSockAddrIn : BitVec 16 := 16
def sizeofSlSockAddrIn6 : BitVec 16 := 28
def slEagain : Int := -11
def eagain : Int := -11
def slRetCodeInvalidInput : Int := -2
def slRetCodeProtocolError : Int := -7
def slApiAborted : Int := -100

inductive UdpError where
  | sendError
  | recieveError
  | bufferOwerflow
deriving DecidableEq

structure SlSockAddrIn where
  sinFamily : BitVec 16
  sin : SockAddr
deriving DecidableEq

structure Datagram where
  sd : Int
  toAddr : SlSockAddrIn
  payload : List UInt8
deriving DecidableEq

-- What sl_SendTo does with the data: the lengths of the pieces that go out,
-- one datagram each, and what it returns.
structure SendTo where
  pieces : List Nat
  ret : Int

-- What sl_RecvFrom reports: the fields of the source address that it writes,
-- any of them or none, and the length of the address.
structure RecvFrom where
  ret : Int
  family : Option (BitVec 16)
  port : Option (BitVec 16)
  addr : Option (BitVec 32)
  fromlen : BitVec 16

-- sent is for the specification only: the datagrams since the last open.
structure UdpConnection where
  conn : SimpleLinkConnection
  peerFamily : BitVec 16
  peerLen : BitVec 16
  sent : List Datagram

def slices : List Nat → List UInt8 → List (List UInt8)
  | [], _ => []
  | len :: rest, data => data.take len :: slices rest (data.drop len)

theorem slices_length (pieces : List Nat) (data : List UInt8) : (slices pieces data).length = pieces.length := by
  induction pieces generalizing data with
  | nil => rfl
  | cons len rest ih => rw [slices, List.length_cons, ih, List.length_cons]

namespace UdpConnection

def peer (udp : UdpConnection) : SlSockAddrIn := ⟨udp.peerFamily, udp.conn.peer⟩

-- The part of ipv4Peer.create that resolve leaves out.
def createPeer (net : Network) : Fallible NetError UdpConnection Unit :=
  lifted (modify fun udp =>
    if net.dns ≥ 0 then { udp with peerFamily := slAfInet, peerLen := sizeofSlSockAddrIn, sent := [] } else { udp with sent := [] })

def openUdp (net : Network) (uri : Uri) (localPort : Option (BitVec 16)) : Fallible NetError UdpConnection Unit := do
  createPeer net
  zoom (·.conn) (fun udp conn => { udp with conn := conn }) (SimpleLinkConnection.openConn net uri localPort)

def sendUdp (data : List UInt8) (slSendTo : SendTo) : StateM UdpConnection Int := do
  modify fun udp =>
    { udp with sent := udp.sent ++ (slices slSendTo.pieces data).map fun payload => ⟨udp.conn.sd, udp.peer, payload⟩ }
  pure (if slSendTo.ret = slEagain then eagain else slSendTo.ret)

def recieveUdp (slRecvFrom : RecvFrom) : StateM UdpConnection Int := do
  modify fun udp =>
    let peer : SockAddr := ⟨slRecvFrom.port.getD udp.conn.peer.port, slRecvFrom.addr.getD udp.conn.peer.addr⟩
    { udp with peerFamily := slRecvFrom.family.getD udp.peerFamily, conn := { udp.conn with peer := peer } }
  modify fun udp => { udp with peerLen := slRecvFrom.fromlen }
  pure (if slRecvFrom.ret = slEagain then eagain else slRecvFrom.ret)

def send (data : List UInt8) (slSendTo : SendTo) : Fallible UdpError UdpConnection Nat := do
  let ret ← lifted (sendUdp data slSendTo)
  if ret ≤ 0 then fail .sendError else pure ret.toNat

def recieve (size : Nat) (slRecvFrom : RecvFrom) : Fallible UdpError UdpConnection Nat := do
  let len ← lifted (recieveUdp slRecvFrom)
  if len ≤ 0 then fail .recieveError
  else if len.toNat > size then fail .bufferOwerflow
  else pure len.toNat

inductive Use where
  | send (data : List UInt8) (slSendTo : SendTo)
  | recieve (size : Nat) (slRecvFrom : RecvFrom)

def apply (udp : UdpConnection) : Use → UdpConnection
  | .send data slSendTo => (Fallible.exec (send data slSendTo) udp).2
  | .recieve size slRecvFrom => (Fallible.exec (recieve size slRecvFrom) udp).2

def Use.datagrams (udp : UdpConnection) : Use → List Datagram
  | .send data slSendTo => (slices slSendTo.pieces data).map fun payload => ⟨udp.conn.sd, udp.peer, payload⟩
  | .recieve _ _ => []

def Use.family : Use → Option (BitVec 16)
  | .send _ _ => none
  | .recieve _ slRecvFrom => slRecvFrom.family

def Use.port : Use → Option (BitVec 16)
  | .send _ _ => none
  | .recieve _ slRecvFrom => slRecvFrom.port

def Use.addr : Use → Option (BitVec 32)
  | .send _ _ => none
  | .recieve _ slRecvFrom => slRecvFrom.addr

theorem apply_send (data : List UInt8) (slSendTo : SendTo) (udp : UdpConnection) :
    apply udp (.send data slSendTo) = ((sendUdp data slSendTo).run udp).2 := by
  have applied : apply udp (.send data slSendTo) = (Fallible.exec (send data slSendTo) udp).2 := rfl
  rw [applied, send, Fallible.exec_bind, Fallible.exec_lifted]
  simp only [ExceptT.bindCont]
  split <;> rfl

theorem apply_recieve (size : Nat) (slRecvFrom : RecvFrom) (udp : UdpConnection) :
    apply udp (.recieve size slRecvFrom) = ((recieveUdp slRecvFrom).run udp).2 := by
  have applied : apply udp (.recieve size slRecvFrom) = (Fallible.exec (recieve size slRecvFrom) udp).2 := rfl
  rw [applied, recieve, Fallible.exec_bind, Fallible.exec_lifted]
  simp only [ExceptT.bindCont]
  split
  · rfl
  · split <;> rfl

theorem apply_sent (udp : UdpConnection) (use : Use) : (apply udp use).sent = udp.sent ++ use.datagrams udp := by
  cases use with
  | send data slSendTo =>
      rw [apply_send]
      rfl
  | recieve size slRecvFrom =>
      rw [apply_recieve, Use.datagrams, List.append_nil]
      rfl

theorem apply_peer (udp : UdpConnection) (use : Use) :
    (apply udp use).peer =
      ⟨use.family.getD udp.peer.sinFamily, use.port.getD udp.peer.sin.port, use.addr.getD udp.peer.sin.addr⟩ := by
  cases use with
  | send data slSendTo =>
      rw [apply_send]
      rfl
  | recieve size slRecvFrom =>
      rw [apply_recieve]
      rfl

theorem connect_peer (net : Network) : Keeps SimpleLinkConnection.peer (ExceptT.run (SimpleLinkConnection.connect net)) := by
  refine Base.keeps_then _ _ _ (Base.keeps_lifted _ _ ?_) fun ret => Base.keeps_fail_or _ _ _ _
  apply Base.keeps_call_while
  intro code conn
  rfl

theorem close_peer (net : Network) : Keeps SimpleLinkConnection.peer (ExceptT.run (SimpleLinkConnection.close net)) := by
  apply Base.keeps_deferred _ _ _ (fun _ => rfl)
  exact Base.keeps_then _ _ _ (Base.keeps_lifted _ _ fun _ => rfl) fun _ => Base.keeps_fail_or _ _ _ _

theorem socket_peer (net : Network) : Keeps SimpleLinkConnection.peer (ExceptT.run (SimpleLinkConnection.socket net)) :=
  Base.keeps_then _ _ _ (Base.keeps_lifted _ _ fun _ => rfl) fun _ => Base.keeps_fail_or _ _ _ _

theorem open_conn_peer (net : Network) (uri : Uri) (localPort : Option (BitVec 16)) (conn after : SimpleLinkConnection)
    (opened : Fallible.exec (SimpleLinkConnection.openConn net uri localPort) conn = (.ok (), after)) :
    0 ≤ net.dns ∧ after.peer = .create net.hostIp uri.port := by
  unfold SimpleLinkConnection.openConn SimpleLinkConnection.resolve at opened
  by_cases resolved : net.dns ≥ 0
  · refine ⟨resolved, ?_⟩
    rw [if_pos resolved, Fallible.exec_bind_ok _ _ conn _ () (Fallible.exec_lifted _ _)] at opened
    have kept : Keeps SimpleLinkConnection.peer (ExceptT.run (do
        SimpleLinkConnection.socket net
        Base.errdefer (Base.ignoring (SimpleLinkConnection.close net)) do
          lifted (modify fun conn => { conn with localAddr := .create 0 (localPort.getD 0) })
          SimpleLinkConnection.connect net)) := by
      refine Base.keeps_then _ _ _ (socket_peer net) fun _ => Base.keeps_errdefer _ _ _ ?_ ?_
      · exact Base.keeps_ignoring _ _ (close_peer net)
      · exact Base.keeps_then _ _ _ (Base.keeps_lifted _ _ fun _ => rfl) fun _ => connect_peer net
    have same := kept { conn with peer := .create net.hostIp uri.port }
    have ended := congrArg (fun outcome => outcome.2.peer) opened
    exact ended.symm.trans same
  · rw [if_neg resolved, Fallible.exec_bind_error _ _ conn conn NetError.dns (Fallible.exec_fail _ _)] at opened
    cases opened

theorem create_peer_exec (net : Network) (udp : UdpConnection) :
    Fallible.exec (createPeer net) udp = (.ok (),
      if net.dns ≥ 0 then { udp with peerFamily := slAfInet, peerLen := sizeofSlSockAddrIn, sent := [] }
      else { udp with sent := [] }) := rfl

theorem open_udp_peer (net : Network) (uri : Uri) (localPort : Option (BitVec 16)) (udp after : UdpConnection)
    (opened : Fallible.exec (openUdp net uri localPort) udp = (.ok (), after)) :
    after.peer = ⟨slAfInet, .create net.hostIp uri.port⟩ ∧ after.peerLen = sizeofSlSockAddrIn ∧ after.sent = [] := by
  rw [openUdp, Fallible.exec_bind_ok _ _ udp _ () (create_peer_exec net udp), Fallible.exec_zoom] at opened
  obtain ⟨finished, same⟩ := Prod.mk.inj opened
  obtain ⟨resolved, pinned⟩ := open_conn_peer net uri localPort _ _ (Prod.ext finished rfl)
  rw [if_pos (show net.dns ≥ 0 from resolved)] at pinned same
  subst same
  exact ⟨congrArg (SlSockAddrIn.mk slAfInet) pinned, rfl, rfl⟩

-- The last writes of each field of the peer, where there are any, have put
-- the same value there again.
def Unmoved (peer : SlSockAddrIn) (uses : List Use) : Prop :=
  (∀ family, lastWritten Use.family uses = some family → family = peer.sinFamily) ∧
    (∀ port, lastWritten Use.port uses = some port → port = peer.sin.port) ∧
    ∀ addr, lastWritten Use.addr uses = some addr → addr = peer.sin.addr

def Transmits : Use → Prop
  | .send _ slSendTo => slSendTo.pieces ≠ []
  | .recieve _ _ => False

theorem peer_foldl (udp : UdpConnection) (uses : List Use) :
    (uses.foldl apply udp).peer = udp.peer ↔ Unmoved udp.peer uses := by
  have family := Base.last_written_foldl apply (fun udp => udp.peer.sinFamily) Use.family
    (fun udp use => congrArg SlSockAddrIn.sinFamily (apply_peer udp use)) udp uses
  have port := Base.last_written_foldl apply (fun udp => udp.peer.sin.port) Use.port
    (fun udp use => congrArg (fun peer => peer.sin.port) (apply_peer udp use)) udp uses
  have addr := Base.last_written_foldl apply (fun udp => udp.peer.sin.addr) Use.addr
    (fun udp use => congrArg (fun peer => peer.sin.addr) (apply_peer udp use)) udp uses
  have fields (left right : SlSockAddrIn) : left = right ↔
      left.sinFamily = right.sinFamily ∧ left.sin.port = right.sin.port ∧ left.sin.addr = right.sin.addr := by
    obtain ⟨leftFamily, leftPort, leftAddr⟩ := left
    obtain ⟨rightFamily, rightPort, rightAddr⟩ := right
    simp
  rw [fields, family, port, addr, Base.last_written_same, Base.last_written_same, Base.last_written_same]
  exact Iff.rfl

theorem datagrams_to (udp : UdpConnection) (use : Use) (peer : SlSockAddrIn) :
    (∀ datagram ∈ use.datagrams udp, datagram.toAddr = peer) ↔ (Transmits use → udp.peer = peer) := by
  cases use with
  | send data slSendTo =>
      have some_piece : slices slSendTo.pieces data = [] ↔ slSendTo.pieces = [] := by
        rw [← List.length_eq_zero_iff, slices_length, List.length_eq_zero_iff]
      simp only [Use.datagrams, List.mem_map, Transmits, ne_eq, ← some_piece]
      constructor
      · intro all sends
        obtain ⟨payload, member⟩ := List.exists_mem_of_ne_nil _ sends
        exact all _ ⟨payload, member, rfl⟩
      · intro pinned datagram found
        obtain ⟨payload, member, rfl⟩ := found
        exact pinned (List.ne_nil_of_mem member)
  | recieve size slRecvFrom => simp [Use.datagrams, Transmits]

theorem peer_pinned_iff (net : Network) (uri : Uri) (localPort : Option (BitVec 16)) (udp after : UdpConnection)
    (opened : Fallible.exec (openUdp net uri localPort) udp = (.ok (), after)) (uses : List Use) :
    (∀ datagram ∈ (uses.foldl apply after).sent, datagram.toAddr = ⟨slAfInet, .create net.hostIp uri.port⟩) ↔
      ∀ before use rest, uses = before ++ use :: rest → Transmits use →
        Unmoved ⟨slAfInet, .create net.hostIp uri.port⟩ before := by
  obtain ⟨pinned, _, fresh⟩ := open_udp_peer net uri localPort udp after opened
  have logged (datagram : Datagram) := Base.mem_log_foldl apply UdpConnection.sent (fun udp use => use.datagrams udp) apply_sent
    datagram after uses
  rw [← pinned]
  constructor
  · intro all before use rest split sends
    rw [← peer_foldl]
    refine (datagrams_to _ use after.peer).mp (fun datagram found => ?_) sends
    exact all datagram ((logged datagram).mpr (.inr ⟨before, use, rest, split, found⟩))
  · intro met datagram found
    rcases (logged datagram).mp found with none | ⟨before, use, rest, split, sent⟩
    · rw [fresh] at none
      cases none
    · refine (datagrams_to _ use after.peer).mpr (fun sends => ?_) datagram sent
      exact (peer_foldl after before).mpr (met before use rest split sends)

def idle : UdpConnection := ⟨⟨slInvalidSocket, .create 0 0, .create 0 0, []⟩, slAfInet, sizeofSlSockAddrIn, []⟩

def coapUri : Uri := ⟨.coap, 5683⟩

def coapNet : Network := { Network.fine with hostIp := 0xC0A80001 }

def opened : UdpConnection := (Fallible.exec (openUdp coapNet coapUri none) idle).2

-- A datagram from another host, then an answer to the server.
def stranger : List Use :=
  [Use.recieve 64 ⟨4, some slAfInet, some 0x3930, some 0x0A00000A, sizeofSlSockAddrIn⟩, Use.send [7] ⟨[1], 1⟩]

theorem peer_pinned_opened :
    (∀ datagram ∈ (stranger.foldl apply opened).sent, datagram.toAddr = ⟨slAfInet, .create coapNet.hostIp coapUri.port⟩) ↔
      ∀ before use rest, stranger = before ++ use :: rest → Transmits use →
        Unmoved ⟨slAfInet, .create coapNet.hostIp coapUri.port⟩ before :=
  peer_pinned_iff coapNet coapUri none idle opened rfl stranger

theorem peer_not_pinned :
    ¬ ∀ (net : Network) (uri : Uri) (localPort : Option (BitVec 16)) (udp after : UdpConnection) (uses : List Use),
      Fallible.exec (openUdp net uri localPort) udp = (.ok (), after) →
        ∀ datagram ∈ (uses.foldl apply after).sent, datagram.toAddr = ⟨slAfInet, .create net.hostIp uri.port⟩ := by
  intro pinned
  have moved := pinned coapNet coapUri none idle opened stranger rfl ⟨3, ⟨slAfInet, ⟨0x3930, 0x0A00000A⟩⟩, [7]⟩ (by decide)
  exact absurd moved (by decide)

end UdpConnection

-- The SDK's own sl_SendTo and sl_RecvFrom, over any outcome of the driver's
-- operations.
section Driver

def slSocketPayloadBase : Nat := 1350

def slPayloadByProtocolLUT : List Nat :=
  [1472 - slSocketPayloadBase, 1460 - slSocketPayloadBase, 1452 - slSocketPayloadBase, 1440 - slSocketPayloadBase,
    1386 - slSocketPayloadBase, 1386 - slSocketPayloadBase, 1396 - slSocketPayloadBase, 1396 - slSocketPayloadBase,
    1476 - slSocketPayloadBase, 1514 - slSocketPayloadBase, 1480 - slSocketPayloadBase, 1480 - slSocketPayloadBase,
    1440 - slSocketPayloadBase, 1440 - slSocketPayloadBase, 1440 - slSocketPayloadBase, 1440 - slSocketPayloadBase]

def slTruncatePayloadByProtocol (sd : Int) (length : Nat) : Nat :=
  min length (slSocketPayloadBase + slPayloadByProtocolLUT.getD ((BitVec.ofInt 16 sd &&& 0xF0) >>> 4).toNat 0)

theorem truncate_le (sd : Int) (length : Nat) : slTruncatePayloadByProtocol sd length ≤ length := Nat.min_le_left _ _

theorem truncate_pos (sd : Int) (length : Nat) (some : 0 < length) : 0 < slTruncatePayloadByProtocol sd length := by
  unfold slTruncatePayloadByProtocol slSocketPayloadBase
  omega

-- do { write a piece } while (ChunkLen > 0), the piece cut off before the
-- first time round as well.
def sendPieces (write : Nat → Int) (sd : Int) (len index left : Nat) : SendTo :=
  let chunkLen := slTruncatePayloadByProtocol sd left
  if write index = 0 then
    if _more : 0 < slTruncatePayloadByProtocol sd (left - chunkLen) then
      let rest := sendPieces write sd len (index + 1) (left - chunkLen)
      ⟨chunkLen :: rest.pieces, rest.ret⟩
    else ⟨[chunkLen], len⟩
  else ⟨[], write index⟩
termination_by left
decreasing_by
  have shorter : slTruncatePayloadByProtocol sd (left - chunkLen) ≤ left - chunkLen := truncate_le sd (left - chunkLen)
  have cut : 0 < chunkLen := truncate_pos sd left (by omega)
  change left - chunkLen < left
  omega

-- Under the other family that is accepted what is written is a bind command.
def slSendTo (allowed : Bool) (write : Nat → Int) (sd : Int) (len : Nat) (toAddr : SlSockAddrIn) : SendTo :=
  if allowed then
    if toAddr.sinFamily = slAfInet then sendPieces write sd len 0 len
    else if toAddr.sinFamily = slAfInet6Eui48 then ⟨[], (sendPieces write sd len 0 len).ret⟩
    else ⟨[], slRetCodeInvalidInput⟩
  else ⟨[], slApiAborted⟩

structure RecvOp where
  allowed : Bool
  retVal : Int
  statusOrLen : BitVec 16
  sd : BitVec 8
  family : BitVec 8
  port : BitVec 16
  address : BitVec 32

def slRecvFrom (op : RecvOp) (sd : Int) (fromlen : BitVec 16) : RecvFrom :=
  let unwritten (ret : Int) : RecvFrom := ⟨ret, none, none, none, fromlen⟩
  if op.allowed then
    if fromlen = sizeofSlSockAddrIn ∨ fromlen = sizeofSlSockAddrIn6 then
      if op.retVal ≠ 0 then unwritten op.retVal
      else if op.statusOrLen.toInt < 0 then unwritten op.statusOrLen.toInt
      else if sd ≠ op.sd.toNat then unwritten slRetCodeProtocolError
      else
        let family := op.family.setWidth 16
        if family = slAfInet then ⟨op.statusOrLen.toInt, some family, some op.port, some op.address, sizeofSlSockAddrIn⟩
        else if family = slAfInet6Eui48 then ⟨op.statusOrLen.toInt, some family, some op.port, none, fromlen⟩
        else ⟨op.statusOrLen.toInt, some family, none, none, fromlen⟩
    else unwritten slRetCodeInvalidInput
  else unwritten slApiAborted

def total : List Nat → Nat
  | [] => 0
  | len :: rest => len + total rest

-- Either every piece has gone out, or the error that stopped them is what is
-- returned.
theorem send_pieces_total (write : Nat → Int) (sd : Int) (len index left : Nat) :
    total (sendPieces write sd len index left).pieces ≤ left ∧
      ((sendPieces write sd len index left).ret = len ∧ total (sendPieces write sd len index left).pieces = left ∨
        ∃ failed, write failed ≠ 0 ∧ (sendPieces write sd len index left).ret = write failed) := by
  induction left using Nat.strongRecOn generalizing index with
  | ind left ih =>
      have part := truncate_le sd left
      rw [sendPieces]
      by_cases written : write index = 0
      · rw [if_pos written]
        by_cases more : 0 < slTruncatePayloadByProtocol sd (left - slTruncatePayloadByProtocol sd left)
        · have shorter := truncate_le sd (left - slTruncatePayloadByProtocol sd left)
          have cut := truncate_pos sd left (by omega)
          obtain ⟨within, outcome⟩ := ih (left - slTruncatePayloadByProtocol sd left) (by omega) (index + 1)
          rw [dif_pos more]
          simp only [total]
          constructor
          · omega
          · rcases outcome with ⟨returned, whole⟩ | stopped
            · exact .inl ⟨returned, by omega⟩
            · exact .inr stopped
        · have none_left : ¬ 0 < left - slTruncatePayloadByProtocol sd left := fun some => more (truncate_pos sd _ some)
          rw [dif_neg more]
          simp only [total]
          exact ⟨by omega, .inl ⟨trivial, by omega⟩⟩
      · rw [if_neg written]
        exact ⟨Nat.zero_le left, .inr ⟨index, written, rfl⟩⟩

theorem slices_flatten (pieces : List Nat) (data : List UInt8) : (slices pieces data).flatten = data.take (total pieces) := by
  induction pieces generalizing data with
  | nil => rfl
  | cons len rest ih => rw [slices, List.flatten_cons, ih, total, List.take_add]

theorem send_pieces_single (write : Nat → Int) (sd : Int) (len index left : Nat)
    (whole : slTruncatePayloadByProtocol sd left = left) (written : write index = 0) :
    sendPieces write sd len index left = ⟨[left], len⟩ := by
  rw [sendPieces, if_pos written, whole, Nat.sub_self, dif_neg]
  exact Nat.not_lt.mpr (truncate_le sd 0)

theorem recv_from_len (op : RecvOp) (sd : Int) : (slRecvFrom op sd sizeofSlSockAddrIn).fromlen = sizeofSlSockAddrIn := by
  grind [slRecvFrom]

structure RecvOp.Accepted (op : RecvOp) (sd : Int) : Prop where
  allowed : op.allowed = true
  ok : op.retVal = 0
  length : 0 ≤ op.statusOrLen.toInt
  same : sd = op.sd.toNat
  inet : op.family = 2

theorem recv_from_accepted (op : RecvOp) (sd : Int) (accepted : op.Accepted sd) :
    slRecvFrom op sd sizeofSlSockAddrIn =
      ⟨op.statusOrLen.toInt, some slAfInet, some op.port, some op.address, sizeofSlSockAddrIn⟩ := by
  simp [slRecvFrom, accepted.allowed, accepted.ok, Int.not_lt.mpr accepted.length, ← accepted.same, accepted.inet, slAfInet]

inductive Drive where
  | send (data : List UInt8) (allowed : Bool) (write : Nat → Int)
  | recieve (size : Nat) (op : RecvOp)

open UdpConnection (Use apply)

def Drive.use (udp : UdpConnection) : Drive → Use
  | .send data allowed write => .send data (slSendTo allowed write udp.conn.sd data.length udp.peer)
  | .recieve size op => .recieve size (slRecvFrom op udp.conn.sd udp.peerLen)

def drive (udp : UdpConnection) (step : Drive) : UdpConnection := apply udp (step.use udp)

-- A send that reports no error has put all of the data on the wire.
theorem sent_whole (udp : UdpConnection) (data : List UInt8) (write : Nat → Int) (inet : udp.peerFamily = slAfInet)
    (negative : ∀ index, write index ≠ 0 → write index < 0)
    (returned : 0 ≤ (slSendTo true write udp.conn.sd data.length udp.peer).ret) :
    ((((Drive.send data true write).use udp).datagrams udp).map Datagram.payload).flatten = data := by
  have sending : slSendTo true write udp.conn.sd data.length udp.peer = sendPieces write udp.conn.sd data.length 0 data.length :=
    if_pos inet
  rw [sending] at returned
  rcases (send_pieces_total write udp.conn.sd data.length 0 data.length).2 with ⟨_, whole⟩ | ⟨index, failed, stopped⟩
  · rw [Drive.use, Use.datagrams, List.map_map, sending]
    change ((slices _ data).map id).flatten = data
    rw [List.map_id, slices_flatten, whole, List.take_length]
  · have refused := negative index failed
    omega

theorem drives_uses (udp : UdpConnection) (steps : List Drive) :
    ∃ uses : List Use, uses.length = steps.length ∧ steps.foldl drive udp = uses.foldl apply udp := by
  induction steps generalizing udp with
  | nil => exact ⟨[], rfl, rfl⟩
  | cons step rest ih =>
      obtain ⟨uses, same, run⟩ := ih (drive udp step)
      exact ⟨step.use udp :: uses, congrArg Nat.succ same, run⟩

theorem drive_len (udp : UdpConnection) (step : Drive) (standard : udp.peerLen = sizeofSlSockAddrIn) :
    (drive udp step).peerLen = sizeofSlSockAddrIn := by
  cases step with
  | send data allowed write =>
      rw [drive, Drive.use, UdpConnection.apply_send]
      exact standard
  | recieve size op =>
      rw [drive, Drive.use, UdpConnection.apply_recieve, standard]
      exact recv_from_len op udp.conn.sd

theorem drives_len (udp : UdpConnection) (steps : List Drive) (standard : udp.peerLen = sizeofSlSockAddrIn) :
    (steps.foldl drive udp).peerLen = sizeofSlSockAddrIn := by
  induction steps generalizing udp with
  | nil => exact standard
  | cons step rest ih => exact ih (drive udp step) (drive_len udp step standard)

-- Whoever gets a datagram accepted gets the next one that is sent.
theorem accepted_redirects (udp : UdpConnection) (size : Nat) (op : RecvOp) (data : List UInt8) (write : Nat → Int)
    (standard : udp.peerLen = sizeofSlSockAddrIn) (accepted : op.Accepted udp.conn.sd)
    (whole : slTruncatePayloadByProtocol udp.conn.sd data.length = data.length) (written : write 0 = 0) :
    (drive (drive udp (.recieve size op)) (.send data true write)).sent =
      udp.sent ++ [⟨udp.conn.sd, ⟨slAfInet, ⟨op.port, op.address⟩⟩, data⟩] := by
  have moved : drive udp (.recieve size op) =
      ⟨{ udp.conn with peer := ⟨op.port, op.address⟩ }, slAfInet, sizeofSlSockAddrIn, udp.sent⟩ := by
    rw [drive, Drive.use, UdpConnection.apply_recieve, standard, recv_from_accepted op udp.conn.sd accepted]
    rfl
  rw [moved, drive, Drive.use, UdpConnection.apply_send]
  have sending : slSendTo true write udp.conn.sd data.length ⟨slAfInet, ⟨op.port, op.address⟩⟩ = ⟨[data.length], data.length⟩ :=
    send_pieces_single write udp.conn.sd data.length 0 data.length whole written
  simp only [UdpConnection.peer, sending]
  have cut : slices [data.length] data = [data] := by rw [slices, slices, List.take_length]
  change udp.sent ++ (slices [data.length] data).map _ = _
  rw [cut]
  rfl

theorem open_redirected (net : Network) (uri : Uri) (localPort : Option (BitVec 16)) (udp after reached : UdpConnection)
    (opened : Fallible.exec (UdpConnection.openUdp net uri localPort) udp = (.ok (), after)) (steps : List Drive)
    (ran : steps.foldl drive after = reached) (size : Nat) (op : RecvOp) (data : List UInt8) (write : Nat → Int)
    (accepted : op.Accepted reached.conn.sd)
    (whole : slTruncatePayloadByProtocol reached.conn.sd data.length = data.length) (written : write 0 = 0) :
    ((steps ++ [Drive.recieve size op, Drive.send data true write]).foldl drive after).sent =
      reached.sent ++ [⟨reached.conn.sd, ⟨slAfInet, ⟨op.port, op.address⟩⟩, data⟩] := by
  have standard := drives_len after steps (UdpConnection.open_udp_peer net uri localPort udp after opened).2.1
  rw [List.foldl_append, ran]
  rw [ran] at standard
  exact accepted_redirects reached size op data write standard accepted whole written

end Driver

end Miso
