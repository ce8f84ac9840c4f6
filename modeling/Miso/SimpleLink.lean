import Miso.Connection

set_option autoImplicit false

namespace Miso

open Base (Fallible Script callWhile errdefer deferred ignoring lifted fail)

def slInvalidSocket : Int := -1
def slEalready : Int := -114

def isEalready (ret : Int) : Bool := ret = slEalready

structure SockAddr where
  port : BitVec 16
  addr : BitVec 32
deriving DecidableEq

def byteSwap16 (word : BitVec 16) : BitVec 16 := word.rotateLeft 8

def byteSwap32 (word : BitVec 32) : BitVec 32 :=
  (word <<< 24) ||| ((word &&& 0xFF00) <<< 8) ||| ((word >>> 8) &&& 0xFF00) ||| (word >>> 24)

def SockAddr.create (addr : BitVec 32) (port : BitVec 16) : SockAddr := ⟨byteSwap16 port, byteSwap32 addr⟩

inductive LinkEvent where
  | socket (sd : Int)
  | connect (code : Int)
  | close (sd : Int)
deriving DecidableEq

-- trace is for the specification only; the newest event comes first.
structure SimpleLinkConnection where
  sd : Int
  peer : SockAddr
  localAddr : SockAddr
  trace : List LinkEvent

structure Network where
  dns : Int
  hostIp : BitVec 32
  socket : Int
  connect : Script isEalready
  close : Int

def Network.fine : Network := ⟨0, 0, 3, ⟨[], 0, by simp, rfl⟩, 0⟩

namespace SimpleLinkConnection

def close (net : Network) : Fallible NetError SimpleLinkConnection Unit :=
  deferred (modify fun conn => { conn with sd := slInvalidSocket }) do
    lifted (modify fun conn => { conn with trace := .close conn.sd :: conn.trace })
    if net.close ≠ 0 then fail .closeError else pure ()

def connect (net : Network) : Fallible NetError SimpleLinkConnection Unit := do
  let ret ← lifted (callWhile isEalready (fun code conn => { conn with trace := .connect code :: conn.trace }) slEalready
    net.connect.codes)
  if ret < 0 then fail .connect else pure ()

def socket (net : Network) : Fallible NetError SimpleLinkConnection Unit := do
  lifted (modify fun conn => { conn with sd := net.socket, trace := .socket net.socket :: conn.trace })
  if net.socket < 0 then fail .socket else pure ()

def resolve (net : Network) (uri : Uri) : Fallible NetError SimpleLinkConnection Unit :=
  if net.dns ≥ 0 then lifted (modify fun conn => { conn with peer := .create net.hostIp uri.port }) else fail .dns

-- The socket options and the bind ignore their results.
def openConn (net : Network) (uri : Uri) (localPort : Option (BitVec 16)) : Fallible NetError SimpleLinkConnection Unit := do
  resolve net uri
  socket net
  errdefer (ignoring (close net)) do
    lifted (modify fun conn => { conn with localAddr := .create 0 (localPort.getD 0) })
    connect net

end SimpleLinkConnection

end Miso
