import Miso.Base.Errdefer

set_option autoImplicit false

namespace Miso

-- The error sets of connection.zig and mbedtls.zig, as far as they are
-- returned by what is modelled.
inductive NetError where
  | dns
  | socket
  | connect
  | closeError
  | initError
  | noSec
  | authError
  | sendError
deriving DecidableEq

def protocolBit : Nat := 1
def udpTcpBit : Nat := 2
def ip4Ip6Bit : Nat := 4
def secureBit : Nat := 8

inductive Proto where
  | noProtocol
  | udpIp4
  | tcpIp4
  | udpIp6
  | tcpIp6
  | dtlsIp4
  | tlsIp4
  | dtlsIp6
  | tlsIp6
deriving DecidableEq

namespace Proto

def bits : Proto → Nat
  | .noProtocol => 0
  | .udpIp4 => protocolBit ||| udpTcpBit
  | .tcpIp4 => protocolBit
  | .udpIp6 => protocolBit ||| ip4Ip6Bit ||| udpTcpBit
  | .tcpIp6 => protocolBit ||| ip4Ip6Bit
  | .dtlsIp4 => protocolBit ||| secureBit ||| udpTcpBit
  | .tlsIp4 => protocolBit ||| secureBit
  | .dtlsIp6 => protocolBit ||| secureBit ||| ip4Ip6Bit ||| udpTcpBit
  | .tlsIp6 => protocolBit ||| secureBit ||| ip4Ip6Bit

def isSecure (proto : Proto) : Bool := proto.bits &&& secureBit != 0

def isTcp (proto : Proto) : Bool := proto.bits &&& udpTcpBit == 0

def isUdp (proto : Proto) : Bool := proto.bits &&& udpTcpBit != 0

def isDtls (proto : Proto) : Bool := proto.isSecure && proto.isUdp

def isTls (proto : Proto) : Bool := proto.isSecure && proto.isTcp

end Proto

inductive Scheme where
  | noScheme
  | ntp
  | http
  | mqtt
  | coap
  | https
  | mqtts
  | coaps
deriving DecidableEq

def Scheme.getProtocol : Scheme → Proto
  | .ntp | .coap => .udpIp4
  | .coaps => .dtlsIp4
  | .http | .mqtt => .tcpIp4
  | .https | .mqtts => .tlsIp4
  | .noScheme => .noProtocol

-- An address with a known scheme, a host and a port; open does not return for
-- any other.
structure Uri where
  scheme : Scheme
  port : BitVec 16

end Miso
