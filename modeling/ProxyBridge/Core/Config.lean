import ProxyBridge.Foundation.Text

namespace ProxyBridge

open Foundation Text

/-!
# Configuration

The constants and small types that every component shares: the relay ports, the
packet marks, the two timeouts, the SOCKS5 constants, the actions and protocol
filters of rules, and the settings of the upstream proxy.
-/

/-- Port of the TCP relay; marked TCP packets are redirected here. -/
def localProxyPort : UInt16 := 34010

/-- Port of the UDP relay; marked UDP packets are redirected here. -/
def localUdpRelayPort : UInt16 := 34011

/-- The queue that the packet loop listens on. -/
def nfqueueNum : UInt16 := 0

def tcpMark : UInt32 := 1

def udpMark : UInt32 := 2

/-- Lifetime of a cached PID in milliseconds. -/
def pidCacheTtlMs : Nat := 10000

/-- Age in milliseconds at which a clean-up drops a tracked connection. -/
def connectionTimeoutMs : Nat := 60000

def socks5Version : UInt8 := 0x05

def socks5AuthNone : UInt8 := 0x00

def socks5AuthPassword : UInt8 := 0x02

def socks5CmdConnect : UInt8 := 0x01

def socks5CmdUdpAssociate : UInt8 := 0x03

def socks5AtypIpv4 : UInt8 := 0x01

inductive ProxyType where
  | http
  | socks5
  deriving DecidableEq

/-- What to do with matching traffic. -/
inductive RuleAction where
  | proxy
  | direct
  | block
  deriving DecidableEq

inductive RuleProtocol where
  | tcp
  | udp
  | both
  deriving DecidableEq

/-- The upstream proxy.  `resolvedIp` holds the address octets in wire order. -/
structure ProxyConfig where
  proxyType : ProxyType
  host : Str
  port : UInt16
  username : Option Str
  password : Option Str
  resolvedIp : Option UInt32

namespace ProxyConfig

def new (proxyType : ProxyType) (host : Str) (port : UInt16) : ProxyConfig where
  proxyType := proxyType
  host := host
  port := port
  username := none
  password := none
  resolvedIp := none

def hasAuth (proxyConfig : ProxyConfig) : Bool :=
  proxyConfig.username.isSome && proxyConfig.password.isSome

end ProxyConfig
end ProxyBridge
