import ProxyBridge.Core.Config
import ProxyBridge.Foundation.Bytes
import ProxyBridge.Foundation.CaseMapping

namespace ProxyBridge

open Foundation Text

/-!
# Pattern matching of rules

A rule names processes, hosts and ports by lists of patterns.  The matchers
split a list, trim each element and compare it with one property of the
connection.  Numbers that do not parse are replaced by a default instead of
being rejected.

Addresses are 32-bit numbers whose least significant byte is the first octet.
-/

/-- The last component of a path. -/
def fileNameOf (processFullPath : Str) : Str :=
  (rsplit '/' processFullPath).head?.getD processFullPath

/-- One process pattern: `*`, `prefix*`, `*suffix` or a name, compared with the
full path when the pattern contains a slash. -/
def matchProcessPattern (pattern processFullPath : Str) : Bool :=
  if pattern = "*".toList then true
  else
    let matchTarget :=
      if pattern.contains '/' then processFullPath else fileNameOf processFullPath
    if pattern.getLast? = some '*' then
      let leading := pattern.dropLast
      (getTo matchTarget (len leading)).any (fun s => eqIgnoreAsciiCase s leading)
    else if pattern.head? = some '*' then
      let trailing := pattern.tail
      (getFrom matchTarget (len matchTarget - len trailing)).any
        (fun s => eqIgnoreAsciiCase s trailing)
    else eqIgnoreAsciiCase matchTarget pattern

/-- A semicolon-separated list of process patterns. -/
def matchProcessList (processList processName : Str) : Bool :=
  if processList = "*".toList then true
  else
    (split (fun c => c == ';') processList).any
      (fun pattern => matchProcessPattern (trim pattern) processName)

/-- The octets of an address in wire order, taken by shifts. -/
def ipOctets (ip : UInt32) : List UInt8 :=
  [(ip &&& 0xFF).toUInt8, ((ip >>> 8) &&& 0xFF).toUInt8,
    ((ip >>> 16) &&& 0xFF).toUInt8, ((ip >>> 24) &&& 0xFF).toUInt8]

/-- One of the four parts of a host pattern against its octet. -/
def matchOctet (part : Str) (octet : UInt8) : Bool :=
  if part = "*".toList then true
  else
    match splitOnce '-' part with
    | some (startStr, endStr) =>
        let start := (parseU8 startStr).getD 0
        let stop := (parseU8 endStr).getD 0
        !(decide (octet < start) || decide (octet > stop))
    | none => octet == (parseU8 part).getD 255

def matchIpPattern (pattern : Str) (ip : UInt32) : Bool :=
  if pattern = "*".toList then true
  else
    let patternParts := split (fun c => c == '.') pattern
    if patternParts.length ≠ 4 then false
    else (patternParts.zip (ipOctets ip)).all (fun entry => matchOctet entry.1 entry.2)

/-- A semicolon-separated list of host patterns. -/
def matchIpList (ipList : Str) (ip : UInt32) : Bool :=
  if ipList.isEmpty || ipList = "*".toList then true
  else (split (fun c => c == ';') ipList).any (fun pattern => matchIpPattern (trim pattern) ip)

def matchPortPattern (pattern : Str) (port : UInt16) : Bool :=
  if pattern = "*".toList then true
  else
    match splitOnce '-' pattern with
    | some (startStr, endStr) =>
        let start := (parseU16 startStr).getD 0
        let stop := (parseU16 endStr).getD 0
        decide (port ≥ start) && decide (port ≤ stop)
    | none => port == (parseU16 pattern).getD 0

/-- A list of port patterns separated by commas or semicolons. -/
def matchPortList (portList : Str) (port : UInt16) : Bool :=
  if portList.isEmpty || portList = "*".toList then true
  else
    (split (fun c => c == ',' || c == ';') portList).any
      (fun pattern => matchPortPattern (trim pattern) port)

/-! ## Textual rules -/

/-- An empty field stands for `*`. -/
def fieldOrStar (field : Str) : Str :=
  if field.isEmpty then "*".toList else field

def parseProtocol (field : Str) : Except Str RuleProtocol :=
  let upper := toUppercase field
  if upper = "TCP".toList then .ok .tcp
  else if upper = "UDP".toList then .ok .udp
  else if upper = "BOTH".toList then .ok .both
  else .error ("Invalid protocol '".toList ++ upper ++ "'. Use TCP, UDP, or BOTH".toList)

def parseAction (field : Str) : Except Str RuleAction :=
  let upper := toUppercase field
  if upper = "PROXY".toList then .ok .proxy
  else if upper = "DIRECT".toList then .ok .direct
  else if upper = "BLOCK".toList then .ok .block
  else .error ("Invalid action '".toList ++ upper ++ "'. Use PROXY, DIRECT, or BLOCK".toList)

/-- The components of a rule as the command line gives them. -/
structure ParsedRule where
  process : Str
  hosts : Str
  ports : Str
  protocol : RuleProtocol
  action : RuleAction
  deriving DecidableEq

/-- Parse `process:hosts:ports:protocol:action`. -/
def parseRuleStr (ruleStr : Str) : Except Str ParsedRule :=
  match split (fun c => c == ':') ruleStr with
  | [process, hosts, ports, protocolField, actionField] => do
      let protocol ← parseProtocol protocolField
      let action ← parseAction actionField
      return {
        process := fieldOrStar process
        hosts := fieldOrStar hosts
        ports := fieldOrStar ports
        protocol := protocol
        action := action }
  | _ => .error ("Invalid rule format '".toList ++ ruleStr ++
      "'. Expected: process:hosts:ports:protocol:action".toList)

/-- Loopback, link-local, broadcast or multicast. -/
def isBroadcastOrMulticast (ip : UInt32) : Bool :=
  let firstOctet := (ip &&& 0xFF).toUInt8
  let secondOctet := ((ip >>> 8) &&& 0xFF).toUInt8
  if firstOctet = 127 then true
  else if firstOctet = 169 ∧ secondOctet = 254 then true
  else if ip = 0xFFFFFFFF then true
  else if ip &&& 0xFF000000 = 0xFF000000 then true
  else if 224 ≤ firstOctet ∧ firstOctet ≤ 239 then true
  else false

/-- The dotted-quad form of an address. -/
def formatIp (ip : UInt32) : Str :=
  decimal (ip &&& 0xFF).toNat ++ '.' :: decimal ((ip >>> 8) &&& 0xFF).toNat ++
    '.' :: decimal ((ip >>> 16) &&& 0xFF).toNat ++ '.' :: decimal ((ip >>> 24) &&& 0xFF).toNat

/-- The dotted-quad form of four octets. -/
def dotted (b0 b1 b2 b3 : UInt8) : Str :=
  decimal b0.toNat ++ '.' :: decimal b1.toNat ++ '.' :: decimal b2.toNat ++ '.' :: decimal b3.toNat

theorem toNat_shifted (x : UInt32) (index : Nat) {shift : UInt32}
    (aligned : shift.toNat = 8 * index) (inside : index < 4) :
    ((x >>> shift) &&& 0xFF).toNat = (Octets.byteAt x index).toNat := by
  have bound : ((x >>> shift) &&& 0xFF).toNat < 256 := by
    rw [UInt32.toNat_and]
    exact Nat.lt_succ_of_le Nat.and_le_right
  rw [← Octets.toUInt8_shiftRight x index aligned inside, UInt32.toNat_toUInt8,
    Nat.mod_eq_of_lt bound]

theorem formatIp_eq (ip : UInt32) :
    formatIp ip = dotted (Octets.byteAt ip 0) (Octets.byteAt ip 1) (Octets.byteAt ip 2)
      (Octets.byteAt ip 3) := by
  have first := toNat_shifted ip 0 (rfl : (0 : UInt32).toNat = 8 * 0) (by omega)
  rw [UInt32.shiftRight_zero] at first
  rw [formatIp, dotted, first, toNat_shifted ip 1 (rfl : (8 : UInt32).toNat = 8 * 1) (by omega),
    toNat_shifted ip 2 (rfl : (16 : UInt32).toNat = 8 * 2) (by omega),
    toNat_shifted ip 3 (rfl : (24 : UInt32).toNat = 8 * 3) (by omega)]

end ProxyBridge
