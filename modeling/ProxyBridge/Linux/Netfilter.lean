import ProxyBridge.Core.Config
import ProxyBridge.Foundation.PacketFilter

namespace ProxyBridge

open Foundation Text Octets PacketFilter

/-!
# The nftables rules

The program keeps one table of its own in the kernel.  The first of its two
chains queues all TCP and UDP packets, and the second redirects the connections
of marked packets to the relays.  `setup` deletes what an earlier run may have
left and builds the table in one batch, and `cleanup` deletes it.

Rules are built from expressions of the nftnl crate, which lays their constants
out as bytes; `NftnlEncoding` holds these layouts.  The packet filter of the
kernel is a parameter.  Its answers to a batch come back over the socket and
decide what the two functions return.
-/

/-- Address families; a table of the first one sees IPv4 and IPv6. -/
inductive ProtoFamily where
  | inet
  | ipv4
  | ipv6
  deriving DecidableEq

inductive MetaField where
  | l4Proto
  | mark

/-- The data registers; the crate loads fields into the first one and compares
that one. -/
inductive Register where
  | reg1
  | reg2
  | reg3
  | reg4
  deriving DecidableEq

/-- How the crate lays out the constants of expressions. -/
structure NftnlEncoding where
  cmpU8 : UInt8 -> Octets
  cmpU32 : UInt32 -> Octets
  immediateU16 : UInt16 -> Octets

/-- Constants are laid out as the host stores numbers. -/
structure NftnlEncoding.Native (encoding : NftnlEncoding) (order : ByteOrder) : Prop where
  cmpU8 : forall x, encoding.cmpU8 x = [x]
  cmpU32 : forall x, encoding.cmpU32 x = toNeBytes order x
  immediateU16 : forall x, encoding.immediateU16 x = toNeBytes16 order x

def NftnlEncoding.native (order : ByteOrder) : NftnlEncoding where
  cmpU8 := fun x => [x]
  cmpU32 := toNeBytes order
  immediateU16 := toNeBytes16 order

abbrev FilterRule := Program MetaField Register

abbrev FilterMessage := Message (ProtoFamily × Str) Str MetaField Register

abbrev FilterTable := Table Str MetaField Register

/-- A packet as the kernel has it. -/
structure OutPacket where
  l4Proto : UInt8
  mark : UInt32
  payload : Octets

/-- The packet filter of the kernel. -/
abbrev NetFilter := Filter (ProtoFamily × Str) Str MetaField Register OutPacket

/-- The table of the program. -/
def tableName : ProtoFamily × Str :=
  (.inet, "proxybridge".toList)

def mangleOutputName : Str := "mangle_output".toList

def natOutputName : Str := "nat_output".toList

def mangleOutput : Stand where
  kind := .filter
  hook := .output
  priority := -150
  policy := .accept

def natOutput : Stand where
  kind := .nat
  hook := .output
  priority := -100
  policy := .accept

/-- The arguments of `setup`, the byte order of the host and the layouts. -/
structure NetfilterArgs where
  order : ByteOrder
  encoding : NftnlEncoding
  tcpRelayPort : UInt16
  udpRelayPort : UInt16
  queueNum : UInt16

/-- The arguments that the program passes to `setup`. -/
def relayArgs (order : ByteOrder) (encoding : NftnlEncoding) : NetfilterArgs where
  order := order
  encoding := encoding
  tcpRelayPort := localProxyPort
  udpRelayPort := localUdpRelayPort
  queueNum := nfqueueNum

section Rules

variable (args : NetfilterArgs)

def l4ProtoIs (protocol : UInt8) : FilterRule :=
  [.load .l4Proto .reg1, .cmpEq .reg1 (args.encoding.cmpU8 protocol)]

def markIs (mark : UInt32) : FilterRule :=
  [.load .mark .reg1, .cmpEq .reg1 (args.encoding.cmpU32 mark)]

/-- ip protocol `protocol` queue num `queueNum` -/
def queueRule (protocol : UInt8) : FilterRule :=
  l4ProtoIs args protocol ++ [.queue args.queueNum]

/-- ip protocol `protocol` mark `mark` redirect to :`port` -/
def redirRule (protocol : UInt8) (mark : UInt32) (port : UInt16) : FilterRule :=
  l4ProtoIs args protocol ++ markIs args mark ++
    [.immediate (args.encoding.immediateU16 (toBe args.order port)) .reg1, .redir (some .reg1)]

def tcpQueueRule : FilterRule :=
  queueRule args 6

def udpQueueRule : FilterRule :=
  queueRule args 17

def tcpRedirRule : FilterRule :=
  redirRule args 6 1 args.tcpRelayPort

def udpRedirRule : FilterRule :=
  redirRule args 17 2 args.udpRelayPort

def setupBatch : List FilterMessage :=
  [ .addTable tableName,
    .addChain tableName mangleOutputName mangleOutput,
    .addRule tableName mangleOutputName (tcpQueueRule args),
    .addRule tableName mangleOutputName (udpQueueRule args),
    .addChain tableName natOutputName natOutput,
    .addRule tableName natOutputName (tcpRedirRule args),
    .addRule tableName natOutputName (udpRedirRule args) ]

end Rules

def cleanupBatch : List FilterMessage :=
  [.deleteTable tableName]

/-- What the callback makes of a received block. -/
inductive CbRun where
  | ok
  | stop
  | error (code : Nat) (text : Str)

inductive NetlinkResponse where
  | failed (error : Str)
  | empty
  | block (result : CbRun)

/-- What the socket and the kernel answer to one batch: the errors of opening
and sending, if any, whether the kernel carries the batch out as far as it is
concerned, and what is received until nothing more comes. -/
structure BatchAnswers where
  openError : Option Str
  sendError : Option Str
  admitted : Bool
  received : List NetlinkResponse

def enoent : Nat := 2

/-- The loop over the responses; no result when it waits forever. -/
def processResponses : List NetlinkResponse -> Option (Except Str Unit)
  | [] => none
  | .failed error :: _ =>
      some (.error ("Failed to receive Netlink response: ".toList ++ error))
  | .empty :: _ => some (.ok ())
  | .block .ok :: rest => processResponses rest
  | .block .stop :: _ => some (.ok ())
  | .block (.error code text) :: _ =>
      if code = enoent then some (.ok ())
      else some (.error ("Netlink callback error: ".toList ++ text))

def sendAndProcess (answers : BatchAnswers) : Option (Except Str Unit) :=
  match answers.openError, answers.sendError with
  | some error, _ => some (.error ("Failed to open Netlink socket: ".toList ++ error))
  | none, some error => some (.error ("Failed to send Netlink batch: ".toList ++ error))
  | none, none => processResponses answers.received

/-- The batch reaches the kernel, which admits it. -/
def BatchAnswers.arrives (answers : BatchAnswers) : Bool :=
  answers.openError.isNone && answers.sendError.isNone && answers.admitted

section Sending

variable (filter : NetFilter)

/-- The kernel carries a batch out, or leaves the tables as they are. -/
def carryOut (ruleset : filter.Ruleset) (batch : List FilterMessage) : filter.Ruleset :=
  (filter.commit ruleset batch).getD ruleset

/-- The tables after a batch has been sent, and what sending it returns. -/
def sendBatch (ruleset : filter.Ruleset) (batch : List FilterMessage) (answers : BatchAnswers) :
    filter.Ruleset × Option (Except Str Unit) :=
  (if answers.arrives then carryOut filter ruleset batch else ruleset, sendAndProcess answers)

/-- Errors are ignored; the table may not exist. -/
def cleanup (ruleset : filter.Ruleset) (answers : BatchAnswers) :
    filter.Ruleset × Option (Except Str Unit) :=
  let sent := sendBatch filter ruleset cleanupBatch answers
  (sent.1, sent.2.map (fun _ => .ok ()))

/-- The tables after a set-up, and what it returns; `first` answers the clean-up
of leftovers and `second` the batch. -/
def setup (args : NetfilterArgs) (ruleset : filter.Ruleset) (first second : BatchAnswers) :
    filter.Ruleset × Option (Except Str Unit) :=
  let cleaned := cleanup filter ruleset first
  match cleaned.2 with
  | none => (cleaned.1, none)
  | some _ => sendBatch filter cleaned.1 (setupBatch args) second

/-- What is relied on of the kernel when the table is changed: the laws for this
table, and that the rules may stand in their chains. -/
structure AcceptsTable (args : NetfilterArgs) : Prop where
  laws : filter.TableLaws tableName
  tcpQueue : filter.admits mangleOutput (tcpQueueRule args)
  udpQueue : filter.admits mangleOutput (udpQueueRule args)
  tcpRedir : filter.admits natOutput (tcpRedirRule args)
  udpRedir : filter.admits natOutput (udpRedirRule args)

end Sending

end ProxyBridge
