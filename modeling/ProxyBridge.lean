import ProxyBridge.Foundation.CaseMapping
import ProxyBridge.Foundation.Bytes
import ProxyBridge.Foundation.KeyedStore
import ProxyBridge.Foundation.Runs
import ProxyBridge.Foundation.TwoRuns
import ProxyBridge.Foundation.InternetHeaders
import ProxyBridge.Foundation.Netlink
import ProxyBridge.Foundation.Base64
import ProxyBridge.Foundation.HttpMessage
import ProxyBridge.Foundation.Glob
import ProxyBridge.Foundation.PacketFilter
import ProxyBridge.Foundation.PacketFilterMachine
import ProxyBridge.Foundation.Simulation
import ProxyBridge.Foundation.Conntrack
import ProxyBridge.Core.Connection
import ProxyBridge.Core.TrackerLookups
import ProxyBridge.Core.TrackerActivity
import ProxyBridge.Core.PidCacheHistory
import ProxyBridge.Core.RuleHistory
import ProxyBridge.Core.RuleIdentity
import ProxyBridge.Core.RuleLanguage
import ProxyBridge.Core.RuleParsing
import ProxyBridge.Core.RuleSubstitution
import ProxyBridge.Core.MalformedPatterns
import ProxyBridge.Core.ProcessGlobs
import ProxyBridge.Core.Socks5Handshake
import ProxyBridge.Core.Socks5Credentials
import ProxyBridge.Core.Socks5Negotiation
import ProxyBridge.Core.Socks5Datagrams
import ProxyBridge.Core.HttpConnect
import ProxyBridge.Core.StatusLine
import ProxyBridge.Core.ConnectRequest
import ProxyBridge.Cli.ProxyUrl
import ProxyBridge.Linux.Nfqueue
import ProxyBridge.Linux.PacketSafety
import ProxyBridge.Linux.PacketLoop
import ProxyBridge.Linux.OwnerLookup
import ProxyBridge.Linux.SelfTraffic
import ProxyBridge.Linux.ProcScan
import ProxyBridge.Linux.UidHint
import ProxyBridge.Linux.UdpFallback
import ProxyBridge.Linux.NetlinkDump
import ProxyBridge.Linux.NetlinkScan
import ProxyBridge.Linux.GenuineHeaders
import ProxyBridge.Linux.AddressAgreement
import ProxyBridge.Linux.Relay
import ProxyBridge.Linux.RelayFidelity
import ProxyBridge.Linux.RelayAuthorisation
import ProxyBridge.Linux.ReplyRouting
import ProxyBridge.Linux.ReplyInjection
import ProxyBridge.Linux.AssociationSize
import ProxyBridge.Linux.NetlinkBounds
import ProxyBridge.Linux.Netfilter
import ProxyBridge.Linux.NetfilterRuns
import ProxyBridge.Cli.CommandLine
import ProxyBridge.Linux.Startup
import ProxyBridge.Linux.System
import ProxyBridge.Linux.SystemProvenance
import ProxyBridge.Linux.AsTold
import ProxyBridge.Linux.KernelNat
import ProxyBridge.Linux.ProcessLives
import ProxyBridge.Linux.SocketOwner
import ProxyBridge.Linux.OwnerHistory
