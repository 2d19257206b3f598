import ProxyBridge.Core.Connection

namespace ProxyBridge

open Foundation Text

/-!
# Who owns a connection

A packet is attributed to a process by the owner of its local socket.  The
answer is cached; a cached PID is taken without asking the host again, and 0
stands for an unknown owner and is never cached.
-/

/-- What the host answers while one packet is handled: the owner of a socket in
the kernel's socket dump, the owner of a UDP port in `/proc/net`, and the target
of a process's `exe` link. -/
structure HostAnswers where
  pidViaNetlink : UInt32 -> UInt16 -> Bool -> Option UInt32
  pidFromProcNetUdp : UInt16 -> Option UInt32
  exeLink : UInt32 -> Option Str

/-- The owner of a connection and the cache afterwards. -/
def getPidFromConnection (host : HostAnswers) (now : Instant) (cache : PidCache) (srcIp : UInt32)
    (srcPort : UInt16) (isUdp : Bool) : UInt32 × PidCache :=
  match cache.get now srcIp srcPort isUdp with
  | some pid => (pid, cache)
  | none =>
      let pid :=
        match host.pidViaNetlink srcIp srcPort isUdp with
        | some pid => pid
        | none => if isUdp then (host.pidFromProcNetUdp srcPort).getD 0 else 0
      (pid, if pid ≠ 0 then cache.put now srcIp srcPort pid isUdp else cache)

/-- The executable of a process; the first process is known by name. -/
def getProcessName (host : HostAnswers) (pid : UInt32) : Option Str :=
  if pid = 0 then none
  else if pid = 1 then some "systemd".toList
  else host.exeLink pid

end ProxyBridge
