import ProxyBridge.Core.Socks5

namespace ProxyBridge

open Foundation

/-!
# SOCKS5 datagrams in both directions

A datagram that is built can be read, and one that is read can be built again.
The header has ten bytes, of which the reader ignores the two reserved ones;
these are all that rebuilding may change.
-/

section Datagrams

variable {order : Octets.ByteOrder} {packet : Octets} {ip : UInt32} {port : UInt16} {offset : Nat}

/-- What the reader refuses. -/
theorem parseSocks5UdpPacket_eq_none
    (refused : packet.length < 10 ∨ packet.getD 2 0 ≠ 0x00 ∨ packet.getD 3 0 ≠ socks5AtypIpv4) :
    parseSocks5UdpPacket order packet = none := by
  unfold parseSocks5UdpPacket
  by_cases short : packet.length < 10
  · exact if_pos short
  · rw [if_neg short]
    by_cases fragment : packet.getD 2 0 ≠ 0x00
    · exact if_pos fragment
    · rw [if_neg fragment]
      exact if_pos ((refused.resolve_left short).resolve_left fragment)

/-- What an accepted datagram consists of. -/
structure Reads (order : Octets.ByteOrder) (packet : Octets) (ip : UInt32) (port : UInt16)
    (offset : Nat) : Prop where
  long : 10 ≤ packet.length
  whole : packet.getD 2 0 = 0x00
  ipv4 : packet.getD 3 0 = socks5AtypIpv4
  address : Octets.fromNeBytes order ((packet.drop 4).take 4) = ip
  service : Octets.fromBeBytes ((packet.drop 8).take 2) = some port
  payload : offset = 10

theorem reads_of_parseSocks5UdpPacket
    (parsed : parseSocks5UdpPacket order packet = some (ip, port, offset)) :
    Reads order packet ip port offset := by
  have accepted : Not (packet.length < 10 ∨ packet.getD 2 0 ≠ 0x00 ∨
      packet.getD 3 0 ≠ socks5AtypIpv4) := by
    intro refused
    rw [parseSocks5UdpPacket_eq_none refused] at parsed
    cases parsed
  rcases not_or.mp accepted with ⟨long, checks⟩
  rcases not_or.mp checks with ⟨fragment, kind⟩
  rw [parseSocks5UdpPacket, if_neg long, if_neg fragment, if_neg kind,
    Octets.slice_of_le (by omega) (by omega), Octets.slice_of_le (by omega) (by omega)] at parsed
  change ((Octets.fromBeBytes ((packet.drop 8).take 2)).bind fun srcPort =>
    some (Octets.fromNeBytes order ((packet.drop 4).take 4), srcPort, 10)) = _ at parsed
  rcases Option.bind_eq_some_iff.mp parsed with ⟨srcPort, service, same⟩
  cases same
  exact ⟨by omega, Decidable.not_not.mp fragment, Decidable.not_not.mp kind, rfl, service, rfl⟩

/-- The header is rebuilt up to its reserved bytes. -/
theorem Reads.rebuild (reads : Reads order packet ip port offset) :
    Exists fun first => Exists fun second => Exists fun rest =>
      packet = first :: second :: rest ∧
        buildSocks5UdpPacket order ip port (packet.drop offset) = 0x00 :: 0x00 :: rest := by
  have long := reads.long
  have sizeAddress : ((packet.drop 4).take 4).length = 4 := by
    rw [List.length_take, List.length_drop]
    omega
  have octets : Octets.toNeBytes order ip = (packet.drop 4).take 4 := by
    rw [← reads.address]
    exact Octets.toNeBytes_fromNeBytes_of_length order sizeAddress
  have digits : Octets.toBeBytes port = (packet.drop 8).take 2 :=
    Octets.toBeBytes_of_fromBeBytes reads.service
  have tail : (packet.drop 4).take 4 ++ ((packet.drop 8).take 2 ++ packet.drop 10) =
      packet.drop 4 := by
    have service := List.take_append_drop 2 (packet.drop 8)
    have address := List.take_append_drop 4 (packet.drop 4)
    rw [List.drop_drop] at service address
    rw [service, address]
  have third : packet.drop 2 = 0x00 :: socks5AtypIpv4 :: packet.drop 4 := by
    rw [List.drop_eq_getElem_cons (by omega : 2 < packet.length),
      List.drop_eq_getElem_cons (by omega : 3 < packet.length), ← reads.whole, ← reads.ipv4,
      List.getD_eq_getElem _ _ (by omega : 2 < packet.length),
      List.getD_eq_getElem _ _ (by omega : 3 < packet.length)]
  have start : packet = packet[0] :: packet[1] :: packet.drop 2 := by
    have zero := List.drop_eq_getElem_cons (by omega : 0 < packet.length)
    have one := List.drop_eq_getElem_cons (by omega : 1 < packet.length)
    rw [← one, ← zero, List.drop_zero]
  refine ⟨packet[0], packet[1], packet.drop 2, start, ?_⟩
  rw [buildSocks5UdpPacket, octets, digits, reads.payload, List.append_assoc, List.append_assoc,
    tail, third]
  rfl

end Datagrams

/-- Building and reading are inverse to each other up to the reserved bytes,
and a datagram that is too short, is a fragment or carries another type of
address is refused. -/
theorem socks5UdpPacket_roundTrip (order : Octets.ByteOrder) :
    (forall (destIp : UInt32) (destPort : UInt16) (data : Octets), Exists fun offset =>
      parseSocks5UdpPacket order (buildSocks5UdpPacket order destIp destPort data) =
          some (destIp, destPort, offset) ∧
        (buildSocks5UdpPacket order destIp destPort data).drop offset = data) ∧
    (forall (packet : Octets) (ip : UInt32) (port : UInt16) (offset : Nat),
      parseSocks5UdpPacket order packet = some (ip, port, offset) ->
        Exists fun first => Exists fun second => Exists fun rest =>
          packet = first :: second :: rest ∧
            buildSocks5UdpPacket order ip port (packet.drop offset) = 0x00 :: 0x00 :: rest) ∧
    (forall packet : Octets,
      packet.length < 10 ∨ packet.getD 2 0 ≠ 0x00 ∨ packet.getD 3 0 ≠ socks5AtypIpv4 ->
        parseSocks5UdpPacket order packet = none) := by
  refine ⟨?_, ?_, ?_⟩
  · intro destIp destPort data
    refine ⟨10, parseSocks5UdpPacket_build order destIp destPort data, ?_⟩
    have size : ([0x00, 0x00, 0x00, socks5AtypIpv4] ++ Octets.toNeBytes order destIp ++
        Octets.toBeBytes destPort).length = 10 := by
      cases order with
      | little => rfl
      | big => rfl
    rw [buildSocks5UdpPacket, ← size, List.drop_left]
  · intro packet ip port offset parsed
    exact (reads_of_parseSocks5UdpPacket parsed).rebuild
  · intro packet refused
    exact parseSocks5UdpPacket_eq_none refused

end ProxyBridge
