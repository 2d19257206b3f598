import ProxyBridge.Core.HttpConnect
import ProxyBridge.Core.RuleLanguage
import ProxyBridge.Core.Socks5
import ProxyBridge.Linux.Nfqueue

namespace ProxyBridge

open Foundation Text

/-!
# One address in four modules

The packet loop reads an address in the host's byte order, and the SOCKS5
messages write it in that order.  The rules, the printer and the classifier take
its octets by shifts, the least significant byte first.

The two views agree on a little-endian host.  On a big-endian host the octets
come out reversed, and the components agree on an address only if it reads the
same both ways (`addressAgreement_iff`).
-/

/-- All bits of the last octet are set. -/
theorem mask_eq_iff (ip : UInt32) :
    ip &&& 0xFF000000 = 0xFF000000 <-> Octets.byteAt ip 3 = 255 := by
  have bound := ip.toNat_lt
  rw [← UInt32.toNat_inj, ← UInt8.toNat_inj, Octets.toNat_byteAt, UInt32.toNat_and]
  change ip.toNat &&& 255 <<< 24 = 255 <<< 24 <-> ip.toNat / 2 ^ 24 % 256 = 255
  constructor
  · intro masked
    have high := congrArg (fun n => n >>> 24) masked
    simp only [Nat.shiftRight_and_distrib, Nat.shiftLeft_shiftRight] at high
    rwa [Nat.shiftRight_eq_div_pow, Nat.and_two_pow_sub_one_eq_mod _ 8] at high
  · intro high
    have whole : ip.toNat = 255 <<< 24 + ip.toNat % 2 ^ 24 := by
      rw [Nat.shiftLeft_eq]
      omega
    rw [whole, Nat.shiftLeft_add_eq_or_of_lt (Nat.mod_lt _ (by decide))]
    apply Nat.eq_of_testBit_eq
    intro index
    rw [Nat.testBit_and, Nat.testBit_or]
    cases (255 <<< 24).testBit index with
    | true => rfl
    | false => exact Bool.and_false _

/-- The test reads the first two octets and the last one. -/
theorem isBroadcastOrMulticast_iff (ip : UInt32) :
    isBroadcastOrMulticast ip = true <->
      Octets.byteAt ip 0 = 127 ∨ (Octets.byteAt ip 0 = 169 ∧ Octets.byteAt ip 1 = 254) ∨
        Octets.byteAt ip 3 = 255 ∨ (224 ≤ Octets.byteAt ip 0 ∧ Octets.byteAt ip 0 ≤ 239) := by
  have all : ip = 0xFFFFFFFF -> ip &&& 0xFF000000 = 0xFF000000 := by
    rintro rfl
    rfl
  unfold isBroadcastOrMulticast
  rw [Octets.toUInt8_mask,
    Octets.toUInt8_shiftRight ip 1 (rfl : (8 : UInt32).toNat = 8 * 1) (by omega)]
  simp only [← mask_eq_iff, Bool.if_true_left, Bool.if_false_right, Bool.or_eq_true,
    Bool.and_eq_true, decide_eq_true_eq]
  tauto

/-- Every component takes the address to be `b0.b1.b2.b3`. -/
structure TakenAs (order : Octets.ByteOrder) (ip : UInt32) (b0 b1 b2 b3 : UInt8) : Prop where
  printed : formatIp ip = dotted b0 b1 b2 b3
  compared : forall pattern p q r s, split (fun c => c == '.') pattern = [p, q, r, s] ->
    matchIpPattern pattern ip =
      (matchOctet p b0 && matchOctet q b1 && matchOctet r b2 && matchOctet s b3)
  classified : isBroadcastOrMulticast ip = true <->
    b0 = 127 ∨ (b0 = 169 ∧ b1 = 254) ∨ b3 = 255 ∨ (224 ≤ b0 ∧ b0 ≤ 239)
  requested : forall command port, requestMessage command order ip port =
    [socks5Version, command, 0x00, socks5AtypIpv4, b0, b1, b2, b3] ++ Octets.toBeBytes port
  wrapped : forall port data, buildSocks5UdpPacket order ip port data =
    [0x00, 0x00, 0x00, socks5AtypIpv4, b0, b1, b2, b3] ++ Octets.toBeBytes port ++ data
  tunnelled : forall base64Encode port username password,
    let dest := dotted b0 b1 b2 b3 ++ ':' :: decimal port.toNat
    "CONNECT ".toList ++ dest ++ " HTTP/1.1\r\nHost: ".toList ++ dest ++
        "\r\nProxy-Connection: Keep-Alive\r\n".toList <+:
      connectRequest base64Encode ip port username password

/-- Whatever packet has these octets in its destination field, every component
takes the address that is read from it to be `b0.b1.b2.b3`. -/
def AddressAgreement (order : Octets.ByteOrder) (b0 b1 b2 b3 : UInt8) : Prop :=
  forall payload header, (payload.drop 16).take 4 = [b0, b1, b2, b3] ->
    readIpHeader order payload = some header -> TakenAs order header.destIp b0 b1 b2 b3

theorem destIp_of_readIpHeader {order : Octets.ByteOrder} {payload field : Octets}
    {header : IpHeader} (held : (payload.drop 16).take 4 = field)
    (read : readIpHeader order payload = some header) :
    header.destIp = Octets.fromNeBytes order field := by
  rcases Option.bind_eq_some_iff.mp read with ⟨versionIhl, _, read⟩
  rcases Option.bind_eq_some_iff.mp read with ⟨protocol, _, read⟩
  rcases Option.bind_eq_some_iff.mp read with ⟨srcBytes, _, read⟩
  rcases Option.bind_eq_some_iff.mp read with ⟨destBytes, dest, read⟩
  cases read
  unfold Octets.slice at dest
  split at dest
  · cases dest
    rw [← held]
  · cases dest

section Agreement

variable {b0 b1 b2 b3 : UInt8}

theorem takenAs_of_ipOctets {order : Octets.ByteOrder} {ip : UInt32}
    (shifted : ipOctets ip = [b0, b1, b2, b3]) (wire : Octets.toNeBytes order ip = [b0, b1, b2, b3]) :
    TakenAs order ip b0 b1 b2 b3 := by
  have octets := (ipOctets_eq ip).symm.trans shifted
  injection octets with first rest
  injection rest with second rest
  injection rest with third rest
  injection rest with fourth _
  have print : formatIp ip = dotted b0 b1 b2 b3 := by
    rw [formatIp_eq, first, second, third, fourth]
  constructor
  · exact print
  · intro pattern p q r s parts
    rw [matchIpPattern_of_split ip parts, first, second, third, fourth]
  · rw [isBroadcastOrMulticast_iff, first, second, fourth]
  · intro command port
    rw [requestMessage, wire]
    rfl
  · intro port data
    rw [buildSocks5UdpPacket, wire]
    rfl
  · intro base64Encode port username password
    unfold connectRequest
    rw [print]
    exact (List.prefix_append _ _).trans (List.prefix_append _ _)

/-- An address is compared with its own octets. -/
theorem ipOctets_of_takenAs {order : Octets.ByteOrder} {ip : UInt32}
    (taken : TakenAs order ip b0 b1 b2 b3) : ipOctets ip = [b0, b1, b2, b3] := by
  have parts := split_octets (.exactly b0) (.exactly b1) (.exactly b2) (.exactly b3)
  have self : forall b : UInt8, matchOctet (HostPart.exactly b).render b = true :=
    fun b => (matchOctet_render (.exactly b) b).mpr rfl
  have matched := taken.compared _ _ _ _ _ parts
  rw [self, self, self, self, Bool.and_self, Bool.and_self, Bool.and_self,
    matchIpPattern_render] at matched
  rcases matched with ⟨first, second, third, fourth⟩
  rw [ipOctets_eq]
  change _ = b0 at first
  change _ = b1 at second
  change _ = b2 at third
  change _ = b3 at fourth
  rw [first, second, third, fourth]

end Agreement

/-- The components agree on every address of a little-endian host, and on a
big-endian host on the addresses that read the same backwards. -/
theorem addressAgreement_iff (order : Octets.ByteOrder) (b0 b1 b2 b3 : UInt8) :
    AddressAgreement order b0 b1 b2 b3 <-> order = .little ∨ (b0 = b3 ∧ b1 = b2) := by
  have shifted := ipOctets_fromNeBytes order b0 b1 b2 b3
  have wire := Octets.toNeBytes_fromNeBytes order b0 b1 b2 b3
  constructor
  · intro agreement
    have taken := agreement (List.replicate 16 0 ++ [b0, b1, b2, b3]) _ rfl rfl
    have octets : ipOctets (Octets.fromNeBytes order [b0, b1, b2, b3]) = [b0, b1, b2, b3] :=
      ipOctets_of_takenAs taken
    rw [shifted] at octets
    cases order with
    | little => exact Or.inl rfl
    | big =>
        injection octets with outer rest
        injection rest with inner _
        exact Or.inr ⟨outer.symm, inner.symm⟩
  · intro readable payload header held read
    rw [destIp_of_readIpHeader held read]
    apply takenAs_of_ipOctets _ wire
    rw [shifted]
    cases order with
    | little => rfl
    | big =>
        rcases readable with little | ⟨outer, inner⟩
        · cases little
        · rw [outer, inner]

/-- On a big-endian host, 127.0.0.1 is printed backwards and not taken for the
loopback address. -/
theorem big_endian_disagrees :
    Not (forall order b0 b1 b2 b3, AddressAgreement order b0 b1 b2 b3) := by
  intro agreement
  have taken := agreement .big 127 0 0 1 (List.replicate 16 0 ++ [127, 0, 0, 1]) _ rfl rfl
  have loopback := taken.classified.mpr (Or.inl rfl)
  cases loopback

end ProxyBridge
