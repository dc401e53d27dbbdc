import VirtualLte.Bytes

/-!
# IPv4 and UDP of the IMS service

`ims_ip.c`: the packets that carry SIP.

* `imsIpParseUdpIpv4` accepts an IPv4 packet with a UDP datagram inside its total length; it
  does not check the checksums.
* `imsIpBuildUdpIpv4` builds one with both checksums.
-/

namespace VirtualLte.Ims

/-- The big-endian word at offset `i`. -/
def rd16 (b : Bytes) (i : Nat) : Nat := (octet b i).toNat * 256 + (octet b (i + 1)).toNat

/-- A big-endian word. -/
def wr16 (v : Nat) : Bytes := [UInt8.ofNat (v / 256), UInt8.ofNat v]

/-! ## Checksums -/

/-- A last odd octet counts as the high half of a word. -/
def checksumAdd (sum : UInt32) : Bytes → UInt32
  | [] => sum
  | [a] => sum + UInt32.ofNat (a.toNat * 256)
  | a :: b :: rest => checksumAdd (sum + UInt32.ofNat (a.toNat * 256 + b.toNat)) rest

/-- The carries are added back; twice is enough for 32 bits. -/
def foldCarries : Nat → UInt32 → UInt32
  | 0, sum => sum
  | n + 1, sum =>
    if sum >>> 16 ≠ 0 then foldCarries n ((sum &&& (0xffff : UInt32)) + (sum >>> 16)) else sum

/-- The complement of the sum of words. -/
def checksumFinish (sum : UInt32) : Nat := (~~~(foldCarries 2 sum)).toNat % 65536

theorem shiftRight16_toNat (sum : UInt32) : (sum >>> 16).toNat = sum.toNat / 65536 := by
  rw [UInt32.toNat_shiftRight]
  exact Nat.shiftRight_eq_div_pow sum.toNat 16

theorem carried_toNat (sum : UInt32) :
    ((sum &&& (0xffff : UInt32)) + (sum >>> 16)).toNat = sum.toNat % 65536 + sum.toNat / 65536 := by
  have hand : (sum &&& (0xffff : UInt32)).toNat = sum.toNat % 65536 := by
    rw [UInt32.toNat_and]
    exact Nat.and_two_pow_sub_one_eq_mod sum.toNat 16
  have hlt := sum.toNat_lt
  rw [UInt32.toNat_add, hand, shiftRight16_toNat]
  omega

theorem shiftRight_eq_zero_iff {sum : UInt32} : sum >>> 16 = 0 ↔ sum.toNat < 65536 := by
  rw [← UInt32.toNat_inj, shiftRight16_toNat]
  change sum.toNat / 65536 = 0 ↔ _
  omega

/-- Two rounds leave no carry. -/
theorem foldCarries_done (sum : UInt32) : (foldCarries 2 sum).toNat < 65536 := by
  have hlt := sum.toNat_lt
  simp only [foldCarries, ne_eq, shiftRight_eq_zero_iff]
  split
  · split
    · have h1 := carried_toNat sum
      rw [carried_toNat]
      omega
    · omega
  · omega

/-- The checksum over a header whose own field is zero. -/
def ipv4HeaderChecksum (hdr : Bytes) : Nat := checksumFinish (checksumAdd 0 hdr)

/-- The checksum over the pseudo header and the datagram. -/
def udpChecksumIpv4 (srcIp dstIp : Ipv4) (udp : Bytes) : Nat :=
  let pseudo := srcIp.toList ++ dstIp.toList ++ [0, 17] ++ wr16 udp.length
  checksumFinish (checksumAdd (checksumAdd 0 pseudo) udp)

/-! ## Packets -/

/-- A datagram and where it comes from. -/
structure ImsUdpPacket where
  srcIp : Ipv4
  dstIp : Ipv4
  srcPort : Nat
  dstPort : Nat
  payload : Bytes
  deriving DecidableEq, Repr

/-- The datagram of a packet; every length is checked against what contains it. -/
def imsIpParseUdpIpv4 (packet : Bytes) : Option ImsUdpPacket :=
  if packet.length < 28 then none
  else if octet packet 0 >>> 4 ≠ 4 then none
  else
    let ihl := (octet packet 0 &&& 0x0f).toNat * 4
    if ihl < 20 ∨ ihl > packet.length then none
    else if octet packet 9 ≠ 17 then none
    else
      let totalLen := rd16 packet 2
      if totalLen < ihl + 8 ∨ totalLen > packet.length then none
      else
        let udpLen := rd16 packet (ihl + 4)
        if udpLen < 8 ∨ ihl + udpLen > totalLen then none
        else
          some {
            srcIp := vecOf 4 (packet.drop 12)
            dstIp := vecOf 4 (packet.drop 16)
            srcPort := rd16 packet ihl
            dstPort := rd16 packet (ihl + 2)
            payload := (packet.drop (ihl + 8)).take (udpLen - 8) }

/-- A packet without options; a UDP checksum of zero is sent as all ones. -/
def imsIpBuildUdpIpv4 (outLen : Nat) (srcIp dstIp : Ipv4) (srcPort dstPort : Nat) (payload : Bytes) :
    Option Bytes :=
  let udpLen := 8 + payload.length
  let totalLen := 20 + udpLen
  if payload.length > 0xffff - 28 ∨ outLen < totalLen then none
  else
    let hdr (csum : Nat) :=
      [0x45, 0] ++ wr16 totalLen ++ wr16 0 ++ wr16 0x4000 ++ [64, 17] ++ wr16 csum ++
        srcIp.toList ++ dstIp.toList
    let udp (csum : Nat) := wr16 srcPort ++ wr16 dstPort ++ wr16 udpLen ++ wr16 csum ++ payload
    let csum := udpChecksumIpv4 srcIp dstIp (udp 0)
    some (hdr (ipv4HeaderChecksum (hdr 0)) ++ udp (if csum = 0 then 0xffff else csum))

end VirtualLte.Ims
