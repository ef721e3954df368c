import DhcpRelay.Library.OnesComplement
import DhcpRelay.Smf.HopLimit

/-!
# DhcpRelay.Smf.Checksum

**The IPv4 header checksum of a forwarded packet.** An engine writes a new TTL into the header
and nothing else, so the checksum in it is still the one for the TTL before. The sum of the
header, which should have all bits set, is short by the one that the TTL has lost, in the
upper half of its word. Where the engine is told an IPv6 address it writes to the place of the
hop limit of an IPv6 header, which in an IPv4 packet is the lower half of the fragment offset.
-/

namespace DhcpRelay.Smf

open DhcpRelay.Library

/-- The length of an IPv4 header, as its first byte says: four times the IHL. -/
def ipv4HeaderLen (packet : Bytes) : Nat := 4 * (packet.headD 0 &&& 0x0F).toNat

/-- The ones'-complement sum of the words of an IPv4 header. -/
def ipv4HeaderSum (packet : Bytes) : Nat := onesSum (words16 (packet.take (ipv4HeaderLen packet)))

/-- The packet has an IPv4 header, with a correct checksum in it. -/
structure HeaderValid (packet : Bytes) : Prop where
  complete : 20 ≤ ipv4HeaderLen packet
  contained : ipv4HeaderLen packet ≤ packet.length
  checksum : ipv4HeaderSum packet = 0xFFFF

variable {packet : Bytes} {call : PacketCall} {engine : SmfEngine} {out : Bytes}

/-- A write behind the first byte does not change the IHL. -/
theorem ipv4HeaderLen_set {pos : Nat} (hpos : 0 < pos) (packet : Bytes) (b : UInt8) :
    ipv4HeaderLen (packet.set pos b) = ipv4HeaderLen packet := by
  cases packet with
  | nil => rfl
  | cons first rest =>
      obtain ⟨pos, rfl⟩ := Nat.exists_eq_succ_of_ne_zero hpos.ne'
      rfl

/-- A header is complete up to the place of the TTL. -/
theorem HeaderValid.long (h : HeaderValid packet) :
    10 ≤ (packet.take (ipv4HeaderLen packet)).length := by
  have hcomplete := h.complete
  have hcontained := h.contained
  rw [List.length_take]
  omega

/-- A TTL that is one smaller makes the sum smaller by 256. -/
theorem ipv4HeaderSum_set (hvalid : HeaderValid packet) {ttl b : UInt8}
    (httl : packet[8]? = some ttl) (hb : b.toNat + 1 = ttl.toNat) :
    ipv4HeaderSum (packet.set 8 b) = 0xFEFF := by
  let header : Bytes := packet.take (ipv4HeaderLen packet)
  have hlen : 10 ≤ header.length := hvalid.long
  have hold : header[8].toNat = ttl.toNat := by
    have hget : header[8]? = some ttl := by
      rw [List.getElem?_take_of_lt (by have hcomplete := hvalid.complete; omega), httl]
    rw [List.getElem?_eq_getElem (by omega)] at hget
    rw [Option.some.inj hget]
  have hsum : (words16 (header.set 8 b)).sum + header[8].toNat * 256
      = (words16 header).sum + b.toNat * 256 := sum_words16_set rfl hlen b
  have hones := (onesSum_eq_ones_iff (words16_lt header)).mp hvalid.checksum
  rw [ipv4HeaderSum, ipv4HeaderLen_set (by decide), List.take_set, onesSum_eq (words16_lt _)]
  have hless : (words16 (header.set 8 b)).sum + 256 = (words16 header).sum := by omega
  show (if (words16 (header.set 8 b)).sum = 0 then 0
    else ((words16 (header.set 8 b)).sum - 1) % 65535 + 1) = 0xFEFF
  split <;> omega

/-- A header in which the lower half of the fragment offset is written over is correct only if
that changes nothing. -/
theorem headerValid_set_fragment_iff (hvalid : HeaderValid packet) (b : UInt8) :
    HeaderValid (packet.set 7 b) ↔ packet.set 7 b = packet := by
  constructor
  · intro h
    let header : Bytes := packet.take (ipv4HeaderLen packet)
    have hlen : 8 ≤ header.length := (by decide : 8 ≤ 10).trans hvalid.long
    have hsum : (words16 (header.set 7 b)).sum + header[7].toNat
        = (words16 header).sum + b.toNat := sum_words16_set_low rfl hlen b
    have hbefore := (onesSum_eq_ones_iff (words16_lt header)).mp hvalid.checksum
    have hafter : onesSum (words16 (header.set 7 b)) = 0xFFFF := by
      have hchecksum := h.checksum
      rwa [ipv4HeaderSum, ipv4HeaderLen_set (by decide), List.take_set] at hchecksum
    rw [onesSum_eq_ones_iff (words16_lt _)] at hafter
    -- the two sums are multiples of 65535, and less than 256 apart
    have hsame : header[7].toNat = b.toNat := by
      have hold := header[7].toNat_lt
      have hnew := b.toNat_lt
      omega
    have hbyte : packet[7]? = some b := by
      have hget : header[7]? = some b := by
        rw [List.getElem?_eq_getElem (by omega), UInt8.toNat_inj.mp hsame]
      rwa [List.getElem?_take_of_lt (by have hcomplete := hvalid.complete; omega)] at hget
    obtain ⟨hlt, rfl⟩ := List.getElem?_eq_some_iff.mp hbyte
    exact List.set_getElem_self hlt
  · intro h
    rwa [h]

/-- **The checksum is left behind**: a packet that is forwarded to an IPv4 address has gone one
hop and is otherwise the packet received, so the sum of its header is 0xFEFF in place of 0xFFFF.
One that is forwarded to an IPv6 address has not gone a hop, but has the TTL less one in byte 7,
and so its header is correct only if that is what was there. -/
theorem processPacket_headerSum (hvalid : HeaderValid call.packet)
    (httl : call.packet[8]? = some call.ttl)
    (hout : (engine.processPacket call).1 = .ok (some out)) :
    ipv4HeaderLen out = ipv4HeaderLen call.packet
      ∧ (∀ ip, call.dstAddr = .v4 ip → AfterHops call.dstAddr call.packet 1 out
        ∧ ipv4HeaderSum out = 0xFEFF)
      ∧ ∀ ip, call.dstAddr = .v6 ip → out = call.packet.set 7 (UInt8.ofNat (call.ttl.toNat - 1))
        ∧ (HeaderValid out ↔ out = call.packet) := by
  obtain ⟨hrules, rfl⟩ := SmfEngine.processPacket_inv hout
  have hlimit : 1 < call.ttl := (checkForwardingRules_iff.mp hrules).2.1
  have hlong : 8 < call.packet.length := by
    have hcomplete := hvalid.complete
    have hcontained := hvalid.contained
    omega
  have hoffset : ttlOffset call.dstAddr < call.packet.length := by
    cases call.dstAddr with
    | v4 ip => exact hlong
    | v6 ip => exact Nat.lt_of_succ_lt hlong
  rw [decrementTtl_eq hoffset]
  refine ⟨ipv4HeaderLen_set ?_ _ _, fun ip hdst => ?_, fun ip hdst => ?_⟩
  · cases call.dstAddr with
    | v4 ip => exact Nat.succ_pos 7
    | v6 ip => exact Nat.succ_pos 6
  · have hread : readTtl call.dstAddr call.packet = call.ttl := by
      rw [hdst, readTtl, List.getD_eq_getElem?_getD]
      show call.packet[8]?.getD 0 = call.ttl
      rw [httl, Option.getD_some]
    have hset := decrementTtl_eq hoffset call.ttl
    constructor
    · rw [← hset, ← hread]
      exact afterHops_decrementTtl hoffset (hread ▸ hlimit)
    · have hlarge : 1 < call.ttl.toNat := UInt8.lt_iff_toNat_lt.mp hlimit
      have hsmall := call.ttl.toNat_lt
      rw [hdst]
      refine ipv4HeaderSum_set hvalid httl ?_
      rw [UInt8.toNat_ofNat']
      omega
  · rw [hdst]
    exact ⟨rfl, headerValid_set_fragment_iff hvalid _⟩

/-- A packet without content, to 239.0.0.1, with a correct checksum. -/
def sampleValidCall : PacketCall := { SmfEngine.sampleCall with
  packet := [0x45, 0, 0, 20, 0, 0, 0, 0, 64, 17, 0x81, 0xd6, 10, 0, 0, 2, 239, 0, 0, 1] }

/-- What an engine sends for it. -/
def sampleForwarded : Bytes :=
  [0x45, 0, 0, 20, 0, 0, 0, 0, 63, 17, 0x81, 0xd6, 10, 0, 0, 2, 239, 0, 0, 1]

theorem sampleValidCall_valid : HeaderValid sampleValidCall.packet :=
  ⟨by decide, by decide, by decide⟩

theorem sampleForwarded_headerSum :
    ipv4HeaderLen sampleForwarded = ipv4HeaderLen sampleValidCall.packet
      ∧ AfterHops sampleValidCall.dstAddr sampleValidCall.packet 1 sampleForwarded
      ∧ ipv4HeaderSum sampleForwarded = 0xFEFF := by
  have hout : ((SmfEngine.new {} []).processPacket sampleValidCall).1
      = .ok (some sampleForwarded) := rfl
  obtain ⟨hlen, hv4, -⟩ := processPacket_headerSum sampleValidCall_valid rfl hout
  exact ⟨hlen, hv4 _ rfl⟩

/-- The checksum was right, and is not any more. -/
theorem sampleForwarded_not_valid :
    HeaderValid sampleValidCall.packet
      ∧ readTtl sampleValidCall.dstAddr sampleValidCall.packet = sampleValidCall.ttl
      ∧ ((SmfEngine.new {} []).processPacket sampleValidCall).1 = .ok (some sampleForwarded)
      ∧ ¬ HeaderValid sampleForwarded :=
  ⟨sampleValidCall_valid, rfl, rfl, fun h => absurd h.checksum (by decide)⟩

end DhcpRelay.Smf
