import DhcpRelay.Smf.Engine

/-!
# DhcpRelay.Smf.HopLimit

**A packet on its way through several engines.** Each engine is handed what the one before
it made of the packet, and the hop limit that it reads there. Whatever the engines are, all
they do to a packet is count its hop limit down by one (`AfterHops`), and they do not count
it down to zero; so the number of engines that forward a packet is bounded by its hop limit.
-/

namespace DhcpRelay.Smf

open DhcpRelay.Library

/-- Where the TTL (IPv4) or the hop limit (IPv6) of a packet to this address stands. -/
def ttlOffset : IpAddr → Nat
  | .v4 _ => 8
  | .v6 _ => 7

/-- The length of the header of a packet to this address, without options. -/
def ipHeaderLen : IpAddr → Nat
  | .v4 _ => 20
  | .v6 _ => 40

/-- The TTL or hop limit of a packet. -/
def readTtl (dst : IpAddr) (packet : Bytes) : UInt8 := packet.getD (ttlOffset dst) 0

/-- An engine on the way of a packet, and how the packet gets there. -/
structure Station where
  engine : SmfEngine
  srcAddr : IpAddr
  ingressIface : String
  prevHop : IpAddr

/-- What the engine makes of the packet, if it forwards it. -/
def Station.relay (dst : IpAddr) (station : Station) (packet : Bytes) : Option Bytes :=
  match (station.engine.processPacket {
      packet := packet
      srcAddr := station.srcAddr
      dstAddr := dst
      ttl := readTtl dst packet
      ingressIface := station.ingressIface
      prevHop := station.prevHop }).1 with
  | .ok (some out) => some out
  | _ => none

/-- What the engines send, one after the other, as far as the packet gets. -/
def outputs (dst : IpAddr) : List Station → Bytes → List Bytes
  | [], _ => []
  | station :: rest, packet =>
    match station.relay dst packet with
    | none => []
    | some out => out :: outputs dst rest out

/-- `out` is `packet` with its hop limit counted down by `k`, but not to zero. -/
structure AfterHops (dst : IpAddr) (packet : Bytes) (k : Nat) (out : Bytes) : Prop where
  length : out.length = packet.length
  frame : ∀ i, i ≠ ttlOffset dst → out[i]? = packet[i]?
  ttl : (readTtl dst out).toNat + k = (readTtl dst packet).toNat
  alive : readTtl dst out ≠ 0

namespace AfterHops

variable {dst : IpAddr} {packet mid out : Bytes} {k k' : Nat}

/-- Hops add up. -/
theorem trans (h : AfterHops dst packet k mid) (h' : AfterHops dst mid k' out) :
    AfterHops dst packet (k' + k) out where
  length := h'.length.trans h.length
  frame := fun i hi => (h'.frame i hi).trans (h.frame i hi)
  ttl := by
    have hmid := h.ttl
    have hout := h'.ttl
    omega
  alive := h'.alive

/-- There are fewer hops than the hop limit says. -/
theorem lt_ttl (h : AfterHops dst packet k out) : k < (readTtl dst packet).toNat := by
  have hpos : 0 < (readTtl dst out).toNat := by
    apply Nat.pos_of_ne_zero
    intro hzero
    exact h.alive (UInt8.toNat_inj.mp hzero)
  have hcount := h.ttl
  omega

end AfterHops

variable {dst : IpAddr} {packet out : Bytes} {station : Station} {stations : List Station}

theorem ttlOffset_lt (dst : IpAddr) : ttlOffset dst < ipHeaderLen dst := by
  cases dst with
  | v4 ip => show 8 < 20; decide
  | v6 ip => show 7 < 40; decide

/-- The decrement is a write to the place of the hop limit. -/
theorem decrementTtl_eq (h : ttlOffset dst < packet.length) (ttl : UInt8) :
    decrementTtl packet dst ttl = packet.set (ttlOffset dst) (UInt8.ofNat (ttl.toNat - 1)) := by
  cases dst with
  | v4 ip => exact if_pos h
  | v6 ip => exact if_pos h

/-- Decrementing a hop limit above one is a hop. -/
theorem afterHops_decrementTtl (h : ttlOffset dst < packet.length)
    (hlimit : 1 < readTtl dst packet) :
    AfterHops dst packet 1 (decrementTtl packet dst (readTtl dst packet)) := by
  have hlarge : 1 < (readTtl dst packet).toNat := UInt8.lt_iff_toNat_lt.mp hlimit
  have hsmall := (readTtl dst packet).toNat_lt
  have hbyte : (UInt8.ofNat ((readTtl dst packet).toNat - 1)).toNat
      = (readTtl dst packet).toNat - 1 := by
    rw [UInt8.toNat_ofNat']
    omega
  have hread : readTtl dst (packet.set (ttlOffset dst)
      (UInt8.ofNat ((readTtl dst packet).toNat - 1)))
      = UInt8.ofNat ((readTtl dst packet).toNat - 1) := by
    simp [readTtl, h]
  rw [decrementTtl_eq h]
  refine ⟨List.length_set, fun i hi => List.getElem?_set_ne hi.symm, ?_, ?_⟩
  · rw [hread, hbyte]
    omega
  · intro hzero
    have hnat := congrArg UInt8.toNat hzero
    rw [hread, hbyte, UInt8.toNat_zero] at hnat
    omega

/-- **One engine**: a packet that is forwarded has gone one hop. -/
theorem Station.relay_afterHops (h : ttlOffset dst < packet.length)
    (hout : station.relay dst packet = some out) : AfterHops dst packet 1 out := by
  let call : PacketCall := {
    packet := packet
    srcAddr := station.srcAddr
    dstAddr := dst
    ttl := readTtl dst packet
    ingressIface := station.ingressIface
    prevHop := station.prevHop }
  have hsent : (station.engine.processPacket call).1 = .ok (some out) := by
    unfold Station.relay at hout
    split at hout
    · next hresult =>
        obtain rfl := Option.some.inj hout
        exact hresult
    · simp at hout
  obtain ⟨hrules, rfl⟩ := SmfEngine.processPacket_inv hsent
  have hlimit : 1 < readTtl dst packet := (checkForwardingRules_iff.mp hrules).2.1
  exact afterHops_decrementTtl h hlimit

/-- **The whole way**: the packet that the `k`-th engine sends has gone `k` hops. -/
theorem outputs_afterHops (h : ttlOffset dst < packet.length) {k : Nat}
    (hout : (outputs dst stations packet)[k]? = some out) :
    AfterHops dst packet (k + 1) out := by
  induction stations generalizing packet k with
  | nil => simp [outputs] at hout
  | cons station rest ih =>
      rw [outputs] at hout
      cases hrelay : station.relay dst packet with
      | none => simp [hrelay] at hout
      | some first =>
          have hfirst : AfterHops dst packet 1 first := station.relay_afterHops h hrelay
          simp only [hrelay] at hout
          cases k with
          | zero =>
              obtain rfl : first = out := Option.some.inj hout
              exact hfirst
          | succ k =>
              have hlong : ttlOffset dst < first.length := by rwa [hfirst.length]
              exact hfirst.trans (ih hlong hout)

/-- No more engines forward a packet than its hop limit allows. -/
theorem length_outputs_le (h : ttlOffset dst < packet.length) :
    (outputs dst stations packet).length ≤ (readTtl dst packet).toNat - 1 := by
  cases hn : (outputs dst stations packet).length with
  | zero => exact Nat.zero_le _
  | succ n =>
      have hlast : n < (outputs dst stations packet).length := by omega
      have hgone := (outputs_afterHops h (List.getElem?_eq_getElem hlast)).lt_ttl
      omega

/-- **The hop limit over a path**: at most one engine less than it says forwards the packet,
and the `k`-th of them sends it unchanged but for a hop limit that is lower by `k`, and not
zero. -/
theorem hopLimit_path (h : ipHeaderLen dst ≤ packet.length) (stations : List Station) :
    (outputs dst stations packet).length ≤ (readTtl dst packet).toNat - 1
      ∧ ∀ k out, (outputs dst stations packet)[k]? = some out →
          out.length = packet.length ∧ (∀ i, i ≠ ttlOffset dst → out[i]? = packet[i]?)
          ∧ (readTtl dst out).toNat = (readTtl dst packet).toNat - (k + 1)
          ∧ readTtl dst out ≠ 0 := by
  have hoffset : ttlOffset dst < packet.length := Nat.lt_of_lt_of_le (ttlOffset_lt dst) h
  refine ⟨length_outputs_le hoffset, fun k out hout => ?_⟩
  have hgone := outputs_afterHops hoffset hout
  have hcount := hgone.ttl
  exact ⟨hgone.length, hgone.frame, by omega, hgone.alive⟩

/-- A packet of the sample call, with a hop limit of three. -/
def sampleShortLived : Bytes := SmfEngine.sampleCall.packet.set 8 3

/-- An engine that floods. -/
def sampleStation : Station where
  engine := .new {} []
  srcAddr := SmfEngine.sampleCall.srcAddr
  ingressIface := "eth0"
  prevHop := SmfEngine.sampleCall.prevHop

theorem sampleShortLived_path :
    (outputs SmfEngine.sampleCall.dstAddr [sampleStation, sampleStation, sampleStation]
        sampleShortLived).length ≤ 2
      ∧ ∀ k out, (outputs SmfEngine.sampleCall.dstAddr
          [sampleStation, sampleStation, sampleStation] sampleShortLived)[k]? = some out →
        out.length = 21 ∧ (∀ i, i ≠ 8 → out[i]? = sampleShortLived[i]?)
          ∧ (readTtl SmfEngine.sampleCall.dstAddr out).toNat = 3 - (k + 1)
          ∧ readTtl SmfEngine.sampleCall.dstAddr out ≠ 0 :=
  hopLimit_path (by decide) [sampleStation, sampleStation, sampleStation]

end DhcpRelay.Smf
