import DhcpRelay.Smf.Forwarding

/-!
# DhcpRelay.Smf.Scope

**The forwarding rules by the multicast scope of the destination.** The second byte of an IPv6
multicast address is made up of flags and a scope. The rules confine the group addresses
ff02::/16 to the link, that is scope 2 with all flags clear; every other combination is
forwarded.
-/

namespace DhcpRelay.Smf

open DhcpRelay.Library

/-- The scope of an IPv6 multicast address: the low half of its second byte. -/
def multicastScope (ip : Ipv6Addr) : UInt8 := ip.octets.get 1 &&& 0x0F

/-- The flags of an IPv6 multicast address: the high half of its second byte. -/
def multicastFlags (ip : Ipv6Addr) : UInt8 := ip.octets.get 1 >>> 4

/-- A multicast address. -/
def Multicast : IpAddr → Prop
  | .v4 ip => 224 ≤ ip.a ∧ ip.a ≤ 239
  | .v6 ip => ip.octets.get 0 = 0xff

/-- The groups the rules take for link-local, among the multicast addresses: 224.0.0.0/24, and
scope 2 with all flags clear. -/
def LinkLocalGroup : IpAddr → Prop
  | .v4 ip => ip.a = 224 ∧ ip.b = 0 ∧ ip.c = 0
  | .v6 ip => multicastFlags ip = 0 ∧ multicastScope ip = 2

theorem isMulticast_iff (addr : IpAddr) : isMulticast addr = true ↔ Multicast addr := by
  cases addr with
  | v4 ip => simp [isMulticast, Ipv4Addr.isMulticast, Multicast]
  | v6 ip => exact beq_iff_eq

/-- Both halves of a byte. -/
theorem eq_two_iff (b : UInt8) : b = 2 ↔ b >>> 4 = 0 ∧ b &&& 0x0F = 2 :=
  forall_byte (P := fun b => b = 2 ↔ b >>> 4 = 0 ∧ b &&& 0x0F = 2) (by decide +kernel) b

/-- A sixteen-bit group is its two bytes. -/
theorem be16_eq_iff (hi lo : UInt8) : be16 hi lo = 0xff02 ↔ hi = 0xff ∧ lo = 2 := by
  have hhi := hi.toNat_lt
  have hlo := lo.toNat_lt
  rw [be16, ← UInt8.toNat_inj, ← UInt8.toNat_inj]
  have hff : (0xff : UInt8).toNat = 255 := rfl
  have htwo : (2 : UInt8).toNat = 2 := rfl
  omega

theorem isLinkLocalMulticast_iff {addr : IpAddr} (h : Multicast addr) :
    isLinkLocalMulticast addr = true ↔ LinkLocalGroup addr := by
  cases addr with
  | v4 ip => simp [isLinkLocalMulticast, LinkLocalGroup, and_assoc]
  | v6 ip =>
      have hfirst : ip.octets.get 0 = 0xff := h
      have hgroup : isLinkLocalMulticast (.v6 ip) = true
          ↔ be16 (ip.octets.get 0) (ip.octets.get 1) = 0xff02 := beq_iff_eq
      rw [hgroup, be16_eq_iff, and_iff_right hfirst, eq_two_iff, LinkLocalGroup, multicastFlags,
        multicastScope]

/-- **The rules by scope**: a packet passes exactly if its destination is multicast and none
of the link-local groups, it has two hops left, and it is not one of this host's own. -/
theorem checkForwardingRules_scope_iff (srcAddr dstAddr : IpAddr) (ttl : UInt8)
    (localAddrs : List IpAddr) :
    checkForwardingRules srcAddr dstAddr ttl localAddrs = true
      ↔ Multicast dstAddr ∧ 2 ≤ ttl ∧ srcAddr ∉ localAddrs ∧ ¬ LinkLocalGroup dstAddr := by
  have httl : 1 < ttl ↔ 2 ≤ ttl := by
    rw [UInt8.lt_iff_toNat_lt, UInt8.le_iff_toNat_le]
    exact Iff.rfl
  rw [checkForwardingRules_iff, isMulticast_iff, httl]
  constructor
  · intro h
    obtain ⟨hmulticast, hhops, hlocal, hsrc⟩ := h
    refine ⟨hmulticast, hhops, hsrc, fun hgroup => ?_⟩
    simp [(isLinkLocalMulticast_iff hmulticast).mpr hgroup] at hlocal
  · intro h
    obtain ⟨hmulticast, hhops, hsrc, hgroup⟩ := h
    refine ⟨hmulticast, hhops, ?_, hsrc⟩
    exact Bool.eq_false_of_not_eq_true fun hlocal =>
      hgroup ((isLinkLocalMulticast_iff hmulticast).mp hlocal)

/-- The groups that stay on one link by their scope, whatever the flags are: 224.0.0.0/24, and
the scopes up to 2. -/
def ConfinedToLink : IpAddr → Prop
  | .v4 ip => ip.a = 224 ∧ ip.b = 0 ∧ ip.c = 0
  | .v6 ip => multicastScope ip ≤ 2

/-- A group of the link with a flag set. -/
def sampleTransientGroup : Ipv6Addr := .ofSegments [0xff12, 0, 0, 0, 0, 0, 0, 1]

/-- A group of the interface. -/
def sampleInterfaceGroup : Ipv6Addr := .ofSegments [0xff01, 0, 0, 0, 0, 0, 0, 1]

/-- A host that sends to them. -/
def sampleSource : IpAddr := .v6 (.ofSegments [0x2001, 0xdb8, 0, 0, 0, 0, 0, 2])

/-- The rules keep neither of the two on the link. -/
theorem sampleGroups_forwarded :
    ConfinedToLink (.v6 sampleTransientGroup) ∧ ConfinedToLink (.v6 sampleInterfaceGroup)
      ∧ checkForwardingRules sampleSource (.v6 sampleTransientGroup) 64 [] = true
      ∧ checkForwardingRules sampleSource (.v6 sampleInterfaceGroup) 64 [] = true := by
  refine ⟨?_, ?_, by decide +kernel, by decide +kernel⟩
  · show multicastScope sampleTransientGroup ≤ 2
    decide +kernel
  · show multicastScope sampleInterfaceGroup ≤ 2
    decide +kernel

end DhcpRelay.Smf
