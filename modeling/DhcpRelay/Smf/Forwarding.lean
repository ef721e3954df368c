import DhcpRelay.Net

/-!
# DhcpRelay.Smf.Forwarding

The forwarding rules of the SMF engine (`smf/forwarding.rs`) and the selector of the
relay set (`traits/mod.rs`, `smf/relay_set.rs`).

A selector is an object behind `&self` that may keep state of its own. It is modelled by
its state and its response, so that asking it yields an answer and the selector as it
is afterwards.
-/

namespace DhcpRelay.Smf

open DhcpRelay.Library

/-- Returns true if the address is an IPv4 or IPv6 multicast address. -/
def isMulticast : IpAddr → Bool
  | .v4 ip => ip.isMulticast
  | .v6 ip => ip.isMulticast

/-- Returns true if the address is in a link-local multicast range.
IPv4: 224.0.0.0/24, IPv6: ff02::/16 -/
def isLinkLocalMulticast : IpAddr → Bool
  | .v4 ip => ip.a == 224 && ip.b == 0 && ip.c == 0
  | .v6 ip => ip.segment 0 == 0xff02

/-- Check the forwarding rules. The rule on the MAC source and the one on duplicates
are left to the caller. -/
def checkForwardingRules (srcAddr dstAddr : IpAddr) (ttl : UInt8) (localAddrs : List IpAddr) :
    Bool :=
  -- Rule 1: destination must be multicast
  if !isMulticast dstAddr then false
  -- Rule 2: TTL > 1
  else if ttl ≤ 1 then false
  -- Rule 3: skip link-local multicast
  else if isLinkLocalMulticast dstAddr then false
  -- Rule 4: source must not match any local interface
  else if localAddrs.contains srcAddr then false
  else true

/-- A packet passes exactly when its destination is multicast beyond the link, it has
hops left, and it is not one of this host's own. -/
theorem checkForwardingRules_iff {srcAddr dstAddr : IpAddr} {ttl : UInt8}
    {localAddrs : List IpAddr} :
    checkForwardingRules srcAddr dstAddr ttl localAddrs = true ↔
      isMulticast dstAddr = true ∧ 1 < ttl ∧ isLinkLocalMulticast dstAddr = false
        ∧ srcAddr ∉ localAddrs := by
  unfold checkForwardingRules
  cases hmulticast : isMulticast dstAddr with
  | false => simp
  | true =>
      cases hlocal : isLinkLocalMulticast dstAddr with
      | true => simp
      | false =>
          by_cases httl : ttl ≤ 1
          · have hnot : ¬ 1 < ttl := not_lt_of_ge httl
            simp [httl, hnot]
          · have hlt : 1 < ttl := lt_of_not_ge httl
            simp [httl, hlt]

/-- Decides whether to forward a multicast packet out a given interface. -/
structure RelaySetSelector where
  {State : Type}
  state : State
  respond : State → String → IpAddr → IpAddr → IpAddr → Bool × State

namespace RelaySetSelector

/-- Return true if the packet should be forwarded, and the selector after the question. -/
def shouldForward (selector : RelaySetSelector) (ingressIface : String)
    (prevHop srcAddr dstGroup : IpAddr) : Bool × RelaySetSelector :=
  let (answer, state) :=
    selector.respond selector.state ingressIface prevHop srcAddr dstGroup
  (answer, { selector with state := state })

end RelaySetSelector

/-- Classic Flooding relay set selector: always forward. -/
def ClassicFlooding : RelaySetSelector where
  state := ()
  respond := fun state _ _ _ _ => (true, state)

end DhcpRelay.Smf
