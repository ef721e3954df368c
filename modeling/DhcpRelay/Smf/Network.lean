import DhcpRelay.Library.Cascade
import DhcpRelay.Smf.HopLimit

/-!
# DhcpRelay.Smf.Network

**Engines that hear one another.** What an engine forwards, the hosts around it hear, and
their engines are handed it in turn, one copy for each of them. Copies are delivered in any
order, and any of them may be lost. The engines may have any selectors and be in any state;
who hears whom is a parameter.

No engine remembers what it has forwarded, so it is the hop limit alone that ends a flood.
A network is a cascade in which a copy weighs as much as a tree of the depth of its hop
limit has leaves, and what is delivered can be told from the ways through the network.
-/

namespace DhcpRelay.Smf

open DhcpRelay.Library

/-- The way of a packet into a host. -/
structure Arrival (ν : Type) where
  node : ν
  ingressIface : String
  prevHop : IpAddr

/-- Hosts, with their own addresses, and who hears what one of them sends on, of what came
to it in this way. -/
structure Network (ν : Type) where
  localAddrs : ν → List IpAddr
  hears : Arrival ν → List (Arrival ν)
  degree : Nat
  length_hears_le : ∀ via, (hears via).length ≤ degree

/-- A packet on its way into a host. -/
structure Copy (ν : Type) where
  via : Arrival ν
  srcAddr : IpAddr
  dstAddr : IpAddr
  packet : Bytes

/-- The engines of the hosts. -/
structure Network.Engines {ν : Type} (net : Network ν) where
  engine : ν → SmfEngine
  localAddrs_eq : ∀ node, (engine node).localAddrs = net.localAddrs node

variable {ν : Type}

namespace Copy

/-- The call of the host's engine: the hop limit is read off the packet. -/
def call (copy : Copy ν) : PacketCall where
  packet := copy.packet
  srcAddr := copy.srcAddr
  dstAddr := copy.dstAddr
  ttl := readTtl copy.dstAddr copy.packet
  ingressIface := copy.via.ingressIface
  prevHop := copy.via.prevHop

/-- The hop limit of the packet. -/
def ttl (copy : Copy ν) : Nat := (readTtl copy.dstAddr copy.packet).toNat

/-- The packet with its hop limit counted down by `k`. -/
def aged (copy : Copy ν) (k : Nat) : Bytes :=
  copy.packet.set (ttlOffset copy.dstAddr) (UInt8.ofNat (copy.ttl - k))

/-- The copy that comes to another host of what this one has sent on. -/
def toward (copy : Copy ν) (via : Arrival ν) : Copy ν :=
  { copy with via := via, packet := copy.aged 1 }

end Copy

/-- A selector that wants whatever it is asked about, as `ClassicFlooding` does. -/
def RelaySetSelector.Floods (selector : RelaySetSelector) : Prop :=
  ∀ state ingressIface prevHop srcAddr dstGroup,
    (selector.respond state ingressIface prevHop srcAddr dstGroup).1 = true

theorem ClassicFlooding_floods : ClassicFlooding.Floods := fun _ _ _ _ _ => rfl

/-- Whatever it hears, it goes on to flood. -/
theorem RelaySetSelector.Floods.hear {selector : RelaySetSelector} (h : selector.Floods)
    (localAddrs : List IpAddr) (op : EngineOp) :
    (SmfEngine.hear localAddrs selector op).Floods := by
  cases op with
  | evict now => exact h
  | process call =>
      rw [SmfEngine.hear]
      split
      · exact h
      · exact h

namespace Network

/-- What comes of a copy where its host forwards what the rules allow. -/
def flood (net : Network ν) (copy : Copy ν) : List (Copy ν) :=
  if copy.call.passesRules (net.localAddrs copy.via.node) then
    (net.hears copy.via).map copy.toward
  else []

/-- What comes of a copy that a host gets. -/
def sent (net : Network ν) (engines : net.Engines) (copy : Copy ν) : List (Copy ν) :=
  match ((engines.engine copy.via.node).processPacket copy.call).1 with
  | .ok (some out) =>
    (net.hears copy.via).map fun via => { copy with via := via, packet := out }
  | _ => []

variable {net : Network ν} {engines : net.Engines} {copy copy' origin : Copy ν} {k : Nat}

/-! ### The hop limit of a copy -/

/-- A packet too short for a hop limit has none left. -/
theorem ttlOffset_lt_of_ttl_pos (h : 0 < copy.ttl) :
    ttlOffset copy.dstAddr < copy.packet.length := by
  by_contra hshort
  have hnone : copy.packet[ttlOffset copy.dstAddr]? = none :=
    List.getElem?_eq_none (Nat.le_of_not_lt hshort)
  simp [Copy.ttl, readTtl, List.getD, hnone] at h

theorem ttl_lt (copy : Copy ν) : copy.ttl < 256 := (readTtl copy.dstAddr copy.packet).toNat_lt

/-- What the engine sends on is the packet a hop later. -/
theorem decrementTtl_eq_aged (copy : Copy ν) :
    decrementTtl copy.packet copy.dstAddr (readTtl copy.dstAddr copy.packet) = copy.aged 1 := by
  by_cases h : ttlOffset copy.dstAddr < copy.packet.length
  · exact decrementTtl_eq h _
  · rw [Copy.aged, List.set_eq_of_length_le (Nat.le_of_not_lt h)]
    cases hdst : copy.dstAddr with
    | v4 ip => rw [hdst] at h; exact if_neg h
    | v6 ip => rw [hdst] at h; exact if_neg h

theorem readTtl_aged (copy : Copy ν) (k : Nat) :
    (readTtl copy.dstAddr (copy.aged k)).toNat = copy.ttl - k := by
  have hsmall := ttl_lt copy
  by_cases h : ttlOffset copy.dstAddr < copy.packet.length
  · have hread : readTtl copy.dstAddr (copy.aged k) = UInt8.ofNat (copy.ttl - k) := by
      simp [readTtl, Copy.aged, h]
    rw [hread, UInt8.toNat_ofNat']
    omega
  · have hzero : copy.ttl = 0 :=
      Nat.eq_zero_of_not_pos fun hpos => h (ttlOffset_lt_of_ttl_pos hpos)
    rw [Copy.aged, List.set_eq_of_length_le (Nat.le_of_not_lt h)]
    show copy.ttl = _
    omega

theorem aged_zero (copy : Copy ν) : copy.aged 0 = copy.packet := by
  by_cases h : ttlOffset copy.dstAddr < copy.packet.length
  · have hread : UInt8.ofNat (copy.ttl - 0) = copy.packet[ttlOffset copy.dstAddr] := by
      simp [Copy.ttl, readTtl, h]
    rw [Copy.aged, hread, List.set_getElem_self]
  · exact List.set_eq_of_length_le (Nat.le_of_not_lt h)

/-! ### One delivery -/

/-- **One host**: it floods the copy, unless its selector says otherwise. -/
theorem sent_eq (net : Network ν) (engines : net.Engines) (copy : Copy ν) :
    net.sent engines copy
      = if (copy.call.ask (engines.engine copy.via.node).relaySelector).1
        then net.flood copy else [] := by
  have haddrs := engines.localAddrs_eq copy.via.node
  cases hrules : copy.call.passesRules (net.localAddrs copy.via.node) with
  | false =>
      rw [sent, SmfEngine.processPacket_of_rules (haddrs ▸ hrules), flood, hrules]
      simp
  | true =>
      rw [sent, SmfEngine.processPacket_of_selector (haddrs ▸ hrules), flood, hrules]
      cases (copy.call.ask (engines.engine copy.via.node).relaySelector).1 with
      | false => rfl
      | true =>
          show (net.hears copy.via).map (fun via => { copy with
            via := via
            packet := decrementTtl copy.packet copy.dstAddr (readTtl copy.dstAddr copy.packet) })
            = (net.hears copy.via).map copy.toward
          rw [decrementTtl_eq_aged]
          rfl

/-- What a host sends in return to a copy: copies a hop older, and only while there are hops
left. -/
theorem mem_flood_iff :
    copy' ∈ net.flood copy ↔
      isMulticast copy.dstAddr = true ∧ isLinkLocalMulticast copy.dstAddr = false
        ∧ copy.srcAddr ∉ net.localAddrs copy.via.node ∧ 1 < copy.ttl
        ∧ ∃ via ∈ net.hears copy.via, copy' = copy.toward via := by
  have hlimit : 1 < copy.call.ttl ↔ 1 < copy.ttl := UInt8.lt_iff_toNat_lt
  rw [flood, List.mem_ite_nil_right, List.mem_map, PacketCall.passesRules,
    checkForwardingRules_iff, hlimit]
  constructor
  · rintro ⟨⟨hmulticast, httl, hlocal, hsrc⟩, via, hvia, rfl⟩
    exact ⟨hmulticast, hlocal, hsrc, httl, via, hvia, rfl⟩
  · rintro ⟨hmulticast, hlocal, hsrc, httl, via, hvia, rfl⟩
    exact ⟨⟨hmulticast, httl, hlocal, hsrc⟩, via, hvia, rfl⟩

/-- The engines after a host got a copy. -/
def Engines.next [DecidableEq ν] (engines : net.Engines) (copy : Copy ν) : net.Engines where
  engine := Function.update engines.engine copy.via.node
    ((engines.engine copy.via.node).processPacket copy.call).2
  localAddrs_eq := by
    intro node
    by_cases h : node = copy.via.node
    · rw [h, Function.update_self]
      exact ((engines.engine copy.via.node).step_eq (.process copy.call)).1.trans
        (engines.localAddrs_eq copy.via.node)
    · rw [Function.update_of_ne h]
      exact engines.localAddrs_eq node

/-- All the copies that come of one weigh less than it does. -/
theorem sum_flood_lt (net : Network ν) (copy : Copy ν) :
    ((net.flood copy).map fun copy => (net.degree + 1) ^ copy.ttl).sum
      < (net.degree + 1) ^ copy.ttl := by
  have hpos : 0 < (net.degree + 1) ^ copy.ttl := Nat.pow_pos (Nat.succ_pos _)
  by_cases hrules : copy.call.passesRules (net.localAddrs copy.via.node) = true
  · have httl : 1 < copy.ttl :=
      UInt8.lt_iff_toNat_lt.mp (checkForwardingRules_iff.mp hrules).2.1
    have hchild : ∀ via, (copy.toward via).ttl = copy.ttl - 1 := fun _ => readTtl_aged copy 1
    have hpred : (net.degree + 1) ^ copy.ttl
        = (net.degree + 1) ^ (copy.ttl - 1) * (net.degree + 1) := by
      rw [← Nat.pow_succ]
      congr 1
      omega
    rw [flood, if_pos hrules, List.map_map]
    simp only [Function.comp_def, hchild, List.map_const', List.sum_replicate_nat]
    calc (net.hears copy.via).length * (net.degree + 1) ^ (copy.ttl - 1)
        ≤ net.degree * (net.degree + 1) ^ (copy.ttl - 1) :=
          Nat.mul_le_mul_right _ (net.length_hears_le copy.via)
      _ < (net.degree + 1) * (net.degree + 1) ^ (copy.ttl - 1) :=
          Nat.mul_lt_mul_of_pos_right (Nat.lt_succ_self _) (Nat.pow_pos (Nat.succ_pos _))
      _ = (net.degree + 1) ^ copy.ttl := by rw [hpred, Nat.mul_comm]
  · rw [flood, if_neg hrules]
    exact hpos

/-- **The network as a cascade** of copies. -/
def cascade [DecidableEq ν] (net : Network ν) : Cascade net.Engines (Copy ν) where
  next := Engines.next
  sent := net.sent
  answer := net.flood
  sent_le := by
    intro engines copy
    rw [sent_eq]
    split
    · exact le_rfl
    · exact Multiset.zero_le _
  weight := fun copy => (net.degree + 1) ^ copy.ttl
  weight_answer := net.sum_flood_lt

/-! ### Ways through the network -/

/-- `k` hops lead from one arrival to another, over hosts that forward for `srcAddr`: those
whose address it is not. -/
inductive Way (net : Network ν) (srcAddr : IpAddr) : Nat → Arrival ν → Arrival ν → Prop
  | here {via : Arrival ν} : Way net srcAddr 0 via via
  | hop {k : Nat} {start mid via : Arrival ν} :
      Way net srcAddr k start mid → srcAddr ∉ net.localAddrs mid.node → via ∈ net.hears mid →
        Way net srcAddr (k + 1) start via

/-- No hops lead nowhere else. -/
theorem Way.via_eq {srcAddr : IpAddr} {start via : Arrival ν} (h : net.Way srcAddr 0 start via) :
    via = start := by
  cases h
  rfl

/-- The copy is what arrives of `origin` by a way of `k` hops. -/
structure ComesOf (net : Network ν) (origin : Copy ν) (k : Nat) (copy : Copy ν) : Prop where
  srcAddr : copy.srcAddr = origin.srcAddr
  dstAddr : copy.dstAddr = origin.dstAddr
  packet : copy.packet = origin.aged k
  way : net.Way origin.srcAddr k origin.via copy.via
  /-- Only packets to a multicast group beyond the link go any hop at all, and no more of them
  than their hop limit allows. -/
  routed : 0 < k → isMulticast origin.dstAddr = true
    ∧ isLinkLocalMulticast origin.dstAddr = false ∧ k < origin.ttl

namespace ComesOf

theorem here (net : Network ν) (origin : Copy ν) : net.ComesOf origin 0 origin where
  srcAddr := rfl
  dstAddr := rfl
  packet := (aged_zero origin).symm
  way := .here
  routed := fun h => absurd h (Nat.lt_irrefl 0)

theorem ttl_eq (h : net.ComesOf origin k copy) : copy.ttl = origin.ttl - k := by
  rw [Copy.ttl, h.dstAddr, h.packet]
  exact readTtl_aged origin k

/-- What its host sends in return has come a hop further. -/
theorem flood (h : net.ComesOf origin k copy) (hsent : copy' ∈ net.flood copy) :
    net.ComesOf origin (k + 1) copy' := by
  obtain ⟨hmulticast, hlocal, hsrc, httl, via, hvia, rfl⟩ := mem_flood_iff.mp hsent
  rw [h.ttl_eq] at httl
  rw [h.dstAddr] at hmulticast hlocal
  rw [h.srcAddr] at hsrc
  refine ⟨h.srcAddr, h.dstAddr, ?_, .hop h.way hsrc hvia,
    fun _ => ⟨hmulticast, hlocal, by omega⟩⟩
  show copy.packet.set (ttlOffset copy.dstAddr) (UInt8.ofNat (copy.ttl - 1)) = _
  rw [h.packet, h.dstAddr, h.ttl_eq, Copy.aged, List.set_set, Nat.sub_sub]
  rfl

/-- The way there is all that tells two copies of one age apart. -/
theorem eq_of_via (h : net.ComesOf origin k copy) (h' : net.ComesOf origin k copy')
    (hvia : copy.via = copy'.via) : copy = copy' := by
  obtain ⟨via, srcAddr, dstAddr, packet⟩ := copy
  obtain ⟨via', srcAddr', dstAddr', packet'⟩ := copy'
  obtain rfl : via = via' := hvia
  obtain rfl : srcAddr = srcAddr' := h.srcAddr.trans h'.srcAddr.symm
  obtain rfl : dstAddr = dstAddr' := h.dstAddr.trans h'.dstAddr.symm
  obtain rfl : packet = packet' := h.packet.trans h'.packet.symm
  rfl

/-- A way of one hop more has a copy on it that is sent on. -/
theorem exists_flood (h : net.ComesOf origin (k + 1) copy') :
    ∃ copy, net.ComesOf origin k copy ∧ copy' ∈ net.flood copy := by
  obtain ⟨hmulticast, hlocal, hlimit⟩ := h.routed (Nat.succ_pos k)
  have hway := h.way
  cases hway with
  | @hop _ _ mid _ hmid hsrc hvia =>
      let copy : Copy ν := { origin with via := mid, packet := origin.aged k }
      have hcopy : net.ComesOf origin k copy :=
        ⟨rfl, rfl, rfl, hmid, fun _ => ⟨hmulticast, hlocal, by omega⟩⟩
      have httl : 1 < copy.ttl := by
        rw [hcopy.ttl_eq]
        omega
      have hsent : copy.toward copy'.via ∈ net.flood copy :=
        mem_flood_iff.mpr ⟨hmulticast, hlocal, hsrc, httl, copy'.via, hvia, rfl⟩
      have heq : copy' = copy.toward copy'.via := h.eq_of_via (hcopy.flood hsent) rfl
      exact ⟨copy, hcopy, heq ▸ hsent⟩

end ComesOf

variable [DecidableEq ν] {copies : Multiset (Copy ν)} {events : List (Cascade.Event (Copy ν))}
  {st' : Cascade.State net.Engines (Copy ν)}

/-- What floods come to is what there are ways to. -/
theorem mem_offspring_iff :
    copy ∈ net.cascade.offspring origin ↔ ∃ k, net.ComesOf origin k copy := by
  rw [Cascade.mem_offspring_iff]
  constructor
  · intro h
    induction h with
    | refl => exact ⟨0, .here net origin⟩
    | tail _ hsent ih =>
        obtain ⟨k, hk⟩ := ih
        exact ⟨k + 1, hk.flood hsent⟩
  · rintro ⟨k, h⟩
    induction k generalizing copy with
    | zero =>
        obtain rfl : copy = origin := h.eq_of_via (.here net origin) h.way.via_eq
        exact .refl
    | succ k ih =>
        obtain ⟨mid, hmid, hsent⟩ := h.exists_flood
        exact (ih hmid).tail hsent

/-! ### Two hosts that flood -/

/-- Two hosts in reach of each other. -/
def samplePair : Network Bool where
  localAddrs := fun _ => []
  hears := fun via => [⟨!via.node, "wlan0", .v4 ⟨10, 0, 0, 1⟩⟩]
  degree := 1
  length_hears_le := fun _ => Nat.le_refl 1

/-- Engines as `new` makes them. -/
def sampleEngines : samplePair.Engines where
  engine := fun _ => .new {} []
  localAddrs_eq := fun _ => rfl

/-- A packet with a hop limit of three on its way into the first host. -/
def sampleCopy : Copy Bool where
  via := ⟨false, "eth0", SmfEngine.sampleCall.prevHop⟩
  srcAddr := SmfEngine.sampleCall.srcAddr
  dstAddr := SmfEngine.sampleCall.dstAddr
  packet := sampleShortLived

theorem sampleEngines_floods (node : Bool) :
    (sampleEngines.engine node).relaySelector.Floods := ClassicFlooding_floods

/-- What comes of it when it has been to the other host and back. -/
def sampleReturn : Copy Bool :=
  (sampleCopy.toward ⟨true, "wlan0", .v4 ⟨10, 0, 0, 1⟩⟩).toward
    ⟨false, "wlan0", .v4 ⟨10, 0, 0, 1⟩⟩

theorem sampleReturn_comesOf : samplePair.ComesOf sampleCopy 2 sampleReturn := by
  have hthere : samplePair.ComesOf sampleCopy 1
      (sampleCopy.toward ⟨true, "wlan0", .v4 ⟨10, 0, 0, 1⟩⟩) :=
    (ComesOf.here samplePair sampleCopy).flood (mem_flood_iff.mpr
      ⟨by decide, by decide, by decide, by decide, _, List.mem_singleton_self _, rfl⟩)
  exact hthere.flood (mem_flood_iff.mpr
    ⟨by decide, by decide, by decide, by decide, _, List.mem_singleton_self _, rfl⟩)

/-- The packet comes to the first host, and no further as yet. -/
theorem sampleEngines_run :
    samplePair.cascade.Run ⟨sampleEngines, {sampleCopy}⟩ [.deliver sampleCopy]
      ⟨sampleEngines.next sampleCopy, samplePair.sent sampleEngines sampleCopy + 0⟩ :=
  .cons .deliver .nil

/-! ### Whole floods -/

/-- **Every flood ends**, whatever the engines' selectors, the order of delivery and the
losses: no more happens to the copies in flight, and to all that come of them, than a tree as
deep as their hop limits has leaves, and at any time the rest of it can be delivered, with
nothing lost. -/
theorem flood_ends (hrun : net.cascade.Run ⟨engines, copies⟩ events st') :
    events.length ≤ (copies.map fun copy => (net.degree + 1) ^ copy.ttl).sum
      ∧ ∃ events' st'', net.cascade.Run st' events' st'' ∧ st''.inFlight = 0
        ∧ Cascade.lost events' = 0 :=
  ⟨Nat.le_of_add_right_le hrun.length_add_worth_le, Cascade.Run.exists_quiet net.cascade st'⟩

theorem samplePair_ends : ∃ events st',
    samplePair.cascade.Run ⟨sampleEngines, {sampleCopy}⟩ events st' ∧ st'.inFlight = 0
      ∧ Cascade.lost events = 0 ∧ events.length ≤ 8 := by
  obtain ⟨events, st', hrun, hquiet, hlost⟩ := Cascade.Run.exists_quiet samplePair.cascade
    ⟨sampleEngines, {sampleCopy}⟩
  exact ⟨events, st', hrun, hquiet, hlost, (flood_ends hrun).1⟩

/-- **Nothing strays**: whatever the engines' selectors, the order and the losses, each copy
that a host gets is one of those in flight at the start, unchanged but for its hop limit,
which tells how many hops it has come, over no host that the packet is from. -/
theorem delivered_comesOf (hrun : net.cascade.Run ⟨engines, copies⟩ events st')
    (hcopy : copy ∈ Cascade.delivered events) : ∃ origin ∈ copies, ∃ k, net.ComesOf origin k copy := by
  have hall := Multiset.mem_of_le hrun.delivered_le hcopy
  obtain ⟨origin, horigin, hcopy⟩ := Multiset.mem_bind.mp hall
  exact ⟨origin, horigin, mem_offspring_iff.mp hcopy⟩

theorem samplePair_comesOf : ∃ copy, ∃ origin ∈ ({sampleCopy} : Multiset (Copy Bool)),
    ∃ k, samplePair.ComesOf origin k copy :=
  ⟨sampleCopy, delivered_comesOf sampleEngines_run (Multiset.mem_singleton_self _)⟩

/-- Engines that flood answer in full. -/
theorem inFull_of_floods (net : Network ν) :
    net.cascade.InFull fun engines => ∀ node, (engines.engine node).relaySelector.Floods where
  next := by
    intro engines copy h node
    show (Function.update engines.engine copy.via.node _ node).relaySelector.Floods
    by_cases hnode : node = copy.via.node
    · rw [hnode, Function.update_self]
      have hheard := ((engines.engine copy.via.node).step_eq (.process copy.call)).2
      exact hheard ▸ (h copy.via.node).hear _ _
    · rw [Function.update_of_ne hnode]
      exact h node
  sent_eq := by
    intro engines copy h
    show net.sent engines copy = net.flood copy
    rw [sent_eq, if_pos]
    exact h copy.via.node _ _ _ _ _

/-- **Flooding reaches all that can be reached**: where the engines flood, no copy is lost and
none is left in flight, a host gets a copy exactly when there is a way for it. -/
theorem flood_covers (hfloods : ∀ node, (engines.engine node).relaySelector.Floods)
    (hrun : net.cascade.Run ⟨engines, copies⟩ events st')
    (hlost : Cascade.lost events = 0) (hquiet : st'.inFlight = 0) :
    copy ∈ Cascade.delivered events ↔ ∃ origin ∈ copies, ∃ k, net.ComesOf origin k copy := by
  rw [hrun.delivered_eq net.inFull_of_floods hfloods hlost hquiet, Multiset.mem_bind]
  simp only [mem_offspring_iff]

theorem samplePair_covers : ∃ events st',
    samplePair.cascade.Run ⟨sampleEngines, {sampleCopy}⟩ events st'
      ∧ sampleReturn ∈ Cascade.delivered events := by
  obtain ⟨events, st', hrun, hquiet, hlost⟩ := Cascade.Run.exists_quiet samplePair.cascade
    ⟨sampleEngines, {sampleCopy}⟩
  exact ⟨events, st', hrun, (flood_covers sampleEngines_floods hrun hlost hquiet).mpr
    ⟨sampleCopy, Multiset.mem_singleton_self _, 2, sampleReturn_comesOf⟩⟩

/-- **The order does not matter**: what one run, with any selectors and any losses, delivers
is part of what any flood of the same copies comes to. -/
theorem delivered_le_flood {engines' : net.Engines}
    {events' : List (Cascade.Event (Copy ν))} {st'' : Cascade.State net.Engines (Copy ν)}
    (hfloods : ∀ node, (engines'.engine node).relaySelector.Floods)
    (hrun : net.cascade.Run ⟨engines, copies⟩ events st')
    (hrun' : net.cascade.Run ⟨engines', copies⟩ events' st'')
    (hlost : Cascade.lost events' = 0) (hquiet : st''.inFlight = 0) :
    Cascade.delivered events ≤ Cascade.delivered events' := by
  rw [hrun'.delivered_eq net.inFull_of_floods hfloods hlost hquiet]
  exact hrun.delivered_le

theorem samplePair_order : ∃ events st',
    samplePair.cascade.Run ⟨sampleEngines, {sampleCopy}⟩ events st'
      ∧ {sampleCopy} ≤ Cascade.delivered events := by
  obtain ⟨events, st', hrun, hquiet, hlost⟩ := Cascade.Run.exists_quiet samplePair.cascade
    ⟨sampleEngines, {sampleCopy}⟩
  exact ⟨events, st', hrun,
    delivered_le_flood sampleEngines_floods sampleEngines_run hrun hlost hquiet⟩

end Network

end DhcpRelay.Smf
