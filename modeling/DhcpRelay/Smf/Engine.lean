import DhcpRelay.Library.Runs
import DhcpRelay.Smf.Dpd
import DhcpRelay.Smf.Forwarding

/-!
# DhcpRelay.Smf.Engine

The forwarding engine (`smf/engine.rs`) and **what it forwards over whole runs**.

`process_packet` checks the forwarding rules, asks the relay set selector and decrements
the hop count. The engine owns a cache for duplicate packet detection, which the eviction
task empties, but no call looks a packet up in it or records one there. So whether a packet
is forwarded twice is left to the selector: a run of the engine is simulated by a run of
its selector, asked about the packets that pass the rules.
-/

namespace DhcpRelay.Smf

open DhcpRelay.Library

/-- `Duration::from_secs`, in nanoseconds. -/
def fromSecs (secs : Nat) : Nat := secs * 1000000000

/-- SMF multicast forwarding engine. -/
structure SmfEngine where
  dpdCache : DpdCache
  relaySelector : RelaySetSelector
  localAddrs : List IpAddr

/-- The arguments of `process_packet`. -/
structure PacketCall where
  packet : Bytes
  srcAddr : IpAddr
  dstAddr : IpAddr
  ttl : UInt8
  ingressIface : String
  prevHop : IpAddr

/-- Decrement the TTL (IPv4) or Hop Limit (IPv6) field. -/
def decrementTtl (packet : Bytes) (addr : IpAddr) (ttl : UInt8) : Bytes :=
  let offset := match addr with
    | .v4 _ => 8
    | .v6 _ => 7
  -- `saturating_sub(1)`
  if offset < packet.length then packet.set offset (UInt8.ofNat (ttl.toNat - 1)) else packet

/-- What may happen to an engine: a call, or a round of the eviction task. -/
inductive EngineOp
  | process (call : PacketCall)
  | evict (now : Int)

namespace PacketCall

/-- The packet passes the forwarding rules of a host with these addresses. -/
def passesRules (call : PacketCall) (localAddrs : List IpAddr) : Bool :=
  checkForwardingRules call.srcAddr call.dstAddr call.ttl localAddrs

/-- What the engine asks its selector. -/
def ask (call : PacketCall) (selector : RelaySetSelector) : Bool × RelaySetSelector :=
  selector.shouldForward call.ingressIface call.prevHop call.srcAddr call.dstAddr

/-- The same packet, possibly by another way. -/
def Same (call call' : PacketCall) : Prop :=
  call.packet = call'.packet ∧ call.srcAddr = call'.srcAddr ∧ call.dstAddr = call'.dstAddr
    ∧ call.ttl = call'.ttl

theorem Same.passesRules_eq {call call' : PacketCall} (h : call.Same call')
    (localAddrs : List IpAddr) : call.passesRules localAddrs = call'.passesRules localAddrs := by
  obtain ⟨-, hsrc, hdst, httl⟩ := h
  rw [passesRules, hsrc, hdst, httl, passesRules]

end PacketCall

namespace SmfEngine

/-- Create a new SMF engine with the given configuration. -/
def new (config : SmfConfig) (localAddrs : List IpAddr) : SmfEngine where
  dpdCache := .new (fromSecs config.dpdWindowSecs)
  relaySelector := ClassicFlooding
  localAddrs := localAddrs

/-- Inject a custom relay set selector. -/
def withRelaySelector (engine : SmfEngine) (selector : RelaySetSelector) : SmfEngine :=
  { engine with relaySelector := selector }

/-- Process a multicast packet: `some` packet to be forwarded, or `none` if it is dropped. -/
def processPacket (engine : SmfEngine) (call : PacketCall) :
    RelayResult (Option Bytes) × SmfEngine :=
  if !checkForwardingRules call.srcAddr call.dstAddr call.ttl engine.localAddrs then
    (.ok none, engine)
  else
    let (answer, selector) := engine.relaySelector.shouldForward
      call.ingressIface call.prevHop call.srcAddr call.dstAddr
    let engine := { engine with relaySelector := selector }
    if !answer then (.ok none, engine)
    else (.ok (some (decrementTtl call.packet call.dstAddr call.ttl)), engine)

/-- The engine after an operation. -/
def step (engine : SmfEngine) : EngineOp → SmfEngine
  | .process call => (engine.processPacket call).2
  | .evict now => { engine with dpdCache := engine.dpdCache.evictExpired now }

variable {engine : SmfEngine} {call : PacketCall} {ops : List EngineOp}

/-! ### One call -/

/-- A packet against the rules is dropped before the selector hears of it. -/
theorem processPacket_of_rules (h : call.passesRules engine.localAddrs = false) :
    engine.processPacket call = (.ok none, engine) := by
  unfold PacketCall.passesRules at h
  rw [processPacket, h]
  rfl

/-- A packet within the rules goes by the answer of the selector. -/
theorem processPacket_of_selector (h : call.passesRules engine.localAddrs = true) :
    engine.processPacket call
      = (.ok (if (call.ask engine.relaySelector).1
          then some (decrementTtl call.packet call.dstAddr call.ttl) else none),
        engine.withRelaySelector (call.ask engine.relaySelector).2) := by
  unfold PacketCall.passesRules at h
  rw [processPacket, h]
  show (if !(call.ask engine.relaySelector).1 then _ else _) = _
  cases (call.ask engine.relaySelector).1 with
  | false => rfl
  | true => rfl

/-- A packet that is sent is one within the rules, with its hop count decremented. -/
theorem processPacket_inv {out : Bytes} (h : (engine.processPacket call).1 = .ok (some out)) :
    call.passesRules engine.localAddrs = true
      ∧ out = decrementTtl call.packet call.dstAddr call.ttl := by
  cases hrules : call.passesRules engine.localAddrs with
  | false =>
      rw [processPacket_of_rules hrules] at h
      simp at h
  | true =>
      rw [processPacket_of_selector hrules] at h
      cases hanswer : (call.ask engine.relaySelector).1 with
      | false => simp [hanswer] at h
      | true => exact ⟨rfl, by simpa [hanswer, eq_comm] using h⟩

/-- The call returns a packet to be sent. -/
def Forwards (engine : SmfEngine) (call : PacketCall) : Prop :=
  ∃ out, (engine.processPacket call).1 = .ok (some out)

/-- **What is forwarded**: a packet within the rules that the selector wants. -/
theorem forwards_iff :
    engine.Forwards call ↔
      call.passesRules engine.localAddrs = true ∧ (call.ask engine.relaySelector).1 = true := by
  unfold Forwards
  cases hrules : call.passesRules engine.localAddrs with
  | false => simp [processPacket_of_rules hrules]
  | true =>
      rw [processPacket_of_selector hrules]
      cases (call.ask engine.relaySelector).1 with
      | false => simp
      | true => simp

/-! ### Runs -/

/-- What a selector hears of an operation on a host with these addresses. -/
def hear (localAddrs : List IpAddr) (selector : RelaySetSelector) : EngineOp → RelaySetSelector
  | .process call => if call.passesRules localAddrs then (call.ask selector).2 else selector
  | .evict _ => selector

/-- One operation as the selector sees it. -/
theorem step_eq (engine : SmfEngine) (op : EngineOp) :
    (engine.step op).localAddrs = engine.localAddrs
      ∧ (engine.step op).relaySelector = hear engine.localAddrs engine.relaySelector op := by
  cases op with
  | evict now => exact ⟨rfl, rfl⟩
  | process call =>
      show (engine.processPacket call).2.localAddrs = _
        ∧ (engine.processPacket call).2.relaySelector
          = if call.passesRules engine.localAddrs then _ else _
      cases hrules : call.passesRules engine.localAddrs with
      | false =>
          rw [processPacket_of_rules hrules]
          exact ⟨rfl, rfl⟩
      | true =>
          rw [processPacket_of_selector hrules]
          exact ⟨rfl, rfl⟩

/-- **Simulation**: along a run of the engine its selector goes through a run of its own. -/
theorem run_eq (engine : SmfEngine) (ops : List EngineOp) :
    (run step engine ops).localAddrs = engine.localAddrs
      ∧ (run step engine ops).relaySelector
        = run (hear engine.localAddrs) engine.relaySelector ops := by
  refine run_induction (P := fun ops (engine' : SmfEngine) => engine'.localAddrs = engine.localAddrs
    ∧ engine'.relaySelector = run (hear engine.localAddrs) engine.relaySelector ops) ?_ ?_ ops
  · exact ⟨rfl, rfl⟩
  · intro ops op ih
    obtain ⟨haddrs, hselector⟩ := ih
    obtain ⟨haddrs', hselector'⟩ := step_eq (run step engine ops) op
    exact ⟨haddrs'.trans haddrs, by rw [hselector', haddrs, hselector, run_concat]⟩

/-- No call records a packet: what the cache does not have before a run, it does not have
after it. -/
theorem run_dpdCache (engine : SmfEngine) (ops : List EngineOp) (key : DpdKey)
    (h : engine.dpdCache.map key = none) : (run step engine ops).dpdCache.map key = none := by
  refine run_induction (P := fun _ (engine' : SmfEngine) => engine'.dpdCache.map key = none) h ?_ ops
  intro ops op ih
  cases op with
  | evict now =>
      show ((run step engine ops).dpdCache.map key).filter _ = none
      rw [ih]
      rfl
  | process call =>
      show ((run step engine ops).processPacket call).2.dpdCache.map key = none
      cases hrules : call.passesRules (run step engine ops).localAddrs with
      | false => rwa [processPacket_of_rules hrules]
      | true => rwa [processPacket_of_selector hrules]

/-! ### Forwarding the same packet again -/

/-- `call'` repeats `call` in the course of `ops`, with no eviction between the two. -/
structure Repeats (ops before : List EngineOp) (call : PacketCall) (between : List EngineOp)
    (call' : PacketCall) : Prop where
  inOps : before ++ .process call :: between ++ [.process call'] <+: ops
  same : call.Same call'
  noEvict : ∀ now, .evict now ∉ between

/-- **At most once within the window**: no packet is forwarded and then, before any
eviction, forwarded again. -/
def ForwardsOnce (engine : SmfEngine) (ops : List EngineOp) : Prop :=
  ∀ before call between call', Repeats ops before call between call' →
    ¬ ((run step engine before).Forwards call
      ∧ (run step engine (before ++ .process call :: between)).Forwards call')

/-- The selector, asked about the packets that pass the rules, does not want such a packet
and then, before any eviction, want it again. -/
def SelectsOnce (localAddrs : List IpAddr) (selector : RelaySetSelector) (ops : List EngineOp) :
    Prop :=
  ∀ before call between call', Repeats ops before call between call' →
    call.passesRules localAddrs = true →
      ¬ ((call.ask (run (hear localAddrs) selector before)).1 = true
        ∧ (call'.ask (run (hear localAddrs) selector (before ++ .process call :: between))).1
          = true)

/-- What the engine forwards in the course of a run. -/
theorem run_forwards_iff (engine : SmfEngine) (before : List EngineOp) (call : PacketCall) :
    (run step engine before).Forwards call ↔
      call.passesRules engine.localAddrs = true
        ∧ (call.ask (run (hear engine.localAddrs) engine.relaySelector before)).1 = true := by
  obtain ⟨haddrs, hselector⟩ := run_eq engine before
  rw [forwards_iff, haddrs, hselector]

/-- Duplicate suppression is the selector's: the engine forwards each packet at most once
within the window exactly when its selector wants it at most once. -/
theorem forwardsOnce_iff (engine : SmfEngine) (ops : List EngineOp) :
    engine.ForwardsOnce ops ↔ SelectsOnce engine.localAddrs engine.relaySelector ops := by
  constructor
  · intro h before call between call' hrepeats hrules hboth
    obtain ⟨hfirst, hsecond⟩ := hboth
    have hrules' : call'.passesRules engine.localAddrs = true :=
      (hrepeats.same.passesRules_eq engine.localAddrs).symm.trans hrules
    exact h before call between call' hrepeats
      ⟨(run_forwards_iff engine before call).mpr ⟨hrules, hfirst⟩,
        (run_forwards_iff engine _ call').mpr ⟨hrules', hsecond⟩⟩
  · intro h before call between call' hrepeats hboth
    obtain ⟨hfirst, hsecond⟩ := hboth
    obtain ⟨hrules, hfirst⟩ := (run_forwards_iff engine before call).mp hfirst
    obtain ⟨-, hsecond⟩ := (run_forwards_iff engine _ call').mp hsecond
    exact h before call between call' hrepeats hrules ⟨hfirst, hsecond⟩

/-- A multicast packet with hops left. -/
def sampleCall : PacketCall where
  packet := [0x46, 0, 0, 20, 0, 0, 0, 0, 64, 0, 0, 0, 0, 10, 0, 0, 1, 239, 0, 0, 1]
  srcAddr := .v4 ⟨10, 0, 0, 2⟩
  dstAddr := .v4 ⟨239, 0, 0, 1⟩
  ttl := 64
  ingressIface := "eth0"
  prevHop := .v4 ⟨10, 0, 0, 2⟩

/-- An engine as `new` makes it floods: the packet is forwarded each time it comes. -/
theorem sampleCall_forwarded_twice :
    ¬ (SmfEngine.new {} []).ForwardsOnce [.process sampleCall, .process sampleCall] := by
  intro h
  refine h [] sampleCall [] sampleCall ⟨List.prefix_refl _, ⟨rfl, rfl, rfl, rfl⟩, by simp⟩ ?_
  exact ⟨⟨_, rfl⟩, ⟨_, rfl⟩⟩

end SmfEngine

end DhcpRelay.Smf
