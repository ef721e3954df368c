import DhcpRelay.V4.RequestCorrect

/-!
# DhcpRelay.V4.LoopFree

**A packet that a relay has passed on does not pass it again.** The first relay writes
its address into giaddr; every relay behind it leaves a giaddr that is set alone, whatever
else it does to the packet; and the relay whose address it is takes it for a spoof. The
invariant carried along the chain is who wrote giaddr (`HasGiaddr`).
-/

namespace DhcpRelay.V4

open DhcpRelay.Library

/-- A request pipeline on its way: its arguments, and the circumstances it runs in. -/
structure Hop where
  args : RequestArgs
  trusted : Bool
  src : SocketAddr
  interface : String

/-- What the pipeline of a hop does with a packet. -/
def Hop.run (proto : Codec) (hop : Hop) (raw : Bytes) : RelayResult Bool × PipelineContext :=
  (buildRequest proto hop.args).execute
    { PipelineContext.new raw hop.src hop.interface with isTrustedCircuit := hop.trusted }

/-- The hop forwards the packet `raw` as `out`. -/
structure Hop.Forwards (proto : Codec) (hop : Hop) (raw out : Bytes) : Prop where
  passed : (hop.run proto raw).1 = .ok true
  buffer : (hop.run proto raw).2.buffer = out

/-- The hops forward the packet in turn, each what the one before it made of it. -/
inductive Relayed (proto : Codec) : List Hop → Bytes → Bytes → Prop
  | nil (raw : Bytes) : Relayed proto [] raw raw
  | cons {hop : Hop} {hops : List Hop} {raw mid out : Bytes} (hfirst : hop.Forwards proto raw mid)
      (hrest : Relayed proto hops mid out) : Relayed proto (hop :: hops) raw out

/-- The packet reads as a message with this giaddr. -/
def HasGiaddr (proto : Codec) (raw : Bytes) (giaddr : Ipv4Addr) : Prop :=
  ∃ msg, proto.decode raw = .ok msg ∧ msg.giaddr = giaddr

section

variable {proto : Codec} {hop : Hop} {hops : List Hop} {raw out : Bytes} {giaddr : Ipv4Addr}

/-- A packet that a hop delivers is forwarded. -/
theorem Hop.forwards_of_delivers (hop : Hop) {dest : SocketAddr} {msg : Message}
    (h : Delivers proto (hop.run proto raw) dest msg) :
    ∃ out, hop.Forwards proto raw out ∧ proto.decode out = .ok msg :=
  ⟨_, ⟨h.passed, rfl⟩, h.buffer⟩

/-- The first relay writes its own address. -/
theorem Hop.Forwards.sets (hc : proto.Lawful) (h : hop.Forwards proto raw out)
    (hraw : HasGiaddr proto raw .unspecified) : HasGiaddr proto out hop.args.ifaceIp := by
  obtain ⟨msg, hdec, hg⟩ := hraw
  obtain ⟨msg₀, msg', hdec₀, hout, -, hgiaddr⟩ := request_passed hc h.passed
  obtain rfl : msg = msg₀ := Except.ok.inj (hdec.symm.trans hdec₀)
  rw [if_pos hg] at hgiaddr
  exact ⟨msg', h.buffer ▸ hout, hgiaddr⟩

/-- A giaddr that is set is kept, and is none of the hop's own addresses. -/
theorem Hop.Forwards.keeps (hc : proto.Lawful) (h : hop.Forwards proto raw out)
    (hne : giaddr ≠ .unspecified) (hraw : HasGiaddr proto raw giaddr) :
    HasGiaddr proto out giaddr ∧ giaddr ∉ hop.args.localAddrs := by
  obtain ⟨msg, hdec, rfl⟩ := hraw
  obtain ⟨msg₀, msg', hdec₀, hout, hadmitted, hgiaddr⟩ := request_passed hc h.passed
  obtain rfl : msg = msg₀ := Except.ok.inj (hdec.symm.trans hdec₀)
  rw [if_neg hne] at hgiaddr
  exact ⟨⟨msg', h.buffer ▸ hout, hgiaddr⟩, fun hl => hadmitted ⟨hne, hl⟩⟩

/-- **The invariant of a chain**: a giaddr that is set is kept by any number of relays. -/
theorem Relayed.keeps (hc : proto.Lawful) (h : Relayed proto hops raw out)
    (hne : giaddr ≠ .unspecified) (hraw : HasGiaddr proto raw giaddr) :
    HasGiaddr proto out giaddr := by
  induction h with
  | nil raw => exact hraw
  | cons hfirst _ ih => exact ih (hfirst.keeps hc hne hraw).1

/-- The relay whose address it is stops the packet, on each of its interfaces. -/
theorem Hop.stops (hc : proto.Lawful) (hne : giaddr ≠ .unspecified)
    (hlocal : giaddr ∈ hop.args.localAddrs) (hraw : HasGiaddr proto raw giaddr) :
    ∃ text, (hop.run proto raw).1 = .error (.giaddrSpoof text) := by
  obtain ⟨msg, hdec, rfl⟩ := hraw
  obtain ⟨text, hstop⟩ : ∃ text, Stages.execute (admission hop.args) (View.fresh msg hop.trusted)
      = (.error (.giaddrSpoof text), View.fresh msg hop.trusted) := admission_of_spoof hne hlocal
  exact ⟨text, (request_stops hc hdec hstop (by simp)).1⟩

/-- **Loop freedom.** A packet without giaddr that the relay forwards from an interface
with an address of its own, and that any chain of other relays forwards, never passes any
interface of the relay again: it is stopped as a spoof. -/
theorem no_loop (hc : proto.Lawful) (ingress again : Hop) {first last : Bytes} {msg : Message}
    (hip : ingress.args.ifaceIp ≠ .unspecified)
    (hlocal : ingress.args.ifaceIp ∈ ingress.args.localAddrs)
    (hsame : again.args.localAddrs = ingress.args.localAddrs)
    (hdec : proto.decode raw = .ok msg) (hg : msg.giaddr = .unspecified)
    (hfirst : ingress.Forwards proto raw first) (hchain : Relayed proto hops first last) :
    (again.run proto last).1 ≠ .ok true
      ∧ ∃ text, (again.run proto last).1 = .error (.giaddrSpoof text) := by
  have hset : HasGiaddr proto first ingress.args.ifaceIp := hfirst.sets hc ⟨msg, hdec, hg⟩
  have hlast : HasGiaddr proto last ingress.args.ifaceIp := hchain.keeps hc hip hset
  have hmine : ingress.args.ifaceIp ∈ again.args.localAddrs := by rwa [hsame]
  obtain ⟨text, hstopped⟩ := Hop.stops hc hip hmine hlast
  rw [hstopped]
  exact ⟨by simp, text, rfl⟩

end

/-- The relay of the sample setting. -/
def sampleHop : Hop where
  args := sampleArgs
  trusted := false
  src := sampleClient
  interface := "eth0"

/-- Another relay, with VSS on. -/
def sampleForeignHop : Hop :=
  { sampleHop with args := { sampleArgsVss with localAddrs := [⟨10, 0, 0, 9⟩] } }

/-- Both relays forward the discover; the first one does not forward it again. -/
theorem sampleDiscover_no_loop :
    ∃ first second, sampleHop.Forwards Wire.wire (Wire.writeMessage sampleDiscover) first
      ∧ Relayed Wire.wire [sampleForeignHop] first second
      ∧ (sampleHop.run Wire.wire second).1 ≠ .ok true
      ∧ ∃ text, (sampleHop.run Wire.wire second).1 = .error (.giaddrSpoof text) := by
  have hvss : sampleArgs.VssAccepted :=
    RequestArgs.vssAccepted_of_off (by simp [RequestArgs.VssOff, sampleArgs])
  have hvssForeign : sampleForeignHop.args.VssAccepted := RequestArgs.vssAccepted_of_valid rfl rfl
  have hids : sampleArgs.circuitId.isSome ∨ sampleArgs.remoteId.isSome := .inl rfl
  have hg : sampleDiscover.giaddr = .unspecified := rfl
  have h82 : sampleDiscover.option82 = none := rfl
  obtain ⟨bag, hrun⟩ := run_of_firstRelay (t := false) hvss rfl hids hg h82
  obtain ⟨first, hfirst, hread⟩ :=
    Hop.forwards_of_delivers sampleHop (request_delivers Wire.wire_lawful sampleDiscover_decode hrun
      rfl)
  -- by now giaddr is the address of the first relay
  have hset : (⟨10, 0, 0, 1⟩ : Ipv4Addr) ≠ .unspecified := by decide
  have hforeign : (⟨10, 0, 0, 1⟩ : Ipv4Addr) ∉ sampleForeignHop.args.localAddrs := by decide
  obtain ⟨second, hsecond, -⟩ := Hop.forwards_of_delivers sampleForeignHop
    (request_of_reforwarded Wire.wire_lawful hvssForeign hread hset hforeign)
  have hchain : Relayed Wire.wire [sampleForeignHop] first second := .cons hsecond (.nil second)
  have hip : sampleHop.args.ifaceIp ≠ .unspecified := by decide
  have hlocal : sampleHop.args.ifaceIp ∈ sampleHop.args.localAddrs := by decide
  exact ⟨first, second, hfirst, hchain,
    no_loop Wire.wire_lawful sampleHop sampleHop hip hlocal rfl sampleDiscover_decode hg hfirst
      hchain⟩

end DhcpRelay.V4
