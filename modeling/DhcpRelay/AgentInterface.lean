import DhcpRelay.AgentV4Loop
import DhcpRelay.NetText

/-!
# DhcpRelay.AgentInterface

**What the settings of an interface come to.** Each of the three that matter for its
packets gets lost on the way, and each result says for which settings it does not matter:

* `trusted` is read by nobody;
* `ip_addr` as the address written to giaddr is right for the IPv4 addresses that are set,
  and zero for all others;
* `ip_addr` as the address of the DHCPv6 task is never right for an IPv6 address.
-/

namespace DhcpRelay

open DhcpRelay.Library

/-! ### Trust -/

/-- `handle_v4_client`, from the context on. -/
def relayClient (proto : V4.Codec) (args : V4.RequestArgs) (ctx : PipelineContext)
    (stats : RelayStats) : RelayStats × Option Datagram :=
  match (V4.buildRequest proto args).execute ctx with
  | (.ok true, ctx) => (stats.countForwarded, ctx.outgoing)
  | (.ok false, _) => (stats, none)
  | (.error _, _) => (stats.countDroppedSpoof, none)

/-- The context of a packet from a circuit that is trusted or not. -/
def V4Task.contextOf (task : V4Task) (trusted : Bool) (data : Bytes) (src : SocketAddr) :
    PipelineContext :=
  { PipelineContext.new data src task.ifaceName with isTrustedCircuit := trusted }

/-- The trust setting decides about a packet: `handle_v4_client` drops it (`Ok(false)`,
which the pipeline only returns for packets of untrusted circuits) exactly where the setting
is off, and does all in all what the pipeline does in a context with the setting. -/
structure V4Task.HonoursTrust (proto : V4.Codec) (task : V4Task) (trusted : Bool) (data : Bytes)
    (src : SocketAddr) (stats : RelayStats) : Prop where
  dropped_iff : ((V4.buildRequest proto task.requestArgs).execute
      (.new data src task.ifaceName)).1 = .ok false ↔ trusted = false
  receive_eq : task.receive proto stats data src
    = relayClient proto task.requestArgs (task.contextOf trusted data src) stats.countReceived

section

variable {proto : V4.Codec} {config : RelayConfig} {agent : RelayAgent}
  {bind : SocketAddr → Except String Unit} {iface : InterfaceConfig} {task : V4Task}
  {msg : V4.Message} {data : Bytes}

/-- Only a packet that is dropped without an error leaves the counters alone. -/
theorem relayClient_stats_eq_iff {args : V4.RequestArgs} {ctx : PipelineContext}
    {stats : RelayStats} :
    (relayClient proto args ctx stats).1 = stats
      ↔ ((V4.buildRequest proto args).execute ctx).1 = .ok false := by
  rcases hrun : (V4.buildRequest proto args).execute ctx with ⟨result, ctx'⟩
  rw [relayClient, hrun]
  match result with
  | .ok true =>
      have hcounted : stats.countForwarded ≠ stats := fun h =>
        absurd (congrArg RelayStats.packetsForwarded h) (Nat.succ_ne_self _)
      simpa using hcounted
  | .ok false => simp
  | .error e =>
      have hcounted : stats.countDroppedSpoof ≠ stats := fun h =>
        absurd (congrArg RelayStats.packetsDroppedSpoof h) (Nat.succ_ne_self _)
      simpa using hcounted

/-- A first-hop packet with an Option 82 is dropped in an untrusted context. -/
theorem V4Task.untrusted_dropped (hc : proto.Lawful) (hdec : proto.decode data = .ok msg)
    (hg : msg.giaddr = .unspecified) (h82 : msg.option82.isSome) (src : SocketAddr) :
    ((V4.buildRequest proto task.requestArgs).execute (task.contextOf false data src)).1
      = .ok false := by
  have hstop : Stages.execute (V4.admission task.requestArgs) (View.fresh msg false)
      = (.ok false, View.fresh msg false) := V4.admission_of_untrustedCircuit hg h82 rfl
  exact (V4.request_sees hc hdec (V4.run_of_stopped hstop (by simp))).1

/-- In a trusted one it is relayed, or refused with an error. -/
theorem V4Task.trusted_not_dropped (hc : proto.Lawful) (hvss : task.requestArgs.VssAccepted)
    (hdec : proto.decode data = .ok msg) (hg : msg.giaddr = .unspecified)
    (h82 : msg.option82.isSome) (src : SocketAddr) :
    ((V4.buildRequest proto task.requestArgs).execute (task.contextOf true data src)).1
      ≠ .ok false := by
  have hresult : ∀ result v, Stages.execute (V4.requestMeaning task.requestArgs)
      (View.fresh msg true) = (result, v) →
        ((V4.buildRequest proto task.requestArgs).execute (task.contextOf true data src)).1
          = result := fun _ _ hrun => (V4.request_sees hc hdec hrun).1
  cases hon : task.ctx.enableOption82 with
  | true =>
      obtain ⟨text, hrun⟩ : ∃ text, Stages.execute (V4.requestMeaning task.requestArgs)
          (View.fresh msg true) = (.error (.config text), View.fresh msg true) :=
        V4.run_of_trustedCircuit_refused hon hg h82
      simp [hresult _ _ hrun]
  | false =>
      obtain ⟨bag, hrun⟩ := V4.run_of_plain (t := true) hvss hon hg (.inr rfl)
      simp [hresult _ _ hrun]

/-- **The trust setting decides exactly where it is off.** A packet from a trusted
interface is dropped like any other. -/
theorem V4Task.honoursTrust_iff (hc : proto.Lawful) (hnew : RelayAgent.new config = .ok agent)
    (hspawn : V4Task.spawn config bind iface = .ok task) (hdec : proto.decode data = .ok msg)
    (hclient : V4.isClient msg = true) (hg : msg.giaddr = .unspecified)
    (h82 : msg.option82.isSome) (src : SocketAddr) (stats : RelayStats) :
    task.HonoursTrust proto iface.trusted data src stats ↔ iface.trusted = false := by
  have hvss : task.requestArgs.VssAccepted := spawn_vss (RelayAgent.new_inv hnew).2 hspawn
  have hreceive : task.receive proto stats data src
      = relayClient proto task.requestArgs (task.contextOf false data src) stats.countReceived :=
    V4Task.receive_client hdec hclient stats src
  have hdropped : ((V4.buildRequest proto task.requestArgs).execute
      (task.contextOf false data src)).1 = .ok false := untrusted_dropped hc hdec hg h82 src
  constructor
  · intro h
    by_contra htrusted
    have heq := h.receive_eq
    rw [hreceive, (Bool.not_eq_false _).mp htrusted] at heq
    have hstats : (relayClient proto task.requestArgs (task.contextOf true data src)
        stats.countReceived).1 = stats.countReceived :=
      (congrArg Prod.fst heq).symm.trans (relayClient_stats_eq_iff.mpr hdropped)
    exact V4Task.trusted_not_dropped hc hvss hdec hg h82 src (relayClient_stats_eq_iff.mp hstats)
  · intro htrusted
    rw [htrusted]
    exact ⟨⟨fun _ => rfl, fun _ => hdropped⟩, hreceive⟩

end

theorem sampleTagged_decode :
    V4.Wire.wire.decode (V4.Wire.writeMessage V4.sampleTagged) = .ok V4.sampleTagged :=
  V4.Wire.decode_writeMessage (by decide +kernel)

theorem sampleTagged_honoured :
    (sampleTask (some "c") (some "r")).HonoursTrust V4.Wire.wire sampleInterface.trusted
      (V4.Wire.writeMessage V4.sampleTagged) V4.sampleClient {} :=
  (V4Task.honoursTrust_iff V4.Wire.wire_lawful (sampleAgent_new (some "c") (some "r"))
    (sampleInterface_task _) sampleTagged_decode rfl rfl rfl V4.sampleClient {}).mpr rfl

/-- The sample interface, now with trusted clients behind it. -/
def sampleTrustedInterface : InterfaceConfig := { sampleInterface with trusted := true }

/-- The default configuration on it, with Option 82 off. -/
def sampleTrustedConfig : RelayConfig where
  interfaces := [sampleTrustedInterface]
  dhcpv4 := { enableOption82 := false }

theorem sampleTagged_distrusted :
    V4.Wire.wire.Lawful
      ∧ RelayAgent.new sampleTrustedConfig = .ok ⟨sampleTrustedConfig, {}⟩
      ∧ V4Task.spawn sampleTrustedConfig (fun _ => .ok ()) sampleTrustedInterface
        = .ok (.mkFor sampleTrustedConfig sampleTrustedInterface sampleBindAddr)
      ∧ V4.Wire.wire.decode (V4.Wire.writeMessage V4.sampleTagged) = .ok V4.sampleTagged
      ∧ V4.isClient V4.sampleTagged = true ∧ V4.sampleTagged.giaddr = .unspecified
      ∧ V4.sampleTagged.option82.isSome ∧ sampleTrustedInterface.trusted = true
      ∧ ¬ (V4Task.mkFor sampleTrustedConfig sampleTrustedInterface sampleBindAddr).HonoursTrust
          V4.Wire.wire sampleTrustedInterface.trusted (V4.Wire.writeMessage V4.sampleTagged)
          V4.sampleClient {} := by
  have hg : V4.sampleTagged.giaddr = .unspecified := rfl
  refine ⟨V4.Wire.wire_lawful, rfl, ?_, sampleTagged_decode, rfl, hg, rfl, rfl, fun h => ?_⟩
  · rw [V4Task.spawn, show sampleTrustedInterface.ipAddr = sampleInterface.ipAddr from rfl,
      sampleBindAddr_parse]
  · have htrusted := h.dropped_iff.mp
      (V4Task.untrusted_dropped V4.Wire.wire_lawful sampleTagged_decode hg rfl V4.sampleClient)
    exact absurd htrusted (by decide)

/-! ### The address in giaddr -/

section

variable {proto : V4.Codec} {config : RelayConfig} {agent : RelayAgent}
  {bind : SocketAddr → Except String Unit} {iface : InterfaceConfig} {task : V4Task}
  {msg : V4.Message} {data : Bytes}

/-- **The address of a task** is set exactly if the interface has an IPv4 socket address
other than 0.0.0.0. -/
theorem V4Task.ifaceIp_ne_iff (hspawn : V4Task.spawn config bind iface = .ok task) :
    task.ifaceIp ≠ .unspecified
      ↔ ∃ ip port, SocketAddr.parse iface.ipAddr.toList = some (.v4 ip port)
        ∧ ip ≠ .unspecified := by
  obtain ⟨bindAddr, hparse, -, rfl⟩ := spawn_inv hspawn
  rw [hparse]
  cases bindAddr with
  | v4 ip port =>
      have hip : (V4Task.mkFor config iface (.v4 ip port)).ifaceIp = ip := by
        simp [V4Task.mkFor, Ipv4Addr.parse_beforeColon hparse]
      rw [hip]
      constructor
      · intro h
        exact ⟨ip, port, rfl, h⟩
      · intro h
        obtain ⟨ip', port', haddr, hset⟩ := h
        obtain ⟨rfl, rfl⟩ : ip = ip' ∧ port = port' := by simpa using haddr
        exact hset
  | v6 ip port flowinfo scopeId =>
      have hip : (V4Task.mkFor config iface (.v6 ip port flowinfo scopeId)).ifaceIp
          = .unspecified := by
        simp [V4Task.mkFor, Ipv4Addr.parse_beforeColon_v6 hparse]
      simp [hip]

theorem V4Task.ifaceIp_local (hmem : iface ∈ config.interfaces)
    (hspawn : V4Task.spawn config bind iface = .ok task) (hip : task.ifaceIp ≠ .unspecified) :
    task.ifaceIp ∈ task.ctx.localAddrs := by
  obtain ⟨bindAddr, -, -, rfl⟩ := spawn_inv hspawn
  exact mkFor_local hmem hip

/-- A giaddr that a server can answer to: that of another relay, left alone, or an address
of this agent. -/
structure V4Task.Usable (task : V4Task) (msg msg' : V4.Message) : Prop where
  set : msg'.giaddr ≠ .unspecified
  origin : (msg'.giaddr = msg.giaddr ∧ msg.giaddr ∉ task.ctx.localAddrs)
    ∨ msg'.giaddr ∈ task.ctx.localAddrs

/-- **Every request that is forwarded has a usable giaddr** exactly if it comes with one, or
comes in at an interface with an IPv4 address other than 0.0.0.0. -/
theorem V4Task.usable_iff (hc : proto.Lawful) (hnew : RelayAgent.new config = .ok agent)
    (hmem : iface ∈ config.interfaces) (hspawn : V4Task.spawn config bind iface = .ok task)
    (hdec : proto.decode data = .ok msg) (hclient : V4.isClient msg = true) (stats : RelayStats)
    (src : SocketAddr) :
    (∀ d msg', (task.receive proto stats data src).2 = some d →
        proto.decode d.payload = .ok msg' → task.Usable msg msg')
      ↔ (task.requestArgs.Relays false msg → msg.giaddr = .unspecified →
        ∃ ip port, SocketAddr.parse iface.ipAddr.toList = some (.v4 ip port)
          ∧ ip ≠ .unspecified) := by
  have hvss : task.requestArgs.VssAccepted := spawn_vss (RelayAgent.new_inv hnew).2 hspawn
  rw [← ifaceIp_ne_iff hspawn]
  by_cases hrelays : task.requestArgs.Relays false msg
  · obtain ⟨d, msg', hsent, -, hread, -, hgiaddr⟩ :=
      V4Task.sent_of_relays hc hvss hdec hclient hrelays stats src
    constructor
    · intro h _ hzero
      have husable := h d msg' hsent hread
      rw [if_pos hzero] at hgiaddr
      exact hgiaddr ▸ husable.set
    · intro h d' msg'' hsent' hread'
      obtain rfl : d = d' := Option.some.inj (hsent.symm.trans hsent')
      obtain rfl : msg' = msg'' := Except.ok.inj (hread.symm.trans hread')
      by_cases hzero : msg.giaddr = .unspecified
      · rw [if_pos hzero] at hgiaddr
        have hset := h hrelays hzero
        exact ⟨hgiaddr ▸ hset, .inr (hgiaddr ▸ ifaceIp_local hmem hspawn hset)⟩
      · rw [if_neg hzero] at hgiaddr
        have hforeign : msg.giaddr ∉ task.ctx.localAddrs := by
          rw [V4.RequestArgs.Relays, if_neg hzero] at hrelays
          exact hrelays
        exact ⟨hgiaddr ▸ hzero, .inl ⟨hgiaddr, hforeign⟩⟩
  · rw [V4Task.sent_of_not_relays hc hdec hclient hrelays stats src]
    exact ⟨fun _ h => absurd h hrelays, fun _ d _ hd => by simp at hd⟩

end

theorem sampleDiscover_usable :
    ∃ d msg', ((sampleTask (some "c") (some "r")).receive V4.Wire.wire {}
          (V4.Wire.writeMessage V4.sampleDiscover) V4.sampleClient).2 = some d
      ∧ V4.Wire.wire.decode d.payload = .ok msg'
      ∧ (sampleTask (some "c") (some "r")).Usable V4.sampleDiscover msg' := by
  have hvalid : (sampleConfig (some "c") (some "r")).validate = .ok () := rfl
  have hvss : (sampleTask (some "c") (some "r")).requestArgs.VssAccepted :=
    V4Task.spawn_vss hvalid (sampleInterface_task _)
  have hrelays : (sampleTask (some "c") (some "r")).requestArgs.Relays false V4.sampleDiscover :=
    fun _ => .inl rfl
  obtain ⟨d, msg', hsent, -, hread, -, -⟩ := V4Task.sent_of_relays V4.Wire.wire_lawful hvss
    V4.sampleDiscover_decode rfl hrelays {} V4.sampleClient
  refine ⟨d, msg', hsent, hread, ?_⟩
  exact (V4Task.usable_iff V4.Wire.wire_lawful (sampleAgent_new (some "c") (some "r"))
    List.mem_cons_self (sampleInterface_task _) V4.sampleDiscover_decode rfl {}
    V4.sampleClient).mpr
      (fun _ _ => ⟨⟨10, 0, 0, 1⟩, 67, sampleBindAddr_parse, by decide⟩) d msg' hsent hread

/-- An interface with the wildcard address, as a socket is often bound to. -/
def sampleWildcardInterface : InterfaceConfig where
  name := "eth0"
  ipAddr := "0.0.0.0:67"

def sampleWildcardConfig : RelayConfig where
  interfaces := [sampleWildcardInterface]
  dhcpv4 := { circuitId := some "c" }

def sampleWildcardTask : V4Task :=
  .mkFor sampleWildcardConfig sampleWildcardInterface (.new (.v4 .unspecified) 67)

theorem sampleWildcard_spawn :
    V4Task.spawn sampleWildcardConfig (fun _ => .ok ()) sampleWildcardInterface
      = .ok sampleWildcardTask := by
  have hparse : SocketAddr.parse sampleWildcardInterface.ipAddr.toList
      = some (.new (.v4 .unspecified) 67) := by decide +kernel
  rw [V4Task.spawn, hparse]
  rfl

/-- What is forwarded from it still has no giaddr. -/
theorem sampleDiscover_unusable :
    V4.Wire.wire.Lawful
      ∧ RelayAgent.new sampleWildcardConfig = .ok ⟨sampleWildcardConfig, {}⟩
      ∧ sampleWildcardInterface ∈ sampleWildcardConfig.interfaces
      ∧ sampleWildcardInterface.enabled = true
      ∧ V4Task.spawn sampleWildcardConfig (fun _ => .ok ()) sampleWildcardInterface
        = .ok sampleWildcardTask
      ∧ V4.Wire.wire.decode (V4.Wire.writeMessage V4.sampleDiscover) = .ok V4.sampleDiscover
      ∧ V4.isClient V4.sampleDiscover = true
      ∧ ∃ d msg', (sampleWildcardTask.receive V4.Wire.wire {}
            (V4.Wire.writeMessage V4.sampleDiscover) V4.sampleClient).2 = some d
          ∧ V4.Wire.wire.decode d.payload = .ok msg' ∧ msg'.giaddr = .unspecified := by
  have hvalid : sampleWildcardConfig.validate = .ok () := rfl
  have hvss : sampleWildcardTask.requestArgs.VssAccepted :=
    V4Task.spawn_vss hvalid sampleWildcard_spawn
  have hrelays : sampleWildcardTask.requestArgs.Relays false V4.sampleDiscover :=
    fun _ => .inl rfl
  obtain ⟨d, msg', hsent, -, hread, -, hgiaddr⟩ := V4Task.sent_of_relays V4.Wire.wire_lawful hvss
    V4.sampleDiscover_decode rfl hrelays {} V4.sampleClient
  have hzero : sampleWildcardTask.ifaceIp = .unspecified := by decide +kernel
  exact ⟨V4.Wire.wire_lawful, rfl, List.mem_cons_self, rfl, sampleWildcard_spawn,
    V4.sampleDiscover_decode, rfl, d, msg', hsent, hread, hgiaddr.trans hzero⟩

/-! ### The address of the DHCPv6 task -/

section

variable {config : RelayConfig} {agent : RelayAgent} {iface : InterfaceConfig} {ip : Ipv6Addr}

/-- **No interface with an IPv6 address is served**: the text of an IPv6 address does not
survive the cut at the first colon, in none of its forms. Nothing is bound for the interface,
least of all the address that would make it the link address, and no DHCPv6 task of the
agent is spawned. -/
theorem V6Task.never_serves (hnew : RelayAgent.new config = .ok agent)
    (hmem : iface ∈ config.interfaces) (henabled : iface.enabled = true)
    (hform : ip.TextualForm iface.ipAddr.toList) (bind : SocketAddr → Except String Unit) :
    (¬ ∃ task, V6Task.spawn config bind iface = .ok task ∧ task.bindAddr = .new (.v6 ip) 547
        ∧ linkAddrOf (some task.bindAddr) = ip)
      ∧ ∀ tasks, agent.spawnV6Tasks bind ≠ .ok tasks := by
  have hfailed : V6Task.spawn config bind iface
      = .error (.config s!"invalid v6 IP: {invalidSocketAddr}") := by
    rw [V6Task.spawn, SocketAddr.parse_cut_ipv6 hform]
  constructor
  · intro h
    obtain ⟨task, hspawn, -⟩ := h
    simp [hfailed] at hspawn
  · intro tasks hspawn
    obtain ⟨rfl, -⟩ := RelayAgent.new_inv hnew
    obtain ⟨task, -, htask⟩ := ok_of_mapM_ok hspawn (List.mem_filter.mpr ⟨hmem, henabled⟩)
    simp [hfailed] at htask

end

/-- An interface with an IPv6 address, as it is written for `SocketAddr`. -/
def sampleV6Interface : InterfaceConfig where
  name := "eth0"
  ipAddr := "[2001:db8::1]:547"

def sampleV6Config : RelayConfig where
  interfaces := [sampleV6Interface]

def sampleV6Address : Ipv6Addr := .ofSegments [0x2001, 0xdb8, 0, 0, 0, 0, 0, 1]

theorem sampleV6_form : sampleV6Address.TextualForm sampleV6Interface.ipAddr.toList := by
  have hparse : SocketAddr.parse sampleV6Interface.ipAddr.toList
      = some (.v6 sampleV6Address 547 0 0) := by decide +kernel
  exact .withPort hparse

theorem sampleV6_never_served :
    (¬ ∃ task, V6Task.spawn sampleV6Config (fun _ => .ok ()) sampleV6Interface = .ok task
        ∧ task.bindAddr = .new (.v6 sampleV6Address) 547
        ∧ linkAddrOf (some task.bindAddr) = sampleV6Address)
      ∧ ∀ tasks, (RelayAgent.mk sampleV6Config {}).spawnV6Tasks (fun _ => .ok ()) ≠ .ok tasks :=
  have hnew : RelayAgent.new sampleV6Config = .ok ⟨sampleV6Config, {}⟩ := rfl
  V6Task.never_serves hnew List.mem_cons_self rfl sampleV6_form _

/-- What is left of the text in front of `:547` is an opening bracket and a group. -/
theorem sampleV6_refused :
    RelayAgent.new sampleV6Config = .ok ⟨sampleV6Config, {}⟩
      ∧ sampleV6Interface ∈ sampleV6Config.interfaces ∧ sampleV6Interface.enabled = true
      ∧ sampleV6Address.TextualForm sampleV6Interface.ipAddr.toList
      ∧ beforeColon sampleV6Interface.ipAddr.toList = "[2001".toList
      ∧ V6Task.spawn sampleV6Config (fun _ => .ok ()) sampleV6Interface
        = .error (.config s!"invalid v6 IP: {invalidSocketAddr}") := by
  refine ⟨rfl, List.mem_cons_self, rfl, sampleV6_form, by decide +kernel, ?_⟩
  rw [V6Task.spawn, SocketAddr.parse_cut_ipv6 sampleV6_form]

end DhcpRelay
