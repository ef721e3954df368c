import DhcpRelay.Agent
import DhcpRelay.V4.ReplyCorrect
import DhcpRelay.V4.RequestCorrect

/-!
# DhcpRelay.AgentV4

**What the DHCPv4 tasks of a running agent send.** The results about the two
pipelines, carried through the configuration, the classification of messages and
the handlers.

Both results state a defect with its extent. The agent computes the echo it expects
in a reply from that very reply, so every reply passes; and it does not apply the
documented defaults of `circuit_id` and `remote_id`, so a relay that is configured
without ids drops every request.
-/

namespace DhcpRelay

open DhcpRelay.Library

section Handlers

variable {proto : V4.Codec} {data : Bytes} {src dest : SocketAddr} {ifaceName : String}
  {stats : RelayStats} {msg : V4.Message}

/-- A delivered packet is what the handler sends. -/
theorem Delivers.outgoing {M : Type} {codec : Codec M} {out : RelayResult Bool × PipelineContext}
    {msg : M} (h : Delivers codec out dest msg) :
    out.2.outgoing = some ⟨out.2.buffer, dest⟩ := by
  rw [PipelineContext.outgoing, h.dstAddr]
  rfl

theorem handleV4Client_sent {args : V4.RequestArgs}
    (h : Delivers proto ((V4.buildRequest proto args).execute (.new data src ifaceName)) dest msg)
    (stats : RelayStats) :
    (handleV4Client proto data src ifaceName args stats).2
      = some ⟨((V4.buildRequest proto args).execute (.new data src ifaceName)).2.buffer, dest⟩ := by
  have hout := h.outgoing
  rcases hrun : (V4.buildRequest proto args).execute (.new data src ifaceName) with ⟨result, ctx⟩
  rw [hrun] at h hout
  obtain rfl : result = .ok true := h.passed
  rw [handleV4Client, hrun]
  exact hout

theorem handleV4Client_of_delivers {args : V4.RequestArgs}
    (h : Delivers proto ((V4.buildRequest proto args).execute (.new data src ifaceName)) dest msg)
    (stats : RelayStats) :
    ∃ d, (handleV4Client proto data src ifaceName args stats).2 = some d
      ∧ d.dst = dest ∧ proto.decode d.payload = .ok msg :=
  ⟨_, handleV4Client_sent h stats, rfl, h.buffer⟩

theorem handleV4Client_of_error {args : V4.RequestArgs} {e : RelayError}
    (h : ((V4.buildRequest proto args).execute (.new data src ifaceName)).1 = .error e) :
    handleV4Client proto data src ifaceName args stats = (stats.countDroppedSpoof, none) := by
  rcases hrun : (V4.buildRequest proto args).execute (.new data src ifaceName) with ⟨result, ctx⟩
  rw [hrun] at h
  obtain rfl : result = .error e := h
  rw [handleV4Client, hrun]

theorem handleV4Server_of_delivers {expected : Option (List V4.Option82.SubOption)}
    {vssCfg : Option VssConfig} {enableOption82 : Bool}
    (h : Delivers proto ((V4.buildReply proto expected vssCfg enableOption82).execute
      (.new data src ifaceName)) dest msg) :
    ∃ d, (handleV4Server proto data src ifaceName expected vssCfg enableOption82 stats).2 = some d
      ∧ d.dst = dest ∧ proto.decode d.payload = .ok msg := by
  have hout := h.outgoing
  rcases hrun : (V4.buildReply proto expected vssCfg enableOption82).execute
    (.new data src ifaceName) with ⟨result, ctx⟩
  rw [hrun] at h hout
  obtain rfl : result = .ok true := h.passed
  refine ⟨⟨ctx.buffer, dest⟩, ?_, rfl, h.buffer⟩
  rw [handleV4Server, hrun]
  exact hout

end Handlers

/-! ### A sample agent -/

def sampleInterface : InterfaceConfig where
  name := "eth0"
  ipAddr := "10.0.0.1:67"

def sampleBindAddr : SocketAddr := .new (.v4 ⟨10, 0, 0, 1⟩) 67

/-- The default configuration on one interface, with the given ids. -/
def sampleConfig (circuitId remoteId : Option String) : RelayConfig where
  interfaces := [sampleInterface]
  dhcpv4 := { circuitId := circuitId, remoteId := remoteId }

def sampleAgent (circuitId remoteId : Option String) : RelayAgent where
  config := sampleConfig circuitId remoteId
  stats := {}

def sampleTask (circuitId remoteId : Option String) : V4Task :=
  .mkFor (sampleConfig circuitId remoteId) sampleInterface sampleBindAddr

theorem sampleAgent_new (circuitId remoteId : Option String) :
    RelayAgent.new (sampleConfig circuitId remoteId) = .ok (sampleAgent circuitId remoteId) := rfl

theorem sampleBindAddr_parse :
    SocketAddr.parse sampleInterface.ipAddr.toList = some sampleBindAddr := by
  decide +kernel

/-- The task of the sample interface. -/
theorem sampleInterface_task (config : RelayConfig) :
    V4Task.spawn config (fun _ => .ok ()) sampleInterface
      = .ok (.mkFor config sampleInterface sampleBindAddr) := by
  rw [V4Task.spawn, sampleBindAddr_parse]

/-- An agent on the sample interface has one task. -/
theorem sampleInterface_spawn {agent : RelayAgent}
    (h : agent.config.interfaces = [sampleInterface]) :
    agent.spawnV4Tasks (fun _ => .ok ())
      = .ok [.mkFor agent.config sampleInterface sampleBindAddr] := by
  have hlist : agent.config.interfaces.filter (·.enabled) = [sampleInterface] := by
    rw [h]
    rfl
  rw [RelayAgent.spawnV4Tasks, hlist, List.mapM_cons, sampleInterface_task]
  rfl

theorem sampleAgent_spawn (circuitId remoteId : Option String) :
    (sampleAgent circuitId remoteId).spawnV4Tasks (fun _ => .ok ())
      = .ok [sampleTask circuitId remoteId] :=
  sampleInterface_spawn rfl

/-! ### Replies -/

section Replies

variable {proto : V4.Codec} {task : V4Task} {stats : RelayStats} {data : Bytes} {src : SocketAddr}
  {msg : V4.Message}

/-- What is expected in a reply is what the reply has. -/
theorem V4.echoMatches_expectedSubOpts (msg : V4.Message) :
    V4.EchoMatches (V4.expectedSubOpts msg) msg := by
  rw [V4.expectedSubOpts, V4.Message.get?_option82]
  cases h82 : msg.option82 with
  | none => exact V4.echoMatches_none msg
  | some info => exact V4.echoMatches_some_iff.mpr (by rw [h82]; rfl)

/-- What a task passes on for a reply. -/
def V4Task.replyMsg (task : V4Task) (msg : V4.Message) : V4.Message :=
  if task.ctx.enableOption82 then msg.withoutOption82 else msg

/-- A message that is not a client's goes to the server handler. -/
theorem V4Task.receive_server (hdec : proto.decode data = .ok msg)
    (hclient : V4.isClient msg = false) (stats : RelayStats) (src : SocketAddr) :
    task.receive proto stats data src
      = handleV4Server proto data src task.ifaceName (V4.expectedSubOpts msg) task.vss
          task.ctx.enableOption82 stats.countReceived := by
  rw [V4Task.receive, hdec]
  simp only [hclient]
  rfl

/-- The reply pipeline of a task lets every reply through. -/
theorem V4Task.reply_delivers (hc : proto.Lawful) (hdec : proto.decode data = .ok msg)
    (src : SocketAddr) :
    Delivers proto ((V4.buildReply proto (V4.expectedSubOpts msg) task.vss
        task.ctx.enableOption82).execute (.new data src task.ifaceName))
      (V4.replyAddr msg) (task.replyMsg msg) := by
  rw [V4Task.replyMsg]
  cases task.ctx.enableOption82 with
  | false => exact V4.reply_of_unstripped hc hdec
  | true => exact V4.reply_of_match hc hdec (V4.echoMatches_expectedSubOpts msg)

/-- **Every reply is sent on.** -/
theorem V4Task.passes_reply (hc : proto.Lawful) (hdec : proto.decode data = .ok msg)
    (hclient : V4.isClient msg = false) (stats : RelayStats) (src : SocketAddr) :
    ∃ d, (task.receive proto stats data src).2 = some d
      ∧ d.dst = V4.replyAddr msg ∧ proto.decode d.payload = .ok (task.replyMsg msg) := by
  rw [V4Task.receive_server hdec hclient]
  exact handleV4Server_of_delivers (V4Task.reply_delivers hc hdec src)

/-- With Option 82 on it is sent on stripped. -/
theorem V4Task.sends_reply (hc : proto.Lawful) (hon : task.ctx.enableOption82 = true)
    (hdec : proto.decode data = .ok msg) (hclient : V4.isClient msg = false) (stats : RelayStats)
    (src : SocketAddr) :
    ∃ d, (task.receive proto stats data src).2 = some d
      ∧ d.dst = V4.replyAddr msg ∧ proto.decode d.payload = .ok msg.withoutOption82 := by
  obtain ⟨d, hsent, hdst, hpayload⟩ := V4Task.passes_reply hc hdec hclient stats src
  rw [V4Task.replyMsg, if_pos hon] at hpayload
  exact ⟨d, hsent, hdst, hpayload⟩

end Replies

/-! ### Requests -/

section Requests

variable {proto : V4.Codec} {task : V4Task} {stats : RelayStats} {data : Bytes} {src : SocketAddr}
  {msg : V4.Message}

/-- A task that inserts Option 82 and has an id to insert relays a first-relay request. -/
theorem V4Task.sends_request (hc : proto.Lawful) (hvss : task.requestArgs.VssAccepted)
    (hon : task.ctx.enableOption82 = true)
    (hids : task.ctx.circuitId.isSome ∨ task.ctx.remoteId.isSome)
    (hdec : proto.decode data = .ok msg) (hclient : V4.isClient msg = true)
    (hg : msg.giaddr = .unspecified) (h82 : msg.option82 = none) (stats : RelayStats)
    (src : SocketAddr) :
    ∃ d msg' info, (task.receive proto stats data src).2 = some d ∧ d.dst = task.serverAddr
      ∧ proto.decode d.payload = .ok msg' ∧ msg'.option82 = some info
      ∧ ∀ code, info.get? code = task.requestArgs.requested code := by
  obtain ⟨bag, hrun⟩ := V4.run_of_firstRelay (t := false) hvss hon hids hg h82
  have hdelivers : Delivers proto ((V4.buildRequest proto task.requestArgs).execute
      (.new data src task.ifaceName)) task.serverAddr _ := V4.request_delivers hc hdec hrun rfl
  obtain ⟨d, hsent, hdst, hpayload⟩ := handleV4Client_of_delivers hdelivers stats.countReceived
  refine ⟨d, _, _, ?_, hdst, hpayload, V4.Message.option82_withOption82 _ _,
    V4.RequestArgs.get?_stampInfo_agentInfo⟩
  rw [V4Task.receive, hdec]
  simp only [hclient]
  exact hsent

/-- A task that inserts Option 82 but has no id to insert drops every first-relay request. -/
theorem V4Task.drops_request (hc : proto.Lawful) (hon : task.ctx.enableOption82 = true)
    (hids : task.ctx.circuitId = none ∧ task.ctx.remoteId = none)
    (hdec : proto.decode data = .ok msg) (hclient : V4.isClient msg = true)
    (hg : msg.giaddr = .unspecified) (h82 : msg.option82 = none) (stats : RelayStats)
    (src : SocketAddr) : (task.receive proto stats data src).2 = none := by
  obtain ⟨text, hfailed⟩ : ∃ text, ((V4.buildRequest proto task.requestArgs).execute
      (.new data src task.ifaceName)).1 = .error (.config text) :=
    V4.request_of_no_ids hc hdec hon hids hg h82
  rw [V4Task.receive, hdec]
  simp only [hclient, if_true]
  exact congrArg Prod.snd (handleV4Client_of_error hfailed)

/-- The circuit id that a task asks for is the configured one. -/
theorem V4Task.requested_circuitId {config : RelayConfig} (hctx : task.ctx = .fromInner config) :
    task.requestArgs.requested V4.RelayCode.agentCircuitId
      = config.dhcpv4.circuitId.map fun s => .agentCircuitId s.toUTF8.toList := by
  rw [V4.RequestArgs.requested, if_pos rfl, V4Task.requestArgs, hctx]
  exact Option.map_map _ _ _

/-- The remote id that a task asks for is the configured one. -/
theorem V4Task.requested_remoteId {config : RelayConfig} (hctx : task.ctx = .fromInner config) :
    task.requestArgs.requested V4.RelayCode.agentRemoteId
      = config.dhcpv4.remoteId.map fun s => .agentRemoteId s.toUTF8.toList := by
  rw [V4.RequestArgs.requested, if_neg (by decide), if_pos rfl, V4Task.requestArgs, hctx]
  exact Option.map_map _ _ _

/-- **First-relay requests are forwarded as documented exactly when both ids are
configured.** With one of them missing its sub-option is missing; with both missing
the request is dropped. `ipId` is whatever the relay's address is to be written as
where `remote_id` is not configured. -/
theorem V4Task.request_documented_iff {config : RelayConfig} {agent : RelayAgent}
    {bind : SocketAddr → Except String Unit} {tasks : List V4Task} (hc : proto.Lawful)
    (hnew : RelayAgent.new config = .ok agent) (hspawn : agent.spawnV4Tasks bind = .ok tasks)
    (htask : task ∈ tasks) (hon : config.dhcpv4.enableOption82 = true)
    (hdec : proto.decode data = .ok msg) (hclient : V4.isClient msg = true)
    (hg : msg.giaddr = .unspecified) (h82 : msg.option82 = none) (ipId : Ipv4Addr → Bytes) :
    (∃ d msg' info, (task.receive proto stats data src).2 = some d
        ∧ proto.decode d.payload = .ok msg' ∧ msg'.option82 = some info
        ∧ info.get? V4.RelayCode.agentCircuitId = some (.agentCircuitId
            (config.dhcpv4.circuitId.getD task.ifaceName).toUTF8.toList)
        ∧ info.get? V4.RelayCode.agentRemoteId = some (.agentRemoteId
            ((config.dhcpv4.remoteId.map fun s => s.toUTF8.toList).getD (ipId task.ifaceIp))))
      ↔ config.dhcpv4.circuitId.isSome ∧ config.dhcpv4.remoteId.isSome := by
  obtain ⟨hctx, hvss⟩ := RelayAgent.spawned_inv hnew hspawn htask
  have hinserts : task.ctx.enableOption82 = true := by
    rw [hctx]
    exact hon
  have hsends := fun hids =>
    V4Task.sends_request hc hvss hinserts hids hdec hclient hg h82 stats src
  constructor
  · intro h
    obtain ⟨d, msg', info, hsent, hpayload, hinfo, hcircuit, hremote⟩ := h
    by_cases hids : config.dhcpv4.circuitId = none ∧ config.dhcpv4.remoteId = none
    · have hnone : task.ctx.circuitId = none ∧ task.ctx.remoteId = none := by
        simp [hctx, V4SpawnContext.fromInner, hids]
      rw [V4Task.drops_request hc hinserts hnone hdec hclient hg h82 stats src] at hsent
      simp at hsent
    · have hone : config.dhcpv4.circuitId.isSome ∨ config.dhcpv4.remoteId.isSome := by
        rw [Option.isSome_iff_ne_none, Option.isSome_iff_ne_none]
        exact not_and_or.mp hids
      obtain ⟨d', sent, info', hsent', -, hpayload', hinfo', hcodes⟩ :=
        hsends (by simpa [hctx, V4SpawnContext.fromInner] using hone)
      -- it is the datagram at hand, and so are the message and its Option 82
      obtain rfl : d = d' := Option.some.inj (hsent.symm.trans hsent')
      obtain rfl : msg' = sent := Except.ok.inj (hpayload.symm.trans hpayload')
      obtain rfl : info = info' := Option.some.inj (hinfo.symm.trans hinfo')
      rw [hcodes, V4Task.requested_circuitId hctx, Option.map_eq_some_iff] at hcircuit
      rw [hcodes, V4Task.requested_remoteId hctx, Option.map_eq_some_iff] at hremote
      obtain ⟨id, hid, -⟩ := hcircuit
      obtain ⟨rid, hrid, -⟩ := hremote
      exact ⟨Option.isSome_of_eq_some hid, Option.isSome_of_eq_some hrid⟩
  · intro hboth
    obtain ⟨hcircuit, hremote⟩ := hboth
    obtain ⟨id, hid⟩ := Option.isSome_iff_exists.mp hcircuit
    obtain ⟨rid, hrid⟩ := Option.isSome_iff_exists.mp hremote
    obtain ⟨d, sent, info, hsent, -, hpayload, hinfo, hcodes⟩ :=
      hsends (.inl (by simp [hctx, V4SpawnContext.fromInner, hid]))
    refine ⟨d, sent, info, hsent, hpayload, hinfo, ?_, ?_⟩
    · rw [hcodes, V4Task.requested_circuitId hctx, hid]
      rfl
    · rw [hcodes, V4Task.requested_remoteId hctx, hrid]
      rfl

end Requests

/-- With both ids configured a discover is relayed as documented. -/
theorem sampleDiscover_documented :
    ∃ d msg' info, ((sampleTask (some "c") (some "r")).receive V4.Wire.wire {}
          (V4.Wire.writeMessage V4.sampleDiscover) V4.sampleClient).2 = some d
      ∧ V4.Wire.wire.decode d.payload = .ok msg' ∧ msg'.option82 = some info
      ∧ info.get? V4.RelayCode.agentCircuitId = some (.agentCircuitId "c".toUTF8.toList)
      ∧ info.get? V4.RelayCode.agentRemoteId = some (.agentRemoteId "r".toUTF8.toList) :=
  (V4Task.request_documented_iff V4.Wire.wire_lawful (sampleAgent_new (some "c") (some "r"))
    (sampleAgent_spawn (some "c") (some "r")) List.mem_cons_self rfl
    V4.sampleDiscover_decode rfl rfl rfl Ipv4Addr.octets).mpr ⟨rfl, rfl⟩

/-- With the default configuration, which has no ids, it is dropped. -/
theorem sampleDiscover_dropped :
    V4.Wire.wire.Lawful
      ∧ RelayAgent.new (sampleConfig none none) = .ok (sampleAgent none none)
      ∧ (sampleAgent none none).spawnV4Tasks (fun _ => .ok ()) = .ok [sampleTask none none]
      ∧ (sampleConfig none none).dhcpv4.enableOption82 = true
      ∧ V4.Wire.wire.decode (V4.Wire.writeMessage V4.sampleDiscover) = .ok V4.sampleDiscover
      ∧ V4.isClient V4.sampleDiscover = true ∧ V4.sampleDiscover.giaddr = .unspecified
      ∧ V4.sampleDiscover.option82 = none
      ∧ ((sampleTask none none).receive V4.Wire.wire {}
          (V4.Wire.writeMessage V4.sampleDiscover) V4.sampleClient).2 = none := by
  exact ⟨V4.Wire.wire_lawful, sampleAgent_new _ _, sampleAgent_spawn _ _, rfl,
    V4.sampleDiscover_decode, rfl, rfl, rfl, V4Task.drops_request V4.Wire.wire_lawful rfl
      ⟨rfl, rfl⟩ V4.sampleDiscover_decode rfl rfl rfl {} V4.sampleClient⟩

/-! ### The echo check -/

/-- The sub-options a relay with this configuration inserts into requests, in order. -/
def RelayConfig.subOpts (config : RelayConfig) : List V4.Option82.SubOption :=
  (config.dhcpv4.circuitId.map fun s => V4.Option82.SubOption.mk 1 s.toUTF8.toList).toList
    ++ (config.dhcpv4.remoteId.map fun s => V4.Option82.SubOption.mk 2 s.toUTF8.toList).toList

/-- They are the sub-options of the Option 82 that the insertion stage builds. -/
theorem RelayConfig.subOpts_eq (config : RelayConfig) :
    config.subOpts = V4.Option82.subOpts (V4.Option82.agentInfo
      (V4SpawnContext.fromInner config).circuitId (V4SpawnContext.fromInner config).remoteId) := by
  rw [V4.Option82.subOpts_agentInfo]
  simp only [V4SpawnContext.fromInner, Option.map_map]
  rfl

/-- What the echo check is there for: a message that is no client's is sent on only if it came
with the sub-options that this relay inserts. -/
def V4Task.EnforcesEcho (proto : V4.Codec) (config : RelayConfig) (task : V4Task) : Prop :=
  ∀ stats data src msg, proto.decode data = .ok msg → V4.isClient msg = false →
    (task.receive proto stats data src).2.isSome →
      msg.option82.map V4.Option82.subOpts = some config.subOpts

section Echo

variable {proto : V4.Codec} {config : RelayConfig} {task : V4Task} {data : Bytes}
  {msg : V4.Message}

/-- What a task with VSS off inserts into a first-relay request are the sub-options of its
configuration. -/
theorem V4Task.inserts_subOpts (hc : proto.Lawful) (hctx : task.ctx = .fromInner config)
    (hon : config.dhcpv4.enableOption82 = true) (hvss : config.dhcpv4.vss.enabled = false)
    (hids : config.dhcpv4.circuitId.isSome ∨ config.dhcpv4.remoteId.isSome)
    (hdec : proto.decode data = .ok msg) (hclient : V4.isClient msg = true)
    (hg : msg.giaddr = .unspecified) (h82 : msg.option82 = none) (stats : RelayStats)
    (src : SocketAddr) :
    ∃ d request, (task.receive proto stats data src).2 = some d
      ∧ proto.decode d.payload = .ok request
      ∧ request.option82.map V4.Option82.subOpts = some config.subOpts := by
  have hoff : task.requestArgs.VssOff := by
    intro cfg hcfg
    have hnone : task.requestArgs.vssConfig = none := by
      simp [V4Task.requestArgs, V4Task.vss, hctx, V4SpawnContext.fromInner, hvss]
    rw [hnone] at hcfg
    simp at hcfg
  have hinserts : task.ctx.enableOption82 = true := by
    rw [hctx]
    exact hon
  have hone : task.ctx.circuitId.isSome ∨ task.ctx.remoteId.isSome := by
    simpa [hctx, V4SpawnContext.fromInner] using hids
  obtain ⟨d, request, info, hsent, -, hpayload, hinfo, hcodes⟩ :=
    V4Task.sends_request hc (V4.RequestArgs.vssAccepted_of_off hoff) hinserts hone hdec hclient hg
      h82 stats src
  have hsame : info = V4.Option82.agentInfo task.ctx.circuitId task.ctx.remoteId := by
    apply KeyedMap.ext_get?
    intro code
    rw [hcodes, ← V4.RequestArgs.get?_stampInfo_agentInfo, V4.RequestArgs.stampInfo_of_off hoff]
    rfl
  refine ⟨d, request, hsent, hpayload, ?_⟩
  rw [hinfo, Option.map_some, hsame, RelayConfig.subOpts_eq, hctx]

/-- **The echo check of the running agent enforces nothing.** Requests leave with the
configured sub-options, but whatever is answered is sent on towards a client, with its
Option 82 stripped; so under no configuration are other sub-options kept from the clients. -/
theorem V4Task.echo_never_enforced {agent : RelayAgent} {bind : SocketAddr → Except String Unit}
    {tasks : List V4Task} (hc : proto.Lawful) (hnew : RelayAgent.new config = .ok agent)
    (hspawn : agent.spawnV4Tasks bind = .ok tasks) (htask : task ∈ tasks)
    (hon : config.dhcpv4.enableOption82 = true) (hvss : config.dhcpv4.vss.enabled = false)
    (hids : config.dhcpv4.circuitId.isSome ∨ config.dhcpv4.remoteId.isSome) :
    (∀ stats data src msg, proto.decode data = .ok msg → V4.isClient msg = true →
        msg.giaddr = .unspecified → msg.option82 = none →
        ∃ d request, (task.receive proto stats data src).2 = some d
          ∧ proto.decode d.payload = .ok request
          ∧ request.option82.map V4.Option82.subOpts = some config.subOpts)
      ∧ (∀ stats data src msg, proto.decode data = .ok msg → V4.isClient msg = false →
        ∃ d, (task.receive proto stats data src).2 = some d ∧ d.dst = V4.replyAddr msg
          ∧ proto.decode d.payload = .ok msg.withoutOption82)
      ∧ ¬ task.EnforcesEcho proto config := by
  obtain ⟨hctx, -⟩ := RelayAgent.spawned_inv hnew hspawn htask
  have hinserts : task.ctx.enableOption82 = true := by
    rw [hctx]
    exact hon
  have hpasses : ∀ stats data src msg, proto.decode data = .ok msg → V4.isClient msg = false →
      ∃ d, (task.receive proto stats data src).2 = some d ∧ d.dst = V4.replyAddr msg
        ∧ proto.decode d.payload = .ok msg.withoutOption82 :=
    fun stats data src msg hdec hclient => V4Task.sends_reply hc hinserts hdec hclient stats src
  refine ⟨fun stats data src msg hdec hclient hg h82 =>
    V4Task.inserts_subOpts hc hctx hon hvss hids hdec hclient hg h82 stats src, hpasses, ?_⟩
  intro henforces
  -- an offer without any Option 82 will do
  obtain ⟨bytes, -, hdec⟩ := hc.decode_encode V4.sampleOffer.withoutOption82
  obtain ⟨d, hsent, -, -⟩ := hpasses {} bytes V4.sampleClient _ hdec rfl
  have hechoed := henforces {} bytes V4.sampleClient _ hdec rfl (Option.isSome_of_eq_some hsent)
  rw [V4.Message.option82_withoutOption82] at hechoed
  simp at hechoed

end Echo

/-- The sample configuration with a circuit id does not enforce it either: what is asked for
comes, and so does whatever else is answered. -/
theorem sampleTask_echo_never_enforced :
    (∀ stats data src msg, V4.Wire.wire.decode data = .ok msg → V4.isClient msg = true →
        msg.giaddr = .unspecified → msg.option82 = none →
        ∃ d request,
          ((sampleTask (some "eth0") none).receive V4.Wire.wire stats data src).2 = some d
          ∧ V4.Wire.wire.decode d.payload = .ok request
          ∧ request.option82.map V4.Option82.subOpts = some [⟨1, "eth0".toUTF8.toList⟩])
      ∧ ¬ (sampleTask (some "eth0") none).EnforcesEcho V4.Wire.wire
        (sampleConfig (some "eth0") none) := by
  obtain ⟨hinserts, -, hnever⟩ := V4Task.echo_never_enforced V4.Wire.wire_lawful
    (sampleAgent_new (some "eth0") none) (sampleAgent_spawn (some "eth0") none)
    List.mem_cons_self rfl rfl (.inl rfl)
  exact ⟨hinserts, hnever⟩

/-- An offer whose Option 82 is not what this relay inserts is sent on all the same. -/
theorem sampleOffer_forged_sent :
    V4.Wire.wire.Lawful
      ∧ RelayAgent.new (sampleConfig (some "eth0") none) = .ok (sampleAgent (some "eth0") none)
      ∧ (sampleAgent (some "eth0") none).spawnV4Tasks (fun _ => .ok ())
        = .ok [sampleTask (some "eth0") none]
      ∧ (sampleConfig (some "eth0") none).dhcpv4.enableOption82 = true
      ∧ (sampleConfig (some "eth0") none).dhcpv4.vss.enabled = false
      ∧ V4.Wire.wire.decode (V4.Wire.writeMessage V4.sampleOffer) = .ok V4.sampleOffer
      ∧ V4.isClient V4.sampleOffer = false
      ∧ ((sampleTask (some "eth0") none).receive V4.Wire.wire {}
          (V4.Wire.writeMessage V4.sampleOffer) (.new (.v4 ⟨192, 0, 2, 1⟩) 67)).2.isSome
      ∧ V4.sampleOffer.option82.map V4.Option82.subOpts
        ≠ some (sampleConfig (some "eth0") none).subOpts := by
  have hdec : V4.Wire.wire.decode (V4.Wire.writeMessage V4.sampleOffer) = .ok V4.sampleOffer :=
    V4.Wire.decode_writeMessage (by decide +kernel)
  have hon : (sampleTask (some "eth0") none).ctx.enableOption82 = true := rfl
  obtain ⟨d, hsent, -, -⟩ :=
    V4Task.sends_reply V4.Wire.wire_lawful hon hdec rfl {} (.new (.v4 ⟨192, 0, 2, 1⟩) 67)
  exact ⟨V4.Wire.wire_lawful, sampleAgent_new _ _, sampleAgent_spawn _ _, rfl, rfl, hdec, rfl,
    Option.isSome_of_eq_some hsent, by decide +kernel⟩

end DhcpRelay
