import DhcpRelay.Agent
import DhcpRelay.V6.Envelope

/-!
# DhcpRelay.AgentV6

**What the DHCPv6 handlers of a running agent send.** A client's address travels to
the server and back in the peer-address field; the handler of replies does not look
at that field but sends to whoever the reply came from, which is the server.
-/

namespace DhcpRelay

open DhcpRelay.Library

section Client

variable {proto : V6.Codec} {data : Bytes} {src serverAddr : SocketAddr} {ifaceName : String}
  {remoteId : Bytes} {vssCfg : Option VssConfig} {enableInterfaceId enableRemoteId : Bool}
  {localAddr : Option SocketAddr} {stats : RelayStats} {d : Datagram}

/-- What the client handler sends is what its pipeline leaves. -/
theorem handleV6Client_run
    (h : (handleV6Client proto data src ifaceName remoteId serverAddr vssCfg enableInterfaceId
      enableRemoteId localAddr stats).2 = some d) :
    ∃ ctx', (V6.buildRequest proto {
          ifaceName := ifaceName
          remoteId := remoteId
          linkAddr := linkAddrOf localAddr
          peerAddr := src
          serverAddr := serverAddr
          vssConfig := vssCfg
          enableInterfaceId := enableInterfaceId
          enableRemoteId := enableRemoteId }).execute (.new data src ifaceName)
        = (.ok true, ctx')
      ∧ ctx'.outgoing = some d := by
  unfold handleV6Client at h
  dsimp only at h
  split at h
  · next ctx hrun => exact ⟨ctx, hrun, h⟩
  · simp at h
  · simp at h

/-- It is wrapped with the address of the client. -/
theorem handleV6Client_inv
    (h : (handleV6Client proto data src ifaceName remoteId serverAddr vssCfg enableInterfaceId
      enableRemoteId localAddr stats).2 = some d) :
    ∃ wrapped, d.payload = V6.RelayFwd.encapsulate wrapped (linkAddrOf localAddr) src
      ∧ d.dst = serverAddr := by
  obtain ⟨ctx, hrun, hout⟩ := handleV6Client_run h
  obtain ⟨edited, -, hbuffer, hdst⟩ := V6.request_wrapped hrun
  rw [PipelineContext.outgoing, hdst] at hout
  obtain rfl : _ = d := Option.some.inj hout
  exact ⟨edited.buffer, hbuffer, rfl⟩

end Client

/-- The server handler sends the payload of a reply, to the sender of the reply. -/
theorem handleV6Server_of_singleLayer {proto : V6.Codec} {data payload : Bytes}
    {msg inner : V6.Message} {peer : Ipv6Addr}
    (hreply : V6.RelayFwd.SingleLayer data peer payload) (hdec : proto.decode data = .ok msg)
    (hinner : proto.decode payload = .ok inner) (src : SocketAddr) (ifaceName : String)
    (vssCfg : Option VssConfig) (stats : RelayStats) :
    (handleV6Server proto data src ifaceName vssCfg stats).2 = some ⟨payload, src⟩ := by
  let ctx : PipelineContext := .new data src ifaceName
  obtain ⟨bag, hrun⟩ : ∃ bag, (V6.buildReply proto src vssCfg).execute ctx
      = (.ok true, { ctx with buffer := payload, dstAddr := some src, metadata := bag }) :=
    V6.reply_unwrapped hreply hdec hinner src vssCfg
  rw [handleV6Server, hrun]
  rfl

/-- **A reply goes back to its sender**, and so to the client exactly where the client sent it
itself. The reply to a request of the client `client`, received from `server`, carries
`payload` and the peer-address that was sent; the payload is sent on, but to `server`. -/
theorem reply_reaches_client_iff {proto : V6.Codec} {request reply payload : Bytes}
    {client server serverAddr : SocketAddr} {clientIp peer : Ipv6Addr}
    {msg inner : V6.Message} {remoteId : Bytes} {enableInterfaceId enableRemoteId : Bool}
    {localAddr : Option SocketAddr} {forwarded : Datagram} {ifaceName ifaceName' : String}
    {vssCfg vssCfg' : Option VssConfig} {stats stats' : RelayStats}
    (hclient : client.ip = .v6 clientIp)
    (hforwarded : (handleV6Client proto request client ifaceName remoteId serverAddr vssCfg
      enableInterfaceId enableRemoteId localAddr stats).2 = some forwarded)
    (hreply : V6.RelayFwd.SingleLayer reply peer payload)
    (hpeer : (reply.drop 18).take 16 = (forwarded.payload.drop 18).take 16)
    (hdec : proto.decode reply = .ok msg) (hinner : proto.decode payload = .ok inner) :
    (handleV6Server proto reply server ifaceName' vssCfg' stats').2.isSome
      ∧ ((∀ sent, (handleV6Server proto reply server ifaceName' vssCfg' stats').2 = some sent →
            sent.payload = payload ∧ sent.dst.ip = client.ip ∧ sent.dst.ip = .v6 peer
              ∧ (server ≠ client → sent.dst ≠ server))
          ↔ server = client) := by
  obtain ⟨wrapped, hwrapped, -⟩ := handleV6Client_inv hforwarded
  have hpeerIp : peer = clientIp := by
    rw [hreply.peerAddr, hwrapped, V6.RelayFwd.encapsulate_peer,
      V6.RelayFwd.peerIp_of_v6 hclient] at hpeer
    exact Ipv6Addr.ext_octets hpeer
  have hsent := handleV6Server_of_singleLayer hreply hdec hinner server ifaceName' vssCfg' stats'
  rw [hsent]
  refine ⟨rfl, ?_⟩
  constructor
  · intro h
    obtain ⟨-, -, -, hnever⟩ := h _ rfl
    by_contra hne
    exact hnever hne rfl
  · rintro rfl sent hsome
    obtain rfl : _ = sent := Option.some.inj hsome
    exact ⟨rfl, rfl, by rw [hclient, hpeerIp], fun hne => absurd rfl hne⟩

/-! ### Lengths -/

/-- **No length is wrapped exactly as long as what is relayed fits the field**: the
datagram itself where no option is enabled, or else the encoding of the client's message
with the options put in. -/
theorem V6Task.request_lengthExact_iff {proto : V6.Codec} {config : RelayConfig}
    {agent : RelayAgent} {bind : SocketAddr → Except String Unit} {tasks : List V6Task}
    {task : V6Task} (hc : proto.Lawful) (hnew : RelayAgent.new config = .ok agent)
    (hspawn : agent.spawnV6Tasks bind = .ok tasks) (htask : task ∈ tasks) (data : Bytes)
    (localAddr : Option SocketAddr) (src : SocketAddr) :
    (∀ ctx', (V6.buildRequest proto (task.requestArgs localAddr src)).execute
          (.new data src task.ifaceName) = (.ok true, ctx') → V6.LengthExact ctx'.buffer)
      ↔ ∀ msg payload, proto.decode data = .ok msg →
          V6.relayed proto data msg (task.requestArgs localAddr src).added = .ok payload →
          payload.length ≤ 65535 := by
  have haccepted : (task.requestArgs localAddr src).VssAccepted :=
    (RelayAgent.spawnedV6_inv hnew hspawn htask).2
  cases hdec : proto.decode data with
  | error e =>
      have hfailed := V6.request_of_undecodable (task.requestArgs localAddr src) hdec src
        task.ifaceName
      constructor
      · intro _ msg payload hmsg
        simp at hmsg
      · intro _ ctx' hrun
        rw [hrun] at hfailed
        simp at hfailed
  | ok msg =>
      obtain ⟨ctx', payload, hrun, -, hbuffer, hrelayed, -⟩ :=
        V6.request_run hc haccepted hdec src task.ifaceName
      constructor
      · intro h msg' payload' hmsg hrelayed'
        obtain rfl : msg = msg' := Except.ok.inj hmsg
        obtain rfl : payload = payload' := Except.ok.inj (hrelayed.symm.trans hrelayed')
        have hexact := h ctx' hrun
        rw [hbuffer] at hexact
        exact V6.lengthExact_encapsulate_iff.mp hexact
      · intro h ctx'' hrun'
        obtain rfl : ctx' = ctx'' := congrArg Prod.snd (hrun.symm.trans hrun')
        rw [hbuffer]
        exact V6.lengthExact_encapsulate_iff.mpr (h msg payload rfl hrelayed)

/-- A relay that puts this remote id, and nothing else, into its requests. -/
def remoteIdConfig (remoteId : Bytes) : RelayConfig where
  interfaces := [{ name := "eth0", ipAddr := "10.0.0.1:67" }]
  dhcpv6 := { remoteId := some remoteId, enableInterfaceId := false }

def remoteIdAgent (remoteId : Bytes) : RelayAgent where
  config := remoteIdConfig remoteId
  stats := {}

def remoteIdTask (remoteId : Bytes) : V6Task :=
  .mkFor (remoteIdConfig remoteId) { name := "eth0", ipAddr := "10.0.0.1:67" }
    (.v4 ⟨10, 0, 0, 1⟩ 547)

theorem remoteIdAgent_new (remoteId : Bytes) :
    RelayAgent.new (remoteIdConfig remoteId) = .ok (remoteIdAgent remoteId) := rfl

theorem remoteIdAgent_spawn (remoteId : Bytes) :
    (remoteIdAgent remoteId).spawnV6Tasks (fun _ => .ok ()) = .ok [remoteIdTask remoteId] := by
  have hparse : SocketAddr.parse (beforeColon "10.0.0.1:67".toList ++ [':', '5', '4', '7'])
      = some (.v4 ⟨10, 0, 0, 1⟩ 547) := by decide +kernel
  have htask : V6Task.spawn (remoteIdConfig remoteId) (fun _ => .ok ())
      { name := "eth0", ipAddr := "10.0.0.1:67" } = .ok (remoteIdTask remoteId) := by
    rw [V6Task.spawn, hparse]
    rfl
  have hlist : (remoteIdAgent remoteId).config.interfaces.filter (·.enabled)
      = [{ name := "eth0", ipAddr := "10.0.0.1:67" }] := rfl
  have hconfig : (remoteIdAgent remoteId).config = remoteIdConfig remoteId := rfl
  rw [RelayAgent.spawnV6Tasks, hlist, hconfig, List.mapM_cons, htask]
  rfl

/-! ### A sample exchange -/

def sampleClientV6 : SocketAddr := .new (.v6 (.ofSegments [0xfe80, 0, 0, 0, 0, 0, 0, 7])) 546

def sampleServerV6 : SocketAddr := .new (.v6 (.ofSegments [0x2001, 0xdb8, 0, 0, 0, 0, 0, 1])) 547

/-- SOLICIT, with transaction id 1. -/
def sampleSolicit : Bytes := [1, 0, 0, 1]

/-- The relay-message option with an ADVERTISE in it. -/
def sampleAdvertise : Library.Tlv.Item := ⟨V6.RelayFwd.optionRelayMsg, [2, 0, 0, 1], by decide⟩

/-- The server's answer, as it comes back to the relay. -/
def sampleRelayReply : Bytes :=
  V6.RelayFwd.replyBytes 0 .unspecified (.ofSegments [0xfe80, 0, 0, 0, 0, 0, 0, 7])
    (Library.Tlv.writeAll [] ++ (sampleAdvertise.toBytes ++ []))

theorem sampleRelayReply_singleLayer :
    V6.RelayFwd.SingleLayer sampleRelayReply (.ofSegments [0xfe80, 0, 0, 0, 0, 0, 0, 7])
      [2, 0, 0, 1] :=
  V6.RelayFwd.singleLayer_replyBytes (by simp) rfl (by decide) 0 .unspecified _ []

/-- What the client handler sends for `sampleSolicit`. -/
def sampleForwarded : Datagram where
  payload := V6.RelayFwd.encapsulate sampleSolicit .unspecified sampleClientV6
  dst := sampleServerV6

theorem sampleSolicit_decode :
    V6.Wire.wire.decode sampleSolicit = .ok { msgType := .solicit, xid := #v[0, 0, 1] } := rfl

/-- The solicit with one option more. -/
theorem sampleSolicit_encode {remoteId : Bytes} (hfits : remoteId.length < 65536) :
    V6.Wire.wire.encode { msgType := .solicit, xid := #v[0, 0, 1]
                          opts := .insert .empty (V6.RemoteId.encode remoteId) }
      = .ok ([1, 0, 0, 1] ++ V6.Wire.writeOption (V6.RemoteId.encode remoteId)) :=
  V6.Wire.encode_single (by decide) rfl hfits rfl

/-- What the relay makes of the solicit. -/
theorem remoteIdTask_run (remoteId : Bytes) :
    ∃ ctx' payload, (V6.buildRequest V6.Wire.wire ((remoteIdTask remoteId).requestArgs none
          sampleClientV6)).execute (.new sampleSolicit sampleClientV6 "eth0") = (.ok true, ctx')
      ∧ ctx'.buffer = V6.RelayFwd.encapsulate payload .unspecified sampleClientV6
      ∧ V6.Wire.wire.encode { msgType := .solicit, xid := #v[0, 0, 1]
                              opts := .insert .empty (V6.RemoteId.encode remoteId) }
        = .ok payload := by
  have haccepted : ((remoteIdTask remoteId).requestArgs none sampleClientV6).VssAccepted :=
    (RelayAgent.spawnedV6_inv (remoteIdAgent_new remoteId) (remoteIdAgent_spawn remoteId)
      List.mem_cons_self).2
  obtain ⟨ctx', payload, hrun, -, hbuffer, hrelayed, -⟩ :=
    V6.request_run V6.Wire.wire_lawful haccepted sampleSolicit_decode sampleClientV6 "eth0"
  exact ⟨ctx', payload, hrun, hbuffer, hrelayed⟩

/-- With a remote id of 65535 bytes the length of the relay-message is wrapped. -/
theorem remoteIdTask_wraps {remoteId : Bytes} (h : remoteId.length = 65535) :
    ∃ ctx', (V6.buildRequest V6.Wire.wire ((remoteIdTask remoteId).requestArgs none
          sampleClientV6)).execute (.new sampleSolicit sampleClientV6 "eth0") = (.ok true, ctx')
      ∧ ¬ V6.LengthExact ctx'.buffer := by
  obtain ⟨ctx', payload, hrun, hbuffer, hencode⟩ := remoteIdTask_run remoteId
  have hlength : (V6.RemoteId.encode remoteId).data.length = 65535 := h
  obtain rfl := Except.ok.inj ((sampleSolicit_encode (by omega)).symm.trans hencode)
  refine ⟨ctx', hrun, ?_⟩
  rw [hbuffer, V6.lengthExact_encapsulate_iff]
  simp [V6.Wire.writeOption, hlength]

theorem longRemoteId_wraps :
    RelayAgent.new (remoteIdConfig (List.replicate 65535 0))
        = .ok (remoteIdAgent (List.replicate 65535 0))
      ∧ (remoteIdAgent (List.replicate 65535 0)).spawnV6Tasks (fun _ => .ok ())
        = .ok [remoteIdTask (List.replicate 65535 0)]
      ∧ ∃ ctx', (V6.buildRequest V6.Wire.wire ((remoteIdTask
            (List.replicate 65535 0)).requestArgs none sampleClientV6)).execute
            (.new sampleSolicit sampleClientV6 "eth0") = (.ok true, ctx')
        ∧ ¬ V6.LengthExact ctx'.buffer :=
  ⟨remoteIdAgent_new _, remoteIdAgent_spawn _, remoteIdTask_wraps List.length_replicate⟩

/-- With a short one the length is exact. -/
theorem shortRemoteId_exact :
    ∃ ctx', (V6.buildRequest V6.Wire.wire ((remoteIdTask [7]).requestArgs none
        sampleClientV6)).execute (.new sampleSolicit sampleClientV6 "eth0") = (.ok true, ctx')
      ∧ V6.LengthExact ctx'.buffer := by
  obtain ⟨ctx', -, hrun, -⟩ := remoteIdTask_run [7]
  refine ⟨ctx', hrun, (V6Task.request_lengthExact_iff V6.Wire.wire_lawful (remoteIdAgent_new [7])
    (remoteIdAgent_spawn [7]) List.mem_cons_self sampleSolicit none sampleClientV6).mpr ?_
    ctx' hrun⟩
  intro msg payload hdec hrelayed
  obtain rfl := Except.ok.inj (sampleSolicit_decode.symm.trans hdec)
  obtain rfl := Except.ok.inj ((sampleSolicit_encode (by decide)).symm.trans hrelayed)
  decide

theorem sampleSolicit_forwarded :
    (handleV6Client V6.Wire.wire sampleSolicit sampleClientV6 "eth0" [] sampleServerV6 none false
      false none {}).2 = some sampleForwarded := by
  decide +kernel

/-- A reply that comes from the client's own socket goes back there, and so to the client. -/
theorem sampleRelayReply_returned :
    (handleV6Server V6.Wire.wire sampleRelayReply sampleClientV6 "eth0" none {}).2.isSome
      ∧ ∀ sent, (handleV6Server V6.Wire.wire sampleRelayReply sampleClientV6 "eth0" none
          {}).2 = some sent →
        sent.payload = [2, 0, 0, 1] ∧ sent.dst.ip = sampleClientV6.ip
          ∧ sent.dst.ip = .v6 (.ofSegments [0xfe80, 0, 0, 0, 0, 0, 0, 7]) := by
  obtain ⟨_, hdec⟩ := V6.Wire.decode_ok sampleRelayReply (by decide)
  obtain ⟨_, hinner⟩ := V6.Wire.decode_ok [2, 0, 0, 1] (by decide)
  obtain ⟨hsome, hiff⟩ := reply_reaches_client_iff rfl sampleSolicit_forwarded
    sampleRelayReply_singleLayer (by decide +kernel) hdec hinner
  refine ⟨hsome, fun sent hsent => ?_⟩
  obtain ⟨hpayload, hclient, hpeer, -⟩ := hiff.mpr rfl sent hsent
  exact ⟨hpayload, hclient, hpeer⟩

/-- Where the server is somewhere else, the reply goes back to the server. -/
theorem sampleRelayReply_misdirected :
    (handleV6Client V6.Wire.wire sampleSolicit sampleClientV6 "eth0" [] sampleServerV6 none false
        false none {}).2 = some sampleForwarded
      ∧ V6.RelayFwd.SingleLayer sampleRelayReply (.ofSegments [0xfe80, 0, 0, 0, 0, 0, 0, 7])
        [2, 0, 0, 1]
      ∧ (sampleRelayReply.drop 18).take 16 = (sampleForwarded.payload.drop 18).take 16
      ∧ (∃ msg, V6.Wire.wire.decode sampleRelayReply = .ok msg)
      ∧ (∃ inner, V6.Wire.wire.decode [2, 0, 0, 1] = .ok inner)
      ∧ (handleV6Server V6.Wire.wire sampleRelayReply sampleServerV6 "eth0" none {}).2
        = some ⟨[2, 0, 0, 1], sampleServerV6⟩
      ∧ sampleServerV6.ip ≠ sampleClientV6.ip := by
  obtain ⟨msg, hdec⟩ := V6.Wire.decode_ok sampleRelayReply (by decide)
  obtain ⟨inner, hinner⟩ := V6.Wire.decode_ok [2, 0, 0, 1] (by decide)
  exact ⟨sampleSolicit_forwarded, sampleRelayReply_singleLayer, by decide +kernel,
    ⟨msg, hdec⟩, ⟨inner, hinner⟩,
    handleV6Server_of_singleLayer sampleRelayReply_singleLayer hdec hinner
      sampleServerV6 "eth0" none {},
    by decide +kernel⟩

end DhcpRelay
