import DhcpRelay.AgentV4Loop

/-!
# DhcpRelay.AgentV4Sent

**Where a DHCPv4 task sends what it sends, and how long that is.** Two checks are not
made. The direction of a message is read off its message type and not off its opcode, so
a request of any other type, or of none, is sent out to the clients. And nobody compares
a datagram with `max_packet_size`.
-/

namespace DhcpRelay

open DhcpRelay.Library

/-! ### Direction -/

/-- The addresses that replies are sent to. -/
def V4.ClientSide (msg : V4.Message) (addr : SocketAddr) : Prop :=
  addr = .new (.v4 msg.ciaddr) 68 ∨ addr = .new (.v4 .broadcast) 68

/-- What is sent for a request goes to the server and to no client; what is sent for a
reply does not go to the server. -/
structure V4Task.Directed (task : V4Task) (msg : V4.Message) (sent : Option Datagram) : Prop where
  request : msg.opcode = .bootRequest → ∀ d, sent = some d →
    d.dst = task.serverAddr ∧ ¬ V4.ClientSide msg d.dst
  reply : msg.opcode = .bootReply → ∀ d, sent = some d → d.dst ≠ task.serverAddr

/-- The message type agrees with the opcode, as far as it matters: a request has the type
of a client's message, and a reply has not, or else it is not relayed. The server is not
at an address of the client's side. -/
structure V4Task.TypeAgrees (task : V4Task) (msg : V4.Message) : Prop where
  request : msg.opcode = .bootRequest → V4.isClient msg = true
    ∧ (task.requestArgs.Relays false msg → ¬ V4.ClientSide msg task.serverAddr)
  reply : msg.opcode = .bootReply →
    (V4.isClient msg = true → ¬ task.requestArgs.Relays false msg)
      ∧ (V4.isClient msg = false →
        task.serverAddr ≠ .new (.v4 (if msg.ciaddr = .unspecified then .broadcast
          else msg.ciaddr)) 68)

section

variable {proto : V4.Codec} {config : RelayConfig} {agent : RelayAgent}
  {bind : SocketAddr → Except String Unit} {tasks : List V4Task} {task : V4Task}
  {msg : V4.Message} {data : Bytes}

theorem V4.clientSide_replyAddr (msg : V4.Message) : V4.ClientSide msg (V4.replyAddr msg) := by
  unfold V4.replyAddr
  split
  · exact .inl rfl
  · exact .inr rfl

theorem V4.replyAddr_eq (msg : V4.Message) :
    V4.replyAddr msg
      = .new (.v4 (if msg.ciaddr = .unspecified then .broadcast else msg.ciaddr)) 68 := by
  unfold V4.replyAddr
  by_cases hunset : msg.ciaddr = .unspecified
  · rw [if_neg (not_not.mpr hunset), if_pos hunset]
  · rw [if_pos hunset, if_neg hunset]

theorem V4Task.directed_none : task.Directed msg none where
  request := by simp
  reply := by simp

theorem V4Task.directed_some_iff {d : Datagram} :
    task.Directed msg (some d)
      ↔ (msg.opcode = .bootRequest → d.dst = task.serverAddr ∧ ¬ V4.ClientSide msg d.dst)
        ∧ (msg.opcode = .bootReply → d.dst ≠ task.serverAddr) := by
  constructor
  · intro h
    exact ⟨fun hop => h.request hop d rfl, fun hop => h.reply hop d rfl⟩
  · intro h
    obtain ⟨hrequest, hreply⟩ := h
    constructor
    · intro hop d' hd'
      obtain rfl := Option.some.inj hd'
      exact hrequest hop
    · intro hop d' hd'
      obtain rfl := Option.some.inj hd'
      exact hreply hop

/-- **Messages go in the right direction exactly where the type agrees with the opcode.**
All others that are relayed go the wrong way. -/
theorem V4Task.directed_iff (hc : proto.Lawful) (hnew : RelayAgent.new config = .ok agent)
    (hspawn : agent.spawnV4Tasks bind = .ok tasks) (htask : task ∈ tasks)
    (hdec : proto.decode data = .ok msg) (stats : RelayStats) (src : SocketAddr) :
    task.Directed msg (task.receive proto stats data src).2 ↔ task.TypeAgrees msg := by
  have hvss : task.requestArgs.VssAccepted := (RelayAgent.spawned_inv hnew hspawn htask).2
  cases hclient : V4.isClient msg with
  | true =>
      by_cases hrelays : task.requestArgs.Relays false msg
      · -- to the server
        obtain ⟨d, -, hsent, hdst, -⟩ :=
          V4Task.sent_of_relays hc hvss hdec hclient hrelays stats src
        rw [hsent, directed_some_iff, hdst]
        constructor
        · intro h
          exact ⟨fun hop => ⟨hclient, fun _ => (h.1 hop).2⟩, fun hop => absurd rfl (h.2 hop)⟩
        · intro h
          exact ⟨fun hop => ⟨rfl, (h.request hop).2 hrelays⟩,
            fun hop => absurd hrelays ((h.reply hop).1 hclient)⟩
      · -- to nobody
        rw [V4Task.sent_of_not_relays hc hdec hclient hrelays stats src]
        refine ⟨fun _ => ⟨fun _ => ⟨hclient, fun h => absurd h hrelays⟩, fun _ => ?_⟩,
          fun _ => directed_none⟩
        exact ⟨fun _ => hrelays, fun hserver => by simp [hclient] at hserver⟩
  | false =>
      -- to the client, or to everyone
      obtain ⟨d, hsent, hdst, -⟩ := V4Task.passes_reply hc hdec hclient stats src
      rw [hsent, directed_some_iff, hdst]
      constructor
      · intro h
        refine ⟨fun hop => absurd (V4.clientSide_replyAddr msg) (h.1 hop).2, fun hop => ?_⟩
        exact ⟨fun htype => by simp [hclient] at htype,
          fun _ => V4.replyAddr_eq msg ▸ (h.2 hop).symm⟩
      · intro h
        refine ⟨fun hop => ?_, fun hop => V4.replyAddr_eq msg ▸ ((h.reply hop).2 hclient).symm⟩
        have hfromClient := (h.request hop).1
        simp [hclient] at hfromClient

end

/-- A discover goes to the server. -/
theorem sampleDiscover_directed :
    sampleServerTask.Directed V4.sampleDiscover (sampleServerTask.receive V4.Wire.wire {}
      (V4.Wire.writeMessage V4.sampleDiscover) V4.sampleClient).2 := by
  have hnew : RelayAgent.new sampleServerConfig = .ok ⟨sampleServerConfig, {}⟩ := rfl
  have hspawn : (RelayAgent.mk sampleServerConfig {}).spawnV4Tasks (fun _ => .ok ())
      = .ok [sampleServerTask] := sampleInterface_spawn rfl
  have hserver : ¬ V4.ClientSide V4.sampleDiscover sampleServerTask.serverAddr := by
    unfold V4.ClientSide
    decide +kernel
  refine (V4Task.directed_iff V4.Wire.wire_lawful hnew hspawn List.mem_cons_self
    V4.sampleDiscover_decode {} V4.sampleClient).mpr ⟨?_, ?_⟩
  · exact fun _ => ⟨rfl, fun _ => hserver⟩
  · intro hop
    exact absurd hop (by decide)

/-- A request without a message type. -/
def sampleUntyped : V4.Message where
  xid := 7

/-- It is sent out to all clients. -/
theorem sampleUntyped_reflected :
    V4.Wire.wire.Lawful
      ∧ RelayAgent.new sampleServerConfig = .ok ⟨sampleServerConfig, {}⟩
      ∧ (RelayAgent.mk sampleServerConfig {}).spawnV4Tasks (fun _ => .ok ())
        = .ok [sampleServerTask]
      ∧ V4.Wire.wire.decode (V4.Wire.writeMessage sampleUntyped) = .ok sampleUntyped
      ∧ sampleUntyped.opcode = .bootRequest
      ∧ ∃ d, (sampleServerTask.receive V4.Wire.wire {} (V4.Wire.writeMessage sampleUntyped)
            V4.sampleClient).2 = some d
          ∧ d.dst = .new (.v4 ⟨255, 255, 255, 255⟩) 68 ∧ d.dst ≠ sampleServerTask.serverAddr := by
  have hdec : V4.Wire.wire.decode (V4.Wire.writeMessage sampleUntyped) = .ok sampleUntyped :=
    V4.Wire.decode_writeMessage (by decide +kernel)
  have hother : V4.replyAddr sampleUntyped ≠ sampleServerTask.serverAddr := by decide +kernel
  have hclient : V4.isClient sampleUntyped = false := rfl
  obtain ⟨d, hsent, hdst, -⟩ : ∃ d, (sampleServerTask.receive V4.Wire.wire {}
      (V4.Wire.writeMessage sampleUntyped) V4.sampleClient).2 = some d
        ∧ d.dst = V4.replyAddr sampleUntyped ∧ _ :=
    V4Task.passes_reply V4.Wire.wire_lawful hdec hclient {} V4.sampleClient
  exact ⟨V4.Wire.wire_lawful, rfl, sampleInterface_spawn rfl, hdec, rfl, d, hsent, hdst,
    hdst ▸ hother⟩

/-! ### Length -/

section

variable {proto : V4.Codec} {config : RelayConfig} {agent : RelayAgent}
  {bind : SocketAddr → Except String Unit} {tasks : List V4Task} {task : V4Task}
  {msg : V4.Message} {data : Bytes}

/-- What a task relays is the encoding of the relayed message. -/
theorem V4Task.sends_relayed (hc : proto.Lawful) (hvss : task.requestArgs.VssAccepted)
    (hdec : proto.decode data = .ok msg) (hclient : V4.isClient msg = true)
    (h : task.requestArgs.Relays false msg) (stats : RelayStats) (src : SocketAddr) :
    ∃ bytes, proto.encode (task.requestArgs.relayed msg) = .ok bytes
      ∧ (task.receive proto stats data src).2 = some ⟨bytes, task.serverAddr⟩ := by
  have hdelivers : Delivers proto ((V4.buildRequest proto task.requestArgs).execute
      (.new data src task.ifaceName)) task.serverAddr (task.requestArgs.relayed msg) :=
    V4.request_relays hc hvss hdec h
  rw [V4Task.receive_client hdec hclient, handleV4Client_sent hdelivers]
  exact ⟨_, V4.request_encoded hc hdelivers, rfl⟩

/-- **No relayed datagram is held back for its length.** The limit is kept exactly where
the relayed message happens to stay below it. -/
theorem V4Task.withinLimit_iff (hc : proto.Lawful) (hnew : RelayAgent.new config = .ok agent)
    (hspawn : agent.spawnV4Tasks bind = .ok tasks) (htask : task ∈ tasks)
    (hdec : proto.decode data = .ok msg) (hclient : V4.isClient msg = true) (stats : RelayStats)
    (src : SocketAddr) :
    (data.length ≤ config.maxPacketSize →
        ∀ d, (task.receive proto stats data src).2 = some d →
          d.payload.length ≤ config.maxPacketSize)
      ↔ (data.length ≤ config.maxPacketSize → task.requestArgs.Relays false msg →
        ∀ bytes, proto.encode (task.requestArgs.relayed msg) = .ok bytes →
          bytes.length ≤ config.maxPacketSize) := by
  have hvss : task.requestArgs.VssAccepted := (RelayAgent.spawned_inv hnew hspawn htask).2
  refine imp_congr_right fun _ => ?_
  by_cases hrelays : task.requestArgs.Relays false msg
  · obtain ⟨bytes, hencode, hsent⟩ := V4Task.sends_relayed hc hvss hdec hclient hrelays stats src
    rw [hsent, hencode]
    constructor
    · intro h _ bytes' hbytes'
      obtain rfl := Except.ok.inj hbytes'
      exact h _ rfl
    · intro h d hd
      obtain rfl := Option.some.inj hd
      exact h hrelays _ rfl
  · rw [V4Task.sent_of_not_relays hc hdec hclient hrelays stats src]
    exact ⟨fun _ h => absurd h hrelays, fun _ d hd => by simp at hd⟩

end

/-- The sample configuration with a server and a limit. -/
def sampleLimitConfig (limit : Nat) : RelayConfig :=
  { sampleServerConfig with maxPacketSize := limit }

def sampleLimitTask (limit : Nat) : V4Task :=
  .mkFor (sampleLimitConfig limit) sampleInterface sampleBindAddr

theorem sampleLimit_spawn (limit : Nat) :
    (RelayAgent.mk (sampleLimitConfig limit) {}).spawnV4Tasks (fun _ => .ok ())
      = .ok [sampleLimitTask limit] := sampleInterface_spawn rfl

/-- What the sample task relays for the sample discover. -/
def sampleDiscoverRelayed : Bytes :=
  V4.Wire.writeMessage ((sampleLimitTask 0).requestArgs.relayed V4.sampleDiscover)

theorem sampleDiscoverRelayed_encode (limit : Nat) :
    V4.Wire.wire.encode ((sampleLimitTask limit).requestArgs.relayed V4.sampleDiscover)
      = .ok sampleDiscoverRelayed := by
  -- the limit is not among the arguments of the pipeline
  change V4.Wire.wire.encode ((sampleLimitTask 0).requestArgs.relayed V4.sampleDiscover) = _
  exact V4.Wire.encode_writeMessage (by decide +kernel)

theorem sampleDiscover_sent (limit : Nat) :
    ((sampleLimitTask limit).receive V4.Wire.wire {} (V4.Wire.writeMessage V4.sampleDiscover)
        V4.sampleClient).2
      = some ⟨sampleDiscoverRelayed, (sampleLimitTask limit).serverAddr⟩ := by
  have hnew : RelayAgent.new (sampleLimitConfig limit) = .ok ⟨sampleLimitConfig limit, {}⟩ := rfl
  have hvss : (sampleLimitTask limit).requestArgs.VssAccepted :=
    (RelayAgent.spawned_inv hnew (sampleLimit_spawn limit) List.mem_cons_self).2
  have hrelays : (sampleLimitTask limit).requestArgs.Relays false V4.sampleDiscover :=
    fun _ => .inl rfl
  obtain ⟨bytes, hencode, hsent⟩ := V4Task.sends_relayed V4.Wire.wire_lawful hvss
    V4.sampleDiscover_decode rfl hrelays {} V4.sampleClient
  rw [sampleDiscoverRelayed_encode] at hencode
  obtain rfl := Except.ok.inj hencode
  exact hsent

/-- Below the default limit there is room for Option 82. -/
theorem sampleDiscover_withinLimit :
    ∃ d, ((sampleLimitTask 1500).receive V4.Wire.wire {}
          (V4.Wire.writeMessage V4.sampleDiscover) V4.sampleClient).2 = some d
      ∧ d.payload.length ≤ (sampleLimitConfig 1500).maxPacketSize := by
  have hnew : RelayAgent.new (sampleLimitConfig 1500) = .ok ⟨sampleLimitConfig 1500, {}⟩ := rfl
  have hsent := sampleDiscover_sent 1500
  refine ⟨_, hsent, ?_⟩
  refine (V4Task.withinLimit_iff V4.Wire.wire_lawful hnew (sampleLimit_spawn 1500)
    List.mem_cons_self V4.sampleDiscover_decode rfl {} V4.sampleClient).mpr ?_
      (by decide +kernel) _ hsent
  intro _ _ bytes hbytes
  rw [sampleDiscoverRelayed_encode] at hbytes
  obtain rfl := Except.ok.inj hbytes
  decide +kernel

/-- Where the discover itself is as long as the limit allows, it is sent on too long. -/
theorem sampleDiscover_oversized :
    V4.Wire.wire.Lawful
      ∧ RelayAgent.new (sampleLimitConfig 244) = .ok ⟨sampleLimitConfig 244, {}⟩
      ∧ (RelayAgent.mk (sampleLimitConfig 244) {}).spawnV4Tasks (fun _ => .ok ())
        = .ok [sampleLimitTask 244]
      ∧ V4.Wire.wire.decode (V4.Wire.writeMessage V4.sampleDiscover) = .ok V4.sampleDiscover
      ∧ V4.isClient V4.sampleDiscover = true
      ∧ (V4.Wire.writeMessage V4.sampleDiscover).length ≤ (sampleLimitConfig 244).maxPacketSize
      ∧ ∃ d, ((sampleLimitTask 244).receive V4.Wire.wire {}
            (V4.Wire.writeMessage V4.sampleDiscover) V4.sampleClient).2 = some d
          ∧ ¬ d.payload.length ≤ (sampleLimitConfig 244).maxPacketSize := by
  have hnew : RelayAgent.new (sampleLimitConfig 244) = .ok ⟨sampleLimitConfig 244, {}⟩ := rfl
  have hsent := sampleDiscover_sent 244
  exact ⟨V4.Wire.wire_lawful, hnew, sampleLimit_spawn 244, V4.sampleDiscover_decode, rfl,
    by decide +kernel, _, hsent, by decide +kernel⟩

end DhcpRelay
