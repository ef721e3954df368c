import DhcpRelay.V4.Pipeline
import DhcpRelay.V6.Pipeline

/-!
# DhcpRelay.Agent

The running agent (`lib.rs`): its configuration, the packet handlers, the tasks it
spawns, and what a task does with one received datagram.

A handler returns the statistics it leaves behind and the datagram it hands to
`send_to`, if any; what becomes of that datagram is not looked at. The socket
layer is left to parameters: `bind`, the outcome of binding a socket, and
`localAddr`, the address a bound socket reports.
-/

namespace DhcpRelay

open DhcpRelay.Library

/-- The statistics counters. -/
structure RelayStats where
  packetsReceived : Nat := 0
  packetsForwarded : Nat := 0
  packetsDroppedParseError : Nat := 0
  packetsDroppedSpoof : Nat := 0
  option82Inserted : Nat := 0
  option82Stripped : Nat := 0
  vssNotSupported : Nat := 0
  smfDuplicatesDetected : Nat := 0
  smfForwarded : Nat := 0
  deriving DecidableEq

namespace RelayStats

def countReceived (stats : RelayStats) : RelayStats :=
  { stats with packetsReceived := stats.packetsReceived + 1 }

def countForwarded (stats : RelayStats) : RelayStats :=
  { stats with packetsForwarded := stats.packetsForwarded + 1 }

def countDroppedSpoof (stats : RelayStats) : RelayStats :=
  { stats with packetsDroppedSpoof := stats.packetsDroppedSpoof + 1 }

def countStripped (stats : RelayStats) : RelayStats :=
  { stats with option82Stripped := stats.option82Stripped + 1 }

end RelayStats

/-- A datagram given to `send_to`. -/
structure Datagram where
  payload : Bytes
  dst : SocketAddr
  deriving DecidableEq

/-- `if let Some(dst) = ctx.dst_addr { transport.send_to(&ctx.buffer, dst) }`. -/
def PipelineContext.outgoing (ctx : PipelineContext) : Option Datagram :=
  ctx.dstAddr.map (Datagram.mk ctx.buffer)

/-! ### The handlers -/

/-- `handle_v4_client`. `args` are the arguments it passes on to `build_request`. -/
def handleV4Client (proto : V4.Codec) (data : Bytes) (src : SocketAddr) (ifaceName : String)
    (args : V4.RequestArgs) (stats : RelayStats) : RelayStats × Option Datagram :=
  match (V4.buildRequest proto args).execute (.new data src ifaceName) with
  | (.ok true, ctx) => (stats.countForwarded, ctx.outgoing)
  | (.ok false, _) => (stats, none)
  -- any error at all is counted as a spoof
  | (.error _, _) => (stats.countDroppedSpoof, none)

/-- `handle_v4_server`. -/
def handleV4Server (proto : V4.Codec) (data : Bytes) (src : SocketAddr) (ifaceName : String)
    (expectedSubOpts : Option (List V4.Option82.SubOption)) (vssCfg : Option VssConfig)
    (enableOption82 : Bool) (stats : RelayStats) : RelayStats × Option Datagram :=
  match (V4.buildReply proto expectedSubOpts vssCfg enableOption82).execute
      (.new data src ifaceName) with
  | (.ok true, ctx) => (stats.countForwarded.countStripped, ctx.outgoing)
  | (.ok false, _) => (stats, none)
  | (.error _, _) => (stats, none)

/-- The link address `handle_v6_client` writes: that of the socket, if it is one of IPv6. -/
def linkAddrOf (localAddr : Option SocketAddr) : Ipv6Addr :=
  match localAddr.map SocketAddr.ip with
  | some (.v6 ip) => ip
  | _ => .unspecified

/-- `handle_v6_client`. -/
def handleV6Client (proto : V6.Codec) (data : Bytes) (src : SocketAddr) (ifaceName : String)
    (remoteId : Bytes) (serverAddr : SocketAddr) (vssCfg : Option VssConfig)
    (enableInterfaceId enableRemoteId : Bool) (localAddr : Option SocketAddr)
    (stats : RelayStats) : RelayStats × Option Datagram :=
  let args : V6.RequestArgs := {
    ifaceName := ifaceName
    remoteId := remoteId
    linkAddr := linkAddrOf localAddr
    peerAddr := src
    serverAddr := serverAddr
    vssConfig := vssCfg
    enableInterfaceId := enableInterfaceId
    enableRemoteId := enableRemoteId }
  match (V6.buildRequest proto args).execute (.new data src ifaceName) with
  | (.ok true, ctx) => (stats.countForwarded, ctx.outgoing)
  | (.ok false, _) => (stats, none)
  | (.error _, _) => (stats, none)

/-- `handle_v6_server`. The address it passes to `build_reply` is that of the sender. -/
def handleV6Server (proto : V6.Codec) (data : Bytes) (src : SocketAddr) (ifaceName : String)
    (vssCfg : Option VssConfig) (stats : RelayStats) : RelayStats × Option Datagram :=
  match (V6.buildReply proto src vssCfg).execute (.new data src ifaceName) with
  | (.ok true, ctx) => (stats.countForwarded, ctx.outgoing)
  | (.ok false, _) => (stats, none)
  | (.error _, _) => (stats, none)

/-! ### The agent -/

/-- The relay agent: the configuration it was made from and its statistics. -/
structure RelayAgent where
  config : RelayConfig
  stats : RelayStats

/-- Create a new relay agent from the given configuration. -/
def RelayAgent.new (config : RelayConfig) : RelayResult RelayAgent := do
  config.validate
  return { config := config, stats := {} }

/-- What all DHCPv4 tasks share. -/
structure V4SpawnContext where
  enableOption82 : Bool
  vssEnabled : Bool
  vssCfg : VssConfig
  circuitId : Option Bytes
  remoteId : Option Bytes
  localAddrs : List Ipv4Addr

/-- `V4SpawnContext::from_inner`. Interfaces without an IPv4 address contribute no
local address. -/
def V4SpawnContext.fromInner (config : RelayConfig) : V4SpawnContext where
  enableOption82 := config.dhcpv4.enableOption82
  vssEnabled := config.dhcpv4.vss.enabled
  vssCfg := config.dhcpv4.vss
  circuitId := config.dhcpv4.circuitId.map fun s => s.toUTF8.toList
  remoteId := config.dhcpv4.remoteId.map fun s => s.toUTF8.toList
  localAddrs := config.interfaces.filterMap fun i => Ipv4Addr.parse (beforeColon i.ipAddr.toList)

/-- What all DHCPv6 tasks share. -/
structure V6SpawnContext where
  enableInterfaceId : Bool
  enableRemoteId : Bool
  vssEnabled : Bool
  vssCfg : VssConfig
  remoteId : Bytes

/-- `V6SpawnContext::from_inner`. -/
def V6SpawnContext.fromInner (config : RelayConfig) : V6SpawnContext where
  enableInterfaceId := config.dhcpv6.enableInterfaceId
  enableRemoteId := config.dhcpv6.enableRemoteId
  vssEnabled := config.dhcpv6.vss.enabled
  vssCfg := config.dhcpv6.vss
  remoteId := config.dhcpv6.remoteId.getD []

/-- `AddrParseError` of a socket address, as it displays. -/
def invalidSocketAddr : String := "invalid socket address syntax"

/-! ### DHCPv4 tasks -/

/-- What one DHCPv4 task has captured. -/
structure V4Task where
  bindAddr : SocketAddr
  ifaceName : String
  ifaceIp : Ipv4Addr
  serverAddr : SocketAddr
  ctx : V4SpawnContext

/-- The task for an interface bound at `bindAddr`. -/
def V4Task.mkFor (config : RelayConfig) (iface : InterfaceConfig) (bindAddr : SocketAddr) :
    V4Task where
  bindAddr := bindAddr
  ifaceName := iface.name
  ifaceIp := (Ipv4Addr.parse (beforeColon iface.ipAddr.toList)).getD .unspecified
  -- without a configured server the requests go to the task's own address
  serverAddr := config.dhcpv4.serverAddrs.head?.getD bindAddr
  ctx := .fromInner config

/-- One round of the loop of `spawn_v4_tasks`, for an enabled interface. -/
def V4Task.spawn (config : RelayConfig) (bind : SocketAddr → Except String Unit)
    (iface : InterfaceConfig) : RelayResult V4Task :=
  match SocketAddr.parse iface.ipAddr.toList with
  | none => .error (.config s!"invalid IP: {invalidSocketAddr}")
  | some bindAddr =>
    match bind bindAddr with
    | .error e => .error (.transport s!"bind: {e}")
    | .ok () => .ok (.mkFor config iface bindAddr)

/-- Spawn DHCPv4 relay tasks, one per enabled interface. -/
def RelayAgent.spawnV4Tasks (agent : RelayAgent) (bind : SocketAddr → Except String Unit) :
    RelayResult (List V4Task) :=
  (agent.config.interfaces.filter (·.enabled)).mapM (V4Task.spawn agent.config bind)

/-- The message types that are taken for a client's. -/
def V4.isClient (msg : V4.Message) : Bool :=
  match msg.opts.msgType with
  | some .discover | some .request | some .inform | some .decline | some .release => true
  | _ => false

/-- The sub-options expected back in a reply: those that are in it. -/
def V4.expectedSubOpts (msg : V4.Message) : Option (List V4.Option82.SubOption) :=
  match msg.opts.get? V4.OptionCode.relayAgentInformation with
  | some (.relayAgentInformation info) => some (V4.Option82.subOpts info)
  | _ => none

namespace V4Task

/-- The VSS configuration handed to the handlers. -/
def vss (task : V4Task) : Option VssConfig :=
  if task.ctx.vssEnabled then some task.ctx.vssCfg else none

/-- The arguments of the request pipelines of this task. -/
def requestArgs (task : V4Task) : V4.RequestArgs where
  localAddrs := task.ctx.localAddrs
  circuitId := task.ctx.circuitId
  remoteId := task.ctx.remoteId
  ifaceIp := task.ifaceIp
  serverAddr := task.serverAddr
  vssConfig := task.vss
  enableOption82 := task.ctx.enableOption82

/-- What the task does with a received datagram. -/
def receive (proto : V4.Codec) (task : V4Task) (stats : RelayStats) (data : Bytes)
    (src : SocketAddr) : RelayStats × Option Datagram :=
  let stats := stats.countReceived
  match proto.decode data with
  | .error _ => (stats, none)
  | .ok msg =>
    if V4.isClient msg then
      handleV4Client proto data src task.ifaceName task.requestArgs stats
    else
      handleV4Server proto data src task.ifaceName (V4.expectedSubOpts msg) task.vss
        task.ctx.enableOption82 stats

end V4Task

/-! ### DHCPv6 tasks -/

/-- What one DHCPv6 task has captured. -/
structure V6Task where
  bindAddr : SocketAddr
  ifaceName : String
  serverAddr : SocketAddr
  ctx : V6SpawnContext

/-- The task for an interface bound at `bindAddr`. -/
def V6Task.mkFor (config : RelayConfig) (iface : InterfaceConfig) (bindAddr : SocketAddr) :
    V6Task where
  bindAddr := bindAddr
  ifaceName := iface.name
  serverAddr := config.dhcpv6.serverAddrs.head?.getD bindAddr
  ctx := .fromInner config

/-- One round of the loop of `spawn_v6_tasks`, for an enabled interface. -/
def V6Task.spawn (config : RelayConfig) (bind : SocketAddr → Except String Unit)
    (iface : InterfaceConfig) : RelayResult V6Task :=
  match SocketAddr.parse (beforeColon iface.ipAddr.toList ++ [':', '5', '4', '7']) with
  | none => .error (.config s!"invalid v6 IP: {invalidSocketAddr}")
  | some bindAddr =>
    match bind bindAddr with
    | .error e => .error (.transport s!"v6 bind: {e}")
    | .ok () => .ok (.mkFor config iface bindAddr)

/-- Spawn DHCPv6 relay tasks, one per enabled interface. -/
def RelayAgent.spawnV6Tasks (agent : RelayAgent) (bind : SocketAddr → Except String Unit) :
    RelayResult (List V6Task) :=
  (agent.config.interfaces.filter (·.enabled)).mapM (V6Task.spawn agent.config bind)

/-- The message types that are taken for a client's. -/
def V6.isClient (msg : V6.Message) : Bool :=
  match msg.msgType with
  | .solicit | .request | .confirm | .renew | .rebind | .decline | .release
  | .informationRequest => true
  | _ => false

namespace V6Task

/-- The VSS configuration handed to the handlers. -/
def vss (task : V6Task) : Option VssConfig :=
  if task.ctx.vssEnabled then some task.ctx.vssCfg else none

/-- The arguments of the request pipeline of this task, for a datagram from `src`. -/
def requestArgs (task : V6Task) (localAddr : Option SocketAddr) (src : SocketAddr) :
    V6.RequestArgs where
  ifaceName := task.ifaceName
  remoteId := task.ctx.remoteId
  linkAddr := linkAddrOf localAddr
  peerAddr := src
  serverAddr := task.serverAddr
  vssConfig := task.vss
  enableInterfaceId := task.ctx.enableInterfaceId
  enableRemoteId := task.ctx.enableRemoteId

/-- What the task does with a received datagram. -/
def receive (proto : V6.Codec) (task : V6Task) (localAddr : Option SocketAddr)
    (stats : RelayStats) (data : Bytes) (src : SocketAddr) : RelayStats × Option Datagram :=
  let stats := stats.countReceived
  if data.head?.getD 0 = V6.RelayFwd.relayRepl then
    handleV6Server proto data src task.ifaceName task.vss stats
  else
    match proto.decode data with
    | .error _ => (stats, none)
    | .ok msg =>
      if V6.isClient msg then
        handleV6Client proto data src task.ifaceName task.ctx.remoteId task.serverAddr task.vss
          task.ctx.enableInterfaceId task.ctx.enableRemoteId localAddr stats
      else (stats, none)

end V6Task

/-! ### What was spawned -/

/-- Where `mapM` succeeds, it has succeeded on every element of the list. -/
theorem map_of_mapM_ok {α β ε : Type} {f : α → Except ε β} {as : List α} {bs : List β}
    (h : as.mapM f = .ok bs) : as.map f = bs.map .ok := by
  induction as generalizing bs with
  | nil =>
      obtain rfl : [] = bs := Except.ok.inj h
      rfl
  | cons a as ih =>
      rw [List.mapM_cons] at h
      cases ha : f a with
      | error e => simp [ha, bind, Except.bind] at h
      | ok b =>
          cases has : as.mapM f with
          | error e => simp [ha, has, bind, Except.bind] at h
          | ok bs' =>
              obtain rfl : b :: bs' = bs := by
                simpa [ha, has, bind, Except.bind, pure, Except.pure] using h
              rw [List.map_cons, List.map_cons, ha, ih has]

/-- Its results come from the elements of the list. -/
theorem mem_of_mapM_ok {α β ε : Type} {f : α → Except ε β} {as : List α} {bs : List β}
    (h : as.mapM f = .ok bs) {b : β} (hb : b ∈ bs) : ∃ a ∈ as, f a = .ok b := by
  have hmem : Except.ok b ∈ as.map f := map_of_mapM_ok h ▸ List.mem_map_of_mem hb
  exact List.mem_map.mp hmem

/-- Each element of the list has a result. -/
theorem ok_of_mapM_ok {α β ε : Type} {f : α → Except ε β} {as : List α} {bs : List β}
    (h : as.mapM f = .ok bs) {a : α} (ha : a ∈ as) : ∃ b ∈ bs, f a = .ok b := by
  have hmem : f a ∈ bs.map .ok := map_of_mapM_ok h ▸ List.mem_map_of_mem ha
  obtain ⟨b, hb, hfa⟩ := List.mem_map.mp hmem
  exact ⟨b, hb, hfa.symm⟩

/-- An agent has the configuration it was made from, and that is an accepted one. -/
theorem RelayAgent.new_inv {config : RelayConfig} {agent : RelayAgent}
    (h : RelayAgent.new config = .ok agent) :
    agent.config = config ∧ config.validate = .ok () := by
  unfold RelayAgent.new at h
  cases hval : config.validate with
  | error e => simp [hval, bind, Except.bind] at h
  | ok _ =>
      rw [hval] at h
      obtain rfl : { config := config, stats := {} } = agent := Except.ok.inj h
      exact ⟨rfl, rfl⟩

/-- A DHCPv4 task that was spawned for an interface is bound to the address of that
interface. -/
theorem V4Task.spawn_inv {config : RelayConfig} {bind : SocketAddr → Except String Unit}
    {iface : InterfaceConfig} {task : V4Task} (h : V4Task.spawn config bind iface = .ok task) :
    ∃ bindAddr, SocketAddr.parse iface.ipAddr.toList = some bindAddr
      ∧ bind bindAddr = .ok () ∧ task = .mkFor config iface bindAddr := by
  unfold V4Task.spawn at h
  cases hparse : SocketAddr.parse iface.ipAddr.toList with
  | none => simp [hparse] at h
  | some bindAddr =>
      cases hbind : bind bindAddr with
      | error e => simp [hparse, hbind] at h
      | ok _ =>
          simp only [hparse, hbind] at h
          exact ⟨bindAddr, rfl, hbind, (Except.ok.inj h).symm⟩

/-- A DHCPv4 task belongs to an enabled interface whose address could be parsed and bound. -/
theorem RelayAgent.mem_spawnV4Tasks {agent : RelayAgent} {bind : SocketAddr → Except String Unit}
    {tasks : List V4Task} {task : V4Task} (h : agent.spawnV4Tasks bind = .ok tasks)
    (htask : task ∈ tasks) :
    ∃ iface ∈ agent.config.interfaces, iface.enabled = true
      ∧ ∃ bindAddr, SocketAddr.parse iface.ipAddr.toList = some bindAddr
        ∧ bind bindAddr = .ok () ∧ task = .mkFor agent.config iface bindAddr := by
  obtain ⟨iface, hiface, hspawn⟩ := mem_of_mapM_ok h htask
  obtain ⟨hmem, henabled⟩ := List.mem_filter.mp hiface
  exact ⟨iface, hmem, henabled, V4Task.spawn_inv hspawn⟩

/-- The VSS configuration of a task is off or accepted. -/
theorem V4Task.spawn_vss {config : RelayConfig} {bind : SocketAddr → Except String Unit}
    {iface : InterfaceConfig} {task : V4Task} (hvalid : config.validate = .ok ())
    (h : V4Task.spawn config bind iface = .ok task) : ∀ cfg ∈ task.vss, cfg.Accepted := by
  obtain ⟨bindAddr, -, -, rfl⟩ := spawn_inv h
  obtain ⟨-, -, haccepted, -⟩ := RelayConfig.validate_ok_iff.mp hvalid
  exact fun cfg hcfg => haccepted.of_mem hcfg

/-- **What the DHCPv4 tasks of an agent work with**: the settings of its configuration,
and a VSS configuration that is off or accepted. -/
theorem RelayAgent.spawned_inv {config : RelayConfig} {agent : RelayAgent}
    {bind : SocketAddr → Except String Unit} {tasks : List V4Task} {task : V4Task}
    (hnew : RelayAgent.new config = .ok agent) (hspawn : agent.spawnV4Tasks bind = .ok tasks)
    (htask : task ∈ tasks) :
    task.ctx = .fromInner config ∧ ∀ cfg ∈ task.vss, cfg.Accepted := by
  obtain ⟨iface, -, -, bindAddr, -, -, rfl⟩ := mem_spawnV4Tasks hspawn htask
  obtain ⟨rfl, hvalid⟩ := new_inv hnew
  obtain ⟨-, -, haccepted, -⟩ := RelayConfig.validate_ok_iff.mp hvalid
  exact ⟨rfl, fun cfg hcfg => haccepted.of_mem hcfg⟩

/-- An interface address that is set is among the local addresses. -/
theorem V4Task.mkFor_local {config : RelayConfig} {iface : InterfaceConfig} {bindAddr : SocketAddr}
    (hmem : iface ∈ config.interfaces)
    (hip : (V4Task.mkFor config iface bindAddr).ifaceIp ≠ .unspecified) :
    (V4Task.mkFor config iface bindAddr).ifaceIp
      ∈ (V4Task.mkFor config iface bindAddr).ctx.localAddrs := by
  cases hparse : Ipv4Addr.parse (beforeColon iface.ipAddr.toList) with
  | none => simp [mkFor, hparse] at hip
  | some ip =>
      have hifaceIp : (V4Task.mkFor config iface bindAddr).ifaceIp = ip := by
        simp [mkFor, hparse]
      rw [hifaceIp]
      exact List.mem_filterMap.mpr ⟨iface, hmem, hparse⟩

theorem RelayAgent.spawned_local {agent : RelayAgent} {bind : SocketAddr → Except String Unit}
    {tasks : List V4Task} {task : V4Task} (hspawn : agent.spawnV4Tasks bind = .ok tasks)
    (htask : task ∈ tasks) (hip : task.ifaceIp ≠ .unspecified) :
    task.ifaceIp ∈ task.ctx.localAddrs := by
  obtain ⟨iface, hmem, -, bindAddr, -, -, rfl⟩ := mem_spawnV4Tasks hspawn htask
  exact V4Task.mkFor_local hmem hip

/-- A DHCPv6 task that was spawned for an interface. -/
theorem V6Task.spawn_inv {config : RelayConfig} {bind : SocketAddr → Except String Unit}
    {iface : InterfaceConfig} {task : V6Task} (h : V6Task.spawn config bind iface = .ok task) :
    ∃ bindAddr, bind bindAddr = .ok () ∧ task = .mkFor config iface bindAddr := by
  unfold V6Task.spawn at h
  split at h
  · simp at h
  · next bindAddr _ =>
      cases hbind : bind bindAddr with
      | error e => simp [hbind] at h
      | ok _ =>
          simp only [hbind] at h
          exact ⟨bindAddr, hbind, (Except.ok.inj h).symm⟩

/-- A DHCPv6 task belongs to an enabled interface whose address could be parsed and bound. -/
theorem RelayAgent.mem_spawnV6Tasks {agent : RelayAgent} {bind : SocketAddr → Except String Unit}
    {tasks : List V6Task} {task : V6Task} (h : agent.spawnV6Tasks bind = .ok tasks)
    (htask : task ∈ tasks) :
    ∃ iface ∈ agent.config.interfaces, iface.enabled = true
      ∧ ∃ bindAddr, bind bindAddr = .ok () ∧ task = .mkFor agent.config iface bindAddr := by
  obtain ⟨iface, hiface, hspawn⟩ := mem_of_mapM_ok h htask
  obtain ⟨hmem, henabled⟩ := List.mem_filter.mp hiface
  exact ⟨iface, hmem, henabled, V6Task.spawn_inv hspawn⟩

/-- The VSS configuration of a task is off or accepted. -/
theorem V6Task.spawn_vss {config : RelayConfig} {bind : SocketAddr → Except String Unit}
    {iface : InterfaceConfig} {task : V6Task} (hvalid : config.validate = .ok ())
    (h : V6Task.spawn config bind iface = .ok task) : ∀ cfg ∈ task.vss, cfg.Accepted := by
  obtain ⟨bindAddr, -, rfl⟩ := spawn_inv h
  obtain ⟨-, -, -, haccepted⟩ := RelayConfig.validate_ok_iff.mp hvalid
  exact fun cfg hcfg => haccepted.of_mem hcfg

/-- **What the DHCPv6 tasks of an agent work with**, likewise. -/
theorem RelayAgent.spawnedV6_inv {config : RelayConfig} {agent : RelayAgent}
    {bind : SocketAddr → Except String Unit} {tasks : List V6Task} {task : V6Task}
    (hnew : RelayAgent.new config = .ok agent) (hspawn : agent.spawnV6Tasks bind = .ok tasks)
    (htask : task ∈ tasks) :
    task.ctx = .fromInner config ∧ ∀ cfg ∈ task.vss, cfg.Accepted := by
  obtain ⟨iface, -, -, bindAddr, -, rfl⟩ := mem_spawnV6Tasks hspawn htask
  obtain ⟨rfl, hvalid⟩ := new_inv hnew
  obtain ⟨-, -, -, haccepted⟩ := RelayConfig.validate_ok_iff.mp hvalid
  exact ⟨rfl, fun cfg hcfg => haccepted.of_mem hcfg⟩

end DhcpRelay
