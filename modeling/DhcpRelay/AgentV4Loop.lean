import DhcpRelay.Library.Walks
import DhcpRelay.AgentV4
import DhcpRelay.V4.LoopFree

/-!
# DhcpRelay.AgentV4Loop

**What the agent sends to itself.** A task without a configured server takes its own bind
address for the server's, and a configured server may be an address that a socket of the agent
hears, such as one bound to the wildcard address. Then what it relays may come back to it. Which
sockets hear a datagram is for the network and the kernels to say: a `Delivery`, about which
nothing is assumed but what is named. A `Visit` is a datagram at a task.

What comes back rests only where a task of the agent has put a mark on it. That of another relay
bears none: its giaddr is not the agent's, and nothing else is looked at. Neither does what an
agent relays that has no address to put into giaddr and inserts no Option 82.
-/

namespace DhcpRelay

open DhcpRelay.Library

/-- The addresses the DHCPv4 tasks of an agent are bound to: those of the enabled
interfaces. -/
def RelayConfig.v4BindAddrs (config : RelayConfig) : List SocketAddr :=
  (config.interfaces.filter (·.enabled)).filterMap fun iface =>
    SocketAddr.parse iface.ipAddr.toList

/-! ### Visits -/

/-- What the network and the sockets of the hosts may do with a datagram: `deliver t dst t' src`
where what the task `t` sends to `dst` may come to the task `t'`, as one from `src`. -/
abbrev Delivery := V4Task → SocketAddr → V4Task → SocketAddr → Prop

/-- The tasks run on one host: which of them may get a datagram depends on the address that it is
sent to, not on which of them sends it. -/
def Delivery.OnOneHost (deliver : Delivery) (tasks : List V4Task) : Prop :=
  ∀ t ∈ tasks, ∀ t' ∈ tasks, ∀ dst back src, deliver t dst back src →
    ∃ src', deliver t' dst back src'

/-- One of the tasks may get what the task sends to the address it takes for the server's. -/
def V4Task.Leads (tasks : List V4Task) (deliver : Delivery) (task back : V4Task) : Prop :=
  back ∈ tasks ∧ ∃ src, deliver task task.serverAddr back src

/-- A datagram at a task. -/
structure Visit where
  task : V4Task
  data : Bytes
  src : SocketAddr

namespace Visit

/-- What the task sends. The counters have no part in it (`V4Task.receive_sent`). -/
def sent (proto : V4.Codec) (v : Visit) : Option Datagram :=
  (v.task.receive proto {} v.data v.src).2

/-- What the task sends may come to `w`, at one of the tasks. -/
structure Next (proto : V4.Codec) (tasks : List V4Task) (deliver : Delivery) (v w : Visit) :
    Prop where
  task_mem : w.task ∈ tasks
  brought : ∃ d, v.sent proto = some d ∧ deliver v.task d.dst w.task w.src ∧ w.data = d.payload

/-- The datagram is a client's message. -/
structure Reads (proto : V4.Codec) (v : Visit) (msg : V4.Message) : Prop where
  read : proto.decode v.data = .ok msg
  client : V4.isClient msg = true
  accepted : v.task.requestArgs.VssAccepted

end Visit

section

variable {proto : V4.Codec} {config : RelayConfig} {agent : RelayAgent}
  {bind : SocketAddr → Except String Unit} {tasks : List V4Task} {deliver : Delivery}
  {task back : V4Task} {msg : V4.Message} {data : Bytes} {v w : Visit}

/-- A task is bound to one of the addresses of its agent. -/
theorem RelayAgent.bindAddr_mem (hnew : RelayAgent.new config = .ok agent)
    (hspawn : agent.spawnV4Tasks bind = .ok tasks) (htask : task ∈ tasks) :
    task.bindAddr ∈ config.v4BindAddrs := by
  obtain ⟨iface, hmem, henabled, bindAddr, hparse, -, rfl⟩ := mem_spawnV4Tasks hspawn htask
  obtain ⟨rfl, -⟩ := new_inv hnew
  exact List.mem_filterMap.mpr ⟨iface, List.mem_filter.mpr ⟨hmem, henabled⟩, hparse⟩

/-- Where a server is configured all tasks have the same one. -/
theorem RelayAgent.serverAddr_eq (hnew : RelayAgent.new config = .ok agent)
    (hspawn : agent.spawnV4Tasks bind = .ok tasks) (hservers : config.dhcpv4.serverAddrs ≠ [])
    (htask : task ∈ tasks) (hback : back ∈ tasks) : back.serverAddr = task.serverAddr := by
  obtain ⟨-, -, -, -, -, -, rfl⟩ := mem_spawnV4Tasks hspawn htask
  obtain ⟨-, -, -, -, -, -, rfl⟩ := mem_spawnV4Tasks hspawn hback
  obtain ⟨rfl, -⟩ := new_inv hnew
  obtain ⟨server, rest, hlist⟩ := List.exists_cons_of_ne_nil hservers
  simp [V4Task.mkFor, hlist]

/-- **The default server**: a task takes an address of its own agent for the server's
exactly where no server is configured. -/
theorem RelayAgent.serverAddr_mem_iff (hnew : RelayAgent.new config = .ok agent)
    (hspawn : agent.spawnV4Tasks bind = .ok tasks) (htask : task ∈ tasks)
    (hservers : ∀ server ∈ config.dhcpv4.serverAddrs, server ∉ config.v4BindAddrs) :
    task.serverAddr ∈ config.v4BindAddrs ↔ config.dhcpv4.serverAddrs = [] := by
  have hbound := bindAddr_mem hnew hspawn htask
  obtain ⟨iface, -, -, bindAddr, -, -, rfl⟩ := mem_spawnV4Tasks hspawn htask
  obtain ⟨rfl, -⟩ := new_inv hnew
  cases hlist : agent.config.dhcpv4.serverAddrs with
  | nil => simpa [V4Task.mkFor, hlist] using hbound
  | cons server rest =>
      have hforeign : server ∉ agent.config.v4BindAddrs := hservers server (by simp [hlist])
      simpa [V4Task.mkFor, hlist] using hforeign

/-! ### What a task sends for a client -/

theorem handleV4Client_of_not_passed {src : SocketAddr} {ifaceName : String}
    {args : V4.RequestArgs} {stats : RelayStats}
    (h : ((V4.buildRequest proto args).execute (.new data src ifaceName)).1 ≠ .ok true) :
    (handleV4Client proto data src ifaceName args stats).2 = none := by
  unfold handleV4Client
  split
  · next hrun =>
      rw [hrun] at h
      exact absurd rfl h
  · rfl
  · rfl

/-- A client's message goes to the client handler. -/
theorem V4Task.receive_client (hdec : proto.decode data = .ok msg)
    (hclient : V4.isClient msg = true) (stats : RelayStats) (src : SocketAddr) :
    task.receive proto stats data src
      = handleV4Client proto data src task.ifaceName task.requestArgs stats.countReceived := by
  rw [V4Task.receive, hdec]
  simp only [hclient, if_true]

/-- What is relayed is sent to the task's server, as the relayed message. -/
theorem V4Task.sent_relayed (hc : proto.Lawful) (hvss : task.requestArgs.VssAccepted)
    (hdec : proto.decode data = .ok msg) (hclient : V4.isClient msg = true)
    (h : task.requestArgs.Relays false msg) (stats : RelayStats) (src : SocketAddr) :
    ∃ d, (task.receive proto stats data src).2 = some d ∧ d.dst = task.serverAddr
      ∧ proto.decode d.payload = .ok (task.requestArgs.relayed msg) := by
  have hdelivers : Delivers proto ((V4.buildRequest proto task.requestArgs).execute
      (.new data src task.ifaceName)) task.serverAddr (task.requestArgs.relayed msg) :=
    V4.request_relays hc hvss hdec h
  rw [V4Task.receive_client hdec hclient]
  exact handleV4Client_of_delivers hdelivers stats.countReceived

/-- It is a client's message with giaddr set. -/
theorem V4Task.sent_of_relays (hc : proto.Lawful) (hvss : task.requestArgs.VssAccepted)
    (hdec : proto.decode data = .ok msg) (hclient : V4.isClient msg = true)
    (h : task.requestArgs.Relays false msg) (stats : RelayStats) (src : SocketAddr) :
    ∃ d msg', (task.receive proto stats data src).2 = some d ∧ d.dst = task.serverAddr
      ∧ proto.decode d.payload = .ok msg' ∧ V4.isClient msg' = true
      ∧ msg'.giaddr = if msg.giaddr = .unspecified then task.ifaceIp else msg.giaddr := by
  obtain ⟨d, hsent, hto, hpayload⟩ := V4Task.sent_relayed hc hvss hdec hclient h stats src
  refine ⟨d, _, hsent, hto, hpayload, ?_, task.requestArgs.giaddr_relayed msg⟩
  rwa [V4.isClient, V4.RequestArgs.relayed_msgType]

/-- What is not relayed is not answered either. -/
theorem V4Task.sent_of_not_relays (hc : proto.Lawful) (hdec : proto.decode data = .ok msg)
    (hclient : V4.isClient msg = true) (h : ¬ task.requestArgs.Relays false msg)
    (stats : RelayStats) (src : SocketAddr) : (task.receive proto stats data src).2 = none := by
  have hstopped : ((V4.buildRequest proto task.requestArgs).execute
      (.new data src task.ifaceName)).1 ≠ .ok true := by
    rcases V4.request_dropped hc hdec h src task.ifaceName with
      ⟨-, -, hout⟩ | ⟨-, -, -, text, hout⟩ | ⟨-, text, hout⟩
    · simp [hout]
    · simp [hout]
    · simp [hout]
  rw [V4Task.receive_client hdec hclient]
  exact handleV4Client_of_not_passed hstopped

/-- A client's message at a task. -/
theorem Visit.Reads.start (hdec : proto.decode data = .ok msg) (hclient : V4.isClient msg = true)
    (hvss : task.requestArgs.VssAccepted) (src : SocketAddr) :
    Visit.Reads proto ⟨task, data, src⟩ msg :=
  ⟨hdec, hclient, hvss⟩

/-- **One visit and the next**: the task relays the message, to its server's address, and the
next task gets the relayed message. -/
theorem Visit.Reads.next (hc : proto.Lawful)
    (htasks : ∀ task ∈ tasks, task.requestArgs.VssAccepted) (h : v.Reads proto msg)
    (hnext : v.Next proto tasks deliver w) :
    v.task.requestArgs.Relays false msg ∧ v.task.Leads tasks deliver w.task
      ∧ w.Reads proto (v.task.requestArgs.relayed msg) := by
  obtain ⟨d, hsent, hbrought, hdata⟩ := hnext.brought
  by_cases hrelays : v.task.requestArgs.Relays false msg
  · obtain ⟨d', hsent', hdst, hread⟩ :=
      V4Task.sent_relayed hc h.accepted h.read h.client hrelays {} v.src
    obtain rfl : d = d' := Option.some.inj (hsent.symm.trans hsent')
    refine ⟨hrelays, ⟨hnext.task_mem, w.src, hdst ▸ hbrought⟩, hdata ▸ hread, ?_,
      htasks w.task hnext.task_mem⟩
    rw [V4.isClient, V4.RequestArgs.relayed_msgType]
    exact h.client
  · have hsilent : v.sent proto = none :=
      V4Task.sent_of_not_relays hc h.read h.client hrelays {} v.src
    rw [hsilent] at hsent
    simp at hsent

/-- What is relayed may come to every task that the server's address leads to. -/
theorem Visit.Reads.exists_next (hc : proto.Lawful) (h : v.Reads proto msg)
    (hrelays : v.task.requestArgs.Relays false msg) (hleads : v.task.Leads tasks deliver back) :
    ∃ w, v.Next proto tasks deliver w ∧ w.task = back := by
  obtain ⟨hmem, src, hbrought⟩ := hleads
  obtain ⟨d, hsent, hdst, -⟩ :=
    V4Task.sent_relayed hc h.accepted h.read h.client hrelays {} v.src
  exact ⟨⟨back, d.payload, src⟩, ⟨hmem, d, hsent, hdst ▸ hbrought, rfl⟩, rfl⟩

end

/-! ### Marks -/

section

variable {proto : V4.Codec} {config : RelayConfig} {tasks : List V4Task} {deliver : Delivery}
  {task back : V4Task} {msg : V4.Message} {v w : Visit}

/-- The task relays the message and puts no mark on it that would stop it the next time: it is
another relay's, or it has neither giaddr nor Option 82 and the task has neither to add. -/
def V4Task.LeavesUnmarked (task : V4Task) (msg : V4.Message) : Prop :=
  if msg.giaddr = .unspecified then
    msg.option82 = none ∧ task.ctx.enableOption82 = false ∧ task.ifaceIp = .unspecified
  else msg.giaddr ∉ task.ctx.localAddrs

theorem V4Task.LeavesUnmarked.relays (h : task.LeavesUnmarked msg) :
    task.requestArgs.Relays false msg := by
  unfold V4Task.LeavesUnmarked at h
  unfold V4.RequestArgs.Relays
  split at h
  · obtain ⟨h82, hoff, -⟩ := h
    have hno : task.requestArgs.enableOption82 = false := hoff
    simp [*]
  · next hset =>
      rw [if_neg hset]
      exact h

/-- Of what a task relays it leaves unmarked what has a giaddr, and where it has none to add and
no Option 82 either, everything. -/
theorem V4Task.leavesUnmarked_iff (h : task.requestArgs.Relays false msg) :
    task.LeavesUnmarked msg
      ↔ (msg.giaddr = .unspecified
        → task.ctx.enableOption82 = false ∧ task.ifaceIp = .unspecified) := by
  unfold V4.RequestArgs.Relays at h
  unfold V4Task.LeavesUnmarked
  split
  · next hzero =>
      have h82 : msg.option82 = none := by
        by_contra hsome
        rw [if_pos hzero, if_pos (Option.isSome_iff_ne_none.mpr hsome)] at h
        simp at h
      simp [hzero, h82]
  · next hset =>
      rw [if_neg hset] at h
      exact ⟨fun _ hzero => absurd hzero hset, fun _ => h⟩

theorem V4Task.LeavesUnmarked.giaddr (h : task.LeavesUnmarked msg) :
    (task.requestArgs.relayed msg).giaddr = msg.giaddr := by
  unfold V4Task.LeavesUnmarked at h
  rw [V4.RequestArgs.giaddr_relayed]
  split
  · next hzero =>
      rw [if_pos hzero] at h
      exact h.2.2.trans hzero.symm
  · rfl

/-- A task of the same agent does the same with what was relayed, if it has no address to add
either. -/
theorem V4Task.LeavesUnmarked.again (h : task.LeavesUnmarked msg) (hctx : back.ctx = task.ctx)
    (hip : msg.giaddr = .unspecified → back.ifaceIp = .unspecified) :
    back.LeavesUnmarked (task.requestArgs.relayed msg) := by
  have hgiaddr := h.giaddr
  unfold V4Task.LeavesUnmarked at h ⊢
  rw [hgiaddr, hctx]
  split
  · next hzero =>
      rw [if_pos hzero] at h
      obtain ⟨h82, hoff, -⟩ := h
      have hno : task.requestArgs.enableOption82 = false := hoff
      refine ⟨?_, hoff, hip hzero⟩
      have hnone : ¬ (task.requestArgs.relayed msg).option82.isSome = true := by
        rw [V4.RequestArgs.option82_relayed]
        simp [h82, hno]
      simpa using hnone
  · next hset => rwa [if_neg hset] at h

/-- **Marks stop a message**: what a task has marked no task of its agent relays again. It is
taken for a spoof, or it has an Option 82 and no giaddr. -/
theorem V4Task.not_relays_of_marked
    (hlocal : task.ifaceIp ≠ .unspecified → task.ifaceIp ∈ task.ctx.localAddrs)
    (h : task.requestArgs.Relays false msg) (hmarked : ¬ task.LeavesUnmarked msg)
    (hctx : back.ctx = task.ctx) :
    ¬ back.requestArgs.Relays false (task.requestArgs.relayed msg) := by
  rw [V4Task.leavesUnmarked_iff h, Classical.not_imp] at hmarked
  obtain ⟨hzero, hmark⟩ := hmarked
  have hgiaddr : (task.requestArgs.relayed msg).giaddr = task.ifaceIp := by
    rw [V4.RequestArgs.giaddr_relayed, if_pos hzero]
    rfl
  unfold V4.RequestArgs.Relays
  rw [hgiaddr]
  by_cases hip : task.ifaceIp = .unspecified
  · -- giaddr is not set even now, but Option 82 is there
    have hon : task.requestArgs.enableOption82 = true := by
      cases hcase : task.ctx.enableOption82 with
      | true => exact hcase
      | false => exact absurd ⟨hcase, hip⟩ hmark
    have hthere : (task.requestArgs.relayed msg).option82.isSome = true :=
      (V4.RequestArgs.option82_relayed _ _).mpr (.inr ⟨hzero, hon⟩)
    rw [if_pos hip, if_pos hthere]
    simp
  · rw [if_neg hip, not_not]
    change task.ifaceIp ∈ back.ctx.localAddrs
    rw [hctx]
    exact hlocal hip

/-- **What bears no mark circulates**, where each task of the agent leads to one that puts none
on it. -/
theorem Visit.Reads.endless (hc : proto.Lawful)
    (htasks : ∀ task ∈ tasks, task.ctx = .fromInner config ∧ task.requestArgs.VssAccepted)
    (hv : v.task ∈ tasks) (h : v.Reads proto msg) (hopen : v.task.LeavesUnmarked msg)
    (hround : ∀ task ∈ tasks, ∃ back, task.Leads tasks deliver back
      ∧ (msg.giaddr = .unspecified → back.ifaceIp = .unspecified)) :
    Endless (Visit.Next proto tasks deliver) v := by
  -- giaddr stays what it is
  have hnext : ∀ v : Visit, (v.task ∈ tasks ∧ ∃ msg', v.Reads proto msg'
      ∧ v.task.LeavesUnmarked msg' ∧ msg'.giaddr = msg.giaddr) →
      ∃ w, v.Next proto tasks deliver w ∧ (w.task ∈ tasks ∧ ∃ msg', w.Reads proto msg'
        ∧ w.task.LeavesUnmarked msg' ∧ msg'.giaddr = msg.giaddr) := by
    rintro v ⟨hv, msg', hreads, hopen, hgiaddr⟩
    obtain ⟨back, hleads, hip⟩ := hround v.task hv
    obtain ⟨w, hnext, rfl⟩ := hreads.exists_next hc hopen.relays hleads
    obtain ⟨-, -, hreads'⟩ := hreads.next hc (fun task ht => (htasks task ht).2) hnext
    have hctx : w.task.ctx = v.task.ctx := by
      rw [(htasks w.task hleads.1).1, (htasks v.task hv).1]
    exact ⟨w, hnext, hleads.1, _, hreads', hopen.again hctx (hgiaddr ▸ hip),
      hopen.giaddr.trans hgiaddr⟩
  intro n
  obtain ⟨via, w, hlength, -, hwalk⟩ := walks_of_invariant hnext ⟨hv, msg, h, hopen, rfl⟩ n
  exact ⟨via, w, hlength, hwalk⟩

end

/-! ### The agent and itself -/

section

variable {proto : V4.Codec} {config : RelayConfig} {agent : RelayAgent}
  {bind : SocketAddr → Except String Unit} {tasks : List V4Task} {deliver : Delivery}
  {task : V4Task} {msg : V4.Message} {data : Bytes} {v w : Visit}

/-- What a task of an agent has marked is not handled a third time. -/
theorem Visit.Reads.rests_of_marked (hc : proto.Lawful)
    (hnew : RelayAgent.new config = .ok agent) (hspawn : agent.spawnV4Tasks bind = .ok tasks)
    (hv : v.task ∈ tasks) (h : v.Reads proto msg) (hmarked : ¬ v.task.LeavesUnmarked msg)
    {u : Visit} (hnext : v.Next proto tasks deliver u) : ¬ u.Next proto tasks deliver w := by
  intro hagain
  have htasks := fun t (ht : t ∈ tasks) => (RelayAgent.spawned_inv hnew hspawn ht)
  obtain ⟨hrelays, hleads, hreads⟩ := h.next hc (fun t ht => (htasks t ht).2) hnext
  obtain ⟨hrelays', -, -⟩ := hreads.next hc (fun t ht => (htasks t ht).2) hagain
  have hctx : u.task.ctx = v.task.ctx := by
    rw [(htasks u.task hleads.1).1, (htasks v.task hv).1]
  exact V4Task.not_relays_of_marked (RelayAgent.spawned_local hspawn hv) hrelays hmarked hctx
    hrelays'

/-- What a task sends goes elsewhere than to the agent if there is a server. -/
theorem V4Task.sent_elsewhere_iff (hc : proto.Lawful) (hnew : RelayAgent.new config = .ok agent)
    (hspawn : agent.spawnV4Tasks bind = .ok tasks) (htask : task ∈ tasks)
    (hservers : ∀ server ∈ config.dhcpv4.serverAddrs, server ∉ config.v4BindAddrs)
    (hdec : proto.decode data = .ok msg) (hclient : V4.isClient msg = true) (stats : RelayStats)
    (src : SocketAddr) :
    (∀ d, (task.receive proto stats data src).2 = some d → d.dst ∉ config.v4BindAddrs)
      ↔ ¬ task.requestArgs.Relays false msg ∨ config.dhcpv4.serverAddrs ≠ [] := by
  have hvss : task.requestArgs.VssAccepted := (RelayAgent.spawned_inv hnew hspawn htask).2
  have hdefault := RelayAgent.serverAddr_mem_iff hnew hspawn htask hservers
  by_cases hrelays : task.requestArgs.Relays false msg
  · obtain ⟨d, hsent, hdst, -⟩ :=
      V4Task.sent_relayed hc hvss hdec hclient hrelays stats src
    simp [hsent, hdst, hdefault, hrelays]
  · simp [V4Task.sent_of_not_relays hc hdec hclient hrelays stats src, hrelays]

/-- What is relayed, to a server that there is, is handled over and over if a socket of the agent
hears that server's address and neither of the two tasks marks it. -/
theorem Visit.Reads.endless_iff (hc : proto.Lawful) (hnew : RelayAgent.new config = .ok agent)
    (hspawn : agent.spawnV4Tasks bind = .ok tasks) (hhost : deliver.OnOneHost tasks)
    (hv : v.task ∈ tasks) (hsome : config.dhcpv4.serverAddrs ≠ []) (h : v.Reads proto msg)
    (hrelays : v.task.requestArgs.Relays false msg) :
    Endless (Visit.Next proto tasks deliver) v
      ↔ ∃ back, v.task.Leads tasks deliver back ∧ (msg.giaddr = .unspecified
        → config.dhcpv4.enableOption82 = false ∧ v.task.ifaceIp = .unspecified
          ∧ back.ifaceIp = .unspecified) := by
  have htasks := fun t (ht : t ∈ tasks) => (RelayAgent.spawned_inv hnew hspawn ht)
  have hsetting : ∀ t ∈ tasks, t.ctx.enableOption82 = config.dhcpv4.enableOption82 := by
    intro t ht
    rw [(htasks t ht).1]
    rfl
  constructor
  · intro hendless
    obtain ⟨via, last, hlength, hwalk⟩ := hendless 2
    obtain ⟨u, u', rfl⟩ := List.length_eq_two.mp hlength
    simp only [Walk.cons_iff, Walk.nil_iff] at hwalk
    obtain ⟨hfirst, hsecond, hthird⟩ := hwalk
    obtain ⟨-, hleads, hreads⟩ := h.next hc (fun t ht => (htasks t ht).2) hfirst
    obtain ⟨hrelays', -, -⟩ := hreads.next hc (fun t ht => (htasks t ht).2) hsecond
    -- a mark of the one or the other would have stopped it
    have hopen : v.task.LeavesUnmarked msg := by
      by_contra hmarked
      exact h.rests_of_marked hc hnew hspawn hv hmarked hfirst hsecond
    have hopen' : u.task.LeavesUnmarked (v.task.requestArgs.relayed msg) := by
      by_contra hmarked
      exact hreads.rests_of_marked hc hnew hspawn hleads.1 hmarked hsecond hthird
    refine ⟨u.task, hleads, fun hzero => ?_⟩
    obtain ⟨hoff, hip⟩ := (V4Task.leavesUnmarked_iff hrelays).mp hopen hzero
    obtain ⟨-, hip'⟩ :=
      (V4Task.leavesUnmarked_iff hrelays').mp hopen' (hopen.giaddr.trans hzero)
    exact ⟨(hsetting v.task hv).symm.trans hoff, hip, hip'⟩
  · rintro ⟨back, hleads, hopen⟩
    have hunmarked : v.task.LeavesUnmarked msg := by
      refine (V4Task.leavesUnmarked_iff hrelays).mpr fun hzero => ?_
      obtain ⟨hoff, hip, -⟩ := hopen hzero
      exact ⟨(hsetting v.task hv).trans hoff, hip⟩
    -- it comes to `back` again and again
    refine h.endless hc htasks hv hunmarked fun t ht => ⟨back, ⟨hleads.1, ?_⟩, fun hzero => ?_⟩
    · obtain ⟨src', hbrought⟩ := hleads.2
      rw [RelayAgent.serverAddr_eq hnew hspawn hsome hv ht]
      exact hhost v.task hv t ht _ back src' hbrought
    · exact (hopen hzero).2.2

/-- **When the agent relays to itself.** Where no configured server is an address of the agent, a
client's datagram is sent elsewhere and is not handled over and over exactly if it is not relayed
at all, or if there is a server and, as far as sockets of the agent hear that server's address,
it is a first-relay packet and is marked by one of the first two tasks that relay it. -/
theorem V4Task.never_self_iff (hc : proto.Lawful) (hnew : RelayAgent.new config = .ok agent)
    (hspawn : agent.spawnV4Tasks bind = .ok tasks) (hhost : deliver.OnOneHost tasks)
    (htask : task ∈ tasks)
    (hservers : ∀ server ∈ config.dhcpv4.serverAddrs, server ∉ config.v4BindAddrs)
    (hdec : proto.decode data = .ok msg) (hclient : V4.isClient msg = true) (stats : RelayStats)
    (src : SocketAddr) :
    ((∀ d, (task.receive proto stats data src).2 = some d → d.dst ∉ config.v4BindAddrs)
        ∧ ¬ Endless (Visit.Next proto tasks deliver) ⟨task, data, src⟩)
      ↔ ¬ task.requestArgs.Relays false msg
        ∨ config.dhcpv4.serverAddrs ≠ []
          ∧ ∀ back, task.Leads tasks deliver back → msg.giaddr = .unspecified
            ∧ (config.dhcpv4.enableOption82 = true ∨ task.ifaceIp ≠ .unspecified
              ∨ back.ifaceIp ≠ .unspecified) := by
  have hvss : task.requestArgs.VssAccepted := (RelayAgent.spawned_inv hnew hspawn htask).2
  have hreads := Visit.Reads.start hdec hclient hvss src
  rw [V4Task.sent_elsewhere_iff hc hnew hspawn htask hservers hdec hclient stats src]
  by_cases hrelays : task.requestArgs.Relays false msg
  · have hnot : ¬ task.requestArgs.Relays false msg ↔ False := not_iff_false_intro hrelays
    rw [hnot, false_or, false_or]
    refine and_congr_right fun hsome => ?_
    have hendless := hreads.endless_iff hc hnew hspawn hhost htask hsome hrelays
    rw [hendless, not_exists]
    refine forall_congr' fun back => ?_
    rw [not_and, Classical.not_imp]
    refine imp_congr_right fun _ => and_congr_right fun _ => ?_
    rw [not_and_or, not_and_or, Bool.not_eq_false]
  · -- what is not relayed comes to no task again
    have hrests : ¬ Endless (Visit.Next proto tasks deliver) ⟨task, data, src⟩ := by
      intro hendless
      obtain ⟨via, last, hlength, hwalk⟩ := hendless 0
      obtain rfl := List.length_eq_zero_iff.mp hlength
      have htasks := fun t (ht : t ∈ tasks) => (RelayAgent.spawned_inv hnew hspawn ht).2
      exact hrelays (hreads.next hc htasks (Walk.nil_iff.mp hwalk)).1
    exact ⟨fun _ => .inl hrelays, fun _ => ⟨.inl hrelays, hrests⟩⟩

/-- Without a server a task relays to its own address. -/
theorem RelayAgent.serverAddr_of_none (hnew : RelayAgent.new config = .ok agent)
    (hspawn : agent.spawnV4Tasks bind = .ok tasks) (hnone : config.dhcpv4.serverAddrs = [])
    (htask : task ∈ tasks) : task.bindAddr = task.serverAddr := by
  obtain ⟨iface, -, -, bindAddr, -, -, rfl⟩ := mem_spawnV4Tasks hspawn htask
  obtain ⟨rfl, -⟩ := new_inv hnew
  simp [V4Task.mkFor, hnone]

/-- **What circulates without a server.** At an interface with an IPv4 address, and where what
is sent to the address of a task comes to a task of the agent, what another relay sent is handled
over and over; a first-relay packet is handled twice, the second time as a spoof. -/
theorem V4Task.circulates_iff (hc : proto.Lawful) (hnew : RelayAgent.new config = .ok agent)
    (hspawn : agent.spawnV4Tasks bind = .ok tasks)
    (hself : ∀ t ∈ tasks, ∃ back ∈ tasks, ∃ src', deliver t t.bindAddr back src')
    (hnone : config.dhcpv4.serverAddrs = []) (htask : task ∈ tasks)
    (hip : task.ifaceIp ≠ .unspecified) (hdec : proto.decode data = .ok msg)
    (hclient : V4.isClient msg = true) (src : SocketAddr) :
    Endless (Visit.Next proto tasks deliver) ⟨task, data, src⟩
      ↔ msg.giaddr ≠ .unspecified ∧ msg.giaddr ∉ task.ctx.localAddrs := by
  have htasks := fun t (ht : t ∈ tasks) => (RelayAgent.spawned_inv hnew hspawn ht)
  have hreads := Visit.Reads.start hdec hclient (htasks task htask).2 src
  have hother : task.LeavesUnmarked msg
      ↔ msg.giaddr ≠ .unspecified ∧ msg.giaddr ∉ task.ctx.localAddrs := by
    unfold V4Task.LeavesUnmarked
    split
    · next hzero => simp [hzero, hip]
    · next hset => simp [hset]
  rw [← hother]
  constructor
  · intro hendless
    by_contra hmarked
    obtain ⟨via, last, hlength, hwalk⟩ := hendless 1
    obtain ⟨u, rfl⟩ := List.length_eq_one_iff.mp hlength
    simp only [Walk.cons_iff, Walk.nil_iff] at hwalk
    exact hreads.rests_of_marked hc hnew hspawn htask hmarked hwalk.1 hwalk.2
  · intro hopen
    refine hreads.endless hc htasks htask hopen fun t ht => ?_
    obtain ⟨back, hback, src', hbrought⟩ := hself t ht
    rw [RelayAgent.serverAddr_of_none hnew hspawn hnone ht] at hbrought
    exact ⟨back, ⟨hback, src', hbrought⟩, fun hzero => absurd hzero (hother.mp hopen).1⟩

end

/-! ### Samples -/

/-- A host whose sockets are bound to addresses of its own, where a socket gets what is sent to
the address it is bound to. -/
def sampleDelivery : Delivery := fun task dst back src => back.bindAddr = dst ∧ src = task.bindAddr

theorem sampleDelivery_onOneHost (tasks : List V4Task) : sampleDelivery.OnOneHost tasks :=
  fun _ _ t' _ _ _ _ hbrought => ⟨t'.bindAddr, hbrought.1, rfl⟩

/-- The sample configuration has no server. -/
theorem sampleReforwarded_circulates :
    V4.Wire.wire.Lawful
      ∧ RelayAgent.new (sampleConfig (some "c") (some "r"))
        = .ok (sampleAgent (some "c") (some "r"))
      ∧ (sampleAgent (some "c") (some "r")).spawnV4Tasks (fun _ => .ok ())
        = .ok [sampleTask (some "c") (some "r")]
      ∧ sampleDelivery.OnOneHost [sampleTask (some "c") (some "r")]
      ∧ (∀ server ∈ (sampleConfig (some "c") (some "r")).dhcpv4.serverAddrs,
        server ∉ (sampleConfig (some "c") (some "r")).v4BindAddrs)
      ∧ V4.Wire.wire.decode (V4.Wire.writeMessage V4.sampleReforwarded) = .ok V4.sampleReforwarded
      ∧ V4.isClient V4.sampleReforwarded = true
      ∧ (∃ d, ((sampleTask (some "c") (some "r")).receive V4.Wire.wire {}
            (V4.Wire.writeMessage V4.sampleReforwarded) V4.sampleClient).2 = some d
          ∧ d.dst ∈ (sampleConfig (some "c") (some "r")).v4BindAddrs)
      ∧ Endless (Visit.Next V4.Wire.wire [sampleTask (some "c") (some "r")] sampleDelivery)
          ⟨sampleTask (some "c") (some "r"), V4.Wire.writeMessage V4.sampleReforwarded,
            V4.sampleClient⟩ := by
  have hnew := sampleAgent_new (some "c") (some "r")
  have hspawn := sampleAgent_spawn (some "c") (some "r")
  have hset : V4.sampleReforwarded.giaddr ≠ .unspecified := by decide +kernel
  have hforeign : V4.sampleReforwarded.giaddr
      ∉ (sampleTask (some "c") (some "r")).ctx.localAddrs := by decide +kernel
  have hvss : (sampleTask (some "c") (some "r")).requestArgs.VssAccepted :=
    (RelayAgent.spawned_inv hnew hspawn List.mem_cons_self).2
  have hrelays : (sampleTask (some "c") (some "r")).requestArgs.Relays false
      V4.sampleReforwarded := by
    rw [V4.RequestArgs.Relays, if_neg hset]
    exact hforeign
  obtain ⟨d, hsent, hdst, -⟩ := V4Task.sent_relayed V4.Wire.wire_lawful hvss
    V4.sampleReforwarded_decode rfl hrelays {} V4.sampleClient
  have hbound : (sampleTask (some "c") (some "r")).serverAddr
      ∈ (sampleConfig (some "c") (some "r")).v4BindAddrs := by decide +kernel
  have hip : (sampleTask (some "c") (some "r")).ifaceIp ≠ .unspecified := by decide +kernel
  have hself : ∀ t ∈ [sampleTask (some "c") (some "r")], ∃ back ∈ [sampleTask (some "c") (some "r")],
      ∃ src, sampleDelivery t t.bindAddr back src :=
    fun t ht => ⟨t, ht, t.bindAddr, rfl, rfl⟩
  exact ⟨V4.Wire.wire_lawful, hnew, hspawn, sampleDelivery_onOneHost _, by simp [sampleConfig],
    V4.sampleReforwarded_decode, rfl, ⟨d, hsent, hdst ▸ hbound⟩,
    (V4Task.circulates_iff V4.Wire.wire_lawful hnew hspawn hself rfl List.mem_cons_self hip
      V4.sampleReforwarded_decode rfl V4.sampleClient).mpr ⟨hset, hforeign⟩⟩

/-- The sample configuration with a server. -/
def sampleServerConfig : RelayConfig where
  interfaces := [sampleInterface]
  dhcpv4 := {
    serverAddrs := [.new (.v4 ⟨192, 0, 2, 1⟩) 67]
    circuitId := some "c"
    remoteId := some "r" }

def sampleServerTask : V4Task :=
  .mkFor sampleServerConfig sampleInterface sampleBindAddr

/-- With a server that no socket of the agent hears it is sent to the server, and does not come
back. -/
theorem sampleReforwarded_never_self :
    (∀ d, (sampleServerTask.receive V4.Wire.wire {} (V4.Wire.writeMessage V4.sampleReforwarded)
          V4.sampleClient).2 = some d → d.dst ∉ sampleServerConfig.v4BindAddrs)
      ∧ ¬ Endless (Visit.Next V4.Wire.wire [sampleServerTask] sampleDelivery)
          ⟨sampleServerTask, V4.Wire.writeMessage V4.sampleReforwarded, V4.sampleClient⟩ := by
  have hnew : RelayAgent.new sampleServerConfig = .ok ⟨sampleServerConfig, {}⟩ := rfl
  have hspawn : (RelayAgent.mk sampleServerConfig {}).spawnV4Tasks (fun _ => .ok ())
      = .ok [sampleServerTask] := sampleInterface_spawn rfl
  have hservers : ∀ server ∈ sampleServerConfig.dhcpv4.serverAddrs,
      server ∉ sampleServerConfig.v4BindAddrs := by decide +kernel
  have hone : sampleServerConfig.dhcpv4.serverAddrs ≠ [] := by simp [sampleServerConfig]
  refine (V4Task.never_self_iff V4.Wire.wire_lawful hnew hspawn (sampleDelivery_onOneHost _)
    List.mem_cons_self hservers V4.sampleReforwarded_decode rfl {} V4.sampleClient).mpr
    (.inr ⟨hone, fun back hleads => ?_⟩)
  obtain ⟨hback, src, hbound, -⟩ := hleads
  obtain rfl := List.mem_singleton.mp hback
  exact absurd hbound (by decide +kernel)

end DhcpRelay
