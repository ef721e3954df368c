import DhcpRelay.AgentV4Loop

/-!
# DhcpRelay.AgentV4Path

**The way of a request through the relays.** The tasks here may be those of any number of
agents, and what they send may come to any of them, or to none, as the delivery has it.

A request that its first relay lets pass follows the addresses that the tasks on its way take for
the server's, and the VSS of the last relay passed is all there is to be seen of that way in the
message (`Visit.Reads.walk`).
-/

namespace DhcpRelay

open DhcpRelay.Library

/-! ### Stamping more than once -/

namespace V4

theorem Vss.addTo_addTo (data data' : Bytes) (info : RelayAgentInformation) :
    Vss.addTo data' (Vss.addTo data info) = Vss.addTo data' info := by
  apply KeyedMap.ext_get?
  intro code
  rw [Vss.get?_addTo, Vss.get?_addTo, Vss.get?_addTo]
  split
  · rfl
  · split <;> rfl

namespace RequestArgs

variable {args args' : RequestArgs} {msg : Message}

theorem stamp_of_payload_none (h : args.vssPayload = none) (msg : Message) :
    args.stamp msg = msg := by
  cases h82 : msg.option82 with
  | none => exact stamp_of_none h82
  | some info => rw [stamp_of_some h82, stampInfo, h, Message.withOption82_eq_self h82]

/-- The last stamp covers the one before. -/
theorem stamp_stamp {data : Bytes} (h : args'.vssPayload = some data) (args : RequestArgs)
    (msg : Message) : args'.stamp (args.stamp msg) = args'.stamp msg := by
  cases h82 : msg.option82 with
  | none => rw [stamp_of_none h82]
  | some info =>
      rw [stamp_of_some h82, stamp_of_some (Message.option82_withOption82 _ _), stamp_of_some h82,
        Message.withOption82_withOption82]
      simp only [stampInfo, h]
      cases args.vssPayload with
      | none => rfl
      | some data' => rw [Vss.addTo_addTo]

theorem relayed_of_set (h : msg.giaddr ≠ .unspecified) : args.relayed msg = args.stamp msg :=
  if_neg h

instance (trusted : Bool) : Decidable (args.Relays trusted msg) := by
  unfold Relays
  infer_instance

end RequestArgs

end V4

/-- The task is one of those that an agent has spawned. -/
def V4Task.Spawned (task : V4Task) : Prop :=
  ∃ config agent bind tasks, RelayAgent.new config = .ok agent
    ∧ agent.spawnV4Tasks bind = .ok tasks ∧ task ∈ tasks

theorem V4Task.Spawned.accepted {task : V4Task} (h : task.Spawned) :
    task.requestArgs.VssAccepted := by
  obtain ⟨config, agent, bind, tasks, hnew, hspawn, htask⟩ := h
  exact (RelayAgent.spawned_inv hnew hspawn htask).2

/-! ### The last stamp -/

/-- The message as the last of these tasks that has VSS on stamps it. -/
def V4.lastStamp (passed : List V4Task) (msg : V4.Message) : V4.Message :=
  match (passed.filter fun task => task.requestArgs.vssPayload.isSome).getLast? with
  | some task => task.requestArgs.stamp msg
  | none => msg

@[simp] theorem V4.lastStamp_nil (msg : V4.Message) : V4.lastStamp [] msg = msg := rfl

/-- The tasks stamp the message one after the other. -/
theorem V4.lastStamp_cons (task : V4Task) (passed : List V4Task) (msg : V4.Message) :
    V4.lastStamp (task :: passed) msg = V4.lastStamp passed (task.requestArgs.stamp msg) := by
  unfold lastStamp
  cases hpayload : task.requestArgs.vssPayload with
  | none =>
      rw [V4.RequestArgs.stamp_of_payload_none hpayload,
        List.filter_cons_of_neg (by simp [hpayload])]
  | some data =>
      rw [List.filter_cons_of_pos (by simp [hpayload]), List.getLast?_cons]
      cases hlast : (passed.filter fun task => task.requestArgs.vssPayload.isSome).getLast? with
      | none => rfl
      | some last =>
          -- the stamp of `last` covers that of `task`
          have hon := (List.mem_filter.mp (List.mem_of_getLast? hlast)).2
          obtain ⟨data', hpayload'⟩ := Option.isSome_iff_exists.mp hon
          exact (V4.RequestArgs.stamp_stamp hpayload' _ _).symm

/-! ### Ways -/

section

variable {proto : V4.Codec} {tasks passed : List V4Task} {deliver : Delivery} {last : V4Task}
  {via : List Visit} {v w : Visit} {msg : V4.Message}

/-- A task relays a request that has a giaddr if the giaddr is not its own. -/
theorem V4Task.relays_iff_of_set {task : V4Task} (h : msg.giaddr ≠ .unspecified) :
    task.requestArgs.Relays false msg ↔ msg.giaddr ∉ task.ctx.localAddrs := by
  rw [V4.RequestArgs.Relays, if_neg h]
  rfl

/-- Once giaddr is set no relay changes it. -/
theorem V4.RequestArgs.giaddr_relayed_of_set (args : V4.RequestArgs)
    (h : msg.giaddr ≠ .unspecified) : (args.relayed msg).giaddr = msg.giaddr := by
  rw [V4.RequestArgs.giaddr_relayed, if_neg h]

/-- **The way of a request**: the first relay decides on it as it came; from there it gets from
task to task where the servers lead it, over none whose address giaddr is, and is stamped by the
last of them that does so. -/
theorem Visit.Reads.walk (hc : proto.Lawful)
    (htasks : ∀ task ∈ tasks, task.requestArgs.VssAccepted) (h : v.Reads proto msg)
    (hset : (v.task.requestArgs.relayed msg).giaddr ≠ .unspecified)
    (hwalk : Walk (Visit.Next proto tasks deliver) v via w) :
    v.task.requestArgs.Relays false msg
      ∧ Walk (V4Task.Leads tasks deliver) v.task (via.map Visit.task) w.task
      ∧ (∀ task ∈ via.map Visit.task,
        (v.task.requestArgs.relayed msg).giaddr ∉ task.ctx.localAddrs)
      ∧ w.Reads proto (V4.lastStamp (via.map Visit.task) (v.task.requestArgs.relayed msg)) := by
  induction via generalizing v msg with
  | nil =>
      obtain ⟨hrelays, hleads, hreads⟩ := h.next hc htasks (Walk.nil_iff.mp hwalk)
      exact ⟨hrelays, Walk.nil_iff.mpr hleads, by simp, hreads⟩
  | cons u via ih =>
      obtain ⟨hnext, hrest⟩ := Walk.cons_iff.mp hwalk
      obtain ⟨hrelays, hleads, hreads⟩ := h.next hc htasks hnext
      have hkept := u.task.requestArgs.giaddr_relayed_of_set hset
      obtain ⟨hrelays', hway, hopen, hlast⟩ := ih hreads (hkept ▸ hset) hrest
      rw [hkept] at hopen
      refine ⟨hrelays, Walk.cons_iff.mpr ⟨hleads, hway⟩, ?_, ?_⟩
      · exact List.forall_mem_cons.mpr ⟨(V4Task.relays_iff_of_set hset).mp hrelays', hopen⟩
      · rwa [List.map_cons, V4.lastStamp_cons, ← V4.RequestArgs.relayed_of_set hset]

/-- Where the first relay lets it pass and the servers lead, over tasks whose address giaddr is
not, it can get. -/
theorem Visit.Reads.exists_walk (hc : proto.Lawful)
    (htasks : ∀ task ∈ tasks, task.requestArgs.VssAccepted) (h : v.Reads proto msg)
    (hset : (v.task.requestArgs.relayed msg).giaddr ≠ .unspecified)
    (hrelays : v.task.requestArgs.Relays false msg)
    (hway : Walk (V4Task.Leads tasks deliver) v.task passed last)
    (hopen : ∀ task ∈ passed, (v.task.requestArgs.relayed msg).giaddr ∉ task.ctx.localAddrs) :
    ∃ via w, via.map Visit.task = passed ∧ w.task = last
      ∧ Walk (Visit.Next proto tasks deliver) v via w := by
  induction passed generalizing v msg with
  | nil =>
      obtain ⟨w, hnext, hlast⟩ := h.exists_next hc hrelays (Walk.nil_iff.mp hway)
      exact ⟨[], w, rfl, hlast, Walk.nil_iff.mpr hnext⟩
  | cons second passed ih =>
      obtain ⟨hleads, hrest⟩ := Walk.cons_iff.mp hway
      obtain ⟨hsecond, hothers⟩ := List.forall_mem_cons.mp hopen
      obtain ⟨u, hnext, rfl⟩ := h.exists_next hc hrelays hleads
      obtain ⟨-, -, hreads⟩ := h.next hc htasks hnext
      have hkept := u.task.requestArgs.giaddr_relayed_of_set hset
      obtain ⟨via, w, rfl, hlast, hwalk⟩ := ih hreads (hkept ▸ hset)
        ((V4Task.relays_iff_of_set hset).mpr hsecond) hrest fun task ht => hkept ▸ hothers task ht
      exact ⟨u :: via, w, rfl, hlast, Walk.cons_iff.mpr ⟨hnext, hwalk⟩⟩

end

/-! ### Where a request is, and whether it ever comes to rest -/

section

variable {proto : V4.Codec} {tasks : List V4Task} {deliver : Delivery} {task : V4Task}
  {msg : V4.Message} {data : Bytes} {giaddr : Ipv4Addr}

/-- **Where a request can be after so many relays, and as what.** The first relay decides on it as
it came; from there it gets where the servers lead, up to a task whose address giaddr is. Of the
relays behind the first nothing is to be seen in it but the VSS of the last that has it on. -/
theorem request_after (hc : proto.Lawful) (htasks : ∀ task ∈ tasks, task.Spawned)
    (htask : task ∈ tasks) (hdec : proto.decode data = .ok msg) (hclient : V4.isClient msg = true)
    (hset : (task.requestArgs.relayed msg).giaddr ≠ .unspecified) (src : SocketAddr)
    (passed : List V4Task) (last : V4Task) :
    ((∃ via w, via.map Visit.task = passed ∧ w.task = last
          ∧ Walk (Visit.Next proto tasks deliver) ⟨task, data, src⟩ via w)
        ↔ task.requestArgs.Relays false msg ∧ Walk (V4Task.Leads tasks deliver) task passed last
          ∧ ∀ t ∈ passed, (task.requestArgs.relayed msg).giaddr ∉ t.ctx.localAddrs)
      ∧ ∀ via w, via.map Visit.task = passed →
        Walk (Visit.Next proto tasks deliver) ⟨task, data, src⟩ via w →
        w.Reads proto (V4.lastStamp passed (task.requestArgs.relayed msg)) := by
  have haccepted : ∀ task ∈ tasks, task.requestArgs.VssAccepted :=
    fun task ht => (htasks task ht).accepted
  have hreads := Visit.Reads.start hdec hclient (haccepted task htask) src
  refine ⟨⟨?_, ?_⟩, ?_⟩
  · rintro ⟨via, w, rfl, rfl, hwalk⟩
    obtain ⟨hrelays, hway, hopen, -⟩ := hreads.walk hc haccepted hset hwalk
    exact ⟨hrelays, hway, hopen⟩
  · rintro ⟨hrelays, hway, hopen⟩
    exact hreads.exists_walk hc haccepted hset hrelays hway hopen
  · rintro via w rfl hwalk
    obtain ⟨-, -, -, hlast⟩ := hreads.walk hc haccepted hset hwalk
    exact hlast

/-- The servers lead on from the task over as many tasks as there are, none of them one whose
address giaddr is. -/
def V4Task.LeadsOn (tasks : List V4Task) (deliver : Delivery) (task : V4Task)
    (giaddr : Ipv4Addr) : Prop :=
  ∃ passed last, passed.length = tasks.length ∧ Walk (V4Task.Leads tasks deliver) task passed last
    ∧ ∀ t ∈ passed, giaddr ∉ t.ctx.localAddrs

/-- Then they lead on for ever. -/
theorem V4Task.LeadsOn.forever (h : task.LeadsOn tasks deliver giaddr) (n : Nat) :
    ∃ passed last, passed.length = n ∧ Walk (V4Task.Leads tasks deliver) task passed last
      ∧ ∀ t ∈ passed, giaddr ∉ t.ctx.localAddrs := by
  obtain ⟨passed, last, hlength, hway, hopen⟩ := h
  have hplaces : ∀ t ∈ passed ++ [last], t ∈ tasks :=
    hway.forall_places fun _ _ hleads => hleads.1
  obtain ⟨passed', last', hlength', hsub, hway'⟩ := hway.forever hplaces hlength.ge n
  exact ⟨passed', last', hlength', hway', fun t ht => hopen t (hsub t ht)⟩

/-- **When a request can be relayed for ever.** The servers decide it: they lead from task to
task, over none whose address giaddr is. A way over as many tasks as there are need not end. -/
theorem request_circulates_iff (hc : proto.Lawful) (htasks : ∀ task ∈ tasks, task.Spawned)
    (htask : task ∈ tasks) (hdec : proto.decode data = .ok msg) (hclient : V4.isClient msg = true)
    (hset : (task.requestArgs.relayed msg).giaddr ≠ .unspecified) (src : SocketAddr) :
    (Endless (Visit.Next proto tasks deliver) ⟨task, data, src⟩
        ↔ task.requestArgs.Relays false msg
          ∧ task.LeadsOn tasks deliver (task.requestArgs.relayed msg).giaddr)
      ∧ (Endless (Visit.Next proto tasks deliver) ⟨task, data, src⟩
        ↔ ∃ via w, via.length = tasks.length
          ∧ Walk (Visit.Next proto tasks deliver) ⟨task, data, src⟩ via w) := by
  have haccepted : ∀ task ∈ tasks, task.requestArgs.VssAccepted :=
    fun task ht => (htasks task ht).accepted
  have hreads := Visit.Reads.start hdec hclient (haccepted task htask) src
  have hlong : (∃ via w, via.length = tasks.length
        ∧ Walk (Visit.Next proto tasks deliver) ⟨task, data, src⟩ via w) →
      task.requestArgs.Relays false msg
        ∧ task.LeadsOn tasks deliver (task.requestArgs.relayed msg).giaddr := by
    rintro ⟨via, w, hlength, hwalk⟩
    obtain ⟨hrelays, hway, hopen, -⟩ := hreads.walk hc haccepted hset hwalk
    exact ⟨hrelays, via.map Visit.task, w.task, by rw [List.length_map, hlength], hway, hopen⟩
  have hforever : (task.requestArgs.Relays false msg
        ∧ task.LeadsOn tasks deliver (task.requestArgs.relayed msg).giaddr) →
      Endless (Visit.Next proto tasks deliver) ⟨task, data, src⟩ := by
    rintro ⟨hrelays, hon⟩ n
    obtain ⟨passed, last, hlength, hway, hopen⟩ := hon.forever n
    obtain ⟨via, w, hvia, -, hwalk⟩ :=
      hreads.exists_walk hc haccepted hset hrelays hway hopen
    exact ⟨via, w, by rw [← hlength, ← hvia, List.length_map], hwalk⟩
  exact ⟨⟨fun h => hlong (h _), hforever⟩, fun h => h _, fun h => hforever (hlong h)⟩

end

/-! ### Two relays that take each other for the server -/

/-- The interface of a relay. -/
def ringInterface (ipAddr : String) : InterfaceConfig where
  name := "eth0"
  ipAddr := ipAddr

def ringAddr (host : UInt8) : SocketAddr := .new (.v4 ⟨10, 0, 0, host⟩) 67

/-- A relay with that interface, for that server. -/
def ringConfig (ipAddr : String) (server : UInt8) (vss : Bool) : RelayConfig where
  interfaces := [ringInterface ipAddr]
  dhcpv4 := {
    serverAddrs := [ringAddr server]
    circuitId := some "c"
    vss := { enabled := vss } }

def ringLeft : V4Task :=
  .mkFor (ringConfig "10.0.0.1:67" 2 false) (ringInterface "10.0.0.1:67") (ringAddr 1)

def ringRight : V4Task :=
  .mkFor (ringConfig "10.0.0.2:67" 1 true) (ringInterface "10.0.0.2:67") (ringAddr 2)

def ring : List V4Task := [ringLeft, ringRight]

theorem ringConfig_new (ipAddr : String) (server : UInt8) (vss : Bool) :
    RelayAgent.new (ringConfig ipAddr server vss) = .ok ⟨ringConfig ipAddr server vss, {}⟩ := by
  cases vss with
  | false => rfl
  | true => rfl

theorem ringConfig_spawn {ipAddr : String} {host : UInt8}
    (hparse : SocketAddr.parse ipAddr.toList = some (ringAddr host)) (server : UInt8) (vss : Bool) :
    (RelayAgent.mk (ringConfig ipAddr server vss) {}).spawnV4Tasks (fun _ => .ok ())
      = .ok [.mkFor (ringConfig ipAddr server vss) (ringInterface ipAddr) (ringAddr host)] := by
  have htask : V4Task.spawn (ringConfig ipAddr server vss) (fun _ => .ok ()) (ringInterface ipAddr)
      = .ok (.mkFor (ringConfig ipAddr server vss) (ringInterface ipAddr) (ringAddr host)) := by
    rw [V4Task.spawn, ringInterface, hparse]
  have hlist : (ringConfig ipAddr server vss).interfaces.filter (·.enabled)
      = [ringInterface ipAddr] := rfl
  rw [RelayAgent.spawnV4Tasks, hlist, List.mapM_cons, htask]
  rfl

theorem ringConfig_spawned {ipAddr : String} {host : UInt8}
    (hparse : SocketAddr.parse ipAddr.toList = some (ringAddr host)) (server : UInt8) (vss : Bool) :
    (V4Task.mkFor (ringConfig ipAddr server vss) (ringInterface ipAddr) (ringAddr host)).Spawned :=
  ⟨_, _, _, _, ringConfig_new ipAddr server vss, ringConfig_spawn hparse server vss,
    List.mem_singleton_self _⟩

theorem ring_spawned : ∀ task ∈ ring, task.Spawned := by
  intro task htask
  have h : task = ringLeft ∨ task = ringRight := by simpa [ring] using htask
  rcases h with rfl | rfl
  · exact ringConfig_spawned (by decide +kernel) 2 false
  · exact ringConfig_spawned (by decide +kernel) 1 true

theorem ringLeft_relays : ringLeft.requestArgs.Relays false V4.sampleReforwarded := by
  decide +kernel

theorem ringLeft_relayed :
    ringLeft.requestArgs.relayed V4.sampleReforwarded = V4.sampleReforwarded := by
  rw [V4.RequestArgs.relayed_of_set (by decide), V4.RequestArgs.stamp_of_payload_none rfl]

theorem ringLeft_leads : ringLeft.Leads ring sampleDelivery ringRight :=
  ⟨by simp [ring], ringLeft.bindAddr, by decide +kernel, rfl⟩

theorem ringRight_leads : ringRight.Leads ring sampleDelivery ringLeft :=
  ⟨by simp [ring], ringRight.bindAddr, by decide +kernel, rfl⟩

/-- A request of another relay comes back to the first of the two with the VSS of the second. -/
theorem ring_after :
    ∃ via w, via.map Visit.task = [ringRight] ∧ w.task = ringLeft
      ∧ Walk (Visit.Next V4.Wire.wire ring sampleDelivery)
        ⟨ringLeft, V4.Wire.writeMessage V4.sampleReforwarded, V4.sampleClient⟩ via w
      ∧ w.Reads V4.Wire.wire (ringRight.requestArgs.stamp V4.sampleReforwarded) := by
  have hforeign : ∀ t ∈ [ringRight], V4.sampleReforwarded.giaddr ∉ t.ctx.localAddrs := by
    rw [List.forall_mem_singleton]
    decide +kernel
  have hset : (ringLeft.requestArgs.relayed V4.sampleReforwarded).giaddr ≠ .unspecified := by
    rw [ringLeft_relayed]
    decide
  have hway : Walk (V4Task.Leads ring sampleDelivery) ringLeft [ringRight] ringLeft :=
    Walk.cons_iff.mpr ⟨ringLeft_leads, Walk.nil_iff.mpr ringRight_leads⟩
  obtain ⟨hiff, hread⟩ := request_after V4.Wire.wire_lawful ring_spawned List.mem_cons_self
    V4.sampleReforwarded_decode rfl hset V4.sampleClient [ringRight] ringLeft
  rw [ringLeft_relayed] at hiff hread
  obtain ⟨via, w, hvia, hlast, hwalk⟩ := hiff.mpr ⟨ringLeft_relays, hway, hforeign⟩
  exact ⟨via, w, hvia, hlast, hwalk, hread via w hvia hwalk⟩

/-- It is relayed for ever; what comes from a client is not. -/
theorem ring_circulates :
    Endless (Visit.Next V4.Wire.wire ring sampleDelivery)
        ⟨ringLeft, V4.Wire.writeMessage V4.sampleReforwarded, V4.sampleClient⟩
      ∧ ¬ Endless (Visit.Next V4.Wire.wire ring sampleDelivery)
        ⟨ringLeft, V4.Wire.writeMessage V4.sampleDiscover, V4.sampleClient⟩ := by
  have hset : (ringLeft.requestArgs.relayed V4.sampleReforwarded).giaddr ≠ .unspecified := by
    rw [ringLeft_relayed]
    decide
  have hown : (ringLeft.requestArgs.relayed V4.sampleDiscover).giaddr ≠ .unspecified := by
    rw [V4.RequestArgs.giaddr_relayed]
    decide +kernel
  constructor
  · refine (request_circulates_iff V4.Wire.wire_lawful ring_spawned List.mem_cons_self
      V4.sampleReforwarded_decode rfl hset V4.sampleClient).1.mpr ⟨ringLeft_relays, ?_⟩
    rw [ringLeft_relayed]
    refine ⟨[ringRight, ringLeft], ringRight, rfl, ?_, ?_⟩
    · simp [ringLeft_leads, ringRight_leads]
    · simp only [List.forall_mem_cons]
      exact ⟨by decide +kernel, by decide +kernel, by simp⟩
  · intro hforever
    obtain ⟨-, passed, last, hlength, hway, hopen⟩ := (request_circulates_iff V4.Wire.wire_lawful
      ring_spawned List.mem_cons_self V4.sampleDiscover_decode rfl hown V4.sampleClient).1.mp
      hforever
    obtain ⟨second, third, rfl⟩ := List.length_eq_two.mp hlength
    simp only [Walk.cons_iff, Walk.nil_iff] at hway
    obtain ⟨⟨hsecond, src, hfirst, -⟩, ⟨hthird, src', hback, -⟩, -⟩ := hway
    -- the second relay behind the first is the first
    obtain rfl : second = ringRight := by
      have hcases : second = ringLeft ∨ second = ringRight := by simpa [ring] using hsecond
      exact hcases.resolve_left fun heq => absurd (heq ▸ hfirst) (by decide +kernel)
    obtain rfl : third = ringLeft := by
      have hcases : third = ringLeft ∨ third = ringRight := by simpa [ring] using hthird
      exact hcases.resolve_right fun heq => absurd (heq ▸ hback) (by decide +kernel)
    have hforeign := hopen ringLeft (by simp)
    rw [V4.RequestArgs.giaddr_relayed] at hforeign
    exact hforeign (by decide +kernel)

end DhcpRelay
