import DhcpRelay.AgentV6
import DhcpRelay.Library.Cascade
import DhcpRelay.V6.Nesting

/-!
# DhcpRelay.AgentV6Network

**DHCPv6 relays that send to one another.** The tasks may be those of any number of agents.
What one of them sends is heard by some of the others, in any order, or it is lost. Who hears
what is sent to an address is a parameter, and so it may be a group that is sent to.

There are no loops among them, and no chains: a Relay-reply is unwrapped to the end, so what
is sent is none; a client's message is sent on as a Relay-forward; and a Relay-forward is for
servers, no relay has an ear for it. So of any datagram there come two generations at most.
-/

namespace DhcpRelay

open DhcpRelay.Library

/-! ### What a task sends -/

/-- Messages that begin with the type RELAY-FORW are read as messages of that type. -/
def V6.Codec.ReadsRelayForw (proto : V6.Codec) : Prop :=
  ∀ bytes msg, proto.decode bytes = .ok msg → bytes.head? = some V6.RelayFwd.relayForw →
    msg.msgType = .relayForw

section

variable {proto : V6.Codec} {data : Bytes} {src : SocketAddr} {ifaceName : String}
  {vssCfg : Option VssConfig} {task : V6Task} {localAddr : Option SocketAddr}
  {stats : RelayStats} {d : Datagram}

/-- A reply that runs through has been unwrapped. -/
theorem V6.reply_inv {ctx ctx' : PipelineContext} {dest : SocketAddr}
    (h : (V6.buildReply proto dest vssCfg).execute ctx = (.ok true, ctx')) :
    V6.RelayFwd.decapsulate ctx.buffer = .ok ctx'.buffer := by
  cases hdec : proto.decode ctx.buffer with
  | error e =>
      have hfailed : (V6.buildReply proto dest vssCfg).execute ctx = (.error _, ctx) :=
        Stages.execute_cons_fail (V6.parseStage_fail hdec) _
      rw [hfailed] at h
      simp at h
  | ok msg =>
      rw [V6.reply_execute hdec] at h
      cases hinner : V6.RelayFwd.decapsulate ctx.buffer with
      | error e =>
          rw [Stages.execute_cons_fail (V6.relayReplyStage_fail hinner)] at h
          simp at h
      | ok payload =>
          rw [Stages.execute_cons_pass (V6.relayReplyStage_pass hinner)] at h
          cases hread : proto.decode payload with
          | error e =>
              rw [Stages.execute_cons_fail (V6.interfaceIdExtractStage_fail hread)] at h
              simp at h
          | ok inner =>
              let unwrapped : PipelineContext := { ctx with buffer := payload }
              obtain ⟨bag, hnoted⟩ : ∃ bag, (V6.interfaceIdExtractStage proto).process unwrapped
                  = (.ok true, { unwrapped with metadata := bag }) :=
                V6.interfaceIdExtractStage_pass hread
              rw [Stages.execute_cons_pass hnoted, Stages.execute_singleton] at h
              obtain rfl : _ = ctx' := congrArg Prod.snd h
              rfl

/-- What the server handler sends is no Relay-reply. -/
theorem handleV6Server_inv
    (h : (handleV6Server proto data src ifaceName vssCfg stats).2 = some d) :
    d.payload.head? ≠ some V6.RelayFwd.relayRepl := by
  unfold handleV6Server at h
  split at h
  · next ctx hrun =>
      obtain ⟨dst, -, rfl⟩ := Option.map_eq_some_iff.mp h
      obtain ⟨n, chain, hchain⟩ := V6.RelayFwd.IsChain.of_decapsulate (V6.reply_inv hrun)
      exact hchain.innermost
  · simp at h
  · simp at h

/-- What the client handler sends is a Relay-forward. -/
theorem handleV6Client_head {remoteId : Bytes} {serverAddr : SocketAddr}
    {enableInterfaceId enableRemoteId : Bool}
    (h : (handleV6Client proto data src ifaceName remoteId serverAddr vssCfg enableInterfaceId
      enableRemoteId localAddr stats).2 = some d) :
    d.payload.head? = some V6.RelayFwd.relayForw := by
  obtain ⟨wrapped, hpayload, -⟩ := handleV6Client_inv h
  rw [hpayload]
  rfl

/-- What is sent does not depend on the counters. -/
theorem V6Task.receive_stats (task : V6Task) (localAddr : Option SocketAddr)
    (stats : RelayStats) (data : Bytes) (src : SocketAddr) :
    (task.receive proto localAddr stats data src).2
      = (task.receive proto localAddr {} data src).2 := by
  unfold V6Task.receive handleV6Server handleV6Client
  dsimp only
  split
  · split <;> rfl
  · split
    · rfl
    · split
      · split <;> rfl
      · rfl

/-- How many generations of datagrams can come of this one. -/
def V6.generations (proto : V6.Codec) (data : Bytes) : Nat :=
  if data.head? = some V6.RelayFwd.relayRepl then 2
  else
    match proto.decode data with
    | .error _ => 0
    | .ok msg => if V6.isClient msg then 1 else 0

theorem V6.generations_le (proto : V6.Codec) (data : Bytes) : V6.generations proto data ≤ 2 := by
  unfold generations
  split
  · exact le_rfl
  · split
    · exact Nat.zero_le 2
    · split <;> omega

theorem V6.generations_of_other (h : data.head? ≠ some V6.RelayFwd.relayRepl) :
    V6.generations proto data < 2 := by
  rw [generations, if_neg h]
  split
  · exact Nat.zero_lt_two
  · split <;> omega

/-- A Relay-forward is nothing to a relay. -/
theorem V6.generations_of_relayForw (hread : proto.ReadsRelayForw)
    (h : data.head? = some V6.RelayFwd.relayForw) : V6.generations proto data = 0 := by
  have hother : data.head? ≠ some V6.RelayFwd.relayRepl := by
    rw [h]
    decide
  rw [generations, if_neg hother]
  split
  · rfl
  · next msg hdec =>
      have hclient : V6.isClient msg = false := by rw [V6.isClient, hread data msg hdec h]
      simp [hclient]

/-- **What a task sends**: of a Relay-reply what is in it, which is none; of a client's message
a Relay-forward. -/
theorem V6Task.sent_cases (h : (task.receive proto localAddr stats data src).2 = some d) :
    (data.head? = some V6.RelayFwd.relayRepl ∧ d.payload.head? ≠ some V6.RelayFwd.relayRepl)
      ∨ (data.head? ≠ some V6.RelayFwd.relayRepl ∧ V6.generations proto data = 1
        ∧ d.payload.head? = some V6.RelayFwd.relayForw) := by
  have hfirst : data.head?.getD 0 = V6.RelayFwd.relayRepl
      ↔ data.head? = some V6.RelayFwd.relayRepl := by
    cases data with
    | nil => decide
    | cons first rest => simp
  unfold V6Task.receive at h
  dsimp only at h
  split at h
  · next hreply => exact .inl ⟨hfirst.mp hreply, handleV6Server_inv h⟩
  · next hother =>
      have hhead : data.head? ≠ some V6.RelayFwd.relayRepl := fun heq => hother (hfirst.mpr heq)
      split at h
      · simp at h
      · next msg hdec =>
          split at h
          · next hclient =>
              refine .inr ⟨hhead, ?_, handleV6Client_head h⟩
              rw [V6.generations, if_neg hhead, hdec]
              exact if_pos hclient
          · simp at h

/-- It has a generation less to come. -/
theorem V6Task.generations_sent (hread : proto.ReadsRelayForw)
    (h : (task.receive proto localAddr stats data src).2 = some d) :
    V6.generations proto d.payload < V6.generations proto data := by
  rcases V6Task.sent_cases h with ⟨hreply, hinner⟩ | ⟨-, hone, hforward⟩
  · have htwo : V6.generations proto data = 2 := if_pos hreply
    rw [htwo]
    exact V6.generations_of_other hinner
  · rw [hone, V6.generations_of_relayForw hread hforward]
    exact Nat.zero_lt_one

end

/-! ### The network -/

/-- The tasks of relays, each with its agent, and who hears what one of them sends to an
address, and from which address it seems to come. -/
structure V6Network (ν ι : Type) where
  task : ν → V6Task
  localAddr : ν → Option SocketAddr
  agent : ν → ι
  hears : ν → SocketAddr → List (ν × SocketAddr)
  degree : Nat
  length_hears_le : ∀ node dst, (hears node dst).length ≤ degree

/-- A datagram on its way into a task. -/
structure V6Network.Mail (ν : Type) where
  node : ν
  data : Bytes
  src : SocketAddr

namespace V6Network

variable {ν ι : Type} {proto : V6.Codec} {net : V6Network ν ι} {mail mail' : Mail ν}

/-- What comes of what a task hears, with these counters. -/
def sentWith (net : V6Network ν ι) (proto : V6.Codec) (stats : RelayStats) (mail : Mail ν) :
    List (Mail ν) :=
  match ((net.task mail.node).receive proto (net.localAddr mail.node) stats mail.data mail.src).2 with
  | some d => (net.hears mail.node d.dst).map fun (node, src) => ⟨node, d.payload, src⟩
  | none => []

def sent (net : V6Network ν ι) (proto : V6.Codec) (mail : Mail ν) : List (Mail ν) :=
  net.sentWith proto {} mail

theorem sentWith_eq (stats : RelayStats) (mail : Mail ν) :
    net.sentWith proto stats mail = net.sent proto mail := by
  rw [sent, sentWith, sentWith, V6Task.receive_stats]

theorem mem_sent_iff :
    mail' ∈ net.sent proto mail ↔ ∃ d, ((net.task mail.node).receive proto
        (net.localAddr mail.node) {} mail.data mail.src).2 = some d
      ∧ mail'.data = d.payload ∧ (mail'.node, mail'.src) ∈ net.hears mail.node d.dst := by
  unfold sent sentWith
  split
  · next d hd =>
      rw [List.mem_map]
      constructor
      · rintro ⟨⟨node, src⟩, hmem, rfl⟩
        exact ⟨d, hd, rfl, hmem⟩
      · rintro ⟨d', hd', hdata, hmem⟩
        obtain rfl : d = d' := Option.some.inj (hd.symm.trans hd')
        exact ⟨_, hmem, by rw [← hdata]⟩
  · next hnone => simp [hnone]

theorem length_sent_le (net : V6Network ν ι) (proto : V6.Codec) (mail : Mail ν) :
    (net.sent proto mail).length ≤ net.degree := by
  unfold sent sentWith
  split
  · rw [List.length_map]
    exact net.length_hears_le _ _
  · exact Nat.zero_le _

theorem generations_sent (hread : proto.ReadsRelayForw) (h : mail' ∈ net.sent proto mail) :
    V6.generations proto mail'.data < V6.generations proto mail.data := by
  obtain ⟨d, hd, hdata, -⟩ := mem_sent_iff.mp h
  rw [hdata]
  exact V6Task.generations_sent hread hd

/-- **The relays as a cascade** of datagrams. The parties are the counters of the agents. -/
def cascade [DecidableEq ι] (net : V6Network ν ι) {proto : V6.Codec}
    (hread : proto.ReadsRelayForw) : Cascade (ι → RelayStats) (Mail ν) where
  next := fun stats mail => Function.update stats (net.agent mail.node)
    ((net.task mail.node).receive proto (net.localAddr mail.node) (stats (net.agent mail.node))
      mail.data mail.src).1
  sent := fun stats mail => net.sentWith proto (stats (net.agent mail.node)) mail
  answer := net.sent proto
  sent_le := fun _ mail => le_of_eq (congrArg _ (sentWith_eq _ mail))
  weight := fun mail => Cascade.treeSize net.degree (V6.generations proto mail.data)
  weight_answer := fun mail => Cascade.sum_treeSize_lt (net.length_sent_le proto mail)
    fun _ h => generations_sent hread h

/-- Who is sent a Relay-forward sends nothing. -/
theorem sent_of_relayForw (hread : proto.ReadsRelayForw)
    (h : mail.data.head? = some V6.RelayFwd.relayForw) : net.sent proto mail = [] := by
  refine List.eq_nil_iff_forall_not_mem.mpr fun mail' hmail' => ?_
  have hlt := generations_sent hread hmail'
  rw [V6.generations_of_relayForw hread h] at hlt
  exact Nat.not_lt_zero _ hlt

/-- A chain of answers has two links at most, and the second is from a client's message out of
a Relay-reply to a Relay-forward. -/
theorem answers_short (hread : proto.ReadsRelayForw)
    (h : Relation.ReflTransGen (fun mail mail' => mail' ∈ net.sent proto mail) mail mail') :
    mail' = mail ∨ mail' ∈ net.sent proto mail
      ∨ ∃ inner ∈ net.sent proto mail, mail' ∈ net.sent proto inner
        ∧ mail.data.head? = some V6.RelayFwd.relayRepl
        ∧ mail'.data.head? = some V6.RelayFwd.relayForw ∧ net.sent proto mail' = [] := by
  rcases Relation.ReflTransGen.cases_head h with rfl | ⟨inner, hinner, hrest⟩
  · exact .inl rfl
  rcases Relation.ReflTransGen.cases_head hrest with rfl | ⟨last, hlast, hrest⟩
  · exact .inr (.inl hinner)
  have hfirst : V6.generations proto inner.data < V6.generations proto mail.data :=
    generations_sent hread hinner
  have hsecond : V6.generations proto last.data < V6.generations proto inner.data :=
    generations_sent hread hlast
  have htwo : V6.generations proto mail.data ≤ 2 := V6.generations_le proto mail.data
  have hreply : mail.data.head? = some V6.RelayFwd.relayRepl := by
    by_contra hother
    have hone : V6.generations proto mail.data < 2 := V6.generations_of_other hother
    omega
  have hforward : last.data.head? = some V6.RelayFwd.relayForw := by
    obtain ⟨d, hd, hdata, -⟩ := mem_sent_iff.mp hlast
    rcases V6Task.sent_cases hd with ⟨hinnerReply, -⟩ | ⟨-, -, hforward⟩
    · have htwo' : V6.generations proto inner.data = 2 := if_pos hinnerReply
      omega
    · rw [hdata, hforward]
  have hend : net.sent proto last = [] := sent_of_relayForw hread hforward
  rcases Relation.ReflTransGen.cases_head hrest with rfl | ⟨next, hnext, -⟩
  · exact .inr (.inr ⟨inner, hinner, hlast, hreply, hforward, hend⟩)
  · rw [hend] at hnext
    exact absurd hnext List.not_mem_nil

theorem worth_le [DecidableEq ι] (hread : proto.ReadsRelayForw) (messages : Multiset (Mail ν)) :
    (net.cascade hread).worth messages
      ≤ (1 + net.degree + net.degree ^ 2) * messages.card := by
  have hweight : ∀ size ∈ messages.map (net.cascade hread).weight,
      size ≤ 1 + net.degree + net.degree ^ 2 := by
    intro size hsize
    obtain ⟨mail, -, rfl⟩ := Multiset.mem_map.mp hsize
    calc Cascade.treeSize net.degree (V6.generations proto mail.data)
        ≤ Cascade.treeSize net.degree 2 :=
          Cascade.treeSize_mono net.degree (V6.generations_le proto mail.data)
      _ = 1 + net.degree + net.degree ^ 2 := by
          rw [Cascade.treeSize, Cascade.treeSize, Cascade.treeSize, Nat.mul_one, Nat.mul_add,
            Nat.mul_one, Nat.pow_two, Nat.add_assoc]
  have hsum := Multiset.sum_le_card_nsmul _ _ hweight
  rw [Multiset.card_map, Nat.nsmul_eq_mul, Nat.mul_comm] at hsum
  exact hsum

/-- **No datagram is relayed more than twice.** However the relays are configured and connected,
and in whatever order their datagrams are delivered or lost: all there is to come of those at
the start comes to an end, and can come to it with nothing lost; and what is delivered is one of
them, or sent for one, or what was sent for a client's message in a Relay-reply, a Relay-forward
that no relay answers. -/
theorem relayed_at_most_twice [DecidableEq ι] (hread : proto.ReadsRelayForw)
    {st st' : Cascade.State (ι → RelayStats) (Mail ν)} {events : List (Cascade.Event (Mail ν))}
    (hrun : Cascade.Run (net.cascade hread) st events st') :
    events.length ≤ (1 + net.degree + net.degree ^ 2) * st.inFlight.card
      ∧ (∃ rest quiet, Cascade.Run (net.cascade hread) st' rest quiet ∧ quiet.inFlight = 0
        ∧ Cascade.lost rest = 0)
      ∧ ∀ mail ∈ Cascade.delivered events, ∃ origin ∈ st.inFlight,
        mail = origin ∨ mail ∈ net.sent proto origin
          ∨ ∃ inner ∈ net.sent proto origin, mail ∈ net.sent proto inner
            ∧ origin.data.head? = some V6.RelayFwd.relayRepl
            ∧ mail.data.head? = some V6.RelayFwd.relayForw ∧ net.sent proto mail = [] := by
  refine ⟨?_, Cascade.Run.exists_quiet (net.cascade hread) st', fun mail hmail => ?_⟩
  · have hlength := hrun.length_add_worth_le
    exact (Nat.le_of_add_right_le hlength).trans (worth_le hread st.inFlight)
  · obtain ⟨origin, horigin, hoffspring⟩ :=
      Multiset.mem_bind.mp (Multiset.mem_of_le hrun.delivered_le hmail)
    exact ⟨origin, horigin, answers_short hread (Cascade.mem_offspring_iff.mp hoffspring)⟩

end V6Network

/-! ### A sample network -/

theorem V6.Wire.wire_readsRelayForw : V6.Codec.ReadsRelayForw V6.Wire.wire := by
  intro bytes msg hdec hhead
  obtain ⟨rest, rfl⟩ : ∃ rest, bytes = V6.RelayFwd.relayForw :: rest := by
    cases bytes with
    | nil => simp at hhead
    | cons first rest => exact ⟨rest, by rw [Option.some.inj hhead]⟩
  have hinside : (Codec.readOutside 4 (V6.RelayFwd.relayForw :: rest) : Option V6.Message)
      = none := by
    rw [Codec.readOutside, if_neg]
    simp [V6.RelayFwd.relayForw]
  simp only [V6.Wire.wire, Codec.ofFormat, hinside, Option.none_or] at hdec
  -- a message is at least four bytes long
  rcases rest with _ | ⟨x, _ | ⟨y, _ | ⟨z, rest⟩⟩⟩
  · simp [V6.Wire.readMessage] at hdec
  · simp [V6.Wire.readMessage] at hdec
  · simp [V6.Wire.readMessage] at hdec
  · obtain rfl := Except.ok.inj hdec
    rfl

/-- A relay that hears whatever it sends. -/
def sampleEcho : V6Network Unit Unit where
  task := fun _ => remoteIdTask [7]
  localAddr := fun _ => none
  agent := fun _ => ()
  hears := fun _ _ => [((), sampleServerV6)]
  degree := 1
  length_hears_le := fun _ _ => le_rfl

/-- A solicit in a Relay-reply. -/
def sampleNested : V6Network.Mail Unit where
  node := ()
  data := V6.RelayFwd.replyBytes 0 .unspecified .unspecified
    (Library.Tlv.Item.toBytes ⟨V6.RelayFwd.optionRelayMsg, sampleSolicit, by decide⟩)
  src := sampleServerV6

/-- It is heard, and what comes of it, in three deliveries at most. -/
theorem sampleNested_relayed :
    ∃ events quiet, Cascade.Run (sampleEcho.cascade V6.Wire.wire_readsRelayForw)
        ⟨fun _ => {}, {sampleNested}⟩ events quiet
      ∧ quiet.inFlight = 0 ∧ Cascade.lost events = 0 ∧ events.length ≤ 3 := by
  obtain ⟨events, quiet, hrun, hquiet, hlost⟩ := Cascade.Run.exists_quiet
    (sampleEcho.cascade V6.Wire.wire_readsRelayForw) ⟨fun _ => {}, {sampleNested}⟩
  exact ⟨events, quiet, hrun, hquiet, hlost,
    (V6Network.relayed_at_most_twice V6.Wire.wire_readsRelayForw hrun).1⟩

end DhcpRelay
