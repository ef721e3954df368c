import DhcpRelay.V4.ReplyCorrect
import DhcpRelay.V4.RequestCorrect

/-!
# DhcpRelay.V4.VssEcho

**Two rules for a reply that contradict each other.** The request carries the VSS-Control
sub-option (152) in its Option 82, and a server that supports VSS takes it out, which is
what the check stage looks for. The strip stage wants every sub-option back as it was
sent. So the answer of a server that supports VSS is rejected, and that of a server that
does not is let through.
-/

namespace DhcpRelay.V4

open DhcpRelay.Library

/-- The sub-option is VSS-Control. -/
def isVssControl (sub : Option82.SubOption) : Bool := sub.code == Vss.vssControlSuboptCode

/-- What a server that supports VSS makes of the sub-options. -/
def withoutVssControl (sent : List Option82.SubOption) : List Option82.SubOption :=
  sent.filter fun sub => !isVssControl sub

theorem not_isVssControl_of_mem {sent : List Option82.SubOption} {sub : Option82.SubOption}
    (h : sub ∈ withoutVssControl sent) : isVssControl sub = false := by
  simpa using (List.mem_filter.mp h).2

/-- An Option 82 with VSS added has the VSS-Control sub-option. -/
theorem mem_subOpts_addTo (data : Bytes) (info : RelayAgentInformation) :
    ⟨Vss.vssControlSuboptCode, []⟩ ∈ Option82.subOpts (Vss.addTo data info) := by
  have hget : (Vss.addTo data info).get? RelayCode.virtualSubnetControl = some Vss.vssControl := by
    rw [Vss.get?_addTo, if_pos rfl]
  exact List.mem_map.mpr ⟨Vss.vssControl, (KeyedMap.get?_eq_some.mp hget).1, rfl⟩

/-- Among the two answers, the echo is the one with VSS-Control in it. -/
theorem answer_eq_iff {sent answer : List Option82.SubOption}
    (hsent : ∃ sub ∈ sent, isVssControl sub = true)
    (hanswer : answer = sent ∨ answer = withoutVssControl sent) :
    answer = sent ↔ ∃ sub ∈ answer, isVssControl sub = true := by
  constructor
  · intro hecho
    rwa [hecho]
  · intro h
    obtain ⟨sub, hsub, hcontrol⟩ := h
    rcases hanswer with rfl | rfl
    · rfl
    · rw [not_isVssControl_of_mem hsub] at hcontrol
      simp at hcontrol

section

variable {proto : Codec} {args : RequestArgs} {cfg : VssConfig}

/-- With VSS on, a first-relay request leaves with VSS-Control in its Option 82. -/
theorem request_has_vssControl (hc : proto.Lawful) (hcfg : args.vssConfig = some cfg)
    (hon : cfg.enabled = true) (hvalid : cfg.validateVss = .ok ())
    (h82on : args.enableOption82 = true) (hids : args.circuitId.isSome ∨ args.remoteId.isSome)
    {raw : Bytes} {msg : Message} (hdec : proto.decode raw = .ok msg)
    (hg : msg.giaddr = .unspecified) (h82 : msg.option82 = none) (src : SocketAddr)
    (interface : String) (t : Bool) :
    ∃ msg' info, Delivers proto ((buildRequest proto args).execute
          { PipelineContext.new raw src interface with isTrustedCircuit := t }) args.serverAddr msg'
      ∧ msg'.option82 = some info
      ∧ ∃ sub ∈ Option82.subOpts info, isVssControl sub = true := by
  have haccepted : args.VssAccepted := RequestArgs.vssAccepted_of_valid hcfg hvalid
  have hpayload : args.vssPayload = some (Vss.payload cfg) := by
    rw [RequestArgs.vssPayload, hcfg, Option.filter_some, if_pos hon, Option.map_some]
  obtain ⟨bag, hrun⟩ := run_of_firstRelay (t := t) haccepted h82on hids hg h82
  refine ⟨_, _, request_delivers hc hdec hrun rfl, Message.option82_withOption82 _ _,
    ⟨Vss.vssControlSuboptCode, []⟩, ?_, rfl⟩
  rw [RequestArgs.stampInfo, hpayload]
  exact mem_subOpts_addTo _ _

/-- The reply pipeline lets the reply through, without Option 82. -/
def Strips (proto : Codec) (out : RelayResult Bool × PipelineContext) : Prop :=
  ∃ dest msg', Delivers proto out dest msg' ∧ msg'.option82 = none

/-- A reply is let through exactly when it echoes what is expected. -/
theorem strips_iff (hc : proto.Lawful) {raw : Bytes} {reply : Message}
    (hdec : proto.decode raw = .ok reply) (sent : List Option82.SubOption)
    (vssConfig : Option VssConfig) (src : SocketAddr) (interface : String) (t : Bool) :
    Strips proto ((buildReply proto (some sent) vssConfig true).execute
        { PipelineContext.new raw src interface with isTrustedCircuit := t })
      ↔ reply.option82.map Option82.subOpts = some sent := by
  rw [← echoMatches_some_iff]
  constructor
  · intro h
    obtain ⟨dest, msg', hdelivers, -⟩ := h
    by_contra hbad
    have hpassed := hdelivers.passed
    rw [(reply_of_mismatch hc hdec hbad).1] at hpassed
    simp at hpassed
  · intro h
    exact ⟨_, _, reply_of_match hc hdec h, Message.option82_withoutOption82 reply⟩

/-- Of the replies that carry `sent`, as it is or without VSS-Control, exactly those are
let through that have VSS-Control. -/
def PassesWithControl (proto : Codec) (cfg : VssConfig) (sent : List Option82.SubOption) : Prop :=
  ∀ (raw : Bytes) (reply : Message) (answer : List Option82.SubOption) (server : SocketAddr)
      (interface : String) (t : Bool),
    proto.decode raw = .ok reply → reply.option82.map Option82.subOpts = some answer →
    (answer = sent ∨ answer = withoutVssControl sent) →
    (Strips proto ((buildReply proto (some sent) (some cfg) true).execute
        { PipelineContext.new raw server interface with isTrustedCircuit := t })
      ↔ ∃ sub ∈ answer, isVssControl sub = true)

/-- **Replies with VSS are let through exactly when the server does not support it**, that is,
when it leaves VSS-Control in the Option 82 that the request went out with. -/
theorem vss_echo_iff (hc : proto.Lawful) (hcfg : args.vssConfig = some cfg)
    (hon : cfg.enabled = true) (hvalid : cfg.validateVss = .ok ())
    (h82on : args.enableOption82 = true) (hids : args.circuitId.isSome ∨ args.remoteId.isSome)
    {raw : Bytes} {msg : Message} (hdec : proto.decode raw = .ok msg)
    (hg : msg.giaddr = .unspecified) (h82 : msg.option82 = none) (src : SocketAddr)
    (interface : String) (t : Bool) :
    ∃ msg' info, Delivers proto ((buildRequest proto args).execute
          { PipelineContext.new raw src interface with isTrustedCircuit := t }) args.serverAddr msg'
      ∧ msg'.option82 = some info ∧ PassesWithControl proto cfg (Option82.subOpts info) := by
  obtain ⟨msg', info, hdelivers, hinfo, hcontrol⟩ :=
    request_has_vssControl hc hcfg hon hvalid h82on hids hdec hg h82 src interface t
  refine ⟨msg', info, hdelivers, hinfo, ?_⟩
  intro raw' reply answer server interface' t' hreply hcarries hanswer
  rw [strips_iff hc hreply, hcarries, Option.some.injEq]
  exact answer_eq_iff hcontrol hanswer

end

/-- The Option 82 of an offer by a server that supports VSS: the control is gone. -/
def sampleVssInfo : RelayAgentInformation :=
  (KeyedMap.empty.insert (.agentCircuitId [101, 116, 104])).insert (Vss.vssInfo [255])

/-- The offer itself. -/
def sampleVssOffer : Message :=
  ({ opcode := .bootReply, opts := KeyedMap.empty.insert (.messageType .offer) } : Message)
    |>.withOption82 sampleVssInfo

/-- What the request leaves with. -/
def sampleVssSent : List Option82.SubOption :=
  [⟨1, [101, 116, 104]⟩, ⟨151, [255]⟩, ⟨152, []⟩]

theorem sampleDiscover_vssEcho :
    ∃ msg' info, Delivers Wire.wire ((buildRequest Wire.wire sampleArgsVss).execute
          { PipelineContext.new (Wire.writeMessage sampleDiscover) sampleClient "eth0" with
            isTrustedCircuit := false }) sampleArgsVss.serverAddr msg'
      ∧ msg'.option82 = some info
      ∧ PassesWithControl Wire.wire { enabled := true } (Option82.subOpts info) :=
  vss_echo_iff Wire.wire_lawful rfl rfl rfl rfl (.inl rfl) sampleDiscover_decode rfl rfl
    sampleClient "eth0" false

/-- The answer of a server that supports VSS is rejected. -/
theorem sampleVssOffer_rejected :
    (∃ msg' info, Delivers Wire.wire ((buildRequest Wire.wire sampleArgsVss).execute
          { PipelineContext.new (Wire.writeMessage sampleDiscover) sampleClient "eth0" with
            isTrustedCircuit := false }) sampleArgsVss.serverAddr msg'
        ∧ msg'.option82 = some info ∧ Option82.subOpts info = sampleVssSent)
      ∧ Wire.wire.decode (Wire.writeMessage sampleVssOffer) = .ok sampleVssOffer
      ∧ sampleVssOffer.option82.map Option82.subOpts = some (withoutVssControl sampleVssSent)
      ∧ ¬ Strips Wire.wire ((buildReply Wire.wire (some sampleVssSent) (some { enabled := true })
          true).execute
            { PipelineContext.new (Wire.writeMessage sampleVssOffer) sampleArgsVss.serverAddr "eth0"
              with isTrustedCircuit := false }) := by
  have haccepted : sampleArgsVss.VssAccepted := RequestArgs.vssAccepted_of_valid rfl rfl
  have hids : sampleArgsVss.circuitId.isSome ∨ sampleArgsVss.remoteId.isSome := .inl rfl
  have hg : sampleDiscover.giaddr = .unspecified := rfl
  have h82 : sampleDiscover.option82 = none := rfl
  obtain ⟨bag, hrun⟩ := run_of_firstRelay (t := false) haccepted rfl hids hg h82
  have hoffer : Wire.wire.decode (Wire.writeMessage sampleVssOffer) = .ok sampleVssOffer :=
    Wire.decode_writeMessage (by decide +kernel)
  refine ⟨⟨_, _, request_delivers Wire.wire_lawful sampleDiscover_decode hrun rfl,
    Message.option82_withOption82 _ _, by decide⟩, hoffer, by decide, fun h => ?_⟩
  have hecho := (strips_iff Wire.wire_lawful hoffer _ _ _ _ _).mp h
  exact absurd hecho (by decide)

end DhcpRelay.V4
