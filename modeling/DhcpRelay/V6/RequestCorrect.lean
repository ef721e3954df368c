import DhcpRelay.V6.Correct

/-!
# DhcpRelay.V6.RequestCorrect

**What a client's message becomes.** Each stage before the wrapping adds some options to
the message, possibly none (`Adds`), and what two parts of the pipeline add, they add
together. So the message relayed is the client's with the enabled options put in.

`Carries` also follows the bytes: as long as nothing is added the datagram stays as it
came, from then on it is the encoding of the extended message.
-/

namespace DhcpRelay.V6

open DhcpRelay.Library

/-! ### Adding options -/

/-- The message with more options. -/
def Message.extend (msg : Message) (added : List DhcpOption) : Message :=
  { msg with opts := added.foldl .insert msg.opts }

theorem Message.extend_concat (msg : Message) (added : List DhcpOption) (opt : DhcpOption) :
    msg.extend (added ++ [opt])
      = { msg.extend added with opts := (msg.extend added).opts.insert opt } := by
  simp [extend, List.foldl_append]

/-- The options of an extended message, up to their order. -/
theorem Message.extend_perm (msg : Message) (added : List DhcpOption) :
    (msg.extend added).opts.toList.Perm (added ++ msg.opts.toList) := by
  induction added using List.reverseRecOn with
  | nil => exact List.Perm.refl _
  | append_singleton added opt ih =>
      have hinsert : ((msg.extend added).opts.insert opt).toList.Perm
          (opt :: (msg.extend added).opts.toList) := List.perm_orderedInsert _ _ _
      rw [extend_concat, List.append_assoc]
      exact (hinsert.trans (ih.cons opt)).trans List.perm_middle.symm

/-- What is relayed for the datagram `raw` that reads as `msg`: the datagram itself where
nothing is added, and otherwise the encoding of the extended message. -/
def relayed (proto : Codec) (raw : Bytes) (msg : Message) (added : List DhcpOption) :
    Except String Bytes :=
  if added.isEmpty then .ok raw else proto.encode (msg.extend added)

/-- The VSS option (68) of a configuration: its type, then its information. -/
def vssOption (vssConfig : VssConfig) : DhcpOption :=
  .unknown ⟨OptionCode.vss, OptionCode.vss_ne_interfaceId⟩ (vssConfig.vssType :: vssConfig.vssInfo)

/-- What `vssInsertStage` adds. -/
def vssAdded (vssConfig : VssConfig) : List DhcpOption :=
  if vssConfig.enabled then [vssOption vssConfig] else []

namespace RequestArgs

/-- The options a request pipeline is to add. -/
def added (args : RequestArgs) : List DhcpOption :=
  (if args.enableInterfaceId then [InterfaceId.encode args.ifaceName] else [])
    ++ (if args.enableRemoteId then [RemoteId.encode args.remoteId] else [])
    ++ (match args.vssConfig with
        | some cfg => vssAdded cfg
        | none => [])

/-- The VSS configuration, if there is one, is switched off or valid. -/
def VssAccepted (args : RequestArgs) : Prop := ∀ cfg ∈ args.vssConfig, cfg.Accepted

end RequestArgs

/-- The buffer holds the message `msg` of the datagram `raw` with `added` put in. -/
structure Carries (proto : Codec) (raw : Bytes) (msg : Message) (added : List DhcpOption)
    (ctx : PipelineContext) : Prop where
  decode : proto.decode ctx.buffer = .ok (msg.extend added)
  relayed : relayed proto raw msg added = .ok ctx.buffer

/-- The stages let every message through, with the options `opts` put in. -/
def Adds (proto : Codec) (stages : List PipelineStage) (opts : List DhcpOption) : Prop :=
  ∀ raw msg added ctx, Carries proto raw msg added ctx →
    ∃ ctx', Stages.execute (stages.map PipelineStage.process) ctx = (.ok true, ctx')
      ∧ Carries proto raw msg (added ++ opts) ctx'

section

variable {proto : Codec} {raw : Bytes} {msg : Message} {added opts : List DhcpOption}
  {ctx : PipelineContext}

/-- A datagram that has just arrived carries its message. -/
theorem Carries.fresh (h : proto.decode raw = .ok msg) (src : SocketAddr) (interface : String) :
    Carries proto raw msg [] (.new raw src interface) where
  decode := h
  relayed := rfl

/-- One option is inserted: the extended message is encoded into the buffer. -/
theorem Carries.insertOption (hc : proto.Lawful) (h : Carries proto raw msg added ctx)
    (stage : String) (opt : DhcpOption) :
    ∃ ctx', ctx.modifyV6 proto stage (insertOption opt) = (.ok (), ctx')
      ∧ Carries proto raw msg (added ++ [opt]) ctx' := by
  obtain ⟨bytes, henc, hdec⟩ := hc.decode_encode (msg.extend (added ++ [opt]))
  have hmodify : ctx.modifyV6 proto stage (V6.insertOption opt)
      = (.ok (), { ctx with buffer := bytes }) := by
    rw [PipelineContext.modifyV6, PipelineContext.modify, h.decode]
    simp only [V6.insertOption, ← Message.extend_concat, henc]
  refine ⟨_, hmodify, hdec, ?_⟩
  rw [V6.relayed, if_neg (by simp)]
  exact henc

namespace Adds

theorem nil : Adds proto [] [] := by
  intro raw msg added ctx h
  rw [List.append_nil]
  exact ⟨ctx, rfl, h⟩

/-- **What two parts of a pipeline add, they add together.** -/
theorem append {stages stages' : List PipelineStage} {opts' : List DhcpOption}
    (h : Adds proto stages opts) (h' : Adds proto stages' opts') :
    Adds proto (stages ++ stages') (opts ++ opts') := by
  intro raw msg added ctx hctx
  obtain ⟨mid, hrun, hmid⟩ := h raw msg added ctx hctx
  obtain ⟨last, hrun', hlast⟩ := h' raw msg (added ++ opts) mid hmid
  rw [List.map_append, Stages.execute_append_pass hrun, ← List.append_assoc]
  exact ⟨last, hrun', hlast⟩

/-- Parts that may be left out. -/
theorem optional {stages : List PipelineStage} (b : Bool) (h : Adds proto stages opts) :
    Adds proto (if b then stages else []) (if b then opts else []) := by
  cases b with
  | false => exact nil
  | true => exact h

end Adds

/-! ### The stages -/

theorem parseStage_adds : Adds proto [parseStage proto] [] := by
  intro raw msg added ctx h
  rw [List.append_nil, List.map_singleton, Stages.execute_singleton]
  exact ⟨ctx, parseStage_pass h.decode, h⟩

theorem interfaceIdStage_adds (hc : proto.Lawful) (ifaceName : String) :
    Adds proto [interfaceIdStage proto ifaceName] [InterfaceId.encode ifaceName] := by
  intro raw msg added ctx h
  obtain ⟨ctx', hmodify, hctx'⟩ :=
    h.insertOption hc "dhcpv6::interface_id" (InterfaceId.encode ifaceName)
  rw [List.map_singleton, Stages.execute_singleton]
  refine ⟨ctx', ?_, hctx'⟩
  simp only [interfaceIdStage, hmodify]

theorem remoteIdStage_adds (hc : proto.Lawful) (remoteId : Bytes) :
    Adds proto [remoteIdStage proto remoteId] [RemoteId.encode remoteId] := by
  intro raw msg added ctx h
  obtain ⟨ctx', hmodify, hctx'⟩ := h.insertOption hc "dhcpv6::remote_id" (RemoteId.encode remoteId)
  rw [List.map_singleton, Stages.execute_singleton]
  refine ⟨ctx', ?_, hctx'⟩
  simp only [remoteIdStage, hmodify]

/-- An accepted configuration never makes the stage fail. -/
theorem vssInsertStage_adds (hc : proto.Lawful) {cfg : VssConfig} (haccepted : cfg.Accepted) :
    Adds proto [vssInsertStage proto cfg] (vssAdded cfg) := by
  intro raw msg added ctx h
  rw [List.map_singleton, Stages.execute_singleton]
  cases henabled : cfg.enabled with
  | false =>
      have hnone : vssAdded cfg = [] := by simp [vssAdded, henabled]
      rw [hnone, List.append_nil]
      exact ⟨ctx, by simp [vssInsertStage, henabled], h⟩
  | true =>
      have hencode : Vss.encode cfg = .ok (vssOption cfg) := by
        rw [Vss.encode, haccepted henabled]
        rfl
      obtain ⟨ctx', hmodify, hctx'⟩ := h.insertOption hc "dhcpv6::vss::insert" (vssOption cfg)
      rw [show vssAdded cfg = [vssOption cfg] by simp [vssAdded, henabled]]
      refine ⟨{ ctx' with metadata := ctx'.metadata.insert "vss_inserted" "true" }, ?_,
        hctx'.decode, hctx'.relayed⟩
      simp only [vssInsertStage, henabled, hencode, hmodify]
      rfl

/-- **All stages before the wrapping** add the enabled options. -/
theorem requestEdits_adds (hc : proto.Lawful) {args : RequestArgs} (haccepted : args.VssAccepted) :
    Adds proto (requestEdits proto args) args.added := by
  have hvss : Adds proto
      (match args.vssConfig with
        | some cfg => [vssInsertStage proto cfg]
        | none => [])
      (match args.vssConfig with
        | some cfg => vssAdded cfg
        | none => []) := by
    cases hcfg : args.vssConfig with
    | none => exact .nil
    | some cfg => exact vssInsertStage_adds hc (haccepted cfg hcfg)
  exact ((parseStage_adds.append (.optional _ (interfaceIdStage_adds hc _))).append
    (.optional _ (remoteIdStage_adds hc _))).append hvss

/-! ### The pipeline -/

/-- **A request runs through**: what is relayed for the datagram, wrapped for the server. -/
theorem request_run (hc : proto.Lawful) {args : RequestArgs} (haccepted : args.VssAccepted)
    (hdec : proto.decode raw = .ok msg) (src : SocketAddr) (interface : String) :
    ∃ ctx' payload, (buildRequest proto args).execute (.new raw src interface) = (.ok true, ctx')
      ∧ ctx'.dstAddr = some args.serverAddr
      ∧ ctx'.buffer = RelayFwd.encapsulate payload args.linkAddr args.peerAddr
      ∧ relayed proto raw msg args.added = .ok payload
      ∧ proto.decode payload = .ok (msg.extend args.added) := by
  obtain ⟨edited, hrun, hedited⟩ := requestEdits_adds hc haccepted raw msg [] _
    (.fresh hdec src interface)
  have hstages : (buildRequest proto args).stages = requestEdits proto args
      ++ [relayFwdStage args.linkAddr args.peerAddr, forwardStage args.serverAddr] := rfl
  let wrapped := RelayFwd.encapsulate edited.buffer args.linkAddr args.peerAddr
  refine ⟨{ edited with buffer := wrapped, dstAddr := some args.serverAddr }, edited.buffer, ?_,
    rfl, rfl, hedited.relayed, hedited.decode⟩
  rw [Pipeline.execute, hstages, List.map_append, Stages.execute_append_pass hrun]
  rfl

/-- A datagram that is no message is not relayed. -/
theorem request_of_undecodable {e : String} (args : RequestArgs)
    (hdec : proto.decode raw = .error e) (src : SocketAddr) (interface : String) :
    ((buildRequest proto args).execute (.new raw src interface)).1
      = .error (.parse s!"failed to parse DHCPv6 message: {e}") := by
  have hparse : (parseStage proto).process (.new raw src interface) = _ := parseStage_fail hdec
  exact congrArg Prod.fst (Stages.execute_cons_fail hparse _)

/-- **The client's message with the enabled options goes to the server**, wrapped behind
the link address and the address of the client, whatever options it already has. -/
theorem request_extended (hc : proto.Lawful) (args : RequestArgs)
    (haccepted : args.VssAccepted) (hdec : proto.decode raw = .ok msg) (src : SocketAddr)
    (interface : String) :
    ∃ ctx' payload edited hi lo,
      (buildRequest proto args).execute (.new raw src interface) = (.ok true, ctx')
      ∧ ctx'.dstAddr = some args.serverAddr
      ∧ ctx'.buffer = [12, 0] ++ args.linkAddr.octets.toList
          ++ (RelayFwd.peerIp args.peerAddr).octets.toList ++ [0, 9] ++ [hi, lo] ++ payload
      ∧ (payload.length ≤ 65535 → be16 hi lo = payload.length)
      ∧ proto.decode payload = .ok edited
      ∧ edited.msgType = msg.msgType ∧ edited.xid = msg.xid
      ∧ edited.opts.toList.Perm (args.added ++ msg.opts.toList) := by
  obtain ⟨ctx', payload, hrun, hdst, hbuffer, -, hpayload⟩ :=
    request_run hc haccepted hdec src interface
  refine ⟨ctx', payload, _, UInt8.ofNat (payload.length / 256), UInt8.ofNat payload.length, hrun,
    hdst, ?_, ?_, hpayload, rfl, rfl, msg.extend_perm args.added⟩
  · rw [hbuffer]
    rfl
  · intro hle
    rw [be16_toBe16]
    exact Nat.mod_eq_of_lt (Nat.lt_succ_of_le hle)

end

/-- All three options, with VSS type 0. -/
def sampleArgs : RequestArgs where
  ifaceName := "eth0"
  remoteId := [1, 2, 3]
  linkAddr := .unspecified
  peerAddr := .v6 (.ofSegments [0xfe80, 0, 0, 0, 0, 0, 0, 7]) 546 0 0
  serverAddr := .v6 (.ofSegments [0x2001, 0xdb8, 0, 0, 0, 0, 0, 1]) 547 0 0
  vssConfig := some { enabled := true, vssType := vssTypeNvtAscii, vssInfo := [0x61] }
  enableInterfaceId := true
  enableRemoteId := true

/-- A SOLICIT that already has an Interface-ID. -/
def sampleSolicit : Bytes := [1, 0, 0, 1, 0, 18, 0, 1, 9]

def sampleSolicitMsg : Message where
  msgType := .solicit
  xid := #v[0, 0, 1]
  opts := ⟨[.interfaceId [9]], List.pairwise_singleton _ _⟩

theorem sampleSolicit_decode : Wire.wire.decode sampleSolicit = .ok sampleSolicitMsg := by
  rfl

theorem sampleArgs_extended :
    ∃ ctx' payload edited hi lo,
      (buildRequest Wire.wire sampleArgs).execute
          (.new sampleSolicit sampleArgs.peerAddr "eth0") = (.ok true, ctx')
      ∧ ctx'.dstAddr = some sampleArgs.serverAddr
      ∧ ctx'.buffer = [12, 0] ++ sampleArgs.linkAddr.octets.toList
          ++ (RelayFwd.peerIp sampleArgs.peerAddr).octets.toList ++ [0, 9] ++ [hi, lo] ++ payload
      ∧ (payload.length ≤ 65535 → be16 hi lo = payload.length)
      ∧ Wire.wire.decode payload = .ok edited
      ∧ edited.msgType = sampleSolicitMsg.msgType ∧ edited.xid = sampleSolicitMsg.xid
      ∧ edited.opts.toList.Perm (sampleArgs.added ++ sampleSolicitMsg.opts.toList) := by
  refine request_extended Wire.wire_lawful sampleArgs ?_ sampleSolicit_decode _ "eth0"
  intro cfg hcfg
  obtain rfl := Option.some.inj hcfg
  exact fun _ => rfl

end DhcpRelay.V6
