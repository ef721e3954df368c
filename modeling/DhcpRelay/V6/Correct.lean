import DhcpRelay.V6.Pipeline

/-!
# DhcpRelay.V6.Correct

What the two DHCPv6 pipelines do to a packet: whatever options are added to a
request, it leaves **wrapped for the server**; a Relay-reply of one layer leaves
**unwrapped for the address the pipeline was built with**.
-/

namespace DhcpRelay.V6

open DhcpRelay.Library

/-! ### Requests -/

/-- The stages of a request pipeline before the message is wrapped. -/
def requestEdits (proto : Codec) (args : RequestArgs) : List PipelineStage :=
  [parseStage proto]
    ++ (if args.enableInterfaceId then [interfaceIdStage proto args.ifaceName] else [])
    ++ (if args.enableRemoteId then [remoteIdStage proto args.remoteId] else [])
    ++ (match args.vssConfig with
        | some cfg => [vssInsertStage proto cfg]
        | none => [])

/-- A request that runs through is the Relay-forward of the message edited so far. -/
theorem request_wrapped {proto : Codec} {args : RequestArgs} {ctx ctx' : PipelineContext}
    (h : (buildRequest proto args).execute ctx = (.ok true, ctx')) :
    ∃ edited, Stages.execute ((requestEdits proto args).map PipelineStage.process) ctx
        = (.ok true, edited)
      ∧ ctx'.buffer = RelayFwd.encapsulate edited.buffer args.linkAddr args.peerAddr
      ∧ ctx'.dstAddr = some args.serverAddr := by
  have hstages : (buildRequest proto args).stages = requestEdits proto args
      ++ [relayFwdStage args.linkAddr args.peerAddr, forwardStage args.serverAddr] := rfl
  rw [Pipeline.execute, hstages, List.map_append] at h
  obtain ⟨edited, hedits, hlast⟩ := Stages.execute_append_inv h
  obtain rfl : _ = ctx' := congrArg Prod.snd hlast
  exact ⟨edited, hedits, rfl, rfl⟩

/-! ### Replies -/

section Replies

variable {proto : Codec} {ctx : PipelineContext}

theorem parseStage_pass {msg : Message} (h : proto.decode ctx.buffer = .ok msg) :
    (parseStage proto).process ctx = (.ok true, ctx) := by
  simp only [parseStage, h]

theorem parseStage_fail {e : String} (h : proto.decode ctx.buffer = .error e) :
    (parseStage proto).process ctx
      = (.error (.parse s!"failed to parse DHCPv6 message: {e}"), ctx) := by
  simp only [parseStage, h]

/-- The extraction stage only logs. -/
theorem vssExtractStage_pass {msg : Message} (h : proto.decode ctx.buffer = .ok msg)
    (vssConfig : VssConfig) : (vssExtractStage proto vssConfig).process ctx = (.ok true, ctx) := by
  simp only [vssExtractStage, h]
  split
  · rfl
  · rfl

theorem relayReplyStage_pass {payload : Bytes} (h : RelayFwd.decapsulate ctx.buffer = .ok payload) :
    relayReplyStage.process ctx = (.ok true, { ctx with buffer := payload }) := by
  simp only [relayReplyStage, h]

theorem relayReplyStage_fail {e : RelayError} (h : RelayFwd.decapsulate ctx.buffer = .error e) :
    relayReplyStage.process ctx = (.error e, ctx) := by
  simp only [relayReplyStage, h]

theorem interfaceIdExtractStage_fail {e : String} (h : proto.decode ctx.buffer = .error e) :
    (interfaceIdExtractStage proto).process ctx
      = (.error (.parse s!"interface-id extract decode: {e}"), ctx) := by
  simp only [interfaceIdExtractStage, h]

/-- The interface noted does not show in the packet. -/
theorem interfaceIdExtractStage_pass {msg : Message} (h : proto.decode ctx.buffer = .ok msg) :
    ∃ bag, (interfaceIdExtractStage proto).process ctx
      = (.ok true, { ctx with metadata := bag }) := by
  simp only [interfaceIdExtractStage, h]
  split
  · exact ⟨_, rfl⟩
  · exact ⟨ctx.metadata, rfl⟩

/-- A reply that decodes gets as far as the unwrapping. -/
theorem reply_execute {msg : Message} (hdec : proto.decode ctx.buffer = .ok msg)
    (dest : SocketAddr) (vssConfig : Option VssConfig) :
    (buildReply proto dest vssConfig).execute ctx
      = Stages.execute [relayReplyStage.process, (interfaceIdExtractStage proto).process,
        (forwardStage dest).process] ctx := by
  cases vssConfig with
  | none => exact Stages.execute_cons_pass (parseStage_pass hdec) _
  | some cfg =>
      exact (Stages.execute_cons_pass (parseStage_pass hdec) _).trans
        (Stages.execute_cons_pass (vssExtractStage_pass hdec cfg) _)

/-- A Relay-reply of one layer runs through, as far as the search for the interface does. -/
theorem reply_run {msg : Message} {peer : Ipv6Addr} {payload : Bytes} {unwrapped : PipelineContext}
    (hreply : RelayFwd.SingleLayer ctx.buffer peer payload)
    (hdec : proto.decode ctx.buffer = .ok msg)
    (hextract : (interfaceIdExtractStage proto).process { ctx with buffer := payload }
      = (.ok true, unwrapped))
    (dest : SocketAddr) (vssConfig : Option VssConfig) :
    (buildReply proto dest vssConfig).execute ctx
      = (.ok true, { unwrapped with dstAddr := some dest }) := by
  have hforward : (forwardStage dest).process unwrapped
      = (.ok true, { unwrapped with dstAddr := some dest }) := rfl
  rw [reply_execute hdec, Stages.execute_cons_pass (relayReplyStage_pass hreply.decapsulate),
    Stages.execute_cons_pass hextract, Stages.execute_singleton, hforward]

/-- **A Relay-reply of one layer is unwrapped and directed to `dest`.** -/
theorem reply_unwrapped {msg inner : Message} {peer : Ipv6Addr} {payload : Bytes}
    (hreply : RelayFwd.SingleLayer ctx.buffer peer payload)
    (hdec : proto.decode ctx.buffer = .ok msg) (hinner : proto.decode payload = .ok inner)
    (dest : SocketAddr) (vssConfig : Option VssConfig) :
    ∃ bag, (buildReply proto dest vssConfig).execute ctx
      = (.ok true, { ctx with buffer := payload, dstAddr := some dest, metadata := bag }) := by
  let unwrapped : PipelineContext := { ctx with buffer := payload }
  obtain ⟨bag, hextract⟩ : ∃ bag, (interfaceIdExtractStage proto).process unwrapped
      = (.ok true, { unwrapped with metadata := bag }) := interfaceIdExtractStage_pass hinner
  exact ⟨bag, reply_run hreply hdec hextract dest vssConfig⟩

end Replies

end DhcpRelay.V6
