import DhcpRelay.V4.Pipeline
import DhcpRelay.V6.Correct

/-!
# DhcpRelay.Destination

**Only packets that are let through have a destination**, for each of the four pipelines:
the last stage sets it, and no other stage touches it, whatever its outcome. This is so
for every codec and every buffer.
-/

namespace DhcpRelay

open DhcpRelay.Library

/-! ### DHCPv4 -/

namespace V4

section

variable (proto : Codec)

theorem parseStage_keepsDst : (parseStage proto).KeepsDst :=
  fun _ => PipelineContext.modify_then_dstAddr id (fun _ => rfl) rfl

theorem validateStage_keepsDst (localAddrs : List Ipv4Addr) :
    (validateStage proto localAddrs).KeepsDst := by
  intro ctx
  simp only [validateStage]
  split
  · rfl
  · split <;> rfl

theorem option82InsertStage_keepsDst (circuitId remoteId : Option Bytes) :
    (option82InsertStage proto circuitId remoteId).KeepsDst := by
  intro ctx
  simp only [option82InsertStage]
  split
  · rfl
  · exact PipelineContext.modify_then_dstAddr
      (fun ctx => { ctx with metadata := ctx.metadata.insert "option82_inserted" "true" })
      (fun _ => rfl) rfl

theorem vssInsertStage_keepsDst (vssConfig : VssConfig) :
    (vssInsertStage proto vssConfig).KeepsDst := by
  intro ctx
  simp only [vssInsertStage]
  split
  · rfl
  · split
    · rfl
    · exact PipelineContext.modify_then_dstAddr
        (fun ctx => { ctx with metadata := ctx.metadata.insert "vss_inserted" "true" })
        (fun _ => rfl) rfl

theorem giaddrStage_keepsDst (ifaceIp : Ipv4Addr) : (giaddrStage proto ifaceIp).KeepsDst := by
  intro ctx
  simp only [giaddrStage]
  split
  · rfl
  · exact PipelineContext.modify_then_dstAddr id (fun _ => rfl) rfl

theorem vssCheckStage_keepsDst (vssConfig : VssConfig) :
    (vssCheckStage proto vssConfig).KeepsDst := by
  intro ctx
  simp only [vssCheckStage]
  split
  · rfl
  · split <;> rfl

theorem option82StripStage_keepsDst (expected : Option (List Option82.SubOption)) :
    (option82StripStage proto expected).KeepsDst :=
  fun _ => PipelineContext.modify_then_dstAddr id (fun _ => rfl) rfl

/-- The request pipeline. -/
theorem request_passed_iff_dstAddr (args : RequestArgs) {ctx : PipelineContext}
    (hctx : ctx.dstAddr = none) :
    ((buildRequest proto args).execute ctx).1 = .ok true
      ↔ ((buildRequest proto args).execute ctx).2.dstAddr.isSome := by
  have hstages : buildRequest proto args
      = .withStages (requestEdits proto args ++ [forwardStage args.serverAddr]) :=
    congrArg Pipeline.mk (buildRequest_stages proto args)
  rw [hstages]
  refine Pipeline.passed_iff_dstAddr ?_ (fun _ _ => ⟨fun _ => rfl, fun _ => rfl⟩) hctx
  exact forall_requestEdits (parseStage_keepsDst proto) (validateStage_keepsDst proto _)
    (option82InsertStage_keepsDst proto _ _) (vssInsertStage_keepsDst proto)
    (giaddrStage_keepsDst proto _)

/-- The reply pipeline. -/
theorem reply_passed_iff_dstAddr (expected : Option (List Option82.SubOption))
    (vssConfig : Option VssConfig) (enableOption82 : Bool) {ctx : PipelineContext}
    (hctx : ctx.dstAddr = none) :
    ((buildReply proto expected vssConfig enableOption82).execute ctx).1 = .ok true
      ↔ ((buildReply proto expected vssConfig enableOption82).execute ctx).2.dstAddr.isSome := by
  unfold buildReply
  refine Pipeline.passed_iff_dstAddr ?_ ?_ hctx
  · intro stage hstage
    rcases List.mem_append.mp hstage with hstage | hstage
    · rcases List.mem_append.mp hstage with hstage | hstage
      · obtain rfl := List.mem_singleton.mp hstage
        exact parseStage_keepsDst proto
      · cases vssConfig with
        | none => simp at hstage
        | some cfg =>
            obtain rfl := List.mem_singleton.mp hstage
            exact vssCheckStage_keepsDst proto cfg
    · cases enableOption82 with
      | false => simp at hstage
      | true =>
          obtain rfl := List.mem_singleton.mp hstage
          exact option82StripStage_keepsDst proto expected
  · intro ctx hnone
    simp only [replyAddrStage]
    split
    · simp [hnone]
    · simp

end

end V4

/-! ### DHCPv6 -/

namespace V6

section

variable (proto : Codec)

theorem parseStage_keepsDst : (parseStage proto).KeepsDst := by
  intro ctx
  simp only [parseStage]
  split <;> rfl

theorem interfaceIdStage_keepsDst (ifaceName : String) :
    (interfaceIdStage proto ifaceName).KeepsDst :=
  fun _ => PipelineContext.modify_then_dstAddr id (fun _ => rfl) rfl

theorem remoteIdStage_keepsDst (remoteId : Bytes) : (remoteIdStage proto remoteId).KeepsDst :=
  fun _ => PipelineContext.modify_then_dstAddr id (fun _ => rfl) rfl

theorem vssInsertStage_keepsDst (vssConfig : VssConfig) :
    (vssInsertStage proto vssConfig).KeepsDst := by
  intro ctx
  simp only [vssInsertStage]
  split
  · rfl
  · split
    · rfl
    · exact PipelineContext.modify_then_dstAddr
        (fun ctx => { ctx with metadata := ctx.metadata.insert "vss_inserted" "true" })
        (fun _ => rfl) rfl

theorem relayFwdStage_keepsDst (linkAddr : Ipv6Addr) (peerAddr : SocketAddr) :
    (relayFwdStage linkAddr peerAddr).KeepsDst := fun _ => rfl

theorem vssExtractStage_keepsDst (vssConfig : VssConfig) :
    (vssExtractStage proto vssConfig).KeepsDst := by
  intro ctx
  simp only [vssExtractStage]
  split
  · rfl
  · split <;> rfl

theorem relayReplyStage_keepsDst : relayReplyStage.KeepsDst := by
  intro ctx
  simp only [relayReplyStage]
  split <;> rfl

theorem interfaceIdExtractStage_keepsDst : (interfaceIdExtractStage proto).KeepsDst := by
  intro ctx
  simp only [interfaceIdExtractStage]
  split
  · rfl
  · split <;> rfl

/-- The request pipeline. -/
theorem request_passed_iff_dstAddr (args : RequestArgs) {ctx : PipelineContext}
    (hctx : ctx.dstAddr = none) :
    ((buildRequest proto args).execute ctx).1 = .ok true
      ↔ ((buildRequest proto args).execute ctx).2.dstAddr.isSome := by
  have hstages : buildRequest proto args = .withStages
      ((requestEdits proto args ++ [relayFwdStage args.linkAddr args.peerAddr])
        ++ [forwardStage args.serverAddr]) :=
    congrArg Pipeline.withStages (List.append_assoc (requestEdits proto args)
      [relayFwdStage args.linkAddr args.peerAddr] [forwardStage args.serverAddr]).symm
  rw [hstages]
  refine Pipeline.passed_iff_dstAddr ?_ (fun _ _ => ⟨fun _ => rfl, fun _ => rfl⟩) hctx
  intro stage hstage
  rcases List.mem_append.mp hstage with hstage | hstage
  · simp only [requestEdits, List.mem_append, List.mem_singleton] at hstage
    rcases hstage with ((rfl | hstage) | hstage) | hstage
    · exact parseStage_keepsDst proto
    · split at hstage
      · exact List.mem_singleton.mp hstage ▸ interfaceIdStage_keepsDst proto args.ifaceName
      · simp at hstage
    · split at hstage
      · exact List.mem_singleton.mp hstage ▸ remoteIdStage_keepsDst proto args.remoteId
      · simp at hstage
    · split at hstage
      · next cfg _ => exact List.mem_singleton.mp hstage ▸ vssInsertStage_keepsDst proto cfg
      · simp at hstage
  · obtain rfl := List.mem_singleton.mp hstage
    exact relayFwdStage_keepsDst args.linkAddr args.peerAddr

/-- The reply pipeline. -/
theorem reply_passed_iff_dstAddr (clientAddr : SocketAddr) (vssConfig : Option VssConfig)
    {ctx : PipelineContext} (hctx : ctx.dstAddr = none) :
    ((buildReply proto clientAddr vssConfig).execute ctx).1 = .ok true
      ↔ ((buildReply proto clientAddr vssConfig).execute ctx).2.dstAddr.isSome := by
  have hstages : buildReply proto clientAddr vssConfig = .withStages
      (([parseStage proto] ++ (vssConfig.map (vssExtractStage proto)).toList
        ++ [relayReplyStage, interfaceIdExtractStage proto]) ++ [forwardStage clientAddr]) := by
    cases vssConfig with
    | none => rfl
    | some cfg => rfl
  rw [hstages]
  refine Pipeline.passed_iff_dstAddr ?_ (fun _ _ => ⟨fun _ => rfl, fun _ => rfl⟩) hctx
  intro stage hstage
  simp only [List.mem_append, List.mem_cons, List.not_mem_nil, or_false] at hstage
  rcases hstage with (rfl | hstage) | rfl | rfl
  · exact parseStage_keepsDst proto
  · obtain ⟨cfg, -, rfl⟩ := Option.map_eq_some_iff.mp (Option.mem_toList.mp hstage)
    exact vssExtractStage_keepsDst proto cfg
  · exact relayReplyStage_keepsDst
  · exact interfaceIdExtractStage_keepsDst proto

end

end V6

end DhcpRelay
