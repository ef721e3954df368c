import DhcpRelay.Pipeline
import DhcpRelay.V4.Option82
import DhcpRelay.V4.Vss

/-!
# DhcpRelay.V4.Pipeline

The DHCPv4 stages and the two pipelines built from them (`dhcp/v4/pipeline.rs`):

* request: Parse → Validate → Option82(insert) → VSS(insert) → Giaddr(set) → Forward
* reply: Parse → VSS(check) → Option82(strip+echo) → ReplyAddr(resolve)

Every stage decodes the buffer anew. A closure handed to `modify_v4` is a
definition of its own (`giaddrEdit`, `stripEdit`, `Vss.insertInto`), so that
`V4.Meaning` can speak of the edit without the decoding around it.
-/

namespace DhcpRelay.V4

open DhcpRelay.Library

/-- Validates and normalizes a DHCPv4 message encoding for downstream stages. -/
def parseStage (proto : Codec) : PipelineStage where
  name := "dhcpv4::parse"
  process ctx :=
    match ctx.modifyV4 proto "dhcpv4::parse" (fun msg => (.ok (), msg)) with
    | (.error e, ctx) => (.error e, ctx)
    | (.ok (), ctx) => (.ok true, ctx)

/-- Validates the giaddr field and enforces the security invariants. -/
def validateStage (proto : Codec) (localAddrs : List Ipv4Addr) : PipelineStage where
  name := "dhcpv4::validate"
  process ctx :=
    match proto.decode ctx.buffer with
    | .error e => (.error (.parse s!"validate decode: {e}"), ctx)
    | .ok msg =>
      match Giaddr.validate msg localAddrs ctx.isTrustedCircuit with
      | .firstRelay | .trustedCircuit => (.ok true, ctx)
      | .reforwarded => (.ok true, { ctx with isReforwarded := true })
      -- the only stage that drops a packet without an error
      | .untrustedCircuit => (.ok false, ctx)
      | .spoof =>
        (.error (.giaddrSpoof s!"giaddr {msg.giaddr} matches local interface"), ctx)

/-- Inserts Option 82 (Circuit ID + Remote ID) on client→server direction. -/
def option82InsertStage (proto : Codec) (circuitId remoteId : Option Bytes) : PipelineStage where
  name := "dhcpv4::option82::insert"
  process ctx :=
    if ctx.isReforwarded then (.ok true, ctx)
    else
      match ctx.modifyV4 proto "dhcpv4::option82::insert"
          (fun msg => Option82.insert msg circuitId remoteId) with
      | (.error e, ctx) => (.error e, ctx)
      | (.ok (), ctx) =>
        (.ok true, { ctx with metadata := ctx.metadata.insert "option82_inserted" "true" })

/-- The closure of the strip stage: check the echo against `expected`, if there is
an expectation, and drop Option 82. -/
def stripEdit (expected : Option (List Option82.SubOption)) (msg : Message) :
    RelayResult Unit × Message :=
  let echo : RelayResult Unit :=
    match expected with
    | none => .ok ()
    | some expected =>
      match msg.opts.get? OptionCode.relayAgentInformation with
      | some (.relayAgentInformation info) =>
        if !Option82.validateEcho (Option82.subOpts info) expected then .error .option82Mismatch
        else .ok ()
      | _ => .error .option82Mismatch
  match echo with
  | .error e => (.error e, msg)
  | .ok () => (.ok (), (Option82.strip msg).2)

/-- Strips Option 82 and validates echo on server→client direction. -/
def option82StripStage (proto : Codec) (expectedSubOpts : Option (List Option82.SubOption)) :
    PipelineStage where
  name := "dhcpv4::option82::strip"
  process ctx :=
    match ctx.modifyV4 proto "dhcpv4::option82::strip" (stripEdit expectedSubOpts) with
    | (.error e, ctx) => (.error e, ctx)
    | (.ok (), ctx) => (.ok true, ctx)

/-- The closure of the giaddr stage. -/
def giaddrEdit (ifaceIp : Ipv4Addr) (msg : Message) : RelayResult Unit × Message :=
  (.ok (), if msg.giaddr = .unspecified then msg.setGiaddr ifaceIp else msg)

/-- Sets the giaddr field to the relay interface IP on client→server direction. -/
def giaddrStage (proto : Codec) (ifaceIp : Ipv4Addr) : PipelineStage where
  name := "dhcpv4::giaddr"
  process ctx :=
    if ctx.isReforwarded then (.ok true, ctx)
    else
      match ctx.modifyV4 proto "dhcpv4::giaddr" (giaddrEdit ifaceIp) with
      | (.error e, ctx) => (.error e, ctx)
      | (.ok (), ctx) => (.ok true, ctx)

/-- Sets the destination address for the packet. -/
def forwardStage (dest : SocketAddr) : PipelineStage where
  name := "dhcpv4::forward"
  process ctx := (.ok true, { ctx with dstAddr := some dest })

/-- Where a reply goes: to the client's own address, or else to everyone. -/
def replyAddr (msg : Message) : SocketAddr :=
  if msg.ciaddr ≠ .unspecified then .new (.v4 msg.ciaddr) 68
  else .new (.v4 .broadcast) 68

/-- Resolves the client address from the server reply. -/
def replyAddrStage (proto : Codec) : PipelineStage where
  name := "dhcpv4::reply_addr"
  process ctx :=
    match proto.decode ctx.buffer with
    | .error e => (.error (.parse s!"reply_addr decode: {e}"), ctx)
    | .ok msg => (.ok true, { ctx with dstAddr := some (replyAddr msg) })

/-- Inserts VSS sub-options (151/152) into Option 82 on client→server direction. -/
def vssInsertStage (proto : Codec) (vssConfig : VssConfig) : PipelineStage where
  name := "dhcpv4::vss::insert"
  process ctx :=
    if !vssConfig.enabled then (.ok true, ctx)
    else
      match Vss.encodeSubOpts vssConfig with
      | .error e => (.error e, ctx)
      | .ok (vssData, _vssControl) =>
        -- unlike the two stages around it, this one does not look at `isReforwarded`
        let vssPayload := vssData.drop Vss.suboptHeaderLen
        match ctx.modifyV4 proto "dhcpv4::vss::insert" (Vss.insertInto vssPayload) with
        | (.error e, ctx) => (.error e, ctx)
        | (.ok (), ctx) =>
          (.ok true, { ctx with metadata := ctx.metadata.insert "vss_inserted" "true" })

/-- The loop of the check stage: whether there is a VSS-Control sub-option, and the
value of the VSS sub-option. -/
def scanVss (info : RelayAgentInformation) : Bool × Option Bytes :=
  info.toList.foldl
    (fun (hasVssControl, vssInfo) ri =>
      if ri.code = RelayCode.virtualSubnetControl then (true, vssInfo)
      else if ri.code = RelayCode.virtualSubnet then
        match ri with
        | .unknown _ data => (hasVssControl, some data)
        | _ => (hasVssControl, vssInfo)
      else (hasVssControl, vssInfo))
    (false, none)

/-- The warnings the check stage logs about a reply. -/
def vssWarnings (vssConfig : VssConfig) (msg : Message) : List String :=
  match msg.opts.get? OptionCode.relayAgentInformation with
  | some (.relayAgentInformation info) =>
    let (hasVssControl, vssInfo) := scanVss info
    let unsupported := if hasVssControl then ["server does not support VSS"] else []
    let mismatch :=
      match vssConfig.vpnName, vssInfo with
      | some expectedVpn, some infoData =>
        if !infoData.isEmpty && vssConfig.vssType == vssTypeNvtAscii then
          let text := ByteArray.mk (infoData.drop Vss.vssTypeOffset).toArray
          let vpnName := (String.fromUTF8? text).getD ""
          if vpnName ≠ expectedVpn then ["VPN name mismatch"] else []
        else []
      | _, _ => []
    unsupported ++ mismatch
  | _ => []

/-- Checks a server reply for VSS-Control removal and the VPN name. What it finds
is only logged. -/
def vssCheckStage (proto : Codec) (vssConfig : VssConfig) : PipelineStage where
  name := "dhcpv4::vss::check"
  process ctx :=
    if !vssConfig.enabled then (.ok true, ctx)
    else
      match proto.decode ctx.buffer with
      | .error e => (.error (.parse s!"vss check decode: {e}"), ctx)
      | .ok msg =>
        let _logged := vssWarnings vssConfig msg
        (.ok true, ctx)

/-- The arguments of `build_request`. -/
structure RequestArgs where
  localAddrs : List Ipv4Addr
  circuitId : Option Bytes
  remoteId : Option Bytes
  ifaceIp : Ipv4Addr
  serverAddr : SocketAddr
  vssConfig : Option VssConfig
  enableOption82 : Bool

/-- Build the client→server (request relay) pipeline. -/
def buildRequest (proto : Codec) (args : RequestArgs) : Pipeline :=
  .withStages <|
    [parseStage proto, validateStage proto args.localAddrs]
      ++ (if args.enableOption82 then
            [option82InsertStage proto args.circuitId args.remoteId]
          else [])
      ++ (match args.vssConfig with
          | some cfg => [vssInsertStage proto cfg]
          | none => [])
      ++ [giaddrStage proto args.ifaceIp, forwardStage args.serverAddr]

/-- All its stages but the last. -/
def requestEdits (proto : Codec) (args : RequestArgs) : List PipelineStage :=
  [parseStage proto, validateStage proto args.localAddrs]
    ++ (if args.enableOption82 then [option82InsertStage proto args.circuitId args.remoteId] else [])
    ++ (match args.vssConfig with
        | some cfg => [vssInsertStage proto cfg]
        | none => [])
    ++ [giaddrStage proto args.ifaceIp]

theorem buildRequest_stages (proto : Codec) (args : RequestArgs) :
    (buildRequest proto args).stages
      = requestEdits proto args ++ [forwardStage args.serverAddr] := by
  simp only [buildRequest, Pipeline.withStages, requestEdits, List.append_assoc,
    List.cons_append, List.nil_append]

/-- What holds of every kind of stage holds of all stages but the last. -/
theorem forall_requestEdits {proto : Codec} {args : RequestArgs} {P : PipelineStage → Prop}
    (parse : P (parseStage proto)) (validate : P (validateStage proto args.localAddrs))
    (insert : P (option82InsertStage proto args.circuitId args.remoteId))
    (vss : ∀ cfg, P (vssInsertStage proto cfg)) (giaddr : P (giaddrStage proto args.ifaceIp)) :
    ∀ stage ∈ requestEdits proto args, P stage := by
  intro stage hstage
  simp only [requestEdits, List.mem_append, List.mem_cons, List.not_mem_nil, or_false] at hstage
  rcases hstage with (((rfl | rfl) | hstage) | hstage) | rfl
  · exact parse
  · exact validate
  · split at hstage
    · exact List.mem_singleton.mp hstage ▸ insert
    · simp at hstage
  · cases hcfg : args.vssConfig with
    | none => simp [hcfg] at hstage
    | some cfg =>
        obtain rfl : stage = vssInsertStage proto cfg := by simpa [hcfg] using hstage
        exact vss cfg
  · exact giaddr

/-- Build the server→client (reply relay) pipeline. -/
def buildReply (proto : Codec) (expectedSubOpts : Option (List Option82.SubOption))
    (vssConfig : Option VssConfig) (enableOption82 : Bool) : Pipeline :=
  .withStages <|
    [parseStage proto]
      ++ (match vssConfig with
          | some cfg => [vssCheckStage proto cfg]
          | none => [])
      ++ (if enableOption82 then [option82StripStage proto expectedSubOpts] else [])
      ++ [replyAddrStage proto]

end DhcpRelay.V4
