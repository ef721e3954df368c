import DhcpRelay.Pipeline
import DhcpRelay.V6.RelayFwd

/-!
# DhcpRelay.V6.Pipeline

The DHCPv6 options the relay adds (`interface_id.rs`, `remote_id.rs`, `vss.rs`), its
stages, and the two pipelines built from them (`dhcp/v6/pipeline.rs`):

* request: Parse → InterfaceId → RemoteId → VSS(insert) → RelayFwd → Forward
* reply: Parse → VSS(extract) → RelayReply(decapsulate) → InterfaceIdExtract → Forward
-/

namespace DhcpRelay.V6

open DhcpRelay.Library

/-! ### Options -/

namespace InterfaceId

/-- Encode an interface name into a DHCPv6 Interface-ID option (code 18). -/
def encode (name : String) : DhcpOption := .interfaceId name.toUTF8.toList

/-- Decode a DHCPv6 Interface-ID option (code 18) into an interface name. -/
def decode : DhcpOption → Option String
  | .interfaceId data => String.fromUTF8? (ByteArray.mk data.toArray)
  | _ => none

end InterfaceId

namespace RemoteId

/-- Encode a remote identifier into a DHCPv6 Remote-ID option (code 37). -/
def encode (id : Bytes) : DhcpOption := .unknown ⟨OptionCode.remoteId, by decide⟩ id

end RemoteId

namespace Vss

/-- Encode a DHCPv6 VSS option (code 68). -/
def encode (vss : VssConfig) : RelayResult DhcpOption := do
  vss.validateVss
  return .unknown ⟨OptionCode.vss, by decide⟩ (vss.vssType :: vss.vssInfo)

/-- Extract VSS type and info from the options of a server reply. The first VSS
option decides, also when it is empty. -/
def extract : List DhcpOption → Option (UInt8 × Bytes)
  | [] => none
  | .unknown code data :: rest =>
    if code.val = OptionCode.vss then
      match data with
      | [] => none
      | vssType :: vssInfo => some (vssType, vssInfo)
    else extract rest
  | _ :: rest => extract rest

end Vss

/-! ### Stages -/

/-- Checks that the buffer is a DHCPv6 message. -/
def parseStage (proto : Codec) : PipelineStage where
  name := "dhcpv6::parse"
  process ctx :=
    match proto.decode ctx.buffer with
    | .error e => (.error (.parse s!"failed to parse DHCPv6 message: {e}"), ctx)
    | .ok _ => (.ok true, ctx)

/-- The closure shared by the stages that add an option. -/
def insertOption (opt : DhcpOption) (msg : Message) : RelayResult Unit × Message :=
  (.ok (), { msg with opts := msg.opts.insert opt })

def interfaceIdStage (proto : Codec) (ifaceName : String) : PipelineStage where
  name := "dhcpv6::interface_id"
  process ctx :=
    match ctx.modifyV6 proto "dhcpv6::interface_id"
        (insertOption (InterfaceId.encode ifaceName)) with
    | (.error e, ctx) => (.error e, ctx)
    | (.ok (), ctx) => (.ok true, ctx)

def remoteIdStage (proto : Codec) (remoteId : Bytes) : PipelineStage where
  name := "dhcpv6::remote_id"
  process ctx :=
    match ctx.modifyV6 proto "dhcpv6::remote_id" (insertOption (RemoteId.encode remoteId)) with
    | (.error e, ctx) => (.error e, ctx)
    | (.ok (), ctx) => (.ok true, ctx)

/-- Wraps the buffer, the client message with the options added, into a Relay-forward. -/
def relayFwdStage (linkAddr : Ipv6Addr) (peerAddr : SocketAddr) : PipelineStage where
  name := "dhcpv6::relay_fwd"
  process ctx :=
    (.ok true, { ctx with buffer := RelayFwd.encapsulate ctx.buffer linkAddr peerAddr })

def relayReplyStage : PipelineStage where
  name := "dhcpv6::relay_reply"
  process ctx :=
    match RelayFwd.decapsulate ctx.buffer with
    | .error e => (.error e, ctx)
    | .ok inner => (.ok true, { ctx with buffer := inner })

/-- Notes the interface a reply is to be sent to. -/
def interfaceIdExtractStage (proto : Codec) : PipelineStage where
  name := "dhcpv6::interface_id_extract"
  process ctx :=
    match proto.decode ctx.buffer with
    | .error e => (.error (.parse s!"interface-id extract decode: {e}"), ctx)
    | .ok msg =>
      match msg.opts.toList.findSome? InterfaceId.decode with
      | some name =>
        (.ok true, { ctx with metadata := ctx.metadata.insert "outbound_interface" name })
      | none => (.ok true, ctx)

/-- Sets the destination address for the packet. -/
def forwardStage (dest : SocketAddr) : PipelineStage where
  name := "dhcpv6::forward"
  process ctx := (.ok true, { ctx with dstAddr := some dest })

def vssInsertStage (proto : Codec) (vssConfig : VssConfig) : PipelineStage where
  name := "dhcpv6::vss::insert"
  process ctx :=
    if !vssConfig.enabled then (.ok true, ctx)
    else
      match Vss.encode vssConfig with
      | .error e => (.error e, ctx)
      | .ok vssOpt =>
        match ctx.modifyV6 proto "dhcpv6::vss::insert" (insertOption vssOpt) with
        | (.error e, ctx) => (.error e, ctx)
        | (.ok (), ctx) =>
          (.ok true, { ctx with metadata := ctx.metadata.insert "vss_inserted" "true" })

/-- The warnings the extraction stage logs about a reply. -/
def vssWarnings (vssConfig : VssConfig) (msg : Message) : List String :=
  match Vss.extract msg.opts.toList, vssConfig.vpnName with
  | some (vssType, vssInfo), some expectedVpn =>
    if vssType = vssTypeNvtAscii then
      let vpnName := (String.fromUTF8? (ByteArray.mk vssInfo.toArray)).getD ""
      if vpnName ≠ expectedVpn then ["VPN name mismatch"] else []
    else []
  | _, _ => []

/-- Compares the VSS information of a server reply with the configured VPN name. What
it finds is only logged. -/
def vssExtractStage (proto : Codec) (vssConfig : VssConfig) : PipelineStage where
  name := "dhcpv6::vss::extract"
  process ctx :=
    if !vssConfig.enabled then (.ok true, ctx)
    else
      match proto.decode ctx.buffer with
      | .error e => (.error (.parse s!"v6 vss extract decode: {e}"), ctx)
      | .ok msg =>
        let _logged := vssWarnings vssConfig msg
        (.ok true, ctx)

/-! ### Pipelines -/

/-- The arguments of `build_request`. -/
structure RequestArgs where
  ifaceName : String
  remoteId : Bytes
  linkAddr : Ipv6Addr
  peerAddr : SocketAddr
  serverAddr : SocketAddr
  vssConfig : Option VssConfig
  enableInterfaceId : Bool
  enableRemoteId : Bool

/-- Build the client→server (request relay) pipeline. -/
def buildRequest (proto : Codec) (args : RequestArgs) : Pipeline :=
  .withStages <|
    [parseStage proto]
      ++ (if args.enableInterfaceId then [interfaceIdStage proto args.ifaceName] else [])
      ++ (if args.enableRemoteId then [remoteIdStage proto args.remoteId] else [])
      ++ (match args.vssConfig with
          | some cfg => [vssInsertStage proto cfg]
          | none => [])
      ++ [relayFwdStage args.linkAddr args.peerAddr, forwardStage args.serverAddr]

/-- Build the server→client (reply relay) pipeline. -/
def buildReply (proto : Codec) (clientAddr : SocketAddr) (vssConfig : Option VssConfig) :
    Pipeline :=
  .withStages <|
    [parseStage proto]
      ++ (match vssConfig with
          | some cfg => [vssExtractStage proto cfg]
          | none => [])
      ++ [relayReplyStage, interfaceIdExtractStage proto, forwardStage clientAddr]

end DhcpRelay.V6
