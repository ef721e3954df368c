import DhcpRelay.V6.RequestCorrect

/-!
# DhcpRelay.V6.Envelope

**What is inside the relay-message option and what is beside it.** The relay puts its own
options into the client's message before it wraps it, so the message does not travel
untouched; and it looks for the Interface-ID of a reply only after it has taken the
envelope off, in which a server returns it.

The length field has sixteen bits. What the option holds of a payload is therefore only
as long as the field says (`relayItem`); the rest of a longer payload follows as if it
were more options.
-/

namespace DhcpRelay.V6

open DhcpRelay.Library

/-! ### The relay-message option -/

/-- The relay-message option as a reader finds it. -/
def relayItem (payload : Bytes) : Tlv.Item where
  code := RelayFwd.optionRelayMsg
  value := payload.take (payload.length % 65536)
  fits := lt_of_le_of_lt (List.length_take_le _ _) (Nat.mod_lt _ (by decide))

/-- **The options of a Relay-forward**: the relay-message option, and what its length field
leaves of the payload. -/
theorem encapsulate_options (payload : Bytes) (linkAddr : Ipv6Addr) (peerAddr : SocketAddr) :
    (RelayFwd.encapsulate payload linkAddr peerAddr).drop RelayFwd.relayHdrLen
      = (relayItem payload).toBytes ++ payload.drop (payload.length % 65536) := by
  have hheader : ([RelayFwd.relayForw, 0] ++ linkAddr.octets.toList
      ++ (RelayFwd.peerIp peerAddr).octets.toList).length = RelayFwd.relayHdrLen := by simp
  have hvalue : (payload.take (payload.length % 65536)).length = payload.length % 65536 := by
    rw [List.length_take, Nat.min_eq_left (Nat.mod_le _ _)]
  simp only [RelayFwd.encapsulate, relayItem, Tlv.Item.toBytes, hvalue, toBe16_mod]
  rw [List.append_assoc, List.append_assoc, List.drop_left' hheader, List.append_assoc,
    List.append_assoc, List.take_append_drop]

/-- What a reader finds in the relay-message option of a Relay-forward. -/
theorem encapsulate_finds_iff {payload value : Bytes} {linkAddr : Ipv6Addr}
    {peerAddr : SocketAddr} :
    Tlv.Finds RelayFwd.optionRelayMsg
        ((RelayFwd.encapsulate payload linkAddr peerAddr).drop RelayFwd.relayHdrLen) value ↔
      payload.take (payload.length % 65536) = value := by
  rw [encapsulate_options, Tlv.Finds.cons_iff,
    if_pos (show (relayItem payload).code = RelayFwd.optionRelayMsg from rfl)]
  exact Iff.rfl

/-- The length in the relay-message option is that of what follows it, and the scan finds
all of it. -/
structure LengthExact (out : Bytes) : Prop where
  field : ∃ hi lo, (out.drop 36).take 2 = [hi, lo] ∧ be16 hi lo = (out.drop 38).length
  scan : RelayFwd.extractRelayMsg (out.drop RelayFwd.relayHdrLen) = .ok (out.drop 38)

/-- **The length is exact as far as sixteen bits go.** -/
theorem lengthExact_encapsulate_iff {payload : Bytes} {linkAddr : Ipv6Addr}
    {peerAddr : SocketAddr} :
    LengthExact (RelayFwd.encapsulate payload linkAddr peerAddr) ↔ payload.length ≤ 65535 := by
  have hheader : ([RelayFwd.relayForw, 0] ++ linkAddr.octets.toList
      ++ (RelayFwd.peerIp peerAddr).octets.toList
      ++ toBe16 RelayFwd.optionRelayMsg.toNat).length = 36 := by simp
  have hfield : (RelayFwd.encapsulate payload linkAddr peerAddr).drop 36
      = toBe16 payload.length ++ payload := by
    rw [RelayFwd.encapsulate, List.append_assoc, List.drop_left' hheader]
  have hpayload : (RelayFwd.encapsulate payload linkAddr peerAddr).drop 38 = payload := by
    have hsplit := congrArg (List.drop 2) hfield
    rwa [List.drop_drop, List.drop_left' (length_toBe16 _)] at hsplit
  constructor
  · intro h
    obtain ⟨hi, lo, hbytes, hlength⟩ := h.field
    have hlt := be16_lt hi lo
    rw [hlength, hpayload] at hlt
    exact Nat.le_of_lt_succ hlt
  · intro hle
    have hmod : payload.length % 65536 = payload.length :=
      Nat.mod_eq_of_lt (Nat.lt_succ_of_le hle)
    refine ⟨⟨UInt8.ofNat (payload.length / 256), UInt8.ofNat payload.length, ?_, ?_⟩, ?_⟩
    · rw [hfield]
      exact List.take_left' (length_toBe16 _)
    · rw [hpayload, be16_toBe16, hmod]
    · rw [hpayload]
      refine RelayFwd.extractRelayMsg_ok_iff.mpr (encapsulate_finds_iff.mpr ?_)
      rw [hmod, List.take_length]

/-! ### Requests -/

/-- All of `opts` are among the items. -/
def AllAmong (opts : List DhcpOption) (items : List Tlv.Item) : Prop :=
  ∀ opt ∈ opts, ∃ item ∈ items, item.code = opt.code ∧ item.value = opt.data

/-- The Relay-forward `out` has the client's message `c` in its relay-message option, and
the options `added` beside it. -/
structure Untouched (out c : Bytes) (added : List DhcpOption) : Prop where
  relayMsg : Tlv.Finds RelayFwd.optionRelayMsg (out.drop RelayFwd.relayHdrLen) c
  beside : ∃ items, out.drop RelayFwd.relayHdrLen = Tlv.writeAll items ∧ AllAmong added items

/-- The length field of `payload` wraps to exactly `c`, and what is left of it reads as
options with `added` among them. -/
def WrapsTo (payload c : Bytes) (added : List DhcpOption) : Prop :=
  65536 ≤ payload.length ∧ payload.take (payload.length % 65536) = c
    ∧ ∃ items, payload.drop (payload.length % 65536) = Tlv.writeAll items ∧ AllAmong added items

/-- An option that may be left out. -/
theorem eq_of_mem_optional {b : Bool} {opt added : DhcpOption}
    (h : opt ∈ if b then [added] else []) : opt = added := by
  cases b with
  | false => simp at h
  | true => exact List.mem_singleton.mp h

/-- The options the relay adds are not relay-messages. -/
theorem RequestArgs.code_of_added {args : RequestArgs} {opt : DhcpOption}
    (h : opt ∈ args.added) : opt.code ≠ RelayFwd.optionRelayMsg := by
  unfold RequestArgs.added at h
  rcases List.mem_append.mp h with h | hvss
  · rcases List.mem_append.mp h with hiface | hremote
    · rw [eq_of_mem_optional hiface]
      show OptionCode.interfaceId ≠ RelayFwd.optionRelayMsg
      decide
    · rw [eq_of_mem_optional hremote]
      show OptionCode.remoteId ≠ RelayFwd.optionRelayMsg
      decide
  · cases hcfg : args.vssConfig with
    | none => simp [hcfg] at hvss
    | some cfg =>
        rw [hcfg] at hvss
        rw [eq_of_mem_optional hvss]
        show OptionCode.vss ≠ RelayFwd.optionRelayMsg
        decide

/-- A wrapped payload with the added options beside the client's message. -/
theorem untouched_encapsulate_iff {payload c : Bytes} {added : List DhcpOption}
    (hcodes : ∀ opt ∈ added, opt.code ≠ RelayFwd.optionRelayMsg) (linkAddr : Ipv6Addr)
    (peerAddr : SocketAddr) :
    Untouched (RelayFwd.encapsulate payload linkAddr peerAddr) c added ↔
      payload.take (payload.length % 65536) = c
        ∧ ∃ items, payload.drop (payload.length % 65536) = Tlv.writeAll items
          ∧ AllAmong added items := by
  constructor
  · intro h
    obtain ⟨hmsg, items, hitems, hamong⟩ := h
    rw [encapsulate_options] at hitems
    obtain ⟨items', rfl, hrest⟩ := Tlv.writeAll_eq_cons hitems.symm
    refine ⟨encapsulate_finds_iff.mp hmsg, items', hrest.symm, ?_⟩
    intro opt hopt
    obtain ⟨item, hitem, hcode, hvalue⟩ := hamong opt hopt
    rcases List.mem_cons.mp hitem with rfl | hitem
    · -- an added option is not the relay-message itself
      exact absurd hcode.symm (hcodes opt hopt)
    · exact ⟨item, hitem, hcode, hvalue⟩
  · intro h
    obtain ⟨hmsg, items, hitems, hamong⟩ := h
    refine ⟨encapsulate_finds_iff.mpr hmsg, relayItem payload :: items, ?_, ?_⟩
    · rw [encapsulate_options, hitems]
      rfl
    · intro opt hopt
      obtain ⟨item, hitem, hfacts⟩ := hamong opt hopt
      exact ⟨item, List.mem_cons_of_mem _ hitem, hfacts⟩

/-- A message with an option more is another message. -/
theorem Message.extend_ne {msg : Message} {added : List DhcpOption} (h : added ≠ []) :
    msg.extend added ≠ msg := by
  intro heq
  have hlength := (msg.extend_perm added).length_eq
  rw [heq, List.length_append] at hlength
  have hpos : 0 < added.length := List.length_pos_iff.mpr h
  omega

/-- **When the client's message travels untouched**: where no option is added to it; or
where the encoding of the extended message is so long that its length field wraps to
exactly the client's bytes. -/
theorem request_untouched_iff {proto : Codec} (hc : proto.Lawful) (args : RequestArgs)
    (haccepted : args.VssAccepted) {c : Bytes} {msg : Message} (hdec : proto.decode c = .ok msg)
    (hlength : c.length ≤ 65535) (src : SocketAddr) (interface : String) :
    (∀ ctx', (buildRequest proto args).execute (.new c src interface) = (.ok true, ctx') →
        Untouched ctx'.buffer c args.added)
      ↔ args.added = []
        ∨ ∃ payload, proto.encode (msg.extend args.added) = .ok payload
          ∧ WrapsTo payload c args.added := by
  obtain ⟨ctx', payload, hrun, -, hbuffer, hrelayed, hpayload⟩ :=
    request_run hc haccepted hdec src interface
  have hiff : Untouched ctx'.buffer c args.added ↔ _ := hbuffer ▸
    untouched_encapsulate_iff (fun _ => RequestArgs.code_of_added) args.linkAddr args.peerAddr
  constructor
  · intro h
    obtain ⟨htake, hrest⟩ := hiff.mp (h ctx' hrun)
    by_cases hnone : args.added = []
    · exact .inl hnone
    · have hencode : proto.encode (msg.extend args.added) = .ok payload := by
        rwa [relayed, if_neg (by simpa using hnone)] at hrelayed
      refine .inr ⟨payload, hencode, ?_, htake, hrest⟩
      -- a payload that fits would be the client's bytes, which read as another message
      by_contra hfits
      rw [Nat.mod_eq_of_lt (Nat.lt_of_not_le hfits), List.take_length] at htake
      rw [htake, hdec] at hpayload
      exact Message.extend_ne hnone (Except.ok.inj hpayload).symm
  · intro h ctx'' hrun'
    obtain rfl : ctx' = ctx'' := congrArg Prod.snd (hrun.symm.trans hrun')
    refine hiff.mpr ?_
    by_cases hnone : args.added = []
    · rw [hnone] at hrelayed ⊢
      obtain rfl : c = payload := Except.ok.inj hrelayed
      rw [Nat.mod_eq_of_lt (Nat.lt_succ_of_le hlength), List.take_length, List.drop_length]
      exact ⟨rfl, [], rfl, by simp [AllAmong]⟩
    · rcases h with h | ⟨payload', hencode, -, hwraps⟩
      · exact absurd h hnone
      · rw [relayed, if_neg (by simpa using hnone), hencode] at hrelayed
        obtain rfl : payload' = payload := Except.ok.inj hrelayed
        exact hwraps

/-- An Interface-ID and nothing else. -/
def sampleArgsId : RequestArgs :=
  { sampleArgs with vssConfig := none, enableRemoteId := false }

/-- A CONFIRM without options. -/
def sampleConfirm : Bytes := [4, 0, 0, 2]

def sampleConfirmMsg : Message where
  msgType := .confirm
  xid := #v[0, 0, 2]

theorem sampleConfirm_decode : Wire.wire.decode sampleConfirm = .ok sampleConfirmMsg := by
  rfl

/-- The Interface-ID ends up in the relay-message option, behind the client's bytes. -/
theorem sampleConfirm_touched :
    ∃ ctx', (buildRequest Wire.wire sampleArgsId).execute
          (.new sampleConfirm sampleArgs.peerAddr "eth0") = (.ok true, ctx')
      ∧ Tlv.Finds RelayFwd.optionRelayMsg (ctx'.buffer.drop RelayFwd.relayHdrLen)
          (sampleConfirm ++ [0, 18, 0, 4, 101, 116, 104, 48])
      ∧ ¬ Untouched ctx'.buffer sampleConfirm sampleArgsId.added := by
  have haccepted : sampleArgsId.VssAccepted := by simp [RequestArgs.VssAccepted, sampleArgsId]
  obtain ⟨ctx', payload, hrun, -, hbuffer, hrelayed, -⟩ :=
    request_run Wire.wire_lawful haccepted sampleConfirm_decode sampleArgs.peerAddr "eth0"
  have hpayload : relayed Wire.wire sampleConfirm sampleConfirmMsg sampleArgsId.added
      = .ok (sampleConfirm ++ [0, 18, 0, 4, 101, 116, 104, 48]) := by decide +kernel
  obtain rfl := Except.ok.inj (hpayload.symm.trans hrelayed)
  refine ⟨ctx', hrun, ?_, ?_⟩
  · rw [hbuffer]
    exact encapsulate_finds_iff.mpr rfl
  · intro h
    have hfinds := h.relayMsg
    rw [hbuffer] at hfinds
    exact absurd (encapsulate_finds_iff.mp hfinds) (by decide)

/-- Nothing at all. -/
def sampleArgsPlain : RequestArgs := { sampleArgsId with enableInterfaceId := false }

/-- Without options to add the client's bytes are wrapped as they are. -/
theorem sampleConfirm_untouched :
    ∃ ctx', (buildRequest Wire.wire sampleArgsPlain).execute
          (.new sampleConfirm sampleArgs.peerAddr "eth0") = (.ok true, ctx')
      ∧ Untouched ctx'.buffer sampleConfirm sampleArgsPlain.added := by
  have haccepted : sampleArgsPlain.VssAccepted := by
    simp [RequestArgs.VssAccepted, sampleArgsPlain, sampleArgsId]
  obtain ⟨ctx', payload, hrun, -⟩ :=
    request_run Wire.wire_lawful haccepted sampleConfirm_decode sampleArgs.peerAddr "eth0"
  exact ⟨ctx', hrun, (request_untouched_iff Wire.wire_lawful sampleArgsPlain haccepted
    sampleConfirm_decode (by decide) sampleArgs.peerAddr "eth0").mpr (.inl rfl) ctx' hrun⟩

/-! ### Replies -/

/-- The pipeline lets the reply through as its inner message, with a note of the interface. -/
structure Recovers (out : RelayResult Bool × PipelineContext) (payload : Bytes)
    (ifaceName : String) : Prop where
  passed : out.1 = .ok true
  buffer : out.2.buffer = payload
  outbound : out.2.metadata "outbound_interface" = some ifaceName

theorem not_recovers_of_unnoted {out : RelayResult Bool × PipelineContext} {payload : Bytes}
    {ifaceName : String} (h : out.2.metadata "outbound_interface" = none) :
    ¬ Recovers out payload ifaceName := by
  intro hrecovers
  have hnoted := hrecovers.outbound
  rw [h] at hnoted
  simp at hnoted

/-- Where the inner message has no Interface-ID, nothing is noted. -/
theorem interfaceIdExtractStage_none {proto : Codec} {ctx : PipelineContext} {msg : Message}
    (h : proto.decode ctx.buffer = .ok msg)
    (hnone : ∀ opt ∈ msg.opts.toList, opt.code ≠ OptionCode.interfaceId) :
    (interfaceIdExtractStage proto).process ctx = (.ok true, ctx) := by
  have hfind : msg.opts.toList.findSome? InterfaceId.decode = none := by
    rw [List.findSome?_eq_none_iff]
    intro opt hopt
    cases opt with
    | interfaceId data => exact absurd rfl (hnone _ hopt)
    | unknown code data => rfl
    | other code data => rfl
  simp only [interfaceIdExtractStage, h, hfind]

/-- A reply without an Interface-ID in its inner message leaves no note. -/
theorem reply_unnoted {proto : Codec} {reply payload : Bytes} {peer : Ipv6Addr}
    {msg inner : Message} (hlayer : RelayFwd.SingleLayer reply peer payload)
    (hdec : proto.decode reply = .ok msg) (hinner : proto.decode payload = .ok inner)
    (hnone : ∀ opt ∈ inner.opts.toList, opt.code ≠ OptionCode.interfaceId)
    (src dest : SocketAddr) (interface : String) (vssConfig : Option VssConfig) :
    let out := (buildReply proto dest vssConfig).execute (.new reply src interface)
    out.1 = .ok true ∧ out.2.buffer = payload ∧ out.2.metadata "outbound_interface" = none := by
  let ctx : PipelineContext := .new reply src interface
  have hextract : (interfaceIdExtractStage proto).process { ctx with buffer := payload }
      = (.ok true, { ctx with buffer := payload }) := interfaceIdExtractStage_none hinner hnone
  have hrun : (buildReply proto dest vssConfig).execute ctx
      = (.ok true, { ctx with buffer := payload, dstAddr := some dest }) :=
    reply_run hlayer hdec hextract dest vssConfig
  dsimp only
  rw [hrun]
  exact ⟨rfl, rfl, rfl⟩

/-- The options of an answer are a layer around the message, whichever comes first. -/
theorem singleLayer_of_order {idItem msgItem : Tlv.Item} {options : List Tlv.Item}
    (hid : idItem.code = OptionCode.interfaceId) (hmsg : msgItem.code = RelayFwd.optionRelayMsg)
    (hinnermost : msgItem.value.head? ≠ some RelayFwd.relayRepl)
    (horder : options = [idItem, msgItem] ∨ options = [msgItem, idItem]) (hopCount : UInt8)
    (linkAddr peerAddr : Ipv6Addr) :
    RelayFwd.SingleLayer
      (RelayFwd.replyBytes hopCount linkAddr peerAddr (Tlv.writeAll options)) peerAddr
      msgItem.value := by
  have hother : idItem.code ≠ RelayFwd.optionRelayMsg := by
    rw [hid]
    decide
  rcases horder with rfl | rfl
  · have hbytes : Tlv.writeAll [idItem, msgItem]
        = Tlv.writeAll [idItem] ++ (msgItem.toBytes ++ []) := by simp [Tlv.writeAll]
    rw [hbytes]
    exact RelayFwd.singleLayer_replyBytes (by simpa using hother) hmsg hinnermost _ _ _ _
  · have hbytes : Tlv.writeAll [msgItem, idItem]
        = Tlv.writeAll [] ++ (msgItem.toBytes ++ idItem.toBytes) := by simp [Tlv.writeAll]
    rw [hbytes]
    exact RelayFwd.singleLayer_replyBytes (by simp) hmsg hinnermost _ _ _ _

/-- An Interface-ID option with the name of an interface. -/
structure NamesInterface (item : Tlv.Item) (ifaceName : String) : Prop where
  code : item.code = OptionCode.interfaceId
  value : item.value = ifaceName.toUTF8.toList

/-- **The Interface-ID of the envelope is lost.** The answer of a server that returns it,
beside the relay-message and in either order, is unwrapped; but it is the inner message
that is searched for the interface, which has none. -/
theorem reply_loses_interface {proto : Codec} {ifaceName : String} {idItem msgItem : Tlv.Item}
    {options : List Tlv.Item} {msg inner : Message} {hopCount : UInt8}
    {linkAddr peerAddr : Ipv6Addr} (hid : NamesInterface idItem ifaceName)
    (hmsg : msgItem.code = RelayFwd.optionRelayMsg)
    (hinnermost : msgItem.value.head? ≠ some RelayFwd.relayRepl)
    (horder : options = [idItem, msgItem] ∨ options = [msgItem, idItem])
    (hdec : proto.decode (RelayFwd.replyBytes hopCount linkAddr peerAddr (Tlv.writeAll options))
      = .ok msg)
    (hinner : proto.decode msgItem.value = .ok inner)
    (hnone : ∀ opt ∈ inner.opts.toList, opt.code ≠ OptionCode.interfaceId)
    (src dest : SocketAddr) (interface : String) (vssConfig : Option VssConfig) :
    let out := (buildReply proto dest vssConfig).execute
      (.new (RelayFwd.replyBytes hopCount linkAddr peerAddr (Tlv.writeAll options)) src interface)
    out.1 = .ok true ∧ out.2.buffer = msgItem.value
      ∧ out.2.metadata "outbound_interface" = none
      ∧ ¬ Recovers out msgItem.value ifaceName := by
  have hlayer := singleLayer_of_order hid.code hmsg hinnermost horder hopCount linkAddr peerAddr
  obtain ⟨hpassed, hbuffer, hmetadata⟩ :=
    reply_unnoted hlayer hdec hinner hnone src dest interface vssConfig
  exact ⟨hpassed, hbuffer, hmetadata, not_recovers_of_unnoted hmetadata⟩

/-- The Interface-ID of a request that came in on eth0. -/
def sampleIdItem : Tlv.Item := ⟨OptionCode.interfaceId, "eth0".toUTF8.toList, by decide +kernel⟩

/-- The answer, an ADVERTISE. -/
def sampleMsgItem : Tlv.Item := ⟨RelayFwd.optionRelayMsg, [2, 0, 0, 3], by decide⟩

def sampleAdvertiseMsg : Message where
  msgType := .advertise
  xid := #v[0, 0, 3]

theorem sampleAdvertise_decode : Wire.wire.decode [2, 0, 0, 3] = .ok sampleAdvertiseMsg := by
  rfl

theorem sampleIdItem_lost :
    let out := (buildReply Wire.wire sampleArgs.peerAddr none).execute
      (.new (RelayFwd.replyBytes 0 .unspecified .unspecified
        (Tlv.writeAll [sampleIdItem, sampleMsgItem])) sampleArgs.serverAddr "eth0")
    out.1 = .ok true ∧ out.2.buffer = [2, 0, 0, 3]
      ∧ out.2.metadata "outbound_interface" = none ∧ ¬ Recovers out [2, 0, 0, 3] "eth0" := by
  obtain ⟨msg, hdec⟩ := Wire.decode_ok (RelayFwd.replyBytes 0 .unspecified .unspecified
    (Tlv.writeAll [sampleIdItem, sampleMsgItem])) (by decide +kernel)
  have hid : NamesInterface sampleIdItem "eth0" := ⟨rfl, rfl⟩
  have hinnermost : sampleMsgItem.value.head? ≠ some RelayFwd.relayRepl := by decide
  exact reply_loses_interface hid rfl hinnermost (.inl rfl) hdec sampleAdvertise_decode
    (by simp [sampleAdvertiseMsg, DhcpOptions.empty]) _ _ _ _

/-- The answer with the options the other way round. -/
def sampleAnswer : Bytes :=
  RelayFwd.replyBytes 0 .unspecified .unspecified (Tlv.writeAll [sampleMsgItem, sampleIdItem])

theorem sampleAnswer_unnoted :
    NamesInterface sampleIdItem "eth0"
      ∧ RelayFwd.SingleLayer sampleAnswer .unspecified [2, 0, 0, 3]
      ∧ (∃ msg, Wire.wire.decode sampleAnswer = .ok msg)
      ∧ Wire.wire.decode [2, 0, 0, 3] = .ok sampleAdvertiseMsg
      ∧ sampleAdvertiseMsg.opts.toList = []
      ∧ ¬ Recovers ((buildReply Wire.wire sampleArgs.peerAddr none).execute
          (.new sampleAnswer sampleArgs.serverAddr "eth0")) [2, 0, 0, 3] "eth0" := by
  have hid : sampleIdItem.code = OptionCode.interfaceId := rfl
  have hinnermost : sampleMsgItem.value.head? ≠ some RelayFwd.relayRepl := by decide
  have hlayer : RelayFwd.SingleLayer sampleAnswer .unspecified [2, 0, 0, 3] :=
    singleLayer_of_order hid rfl hinnermost (.inr rfl) 0 .unspecified .unspecified
  obtain ⟨msg, hdec⟩ := Wire.decode_ok sampleAnswer (by decide +kernel)
  obtain ⟨-, -, hmetadata⟩ := reply_unnoted hlayer hdec sampleAdvertise_decode
    (by simp [sampleAdvertiseMsg, DhcpOptions.empty]) sampleArgs.serverAddr sampleArgs.peerAddr
    "eth0" none
  exact ⟨⟨rfl, rfl⟩, hlayer, ⟨msg, hdec⟩, sampleAdvertise_decode, rfl,
    not_recovers_of_unnoted hmetadata⟩

end DhcpRelay.V6
