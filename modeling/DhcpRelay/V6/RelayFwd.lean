import DhcpRelay.Config
import DhcpRelay.Library.Tlv

/-!
# DhcpRelay.V6.RelayFwd

Wrapping a client message into a Relay-forward and unwrapping a Relay-reply
(`relay_fwd.rs`), both directly on the wire format.

The scan for the relay-message option goes by positions, as the source does. It is
shown to find what `Tlv.Finds` says: **the value of the first complete option 9**,
behind complete options with other codes and before anything at all.
-/

namespace DhcpRelay.V6.RelayFwd

open DhcpRelay.Library

/-- DHCPv6 message types. -/
def relayForw : UInt8 := 12
def relayRepl : UInt8 := 13

/-- DHCPv6 option code for relay-message. -/
def optionRelayMsg : UInt16 := 9

/-- Fixed header size of a DHCPv6 relay message: msg-type (1) + hop-count (1) +
link-addr (16) + peer-addr (16). -/
abbrev relayHdrLen : Nat := 34

/-- Minimum option TLV size: option-code (2) + option-len (2). -/
abbrev optionTlvHdr : Nat := 4

/-- The peer-address field for a peer: unspecified unless the peer has an IPv6 address. -/
def peerIp (peerAddr : SocketAddr) : Ipv6Addr :=
  match peerAddr.ip with
  | .v6 ip => ip
  | .v4 _ => .unspecified

theorem peerIp_of_v6 {peerAddr : SocketAddr} {ip : Ipv6Addr} (h : peerAddr.ip = .v6 ip) :
    peerIp peerAddr = ip := by
  rw [peerIp, h]

/-- Encapsulate a client DHCPv6 message into a Relay-forward message. The length
field is `client_msg.len() as u16`. -/
def encapsulate (clientMsg : Bytes) (linkAddr : Ipv6Addr) (peerAddr : SocketAddr) : Bytes :=
  [relayForw, 0]
    ++ linkAddr.octets.toList
    ++ (peerIp peerAddr).octets.toList
    ++ toBe16 optionRelayMsg.toNat
    ++ toBe16 clientMsg.length
    ++ clientMsg

/-- The loop of `extract_relay_msg`, from position `pos` on. -/
def extractLoop (options : Bytes) (pos : Nat) : RelayResult Bytes :=
  if h : pos + optionTlvHdr ≤ options.length then
    have hhdr : pos + 4 ≤ options.length := h
    let code := UInt16.ofNat (be16 options[pos] options[pos + 1])
    let len := be16 options[pos + 2] options[pos + 3]
    let pos := pos + optionTlvHdr
    if pos + len > options.length then
      .error (.parse
        s!"truncated option: code {code} length {len} exceeds remaining {options.length - pos} bytes")
    else if code = optionRelayMsg then .ok ((options.drop pos).take len)
    else extractLoop options (pos + len)
  else .error (.parse "no relay-message option (9) found in relay reply")
termination_by options.length - pos
decreasing_by
  simp only [optionTlvHdr]
  omega

/-- Extract the relay-message option (code 9) from a sequence of DHCPv6 options. -/
def extractRelayMsg (options : Bytes) : RelayResult Bytes := extractLoop options 0

/-! ### What the loop finds -/

theorem getElem_of_drop {options bytes : Bytes} {pos i : Nat} (h : options.drop pos = bytes)
    (hbytes : i < bytes.length) (hoptions : pos + i < options.length) :
    options[pos + i] = bytes[i] := by
  subst h
  rw [List.getElem_drop]

/-- At the position of an item the loop takes its value or steps over it. -/
theorem extractLoop_of_item {options rest : Bytes} {pos : Nat} {item : Tlv.Item}
    (h : options.drop pos = item.toBytes ++ rest) :
    extractLoop options pos =
      if item.code = optionRelayMsg then .ok item.value
      else extractLoop options (pos + item.toBytes.length) := by
  have hlength : options.length - pos = 4 + item.value.length + rest.length := by
    rw [← List.length_drop, h, List.length_append, Tlv.length_toBytes]
  have hhdr : pos + 4 ≤ options.length := by omega
  have hshort : 4 ≤ (item.toBytes ++ rest).length := by
    rw [List.length_append, Tlv.length_toBytes]
    omega
  -- the header of the item stands where the loop reads it
  have h0 := getElem_of_drop (i := 0) h (by omega) (by omega)
  have h1 := getElem_of_drop (i := 1) h (by omega) (by omega)
  have h2 := getElem_of_drop (i := 2) h (by omega) (by omega)
  have h3 := getElem_of_drop (i := 3) h (by omega) (by omega)
  obtain ⟨code, value, fits⟩ := item
  have hcode : UInt16.ofNat (be16 options[pos] options[pos + 1]) = code := by
    have hread : be16 options[pos] options[pos + 1] = code.toNat % 65536 := by
      rw [← be16_toBe16]
      exact congrArg₂ be16 h0 h1
    rw [hread, Nat.mod_eq_of_lt code.toNat_lt, UInt16.ofNat_toNat]
  have hlen : be16 options[pos + 2] options[pos + 3] = value.length := by
    rw [← Nat.mod_eq_of_lt fits, ← be16_toBe16]
    exact congrArg₂ be16 h2 h3
  have hvalue : (options.drop (pos + 4)).take value.length = value := by
    rw [← List.drop_drop, h]
    exact List.take_left' rfl
  have hfits : ¬ pos + 4 + value.length > options.length := by
    simp only at hlength
    omega
  rw [extractLoop, dif_pos hhdr]
  simp only [hcode, hlen, hvalue, optionTlvHdr, if_neg hfits, Tlv.length_toBytes,
    ← Nat.add_assoc]

/-- Where no item can be read, the loop ends in an error. -/
theorem extractLoop_of_none {options : Bytes} {pos : Nat}
    (h : Tlv.readItem (options.drop pos) = none) :
    ∃ text, extractLoop options pos = .error (.parse text) := by
  unfold extractLoop
  split
  · next hhdr =>
      have hlt : pos + 4 ≤ options.length := hhdr
      have hhead : options.drop pos = options[pos] :: options[pos + 1] :: options[pos + 2]
          :: options[pos + 3] :: options.drop (pos + 4) := by
        rw [List.drop_eq_getElem_cons (by omega), List.drop_eq_getElem_cons (by omega),
          List.drop_eq_getElem_cons (by omega), List.drop_eq_getElem_cons (by omega)]
      rw [hhead, Tlv.readItem] at h
      have htruncated : pos + 4 + be16 options[pos + 2] options[pos + 3] > options.length := by
        by_contra hfits
        rw [if_pos (by rw [List.length_drop]; omega)] at h
        simp at h
      exact ⟨_, if_pos htruncated⟩
  · exact ⟨_, rfl⟩

/-- **The scan finds what `Tlv.Finds` says**, and nothing else. -/
theorem extractLoop_ok_iff {options value : Bytes} (pos : Nat) :
    extractLoop options pos = .ok value ↔ Tlv.Finds optionRelayMsg (options.drop pos) value := by
  -- on what is left to scan: stepping over an item leaves at least four bytes less
  induction hn : options.length - pos using Nat.strong_induction_on generalizing pos with
  | _ n ih =>
      cases hread : Tlv.readItem (options.drop pos) with
      | none =>
          obtain ⟨text, hloop⟩ := extractLoop_of_none hread
          have hnot : ¬ Tlv.Finds optionRelayMsg (options.drop pos) value :=
            Tlv.Finds.not_of_readItem hread
          simp [hloop, hnot]
      | some found =>
          obtain ⟨item, rest⟩ := found
          have hbytes := Tlv.eq_of_readItem hread
          have hrest : options.drop (pos + item.toBytes.length) = rest := by
            rw [← List.drop_drop, hbytes, List.drop_left]
          have hshorter : options.length - (pos + item.toBytes.length) < n := by
            have hlength := congrArg List.length hbytes
            rw [List.length_drop, List.length_append, Tlv.length_toBytes] at hlength
            rw [Tlv.length_toBytes]
            omega
          rw [extractLoop_of_item hbytes, hbytes, Tlv.Finds.cons_iff]
          split
          · exact ⟨Except.ok.inj, congrArg Except.ok⟩
          · rw [ih _ hshorter _ rfl, hrest]

/-- What `extract_relay_msg` accepts. -/
theorem extractRelayMsg_ok_iff {options value : Bytes} :
    extractRelayMsg options = .ok value ↔ Tlv.Finds optionRelayMsg options value :=
  extractLoop_ok_iff 0

/-- The extracted message is shorter than what it is extracted from. -/
theorem length_extractRelayMsg {options value : Bytes} (h : extractRelayMsg options = .ok value) :
    value.length + 4 ≤ options.length :=
  (extractRelayMsg_ok_iff.mp h).length_le

/-! ### Unwrapping -/

/-- Decapsulate a Relay-reply message, extracting the innermost client message. -/
def decapsulate (relayReply : Bytes) : RelayResult Bytes :=
  if h : relayReply.length < relayHdrLen then
    .error (.parse
      s!"relay message too short: {relayReply.length} bytes (minimum {relayHdrLen})")
  else
    have hhdr : 34 ≤ relayReply.length := Nat.le_of_not_lt h
    let msgType := relayReply[0]
    if msgType ≠ relayRepl then
      .error (.parse s!"expected RELAY_REPL (13), got msg_type {msgType}")
    else
      match hinner : extractRelayMsg (relayReply.drop relayHdrLen) with
      | .error e => .error e
      | .ok inner =>
        -- if the inner message is itself a Relay-reply, recurse (nested relay)
        if inner.head? = some relayRepl then decapsulate inner else .ok inner
termination_by relayReply.length
decreasing_by
  have hlt := length_extractRelayMsg hinner
  rw [List.length_drop] at hlt
  omega

/-- One well-formed layer of a Relay-reply: a header of its type and, among complete
options, a relay-message option with `inner` in it. -/
structure Layer (reply inner : Bytes) : Prop where
  header : relayHdrLen ≤ reply.length
  msgType : reply.head? = some relayRepl
  relayMsg : Tlv.Finds optionRelayMsg (reply.drop relayHdrLen) inner

/-- A layer is taken off, and the next one if there is one. -/
theorem Layer.decapsulate_eq {reply inner : Bytes} (h : Layer reply inner) :
    decapsulate reply
      = if inner.head? = some relayRepl then decapsulate inner else .ok inner := by
  have hheader : ¬ reply.length < relayHdrLen := Nat.not_lt_of_le h.header
  have hlong : 34 ≤ reply.length := h.header
  have hextract : extractRelayMsg (reply.drop relayHdrLen) = .ok inner :=
    extractRelayMsg_ok_iff.mpr h.relayMsg
  have htype : ¬ reply[0] ≠ relayRepl := by
    have hhead := h.msgType
    rw [List.head?_eq_getElem?, List.getElem?_eq_getElem (by omega)] at hhead
    exact not_not.mpr (Option.some.inj hhead)
  rw [decapsulate, dif_neg hheader]
  simp only [if_neg htype]
  split
  · next e herr =>
      rw [hextract] at herr
      simp at herr
  · next inner' hok =>
      rw [hextract] at hok
      obtain rfl : inner = inner' := Except.ok.inj hok
      rfl

/-- A Relay-reply of one layer: `peer` in its header, `payload` in its relay-message
option, and no Relay-reply in the payload. -/
structure SingleLayer (reply : Bytes) (peer : Ipv6Addr) (payload : Bytes) : Prop where
  header : relayHdrLen ≤ reply.length
  msgType : reply.head? = some relayRepl
  peerAddr : (reply.drop 18).take 16 = peer.octets.toList
  relayMsg : Tlv.Finds optionRelayMsg (reply.drop relayHdrLen) payload
  innermost : payload.head? ≠ some relayRepl

/-- A Relay-reply as a server writes it. -/
def replyBytes (hopCount : UInt8) (linkAddr peerAddr : Ipv6Addr) (options : Bytes) : Bytes :=
  [relayRepl, hopCount] ++ linkAddr.octets.toList ++ peerAddr.octets.toList ++ options

/-- A reply with a relay-message option behind any other options is a layer. -/
theorem layer_replyBytes {before : List Tlv.Item} {item : Tlv.Item}
    (hbefore : ∀ other ∈ before, other.code ≠ optionRelayMsg) (hcode : item.code = optionRelayMsg)
    (hopCount : UInt8) (linkAddr peerAddr : Ipv6Addr) (rest : Bytes) :
    Layer (replyBytes hopCount linkAddr peerAddr
      (Tlv.writeAll before ++ (item.toBytes ++ rest))) item.value where
  header := by
    simp only [replyBytes, relayHdrLen, List.length_append, List.length_cons, List.length_nil,
      Vector.length_toList]
    omega
  msgType := rfl
  relayMsg := by
    have hheader : ([relayRepl, hopCount] ++ linkAddr.octets.toList
        ++ peerAddr.octets.toList).length = 34 := by simp
    rw [replyBytes, List.drop_left' hheader]
    exact Tlv.finds_writeAll hbefore hcode rest

/-- Such a reply is one of one layer, if there is no Relay-reply in it. -/
theorem singleLayer_replyBytes {before : List Tlv.Item} {item : Tlv.Item}
    (hbefore : ∀ other ∈ before, other.code ≠ optionRelayMsg) (hcode : item.code = optionRelayMsg)
    (hinner : item.value.head? ≠ some relayRepl) (hopCount : UInt8) (linkAddr peerAddr : Ipv6Addr)
    (rest : Bytes) :
    SingleLayer (replyBytes hopCount linkAddr peerAddr
      (Tlv.writeAll before ++ (item.toBytes ++ rest))) peerAddr item.value where
  header := (layer_replyBytes hbefore hcode hopCount linkAddr peerAddr rest).header
  msgType := rfl
  peerAddr := by
    have hlink : ([relayRepl, hopCount] ++ linkAddr.octets.toList).length = 18 := by simp
    have hpeer : peerAddr.octets.toList.length = 16 := by simp
    rw [replyBytes, List.append_assoc, List.drop_left' hlink, List.take_left' hpeer]
  relayMsg := (layer_replyBytes hbefore hcode hopCount linkAddr peerAddr rest).relayMsg
  innermost := hinner

/-- One layer is unwrapped to its payload. -/
theorem SingleLayer.decapsulate {reply payload : Bytes} {peer : Ipv6Addr}
    (h : SingleLayer reply peer payload) : RelayFwd.decapsulate reply = .ok payload := by
  have hlayer : Layer reply payload := ⟨h.header, h.msgType, h.relayMsg⟩
  rw [hlayer.decapsulate_eq, if_neg h.innermost]

/-- The peer-address field of a wrapped message. -/
theorem encapsulate_peer (clientMsg : Bytes) (linkAddr : Ipv6Addr) (peerAddr : SocketAddr) :
    ((encapsulate clientMsg linkAddr peerAddr).drop 18).take 16
      = (peerIp peerAddr).octets.toList := by
  have hlink : ([relayForw, 0] ++ linkAddr.octets.toList).length = 18 := by simp
  have hpeer : (peerIp peerAddr).octets.toList.length = 16 := by simp
  simp only [encapsulate, List.append_assoc]
  rw [← List.append_assoc, List.drop_left' hlink, List.take_left' hpeer]

end DhcpRelay.V6.RelayFwd
