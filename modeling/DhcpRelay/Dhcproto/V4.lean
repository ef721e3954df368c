import DhcpRelay.Library.Codec
import DhcpRelay.Library.KeyedMap
import DhcpRelay.Net

/-!
# DhcpRelay.Dhcproto.V4

The DHCPv4 messages of `dhcproto`, the library the relay decodes and encodes
with. The library is not part of the repository: its *codec* is a parameter of
everything below, and the one thing assumed of it, where anything is, is that a
message decodes back from its encoding (`Codec.Lawful`).

Its *data types* are modelled as far as the relay can see them. Options and
Option 82 sub-options are finite maps iterated in code order (`KeyedMap`).
Options the relay never looks into keep their code and payload bytes. A code
with a variant of its own is excluded from the catch-all variants
(`OtherOptionCode`, `UnknownRelayCode`): decoding never produces such a value,
and nothing in the relay builds one.
-/

namespace DhcpRelay.V4

open DhcpRelay.Library

/-! ### Option 82 -/

/-- `RelayCode`, through its number. -/
abbrev RelayCode := UInt8

namespace RelayCode

def agentCircuitId : RelayCode := 1
def agentRemoteId : RelayCode := 2
def docsisDeviceClass : RelayCode := 4
def linkSelection : RelayCode := 5
def subscriberId : RelayCode := 6
def relayAgentFlags : RelayCode := 10
def serverIdentifierOverride : RelayCode := 11
def virtualSubnet : RelayCode := 151
def virtualSubnetControl : RelayCode := 152

/-- The codes that have a `RelayInfo` variant of their own. -/
def decoded : List RelayCode :=
  [agentCircuitId, agentRemoteId, docsisDeviceClass, linkSelection, subscriberId,
    relayAgentFlags, serverIdentifierOverride]

instance instDecidableDecoded (code : RelayCode) : Decidable (code ∈ decoded) :=
  List.instDecidableMemOfLawfulBEq code decoded

end RelayCode

/-- The codes `RelayInfo.unknown` can carry. -/
abbrev UnknownRelayCode := {code : RelayCode // code ∉ RelayCode.decoded}

/-- One sub-option of Option 82. -/
inductive RelayInfo
  | agentCircuitId (data : Bytes)
  | agentRemoteId (data : Bytes)
  | docsisDeviceClass (cls : UInt32)
  | linkSelection (addr : Ipv4Addr)
  | subscriberId (data : Bytes)
  | relayAgentFlags (flags : UInt8)
  | serverIdentifierOverride (addr : Ipv4Addr)
  | unknown (code : UnknownRelayCode) (data : Bytes)
  deriving DecidableEq, Encodable

/-- `RelayCode::from(&RelayInfo)`. -/
def RelayInfo.code : RelayInfo → RelayCode
  | .agentCircuitId _ => RelayCode.agentCircuitId
  | .agentRemoteId _ => RelayCode.agentRemoteId
  | .docsisDeviceClass _ => RelayCode.docsisDeviceClass
  | .linkSelection _ => RelayCode.linkSelection
  | .subscriberId _ => RelayCode.subscriberId
  | .relayAgentFlags _ => RelayCode.relayAgentFlags
  | .serverIdentifierOverride _ => RelayCode.serverIdentifierOverride
  | .unknown code _ => code.val

/-- The sub-options of an Option 82. -/
abbrev RelayAgentInformation := KeyedMap RelayInfo RelayInfo.code

/-! ### Messages -/

inductive Opcode
  | bootRequest
  | bootReply
  | unknown (code : UInt8)
  deriving DecidableEq, Encodable

inductive MessageType
  | discover
  | offer
  | request
  | decline
  | ack
  | nak
  | release
  | inform
  | other (code : UInt8)
  deriving DecidableEq, Encodable

/-- `OptionCode`, through its number. -/
abbrev OptionCode := UInt8

namespace OptionCode

def messageType : OptionCode := 53
def relayAgentInformation : OptionCode := 82

end OptionCode

/-- The codes `DhcpOption.other` can carry. -/
abbrev OtherOptionCode :=
  {code : OptionCode // code ≠ OptionCode.messageType ∧ code ≠ OptionCode.relayAgentInformation}

/-- One option: the two the relay looks into, and all others. -/
inductive DhcpOption
  | messageType (type : MessageType)
  | relayAgentInformation (info : RelayAgentInformation)
  | other (code : OtherOptionCode) (data : Bytes)
  deriving DecidableEq, Encodable

/-- `OptionCode::from(&DhcpOption)`. -/
def DhcpOption.code : DhcpOption → OptionCode
  | .messageType _ => OptionCode.messageType
  | .relayAgentInformation _ => OptionCode.relayAgentInformation
  | .other code _ => code.val

/-- The options of a message. -/
abbrev DhcpOptions := KeyedMap DhcpOption DhcpOption.code

/-- `MAGIC`, the cookie between the header and the options. -/
def magicCookie : Vector UInt8 4 := #v[99, 130, 83, 99]

/-- A DHCPv4 message. -/
structure Message where
  opcode : Opcode := .bootRequest
  htype : UInt8 := 1
  hlen : UInt8 := 0
  hops : UInt8 := 0
  xid : UInt32 := 0
  secs : UInt16 := 0
  flags : UInt16 := 0
  ciaddr : Ipv4Addr := .unspecified
  yiaddr : Ipv4Addr := .unspecified
  siaddr : Ipv4Addr := .unspecified
  giaddr : Ipv4Addr := .unspecified
  chaddr : Vector UInt8 16 := .replicate 16 0
  sname : Option Bytes := none
  fname : Option Bytes := none
  magic : Vector UInt8 4 := magicCookie
  opts : DhcpOptions := .empty
  deriving DecidableEq, Encodable

/-- `DhcpOptions::msg_type`. -/
def DhcpOptions.msgType (opts : DhcpOptions) : Option MessageType :=
  match opts.get? OptionCode.messageType with
  | some (.messageType type) => some type
  | _ => none

namespace Message

/-- `set_giaddr`. -/
def setGiaddr (msg : Message) (giaddr : Ipv4Addr) : Message := { msg with giaddr := giaddr }

/-- The Option 82 of a message, if it has one. -/
def option82 (msg : Message) : Option RelayAgentInformation :=
  match msg.opts.get? OptionCode.relayAgentInformation with
  | some (.relayAgentInformation info) => some info
  | _ => none

/-- The message with its Option 82 set to `info`. -/
def withOption82 (msg : Message) (info : RelayAgentInformation) : Message :=
  { msg with opts := msg.opts.insert (.relayAgentInformation info) }

/-- The message without Option 82. -/
def withoutOption82 (msg : Message) : Message :=
  { msg with opts := msg.opts.erase OptionCode.relayAgentInformation }

/-- What is stored under code 82 is an Option 82. -/
theorem get?_option82 {msg : Message} :
    msg.opts.get? OptionCode.relayAgentInformation
      = msg.option82.map DhcpOption.relayAgentInformation := by
  unfold option82
  cases h : msg.opts.get? OptionCode.relayAgentInformation with
  | none => rfl
  | some opt =>
      have hcode : opt.code = OptionCode.relayAgentInformation := KeyedMap.key_of_get? h
      cases opt with
      | messageType type =>
          have hne : OptionCode.messageType ≠ OptionCode.relayAgentInformation := by decide
          exact absurd hcode hne
      | relayAgentInformation info => rfl
      | other code data => exact absurd hcode code.property.2

theorem contains_option82 {msg : Message} :
    msg.opts.contains OptionCode.relayAgentInformation = msg.option82.isSome := by
  rw [KeyedMap.contains, get?_option82, Option.isSome_map]

@[simp] theorem option82_setGiaddr (msg : Message) (giaddr : Ipv4Addr) :
    (msg.setGiaddr giaddr).option82 = msg.option82 := rfl

@[simp] theorem option82_withOption82 (msg : Message) (info : RelayAgentInformation) :
    (msg.withOption82 info).option82 = some info := by
  have h : (msg.withOption82 info).opts.get? OptionCode.relayAgentInformation
      = some (.relayAgentInformation info) :=
    KeyedMap.get?_insert_self msg.opts (.relayAgentInformation info)
  rw [option82, h]

@[simp] theorem option82_withoutOption82 (msg : Message) :
    msg.withoutOption82.option82 = none := by
  have h : msg.withoutOption82.opts.get? OptionCode.relayAgentInformation = none :=
    KeyedMap.get?_erase_self msg.opts _
  rw [option82, h]

/-- Setting Option 82 leaves every other option alone. -/
theorem get?_withOption82_of_ne (msg : Message) (info : RelayAgentInformation) {code : OptionCode}
    (h : code ≠ OptionCode.relayAgentInformation) :
    (msg.withOption82 info).opts.get? code = msg.opts.get? code :=
  KeyedMap.get?_insert_of_ne msg.opts (Ne.symm h)

/-- So it leaves the message type alone. -/
theorem msgType_withOption82 (msg : Message) (info : RelayAgentInformation) :
    (msg.withOption82 info).opts.msgType = msg.opts.msgType := by
  have hne : OptionCode.messageType ≠ OptionCode.relayAgentInformation := by decide
  rw [DhcpOptions.msgType, msg.get?_withOption82_of_ne info hne, DhcpOptions.msgType]

/-- Removing Option 82 leaves every other option alone. -/
theorem get?_withoutOption82_of_ne (msg : Message) {code : OptionCode}
    (h : code ≠ OptionCode.relayAgentInformation) :
    msg.withoutOption82.opts.get? code = msg.opts.get? code :=
  KeyedMap.get?_erase_of_ne msg.opts (Ne.symm h)

/-- `msg'` differs from `msg` in its Option 82 at most. -/
structure AgreesOutside82 (msg msg' : Message) : Prop where
  header : { msg' with opts := msg.opts } = msg
  options : ∀ code, code ≠ OptionCode.relayAgentInformation →
    msg'.opts.get? code = msg.opts.get? code

theorem agrees_withOption82 (msg : Message) (info : RelayAgentInformation) :
    AgreesOutside82 msg (msg.withOption82 info) where
  header := rfl
  options := fun _ h => msg.get?_withOption82_of_ne info h

theorem agrees_withoutOption82 (msg : Message) : AgreesOutside82 msg msg.withoutOption82 where
  header := rfl
  options := fun _ h => msg.get?_withoutOption82_of_ne h

/-- Setting Option 82 to what it already is changes nothing. -/
theorem withOption82_eq_self {msg : Message} {info : RelayAgentInformation}
    (h : msg.option82 = some info) : msg.withOption82 info = msg := by
  have hget : msg.opts.get? (DhcpOption.relayAgentInformation info).code
      = some (.relayAgentInformation info) := by
    rw [show (DhcpOption.relayAgentInformation info).code
      = OptionCode.relayAgentInformation from rfl, get?_option82, h]
    rfl
  rw [withOption82, KeyedMap.insert_eq_self hget]

theorem withOption82_withOption82 (msg : Message) (info info' : RelayAgentInformation) :
    (msg.withOption82 info).withOption82 info' = msg.withOption82 info' := by
  have h := KeyedMap.insert_insert_same msg.opts
    (a := .relayAgentInformation info) (b := .relayAgentInformation info') rfl
  simp only [withOption82, h]

end Message

/-- `dhcproto`'s `Message::decode` and `Message::encode`; an error is the text it
displays as. -/
abbrev Codec := Library.Codec Message

end DhcpRelay.V4
