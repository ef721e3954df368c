import DhcpRelay.Dhcproto.V4

/-!
# DhcpRelay.Dhcproto.V4Wire

A concrete codec with the DHCPv4 wire layout: a 236-byte header, the magic
cookie, and options as code, length and value up to the End option.

It is here to run the relay on actual datagrams, and to show that the law
assumed of `dhcproto` can be met. The format itself cannot hold every message (an
option value is at most 255 bytes), so it is completed by `Codec.ofFormat`.
-/

namespace DhcpRelay.V4.Wire

open DhcpRelay.Library

/-! ### Writing -/

/-- A one-byte code, a one-byte length and the value. -/
def item (code : UInt8) (value : Bytes) : Bytes :=
  code :: UInt8.ofNat value.length :: value

def writeInfo (info : RelayInfo) : Bytes :=
  item info.code <|
    match info with
    | .agentCircuitId data | .agentRemoteId data | .subscriberId data | .unknown _ data => data
    | .docsisDeviceClass cls => toBe32 cls.toNat
    | .linkSelection addr | .serverIdentifierOverride addr => addr.octets
    | .relayAgentFlags flags => [flags]

def typeCode : MessageType → UInt8
  | .discover => 1
  | .offer => 2
  | .request => 3
  | .decline => 4
  | .ack => 5
  | .nak => 6
  | .release => 7
  | .inform => 8
  | .other code => code

def writeOption (opt : DhcpOption) : Bytes :=
  item opt.code <|
    match opt with
    | .messageType type => [typeCode type]
    | .relayAgentInformation info => info.toList.flatMap writeInfo
    | .other _ data => data

def opcodeByte : Opcode → UInt8
  | .bootRequest => 1
  | .bootReply => 2
  | .unknown code => code

/-- A text field of fixed width, filled up with NUL bytes. -/
def fill (width : Nat) (text : Option Bytes) : Bytes :=
  let text := (text.getD []).take width
  text ++ List.replicate (width - text.length) 0

def writeMessage (msg : Message) : Bytes :=
  [opcodeByte msg.opcode, msg.htype, msg.hlen, msg.hops]
    ++ toBe32 msg.xid.toNat ++ toBe16 msg.secs.toNat ++ toBe16 msg.flags.toNat
    ++ msg.ciaddr.octets ++ msg.yiaddr.octets ++ msg.siaddr.octets ++ msg.giaddr.octets
    ++ msg.chaddr.toList ++ fill 64 msg.sname ++ fill 128 msg.fname ++ msg.magic.toList
    ++ msg.opts.toList.flatMap writeOption ++ [255]

/-! ### Reading -/

/-- Split off items until the End code; `fuel` bounds their number. -/
def readItems : Nat → Bytes → Option (List (UInt8 × Bytes))
  | 0, _ => none
  | fuel + 1, bytes =>
    match bytes with
    | 255 :: _ => some []
    | code :: len :: rest =>
      if code = 0 ∨ rest.length < len.toNat then none
      else (readItems fuel (rest.drop len.toNat)).map ((code, rest.take len.toNat) :: ·)
    | _ => none

def readInfo (code : RelayCode) (value : Bytes) : Option RelayInfo :=
  if h : code ∉ RelayCode.decoded then some (.unknown ⟨code, h⟩ value)
  else if code = RelayCode.agentCircuitId then some (.agentCircuitId value)
  else if code = RelayCode.agentRemoteId then some (.agentRemoteId value)
  else if code = RelayCode.subscriberId then some (.subscriberId value)
  else
    match value with
    | [flags] => if code = RelayCode.relayAgentFlags then some (.relayAgentFlags flags) else none
    | [a, b, c, d] =>
      if code = RelayCode.docsisDeviceClass then
        some (.docsisDeviceClass (UInt32.ofNat (be32 a b c d)))
      else if code = RelayCode.linkSelection then some (.linkSelection ⟨a, b, c, d⟩)
      else if code = RelayCode.serverIdentifierOverride then
        some (.serverIdentifierOverride ⟨a, b, c, d⟩)
      else none
    | _ => none

def readType : UInt8 → MessageType
  | 1 => .discover
  | 2 => .offer
  | 3 => .request
  | 4 => .decline
  | 5 => .ack
  | 6 => .nak
  | 7 => .release
  | 8 => .inform
  | code => .other code

def readOption (code : OptionCode) (value : Bytes) : Option DhcpOption :=
  if h : code ≠ OptionCode.messageType ∧ code ≠ OptionCode.relayAgentInformation then
    some (.other ⟨code, h⟩ value)
  else if code = OptionCode.messageType then
    match value with
    | [type] => some (.messageType (readType type))
    | _ => none
  else do
    -- the sub-options have no End code of their own
    let items ← readItems (value.length + 1) (value ++ [255])
    let infos ← items.mapM fun (code, data) => readInfo code data
    return .relayAgentInformation (infos.foldl .insert .empty)

def readOpcode : UInt8 → Opcode
  | 1 => .bootRequest
  | 2 => .bootReply
  | code => .unknown code

/-- The text up to its first NUL byte, if there is any. -/
def readText (bytes : Bytes) : Option Bytes :=
  let text := bytes.takeWhile (· ≠ 0)
  if text.isEmpty then none else some text

def readMessage (bytes : Bytes) : Option Message :=
  if bytes.length < 240 then none
  else do
    let items ← readItems bytes.length (bytes.drop 240)
    let opts ← items.mapM fun (code, value) => readOption code value
    let byte := fun i => bytes.getD i 0
    let addr := fun i => (⟨byte i, byte (i + 1), byte (i + 2), byte (i + 3)⟩ : Ipv4Addr)
    return {
      opcode := readOpcode (byte 0)
      htype := byte 1
      hlen := byte 2
      hops := byte 3
      xid := UInt32.ofNat (be32 (byte 4) (byte 5) (byte 6) (byte 7))
      secs := UInt16.ofNat (be16 (byte 8) (byte 9))
      flags := UInt16.ofNat (be16 (byte 10) (byte 11))
      ciaddr := addr 12
      yiaddr := addr 16
      siaddr := addr 20
      giaddr := addr 24
      chaddr := .ofFn fun i => byte (28 + i)
      sname := readText ((bytes.drop 44).take 64)
      fname := readText ((bytes.drop 108).take 128)
      magic := .ofFn fun i => byte (236 + i)
      opts := opts.foldl .insert .empty }

/-- The wire codec. -/
def wire : Codec := .ofFormat 240 writeMessage readMessage

/-- **The law assumed of `dhcproto` can be met.** -/
theorem wire_lawful : wire.Lawful := Codec.ofFormat_lawful

/-- A message that fits the format travels in it. -/
theorem decode_writeMessage {m : Message}
    (h : (Codec.readOutside 240 (writeMessage m)).or (readMessage (writeMessage m)) = some m) :
    wire.decode (writeMessage m) = .ok m :=
  Codec.decode_ofFormat h

theorem encode_writeMessage {m : Message}
    (h : (Codec.readOutside 240 (writeMessage m)).or (readMessage (writeMessage m)) = some m) :
    wire.encode m = .ok (writeMessage m) :=
  Codec.encode_ofFormat h

end DhcpRelay.V4.Wire
