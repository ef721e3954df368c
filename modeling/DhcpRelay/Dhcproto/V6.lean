import DhcpRelay.Library.Codec
import DhcpRelay.Net
import Mathlib.Data.List.Sort

/-!
# DhcpRelay.Dhcproto.V6

The DHCPv6 messages of `dhcproto`, again with the codec as a parameter.

Options form a list sorted by code, in which a code may occur more than once;
`insert` adds one element. The relay looks into Interface-ID options and into
those that `dhcproto` has no variant for (`unknown`), among them Remote-ID and
VSS; the remaining variants keep their code and payload (`other`).

`Wire` is a codec with the actual layout: type, transaction id, and options with
a two-byte code and a two-byte length, read for as long as they are complete.
-/

namespace DhcpRelay.V6

open DhcpRelay.Library

inductive MessageType
  | solicit
  | advertise
  | request
  | confirm
  | renew
  | rebind
  | reply
  | release
  | decline
  | reconfigure
  | informationRequest
  | relayForw
  | relayRepl
  | other (code : UInt8)
  deriving DecidableEq, Encodable

/-- `OptionCode`, through its number. -/
abbrev OptionCode := UInt16

namespace OptionCode

def interfaceId : OptionCode := 18
def remoteId : OptionCode := 37
def vss : OptionCode := 68

theorem vss_ne_interfaceId : vss ≠ interfaceId := by decide

end OptionCode

/-- The codes `DhcpOption.unknown` can carry. -/
abbrev UnknownOptionCode := {code : OptionCode // code ≠ OptionCode.interfaceId}

/-- The codes `DhcpOption.other` can carry. -/
abbrev OtherOptionCode :=
  {code : OptionCode // code ∉ [OptionCode.interfaceId, OptionCode.remoteId, OptionCode.vss]}

inductive DhcpOption
  | interfaceId (data : Bytes)
  | unknown (code : UnknownOptionCode) (data : Bytes)
  | other (code : OtherOptionCode) (data : Bytes)
  deriving DecidableEq, Encodable

/-- `OptionCode::from(&DhcpOption)`. -/
def DhcpOption.code : DhcpOption → OptionCode
  | .interfaceId _ => OptionCode.interfaceId
  | .unknown code _ => code.val
  | .other code _ => code.val

def DhcpOption.data : DhcpOption → Bytes
  | .interfaceId data | .unknown _ data | .other _ data => data

/-- The options of a message, sorted by code. -/
structure DhcpOptions where
  toList : List DhcpOption
  sorted : toList.Pairwise (fun a b => a.code ≤ b.code)
  deriving DecidableEq

namespace DhcpOptions

def empty : DhcpOptions := ⟨[], List.Pairwise.nil⟩

instance : Inhabited DhcpOptions := ⟨empty⟩

instance : Encodable DhcpOptions :=
  Encodable.ofLeftInjection DhcpOptions.toList
    (fun l => if h : l.Pairwise (fun a b => a.code ≤ b.code) then some ⟨l, h⟩ else none)
    (fun opts => dif_pos opts.sorted)

/-- Add one option, at its place in the order. -/
def insert (opts : DhcpOptions) (opt : DhcpOption) : DhcpOptions where
  toList := opts.toList.orderedInsert (fun a b => a.code ≤ b.code) opt
  sorted := by
    have : Std.Total (fun a b : DhcpOption => a.code ≤ b.code) :=
      ⟨fun a b => le_total a.code b.code⟩
    have : IsTrans DhcpOption (fun a b => a.code ≤ b.code) := ⟨fun _ _ _ => le_trans⟩
    exact opts.sorted.orderedInsert opt opts.toList

end DhcpOptions

/-- A DHCPv6 message. -/
structure Message where
  msgType : MessageType
  xid : Vector UInt8 3 := .replicate 3 0
  opts : DhcpOptions := .empty
  deriving DecidableEq, Encodable

/-- `dhcproto`'s `Message::decode` and `Message::encode`; an error is the text it
displays as. -/
abbrev Codec := Library.Codec Message

/-! ### A concrete codec -/

namespace Wire

def typeCode : MessageType → UInt8
  | .solicit => 1
  | .advertise => 2
  | .request => 3
  | .confirm => 4
  | .renew => 5
  | .rebind => 6
  | .reply => 7
  | .release => 8
  | .decline => 9
  | .reconfigure => 10
  | .informationRequest => 11
  | .relayForw => 12
  | .relayRepl => 13
  | .other code => code

def readType : UInt8 → MessageType
  | 1 => .solicit
  | 2 => .advertise
  | 3 => .request
  | 4 => .confirm
  | 5 => .renew
  | 6 => .rebind
  | 7 => .reply
  | 8 => .release
  | 9 => .decline
  | 10 => .reconfigure
  | 11 => .informationRequest
  | 12 => .relayForw
  | 13 => .relayRepl
  | code => .other code

def writeOption (opt : DhcpOption) : Bytes :=
  toBe16 opt.code.toNat ++ toBe16 opt.data.length ++ opt.data

def writeMessage (msg : Message) : Bytes :=
  typeCode msg.msgType :: msg.xid.toList ++ msg.opts.toList.flatMap writeOption

/-- The codes with a variant that the relay does not look into. -/
def plainCodes : List OptionCode :=
  [1, 2, 3, 4, 5, 6, 7, 8, 9, 11, 12, 13, 14, 15, 16, 17, 19, 20, 23, 24, 25, 26, 32]

def readOption (code : OptionCode) (data : Bytes) : DhcpOption :=
  if h : code = OptionCode.interfaceId then .interfaceId data
  else if h' : code ∈ plainCodes ∧
      code ∉ [OptionCode.interfaceId, OptionCode.remoteId, OptionCode.vss] then
    .other ⟨code, h'.2⟩ data
  else .unknown ⟨code, h⟩ data

/-- The complete options at the head of `bytes`; `fuel` bounds their number. -/
def readOptions : Nat → Bytes → List DhcpOption
  | fuel + 1, c :: c' :: l :: l' :: rest =>
    if rest.length < be16 l l' then []
    else
      readOption (UInt16.ofNat (be16 c c')) (rest.take (be16 l l'))
        :: readOptions fuel (rest.drop (be16 l l'))
  | _, _ => []

def readMessage : Bytes → Option Message
  | type :: x :: y :: z :: rest =>
    some {
      msgType := readType type
      xid := #v[x, y, z]
      opts := (readOptions rest.length rest).foldl .insert .empty }
  | _ => none

/-- The wire codec. -/
def wire : Codec := .ofFormat 4 writeMessage readMessage

/-- **The law assumed of `dhcproto` can be met.** -/
theorem wire_lawful : wire.Lawful := Codec.ofFormat_lawful

/-- A message that the format reads back is written in it. -/
theorem encode_of_read {msg : Message} (htype : typeCode msg.msgType ≠ 0)
    (hread : readMessage (writeMessage msg) = some msg) :
    wire.encode msg = .ok (writeMessage msg) := by
  have hinside : (Codec.readOutside 4 (writeMessage msg) : Option Message) = none := by
    rw [Codec.readOutside, if_neg]
    simp [writeMessage, htype]
  have hfits : (Codec.readOutside 4 (writeMessage msg)).or (readMessage (writeMessage msg))
      = some msg := by
    rw [hinside, hread]
    rfl
  exact congrArg Except.ok (if_pos hfits)

/-- A single option is read back. -/
theorem readOptions_single {opt : DhcpOption} (hfits : opt.data.length < 65536)
    (hopt : readOption opt.code opt.data = opt) (fuel : Nat) :
    readOptions (fuel + 1) (writeOption opt) = [opt] := by
  have hcode : UInt16.ofNat (be16 (UInt8.ofNat (opt.code.toNat / 256))
      (UInt8.ofNat opt.code.toNat)) = opt.code := by
    rw [be16_toBe16, Nat.mod_eq_of_lt opt.code.toNat_lt, UInt16.ofNat_toNat]
  have hlength : be16 (UInt8.ofNat (opt.data.length / 256)) (UInt8.ofNat opt.data.length)
      = opt.data.length := by
    rw [be16_toBe16, Nat.mod_eq_of_lt hfits]
  have hend : readOptions fuel [] = [] := by
    cases fuel with
    | zero => rfl
    | succ fuel => rfl
  rw [writeOption, toBe16, toBe16]
  simp only [List.cons_append, List.nil_append, readOptions, hcode, hlength, lt_irrefl, if_false,
    List.take_length, List.drop_length, hopt, hend]

/-- A message with a single option is written in the format. -/
theorem encode_single {msgType : MessageType} {x y z : UInt8} {opt : DhcpOption}
    (htype : typeCode msgType ≠ 0) (hread : readType (typeCode msgType) = msgType)
    (hfits : opt.data.length < 65536) (hopt : readOption opt.code opt.data = opt) :
    wire.encode { msgType := msgType, xid := #v[x, y, z], opts := DhcpOptions.empty.insert opt }
      = .ok ([typeCode msgType, x, y, z] ++ writeOption opt) := by
  let msg : Message :=
    { msgType := msgType, xid := #v[x, y, z], opts := DhcpOptions.empty.insert opt }
  have hwrite : writeMessage msg = [typeCode msgType, x, y, z] ++ writeOption opt := by
    simp [writeMessage, msg, DhcpOptions.insert, DhcpOptions.empty]
  have hpos : ∃ fuel, (writeOption opt).length = fuel + 1 := by
    refine ⟨3 + opt.data.length, ?_⟩
    simp [writeOption]
    omega
  obtain ⟨fuel, hfuel⟩ := hpos
  have hmsg : readMessage (writeMessage msg) = some msg := by
    rw [hwrite]
    simp only [List.cons_append, List.nil_append, readMessage, hfuel,
      readOptions_single hfits hopt, hread, List.foldl_cons, List.foldl_nil]
    rfl
  rw [← hwrite]
  exact encode_of_read htype hmsg

/-- Whatever is long enough for a header decodes. -/
theorem decode_ok (bytes : Bytes) (h : 4 ≤ bytes.length) : ∃ msg, wire.decode bytes = .ok msg := by
  apply Codec.decode_ofFormat_ok
  match bytes, h with
  | _ :: _ :: _ :: _ :: _, _ => rfl

end Wire

end DhcpRelay.V6
