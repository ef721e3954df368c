import DhcpRelay.Config
import DhcpRelay.Dhcproto.V4

/-!
# DhcpRelay.V4.Vss

The VSS sub-options of Option 82 (`vss.rs`), and the edit by which the insertion
stage writes them into a message.
-/

namespace DhcpRelay.V4.Vss

open DhcpRelay.Library

/-- VSS sub-option code inside Option 82. -/
def vssSuboptCode : UInt8 := 151

/-- VSS-Control sub-option code inside Option 82. -/
def vssControlSuboptCode : UInt8 := 152

/-- Byte offset into an encoded sub-option TLV where the value begins. -/
def suboptHeaderLen : Nat := 2

/-- Byte offset into the VSS value where the VSS info begins. -/
def vssTypeOffset : Nat := 1

/-- Encode VSS and VSS-Control as complete sub-option TLVs. The length byte is
`(1 + vss_info.len()) as u8`. -/
def encodeSubOpts (vss : VssConfig) : RelayResult (Bytes × Bytes) := do
  vss.validateVss
  let vssOpt :=
    [vssSuboptCode, UInt8.ofNat (1 + vss.vssInfo.length), vss.vssType] ++ vss.vssInfo
  let vssControl := [vssControlSuboptCode, 0]
  return (vssOpt, vssControl)

/-- Check whether the server supports VSS by examining the echoed sub-options: true if the
server removed VSS-Control, false if it is still present. -/
def checkServerSupport (subOptsRaw : Bytes) : Bool := go 0
where
  go (pos : Nat) : Bool :=
    if h : pos + 2 ≤ subOptsRaw.length then
      let code := subOptsRaw[pos]
      let len := (subOptsRaw[pos + 1]).toNat
      if code = vssControlSuboptCode then false
      -- whether or not that many bytes are left
      else go (pos + 2 + len)
    else true
  termination_by subOptsRaw.length - pos

/-- The value of the VSS sub-option: type, then info. -/
def payload (vss : VssConfig) : Bytes := vss.vssType :: vss.vssInfo

/-- The sub-option that carries `data` under code 151. -/
def vssInfo (data : Bytes) : RelayInfo := .unknown ⟨RelayCode.virtualSubnet, by decide⟩ data

/-- The empty sub-option under code 152. -/
def vssControl : RelayInfo := .unknown ⟨RelayCode.virtualSubnetControl, by decide⟩ []

/-- An Option 82 content with the two VSS sub-options added. -/
def addTo (data : Bytes) (info : RelayAgentInformation) : RelayAgentInformation :=
  (info.insert (vssInfo data)).insert vssControl

/-- The edit of the insertion stage: `agent_info` is the message's own Option 82,
updated in place; a message without one is left alone. -/
def insertInto (data : Bytes) (msg : Message) : RelayResult Unit × Message :=
  match msg.opts.get? OptionCode.relayAgentInformation with
  | some (.relayAgentInformation info) =>
    (.ok (), { msg with opts := msg.opts.insert (.relayAgentInformation (addTo data info)) })
  | _ => (.ok (), msg)

/-- An accepted configuration is encoded; behind the header stands `payload`,
whatever became of the length byte. -/
theorem encodeSubOpts_ok {vss : VssConfig} (h : vss.validateVss = .ok ()) :
    encodeSubOpts vss =
      .ok (vssSuboptCode :: UInt8.ofNat (1 + vss.vssInfo.length) :: payload vss,
        [vssControlSuboptCode, 0]) := by
  rw [encodeSubOpts, h]
  rfl

theorem insertInto_of_some {msg : Message} {info : RelayAgentInformation}
    (h : msg.option82 = some info) (data : Bytes) :
    insertInto data msg = (.ok (), msg.withOption82 (addTo data info)) := by
  rw [insertInto, Message.get?_option82, h]
  rfl

theorem insertInto_of_none {msg : Message} (h : msg.option82 = none) (data : Bytes) :
    insertInto data msg = (.ok (), msg) := by
  rw [insertInto, Message.get?_option82, h]
  rfl

/-- `insertInto` does not touch giaddr. -/
theorem insertInto_giaddr (data : Bytes) (msg : Message) :
    (insertInto data msg).2.giaddr = msg.giaddr := by
  cases h : msg.option82 with
  | none => rw [insertInto_of_none h]
  | some info =>
      rw [insertInto_of_some h]
      rfl

/-! ### The sub-options added -/

theorem get?_addTo (data : Bytes) (info : RelayAgentInformation) (code : RelayCode) :
    (addTo data info).get? code =
      if code = RelayCode.virtualSubnetControl then some vssControl
      else if code = RelayCode.virtualSubnet then some (vssInfo data)
      else info.get? code := by
  have hcontrol : vssControl.code = RelayCode.virtualSubnetControl := rfl
  have hinfo : (vssInfo data).code = RelayCode.virtualSubnet := rfl
  rw [addTo, KeyedMap.get?_insert, KeyedMap.get?_insert, hcontrol, hinfo]
  simp only [eq_comm]

/-- Adding the sub-options changes nothing exactly when both are there already. -/
theorem addTo_eq_self_iff {data : Bytes} {info : RelayAgentInformation} :
    addTo data info = info ↔
      info.get? RelayCode.virtualSubnet = some (vssInfo data)
        ∧ info.get? RelayCode.virtualSubnetControl = some vssControl := by
  constructor
  · intro h
    rw [← h, get?_addTo, get?_addTo]
    exact ⟨rfl, rfl⟩
  · rintro ⟨hinfo, hcontrol⟩
    have hfirst : info.insert (vssInfo data) = info := KeyedMap.insert_eq_self hinfo
    rw [addTo, hfirst]
    exact KeyedMap.insert_eq_self hcontrol

end DhcpRelay.V4.Vss
