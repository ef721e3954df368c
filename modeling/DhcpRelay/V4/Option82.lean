import DhcpRelay.Config
import DhcpRelay.Dhcproto.V4

/-!
# DhcpRelay.V4.Option82

Inserting, stripping and comparing Option 82 (`option82.rs`), and the giaddr
decision (`giaddr.rs`).
-/

namespace DhcpRelay.V4

open DhcpRelay.Library

namespace Option82

/-- A decoded Option 82 sub-option. -/
structure SubOption where
  code : UInt8
  data : Bytes
  deriving DecidableEq, Repr

/-- Convert `RelayInfo` variants into our `SubOption`. -/
def relayInfoToSubOpt : RelayInfo → SubOption
  | .agentCircuitId data => ⟨1, data⟩
  | .agentRemoteId data => ⟨2, data⟩
  | .docsisDeviceClass cls => ⟨4, toBe32 cls.toNat⟩
  | .linkSelection addr => ⟨5, addr.octets⟩
  | .subscriberId data => ⟨6, data⟩
  -- whatever the flags are
  | .relayAgentFlags _flags => ⟨10, [0]⟩
  | .serverIdentifierOverride addr => ⟨11, addr.octets⟩
  | .unknown code data => ⟨code.val, data⟩

/-- `info.iter().map(|(_, ri)| relay_info_to_sub_opt(ri)).collect()`. -/
def subOpts (info : RelayAgentInformation) : List SubOption := info.toList.map relayInfoToSubOpt

/-- The Option 82 content that `insert` builds. -/
def agentInfo (circuitId remoteId : Option Bytes) : RelayAgentInformation :=
  let info : RelayAgentInformation := .empty
  let info := match circuitId with
    | some id => info.insert (.agentCircuitId id)
    | none => info
  match remoteId with
  | some id => info.insert (.agentRemoteId id)
  | none => info

/-- Insert an Option 82 into the message. At least one of `circuitId` and
`remoteId` must be provided, and Option 82 must not be present already. -/
def insert (msg : Message) (circuitId remoteId : Option Bytes) : RelayResult Unit × Message :=
  if circuitId.isNone && remoteId.isNone then
    (.error (.config
      "Option 82 requires at least one sub-option (circuit_id or remote_id)"), msg)
  else if msg.opts.contains OptionCode.relayAgentInformation then
    (.error (.config
      "Option 82 already present — reforwarded packets must not be modified"), msg)
  else
    let info := agentInfo circuitId remoteId
    (.ok (), { msg with opts := msg.opts.insert (.relayAgentInformation info) })

/-- Strip Option 82 from the message and return its sub-options. -/
def strip (msg : Message) : Option (List SubOption) × Message :=
  match msg.opts.get? OptionCode.relayAgentInformation with
  | none => (none, msg)
  | some removed =>
    let msg := { msg with opts := msg.opts.erase OptionCode.relayAgentInformation }
    match removed with
    | .relayAgentInformation info => (some (subOpts info), msg)
    | _ => (none, msg)

/-- Strict byte-level comparison of the sub-options received with those sent. -/
def validateEcho (received sent : List SubOption) : Bool :=
  if received.length ≠ sent.length then false
  else (received.zip sent).all fun (r, s) => r.code == s.code && r.data == s.data

/-! ### What the operations do -/

/-- With an id to insert and no Option 82 yet, `insert` sets Option 82. -/
theorem insert_of_fresh {msg : Message} {circuitId remoteId : Option Bytes}
    (hid : circuitId.isSome ∨ remoteId.isSome) (hfresh : msg.option82 = none) :
    insert msg circuitId remoteId = (.ok (), msg.withOption82 (agentInfo circuitId remoteId)) := by
  have hsome : ¬ (circuitId.isNone && remoteId.isNone) = true := by
    cases circuitId <;> cases remoteId <;> simp_all
  rw [insert, if_neg hsome, Message.contains_option82, hfresh, if_neg (by simp)]
  rfl

/-- Without ids, or on a message that has Option 82, `insert` fails and leaves the
message as it is. -/
theorem insert_refused {msg : Message} {circuitId remoteId : Option Bytes}
    (h : (circuitId = none ∧ remoteId = none) ∨ msg.option82.isSome) :
    ∃ text, insert msg circuitId remoteId = (.error (.config text), msg) := by
  by_cases hnone : (circuitId.isNone && remoteId.isNone) = true
  · exact ⟨_, by rw [insert, if_pos hnone]⟩
  · have hpresent : msg.option82.isSome := by
      rcases h with ⟨rfl, rfl⟩ | h
      · exact absurd rfl hnone
      · exact h
    exact ⟨_, by rw [insert, if_neg hnone, Message.contains_option82, if_pos hpresent]⟩

/-- Those are the cases in which `insert` does not succeed. -/
theorem refused_of_not {msg : Message} {circuitId remoteId : Option Bytes}
    (h : ¬ ((circuitId.isSome ∨ remoteId.isSome) ∧ msg.option82 = none)) :
    (circuitId = none ∧ remoteId = none) ∨ msg.option82.isSome := by
  rcases not_and_or.mp h with hids | h82
  · exact .inl (by simpa [not_or] using hids)
  · exact .inr (Option.isSome_iff_ne_none.mpr h82)

/-- `insert` does not touch giaddr. -/
theorem insert_giaddr (msg : Message) (circuitId remoteId : Option Bytes) :
    (insert msg circuitId remoteId).2.giaddr = msg.giaddr := by
  unfold insert
  split
  · rfl
  · split
    · rfl
    · rfl

/-- The message `strip` leaves behind has lost its Option 82, if it had one. -/
theorem strip_snd (msg : Message) : (strip msg).2 = msg.withoutOption82 := by
  rw [strip, Message.get?_option82]
  cases h : msg.option82 with
  | none =>
      have hget : msg.opts.get? OptionCode.relayAgentInformation = none := by
        rw [Message.get?_option82, h]
        rfl
      rw [Message.withoutOption82, KeyedMap.erase_eq_self hget]
      rfl
  | some info => rfl

/-- The echo comparison is equality of the two lists. -/
theorem validateEcho_iff {received sent : List SubOption} :
    validateEcho received sent = true ↔ received = sent := by
  induction received generalizing sent with
  | nil => cases sent <;> simp [validateEcho]
  | cons r received ih =>
      cases sent with
      | nil => simp [validateEcho]
      | cons s sent =>
          have hstep : validateEcho (r :: received) (s :: sent)
              = ((r.code == s.code && r.data == s.data) && validateEcho received sent) := by
            by_cases hlen : received.length = sent.length <;> simp [validateEcho, hlen]
          rw [hstep, Bool.and_eq_true, ih, List.cons.injEq, Bool.and_eq_true, beq_iff_eq,
            beq_iff_eq, SubOption.mk.injEq]

/-- The sub-options of a freshly built Option 82, by code. -/
theorem get?_agentInfo (circuitId remoteId : Option Bytes) (code : RelayCode) :
    (agentInfo circuitId remoteId).get? code =
      if code = RelayCode.agentCircuitId then circuitId.map .agentCircuitId
      else if code = RelayCode.agentRemoteId then remoteId.map .agentRemoteId
      else none := by
  have hempty : (KeyedMap.empty : RelayAgentInformation).get? code = none := rfl
  have hne : RelayCode.agentRemoteId ≠ RelayCode.agentCircuitId := by decide
  by_cases h1 : code = RelayCode.agentCircuitId
  · subst h1
    cases circuitId <;> cases remoteId <;>
      simp [agentInfo, KeyedMap.get?_insert, RelayInfo.code, hempty, hne]
  · cases circuitId <;> cases remoteId <;>
      simp [agentInfo, KeyedMap.get?_insert, RelayInfo.code, hempty, h1, Ne.symm h1, eq_comm]

/-- The sub-options of a freshly built Option 82, in order. -/
theorem subOpts_agentInfo (circuitId remoteId : Option Bytes) :
    subOpts (agentInfo circuitId remoteId)
      = (circuitId.map (SubOption.mk 1)).toList ++ (remoteId.map (SubOption.mk 2)).toList := by
  cases circuitId <;> cases remoteId <;> rfl

end Option82

/-! ### The giaddr decision -/

namespace Giaddr

/-- Outcome of giaddr validation. -/
inductive Decision
  /-- giaddr = 0, no Option 82 — normal first relay. -/
  | firstRelay
  /-- giaddr = 0, Option 82 present, trusted downstream circuit. -/
  | trustedCircuit
  /-- giaddr = 0, Option 82 present, untrusted — drop packet. -/
  | untrustedCircuit
  /-- giaddr matches a local interface address — spoof attempt. -/
  | spoof
  /-- giaddr ≠ 0, valid (not local) — reforwarded packet, do not modify. -/
  | reforwarded
  deriving DecidableEq, Repr

/-- Validate the giaddr field of a message against local interface addresses. -/
def validate (msg : Message) (localAddrs : List Ipv4Addr) (isTrustedCircuit : Bool) : Decision :=
  let hasOpt82 := msg.opts.contains OptionCode.relayAgentInformation
  if msg.giaddr = .unspecified then
    if hasOpt82 then
      if isTrustedCircuit then .trustedCircuit else .untrustedCircuit
    else .firstRelay
  else if msg.giaddr ∈ localAddrs then .spoof
  else .reforwarded

variable {msg : Message} {localAddrs : List Ipv4Addr} {isTrustedCircuit : Bool}

theorem validate_eq_firstRelay (hg : msg.giaddr = .unspecified) (h82 : msg.option82 = none) :
    validate msg localAddrs isTrustedCircuit = .firstRelay := by
  simp [validate, Message.contains_option82, hg, h82]

theorem validate_eq_trustedCircuit (hg : msg.giaddr = .unspecified)
    (h82 : msg.option82.isSome) : validate msg localAddrs true = .trustedCircuit := by
  simp [validate, Message.contains_option82, hg, h82]

theorem validate_eq_untrustedCircuit (hg : msg.giaddr = .unspecified)
    (h82 : msg.option82.isSome) : validate msg localAddrs false = .untrustedCircuit := by
  simp [validate, Message.contains_option82, hg, h82]

theorem validate_eq_spoof (hg : msg.giaddr ≠ .unspecified) (hl : msg.giaddr ∈ localAddrs) :
    validate msg localAddrs isTrustedCircuit = .spoof := by
  simp [validate, hg, hl]

theorem validate_eq_reforwarded (hg : msg.giaddr ≠ .unspecified) (hl : msg.giaddr ∉ localAddrs) :
    validate msg localAddrs isTrustedCircuit = .reforwarded := by
  simp [validate, hg, hl]

end Giaddr

end DhcpRelay.V4
