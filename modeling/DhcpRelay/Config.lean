import DhcpRelay.Net

/-!
# DhcpRelay.Config

The error type (`error.rs`) and the configuration (`config.rs`) with its
validation.

`RelayAgent::new` runs `RelayConfig.validate` once and never looks at the
outcome again, so what an accepted configuration guarantees is exactly
`validate_ok_iff`: every stage that later relies on a valid `VssConfig` gets it
from there.
-/

namespace DhcpRelay

open DhcpRelay.Library

/-- `RelayError`. A foreign error is kept as the text it displays as. -/
inductive RelayError
  | io (message : String)
  | parse (message : String)
  | packetTooLarge (size limit : Nat)
  | giaddrSpoof (message : String)
  | option82Mismatch
  | vssNotSupported
  | vpnNotConfigured (message : String)
  | dpdStalePacket
  | config (message : String)
  | transport (message : String)
  deriving DecidableEq, Repr

/-- `RelayResult<T>`. -/
abbrev RelayResult (α : Type) := Except RelayError α

/-! ### VSS -/

/-- VSS type: NVT ASCII string. -/
def vssTypeNvtAscii : UInt8 := 0

/-- VSS type: VPN-ID (7-byte OUI + index). -/
def vssTypeRfc2685VpnId : UInt8 := 1

/-- VSS type: global/default (no subnet selection). -/
def vssTypeGlobal : UInt8 := 255

/-- Virtual Subnet Selection configuration. -/
structure VssConfig where
  enabled : Bool := false
  vssType : UInt8 := vssTypeGlobal
  vssInfo : Bytes := []
  vpnName : Option String := none
  deriving DecidableEq, Repr

/-- Validate VSS type and info constraints. -/
def VssConfig.validateVss (vss : VssConfig) : RelayResult Unit :=
  if vss.vssType = vssTypeNvtAscii then .ok ()
  else if vss.vssType = vssTypeRfc2685VpnId then
    if vss.vssInfo.length ≠ 7 then
      .error (.config s!"VPN-ID (type 1) requires exactly 7 bytes, got {vss.vssInfo.length}")
    else .ok ()
  else if vss.vssType = vssTypeGlobal then
    if !vss.vssInfo.isEmpty then
      .error (.config "Global VSS (type 255) requires empty vss_info")
    else .ok ()
  else .error (.config s!"unsupported VSS type: {vss.vssType}")

/-- The VSS settings a running agent can have: validated, unless switched off. -/
def VssConfig.Accepted (vss : VssConfig) : Prop := vss.enabled = true → vss.validateVss = .ok ()

/-- A configuration that is handed on only where it is switched on. -/
theorem VssConfig.Accepted.of_mem {vss cfg : VssConfig} (h : vss.Accepted) {on : Bool}
    (hcfg : cfg ∈ if on then some vss else none) : cfg.Accepted := by
  cases on with
  | false => simp at hcfg
  | true =>
      obtain rfl : vss = cfg := Option.some.inj hcfg
      exact h

/-! ### The configuration records -/

/-- Configuration for a single network interface. -/
structure InterfaceConfig where
  name : String
  ipAddr : String
  trusted : Bool := false
  enabled : Bool := true
  deriving DecidableEq, Repr

/-- DHCPv4 relay configuration. -/
structure Dhcpv4Config where
  serverAddrs : List SocketAddr := []
  enableOption82 : Bool := true
  circuitId : Option String := none
  remoteId : Option String := none
  vss : VssConfig := {}
  deriving DecidableEq, Repr

/-- DHCPv6 relay configuration. -/
structure Dhcpv6Config where
  serverAddrs : List SocketAddr := []
  enableInterfaceId : Bool := true
  enableRemoteId : Bool := true
  remoteId : Option Bytes := none
  vss : VssConfig := {}
  deriving DecidableEq, Repr

/-- SMF DPD mode. -/
inductive DpdMode
  | iDpd
  | hDpd
  deriving DecidableEq, Repr

/-- Hash function for H-DPD. -/
inductive HashFunction
  | murmur3
  deriving DecidableEq, Repr

/-- SMF configuration. -/
structure SmfConfig where
  enabled : Bool := false
  dpdWindowSecs : Nat := 10
  dpdMode : DpdMode := .iDpd
  hashFunction : HashFunction := .murmur3
  deriving DecidableEq, Repr

/-- Top-level configuration for the relay agent. -/
structure RelayConfig where
  interfaces : List InterfaceConfig := []
  dhcpv4 : Dhcpv4Config := {}
  dhcpv6 : Dhcpv6Config := {}
  smf : SmfConfig := {}
  maxPacketSize : Nat := 1500
  deriving DecidableEq, Repr

/-- Validate the configuration, returning an error if something is inconsistent. -/
def RelayConfig.validate (cfg : RelayConfig) : RelayResult Unit :=
  if cfg.interfaces.isEmpty then .error (.config "at least one interface is required")
  else if cfg.interfaces.any (fun iface => iface.name.isEmpty) then
    .error (.config "interface name cannot be empty")
  else do
    if cfg.dhcpv4.vss.enabled then cfg.dhcpv4.vss.validateVss
    if cfg.dhcpv6.vss.enabled then cfg.dhcpv6.vss.validateVss

/-- **What an accepted configuration guarantees.** -/
theorem RelayConfig.validate_ok_iff {cfg : RelayConfig} :
    cfg.validate = .ok () ↔
      cfg.interfaces ≠ [] ∧ (∀ iface ∈ cfg.interfaces, iface.name ≠ "") ∧
        cfg.dhcpv4.vss.Accepted ∧ cfg.dhcpv6.vss.Accepted := by
  unfold RelayConfig.validate VssConfig.Accepted
  by_cases hne : cfg.interfaces = []
  · simp [hne]
  rw [if_neg (by simpa using hne)]
  by_cases hname : cfg.interfaces.any (fun iface => iface.name.isEmpty) = true
  · rw [if_pos hname]
    obtain ⟨iface, hmem, hempty⟩ := List.any_eq_true.mp hname
    have hbad : iface.name = "" := by simpa using hempty
    simp only [reduceCtorEq, false_iff]
    intro h
    obtain ⟨-, hall, -⟩ := h
    exact hall iface hmem hbad
  · rw [if_neg hname]
    have hall : ∀ iface ∈ cfg.interfaces, iface.name ≠ "" := by
      intro iface hmem hbad
      exact hname (List.any_eq_true.mpr ⟨iface, hmem, by simp [hbad]⟩)
    rw [and_iff_right hne, and_iff_right hall]
    -- only the two VSS checks are left
    cases cfg.dhcpv4.vss.enabled <;> cases cfg.dhcpv6.vss.enabled <;>
      cases cfg.dhcpv4.vss.validateVss <;> cases cfg.dhcpv6.vss.validateVss <;>
        simp [bind, Except.bind, pure, Except.pure]

end DhcpRelay
