import DhcpRelay.Library.ShortTlv
import DhcpRelay.V4.Pipeline

/-!
# DhcpRelay.V4.VssSubOpts

**The VSS sub-options as bytes.** `encode_sub_opts` writes them and `check_server_support`
walks over them by offsets of its own. The walk is the one of `ShortTlv`: it visits the items
that were written as long as their lengths fit into a byte. This decides two things.

* The validator does not bound the VSS info of type 0, so what `encode_sub_opts` writes is
  walked over as it is meant exactly up to 254 bytes of it.
* The walk over the bytes and the loop of the check stage over the decoded map always come to
  the same verdict.
-/

namespace DhcpRelay.V4.Vss

open DhcpRelay.Library

/-! ### The walk -/

/-- From any position on, the loop looks at the items that a walk from there visits. -/
theorem checkServerSupport_go (raw : Bytes) (pos : Nat) :
    checkServerSupport.go raw pos
      = (ShortTlv.walk (raw.drop pos)).all fun item => item.1 ≠ vssControlSuboptCode := by
  induction pos using checkServerSupport.go.induct raw with
  | case1 pos h code hcontrol =>
      have hcode : raw[pos] = vssControlSuboptCode := hcontrol
      rw [checkServerSupport.go, dif_pos h, drop_eq_cons_cons h, ShortTlv.walk_cons]
      simp [hcode]
  | case2 pos h code len hother ih =>
      have hcode : raw[pos] ≠ vssControlSuboptCode := hother
      rw [checkServerSupport.go, dif_pos h, drop_eq_cons_cons h, ShortTlv.walk_cons,
        List.drop_drop]
      simp only [List.all_cons, hcode, ne_eq, not_false_eq_true, decide_true,
        Bool.true_and]
      exact ih
  | case3 pos h =>
      have hshort : (raw.drop pos).length < 2 := by
        rw [List.length_drop]
        omega
      rw [checkServerSupport.go, dif_neg h, ShortTlv.walk_of_short hshort]
      rfl

/-- **What the check looks for**: an item with the code of VSS-Control. -/
theorem checkServerSupport_eq_false_iff {raw : Bytes} :
    checkServerSupport raw = false
      ↔ vssControlSuboptCode ∈ (ShortTlv.walk raw).map Prod.fst := by
  have hwalk : checkServerSupport raw
      = (ShortTlv.walk raw).all fun item => item.1 ≠ vssControlSuboptCode :=
    checkServerSupport_go raw 0
  rw [hwalk, List.all_eq_false, List.mem_map]
  simp only [ne_eq, decide_not, Bool.not_eq_true', decide_eq_false_iff_not, not_not]

/-! ### What is written -/

/-- The sub-options are written so that they are found again: each says how long it is, and a
walk over them visits the VSS value and then the empty VSS-Control. -/
structure WellDelimited (cfg : VssConfig) (vssOpt vssControl : Bytes) : Prop where
  length : ShortTlv.SelfDelimiting vssOpt
  items : ShortTlv.walk (vssOpt ++ vssControl)
    = [(vssSuboptCode, payload cfg), (vssControlSuboptCode, [])]
  supported : checkServerSupport vssOpt = true
  unsupported : checkServerSupport (vssOpt ++ vssControl) = false

variable {cfg : VssConfig}

/-- The VSS sub-option as `encode_sub_opts` writes it. -/
def vssOpt (cfg : VssConfig) : Bytes :=
  vssSuboptCode :: UInt8.ofNat (payload cfg).length :: payload cfg

theorem encodeSubOpts_eq (h : cfg.validateVss = .ok ()) :
    encodeSubOpts cfg = .ok (vssOpt cfg, [vssControlSuboptCode, 0]) := by
  rw [encodeSubOpts_ok h, vssOpt, payload, List.length_cons, Nat.add_comm]

/-- The length byte of the VSS sub-option. -/
theorem vssOpt_selfDelimiting_iff :
    ShortTlv.SelfDelimiting (vssOpt cfg) ↔ cfg.vssInfo.length ≤ 254 := by
  rw [vssOpt, ShortTlv.selfDelimiting_ofNat_iff, payload, List.length_cons]
  omega

/-- A walk over a VSS sub-option with a true length. -/
theorem walk_vssOpt (h : ShortTlv.SelfDelimiting (vssOpt cfg)) (rest : Bytes) :
    ShortTlv.walk (vssOpt cfg ++ rest)
      = (vssSuboptCode, payload cfg) :: ShortTlv.walk rest :=
  ShortTlv.walk_of_next (ShortTlv.SelfDelimiting.next_append h rest)

theorem wellDelimited_of_length (h : ShortTlv.SelfDelimiting (vssOpt cfg)) :
    WellDelimited cfg (vssOpt cfg) [vssControlSuboptCode, 0] where
  length := h
  items := by
    rw [walk_vssOpt h, ShortTlv.walk_cons, List.drop_nil, List.take_nil, ShortTlv.walk_nil]
  supported := by
    have hwalk := walk_vssOpt h []
    rw [List.append_nil, ShortTlv.walk_nil] at hwalk
    by_contra hfound
    have hmem := checkServerSupport_eq_false_iff.mp (Bool.eq_false_of_not_eq_true hfound)
    rw [hwalk] at hmem
    exact absurd hmem (show ¬ vssControlSuboptCode ∈ [vssSuboptCode] by decide)
  unsupported := by
    rw [checkServerSupport_eq_false_iff, walk_vssOpt h, ShortTlv.walk_cons]
    exact List.mem_cons_of_mem _ List.mem_cons_self

/-- **The VSS sub-options are self-delimiting exactly for up to 254 bytes of VSS info.** -/
theorem wellDelimited_iff (h : cfg.validateVss = .ok ()) :
    (∃ vssOpt vssControl, encodeSubOpts cfg = .ok (vssOpt, vssControl)
        ∧ WellDelimited cfg vssOpt vssControl)
      ↔ cfg.vssInfo.length ≤ 254 := by
  rw [← vssOpt_selfDelimiting_iff, encodeSubOpts_eq h]
  constructor
  · intro hwell
    obtain ⟨opt, control, hencode, hwell⟩ := hwell
    obtain ⟨rfl, rfl⟩ := Prod.mk.inj (Except.ok.inj hencode)
    exact hwell.length
  · intro hlength
    exact ⟨_, _, rfl, wellDelimited_of_length hlength⟩

/-- A name of `n` letters. -/
def sampleNamed (n : Nat) : VssConfig where
  enabled := true
  vssType := vssTypeNvtAscii
  vssInfo := List.replicate n 97

theorem sampleNamed_seven_wellDelimited :
    ∃ vssOpt vssControl, encodeSubOpts (sampleNamed 7) = .ok (vssOpt, vssControl)
      ∧ WellDelimited (sampleNamed 7) vssOpt vssControl :=
  (wellDelimited_iff rfl).mpr (by decide)

/-- A name of 255 letters is accepted, and written with the length zero. -/
theorem sampleNamed_255_not_wellDelimited :
    (sampleNamed 255).validateVss = .ok ()
      ∧ ¬ ∃ vssOpt vssControl, encodeSubOpts (sampleNamed 255) = .ok (vssOpt, vssControl)
          ∧ WellDelimited (sampleNamed 255) vssOpt vssControl := by
  refine ⟨rfl, fun hwell => ?_⟩
  obtain ⟨opt, control, hencode, hwell⟩ := hwell
  rw [encodeSubOpts_eq rfl] at hencode
  obtain ⟨rfl, rfl⟩ := Prod.mk.inj (Except.ok.inj hencode)
  have hlen : (sampleNamed 255).vssInfo.length ≤ 254 := vssOpt_selfDelimiting_iff.mp hwell.length
  rw [sampleNamed, List.length_replicate] at hlen
  omega

/-! ### The two detectors -/

/-- A flag that a loop sets where `p` holds, and leaves alone elsewhere. -/
theorem foldl_flag {α β : Type} {p : α → Bool} {f : Bool × β → α → Bool × β}
    (hf : ∀ acc a, (f acc a).1 = (acc.1 || p a)) (l : List α) (acc : Bool × β) :
    (l.foldl f acc).1 = (acc.1 || l.any p) := by
  induction l generalizing acc with
  | nil => exact (Bool.or_false acc.1).symm
  | cons a l ih => rw [List.foldl_cons, ih, hf, List.any_cons, Bool.or_assoc]

/-- The loop of the check stage finds VSS-Control exactly if it is there. -/
theorem scanVss_fst (info : RelayAgentInformation) :
    (scanVss info).1 = info.contains RelayCode.virtualSubnetControl := by
  have hflag : (scanVss info).1
      = (false || info.toList.any fun ri => ri.code = RelayCode.virtualSubnetControl) := by
    refine foldl_flag (fun acc ri => ?_) _ _
    by_cases hcontrol : ri.code = RelayCode.virtualSubnetControl
    · simp [hcontrol]
    · simp only [hcontrol, if_false, decide_false, Bool.or_false]
      split
      · split <;> rfl
      · rfl
  rw [hflag, Bool.false_or, KeyedMap.contains, KeyedMap.get?, Bool.eq_iff_iff, List.find?_isSome,
    List.any_eq_true]

/-- **The walker and the loop agree.** Over any sub-options, the walk over their bytes finds
VSS-Control exactly if it is among them, and so does the loop of the check stage over a map
with the same codes. -/
theorem detectors_agree (items : List ShortTlv.Item) (info : RelayAgentInformation)
    (hinfo : ∀ code, info.contains code = true ↔ code ∈ items.map (·.code)) :
    (checkServerSupport (ShortTlv.writeAll items) = false
        ↔ vssControlSuboptCode ∈ items.map (·.code))
      ∧ (!checkServerSupport (ShortTlv.writeAll items)) = (scanVss info).1 := by
  have hwalker : checkServerSupport (ShortTlv.writeAll items) = false
      ↔ vssControlSuboptCode ∈ items.map (·.code) := by
    rw [checkServerSupport_eq_false_iff, ShortTlv.walk_writeAll, List.map_map]
    rfl
  refine ⟨hwalker, ?_⟩
  rw [scanVss_fst, Bool.eq_iff_iff, Bool.not_eq_true', hwalker]
  exact (hinfo vssControlSuboptCode).symm

/-- Sub-options without VSS-Control, but with its header in a value. -/
def sampleItems : List ShortTlv.Item :=
  [⟨1, [101, 116, 104], by decide⟩, ⟨151, [0, 152, 0], by decide⟩]

def sampleInfo : RelayAgentInformation :=
  (KeyedMap.empty.insert (.agentCircuitId [101, 116, 104])).insert (vssInfo [0, 152, 0])

theorem sampleItems_agree :
    (checkServerSupport (ShortTlv.writeAll sampleItems) = false
        ↔ vssControlSuboptCode ∈ sampleItems.map (·.code))
      ∧ (!checkServerSupport (ShortTlv.writeAll sampleItems)) = (scanVss sampleInfo).1 :=
  detectors_agree sampleItems sampleInfo fun code =>
    forall_byte (P := fun code => sampleInfo.contains code = true
      ↔ code ∈ sampleItems.map (·.code)) (by decide +kernel) code

end DhcpRelay.V4.Vss
