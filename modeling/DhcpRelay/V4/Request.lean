import DhcpRelay.V4.Meaning

/-!
# DhcpRelay.V4.Request

**The request pipeline, packet by packet.** Every packet gets one of the five
giaddr decisions, and what the pipeline does is determined by it:

* *spoof*, *untrusted circuit*: nothing behind the gate runs;
* *first relay*: Option 82 and VSS are added, giaddr is set;
* *trusted circuit*: as for a first relay, but there already is an Option 82;
* *reforwarded*: the packet ought to pass unmodified.

Each part of `requestMeaning` gets its lemmas first; the results about the
pipeline are put together from them.
-/

namespace DhcpRelay.V4

open DhcpRelay.Library

namespace RequestArgs

/-- The VSS configuration, if there is one, is off or accepted by `validate_vss`. -/
def VssAccepted (args : RequestArgs) : Prop := ∀ cfg ∈ args.vssConfig, cfg.Accepted

/-- VSS is absent or disabled. -/
def VssOff (args : RequestArgs) : Prop := ∀ cfg ∈ args.vssConfig, cfg.enabled = false

/-- The VSS value to be stamped on packets, if VSS is on. -/
def vssPayload (args : RequestArgs) : Option Bytes :=
  (args.vssConfig.filter (·.enabled)).map Vss.payload

/-- The Option 82 with the VSS sub-options stamped on, if VSS is on. -/
def stampInfo (args : RequestArgs) (info : RelayAgentInformation) : RelayAgentInformation :=
  match args.vssPayload with
  | some data => Vss.addTo data info
  | none => info

/-- The message with the VSS sub-options stamped on its Option 82, if it has one. -/
def stamp (args : RequestArgs) (msg : Message) : Message :=
  match msg.option82 with
  | some info => msg.withOption82 (args.stampInfo info)
  | none => msg

variable {args : RequestArgs}

theorem vssAccepted_of_off (h : args.VssOff) : args.VssAccepted := by
  intro cfg hcfg hon
  rw [h cfg hcfg] at hon
  exact absurd hon (by decide)

theorem vssAccepted_of_valid {cfg : VssConfig} (hcfg : args.vssConfig = some cfg)
    (hvalid : cfg.validateVss = .ok ()) : args.VssAccepted := by
  intro cfg' hcfg' _
  obtain rfl : cfg = cfg' := Option.some.inj (hcfg.symm.trans hcfg')
  exact hvalid

theorem vssPayload_of_off (h : args.VssOff) : args.vssPayload = none := by
  unfold vssPayload
  cases hcfg : args.vssConfig with
  | none => rfl
  | some cfg =>
      have hoff : cfg.enabled = false := h cfg hcfg
      rw [Option.filter_some, if_neg (by simp [hoff])]
      rfl

theorem stampInfo_of_off (h : args.VssOff) (info : RelayAgentInformation) :
    args.stampInfo info = info := by
  rw [stampInfo, vssPayload_of_off h]

theorem stamp_of_some {msg : Message} {info : RelayAgentInformation}
    (h : msg.option82 = some info) : args.stamp msg = msg.withOption82 (args.stampInfo info) := by
  rw [stamp, h]

theorem stamp_of_none {msg : Message} (h : msg.option82 = none) : args.stamp msg = msg := by
  rw [stamp, h]

/-- Stamping does not touch the message type. -/
theorem stamp_msgType (msg : Message) : (args.stamp msg).opts.msgType = msg.opts.msgType := by
  cases h : msg.option82 with
  | none => rw [stamp_of_none h]
  | some info => rw [stamp_of_some h, Message.msgType_withOption82]

theorem stamp_giaddr (msg : Message) : (args.stamp msg).giaddr = msg.giaddr := by
  cases h : msg.option82 with
  | none => rw [stamp_of_none h]
  | some info => rw [stamp_of_some h, Message.withOption82]

/-- The sub-options `args` ask for in a new Option 82. -/
def requested (args : RequestArgs) (code : RelayCode) : Option RelayInfo :=
  if code = RelayCode.agentCircuitId then args.circuitId.map .agentCircuitId
  else if code = RelayCode.agentRemoteId then args.remoteId.map .agentRemoteId
  else if code = RelayCode.virtualSubnet then args.vssPayload.map Vss.vssInfo
  else if code = RelayCode.virtualSubnetControl then args.vssPayload.map fun _ => Vss.vssControl
  else none

/-- A stamped new Option 82 has what was asked for, and nothing else. -/
theorem get?_stampInfo_agentInfo (code : RelayCode) :
    (args.stampInfo (Option82.agentInfo args.circuitId args.remoteId)).get? code
      = args.requested code := by
  rw [stampInfo, requested]
  cases args.vssPayload with
  | none =>
      dsimp only [Option.map_none]
      rw [Option82.get?_agentInfo, ite_self, ite_self]
  | some data =>
      dsimp only [Option.map_some]
      rw [Vss.get?_addTo, Option82.get?_agentInfo]
      have hcodes : RelayCode.virtualSubnetControl ≠ RelayCode.agentCircuitId
          ∧ RelayCode.virtualSubnetControl ≠ RelayCode.agentRemoteId
          ∧ RelayCode.virtualSubnetControl ≠ RelayCode.virtualSubnet
          ∧ RelayCode.virtualSubnet ≠ RelayCode.agentCircuitId
          ∧ RelayCode.virtualSubnet ≠ RelayCode.agentRemoteId := by decide
      -- the VSS codes are none of those of the two ids
      by_cases h152 : code = RelayCode.virtualSubnetControl
      · simp [h152, hcodes]
      · by_cases h151 : code = RelayCode.virtualSubnet
        · simp [h151, hcodes, Ne.symm hcodes.2.2.1]
        · simp [h151, h152]

/-- With VSS off nothing is stamped. -/
theorem stamp_of_off (h : args.VssOff) (msg : Message) : args.stamp msg = msg := by
  cases h82 : msg.option82 with
  | none => exact stamp_of_none h82
  | some info => rw [stamp_of_some h82, stampInfo_of_off h, Message.withOption82_eq_self h82]

/-- Stamping changes nothing exactly when there is nothing to stamp, nothing to stamp
it on, or when the stamp is already there. -/
theorem stamp_eq_self_iff {msg : Message} :
    args.stamp msg = msg ↔
      ∀ cfg ∈ args.vssConfig, cfg.enabled = true → ∀ info ∈ msg.option82,
        info.get? RelayCode.virtualSubnet = some (Vss.vssInfo (Vss.payload cfg))
          ∧ info.get? RelayCode.virtualSubnetControl = some Vss.vssControl := by
  constructor
  · intro h cfg hcfg hon info hinfo
    have hpayload : args.vssPayload = some (Vss.payload cfg) := by
      rw [vssPayload, hcfg, Option.filter_some, if_pos hon, Option.map_some]
    rw [stamp_of_some hinfo, stampInfo, hpayload] at h
    have hadd : some (Vss.addTo (Vss.payload cfg) info) = some info := by
      rw [← Message.option82_withOption82 msg, h, hinfo]
    exact Vss.addTo_eq_self_iff.mp (Option.some.inj hadd)
  · intro h
    cases h82 : msg.option82 with
    | none => exact stamp_of_none h82
    | some info =>
        have hsame : args.stampInfo info = info := by
          unfold stampInfo
          cases hpayload : args.vssPayload with
          | none => rfl
          | some data =>
              obtain ⟨cfg, hfilter, rfl⟩ := Option.map_eq_some_iff.mp hpayload
              obtain ⟨hcfg, hon⟩ := Option.filter_eq_some_iff.mp hfilter
              exact Vss.addTo_eq_self_iff.mpr (h cfg hcfg hon info h82)
        rw [stamp_of_some h82, hsame, Message.withOption82_eq_self h82]

end RequestArgs

variable {args : RequestArgs} {v : View Message}

/-! ### Admission -/

section Admission

theorem execute_admission :
    Stages.execute (admission args) v = onValidate args.localAddrs v := by
  rw [admission, Stages.execute_cons_pass (show ViewStage.pass v = (.ok true, v) from rfl),
    Stages.execute_singleton]

theorem admission_of_firstRelay (hg : v.msg.giaddr = .unspecified) (h82 : v.msg.option82 = none) :
    Stages.execute (admission args) v = (.ok true, v) := by
  have hd : Giaddr.validate v.msg args.localAddrs v.isTrustedCircuit = .firstRelay :=
    Giaddr.validate_eq_firstRelay hg h82
  rw [execute_admission, onValidate, hd]

theorem admission_of_trustedCircuit (hg : v.msg.giaddr = .unspecified)
    (h82 : v.msg.option82.isSome) (ht : v.isTrustedCircuit = true) :
    Stages.execute (admission args) v = (.ok true, v) := by
  have hd : Giaddr.validate v.msg args.localAddrs v.isTrustedCircuit = .trustedCircuit := by
    rw [ht, Giaddr.validate_eq_trustedCircuit hg h82]
  rw [execute_admission, onValidate, hd]

theorem admission_of_untrustedCircuit (hg : v.msg.giaddr = .unspecified)
    (h82 : v.msg.option82.isSome) (ht : v.isTrustedCircuit = false) :
    Stages.execute (admission args) v = (.ok false, v) := by
  have hd : Giaddr.validate v.msg args.localAddrs v.isTrustedCircuit = .untrustedCircuit := by
    rw [ht, Giaddr.validate_eq_untrustedCircuit hg h82]
  rw [execute_admission, onValidate, hd]

theorem admission_of_spoof (hg : v.msg.giaddr ≠ .unspecified)
    (hl : v.msg.giaddr ∈ args.localAddrs) :
    ∃ text, Stages.execute (admission args) v = (.error (.giaddrSpoof text), v) := by
  have hd : Giaddr.validate v.msg args.localAddrs v.isTrustedCircuit = .spoof :=
    Giaddr.validate_eq_spoof hg hl
  refine ⟨s!"giaddr {v.msg.giaddr} matches local interface", ?_⟩
  rw [execute_admission, onValidate, hd]

theorem admission_of_reforwarded (hg : v.msg.giaddr ≠ .unspecified)
    (hl : v.msg.giaddr ∉ args.localAddrs) :
    Stages.execute (admission args) v = (.ok true, { v with isReforwarded := true }) := by
  have hd : Giaddr.validate v.msg args.localAddrs v.isTrustedCircuit = .reforwarded :=
    Giaddr.validate_eq_reforwarded hg hl
  rw [execute_admission, onValidate, hd]

/-- What the gate lets through: messages without giaddr, and messages with the
giaddr of somebody else, which are marked as reforwarded. -/
theorem admission_inv {v' : View Message} (h : Stages.execute (admission args) v = (.ok true, v')) :
    (v.msg.giaddr = .unspecified ∧ v' = v)
      ∨ (v.msg.giaddr ≠ .unspecified ∧ v.msg.giaddr ∉ args.localAddrs
          ∧ v' = { v with isReforwarded := true }) := by
  by_cases hg : v.msg.giaddr = .unspecified
  · refine .inl ⟨hg, ?_⟩
    cases h82 : v.msg.option82 with
    | none =>
        rw [admission_of_firstRelay hg h82] at h
        exact (congrArg Prod.snd h).symm
    | some info =>
        have hsome : v.msg.option82.isSome := by rw [h82]; rfl
        cases ht : v.isTrustedCircuit with
        | true =>
            rw [admission_of_trustedCircuit hg hsome ht] at h
            exact (congrArg Prod.snd h).symm
        | false =>
            rw [admission_of_untrustedCircuit hg hsome ht] at h
            simp at h
  · by_cases hl : v.msg.giaddr ∈ args.localAddrs
    · obtain ⟨text, hrun⟩ := admission_of_spoof hg hl
      rw [hrun] at h
      simp at h
    · rw [admission_of_reforwarded hg hl] at h
      exact .inr ⟨hg, hl, (congrArg Prod.snd h).symm⟩

end Admission

/-! ### Insertion -/

section Insertion

/-- Option 82 is left alone when it is not enabled, and in reforwarded packets. -/
theorem insertOption82_skips (h : args.enableOption82 = false ∨ v.isReforwarded = true) :
    Stages.execute (insertOption82 args) v = (.ok true, v) := by
  unfold insertOption82
  split
  · next hon =>
      have hre : v.isReforwarded = true := h.resolve_left (by simp [hon])
      rw [Stages.execute_singleton, onOption82Insert, if_pos hre]
  · rfl

theorem insertOption82_inserts (hon : args.enableOption82 = true) (hre : v.isReforwarded = false)
    (hids : args.circuitId.isSome ∨ args.remoteId.isSome) (hfresh : v.msg.option82 = none) :
    Stages.execute (insertOption82 args) v
      = (.ok true, View.note { v with
          msg := v.msg.withOption82 (Option82.agentInfo args.circuitId args.remoteId) }
          "option82_inserted" "true") := by
  have hedit := Option82.insert_of_fresh hids hfresh
  rw [insertOption82, if_pos hon, Stages.execute_singleton, onOption82Insert,
    if_neg (by simp [hre]), ViewStage.editThen_ok hedit]

theorem insertOption82_refuses (hon : args.enableOption82 = true) (hre : v.isReforwarded = false)
    (h : (args.circuitId = none ∧ args.remoteId = none) ∨ v.msg.option82.isSome) :
    ∃ text, Stages.execute (insertOption82 args) v = (.error (.config text), v) := by
  obtain ⟨text, hedit⟩ := Option82.insert_refused h
  refine ⟨text, ?_⟩
  rw [insertOption82, if_pos hon, Stages.execute_singleton, onOption82Insert,
    if_neg (by simp [hre]), ViewStage.editThen_error hedit]

/-- Without VSS nothing happens. -/
theorem insertVss_skips (h : args.VssOff) :
    Stages.execute (insertVss args) v = (.ok true, v) := by
  unfold insertVss
  cases hcfg : args.vssConfig with
  | none => rfl
  | some cfg =>
      have hoff : cfg.enabled = false := h cfg hcfg
      dsimp only
      rw [Stages.execute_singleton, onVssInsert, if_pos (by simp [hoff])]

/-- **What the VSS stage does**: it stamps Option 82, whoever put it there, and makes its
note. It does not ask whether the packet is a reforwarded one, nor whether there is an
Option 82 at all. -/
theorem insertVss_writes {cfg : VssConfig} (hcfg : args.vssConfig = some cfg)
    (hon : cfg.enabled = true) (hok : cfg.validateVss = .ok ()) :
    Stages.execute (insertVss args) v
      = (.ok true, View.note { v with msg := args.stamp v.msg } "vss_inserted" "true") := by
  have hpayload : args.vssPayload = some (Vss.payload cfg) := by
    simp [RequestArgs.vssPayload, hcfg, hon]
  have hedit : Vss.insertInto (Vss.payload cfg) v.msg = (.ok (), args.stamp v.msg) := by
    cases h82 : v.msg.option82 with
    | none => rw [Vss.insertInto_of_none h82, RequestArgs.stamp_of_none h82]
    | some info =>
        rw [Vss.insertInto_of_some h82, RequestArgs.stamp_of_some h82, RequestArgs.stampInfo,
          hpayload]
  unfold insertVss
  rw [hcfg]
  dsimp only
  rw [Stages.execute_singleton, onVssInsert, if_neg (by simp [hon]), Vss.encodeSubOpts_ok hok]
  exact ViewStage.editThen_ok hedit _

/-- A configuration that is not accepted is an error. -/
theorem insertVss_refuses {cfg : VssConfig} (hcfg : args.vssConfig = some cfg)
    (hon : cfg.enabled = true) {e : RelayError} (hbad : cfg.validateVss = .error e) :
    Stages.execute (insertVss args) v = (.error e, v) := by
  have hencode : Vss.encodeSubOpts cfg = .error e := by
    rw [Vss.encodeSubOpts, hbad]
    rfl
  unfold insertVss
  rw [hcfg]
  dsimp only
  rw [Stages.execute_singleton, onVssInsert, if_neg (by simp [hon]), hencode]

/-- An accepted configuration lets every packet go on, stamped. -/
theorem insertVss_stamps (h : args.VssAccepted) :
    ∃ bag, Stages.execute (insertVss args) v
      = (.ok true, { v with msg := args.stamp v.msg, metadata := bag }) := by
  by_cases hoff : args.VssOff
  · rw [insertVss_skips hoff, RequestArgs.stamp_of_off hoff]
    exact ⟨v.metadata, rfl⟩
  · simp only [RequestArgs.VssOff, not_forall, Bool.not_eq_false] at hoff
    obtain ⟨cfg, hcfg, hon⟩ := hoff
    rw [insertVss_writes hcfg hon (h cfg hcfg hon)]
    exact ⟨_, rfl⟩

/-- What neither insertion touches. -/
def GiaddrIs (giaddr : Ipv4Addr) (reforwarded : Bool) (v : View Message) : Prop :=
  v.msg.giaddr = giaddr ∧ v.isReforwarded = reforwarded

variable {giaddr : Ipv4Addr} {reforwarded : Bool} {v' : View Message}

theorem insertOption82_keeps (hrun : Stages.execute (insertOption82 args) v = (.ok true, v'))
    (h : GiaddrIs giaddr reforwarded v) : GiaddrIs giaddr reforwarded v' := by
  refine Stages.execute_keeps ?_ hrun h
  intro f hf s s' hstep hs
  unfold insertOption82 at hf
  split at hf
  · obtain rfl := List.mem_singleton.mp hf
    unfold onOption82Insert at hstep
    split at hstep
    · obtain rfl : s = s' := congrArg Prod.snd hstep
      exact hs
    · obtain ⟨msg, hedit, rfl⟩ := ViewStage.editThen_inv hstep
      have hmsg := Option82.insert_giaddr s.msg args.circuitId args.remoteId
      rw [hedit] at hmsg
      exact ⟨hmsg.trans hs.1, hs.2⟩
  · simp at hf

theorem insertVss_keeps (hrun : Stages.execute (insertVss args) v = (.ok true, v'))
    (h : GiaddrIs giaddr reforwarded v) : GiaddrIs giaddr reforwarded v' := by
  refine Stages.execute_keeps ?_ hrun h
  intro f hf s s' hstep hs
  unfold insertVss at hf
  cases hcfg : args.vssConfig with
  | none => simp [hcfg] at hf
  | some cfg =>
      obtain rfl : f = onVssInsert cfg := by simpa [hcfg] using hf
      unfold onVssInsert at hstep
      split at hstep
      · obtain rfl : s = s' := congrArg Prod.snd hstep
        exact hs
      · cases henc : Vss.encodeSubOpts cfg with
        | error e => simp [henc] at hstep
        | ok encoded =>
            simp only [henc] at hstep
            obtain ⟨msg, hedit, rfl⟩ := ViewStage.editThen_inv hstep
            have hmsg := Vss.insertInto_giaddr (encoded.1.drop Vss.suboptHeaderLen) s.msg
            rw [hedit] at hmsg
            exact ⟨hmsg.trans hs.1, hs.2⟩

end Insertion

/-! ### Dispatch -/

section Dispatch

theorem dispatch_of_reforwarded (hre : v.isReforwarded = true) :
    Stages.execute (dispatch args) v = (.ok true, { v with dstAddr := some args.serverAddr }) := by
  have hgiaddr : onGiaddr args.ifaceIp v = (.ok true, v) := by rw [onGiaddr, if_pos hre]
  rw [dispatch, Stages.execute_cons_pass hgiaddr, Stages.execute_singleton, onForward]

theorem dispatch_of_own (hre : v.isReforwarded = false) (hg : v.msg.giaddr = .unspecified) :
    Stages.execute (dispatch args) v = (.ok true, { v with
      msg := v.msg.setGiaddr args.ifaceIp
      dstAddr := some args.serverAddr }) := by
  have hedit : giaddrEdit args.ifaceIp v.msg = (.ok (), v.msg.setGiaddr args.ifaceIp) := by
    rw [giaddrEdit, if_pos hg]
  have hgiaddr : onGiaddr args.ifaceIp v
      = (.ok true, { v with msg := v.msg.setGiaddr args.ifaceIp }) := by
    rw [onGiaddr, if_neg (by simp [hre]), ViewStage.editThen_ok hedit]
    rfl
  rw [dispatch, Stages.execute_cons_pass hgiaddr, Stages.execute_singleton, onForward]

end Dispatch

/-! ### The whole chain -/

section Runs

variable {msg : Message} {t : Bool}

/-- A reforwarded packet runs through to the server, stamped. -/
theorem run_of_reforwarded (hvss : args.VssAccepted) (hg : msg.giaddr ≠ .unspecified)
    (hl : msg.giaddr ∉ args.localAddrs) :
    ∃ bag, Stages.execute (requestMeaning args) (View.fresh msg t) = (.ok true, {
      msg := args.stamp msg
      dstAddr := some args.serverAddr
      isReforwarded := true
      isTrustedCircuit := t
      metadata := bag }) := by
  have hgate := admission_of_reforwarded (v := View.fresh msg t) hg hl
  obtain ⟨bag, hstamp⟩ :=
    insertVss_stamps (v := { View.fresh msg t with isReforwarded := true }) hvss
  rw [requestMeaning, Stages.execute_append_pass hgate,
    Stages.execute_append_pass (insertOption82_skips (.inr rfl)),
    Stages.execute_append_pass hstamp, dispatch_of_reforwarded rfl]
  exact ⟨bag, rfl⟩

/-- A first relay with Option 82 on. -/
theorem run_of_firstRelay (hvss : args.VssAccepted) (hon : args.enableOption82 = true)
    (hids : args.circuitId.isSome ∨ args.remoteId.isSome) (hg : msg.giaddr = .unspecified)
    (h82 : msg.option82 = none) :
    ∃ bag, Stages.execute (requestMeaning args) (View.fresh msg t) = (.ok true, {
      msg := (msg.setGiaddr args.ifaceIp).withOption82
        (args.stampInfo (Option82.agentInfo args.circuitId args.remoteId))
      dstAddr := some args.serverAddr
      isReforwarded := false
      isTrustedCircuit := t
      metadata := bag }) := by
  have hgate : Stages.execute (admission args) (View.fresh msg t) = (.ok true, View.fresh msg t) :=
    admission_of_firstRelay hg h82
  let inserted : View Message := View.note { View.fresh msg t with
    msg := msg.withOption82 (Option82.agentInfo args.circuitId args.remoteId) }
    "option82_inserted" "true"
  have hpass : Stages.execute (insertOption82 args) (View.fresh msg t) = (.ok true, inserted) :=
    insertOption82_inserts hon rfl hids h82
  obtain ⟨bag', hstamp⟩ := insertVss_stamps hvss (v := inserted)
  have hmsg : args.stamp (msg.withOption82 (Option82.agentInfo args.circuitId args.remoteId))
      = msg.withOption82 (args.stampInfo (Option82.agentInfo args.circuitId args.remoteId)) := by
    rw [RequestArgs.stamp_of_some (Message.option82_withOption82 _ _),
      Message.withOption82_withOption82]
  rw [show args.stamp inserted.msg = _ from hmsg] at hstamp
  rw [requestMeaning, Stages.execute_append_pass hgate, Stages.execute_append_pass hpass,
    Stages.execute_append_pass hstamp, dispatch_of_own rfl hg]
  exact ⟨bag', rfl⟩

/-- A first relay with Option 82 on, but without an id to put there. -/
theorem run_of_firstRelay_refused (hon : args.enableOption82 = true)
    (hids : args.circuitId = none ∧ args.remoteId = none) (hg : msg.giaddr = .unspecified)
    (h82 : msg.option82 = none) :
    ∃ text, Stages.execute (requestMeaning args) (View.fresh msg t)
      = (.error (.config text), View.fresh msg t) := by
  have hgate : Stages.execute (admission args) (View.fresh msg t) = (.ok true, View.fresh msg t) :=
    admission_of_firstRelay hg h82
  obtain ⟨text, hrefuse⟩ := insertOption82_refuses (v := View.fresh msg t) hon rfl (.inl hids)
  refine ⟨text, ?_⟩
  rw [requestMeaning, Stages.execute_append_pass hgate,
    Stages.execute_append_stop hrefuse (by simp)]

/-- An admitted packet without giaddr, when no Option 82 is to be inserted. -/
theorem run_of_plain (hvss : args.VssAccepted) (hoff : args.enableOption82 = false)
    (hg : msg.giaddr = .unspecified) (htrusted : msg.option82 = none ∨ t = true) :
    ∃ bag, Stages.execute (requestMeaning args) (View.fresh msg t) = (.ok true, {
      msg := (args.stamp msg).setGiaddr args.ifaceIp
      dstAddr := some args.serverAddr
      isReforwarded := false
      isTrustedCircuit := t
      metadata := bag }) := by
  have hgate : Stages.execute (admission args) (View.fresh msg t)
      = (.ok true, View.fresh msg t) := by
    cases h82 : msg.option82 with
    | none => exact admission_of_firstRelay hg h82
    | some info =>
        have ht : t = true := htrusted.resolve_left (by simp [h82])
        exact admission_of_trustedCircuit hg (by rw [View.fresh, h82]; rfl) ht
  obtain ⟨bag, hstamp⟩ := insertVss_stamps (v := View.fresh msg t) hvss
  have hgiaddr : (args.stamp msg).giaddr = .unspecified :=
    (RequestArgs.stamp_giaddr msg).trans hg
  rw [requestMeaning, Stages.execute_append_pass hgate,
    Stages.execute_append_pass (insertOption82_skips (.inl hoff)),
    Stages.execute_append_pass hstamp, dispatch_of_own rfl hgiaddr]
  exact ⟨bag, rfl⟩

/-- A packet from a trusted circuit, when an Option 82 is to be inserted. -/
theorem run_of_trustedCircuit_refused (hon : args.enableOption82 = true)
    (hg : msg.giaddr = .unspecified) (h82 : msg.option82.isSome) :
    ∃ text, Stages.execute (requestMeaning args) (View.fresh msg true)
      = (.error (.config text), View.fresh msg true) := by
  have hgate : Stages.execute (admission args) (View.fresh msg true)
      = (.ok true, View.fresh msg true) := admission_of_trustedCircuit hg h82 rfl
  obtain ⟨text, hrefuse⟩ :=
    insertOption82_refuses (v := View.fresh msg true) hon rfl (.inr h82)
  refine ⟨text, ?_⟩
  rw [requestMeaning, Stages.execute_append_pass hgate,
    Stages.execute_append_stop hrefuse (by simp)]

/-- A packet stopped at the gate. -/
theorem run_of_stopped {result : RelayResult Bool}
    (hstop : Stages.execute (admission args) (View.fresh msg t) = (result, View.fresh msg t))
    (hresult : result ≠ .ok true) :
    Stages.execute (requestMeaning args) (View.fresh msg t) = (result, View.fresh msg t) := by
  rw [requestMeaning, Stages.execute_append_stop hstop hresult]

/-- The messages a pipeline with these arguments lets through, from a circuit that is
trusted or not. -/
def RequestArgs.Relays (args : RequestArgs) (trusted : Bool) (msg : Message) : Prop :=
  if msg.giaddr = .unspecified then
    if msg.option82.isSome then trusted = true ∧ args.enableOption82 = false
    else args.enableOption82 = true → args.circuitId.isSome ∨ args.remoteId.isSome
  else msg.giaddr ∉ args.localAddrs

/-- What is to become of a message that is let through: giaddr is filled in, Option 82 is
added if that is enabled, and VSS is stamped on. -/
def RequestArgs.relayed (args : RequestArgs) (msg : Message) : Message :=
  if msg.giaddr = .unspecified then
    if args.enableOption82 then
      (msg.setGiaddr args.ifaceIp).withOption82
        (args.stampInfo (Option82.agentInfo args.circuitId args.remoteId))
    else (args.stamp msg).setGiaddr args.ifaceIp
  else args.stamp msg

/-- It is a message of the same type. -/
theorem RequestArgs.relayed_msgType (args : RequestArgs) (msg : Message) :
    (args.relayed msg).opts.msgType = msg.opts.msgType := by
  unfold relayed
  split
  · split
    · exact Message.msgType_withOption82 _ _
    · exact stamp_msgType msg
  · exact stamp_msgType msg

/-- It has a giaddr. -/
theorem RequestArgs.giaddr_relayed (args : RequestArgs) (msg : Message) :
    (args.relayed msg).giaddr
      = if msg.giaddr = .unspecified then args.ifaceIp else msg.giaddr := by
  unfold relayed
  split
  · split <;> rfl
  · exact stamp_giaddr msg

/-- It has an Option 82 if there was one before, or one is added. -/
theorem RequestArgs.option82_relayed (args : RequestArgs) (msg : Message) :
    (args.relayed msg).option82.isSome = true
      ↔ msg.option82.isSome = true ∨ msg.giaddr = .unspecified ∧ args.enableOption82 = true := by
  have hstamp : (args.stamp msg).option82.isSome = msg.option82.isSome := by
    cases h82 : msg.option82 with
    | none => rw [stamp_of_none h82, h82]
    | some info => rw [stamp_of_some h82, Message.option82_withOption82]; rfl
  unfold relayed
  split
  · next hg =>
      split
      · next hon => simp [hg, hon]
      · next hoff => simp [hoff, hstamp]
  · next hg => simp [hg, hstamp]

/-- What is let through goes to the server, as the relayed message. -/
theorem run_of_relays (hvss : args.VssAccepted) (h : args.Relays t msg) :
    ∃ v, Stages.execute (requestMeaning args) (View.fresh msg t) = (.ok true, v)
      ∧ v.dstAddr = some args.serverAddr ∧ v.msg = args.relayed msg := by
  unfold RequestArgs.Relays at h
  unfold RequestArgs.relayed
  split at h
  · next hg =>
      rw [if_pos hg]
      split at h
      · obtain ⟨rfl, hoff⟩ := h
        obtain ⟨bag, hrun⟩ := run_of_plain (t := true) hvss hoff hg (.inr rfl)
        exact ⟨_, hrun, rfl, by rw [if_neg (by simp [hoff])]⟩
      · next hfresh =>
          have h82 : msg.option82 = none := by simpa using hfresh
          cases hon : args.enableOption82 with
          | false =>
              obtain ⟨bag, hrun⟩ := run_of_plain (t := t) hvss hon hg (.inl h82)
              exact ⟨_, hrun, rfl, rfl⟩
          | true =>
              obtain ⟨bag, hrun⟩ := run_of_firstRelay (t := t) hvss hon (h hon) hg h82
              exact ⟨_, hrun, rfl, rfl⟩
  · next hg =>
      obtain ⟨bag, hrun⟩ := run_of_reforwarded (t := t) hvss hg h
      exact ⟨_, hrun, rfl, by rw [if_neg hg]⟩

/-- Where a request run ends well, giaddr is what the gate decided it to be. -/
theorem run_giaddr {v : View Message}
    (hrun : Stages.execute (requestMeaning args) (View.fresh msg t) = (.ok true, v)) :
    ¬ (msg.giaddr ≠ .unspecified ∧ msg.giaddr ∈ args.localAddrs)
      ∧ v.msg.giaddr = if msg.giaddr = .unspecified then args.ifaceIp else msg.giaddr := by
  unfold requestMeaning at hrun
  -- `v₁`, `v₂`, `v₃`: behind the gate, behind Option 82, behind VSS
  obtain ⟨v₁, hgate, hrest⟩ := Stages.execute_append_inv hrun
  obtain ⟨v₂, hinsert, hrest⟩ := Stages.execute_append_inv hrest
  obtain ⟨v₃, hvss, hdispatch⟩ := Stages.execute_append_inv hrest
  have hkept : v₃.msg.giaddr = v₁.msg.giaddr ∧ v₃.isReforwarded = v₁.isReforwarded :=
    insertVss_keeps hvss (insertOption82_keeps hinsert ⟨rfl, rfl⟩)
  rcases admission_inv hgate with ⟨hg, rfl⟩ | ⟨hg, hl, rfl⟩
  · rw [dispatch_of_own hkept.2 (hkept.1.trans hg)] at hdispatch
    obtain rfl : _ = v := congrArg Prod.snd hdispatch
    have hzero : msg.giaddr = .unspecified := hg
    rw [if_pos hzero]
    exact ⟨fun h => h.1 hzero, rfl⟩
  · rw [dispatch_of_reforwarded hkept.2] at hdispatch
    obtain rfl : _ = v := congrArg Prod.snd hdispatch
    have hother : msg.giaddr ≠ .unspecified := hg
    rw [if_neg hother]
    exact ⟨fun h => hl h.2, hkept.1⟩

end Runs

end DhcpRelay.V4
