import DhcpRelay.V4.RequestCorrect

/-!
# DhcpRelay.V4.InsertReport

**Whether the request pipeline reports what it has inserted.** The two insertion stages each
leave a note in the metadata. The VSS stage leaves its note whenever its edit has not failed,
and the edit does not fail where there is no Option 82 to write to.

So the report is true except for packets that come to a VSS stage that is on without an
Option 82: a first relay with the insertion of Option 82 switched off, and a reforwarded packet
that has none.
-/

namespace DhcpRelay.V4

open DhcpRelay.Library

/-- The configuration that the VSS stage writes: it is on, and accepted by `validate_vss`. -/
structure RequestArgs.VssOn (args : RequestArgs) (cfg : VssConfig) : Prop where
  config : args.vssConfig = some cfg
  enabled : cfg.enabled = true
  accepted : cfg.validateVss = .ok ()

/-- The packet is let through, as far as to the VSS stage, without an Option 82. -/
def RequestArgs.PassesBare (args : RequestArgs) (msg : Message) : Prop :=
  msg.option82 = none ∧
    if msg.giaddr = .unspecified then args.enableOption82 = false
    else msg.giaddr ∉ args.localAddrs

/-- Of a packet that came as `msg` and was left behind as `msg'`: VSS was inserted if it had to
be, and the notes in the metadata are true of the Option 82 of `msg'`. -/
structure Reported (args : RequestArgs) (msg msg' : Message) (result : RelayResult Bool)
    (metadata : Metadata) : Prop where
  vss : ∀ cfg, args.VssOn cfg → msg.giaddr = .unspecified → msg.option82 = none →
    (args.circuitId.isSome ∨ args.remoteId.isSome) → result = .ok true →
      ∃ info, msg'.option82 = some info
        ∧ info.get? RelayCode.virtualSubnet = some (Vss.vssInfo (Vss.payload cfg))
        ∧ info.get? RelayCode.virtualSubnetControl = some Vss.vssControl
  vssNote : metadata "vss_inserted" ≠ none → ∃ cfg, args.vssConfig = some cfg
    ∧ ∃ info, msg'.option82 = some info
      ∧ info.get? RelayCode.virtualSubnet = some (Vss.vssInfo (Vss.payload cfg))
  option82Note : metadata "option82_inserted" ≠ none → msg.option82 = none
    ∧ ∃ info, msg'.option82 = some info
      ∧ ∀ code, code ≠ RelayCode.virtualSubnet → code ≠ RelayCode.virtualSubnetControl →
          info.get? code = (Option82.agentInfo args.circuitId args.remoteId).get? code

/-- So it is of what a pipeline has made of the packet. -/
def ReportsTruly (proto : Codec) (args : RequestArgs) (msg : Message)
    (out : RelayResult Bool × PipelineContext) : Prop :=
  ∃ msg', proto.decode out.2.buffer = .ok msg' ∧ Reported args msg msg' out.1 out.2.metadata

section

variable {args : RequestArgs} {msg msg' : Message} {t : Bool} {v : View Message}
  {result : RelayResult Bool} {cfg : VssConfig}

/-! ### Up to the VSS stage -/

/-- How a packet comes to the VSS stage. -/
inductive AtVss (args : RequestArgs) (msg : Message) (t : Bool) :
    RelayResult Bool × View Message → Prop where
  /-- not at all -/
  | stopped {result : RelayResult Bool} (hresult : result ≠ .ok true)
      (hbare : ¬ args.PassesBare msg) : AtVss args msg t (result, View.fresh msg t)
  /-- with the Option 82 of this relay -/
  | inserted (h82 : msg.option82 = none) (hbare : ¬ args.PassesBare msg) :
      AtVss args msg t (.ok true, View.note
        { View.fresh msg t with
          msg := msg.withOption82 (Option82.agentInfo args.circuitId args.remoteId) }
        "option82_inserted" "true")
  /-- as it came -/
  | passed (reforwarded : Bool) (hbare : msg.option82 = none → args.PassesBare msg) :
      AtVss args msg t (.ok true, { View.fresh msg t with isReforwarded := reforwarded })

theorem passesBare_of_firstRelay (hg : msg.giaddr = .unspecified) :
    args.PassesBare msg ↔ msg.option82 = none ∧ args.enableOption82 = false := by
  rw [RequestArgs.PassesBare, if_pos hg]

theorem passesBare_of_other (hg : msg.giaddr ≠ .unspecified) :
    args.PassesBare msg ↔ msg.option82 = none ∧ msg.giaddr ∉ args.localAddrs := by
  rw [RequestArgs.PassesBare, if_neg hg]

/-- A message without giaddr that the gate lets through, at the Option 82 stage. -/
theorem atVss_of_admitted (hg : msg.giaddr = .unspecified)
    (hgate : Stages.execute (admission args) (View.fresh msg t) = (.ok true, View.fresh msg t)) :
    AtVss args msg t
      (Stages.execute (admission args ++ insertOption82 args) (View.fresh msg t)) := by
  rw [Stages.execute_append_pass hgate]
  cases hon : args.enableOption82 with
  | false =>
      rw [insertOption82_skips (.inl hon)]
      exact .passed false fun h82 => (passesBare_of_firstRelay hg).mpr ⟨h82, hon⟩
  | true =>
      have hbare : ¬ args.PassesBare msg := by
        rw [passesBare_of_firstRelay hg, hon]
        simp
      by_cases h : (args.circuitId.isSome ∨ args.remoteId.isSome) ∧ msg.option82 = none
      · rw [insertOption82_inserts hon rfl h.1 h.2]
        exact .inserted h.2 hbare
      · obtain ⟨text, hrefuse⟩ : ∃ text, Stages.execute (insertOption82 args) (View.fresh msg t)
            = (.error (.config text), View.fresh msg t) :=
          insertOption82_refuses hon rfl (Option82.refused_of_not h)
        rw [hrefuse]
        exact .stopped (by simp) hbare

/-- Every packet comes to the VSS stage in one of these ways. -/
theorem atVss (args : RequestArgs) (msg : Message) (t : Bool) : AtVss args msg t
    (Stages.execute (admission args ++ insertOption82 args) (View.fresh msg t)) := by
  by_cases hg : msg.giaddr = .unspecified
  · cases h82 : msg.option82 with
    | none => exact atVss_of_admitted hg (admission_of_firstRelay hg h82)
    | some info =>
        have hsome : msg.option82.isSome := by rw [h82]; rfl
        have hbare : ¬ args.PassesBare msg := by
          rw [passesBare_of_firstRelay hg, h82]
          simp
        cases t with
        | true => exact atVss_of_admitted hg (admission_of_trustedCircuit hg hsome rfl)
        | false =>
            have hdrop : Stages.execute (admission args) (View.fresh msg false)
                = (.ok false, View.fresh msg false) := admission_of_untrustedCircuit hg hsome rfl
            rw [Stages.execute_append_stop hdrop (by simp)]
            exact .stopped (by simp) hbare
  · by_cases hl : msg.giaddr ∈ args.localAddrs
    · obtain ⟨text, hspoof⟩ : ∃ text, Stages.execute (admission args) (View.fresh msg t)
          = (.error (.giaddrSpoof text), View.fresh msg t) := admission_of_spoof hg hl
      rw [Stages.execute_append_stop hspoof (by simp)]
      exact .stopped (by simp) fun h => ((passesBare_of_other hg).mp h).2 hl
    · have hgate : Stages.execute (admission args) (View.fresh msg t)
          = (.ok true, { View.fresh msg t with isReforwarded := true }) :=
        admission_of_reforwarded hg hl
      rw [Stages.execute_append_pass hgate, insertOption82_skips (.inr rfl)]
      exact .passed true fun h82 => (passesBare_of_other hg).mpr ⟨h82, hl⟩

/-! ### From the VSS stage on -/

/-- The last two stages let every packet through, and touch neither Option 82 nor the notes. -/
theorem dispatch_keeps (v : View Message) :
    ∃ v', Stages.execute (dispatch args) v = (.ok true, v')
      ∧ v'.msg.option82 = v.msg.option82 ∧ v'.metadata = v.metadata := by
  cases hre : v.isReforwarded with
  | true => exact ⟨_, dispatch_of_reforwarded hre, rfl, rfl⟩
  | false =>
      have hedit : giaddrEdit args.ifaceIp v.msg
          = (.ok (), (giaddrEdit args.ifaceIp v.msg).2) := rfl
      have hkept : (giaddrEdit args.ifaceIp v.msg).2.option82 = v.msg.option82 := by
        rw [giaddrEdit]
        split <;> rfl
      have hgiaddr : onGiaddr args.ifaceIp v
          = (.ok true, { v with msg := (giaddrEdit args.ifaceIp v.msg).2 }) := by
        rw [onGiaddr, if_neg (by simp [hre]), ViewStage.editThen_ok hedit]
        rfl
      have hrun : Stages.execute (dispatch args) v = (.ok true, { v with
          msg := (giaddrEdit args.ifaceIp v.msg).2
          dstAddr := some args.serverAddr }) := by
        rw [dispatch, Stages.execute_cons_pass hgiaddr, Stages.execute_singleton, onForward]
      exact ⟨_, hrun, hkept, rfl⟩

/-- Where VSS is on, the sub-options are added to the Option 82 that there is, and the note is
made either way. -/
theorem finish_of_vssOn (hon : args.VssOn cfg) (v : View Message) :
    ∃ v', Stages.execute (insertVss args ++ dispatch args) v = (.ok true, v')
      ∧ v'.msg.option82 = v.msg.option82.map (Vss.addTo (Vss.payload cfg))
      ∧ v'.metadata = v.metadata.insert "vss_inserted" "true" := by
  have hpayload : args.vssPayload = some (Vss.payload cfg) := by
    simp [RequestArgs.vssPayload, hon.config, hon.enabled]
  have hstamp : (args.stamp v.msg).option82
      = v.msg.option82.map (Vss.addTo (Vss.payload cfg)) := by
    cases h82 : v.msg.option82 with
    | none => rw [RequestArgs.stamp_of_none h82, h82, Option.map_none]
    | some info =>
        rw [RequestArgs.stamp_of_some h82, Message.option82_withOption82, RequestArgs.stampInfo,
          hpayload, Option.map_some]
  rw [Stages.execute_append_pass (insertVss_writes hon.config hon.enabled hon.accepted)]
  obtain ⟨v', hrun, hkept, hnotes⟩ : ∃ v', Stages.execute (dispatch args)
      (View.note { v with msg := args.stamp v.msg } "vss_inserted" "true") = (.ok true, v')
        ∧ v'.msg.option82 = (args.stamp v.msg).option82
        ∧ v'.metadata = v.metadata.insert "vss_inserted" "true" := dispatch_keeps _
  exact ⟨v', hrun, hkept.trans hstamp, hnotes⟩

/-- Where it is not, nothing becomes of the Option 82, and there is no note. -/
theorem finish_of_not_vssOn (hoff : ¬ ∃ cfg, args.VssOn cfg) (v : View Message) :
    ∃ result v', Stages.execute (insertVss args ++ dispatch args) v = (result, v')
      ∧ v'.msg.option82 = v.msg.option82 ∧ v'.metadata = v.metadata := by
  by_cases h : args.VssOff
  · rw [Stages.execute_append_pass (insertVss_skips h)]
    exact ⟨_, dispatch_keeps v⟩
  · simp only [RequestArgs.VssOff, not_forall, Bool.not_eq_false] at h
    obtain ⟨cfg, hcfg, henabled⟩ := h
    cases hvalid : cfg.validateVss with
    | ok accepted => exact absurd ⟨cfg, hcfg, henabled, hvalid⟩ hoff
    | error e =>
        have hrefuse : Stages.execute (insertVss args) v = (.error e, v) :=
          insertVss_refuses hcfg henabled hvalid
        exact ⟨_, _, Stages.execute_append_stop hrefuse (by simp) _, rfl, rfl⟩

/-! ### The report -/

/-- A packet without notes that is not let through is reported on. -/
theorem Reported.of_stopped (hresult : result ≠ .ok true) :
    Reported args msg msg' result fun _ => none where
  vss _ _ _ _ _ hpassed := absurd hpassed hresult
  vssNote h := absurd rfl h
  option82Note h := absurd rfl h

/-- With VSS on: the sub-options are in the Option 82 there is. -/
theorem Reported.of_vssOn (hon : args.VssOn cfg) {before : RelayAgentInformation}
    (h82 : msg'.option82 = some (Vss.addTo (Vss.payload cfg) before)) {bag : Metadata}
    (hnote : bag "option82_inserted" ≠ none →
      msg.option82 = none ∧ before = Option82.agentInfo args.circuitId args.remoteId) :
    Reported args msg msg' result (bag.insert "vss_inserted" "true") where
  vss cfg' hon' _ _ _ _ := by
    obtain rfl : cfg = cfg' := Option.some.inj (hon.config.symm.trans hon'.config)
    refine ⟨_, h82, ?_, ?_⟩
    · rw [Vss.get?_addTo]
      rfl
    · rw [Vss.get?_addTo]
      rfl
  vssNote _ := by
    refine ⟨cfg, hon.config, _, h82, ?_⟩
    rw [Vss.get?_addTo]
    rfl
  option82Note h := by
    have hbag : bag "option82_inserted" ≠ none := by simpa [Metadata.insert] using h
    obtain ⟨hfresh, rfl⟩ := hnote hbag
    refine ⟨hfresh, _, h82, fun code h151 h152 => ?_⟩
    rw [Vss.get?_addTo, if_neg h152, if_neg h151]

/-- With VSS off: there is at most the note on the Option 82. -/
theorem Reported.of_not_vssOn (hoff : ¬ ∃ cfg, args.VssOn cfg) {bag : Metadata}
    (hvss : bag "vss_inserted" = none)
    (hnote : bag "option82_inserted" ≠ none → msg.option82 = none
      ∧ msg'.option82 = some (Option82.agentInfo args.circuitId args.remoteId)) :
    Reported args msg msg' result bag where
  vss cfg hon _ _ _ _ := absurd ⟨cfg, hon⟩ hoff
  vssNote h := absurd hvss h
  option82Note h :=
    have ⟨hfresh, h82⟩ := hnote h
    ⟨hfresh, _, h82, fun _ _ _ => rfl⟩

/-- **From the VSS stage on**: a packet with an Option 82, or without VSS, is reported on if the
note on Option 82 is true of it so far. -/
theorem finish_reported (hvss : v.metadata "vss_inserted" = none)
    (hpresent : (∃ cfg, args.VssOn cfg) → v.msg.option82 ≠ none)
    (hnote : v.metadata "option82_inserted" ≠ none → msg.option82 = none
      ∧ v.msg.option82 = some (Option82.agentInfo args.circuitId args.remoteId)) :
    ∃ result v', Stages.execute (insertVss args ++ dispatch args) v = (result, v')
      ∧ Reported args msg v'.msg result v'.metadata := by
  by_cases hon : ∃ cfg, args.VssOn cfg
  · obtain ⟨before, hbefore⟩ := Option.ne_none_iff_exists'.mp (hpresent hon)
    obtain ⟨cfg, hon⟩ := hon
    obtain ⟨v', hfinish, hinfo, hnotes⟩ := finish_of_vssOn hon v
    rw [hbefore, Option.map_some] at hinfo
    refine ⟨_, v', hfinish, ?_⟩
    rw [hnotes]
    refine .of_vssOn hon hinfo fun h => ?_
    obtain ⟨hfresh, hadded⟩ := hnote h
    exact ⟨hfresh, Option.some.inj (hbefore.symm.trans hadded)⟩
  · obtain ⟨result, v', hfinish, hinfo, hnotes⟩ := finish_of_not_vssOn hon v
    refine ⟨result, v', hfinish, ?_⟩
    rw [hnotes]
    refine .of_not_vssOn hon hvss fun h => ?_
    obtain ⟨hfresh, hadded⟩ := hnote h
    exact ⟨hfresh, hinfo.trans hadded⟩

/-- The run of a packet, from the VSS stage on. -/
theorem run_of_atVss
    (h : Stages.execute (admission args ++ insertOption82 args) (View.fresh msg t)
      = (.ok true, v)) :
    Stages.execute (requestMeaning args) (View.fresh msg t)
      = Stages.execute (insertVss args ++ dispatch args) v := by
  rw [requestMeaning, ← List.append_assoc, Stages.execute_append_pass h]

/-- **A packet that does not pass bare is reported on truthfully.** -/
theorem run_reported (h : ¬ ((∃ cfg, args.VssOn cfg) ∧ args.PassesBare msg)) :
    ∃ result v, Stages.execute (requestMeaning args) (View.fresh msg t) = (result, v)
      ∧ Reported args msg v.msg result v.metadata := by
  have hat := atVss args msg t
  generalize hrun : Stages.execute (admission args ++ insertOption82 args)
    (View.fresh msg t) = reached at hat
  cases hat with
  | @stopped result hresult _ =>
      have hstop : Stages.execute (requestMeaning args) (View.fresh msg t)
          = (result, View.fresh msg t) := by
        rw [requestMeaning, ← List.append_assoc, Stages.execute_append_stop hrun hresult]
      exact ⟨_, _, hstop, .of_stopped hresult⟩
  | inserted h82 _ =>
      have hnew : (msg.withOption82 (Option82.agentInfo args.circuitId args.remoteId)).option82
          = some (Option82.agentInfo args.circuitId args.remoteId) :=
        Message.option82_withOption82 _ _
      rw [run_of_atVss hrun]
      exact finish_reported (by simp [View.note, View.fresh, Metadata.insert])
        (fun _ => hnew ▸ Option.some_ne_none _) fun _ => ⟨h82, hnew⟩
  | passed reforwarded hbare =>
      rw [run_of_atVss hrun]
      exact finish_reported rfl (fun hon h82 => h ⟨hon, hbare h82⟩) fun hnote => absurd rfl hnote

/-- **One that passes bare is not**: the note on VSS is there, and no Option 82. -/
theorem run_of_bare (hon : args.VssOn cfg) (hbare : args.PassesBare msg) :
    ∃ v, Stages.execute (requestMeaning args) (View.fresh msg t) = (.ok true, v)
      ∧ v.msg.option82 = none ∧ v.metadata "vss_inserted" ≠ none := by
  have hat := atVss args msg t
  generalize hrun : Stages.execute (admission args ++ insertOption82 args)
    (View.fresh msg t) = reached at hat
  cases hat with
  | stopped _ hnot => exact absurd hbare hnot
  | inserted _ hnot => exact absurd hbare hnot
  | passed reforwarded _ =>
      rw [run_of_atVss hrun]
      obtain ⟨v, hfinish, hinfo, hnotes⟩ := finish_of_vssOn hon _
      refine ⟨v, hfinish, hinfo.trans (congrArg _ hbare.1), ?_⟩
      rw [hnotes]
      simp [Metadata.insert]

variable {proto : Codec} {raw : Bytes} {src : SocketAddr} {interface : String}

/-- A packet that passes bare is not reported on truthfully. -/
theorem request_misreported (hc : proto.Lawful) (hdec : proto.decode raw = .ok msg)
    (hon : args.VssOn cfg) (hbare : args.PassesBare msg) :
    ¬ ReportsTruly proto args msg ((buildRequest proto args).execute
      { PipelineContext.new raw src interface with isTrustedCircuit := t }) := by
  let out := (buildRequest proto args).execute
    { PipelineContext.new raw src interface with isTrustedCircuit := t }
  obtain ⟨v, hrun, h82, hnote⟩ := run_of_bare (t := t) hon hbare
  obtain ⟨-, hsees⟩ : out.1 = .ok true ∧ Sees proto out.2 v := request_sees hc hdec hrun
  rintro ⟨msg', hmsg', hreported⟩
  obtain rfl : v.msg = msg' := Except.ok.inj (hsees.decode.symm.trans hmsg')
  have hpresent : out.2.metadata "vss_inserted" ≠ none := hsees.metadata ▸ hnote
  obtain ⟨-, -, info, hinfo, -⟩ := hreported.vssNote hpresent
  simp [h82] at hinfo

/-- **VSS is inserted where it has to be, and the notes are true, exactly unless a packet
passes bare to a VSS stage that is on.** -/
theorem request_reported_iff (hc : proto.Lawful) (hdec : proto.decode raw = .ok msg) :
    ReportsTruly proto args msg ((buildRequest proto args).execute
        { PipelineContext.new raw src interface with isTrustedCircuit := t })
      ↔ ¬ ((∃ cfg, args.VssOn cfg) ∧ args.PassesBare msg) := by
  constructor
  · rintro hreported ⟨⟨cfg, hon⟩, hbare⟩
    exact request_misreported hc hdec hon hbare hreported
  · intro h
    let out := (buildRequest proto args).execute
      { PipelineContext.new raw src interface with isTrustedCircuit := t }
    obtain ⟨result, v, hrun, hreported⟩ := run_reported (t := t) h
    obtain ⟨hresult, hsees⟩ : out.1 = result ∧ Sees proto out.2 v := request_sees hc hdec hrun
    have hout : Reported args msg v.msg out.1 out.2.metadata := by
      rw [hresult, hsees.metadata]
      exact hreported
    exact ⟨v.msg, hsees.decode, hout⟩

end

/-- A first relay with Option 82 and VSS on is reported on. -/
theorem sampleDiscover_reported :
    ReportsTruly Wire.wire sampleArgsVss sampleDiscover
      ((buildRequest Wire.wire sampleArgsVss).execute
        { PipelineContext.new (Wire.writeMessage sampleDiscover) sampleClient "eth0" with
          isTrustedCircuit := false }) := by
  refine (request_reported_iff Wire.wire_lawful sampleDiscover_decode).mpr ?_
  rintro ⟨-, hbare⟩
  have hoff : sampleArgsVss.enableOption82 = false :=
    ((passesBare_of_firstRelay rfl).mp hbare).2
  exact absurd hoff (by decide)

/-- The setting with VSS on and the insertion of Option 82 off. -/
def sampleArgsVssOnly : RequestArgs := { sampleArgsVss with enableOption82 := false }

/-- There the same packet goes to the server without VSS, and with the note that it has it. -/
theorem sampleDiscover_misreported :
    Wire.wire.Lawful ∧ sampleArgsVssOnly.VssOn { enabled := true }
      ∧ sampleArgsVssOnly.circuitId.isSome
      ∧ Wire.wire.decode (Wire.writeMessage sampleDiscover) = .ok sampleDiscover
      ∧ sampleDiscover.giaddr = .unspecified ∧ sampleDiscover.option82 = none
      ∧ ¬ ReportsTruly Wire.wire sampleArgsVssOnly sampleDiscover
          ((buildRequest Wire.wire sampleArgsVssOnly).execute
            { PipelineContext.new (Wire.writeMessage sampleDiscover) sampleClient "eth0" with
              isTrustedCircuit := false }) := by
  have hon : sampleArgsVssOnly.VssOn { enabled := true } := ⟨rfl, rfl, rfl⟩
  have hbare : sampleArgsVssOnly.PassesBare sampleDiscover :=
    (passesBare_of_firstRelay rfl).mpr ⟨rfl, rfl⟩
  exact ⟨Wire.wire_lawful, hon, rfl, sampleDiscover_decode, rfl, rfl,
    request_misreported Wire.wire_lawful sampleDiscover_decode hon hbare⟩

end DhcpRelay.V4
