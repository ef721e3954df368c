import DhcpRelay.Dhcproto.V4Wire
import DhcpRelay.V4.Request

/-!
# DhcpRelay.V4.RequestCorrect

**What becomes of a request**, by the giaddr decision it gets. All results are
about the request pipeline on the bytes of a packet, for every codec that obeys
the law.

Two of them state a defect together with its exact extent: the VSS stage does not
ask whether a packet is reforwarded, and the Option 82 stage does not ask whether
a trusted circuit has put an Option 82 there already.
-/

namespace DhcpRelay.V4

open DhcpRelay.Library

/-! ### A sample setting -/

def sampleArgs : RequestArgs where
  localAddrs := [⟨10, 0, 0, 1⟩]
  circuitId := some [101, 116, 104]
  remoteId := none
  ifaceIp := ⟨10, 0, 0, 1⟩
  serverAddr := .new (.v4 ⟨192, 0, 2, 1⟩) 67
  vssConfig := none
  enableOption82 := true

/-- The setting with the global VSS switched on. -/
def sampleArgsVss : RequestArgs := { sampleArgs with vssConfig := some { enabled := true } }

def sampleClient : SocketAddr := .new (.v4 ⟨10, 0, 0, 7⟩) 68

/-- A discover as a client sends it. -/
def sampleDiscover : Message where
  xid := 7
  opts := KeyedMap.empty.insert (.messageType .discover)

theorem sampleDiscover_decode :
    Wire.wire.decode (Wire.writeMessage sampleDiscover) = .ok sampleDiscover :=
  Wire.decode_writeMessage (by decide +kernel)

/-- A discover that has an Option 82 already. -/
def sampleTagged : Message :=
  sampleDiscover.withOption82 (KeyedMap.empty.insert (.agentCircuitId [7]))

/-- A discover that another relay has passed on. -/
def sampleReforwarded : Message := sampleTagged.setGiaddr ⟨10, 0, 0, 9⟩

theorem sampleReforwarded_decode :
    Wire.wire.decode (Wire.writeMessage sampleReforwarded) = .ok sampleReforwarded :=
  Wire.decode_writeMessage (by decide +kernel)

section

variable {proto : Codec} {args : RequestArgs} {raw : Bytes} {msg : Message} {src : SocketAddr}
  {interface : String} {t : Bool}

/-- The request pipeline on a fresh packet, as its meaning on the message. -/
theorem request_sees (hc : proto.Lawful) (hdec : proto.decode raw = .ok msg)
    {result : RelayResult Bool} {v : View Message}
    (hrun : Stages.execute (requestMeaning args) (View.fresh msg t) = (result, v)) :
    ((buildRequest proto args).execute
        { PipelineContext.new raw src interface with isTrustedCircuit := t }).1 = result
      ∧ Sees proto ((buildRequest proto args).execute
        { PipelineContext.new raw src interface with isTrustedCircuit := t }).2 v := by
  have h := Means.execute (buildRequest_means hc args) (Sees.fresh hdec src interface t)
  rw [hrun] at h
  exact h

/-- A packet that runs through is delivered. -/
theorem request_delivers (hc : proto.Lawful) (hdec : proto.decode raw = .ok msg) {v : View Message}
    (hrun : Stages.execute (requestMeaning args) (View.fresh msg t) = (.ok true, v))
    {dest : SocketAddr} (hdst : v.dstAddr = some dest) :
    Delivers proto ((buildRequest proto args).execute
      { PipelineContext.new raw src interface with isTrustedCircuit := t }) dest v.msg :=
  have h := request_sees hc hdec hrun
  .of_sees h.1 hdst h.2

/-- What is let through is delivered to the server, as the relayed message. -/
theorem request_relays (hc : proto.Lawful) (hvss : args.VssAccepted)
    (hdec : proto.decode raw = .ok msg) (h : args.Relays t msg) :
    Delivers proto ((buildRequest proto args).execute
      { PipelineContext.new raw src interface with isTrustedCircuit := t }) args.serverAddr
        (args.relayed msg) := by
  obtain ⟨v, hrun, hdst, hmsg⟩ := run_of_relays hvss h
  exact hmsg ▸ request_delivers hc hdec hrun hdst

/-- A packet whose run ends otherwise is not delivered. -/
theorem request_not_delivered (hc : proto.Lawful) (hdec : proto.decode raw = .ok msg)
    {result : RelayResult Bool} {v : View Message}
    (hrun : Stages.execute (requestMeaning args) (View.fresh msg t) = (result, v))
    (hresult : result ≠ .ok true) {dest : SocketAddr} {msg' : Message} :
    ¬ Delivers proto ((buildRequest proto args).execute
      { PipelineContext.new raw src interface with isTrustedCircuit := t }) dest msg' := by
  intro h
  exact hresult ((request_sees hc hdec hrun).1.symm.trans h.passed)

/-- A packet stopped at the gate is left as it came. -/
theorem request_stops (hc : proto.Lawful) (hdec : proto.decode raw = .ok msg)
    {result : RelayResult Bool}
    (hstop : Stages.execute (admission args) (View.fresh msg t) = (result, View.fresh msg t))
    (hresult : result ≠ .ok true) :
    ((buildRequest proto args).execute
        { PipelineContext.new raw src interface with isTrustedCircuit := t }).1 = result
      ∧ Untouched proto ((buildRequest proto args).execute
        { PipelineContext.new raw src interface with isTrustedCircuit := t }) msg :=
  have h := request_sees hc hdec (run_of_stopped hstop hresult)
  ⟨h.1, .of_sees h.2⟩

/-- A first relay that is to insert Option 82, but has no id to put there, refuses. -/
theorem request_of_no_ids (hc : proto.Lawful) (hdec : proto.decode raw = .ok msg)
    (hon : args.enableOption82 = true) (hids : args.circuitId = none ∧ args.remoteId = none)
    (hg : msg.giaddr = .unspecified) (h82 : msg.option82 = none) :
    ∃ text, ((buildRequest proto args).execute
      { PipelineContext.new raw src interface with isTrustedCircuit := t }).1
        = .error (.config text) := by
  obtain ⟨text, hrun⟩ : ∃ text, Stages.execute (requestMeaning args) (View.fresh msg t)
      = (.error (.config text), View.fresh msg t) := run_of_firstRelay_refused hon hids hg h82
  exact ⟨text, (request_sees hc hdec hrun).1⟩

/-- What becomes of a packet that is not let through, from an untrusted circuit. -/
theorem request_dropped (hc : proto.Lawful) (hdec : proto.decode raw = .ok msg)
    (h : ¬ args.Relays false msg) (src : SocketAddr) (interface : String) :
    let out := (buildRequest proto args).execute (.new raw src interface)
    (msg.giaddr = .unspecified ∧ msg.option82.isSome = true ∧ out.1 = .ok false)
      ∨ (msg.giaddr = .unspecified ∧ msg.option82 = none ∧ args.enableOption82 = true
        ∧ ∃ text, out.1 = .error (.config text))
      ∨ (msg.giaddr ≠ .unspecified ∧ ∃ text, out.1 = .error (.giaddrSpoof text)) := by
  intro out
  have hout : ∀ {result : RelayResult Bool}, Stages.execute (requestMeaning args)
      (View.fresh msg false) = (result, View.fresh msg false) → out.1 = result :=
    fun hrun => (request_sees hc hdec hrun).1
  unfold RequestArgs.Relays at h
  split at h
  · next hg =>
      split at h
      · next h82 =>
          have hstop : Stages.execute (admission args) (View.fresh msg false)
              = (.ok false, View.fresh msg false) := admission_of_untrustedCircuit hg h82 rfl
          exact .inl ⟨hg, h82, hout (run_of_stopped hstop (by simp))⟩
      · next hfresh =>
          have h82 : msg.option82 = none := by simpa using hfresh
          obtain ⟨hon, hids⟩ := Classical.not_imp.mp h
          have hrefused : ∃ text, out.1 = .error (.config text) :=
            request_of_no_ids hc hdec hon (by simpa using hids) hg h82
          exact .inr (.inl ⟨hg, h82, hon, hrefused⟩)
  · next hg =>
      obtain ⟨text, hstop⟩ : ∃ text, Stages.execute (admission args) (View.fresh msg false)
          = (.error (.giaddrSpoof text), View.fresh msg false) :=
        admission_of_spoof hg (not_not.mp h)
      exact .inr (.inr ⟨hg, text, hout (run_of_stopped hstop (by simp))⟩)

/-- A context whose buffer does not decode is left as it came. -/
theorem request_of_undecodable {ctx : PipelineContext} {e : String}
    (hdec : proto.decode ctx.buffer = .error e) :
    ∃ text, (buildRequest proto args).execute ctx = (.error (.parse text), ctx) := by
  have hmodify := PipelineContext.modify_of_decode_error hdec (parseStage proto).name
    (fun msg => (.ok (), msg))
  have hparse : ∃ text, (parseStage proto).process ctx = (.error (.parse text), ctx) :=
    ⟨_, by simp only [parseStage, PipelineContext.modifyV4] at hmodify ⊢; rw [hmodify]⟩
  obtain ⟨text, hparse⟩ := hparse
  exact ⟨text, Stages.execute_cons_fail hparse _⟩

/-- Whatever is let through was admitted, and has the giaddr it should have. -/
theorem request_passed (hc : proto.Lawful)
    (h : ((buildRequest proto args).execute
      { PipelineContext.new raw src interface with isTrustedCircuit := t }).1 = .ok true) :
    ∃ msg msg', proto.decode raw = .ok msg
      ∧ proto.decode ((buildRequest proto args).execute
          { PipelineContext.new raw src interface with isTrustedCircuit := t }).2.buffer = .ok msg'
      ∧ ¬ (msg.giaddr ≠ .unspecified ∧ msg.giaddr ∈ args.localAddrs)
      ∧ msg'.giaddr = if msg.giaddr = .unspecified then args.ifaceIp else msg.giaddr := by
  let ctx := { PipelineContext.new raw src interface with isTrustedCircuit := t }
  cases hdec : proto.decode raw with
  | error e =>
      obtain ⟨text, hout⟩ : ∃ text, (buildRequest proto args).execute ctx
          = (.error (.parse text), ctx) := request_of_undecodable hdec
      rw [hout] at h
      simp at h
  | ok msg =>
      rcases hrun : Stages.execute (requestMeaning args) (View.fresh msg t) with ⟨result, v⟩
      have hsees : ((buildRequest proto args).execute ctx).1 = result
          ∧ Sees proto ((buildRequest proto args).execute ctx).2 v := request_sees hc hdec hrun
      obtain rfl : result = .ok true := hsees.1.symm.trans h
      exact ⟨msg, v.msg, rfl, hsees.2.decode, run_giaddr hrun⟩

/-- What the stage lets through holds the encoding of a message, if what it was given
does. -/
def KeepsEncoded (proto : Codec) (stage : PipelineStage) : Prop :=
  ∀ ctx ctx', stage.process ctx = (.ok true, ctx') →
    (∃ msg, proto.encode msg = .ok ctx.buffer) → ∃ msg, proto.encode msg = .ok ctx'.buffer

theorem parseStage_encodes {ctx ctx' : PipelineContext}
    (h : (parseStage proto).process ctx = (.ok true, ctx')) :
    ∃ msg, proto.encode msg = .ok ctx'.buffer :=
  PipelineContext.modify_then_encodes id (fun _ => rfl) rfl h

theorem validateStage_keepsEncoded : KeepsEncoded proto (validateStage proto args.localAddrs) := by
  intro ctx ctx' h hctx
  have hbuffer : ((validateStage proto args.localAddrs).process ctx).2.buffer = ctx.buffer := by
    simp only [validateStage]
    split
    · rfl
    · split <;> rfl
  rw [h] at hbuffer
  exact hbuffer ▸ hctx

theorem option82InsertStage_keepsEncoded :
    KeepsEncoded proto (option82InsertStage proto args.circuitId args.remoteId) := by
  intro ctx ctx' h hctx
  simp only [option82InsertStage] at h
  split at h
  · obtain rfl : ctx = ctx' := congrArg Prod.snd h
    exact hctx
  · exact PipelineContext.modify_then_encodes (fun ctx =>
      { ctx with metadata := ctx.metadata.insert "option82_inserted" "true" }) (fun _ => rfl) rfl h

theorem vssInsertStage_keepsEncoded (cfg : VssConfig) :
    KeepsEncoded proto (vssInsertStage proto cfg) := by
  intro ctx ctx' h hctx
  simp only [vssInsertStage] at h
  split at h
  · obtain rfl : ctx = ctx' := congrArg Prod.snd h
    exact hctx
  · split at h
    · simp at h
    · exact PipelineContext.modify_then_encodes (fun ctx =>
        { ctx with metadata := ctx.metadata.insert "vss_inserted" "true" }) (fun _ => rfl) rfl h

theorem giaddrStage_keepsEncoded : KeepsEncoded proto (giaddrStage proto args.ifaceIp) := by
  intro ctx ctx' h hctx
  simp only [giaddrStage] at h
  split at h
  · obtain rfl : ctx = ctx' := congrArg Prod.snd h
    exact hctx
  · exact PipelineContext.modify_then_encodes id (fun _ => rfl) rfl h

/-- **What is let through is an encoding**: the parse stage writes one, and so does every
stage that changes the buffer. -/
theorem request_encodes {ctx ctx' : PipelineContext}
    (h : (buildRequest proto args).execute ctx = (.ok true, ctx')) :
    ∃ msg, proto.encode msg = .ok ctx'.buffer := by
  have hkeeps : ∀ stage ∈ (buildRequest proto args).stages, KeepsEncoded proto stage := by
    rw [buildRequest_stages]
    intro stage hstage
    rcases List.mem_append.mp hstage with hedit | hlast
    · exact forall_requestEdits (fun _ _ h _ => parseStage_encodes h) validateStage_keepsEncoded
        option82InsertStage_keepsEncoded vssInsertStage_keepsEncoded giaddrStage_keepsEncoded
        stage hedit
    · obtain rfl := List.mem_singleton.mp hlast
      intro ctx ctx' h hctx
      obtain rfl : { ctx with dstAddr := some args.serverAddr } = ctx' := congrArg Prod.snd h
      exact hctx
  have hstages : (buildRequest proto args).stages.map PipelineStage.process
      = [(parseStage proto).process]
        ++ (buildRequest proto args).stages.tail.map PipelineStage.process := rfl
  rw [Pipeline.execute, hstages] at h
  obtain ⟨parsed, hparse, hrest⟩ := Stages.execute_append_inv h
  rw [Stages.execute_singleton] at hparse
  refine Stages.execute_keeps (I := fun ctx => ∃ msg, proto.encode msg = .ok ctx.buffer)
    ?_ hrest (parseStage_encodes hparse)
  intro f hf s s' hstep hs
  obtain ⟨stage, hstage, rfl⟩ := List.mem_map.mp hf
  exact hkeeps stage (List.mem_of_mem_tail hstage) s s' hstep hs

/-- A delivered request is the encoding of the message it reads as. -/
theorem request_encoded (hc : proto.Lawful) {ctx : PipelineContext} {dest : SocketAddr}
    (h : Delivers proto ((buildRequest proto args).execute ctx) dest msg) :
    proto.encode msg = .ok ((buildRequest proto args).execute ctx).2.buffer := by
  obtain ⟨msg', hencode⟩ : ∃ msg',
      proto.encode msg' = .ok ((buildRequest proto args).execute ctx).2.buffer :=
    request_encodes (Prod.ext h.passed rfl)
  obtain ⟨bytes, hbytes, hdec⟩ := hc.decode_encode msg'
  obtain rfl : bytes = ((buildRequest proto args).execute ctx).2.buffer :=
    Except.ok.inj (hbytes.symm.trans hencode)
  obtain rfl : msg' = msg := Except.ok.inj (hdec.symm.trans h.buffer)
  exact hencode

/-! ### Reforwarded packets -/

/-- A reforwarded packet arrives at the server as the stamped message. -/
theorem request_of_reforwarded (hc : proto.Lawful) (hvss : args.VssAccepted)
    (hdec : proto.decode raw = .ok msg) (hg : msg.giaddr ≠ .unspecified)
    (hl : msg.giaddr ∉ args.localAddrs) :
    Delivers proto ((buildRequest proto args).execute
      { PipelineContext.new raw src interface with isTrustedCircuit := t })
      args.serverAddr (args.stamp msg) := by
  obtain ⟨bag, hrun⟩ := run_of_reforwarded (t := t) hvss hg hl
  exact request_delivers hc hdec hrun rfl

/-- **A reforwarded packet passes unmodified exactly when the VSS stage has nothing
to write**: VSS is off, or there is no Option 82, or the Option 82 received has the
relay's own two VSS sub-options already. -/
theorem reforwarded_unmodified_iff (hc : proto.Lawful) (hvss : args.VssAccepted)
    (hdec : proto.decode raw = .ok msg) (hg : msg.giaddr ≠ .unspecified)
    (hl : msg.giaddr ∉ args.localAddrs) :
    Delivers proto ((buildRequest proto args).execute
        { PipelineContext.new raw src interface with isTrustedCircuit := t }) args.serverAddr msg
      ↔ ∀ cfg ∈ args.vssConfig, cfg.enabled = true → ∀ info ∈ msg.option82,
          info.get? RelayCode.virtualSubnet = some (Vss.vssInfo (Vss.payload cfg))
            ∧ info.get? RelayCode.virtualSubnetControl = some Vss.vssControl := by
  have hstamped : Delivers proto ((buildRequest proto args).execute
      { PipelineContext.new raw src interface with isTrustedCircuit := t })
      args.serverAddr (args.stamp msg) := request_of_reforwarded hc hvss hdec hg hl
  rw [← RequestArgs.stamp_eq_self_iff]
  constructor
  · intro h
    exact Delivers.msg_unique hstamped h
  · intro h
    rw [h] at hstamped
    exact hstamped

/-- Without VSS the packet of another relay is passed on as it is. -/
theorem sampleReforwarded_unmodified :
    Delivers Wire.wire ((buildRequest Wire.wire sampleArgs).execute
      { PipelineContext.new (Wire.writeMessage sampleReforwarded) sampleClient "eth0" with
        isTrustedCircuit := false }) sampleArgs.serverAddr sampleReforwarded := by
  have hvss : sampleArgs.VssOff := by simp [RequestArgs.VssOff, sampleArgs]
  refine (reforwarded_unmodified_iff Wire.wire_lawful (RequestArgs.vssAccepted_of_off hvss)
    sampleReforwarded_decode (by decide) (by decide)).mpr ?_
  intro cfg hcfg hon
  rw [hvss cfg hcfg] at hon
  exact absurd hon (by decide)

/-- With VSS on it is not: the Option 82 of the other relay is stamped. -/
theorem sampleReforwarded_stamped :
    Wire.wire.Lawful ∧ sampleArgsVss.VssAccepted
      ∧ Wire.wire.decode (Wire.writeMessage sampleReforwarded) = .ok sampleReforwarded
      ∧ sampleReforwarded.giaddr ≠ .unspecified
      ∧ sampleReforwarded.giaddr ∉ sampleArgsVss.localAddrs
      ∧ ¬ Delivers Wire.wire ((buildRequest Wire.wire sampleArgsVss).execute
          { PipelineContext.new (Wire.writeMessage sampleReforwarded) sampleClient "eth0" with
            isTrustedCircuit := false }) sampleArgsVss.serverAddr sampleReforwarded := by
  have hvss : sampleArgsVss.VssAccepted := RequestArgs.vssAccepted_of_valid rfl rfl
  refine ⟨Wire.wire_lawful, hvss, sampleReforwarded_decode, by decide, by decide, fun h => ?_⟩
  have hsame : sampleArgsVss.stamp sampleReforwarded = sampleReforwarded :=
    (request_of_reforwarded Wire.wire_lawful hvss sampleReforwarded_decode (by decide)
      (by decide)).msg_unique h
  exact absurd hsame (by decide)

/-! ### First relays -/

/-- **A packet from a trusted circuit is relayed exactly when Option 82 insertion is
off**: the insertion stage fails on the Option 82 that is there. -/
theorem trustedCircuit_relayed_iff (hc : proto.Lawful) (hvss : args.vssConfig = none)
    (hdec : proto.decode raw = .ok msg) (hg : msg.giaddr = .unspecified)
    (h82 : msg.option82.isSome) :
    Delivers proto ((buildRequest proto args).execute
        { PipelineContext.new raw src interface with isTrustedCircuit := true })
        args.serverAddr (msg.setGiaddr args.ifaceIp)
      ↔ args.enableOption82 = false := by
  have hvssOff : args.VssOff := by simp [RequestArgs.VssOff, hvss]
  constructor
  · intro h
    by_contra hon
    obtain ⟨text, hrun⟩ := run_of_trustedCircuit_refused (by simpa using hon) hg h82
    exact request_not_delivered hc hdec hrun (by simp) h
  · intro hoff
    obtain ⟨bag, hrun⟩ :=
      run_of_plain (RequestArgs.vssAccepted_of_off hvssOff) hoff hg (.inr rfl)
    rw [RequestArgs.stamp_of_off hvssOff] at hrun
    exact request_delivers hc hdec hrun rfl

theorem sampleTagged_relayed_when_off :
    Delivers Wire.wire ((buildRequest Wire.wire { sampleArgs with enableOption82 := false }).execute
      { PipelineContext.new (Wire.writeMessage sampleTagged) sampleClient "eth0" with
        isTrustedCircuit := true })
      sampleArgs.serverAddr (sampleTagged.setGiaddr sampleArgs.ifaceIp) :=
  (trustedCircuit_relayed_iff Wire.wire_lawful rfl (Wire.decode_writeMessage (by decide +kernel))
    rfl rfl).mpr rfl

/-- With Option 82 on, the packet from the trusted circuit is lost. -/
theorem sampleTagged_lost_when_on :
    Wire.wire.Lawful ∧ sampleArgs.vssConfig = none
      ∧ Wire.wire.decode (Wire.writeMessage sampleTagged) = .ok sampleTagged
      ∧ sampleTagged.giaddr = .unspecified ∧ sampleTagged.option82.isSome
      ∧ ¬ Delivers Wire.wire ((buildRequest Wire.wire sampleArgs).execute
          { PipelineContext.new (Wire.writeMessage sampleTagged) sampleClient "eth0" with
            isTrustedCircuit := true })
          sampleArgs.serverAddr (sampleTagged.setGiaddr sampleArgs.ifaceIp) := by
  have hdec : Wire.wire.decode (Wire.writeMessage sampleTagged) = .ok sampleTagged :=
    Wire.decode_writeMessage (by decide +kernel)
  refine ⟨Wire.wire_lawful, rfl, hdec, rfl, rfl, fun h => ?_⟩
  have hon : sampleArgs.enableOption82 = true := rfl
  have hg : sampleTagged.giaddr = .unspecified := rfl
  obtain ⟨text, hrun⟩ := run_of_trustedCircuit_refused hon hg rfl
  exact request_not_delivered Wire.wire_lawful hdec hrun (by simp) h

/-! ### The gate -/

/-- **The anti-spoofing gate.** A spoofed giaddr, an Option 82 from an untrusted
circuit and a buffer that does not decode each stop the packet before anything is
done to it; whatever gets through has the giaddr it should have. -/
theorem antiSpoofing_gate (hc : proto.Lawful) :
    let ctx := { PipelineContext.new raw src interface with isTrustedCircuit := t }
    let out := (buildRequest proto args).execute ctx
    (∀ msg, proto.decode raw = .ok msg → msg.giaddr ≠ .unspecified →
        msg.giaddr ∈ args.localAddrs →
          (∃ text, out.1 = .error (.giaddrSpoof text)) ∧ Untouched proto out msg)
      ∧ (∀ msg, proto.decode raw = .ok msg → msg.giaddr = .unspecified → msg.option82.isSome →
          t = false → out.1 = .ok false ∧ Untouched proto out msg)
      ∧ (∀ e, proto.decode raw = .error e →
          (∃ text, out.1 = .error (.parse text)) ∧ out.2.dstAddr = none
            ∧ (out.2.metadata = fun _ => none) ∧ out.2.buffer = raw)
      ∧ (out.1 = .ok true →
          ∃ msg msg', proto.decode raw = .ok msg ∧ proto.decode out.2.buffer = .ok msg'
            ∧ ¬ (msg.giaddr ≠ .unspecified ∧ msg.giaddr ∈ args.localAddrs)
            ∧ msg'.giaddr
              = if msg.giaddr = .unspecified then args.ifaceIp else msg.giaddr) := by
  intro ctx out
  refine ⟨?spoof, ?untrusted, ?undecodable, ?passed⟩
  case spoof =>
    intro msg hdec hg hl
    obtain ⟨text, hstop⟩ := admission_of_spoof (v := View.fresh msg t) hg hl
    obtain ⟨hout, huntouched⟩ := request_stops hc hdec hstop (by simp)
    exact ⟨⟨text, hout⟩, huntouched⟩
  case untrusted =>
    intro msg hdec hg h82 ht
    have hstop : Stages.execute (admission args) (View.fresh msg t)
        = (.ok false, View.fresh msg t) := admission_of_untrustedCircuit hg h82 ht
    exact request_stops hc hdec hstop (by simp)
  case undecodable =>
    intro e hdec
    obtain ⟨text, hout⟩ : ∃ text, out = (.error (.parse text), ctx) := request_of_undecodable hdec
    rw [hout]
    exact ⟨⟨text, rfl⟩, rfl, rfl, rfl⟩
  case passed =>
    intro hpassed
    exact request_passed hc hpassed

end

/-- A packet that claims to come from this relay. -/
theorem sampleSpoof_stopped :
    let out := (buildRequest Wire.wire sampleArgs).execute
      { PipelineContext.new (Wire.writeMessage (sampleDiscover.setGiaddr ⟨10, 0, 0, 1⟩))
          sampleClient "eth0" with isTrustedCircuit := false }
    (∃ text, out.1 = .error (.giaddrSpoof text))
      ∧ Untouched Wire.wire out (sampleDiscover.setGiaddr ⟨10, 0, 0, 1⟩) :=
  (antiSpoofing_gate Wire.wire_lawful).1 _ (Wire.decode_writeMessage (by decide +kernel))
    (by decide) (by decide)

end DhcpRelay.V4
