import DhcpRelay.Dhcproto.V4Wire
import DhcpRelay.V4.Meaning

/-!
# DhcpRelay.V4.ReplyCorrect

**What becomes of a reply.** The reply pipeline lets a packet through exactly when
its Option 82 echoes the expected sub-options, if any are expected, and then the
client gets the message without Option 82. Otherwise the packet is left as it came.
-/

namespace DhcpRelay.V4

open DhcpRelay.Library

/-- The Option 82 of the message is the echo that is expected, if one is. -/
def EchoMatches (expected : Option (List Option82.SubOption)) (msg : Message) : Prop :=
  ∀ sent ∈ expected, msg.option82.map Option82.subOpts = some sent

theorem echoMatches_none (msg : Message) : EchoMatches none msg := by
  intro sent h
  simp at h

theorem echoMatches_some_iff {sent : List Option82.SubOption} {msg : Message} :
    EchoMatches (some sent) msg ↔ msg.option82.map Option82.subOpts = some sent := by
  simp [EchoMatches]

/-! ### The strip stage -/

section Strip

variable {expected : Option (List Option82.SubOption)} {msg : Message}

theorem stripEdit_of_match (h : EchoMatches expected msg) :
    stripEdit expected msg = (.ok (), msg.withoutOption82) := by
  cases expected with
  | none => rw [stripEdit, ← Option82.strip_snd]
  | some sent =>
      have hecho := echoMatches_some_iff.mp h
      cases h82 : msg.option82 with
      | none => simp [h82] at hecho
      | some info =>
          have hsent : Option82.validateEcho (Option82.subOpts info) sent = true :=
            Option82.validateEcho_iff.mpr (by simpa [h82] using hecho)
          simp [stripEdit, Message.get?_option82, h82, hsent, Option82.strip_snd]

theorem stripEdit_of_mismatch (h : ¬ EchoMatches expected msg) :
    stripEdit expected msg = (.error .option82Mismatch, msg) := by
  cases expected with
  | none => exact absurd (echoMatches_none msg) h
  | some sent =>
      rw [echoMatches_some_iff] at h
      cases h82 : msg.option82 with
      | none => simp [stripEdit, Message.get?_option82, h82]
      | some info =>
          have hsent : Option82.validateEcho (Option82.subOpts info) sent = false := by
            rw [← Bool.not_eq_true, Option82.validateEcho_iff]
            simpa [h82] using h
          simp [stripEdit, Message.get?_option82, h82, hsent]

end Strip

/-! ### The whole chain -/

section Runs

variable {expected : Option (List Option82.SubOption)} {vssConfig : Option VssConfig}
  {msg : Message} {t : Bool}

/-- Parsing and the VSS check do nothing to the message. -/
theorem execute_replyMeaning (v : View Message) :
    Stages.execute (replyMeaning expected vssConfig true) v
      = Stages.execute [onOption82Strip expected, onReplyAddr] v := by
  cases vssConfig with
  | none => rfl
  | some cfg => rfl

theorem run_of_match (h : EchoMatches expected msg) :
    Stages.execute (replyMeaning expected vssConfig true) (View.fresh msg t)
      = (.ok true, { View.fresh msg t with
          msg := msg.withoutOption82
          dstAddr := some (replyAddr msg) }) := by
  have hstrip : onOption82Strip expected (View.fresh msg t)
      = (.ok true, { View.fresh msg t with msg := msg.withoutOption82 }) :=
    ViewStage.editThen_ok (v := View.fresh msg t) (stripEdit_of_match h) id
  rw [execute_replyMeaning, Stages.execute_cons_pass hstrip, Stages.execute_singleton]
  rfl

/-- With Option 82 off nothing is checked and nothing is stripped. -/
theorem run_of_unstripped :
    Stages.execute (replyMeaning expected vssConfig false) (View.fresh msg t)
      = (.ok true, { View.fresh msg t with dstAddr := some (replyAddr msg) }) := by
  cases vssConfig with
  | none => rfl
  | some cfg => rfl

theorem run_of_mismatch (h : ¬ EchoMatches expected msg) :
    Stages.execute (replyMeaning expected vssConfig true) (View.fresh msg t)
      = (.error .option82Mismatch, View.fresh msg t) := by
  have hstrip : onOption82Strip expected (View.fresh msg t)
      = (.error .option82Mismatch, View.fresh msg t) :=
    ViewStage.editThen_error (v := View.fresh msg t) (stripEdit_of_mismatch h) id
  rw [execute_replyMeaning, Stages.execute_cons_fail hstrip]

end Runs

section

variable {proto : Codec} {expected : Option (List Option82.SubOption)}
  {vssConfig : Option VssConfig} {raw : Bytes} {msg : Message} {src : SocketAddr}
  {interface : String} {t : Bool}

/-- The reply pipeline on a fresh packet, as its meaning on the message. -/
theorem reply_sees (hc : proto.Lawful) (hdec : proto.decode raw = .ok msg) {on : Bool}
    {result : RelayResult Bool} {v : View Message}
    (hrun : Stages.execute (replyMeaning expected vssConfig on) (View.fresh msg t)
      = (result, v)) :
    ((buildReply proto expected vssConfig on).execute
        { PipelineContext.new raw src interface with isTrustedCircuit := t }).1 = result
      ∧ Sees proto ((buildReply proto expected vssConfig on).execute
        { PipelineContext.new raw src interface with isTrustedCircuit := t }).2 v := by
  have h := Means.execute (buildReply_means hc expected vssConfig on)
    (Sees.fresh hdec src interface t)
  rw [hrun] at h
  exact h

/-- With Option 82 off a reply reaches the client as it came. -/
theorem reply_of_unstripped (hc : proto.Lawful) (hdec : proto.decode raw = .ok msg) :
    Delivers proto ((buildReply proto expected vssConfig false).execute
      { PipelineContext.new raw src interface with isTrustedCircuit := t })
      (replyAddr msg) msg :=
  have hsees := reply_sees hc hdec run_of_unstripped
  .of_sees hsees.1 rfl hsees.2

/-- A reply with the right echo reaches the client without Option 82. -/
theorem reply_of_match (hc : proto.Lawful) (hdec : proto.decode raw = .ok msg)
    (h : EchoMatches expected msg) :
    Delivers proto ((buildReply proto expected vssConfig true).execute
      { PipelineContext.new raw src interface with isTrustedCircuit := t })
      (replyAddr msg) msg.withoutOption82 :=
  have hsees := reply_sees hc hdec (run_of_match h)
  .of_sees hsees.1 rfl hsees.2

/-- A reply with a wrong echo, or none, is rejected and left as it came. -/
theorem reply_of_mismatch (hc : proto.Lawful) (hdec : proto.decode raw = .ok msg)
    (h : ¬ EchoMatches expected msg) :
    ((buildReply proto expected vssConfig true).execute
        { PipelineContext.new raw src interface with isTrustedCircuit := t }).1
          = .error .option82Mismatch
      ∧ Untouched proto ((buildReply proto expected vssConfig true).execute
        { PipelineContext.new raw src interface with isTrustedCircuit := t }) msg :=
  have hsees := reply_sees hc hdec (run_of_mismatch h)
  ⟨hsees.1, .of_sees hsees.2⟩

/-- **The reply pipeline.** With an expected echo it passes the packet exactly when
the echo is right, and otherwise leaves it alone; without one it always passes it.
What is passed on has no Option 82, is otherwise the message received, and goes to
the client or to everyone. -/
theorem reply_pipeline (hc : proto.Lawful) (hdec : proto.decode raw = .ok msg) :
    let ctx := { PipelineContext.new raw src interface with isTrustedCircuit := t }
    let run := fun expected => (buildReply proto expected vssConfig true).execute ctx
    (∀ sent, ((run (some sent)).1 = .ok true ↔
        ∃ info, msg.option82 = some info ∧ Option82.subOpts info = sent))
      ∧ (∀ sent, (run (some sent)).1 ≠ .ok true →
          (run (some sent)).1 = .error .option82Mismatch
            ∧ (run (some sent)).2.dstAddr = none
            ∧ proto.decode (run (some sent)).2.buffer = .ok msg)
      ∧ (run none).1 = .ok true
      ∧ (∀ expected, (run expected).1 = .ok true →
          (∃ msg', proto.decode (run expected).2.buffer = .ok msg'
            ∧ msg'.option82 = none ∧ msg.AgreesOutside82 msg')
          ∧ (run expected).2.dstAddr =
              some (if msg.ciaddr ≠ .unspecified then .new (.v4 msg.ciaddr) 68
                else .new (.v4 .broadcast) 68)) := by
  intro ctx run
  have hmatch : ∀ expected, EchoMatches expected msg →
      Delivers proto (run expected) (replyAddr msg) msg.withoutOption82 :=
    fun expected h => reply_of_match hc hdec h
  have hmismatch : ∀ expected, ¬ EchoMatches expected msg →
      (run expected).1 = .error .option82Mismatch ∧ Untouched proto (run expected) msg :=
    fun expected h => reply_of_mismatch hc hdec h
  have hpassed : ∀ expected, (run expected).1 = .ok true → EchoMatches expected msg := by
    intro expected h
    by_contra hbad
    rw [(hmismatch expected hbad).1] at h
    simp at h
  refine ⟨?_, ?_, (hmatch none (echoMatches_none msg)).passed, ?_⟩
  · intro sent
    rw [← Option.map_eq_some_iff, ← echoMatches_some_iff]
    exact ⟨hpassed _, fun h => (hmatch _ h).passed⟩
  · intro sent h
    have hbad : ¬ EchoMatches (some sent) msg := fun hok => h (hmatch _ hok).passed
    obtain ⟨herr, huntouched⟩ := hmismatch _ hbad
    exact ⟨herr, huntouched.dstAddr, huntouched.buffer⟩
  · intro expected h
    have hout := hmatch expected (hpassed expected h)
    exact ⟨⟨msg.withoutOption82, hout.buffer, Message.option82_withoutOption82 msg,
      msg.agrees_withoutOption82⟩, hout.dstAddr⟩

end

/-- An offer that echoes a circuit id. -/
def sampleOffer : Message where
  opcode := .bootReply
  opts := (KeyedMap.empty.insert (.messageType .offer)).insert
    (.relayAgentInformation (KeyedMap.empty.insert (.agentCircuitId [7])))

theorem sampleOffer_passes :
    ((buildReply Wire.wire (some [⟨1, [7]⟩]) none true).execute
      { PipelineContext.new (Wire.writeMessage sampleOffer) (.new (.v4 ⟨192, 0, 2, 1⟩) 67)
          "eth0" with isTrustedCircuit := false }).1 = .ok true :=
  ((reply_pipeline Wire.wire_lawful (Wire.decode_writeMessage (by decide +kernel))).1 _).mpr
    ⟨_, rfl, rfl⟩

end DhcpRelay.V4
