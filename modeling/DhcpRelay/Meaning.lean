import DhcpRelay.Pipeline

/-!
# DhcpRelay.Meaning

**Pipelines on messages.** A stage decodes the buffer, edits the message and
encodes it again; under a lawful codec all that decoding and encoding is
invisible. A `View` is a context whose buffer has been read, `Sees` relates the
two, and a stage *means* a function on views if it simulates it.

The claims about a pipeline are then claims about its meaning, where a packet is
a message from beginning to end. `Means.execute` carries them back to the bytes.
-/

namespace DhcpRelay

open DhcpRelay.Library

/-- A context with its buffer read as a message. -/
structure View (M : Type) where
  msg : M
  dstAddr : Option SocketAddr
  isReforwarded : Bool
  isTrustedCircuit : Bool
  metadata : Metadata

namespace View

variable {M : Type}

/-- The view of a packet that has just arrived. -/
def fresh (msg : M) (isTrustedCircuit : Bool) : View M where
  msg := msg
  dstAddr := none
  isReforwarded := false
  isTrustedCircuit := isTrustedCircuit
  metadata := fun _ => none

/-- Put a note into the metadata. -/
def note (v : View M) (name value : String) : View M :=
  { v with metadata := v.metadata.insert name value }

/-- Apply an edit to the message; a failing edit has no effect. -/
def edit (f : M → RelayResult Unit × M) (v : View M) : RelayResult Unit × View M :=
  match f v.msg with
  | (.error e, _) => (.error e, v)
  | (.ok (), msg) => (.ok (), { v with msg := msg })

end View

/-- The context `ctx` reads as the view `v`. -/
structure Sees {M : Type} (codec : Codec M) (ctx : PipelineContext) (v : View M) : Prop where
  decode : codec.decode ctx.buffer = .ok v.msg
  dstAddr : ctx.dstAddr = v.dstAddr
  isReforwarded : ctx.isReforwarded = v.isReforwarded
  isTrustedCircuit : ctx.isTrustedCircuit = v.isTrustedCircuit
  metadata : ctx.metadata = v.metadata

/-- What a stage does, read on views. -/
abbrev ViewStage (M : Type) := Stage (View M) RelayError

/-- The stage that lets everything through. -/
def ViewStage.pass {M : Type} : ViewStage M := fun v => (.ok true, v)

/-- Edit the message and, if that succeeds, update the view and go on. -/
def ViewStage.editThen {M : Type} (f : M → RelayResult Unit × M) (after : View M → View M) :
    ViewStage M := fun v =>
  match v.edit f with
  | (.error e, v) => (.error e, v)
  | (.ok (), v) => (.ok true, after v)

namespace ViewStage

variable {M : Type} {f : M → RelayResult Unit × M} {v : View M} {msg : M}

/-- An edit that succeeds is followed by the update. -/
theorem editThen_ok (h : f v.msg = (.ok (), msg)) (after : View M → View M) :
    editThen f after v = (.ok true, after { v with msg := msg }) := by
  rw [editThen, View.edit, h]

/-- Where the chain goes on after an edit, the edit has succeeded. -/
theorem editThen_inv {after : View M → View M} {v' : View M}
    (h : editThen f after v = (.ok true, v')) :
    ∃ msg, f v.msg = (.ok (), msg) ∧ v' = after { v with msg := msg } := by
  rcases hf : f v.msg with ⟨e | ⟨⟨⟩⟩, msg⟩
  · rw [editThen, View.edit, hf] at h
    simp at h
  · rw [editThen_ok hf] at h
    exact ⟨msg, rfl, (congrArg Prod.snd h).symm⟩

/-- An edit that fails leaves the view as it is. -/
theorem editThen_error {e : RelayError} (h : f v.msg = (.error e, msg))
    (after : View M → View M) : editThen f after v = (.error e, v) := by
  rw [editThen, View.edit, h]

end ViewStage

/-- The stage `stage` does to contexts what `g` does to the views they read as. -/
def Means {M : Type} (codec : Codec M) (stage : PipelineStage) (g : ViewStage M) : Prop :=
  Stages.Simulates (Sees codec) stage.process g

section

variable {M : Type} {codec : Codec M} {ctx : PipelineContext} {v : View M}

/-- A fresh context reads as the fresh view of its message. -/
theorem Sees.fresh {raw : Bytes} {msg : M} (h : codec.decode raw = .ok msg) (src : SocketAddr)
    (interface : String) (isTrustedCircuit : Bool) :
    Sees codec { PipelineContext.new raw src interface with isTrustedCircuit }
      (View.fresh msg isTrustedCircuit) where
  decode := h
  dstAddr := rfl
  isReforwarded := rfl
  isTrustedCircuit := rfl
  metadata := rfl

/-- A note in the context is a note in the view. -/
theorem Sees.note (h : Sees codec ctx v) (name value : String) :
    Sees codec { ctx with metadata := ctx.metadata.insert name value } (v.note name value) where
  decode := h.decode
  dstAddr := h.dstAddr
  isReforwarded := h.isReforwarded
  isTrustedCircuit := h.isTrustedCircuit
  metadata := congrArg (fun bag : Metadata => bag.insert name value) h.metadata

/-- **Decoding and encoding are invisible**: under a lawful codec, `modify` is `edit`. -/
theorem modify_sees (hc : codec.Lawful) (h : Sees codec ctx v) (stage : String)
    (f : M → RelayResult Unit × M) :
    (ctx.modify codec stage f).1 = (v.edit f).1
      ∧ Sees codec (ctx.modify codec stage f).2 (v.edit f).2 := by
  rw [PipelineContext.modify, View.edit, h.decode]
  dsimp only
  rcases f v.msg with ⟨_ | ⟨⟨⟩⟩, msg⟩
  · exact ⟨rfl, h⟩
  · obtain ⟨bytes, henc, hdec⟩ := hc.decode_encode msg
    dsimp only
    rw [henc]
    exact ⟨rfl, hdec, h.dstAddr, h.isReforwarded, h.isTrustedCircuit, h.metadata⟩

/-- The common shape of a stage that edits: `ctx.modify(..)?`, an update of the
context, `Ok(true)`. -/
theorem modify_then_sees (hc : codec.Lawful) (h : Sees codec ctx v) {stage : String}
    {f : M → RelayResult Unit × M} (done : PipelineContext → PipelineContext)
    {after : View M → View M} (hafter : ∀ ctx v, Sees codec ctx v → Sees codec (done ctx) (after v))
    {result : RelayResult Bool × PipelineContext}
    (hresult : result =
      match ctx.modify codec stage f with
      | (.error e, ctx) => (.error e, ctx)
      | (.ok (), ctx) => (.ok true, done ctx)) :
    result.1 = (ViewStage.editThen f after v).1
      ∧ Sees codec result.2 (ViewStage.editThen f after v).2 := by
  obtain ⟨hout, hsees⟩ := modify_sees hc h stage f
  rw [hresult, ViewStage.editThen]
  rcases hm : ctx.modify codec stage f with ⟨out, ctx'⟩
  rcases he : v.edit f with ⟨out', v'⟩
  rw [hm, he] at hout hsees
  obtain rfl : out = out' := hout
  match out with
  | .error e => exact ⟨rfl, hsees⟩
  | .ok () => exact ⟨rfl, hafter ctx' v' hsees⟩

/-- A pipeline whose stages have meanings has the meaning of the whole chain. -/
theorem Means.execute {pipeline : Pipeline} {meaning : List (ViewStage M)}
    (hmeans : List.Forall₂ (Means codec) pipeline.stages meaning) (h : Sees codec ctx v) :
    (pipeline.execute ctx).1 = (Stages.execute meaning v).1
      ∧ Sees codec (pipeline.execute ctx).2 (Stages.execute meaning v).2 := by
  have hsim : List.Forall₂ (Stages.Simulates (Sees codec))
      (pipeline.stages.map PipelineStage.process) meaning :=
    List.forall₂_map_left_iff.mpr hmeans
  exact Stages.execute_simulates hsim ctx v h

end

/-! ### Outcomes -/

/-- The packet was let through to `dest`, as the message `msg`. -/
structure Delivers {M : Type} (codec : Codec M) (out : RelayResult Bool × PipelineContext)
    (dest : SocketAddr) (msg : M) : Prop where
  passed : out.1 = .ok true
  dstAddr : out.2.dstAddr = some dest
  buffer : codec.decode out.2.buffer = .ok msg

/-- Nothing was done to the packet, which still reads as `msg`. -/
structure Untouched {M : Type} (codec : Codec M) (out : RelayResult Bool × PipelineContext)
    (msg : M) : Prop where
  dstAddr : out.2.dstAddr = none
  metadata : out.2.metadata = fun _ => none
  buffer : codec.decode out.2.buffer = .ok msg

section

variable {M : Type} {codec : Codec M} {out : RelayResult Bool × PipelineContext} {v : View M}

theorem Delivers.of_sees {dest : SocketAddr} (hpassed : out.1 = .ok true)
    (hdst : v.dstAddr = some dest) (h : Sees codec out.2 v) : Delivers codec out dest v.msg where
  passed := hpassed
  dstAddr := h.dstAddr.trans hdst
  buffer := h.decode

/-- A packet is delivered as one message only. -/
theorem Delivers.msg_unique {dest dest' : SocketAddr} {msg msg' : M}
    (h : Delivers codec out dest msg) (h' : Delivers codec out dest' msg') : msg = msg' :=
  Except.ok.inj (h.buffer.symm.trans h'.buffer)

theorem Untouched.of_sees {msg : M} {t : Bool} (h : Sees codec out.2 (View.fresh msg t)) :
    Untouched codec out msg where
  dstAddr := h.dstAddr
  metadata := h.metadata
  buffer := h.decode

end

end DhcpRelay
