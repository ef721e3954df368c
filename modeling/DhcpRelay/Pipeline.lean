import DhcpRelay.Config
import DhcpRelay.Dhcproto.V4
import DhcpRelay.Dhcproto.V6
import DhcpRelay.Library.Stages

/-!
# DhcpRelay.Pipeline

The processing pipeline (`pipeline.rs`): the context a packet is carried in, the
two helpers that decode, edit and re-encode its buffer, and the chain of stages.

A Rust method on `&mut PipelineContext` becomes a function that returns its
result *and* the context it leaves behind, also when the result is an error.
-/

namespace DhcpRelay

open DhcpRelay.Library

/-- The metadata bag: a finite map from names to values. -/
abbrev Metadata := String → Option String

/-- `HashMap::insert`. -/
def Metadata.insert (bag : Metadata) (name value : String) : Metadata :=
  Function.update bag name (some value)

/-- Context passed through each stage of the DHCP processing pipeline. -/
structure PipelineContext where
  rawIn : Bytes
  buffer : Bytes
  srcAddr : SocketAddr
  interface : String
  dstAddr : Option SocketAddr
  isReforwarded : Bool
  isTrustedCircuit : Bool
  metadata : Metadata

namespace PipelineContext

def new (rawIn : Bytes) (srcAddr : SocketAddr) (interface : String) : PipelineContext where
  rawIn := rawIn
  buffer := rawIn
  srcAddr := srcAddr
  interface := interface
  dstAddr := none
  isReforwarded := false
  isTrustedCircuit := false
  metadata := fun _ => none

/-- Decode the buffer, apply `f`, and re-encode back. What `f` did to the message
is lost when it fails. -/
def modify {M : Type} (codec : Codec M) (stage : String) (f : M → RelayResult Unit × M)
    (ctx : PipelineContext) : RelayResult Unit × PipelineContext :=
  match codec.decode ctx.buffer with
  | .error e => (.error (.parse s!"{stage} decode: {e}"), ctx)
  | .ok msg =>
    match f msg with
    | (.error e, _) => (.error e, ctx)
    | (.ok (), msg) =>
      match codec.encode msg with
      | .error e => (.error (.parse s!"{stage} encode: {e}"), ctx)
      | .ok buf => (.ok (), { ctx with buffer := buf })

/-- `modify_v4`. -/
def modifyV4 (ctx : PipelineContext) (proto : V4.Codec) (stage : String)
    (f : V4.Message → RelayResult Unit × V4.Message) : RelayResult Unit × PipelineContext :=
  ctx.modify proto stage f

/-- `modify_v6`. -/
def modifyV6 (ctx : PipelineContext) (proto : V6.Codec) (stage : String)
    (f : V6.Message → RelayResult Unit × V6.Message) : RelayResult Unit × PipelineContext :=
  ctx.modify proto stage f

/-- `modify` does not touch the destination. -/
@[simp] theorem modify_dstAddr {M : Type} (codec : Codec M) (stage : String)
    (f : M → RelayResult Unit × M) (ctx : PipelineContext) :
    (ctx.modify codec stage f).2.dstAddr = ctx.dstAddr := by
  unfold modify
  split
  · rfl
  · split
    · rfl
    · split <;> rfl

/-- Nor does a stage that goes on after `modify` has succeeded. -/
theorem modify_then_dstAddr {M : Type} {codec : Codec M} {ctx : PipelineContext}
    {stage : String} {f : M → RelayResult Unit × M} (done : PipelineContext → PipelineContext)
    (hdone : ∀ ctx, (done ctx).dstAddr = ctx.dstAddr)
    {result : RelayResult Bool × PipelineContext}
    (hresult : result =
      match ctx.modify codec stage f with
      | (.error e, ctx) => (.error e, ctx)
      | (.ok (), ctx) => (.ok true, done ctx)) : result.2.dstAddr = ctx.dstAddr := by
  rw [← modify_dstAddr codec stage f ctx, hresult]
  rcases ctx.modify codec stage f with ⟨_ | ⟨⟨⟩⟩, edited⟩
  · rfl
  · exact hdone edited

/-- A buffer that does not decode is left alone. -/
theorem modify_of_decode_error {M : Type} {codec : Codec M} {ctx : PipelineContext} {e : String}
    (h : codec.decode ctx.buffer = .error e) (stage : String) (f : M → RelayResult Unit × M) :
    ctx.modify codec stage f = (.error (.parse s!"{stage} decode: {e}"), ctx) := by
  rw [modify, h]

/-- What `modify` writes into the buffer is the encoding of a message. -/
theorem modify_encodes {M : Type} {codec : Codec M} {ctx ctx' : PipelineContext} {stage : String}
    {f : M → RelayResult Unit × M} (h : ctx.modify codec stage f = (.ok (), ctx')) :
    ∃ msg, codec.encode msg = .ok ctx'.buffer := by
  unfold modify at h
  split at h
  · simp at h
  · split at h
    · simp at h
    · next msg _ =>
        split at h
        · simp at h
        · next buf henc =>
            obtain rfl : { ctx with buffer := buf } = ctx' := congrArg Prod.snd h
            exact ⟨msg, henc⟩

/-- So does a stage that goes on after `modify` has succeeded. -/
theorem modify_then_encodes {M : Type} {codec : Codec M} {ctx ctx' : PipelineContext}
    {stage : String} {f : M → RelayResult Unit × M} (done : PipelineContext → PipelineContext)
    (hdone : ∀ ctx, (done ctx).buffer = ctx.buffer)
    {result : RelayResult Bool × PipelineContext}
    (hresult : result =
      match ctx.modify codec stage f with
      | (.error e, ctx) => (.error e, ctx)
      | (.ok (), ctx) => (.ok true, done ctx))
    (h : result = (.ok true, ctx')) : ∃ msg, codec.encode msg = .ok ctx'.buffer := by
  rw [hresult] at h
  split at h
  · simp at h
  · next edited hmodify =>
      obtain rfl : done edited = ctx' := congrArg Prod.snd h
      rw [hdone]
      exact modify_encodes hmodify

end PipelineContext

/-- A single stage: `Ok(true)` continues with the next one, `Ok(false)` halts the
pipeline (drops the packet) without error. -/
structure PipelineStage where
  name : String
  process : Stage PipelineContext RelayError

/-- The stage sets no destination, whatever its outcome. -/
def PipelineStage.KeepsDst (stage : PipelineStage) : Prop :=
  ∀ ctx, (stage.process ctx).2.dstAddr = ctx.dstAddr

/-- An ordered chain of pipeline stages. -/
structure Pipeline where
  stages : List PipelineStage

namespace Pipeline

def withStages (stages : List PipelineStage) : Pipeline := ⟨stages⟩

/-- Execute all stages in order: `Ok(true)` if the packet should be forwarded,
`Ok(false)` if it was dropped by a stage, or an error. -/
def execute (pipeline : Pipeline) : PipelineContext → RelayResult Bool × PipelineContext :=
  Stages.execute (pipeline.stages.map PipelineStage.process)

/-- **Let through means sent**: where the last stage sets a destination if it succeeds, and
no other stage does, the packets with a destination are those that are let through. -/
theorem passed_iff_dstAddr {stages : List PipelineStage} {last : PipelineStage}
    (hstages : ∀ stage ∈ stages, stage.KeepsDst)
    (hlast : ∀ ctx, ctx.dstAddr = none →
      ((last.process ctx).1 = .ok true ↔ (last.process ctx).2.dstAddr.isSome))
    {ctx : PipelineContext} (hctx : ctx.dstAddr = none) :
    ((withStages (stages ++ [last])).execute ctx).1 = .ok true
      ↔ ((withStages (stages ++ [last])).execute ctx).2.dstAddr.isSome := by
  rw [execute, withStages, List.map_append, List.map_singleton]
  refine Stages.execute_passes_iff (D := fun ctx : PipelineContext => ctx.dstAddr.isSome) ?_ ?_
    (by simp [hctx])
  · intro f hf ctx
    obtain ⟨stage, hstage, rfl⟩ := List.mem_map.mp hf
    rw [hstages stage hstage ctx]
  · intro ctx hnone
    exact hlast ctx (by simpa using hnone)

end Pipeline

end DhcpRelay
