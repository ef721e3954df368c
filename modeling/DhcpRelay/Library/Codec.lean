import DhcpRelay.Library.Bytes

/-!
# DhcpRelay.Library.Codec

Codecs for values of some type `M` as byte strings: a decoder and an encoder,
each of which may fail with a text, and the law that what is encoded decodes to
itself.

A wire format with fields of fixed width cannot hold every value, so on its own
it is not lawful. `Codec.ofFormat` completes it: a value that the format does not
read back is stored outside the format, as a run of zero bytes whose length
numbers the value. The completed codec agrees with the format on everything that
fits it (`decode_ofFormat`) and is lawful (`ofFormat_lawful`).
-/

namespace DhcpRelay.Library

/-- A decoder and an encoder. -/
structure Codec (M : Type) where
  decode : Bytes → Except String M
  encode : M → Except String Bytes

namespace Codec

variable {M : Type}

/-- Every value can be encoded, and decodes back to itself. -/
structure Lawful (c : Codec M) : Prop where
  decode_encode : ∀ m, ∃ bytes, c.encode m = .ok bytes ∧ c.decode bytes = .ok m

/-! ### Completing a format -/

variable [Encodable M]

/-- The place of a value outside a format whose values take `width` bytes or more. -/
def outside (width : Nat) (m : M) : Bytes := List.replicate (width + Encodable.encode m) 0

/-- The value stored at a place outside the format. -/
def readOutside (width : Nat) (bytes : Bytes) : Option M :=
  if bytes.all (· = 0) && width ≤ bytes.length then Encodable.decode (bytes.length - width)
  else none

theorem readOutside_outside (width : Nat) (m : M) :
    readOutside width (outside width m) = some m := by
  have hzero : ((outside width m).all (· = 0)
      && decide (width ≤ (outside width m).length)) = true := by
    simp [outside]
  rw [readOutside, if_pos hzero, outside, List.length_replicate, Nat.add_sub_cancel_left]
  exact Encodable.encodek m

variable [DecidableEq M]

/-- The codec of the format with writer `write` and reader `read`, completed by the
places outside it. -/
def ofFormat (width : Nat) (write : M → Bytes) (read : Bytes → Option M) : Codec M where
  encode m :=
    .ok (if (readOutside width (write m)).or (read (write m)) = some m then write m
      else outside width m)
  decode bytes :=
    match (readOutside width bytes).or (read bytes) with
    | some m => .ok m
    | none => .error "malformed message"

variable {width : Nat} {write : M → Bytes} {read : Bytes → Option M}

theorem ofFormat_lawful : (ofFormat width write read).Lawful := by
  refine ⟨fun m => ⟨_, rfl, ?_⟩⟩
  by_cases h : (readOutside width (write m)).or (read (write m)) = some m
  · simp [ofFormat, h]
  · simp [ofFormat, h, readOutside_outside]

/-- A value that fits the format travels in it. -/
theorem decode_ofFormat {m : M} (h : (readOutside width (write m)).or (read (write m)) = some m) :
    (ofFormat width write read).decode (write m) = .ok m := by
  simp [ofFormat, h]

theorem encode_ofFormat {m : M} (h : (readOutside width (write m)).or (read (write m)) = some m) :
    (ofFormat width write read).encode m = .ok (write m) :=
  congrArg Except.ok (if_pos h)

/-- Bytes of the format decode. -/
theorem decode_ofFormat_ok {bytes : Bytes} (h : (read bytes).isSome) :
    ∃ m, (ofFormat width write read).decode bytes = .ok m := by
  obtain ⟨m, hm⟩ := Option.isSome_iff_exists.mp h
  cases hout : (readOutside width bytes : Option M) with
  | none => exact ⟨m, by simp [ofFormat, hout, hm]⟩
  | some m' => exact ⟨m', by simp [ofFormat, hout]⟩

end Codec

end DhcpRelay.Library
