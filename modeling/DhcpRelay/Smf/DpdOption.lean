import DhcpRelay.Library.Bytes

/-!
# DhcpRelay.Smf.DpdOption

The SMF_DPD Hop-by-Hop option (`smf/dpd_option.rs`) and its **round trip, both ways**.

The first byte of the option data packs three fields: the H bit, two bits of TaggerId type
and five bits of TaggerId length. The TaggerId follows and then the identifier, without a
length of its own: it is what is left. So the body of an option and the option determine
each other exactly where the three fields fit their bits, the length is that of the
TaggerId, and there is something left.
-/

namespace DhcpRelay.Smf

open DhcpRelay.Library

/-- The option type of SMF_DPD: skip if unknown, not changeable. -/
def smfDpdOptionType : UInt8 := 0x08

def tidTypeNull : UInt8 := 0

/-- A parsed SMF_DPD Hop-by-Hop option. -/
structure SmfDpdOption where
  hBit : Bool
  tidType : UInt8
  tidLen : UInt8
  taggerId : Option Bytes
  identifier : Bytes
  deriving DecidableEq, Repr

namespace SmfDpdOption

/-- H | TidTy | TidLen. -/
def flags (hBit : Bool) (tidType tidLen : UInt8) : UInt8 :=
  let flags := (tidType <<< 5) ||| (tidLen &&& 0x1F)
  if hBit then flags ||| 0x80 else flags

/-- Encode this option into wire format bytes. -/
def encode (opt : SmfDpdOption) : Bytes :=
  let optDataLen := 1 + opt.tidLen.toNat + opt.identifier.length
  -- `opt_data_len as u8`
  [smfDpdOptionType, UInt8.ofNat optDataLen, flags opt.hBit opt.tidType opt.tidLen]
    ++ opt.taggerId.getD []
    ++ opt.identifier

/-- Decode an option from the bytes behind its type and length. -/
def decode (data : Bytes) : Option SmfDpdOption :=
  if h : data.length < 2 then none
  else
    have hfirst : 0 < data.length := by omega
    let flags := data[0]
    let tidLen := (flags &&& 0x1F).toNat
    let flagsLen := 1
    if data.length < flagsLen + tidLen then none
    else
      let idStart := flagsLen + tidLen
      let identifier := data.drop idStart
      -- there must be at least an identifier
      if identifier.isEmpty then none
      else some {
        hBit := (flags &&& 0x80) ≠ 0
        tidType := (flags >>> 5) &&& 0x03
        tidLen := UInt8.ofNat tidLen
        taggerId := if 0 < tidLen then some ((data.take idStart).drop flagsLen) else none
        identifier := identifier }

/-- Create a new I-DPD option with the given identifier. -/
def newIDpd (identifier : Bytes) : SmfDpdOption where
  hBit := false
  tidType := tidTypeNull
  tidLen := 0
  taggerId := none
  identifier := identifier

/-- Create a new H-DPD option with the given Hash Assist Value. -/
def newHDpd (hav : Bytes) : SmfDpdOption where
  hBit := true
  tidType := tidTypeNull
  tidLen := 0
  taggerId := none
  identifier := hav

/-- The options that fit their fields: the TaggerId is as long as is said, and absent
where that is zero, and there is an identifier. -/
structure WellFormed (opt : SmfDpdOption) : Prop where
  tidType : opt.tidType ≤ 3
  taggerId : (opt.taggerId = none ∧ opt.tidLen = 0)
    ∨ ∃ tid, opt.taggerId = some tid ∧ 1 ≤ tid.length ∧ tid.length = opt.tidLen.toNat
      ∧ opt.tidLen.toNat ≤ 31
  identifier : opt.identifier ≠ []

/-! ### The flags byte -/

/-- Packed fields read back. -/
theorem unpack_flags (hBit : Bool) {tidType tidLen : UInt8} (htype : tidType ≤ 3)
    (hlen : tidLen.toNat ≤ 31) :
    decide ((flags hBit tidType tidLen &&& 0x80) ≠ 0) = hBit
      ∧ (flags hBit tidType tidLen >>> 5) &&& 0x03 = tidType
      ∧ flags hBit tidType tidLen &&& 0x1F = tidLen := by
  have hall : ∀ (b : Bool) (t : Fin 4) (l : Fin 32),
      decide ((flags b (.ofNat t) (.ofNat l) &&& 0x80) ≠ 0) = b
        ∧ (flags b (.ofNat t) (.ofNat l) >>> 5) &&& 0x03 = .ofNat t
        ∧ flags b (.ofNat t) (.ofNat l) &&& 0x1F = .ofNat l := by decide +kernel
  have ht : tidType.toNat < 4 := Nat.lt_succ_of_le (UInt8.le_iff_toNat_le.mp htype)
  have h := hall hBit ⟨tidType.toNat, ht⟩ ⟨tidLen.toNat, Nat.lt_succ_of_le hlen⟩
  simpa only [UInt8.ofNat_toNat] using h

/-- Every flags byte is packed from the fields read from it. -/
theorem flags_unpack (b : UInt8) :
    flags ((b &&& 0x80) ≠ 0) ((b >>> 5) &&& 0x03) (b &&& 0x1F) = b :=
  forall_byte (P := fun b => flags ((b &&& 0x80) ≠ 0) ((b >>> 5) &&& 0x03) (b &&& 0x1F) = b)
    (by decide +kernel) b

/-- The fields read from a byte fit their bits. -/
theorem unpack_bounds (b : UInt8) : (b >>> 5) &&& 0x03 ≤ 3 ∧ (b &&& 0x1F).toNat ≤ 31 :=
  forall_byte (P := fun b => (b >>> 5) &&& 0x03 ≤ 3 ∧ (b &&& 0x1F).toNat ≤ 31)
    (by decide +kernel) b

/-! ### The body -/

/-- What stands behind the type and the length of an option. -/
theorem body_encode (opt : SmfDpdOption) :
    opt.encode.drop 2
      = flags opt.hBit opt.tidType opt.tidLen :: (opt.taggerId.getD [] ++ opt.identifier) := rfl

/-- What is read behind the flags byte, as long as there is more than the TaggerId. -/
theorem decode_cons (b : UInt8) (rest : Bytes) :
    decode (b :: rest) =
      if rest.length ≤ (b &&& 0x1F).toNat then none
      else some {
        hBit := (b &&& 0x80) ≠ 0
        tidType := (b >>> 5) &&& 0x03
        tidLen := b &&& 0x1F
        taggerId :=
          if 0 < (b &&& 0x1F).toNat then some (rest.take (b &&& 0x1F).toNat) else none
        identifier := rest.drop (b &&& 0x1F).toNat } := by
  unfold decode
  by_cases hshort : rest.length ≤ (b &&& 0x1F).toNat
  · rw [if_pos hshort]
    split
    · rfl
    · dsimp only [List.getElem_cons_zero]
      split
      · rfl
      · have hempty : ((b :: rest).drop (1 + (b &&& 0x1F).toNat)).isEmpty = true := by
          rw [Nat.add_comm, List.drop_succ_cons, List.isEmpty_iff]
          exact List.drop_eq_nil_of_le hshort
        rw [if_pos hempty]
  · have hlong : ¬ (b :: rest).length < 2 := by
      rw [List.length_cons]
      omega
    have hfits : ¬ (b :: rest).length < 1 + (b &&& 0x1F).toNat := by
      rw [List.length_cons]
      omega
    have hdrop : (b :: rest).drop (1 + (b &&& 0x1F).toNat) = rest.drop (b &&& 0x1F).toNat := by
      rw [Nat.add_comm, List.drop_succ_cons]
    have htake : ((b :: rest).take (1 + (b &&& 0x1F).toNat)).drop 1
        = rest.take (b &&& 0x1F).toNat := by
      rw [Nat.add_comm, List.take_succ_cons, List.drop_succ_cons, List.drop_zero]
    have hnonempty : ¬ (rest.drop (b &&& 0x1F).toNat).isEmpty = true := by
      rw [List.isEmpty_iff, List.drop_eq_nil_iff]
      exact hshort
    rw [dif_neg hlong, if_neg hshort]
    simp only [List.getElem_cons_zero, if_neg hfits, hdrop, htake, if_neg hnonempty,
      UInt8.ofNat_toNat]

/-- An option that fits its fields is read back from its encoding. -/
theorem decode_encode {opt : SmfDpdOption} (h : opt.WellFormed) :
    decode (opt.encode.drop 2) = some opt := by
  obtain ⟨hBit, tidType, tidLen, taggerId, identifier⟩ := opt
  obtain ⟨htype, htagger, hidentifier⟩ := h
  have hlong : 0 < identifier.length := List.length_pos_iff.mpr hidentifier
  have hbounds : tidLen.toNat ≤ 31 ∧ (taggerId.getD []).length = tidLen.toNat
      ∧ (if 0 < tidLen.toNat then some (taggerId.getD []) else none) = taggerId := by
    rcases htagger with ⟨rfl, rfl⟩ | ⟨tid, rfl, hpos, hlen, hle⟩
    · exact ⟨by decide, rfl, rfl⟩
    · exact ⟨hle, hlen, if_pos (hlen ▸ hpos)⟩
  obtain ⟨hle, hlen, hsame⟩ := hbounds
  obtain ⟨hbit, htidType, htidLen⟩ := unpack_flags hBit htype hle
  rw [body_encode, decode_cons]
  simp only [htidLen, htidType, hbit]
  rw [if_neg (by rw [List.length_append]; omega), List.take_left' hlen, List.drop_left' hlen, hsame]

/-- What is read is an option that fits its fields, and its encoding is what was read. -/
theorem encode_decode {data : Bytes} {opt : SmfDpdOption} (h : decode data = some opt) :
    opt.WellFormed ∧ opt.encode.drop 2 = data := by
  cases data with
  | nil => simp [decode] at h
  | cons b rest =>
      obtain ⟨htype, hle⟩ := unpack_bounds b
      rw [decode_cons] at h
      split at h
      · simp at h
      · next hlong =>
          obtain rfl := Option.some.inj h
          have htake : (rest.take (b &&& 0x1F).toNat).length = (b &&& 0x1F).toNat :=
            List.length_take_of_le (Nat.le_of_lt (Nat.lt_of_not_le hlong))
          refine ⟨⟨htype, ?_, ?_⟩, ?_⟩
          · by_cases hzero : 0 < (b &&& 0x1F).toNat
            · exact .inr ⟨_, if_pos hzero, by omega, htake, hle⟩
            · have hnone : b &&& 0x1F = 0 := UInt8.toNat_inj.mp (Nat.eq_zero_of_not_pos hzero)
              exact .inl ⟨if_neg hzero, hnone⟩
          · exact fun hnil => hlong (List.drop_eq_nil_iff.mp hnil)
          · rw [body_encode, flags_unpack]
            congr 1
            by_cases hzero : 0 < (b &&& 0x1F).toNat
            · simp only [if_pos hzero, Option.getD_some, List.take_append_drop]
            · simp [Nat.eq_zero_of_not_pos hzero]

/-- Nothing is read exactly where there is no byte for the identifier. -/
theorem decode_eq_none_iff {data : Bytes} :
    decode data = none ↔
      data.length < 2 ∨ data.length ≤ 1 + (data.head?.getD 0 &&& 0x1F).toNat := by
  cases data with
  | nil => simp [decode]
  | cons b rest =>
      rw [decode_cons, List.length_cons, List.head?_cons, Option.getD_some]
      split
      · simp only [true_iff]
        omega
      · simp only [reduceCtorEq, false_iff]
        omega

/-- **The body of an option and the option determine each other.** -/
theorem option_roundTrip :
    (∀ opt : SmfDpdOption, opt.WellFormed → decode (opt.encode.drop 2) = some opt)
      ∧ (∀ data opt, decode data = some opt → opt.WellFormed ∧ opt.encode.drop 2 = data)
      ∧ ∀ data, decode data = none ↔
          data.length < 2 ∨ data.length ≤ 1 + (data.head?.getD 0 &&& 0x1F).toNat :=
  ⟨fun _ => decode_encode, fun _ _ => encode_decode, fun _ => decode_eq_none_iff⟩

end SmfDpdOption

end DhcpRelay.Smf
