import DhcpRelay.Library.ShortTlv
import DhcpRelay.Smf.DpdOption

/-!
# DhcpRelay.Smf.DpdFraming

**The SMF_DPD option among other options.** A reader of a Hop-by-Hop header takes as many
bytes behind the length byte as this one says. `encode` reduces the length of the data to
one byte, and nothing bounds the identifier, so the reader gets the option back exactly where
the data is no longer than 255 bytes.
-/

namespace DhcpRelay.Smf.SmfDpdOption

open DhcpRelay.Library

/-- The options there are: made by one of the constructors, or read. -/
def Available (opt : SmfDpdOption) : Prop :=
  (∃ identifier, identifier ≠ [] ∧ (opt = newIDpd identifier ∨ opt = newHDpd identifier))
    ∨ ∃ data, decode data = some opt

/-- The option says how long it is, and is read back in front of whatever follows it. -/
structure Framed (opt : SmfDpdOption) : Prop where
  selfDelimiting : ShortTlv.SelfDelimiting opt.encode
  found : ∀ rest, ∃ data, ShortTlv.next (opt.encode ++ rest) = some ((smfDpdOptionType, data), rest)
    ∧ decode data = some opt

variable {opt : SmfDpdOption}

theorem newIDpd_wellFormed {identifier : Bytes} (h : identifier ≠ []) :
    (newIDpd identifier).WellFormed where
  tidType := show (0 : UInt8) ≤ 3 by decide
  taggerId := .inl ⟨rfl, rfl⟩
  identifier := h

theorem newHDpd_wellFormed {hav : Bytes} (h : hav ≠ []) : (newHDpd hav).WellFormed where
  tidType := show (0 : UInt8) ≤ 3 by decide
  taggerId := .inl ⟨rfl, rfl⟩
  identifier := h

theorem Available.wellFormed (h : opt.Available) : opt.WellFormed := by
  rcases h with ⟨identifier, hne, rfl | rfl⟩ | ⟨data, hdec⟩
  · exact newIDpd_wellFormed hne
  · exact newHDpd_wellFormed hne
  · exact (encode_decode hdec).1

/-- The data of an option is as long as `encode` takes it to be. -/
theorem WellFormed.length_data (h : opt.WellFormed) :
    (opt.encode.drop 2).length = 1 + opt.tidLen.toNat + opt.identifier.length := by
  have htagger : (opt.taggerId.getD []).length = opt.tidLen.toNat := by
    rcases h.taggerId with ⟨hnone, hzero⟩ | ⟨tid, hsome, -, hlen, -⟩
    · rw [hnone, hzero]
      rfl
    · rw [hsome]
      exact hlen
  rw [body_encode, List.length_cons, List.length_append, htagger]
  omega

/-- Type, length and data. -/
theorem WellFormed.encode_eq (h : opt.WellFormed) :
    opt.encode = smfDpdOptionType :: UInt8.ofNat (opt.encode.drop 2).length
      :: opt.encode.drop 2 := by
  rw [h.length_data]
  rfl

/-- The length byte is right exactly for data of up to 255 bytes. -/
theorem WellFormed.selfDelimiting_iff (h : opt.WellFormed) :
    ShortTlv.SelfDelimiting opt.encode
      ↔ 1 + opt.tidLen.toNat + opt.identifier.length ≤ 255 := by
  rw [h.encode_eq, ShortTlv.selfDelimiting_ofNat_iff, h.length_data]
  exact Nat.lt_succ_iff

/-- An option whose length byte is right is found by a reader. -/
theorem WellFormed.framed (h : opt.WellFormed) (hlen : ShortTlv.SelfDelimiting opt.encode) :
    opt.Framed where
  selfDelimiting := hlen
  found := by
    intro rest
    refine ⟨opt.encode.drop 2, ?_, decode_encode h⟩
    rw [h.encode_eq] at hlen
    have hnext := hlen.next_append rest
    rwa [← h.encode_eq] at hnext

/-- **An option is self-delimiting exactly for data of up to 255 bytes**: the flags, the
TaggerId and the identifier together. -/
theorem framed_iff (h : opt.Available) :
    opt.Framed ↔ 1 + opt.tidLen.toNat + opt.identifier.length ≤ 255 := by
  rw [← h.wellFormed.selfDelimiting_iff]
  exact ⟨fun hframed => hframed.selfDelimiting, h.wellFormed.framed⟩

/-- An identifier that is too long for an option of its own. -/
theorem newIDpd_not_framed {identifier : Bytes} (h : identifier ≠ [])
    (hlong : 255 ≤ identifier.length) : ¬ (newIDpd identifier).Framed := by
  intro hframed
  have hlen := (newIDpd_wellFormed h).selfDelimiting_iff.mp hframed.selfDelimiting
  have hid : (newIDpd identifier).identifier.length = identifier.length := rfl
  omega

/-- An I-DPD option with an identifier of `n` zero bytes. -/
def sampleOfLength (n : Nat) : SmfDpdOption := newIDpd (List.replicate n 0)

theorem sampleOfLength_four_framed : (sampleOfLength 4).Framed :=
  (framed_iff (.inl ⟨_, by decide, .inl rfl⟩)).mpr (by decide)

/-- An identifier of 255 bytes is one too many: the length byte says zero. -/
theorem sampleOfLength_255_not_framed :
    (sampleOfLength 255).Available ∧ ¬ (sampleOfLength 255).Framed := by
  have hne : List.replicate 255 (0 : UInt8) ≠ [] := List.cons_ne_nil _ _
  exact ⟨.inl ⟨_, hne, .inl rfl⟩, newIDpd_not_framed hne (by rw [List.length_replicate])⟩

end DhcpRelay.Smf.SmfDpdOption
