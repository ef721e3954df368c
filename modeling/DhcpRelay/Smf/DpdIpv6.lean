import DhcpRelay.Library.BigEndian
import DhcpRelay.Smf.Dpd
import DhcpRelay.Smf.DpdOption

/-!
# DhcpRelay.Smf.DpdIpv6

Packet identifiers from SMF_DPD options (`smf/dpd_ipv6.rs`), and **which packets they keep
apart**.

The identifier of an option is filled up with zeros to the eight bytes of a key, and its
TaggerId does not get into the key at all. So two packets of one source and destination are
taken for the same exactly if one identifier is the other with zeros behind it.
-/

namespace DhcpRelay.Smf

open DhcpRelay.Library

/-- Convert up to 8 bytes to a u64 (big-endian, zero-padded on the right). -/
def bytesToU64 (bytes : Bytes) : UInt64 :=
  let len := min 8 bytes.length
  let buf := bytes.take len ++ List.replicate (8 - len) 0
  UInt64.ofNat (beNat buf)

/-- Generate an I-DPD packet identifier for IPv6. -/
def iDpdPacketIdFromOption (src dst : IpAddr) (dpdOpt : SmfDpdOption) : DpdKey where
  srcAddr := src
  dstAddr := dst
  packetId := bytesToU64 dpdOpt.identifier

/-! ### The number of an identifier -/

/-- Eight bytes and the number they make up. -/
theorem ofNat_beNat_inj {buf buf' : Bytes} (hlen : buf.length = 8) (hlen' : buf'.length = 8) :
    UInt64.ofNat (beNat buf) = UInt64.ofNat (beNat buf') ↔ buf = buf' := by
  constructor
  · intro h
    have hlt : beNat buf < 2 ^ 64 := by simpa [hlen] using beNat_lt buf
    have hlt' : beNat buf' < 2 ^ 64 := by simpa [hlen'] using beNat_lt buf'
    have hnat : beNat buf = beNat buf' := by
      have hmod := congrArg UInt64.toNat h
      rwa [UInt64.toNat_ofNat', UInt64.toNat_ofNat', Nat.mod_eq_of_lt hlt,
        Nat.mod_eq_of_lt hlt'] at hmod
    exact beNat_injective (hlen.trans hlen'.symm) hnat
  · intro h
    rw [h]

theorem bytesToU64_eq {bytes : Bytes} (h : bytes.length ≤ 8) :
    bytesToU64 bytes = UInt64.ofNat (beNat (bytes.rightpad 8 0)) := by
  rw [bytesToU64, Nat.min_eq_right h, List.take_length, List.rightpad]

/-- Two identifiers are the same number exactly if they are equal up to zeros at the end. -/
theorem bytesToU64_eq_iff {bytes bytes' : Bytes} (h : bytes.length ≤ 8) (h' : bytes'.length ≤ 8) :
    bytesToU64 bytes = bytesToU64 bytes' ↔ EqualUpTo 0 bytes bytes' := by
  have hlength : ∀ bs : Bytes, bs.length ≤ 8 → (bs.rightpad 8 0).length = 8 := by
    intro bs hbs
    rw [List.length_rightpad, Nat.max_eq_left hbs]
  rw [bytesToU64_eq h, bytesToU64_eq h', ofNat_beNat_inj (hlength _ h) (hlength _ h'),
    rightpad_eq_iff h h']

/-! ### Packets kept apart -/

/-- Where the options are different ones, their packets have different keys, and the second
packet, if it is new, is not refused because of the first one. -/
def KeptApart (src dst : IpAddr) (opt opt' : SmfDpdOption) : Prop :=
  let key := iDpdPacketIdFromOption src dst opt
  let key' := iDpdPacketIdFromOption src dst opt'
  (opt.taggerId, opt.identifier) ≠ (opt'.taggerId, opt'.identifier) →
    key ≠ key' ∧ ∀ (cache : DpdCache) (ttl ttl' : UInt8) (now now' : Int), cache.map key' = none →
      ((cache.checkAndInsert key ttl now).2.checkAndInsert key' ttl' now').1 = .ok true

variable {src dst : IpAddr} {opt opt' : SmfDpdOption}

theorem iDpdPacketIdFromOption_eq_iff (h : opt.identifier.length ≤ 8)
    (h' : opt'.identifier.length ≤ 8) :
    iDpdPacketIdFromOption src dst opt = iDpdPacketIdFromOption src dst opt'
      ↔ EqualUpTo 0 opt.identifier opt'.identifier := by
  rw [← bytesToU64_eq_iff h h', iDpdPacketIdFromOption, iDpdPacketIdFromOption, DpdKey.mk.injEq,
    and_iff_right rfl, and_iff_right rfl]

/-- A check of one key does not make another packet a duplicate. -/
theorem DpdCache.checkAndInsert_of_other {cache : DpdCache} {key key' : DpdKey} (hne : key' ≠ key)
    (hnew : cache.map key' = none) (ttl ttl' : UInt8) (now now' : Int) :
    ((cache.checkAndInsert key ttl now).2.checkAndInsert key' ttl' now').1 = .ok true := by
  have hfresh : (cache.checkAndInsert key ttl now).2.Fresh key' ttl' := by
    intro entry hentry
    rw [DpdCache.checkAndInsert_map_of_ne hne, hnew] at hentry
    simp at hentry
  rw [DpdCache.checkAndInsert_of_fresh hfresh]

/-- **Packets are kept apart exactly where neither identifier is the other with zeros behind
it**, or there is nothing to keep apart. -/
theorem keptApart_iff (h : opt.identifier.length ≤ 8) (h' : opt'.identifier.length ≤ 8) :
    KeptApart src dst opt opt'
      ↔ (opt.taggerId = opt'.taggerId ∧ opt.identifier = opt'.identifier)
        ∨ ¬ EqualUpTo 0 opt.identifier opt'.identifier := by
  have hkeys : iDpdPacketIdFromOption src dst opt = iDpdPacketIdFromOption src dst opt'
      ↔ EqualUpTo 0 opt.identifier opt'.identifier := iDpdPacketIdFromOption_eq_iff h h'
  rw [← hkeys, ← Prod.mk.injEq]
  constructor
  · intro hkept
    by_cases hsame : (opt.taggerId, opt.identifier) = (opt'.taggerId, opt'.identifier)
    · exact .inl hsame
    · exact .inr (hkept hsame).1
  · intro h hdiffer
    have hne := h.resolve_left hdiffer
    exact ⟨hne, fun cache ttl ttl' now now' hnew =>
      DpdCache.checkAndInsert_of_other (Ne.symm hne) hnew ttl ttl' now now'⟩

/-- An option with the identifier 1. -/
def sampleShort : SmfDpdOption := .newIDpd [1]

/-- An option with the identifier 1, 0. -/
def sampleLong : SmfDpdOption := .newIDpd [1, 0]

/-- An option with the identifier 1, and a TaggerId. -/
def sampleTagger : SmfDpdOption :=
  { SmfDpdOption.newIDpd [1] with tidType := 1, tidLen := 1, taggerId := some [9] }

theorem sampleShort_keptApart :
    KeptApart (.v6 .unspecified) (.v6 .unspecified) sampleShort (.newIDpd [2]) := by
  refine (keptApart_iff (by decide) (by decide)).mpr (.inr fun h => ?_)
  obtain ⟨k, h | h⟩ := h
  · simp [sampleShort, SmfDpdOption.newIDpd] at h
  · simp [sampleShort, SmfDpdOption.newIDpd] at h

/-- A zero more at the end, or a TaggerId more, makes no difference to the key. -/
theorem sampleShort_confused :
    SmfDpdOption.decode [0, 1] = some sampleShort
      ∧ SmfDpdOption.decode [0, 1, 0] = some sampleLong
      ∧ SmfDpdOption.decode [0x21, 9, 1] = some sampleTagger
      ∧ ¬ KeptApart (.v6 .unspecified) (.v6 .unspecified) sampleShort sampleLong
      ∧ ¬ KeptApart (.v6 .unspecified) (.v6 .unspecified) sampleShort sampleTagger := by
  refine ⟨by decide, by decide, by decide, fun h => ?_, fun h => ?_⟩
  · exact (h (by decide)).1 ((iDpdPacketIdFromOption_eq_iff (by decide) (by decide)).mpr
      ⟨1, .inl rfl⟩)
  · exact (h (by decide)).1 rfl

end DhcpRelay.Smf
