import Mathlib.Logic.Equiv.List
import Mathlib.Order.Defs.LinearOrder

/-!
# DhcpRelay.Library.Bytes

Byte strings and the fixed-width numbers written into them. Numbers are `Nat`s;
the width shows only where a number is written (`toBe16`, `toBe32`), which is
also where it is reduced modulo that width.
-/

namespace DhcpRelay.Library

/-- A byte string. -/
abbrev Bytes := List UInt8

instance instLinearOrderUInt8 : LinearOrder UInt8 where
  le_refl := UInt8.le_refl
  le_trans _ _ _ := UInt8.le_trans
  le_antisymm _ _ := UInt8.le_antisymm
  le_total := UInt8.le_total
  lt_iff_le_not_ge a b := by
    rw [UInt8.lt_iff_toNat_lt, UInt8.le_iff_toNat_le, UInt8.le_iff_toNat_le]
    omega
  toDecidableLE := inferInstance
  toDecidableLT := inferInstance
  toDecidableEq := inferInstance

instance instLinearOrderUInt16 : LinearOrder UInt16 where
  le_refl := UInt16.le_refl
  le_trans _ _ _ := UInt16.le_trans
  le_antisymm _ _ := UInt16.le_antisymm
  le_total := UInt16.le_total
  lt_iff_le_not_ge a b := by
    rw [UInt16.lt_iff_toNat_lt, UInt16.le_iff_toNat_le, UInt16.le_iff_toNat_le]
    omega
  toDecidableLE := inferInstance
  toDecidableLT := inferInstance
  toDecidableEq := inferInstance

instance instEncodableUInt8 : Encodable UInt8 :=
  Encodable.ofLeftInverse UInt8.toNat UInt8.ofNat (fun _ => UInt8.ofNat_toNat)

instance instEncodableUInt16 : Encodable UInt16 :=
  Encodable.ofLeftInverse UInt16.toNat UInt16.ofNat (fun _ => UInt16.ofNat_toNat)

instance instEncodableUInt32 : Encodable UInt32 :=
  Encodable.ofLeftInverse UInt32.toNat UInt32.ofNat (fun _ => UInt32.ofNat_toNat)

instance instEncodableVector {α : Type} [Encodable α] {n : Nat} : Encodable (Vector α n) :=
  Encodable.ofLeftInjection Vector.toList
    (fun l => if h : l.length = n then some ⟨l.toArray, by simpa using h⟩ else none)
    (fun v => by rw [dif_pos v.length_toList]; rfl)

/-- A statement about every byte is one about the numbers below 256. -/
theorem forall_byte {P : UInt8 → Prop} (h : ∀ i : Fin 256, P (.ofFin i)) (b : UInt8) : P b :=
  h b.toFin

/-- A position with two bytes behind it. -/
theorem drop_eq_cons_cons {bytes : Bytes} {pos : Nat} (h : pos + 2 ≤ bytes.length) :
    bytes.drop pos = bytes[pos] :: bytes[pos + 1] :: bytes.drop (pos + 2) := by
  have hfirst : pos < bytes.length := by omega
  have hsecond : pos + 1 < bytes.length := by omega
  rw [List.drop_eq_getElem_cons hfirst, List.drop_eq_getElem_cons hsecond]

/-- The two big-endian bytes of `n` modulo `2 ^ 16`. -/
def toBe16 (n : Nat) : Bytes := [UInt8.ofNat (n / 256), UInt8.ofNat n]

/-- The four big-endian bytes of `n` modulo `2 ^ 32`. -/
def toBe32 (n : Nat) : Bytes := toBe16 (n / 65536) ++ toBe16 n

/-- The number two big-endian bytes stand for. -/
def be16 (hi lo : UInt8) : Nat := hi.toNat * 256 + lo.toNat

/-- The number four big-endian bytes stand for. -/
def be32 (a b c d : UInt8) : Nat := be16 a b * 65536 + be16 c d

@[simp] theorem length_toBe16 (n : Nat) : (toBe16 n).length = 2 := rfl

/-- Reading back what `toBe16` wrote gives the number modulo `2 ^ 16`. -/
theorem be16_toBe16 (n : Nat) :
    be16 (UInt8.ofNat (n / 256)) (UInt8.ofNat n) = n % 65536 := by
  rw [be16, UInt8.toNat_ofNat', UInt8.toNat_ofNat']
  omega

/-- Only the number modulo `2 ^ 16` is written. -/
theorem toBe16_mod (n : Nat) : toBe16 (n % 65536) = toBe16 n := by
  have hhi : UInt8.ofNat (n % 65536 / 256) = UInt8.ofNat (n / 256) := by
    apply UInt8.toNat_inj.mp
    rw [UInt8.toNat_ofNat', UInt8.toNat_ofNat']
    omega
  have hlo : UInt8.ofNat (n % 65536) = UInt8.ofNat n := by
    apply UInt8.toNat_inj.mp
    rw [UInt8.toNat_ofNat', UInt8.toNat_ofNat']
    omega
  rw [toBe16, hhi, hlo, toBe16]

/-- Writing what two bytes stand for gives the two bytes. -/
theorem toBe16_be16 (hi lo : UInt8) : toBe16 (be16 hi lo) = [hi, lo] := by
  have hhi : UInt8.ofNat (be16 hi lo / 256) = hi := by
    have hdiv : (hi.toNat * 256 + lo.toNat) / 256 = hi.toNat := by
      have hlo := lo.toNat_lt
      omega
    rw [be16, hdiv, UInt8.ofNat_toNat]
  have hlo : UInt8.ofNat (be16 hi lo) = lo := by
    apply UInt8.toNat_inj.mp
    have hlt := lo.toNat_lt
    rw [UInt8.toNat_ofNat', be16]
    omega
  rw [toBe16, hhi, hlo]

theorem be16_lt (hi lo : UInt8) : be16 hi lo < 65536 := by
  have hhi := hi.toNat_lt
  have hlo := lo.toNat_lt
  rw [be16]
  omega

end DhcpRelay.Library
