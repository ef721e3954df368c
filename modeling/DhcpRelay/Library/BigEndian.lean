import DhcpRelay.Library.Bytes
import Mathlib.Data.Nat.Digits.Defs

/-!
# DhcpRelay.Library.BigEndian

**Byte strings as big-endian numbers.** Strings of one length are different numbers
(`beNat_injective`). Shorter strings that are filled up with zeros to one length are the same
number exactly if one of them is the other with zeros behind it (`rightpad_eq_iff`).
-/

namespace DhcpRelay.Library

/-- The number that the bytes stand for, the most significant one first. -/
def beNat (bytes : Bytes) : Nat := bytes.foldl (fun n b => n * 256 + b.toNat) 0

variable {bytes bytes' : Bytes}

theorem beNat_concat (bytes : Bytes) (b : UInt8) :
    beNat (bytes ++ [b]) = beNat bytes * 256 + b.toNat := by
  rw [beNat, List.foldl_append]
  rfl

/-- The digits of the number, the least significant one first. -/
theorem beNat_eq_ofDigits (bytes : Bytes) :
    beNat bytes = Nat.ofDigits 256 (bytes.reverse.map UInt8.toNat) := by
  induction bytes using List.reverseRecOn with
  | nil => rfl
  | append_singleton bytes b ih =>
      rw [beNat_concat, ih, List.reverse_concat, List.map_cons, Nat.ofDigits_cons, Nat.add_comm,
        Nat.mul_comm]

theorem beNat_lt (bytes : Bytes) : beNat bytes < 256 ^ bytes.length := by
  induction bytes using List.reverseRecOn with
  | nil => exact Nat.one_pos
  | append_singleton bytes b ih =>
      have hb := b.toNat_lt
      rw [beNat_concat, List.length_append, List.length_singleton, Nat.pow_succ]
      omega

/-- Strings of one length are different numbers. -/
theorem beNat_injective (hlen : bytes.length = bytes'.length) (h : beNat bytes = beNat bytes') :
    bytes = bytes' := by
  have hdigit : ∀ bs : Bytes, ∀ n ∈ bs.reverse.map UInt8.toNat, n < 256 := by
    intro bs n hn
    obtain ⟨b, -, rfl⟩ := List.mem_map.mp hn
    exact b.toNat_lt
  rw [beNat_eq_ofDigits, beNat_eq_ofDigits] at h
  have hdigits : bytes.reverse.map UInt8.toNat = bytes'.reverse.map UInt8.toNat :=
    Nat.ofDigits_inj_of_len_eq (by decide) (by simpa using hlen) (hdigit _) (hdigit _) h
  have hinj : Function.Injective UInt8.toNat := fun _ _ => UInt8.toNat_inj.mp
  exact List.reverse_injective (List.map_injective_iff.mpr hinj hdigits)

/-! ### Filling up -/

section

variable {α : Type} {z : α} {l l' : List α}

/-- One of the lists is the other with some `z` behind it. -/
def EqualUpTo (z : α) (l l' : List α) : Prop :=
  ∃ k, l ++ List.replicate k z = l' ∨ l' ++ List.replicate k z = l

/-- A filled list is the shorter list, the missing `z` and the filling of the longer one. -/
theorem eq_append_of_rightpad {n : Nat} (hle : l.length ≤ l'.length) (hn : l'.length ≤ n)
    (h : l.rightpad n z = l'.rightpad n z) :
    l ++ List.replicate (l'.length - l.length) z = l' := by
  have hsplit : n - l.length = (l'.length - l.length) + (n - l'.length) := by omega
  rw [List.rightpad, List.rightpad, hsplit, List.replicate_add, ← List.append_assoc] at h
  exact List.append_cancel_right h

/-- **Filling up forgets the last `z`**, and nothing else. -/
theorem rightpad_eq_iff {n : Nat} (hl : l.length ≤ n) (hl' : l'.length ≤ n) :
    l.rightpad n z = l'.rightpad n z ↔ EqualUpTo z l l' := by
  constructor
  · intro h
    rcases Nat.le_total l.length l'.length with hle | hle
    · exact ⟨_, .inl (eq_append_of_rightpad hle hl' h)⟩
    · exact ⟨_, .inr (eq_append_of_rightpad hle hl h.symm)⟩
  · have hfill : ∀ {l : List α} {k : Nat}, (l ++ List.replicate k z).length ≤ n →
        l.rightpad n z = (l ++ List.replicate k z).rightpad n z := by
      intro l k hk
      rw [List.length_append, List.length_replicate] at hk
      have hsplit : n - l.length = k + (n - (l.length + k)) := by omega
      rw [List.rightpad, List.rightpad, List.length_append, List.length_replicate,
        List.append_assoc, ← List.replicate_add, ← hsplit]
    intro h
    obtain ⟨k, rfl | rfl⟩ := h
    · exact hfill hl'
    · exact (hfill hl).symm

end

end DhcpRelay.Library
