import DhcpRelay.Library.Bytes
import Mathlib.Algebra.GroupWithZero.Nat
import Mathlib.Data.List.Induction

/-!
# DhcpRelay.Library.OnesComplement

**The ones'-complement sum of sixteen-bit words**, as internet checksums use it: a carry out
of the sixteen bits is added back. The sum is the plain one modulo 65535, except that it is
zero for zeros only (`onesSum_eq`), so it can be read off how the plain sum changes.
-/

namespace DhcpRelay.Library

/-- Add with the carry out of sixteen bits added back. -/
def addCarry (a b : Nat) : Nat := if a + b < 65536 then a + b else a + b - 65535

/-- The ones'-complement sum of sixteen-bit words. -/
def onesSum (words : List Nat) : Nat := words.foldl addCarry 0

/-- The big-endian sixteen-bit words of a byte string; a last single byte is filled up with
zero. -/
def words16 : Bytes → List Nat
  | [] => []
  | [hi] => [be16 hi 0]
  | hi :: lo :: rest => be16 hi lo :: words16 rest

variable {words : List Nat}

theorem onesSum_concat (words : List Nat) (w : Nat) :
    onesSum (words ++ [w]) = addCarry (onesSum words) w := by
  rw [onesSum, List.foldl_append]
  rfl

/-- **The sum modulo 65535**, with 65535 in place of zero where there is a word to add. -/
theorem onesSum_eq (h : ∀ w ∈ words, w < 65536) :
    onesSum words = if words.sum = 0 then 0 else (words.sum - 1) % 65535 + 1 := by
  induction words using List.reverseRecOn with
  | nil => rfl
  | append_singleton words w ih =>
      have hw : w < 65536 := h w (List.mem_append_right _ (List.mem_singleton_self w))
      have hsum : (words ++ [w]).sum = words.sum + w := by
        rw [List.sum_append, List.sum_singleton]
      rw [onesSum_concat, ih fun v hv => h v (List.mem_append_left _ hv), hsum, addCarry]
      split <;> split <;> split <;> omega

/-- All bits are set exactly where the plain sum is a multiple of 65535, but not zero. -/
theorem onesSum_eq_ones_iff (h : ∀ w ∈ words, w < 65536) :
    onesSum words = 0xFFFF ↔ 0 < words.sum ∧ words.sum % 65535 = 0 := by
  rw [onesSum_eq h]
  split <;> omega

theorem words16_lt (bytes : Bytes) : ∀ w ∈ words16 bytes, w < 65536 := by
  induction bytes using words16.induct with
  | case1 => simp [words16]
  | case2 hi => simpa [words16] using be16_lt hi 0
  | case3 hi lo rest ih => exact List.forall_mem_cons.mpr ⟨be16_lt hi lo, ih⟩

/-- The words of a string that is put together at an even place. -/
theorem words16_append {pre : Bytes} (h : pre.length % 2 = 0) (rest : Bytes) :
    words16 (pre ++ rest) = words16 pre ++ words16 rest := by
  induction pre using words16.induct with
  | case1 => rfl
  | case2 hi => simp at h
  | case3 hi lo pre ih =>
      have heven : pre.length % 2 = 0 := by
        rw [List.length_cons, List.length_cons] at h
        omega
      rw [List.cons_append, List.cons_append, words16, ih heven, words16, List.cons_append]

section

variable {bytes : Bytes} {pos : Nat}

/-- The plain sum, with one word at an even place told apart. -/
theorem sum_words16_word (heven : pos % 2 = 0) (h : pos + 2 ≤ bytes.length) (hi lo : UInt8) :
    (words16 (bytes.take pos ++ hi :: lo :: bytes.drop (pos + 2))).sum
      = (words16 (bytes.take pos)).sum + (be16 hi lo + (words16 (bytes.drop (pos + 2))).sum) := by
  have hpre : (bytes.take pos).length % 2 = 0 := by
    rw [List.length_take_of_le (by omega), heven]
  rw [words16_append hpre, List.sum_append, words16, List.sum_cons]

/-- The plain sum after a change of the first byte of a word. -/
theorem sum_words16_set (heven : pos % 2 = 0) (h : pos + 2 ≤ bytes.length) (b : UInt8) :
    (words16 (bytes.set pos b)).sum + bytes[pos].toNat * 256
      = (words16 bytes).sum + b.toNat * 256 := by
  have hset : bytes.set pos b
      = bytes.take pos ++ b :: bytes[pos + 1] :: bytes.drop (pos + 2) := by
    rw [List.set_eq_take_append_cons_drop, if_pos (by omega)]
    congr 2
    exact List.drop_eq_getElem_cons (by omega)
  have hold := sum_words16_word heven h bytes[pos] bytes[pos + 1]
  rw [← drop_eq_cons_cons h, List.take_append_drop] at hold
  rw [hset, sum_words16_word heven h, hold, be16, be16]
  omega

/-- The plain sum after a change of the second byte of a word. -/
theorem sum_words16_set_low (heven : pos % 2 = 0) (h : pos + 2 ≤ bytes.length) (b : UInt8) :
    (words16 (bytes.set (pos + 1) b)).sum + bytes[pos + 1].toNat
      = (words16 bytes).sum + b.toNat := by
  have hset : bytes.set (pos + 1) b
      = bytes.take pos ++ bytes[pos] :: b :: bytes.drop (pos + 2) := by
    rw [List.set_eq_take_append_cons_drop, if_pos (by omega), List.take_succ_eq_append_getElem,
      List.append_assoc]
    rfl
  have hold := sum_words16_word heven h bytes[pos] bytes[pos + 1]
  rw [← drop_eq_cons_cons h, List.take_append_drop] at hold
  rw [hset, sum_words16_word heven h, hold, be16, be16]
  omega

end

end DhcpRelay.Library
