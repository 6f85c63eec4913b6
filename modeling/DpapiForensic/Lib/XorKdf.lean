import DpapiForensic.Lib.Bytes
import Mathlib.Logic.Function.Iterate

/-!
# The iterated xor derivation

Key material from a pseudorandom function of fixed output length, as DPAPI makes it: block `i` starts
from the function at the salt and the counter, and is xored with the function at itself a number of
times. It is PBKDF2's shape with the running value fed back in place of the last output.
-/

namespace DpapiForensic

section Kdf

variable {h : Nat} (f : Bytes → Vector UInt8 h) (salt : Bytes) (count : Nat)

/-- One round: `x ← x xor f(x)`. -/
def xorStep (x : Vector UInt8 h) : Vector UInt8 h := Vector.zipWith (· ^^^ ·) x (f x.toList)

/-- Block `i`, after `count - 1` rounds. -/
def kdfBlock (i : Nat) : Vector UInt8 h := (xorStep f)^[count - 1] (f (salt ++ be32 i))

def kdfBlocks (m : Nat) : Bytes :=
  (List.range m).flatMap fun j => (kdfBlock f salt count (j + 1)).toList

/-- The first `n` bytes of all the blocks in a row. Every block has a byte, so `n` blocks hold them. -/
def keyStream (n : Nat) : Bytes := (kdfBlocks f salt count n).take n

theorem kdfBlocks_succ (m : Nat) :
    kdfBlocks f salt count (m + 1)
      = kdfBlocks f salt count m ++ (kdfBlock f salt count (m + 1)).toList := by
  simp [kdfBlocks, List.range_succ]

@[simp] theorem length_kdfBlocks (m : Nat) : (kdfBlocks f salt count m).length = m * h := by
  induction m with
  | zero => simp [kdfBlocks]
  | succ m ih => rw [kdfBlocks_succ, List.length_append, ih, Vector.length_toList, Nat.succ_mul]

theorem kdfBlocks_prefix {m m' : Nat} (hm : m ≤ m') :
    kdfBlocks f salt count m <+: kdfBlocks f salt count m' := by
  induction m', hm using Nat.le_induction with
  | base => exact List.prefix_rfl
  | succ m' _ ih =>
      rw [kdfBlocks_succ]
      exact ih.trans (List.prefix_append _ _)

variable [NeZero h]

theorem take_kdfBlocks {m n : Nat} (hn : n ≤ m * h) :
    (kdfBlocks f salt count m).take n = keyStream f salt count n := by
  have hself : n ≤ n * h := Nat.le_mul_of_pos_right n (NeZero.pos h)
  rcases Nat.le_total m n with hle | hle
  · obtain ⟨rest, hrest⟩ := kdfBlocks_prefix f salt count hle
    rw [keyStream, ← hrest, List.take_append_of_le_length (by simpa using hn)]
  · obtain ⟨rest, hrest⟩ := kdfBlocks_prefix f salt count hle
    rw [keyStream, ← hrest, List.take_append_of_le_length (by simpa using hself)]

@[simp] theorem length_keyStream (n : Nat) : (keyStream f salt count n).length = n := by
  rw [keyStream, List.length_take, length_kdfBlocks]
  exact Nat.min_eq_left (Nat.le_mul_of_pos_right n (NeZero.pos h))

theorem keyStream_prefix {n n' : Nat} (hn : n ≤ n') :
    keyStream f salt count n <+: keyStream f salt count n' := by
  have hself : n' ≤ n' * h := Nat.le_mul_of_pos_right n' (NeZero.pos h)
  rw [← take_kdfBlocks f salt count (hn.trans hself), ← take_kdfBlocks f salt count hself]
  exact List.take_prefix_take_left hn

end Kdf

def blockCount (h n : Nat) : Nat := (n + h - 1) / h

theorem lt_blockCount_iff {h m n : Nat} [NeZero h] : m < blockCount h n ↔ m * h < n := by
  have hpos := NeZero.pos h
  rw [blockCount, Nat.lt_iff_add_one_le, Nat.le_div_iff_mul_le hpos, Nat.succ_mul]
  omega

theorem le_blockCount_mul {h n : Nat} [NeZero h] : n ≤ blockCount h n * h :=
  Nat.not_lt.mp fun hn => lt_irrefl _ (lt_blockCount_iff.mpr hn)

theorem blockCount_mono {h n n' : Nat} (hn : n ≤ n') : blockCount h n ≤ blockCount h n' :=
  Nat.div_le_div_right (by omega)

end DpapiForensic
