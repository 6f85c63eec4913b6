import DpapiForensic.Lib.XorKdf
import DpapiForensic.MasterKey

/-!
# The derivation loop

Key material is made a block at a time until there is enough, and cut to length. The blocks do not
depend on how many of them are asked for, so the loop computes a stream: what it returns is its first
bytes, for any pseudorandom function whose output is not empty, up to the last block a 32-bit counter
can name.
-/

namespace DpapiForensic

open MasterKey

/-! ### The loop -/

section Loop

variable {h : Nat} (profile : Profile) (f : Bytes → Vector UInt8 h) (salt : Bytes) (count : Nat)

theorem xorRounds_pure (n : Nat) (x : Vector UInt8 h) :
    xorRounds (fun msg => .ok (f msg)) n x = .ok ((xorStep f)^[n] x) := by
  induction n generalizing x with
  | zero => rfl
  | succ n ih =>
      rw [xorRounds, Outcome.ok_bind, ih, Function.iterate_succ_apply]
      rfl

variable [NeZero h]

/-- From any number of finished blocks, the loop runs until the last block that is needed. -/
theorem deriveLoop_eq {keylen : Nat} (hcounter : blockCount h keylen < 2 ^ 32 - 1) {m : Nat}
    (hm : m ≤ blockCount h keylen) :
    deriveLoop (fun msg => .ok (f msg)) profile salt keylen count (m + 1) (kdfBlocks f salt count m)
      = .ok (kdfBlocks f salt count (blockCount h keylen)) := by
  rw [deriveLoop, length_kdfBlocks]
  by_cases hlt : m * h < keylen
  · have hnext := lt_blockCount_iff.mpr hlt
    rw [if_pos hlt, wordAdd_of_lt (by omega), Outcome.ok_bind, Outcome.ok_bind, xorRounds_pure,
      Outcome.ok_bind, ← kdfBlock, ← kdfBlocks_succ]
    exact deriveLoop_eq hcounter (by omega)
  · rw [if_neg hlt, Outcome.pure_eq, show m = blockCount h keylen from
      Nat.le_antisymm hm (Nat.not_lt.mp fun hn => hlt (lt_blockCount_iff.mp hn))]
termination_by blockCount h keylen - m

theorem deriveLoop_take {keylen : Nat} (hcounter : blockCount h keylen < 2 ^ 32 - 1) :
    (do
      let keyMaterial ← deriveLoop (fun msg => .ok (f msg)) profile salt keylen count 1 []
      pure (keyMaterial.take keylen)) = Outcome.ok (keyStream f salt count keylen) := by
  have hloop := deriveLoop_eq profile f salt count hcounter (Nat.zero_le _)
  rw [show kdfBlocks f salt count 0 = [] from rfl] at hloop
  rw [hloop, Outcome.ok_bind, take_kdfBlocks f salt count le_blockCount_mul, Outcome.pure_eq]

theorem deriveKeyWith_eq {keylen : Nat} (hcounter : blockCount h keylen < 2 ^ 32 - 1) :
    deriveKeyWith (fun msg => .ok (f msg)) profile salt keylen count = (do
      let capacity ← usizeAdd profile keylen 64
      withCapacity capacity
      pure (keyStream f salt count keylen)) := by
  rw [deriveKeyWith]
  simp only [deriveLoop_take profile f salt count hcounter]
  rfl

end Loop

/-! ### The key -/

section Key

variable (env : Env) (isSha512 : Bool) (passphrase salt : Bytes)

/-- The counter cannot run so far that the buffer would not fit: a digest has 64 bytes at most. -/
theorem keylen_add_lt {h keylen : Nat} [NeZero h] (hh : h ≤ 64)
    (hcounter : blockCount h keylen < 2 ^ 32 - 1) : keylen + 64 < 2 ^ 63 := by
  have hblocks := @le_blockCount_mul h keylen _
  have hmax : blockCount h keylen * h ≤ (2 ^ 32 - 1) * 64 := Nat.mul_le_mul hcounter.le hh
  omega

theorem deriveKey_eq_keyStream {keylen : Nat}
    (hcounter : blockCount (macLen (prfAlg env isSha512).isSha512) keylen < 2 ^ 32 - 1)
    (count : UInt32) :
    MasterKey.deriveKey env isSha512 passphrase salt keylen count
      = .ok (keyStream (env.crypto.hmac (prfAlg env isSha512).isSha512 passphrase) salt count.toNat
          keylen) := by
  have hmac : MasterKey.prf env isSha512 passphrase
      = fun msg => .ok (env.crypto.hmac (prfAlg env isSha512).isSha512 passphrase msg) := rfl
  have hfits := keylen_add_lt (macLen_le (prfAlg env isSha512).isSha512) hcounter
  rw [MasterKey.deriveKey, hmac, deriveKeyWith_eq _ _ _ _ hcounter, usizeAdd_of_lt (by omega),
    Outcome.ok_bind, withCapacity_of_lt hfits, Outcome.ok_bind, Outcome.pure_eq]

end Key

/-! ### What it computes -/

section Computes

variable {h : Nat}

/-- `derive keylen count` is the start of the blocks in a row, for every length whose blocks a 32-bit
counter can name: `keylen` bytes of it, whether `count` is 0 or 1, and more of the same for a greater
`keylen`. -/
structure DerivesBlocks (f : Bytes → Vector UInt8 h) (salt : Bytes)
    (derive : Nat → UInt32 → Outcome DpapiError Bytes) : Prop where
  eq_take_blocks : ∀ keylen m (count : UInt32), blockCount h keylen < 2 ^ 32 - 1 → keylen ≤ m * h →
    derive keylen count = .ok ((kdfBlocks f salt count.toNat m).take keylen)
  length_eq : ∀ keylen count, blockCount h keylen < 2 ^ 32 - 1 →
    ∃ key, derive keylen count = .ok key ∧ key.length = keylen
  count_zero : ∀ keylen, blockCount h keylen < 2 ^ 32 - 1 → derive keylen 0 = derive keylen 1
  starts : ∀ keylen keylen' count, keylen ≤ keylen' → blockCount h keylen' < 2 ^ 32 - 1 →
    ∃ key key', derive keylen count = .ok key ∧ derive keylen' count = .ok key' ∧ key <+: key'

variable [NeZero h] {f : Bytes → Vector UInt8 h} {salt : Bytes}

theorem DerivesBlocks.of_eq_keyStream {derive : Nat → UInt32 → Outcome DpapiError Bytes}
    (heq : ∀ keylen (count : UInt32), blockCount h keylen < 2 ^ 32 - 1 →
      derive keylen count = .ok (keyStream f salt count.toNat keylen)) :
    DerivesBlocks f salt derive where
  eq_take_blocks keylen m count hcounter hm := by
    rw [heq keylen count hcounter, take_kdfBlocks f salt count.toNat hm]
  length_eq keylen count hcounter := ⟨_, heq keylen count hcounter, length_keyStream f salt _ _⟩
  count_zero keylen hcounter := by
    rw [heq keylen 0 hcounter, heq keylen 1 hcounter]
    rfl
  starts keylen keylen' count hle hcounter := by
    have hcounter' := (blockCount_mono hle).trans_lt hcounter
    exact ⟨_, _, heq keylen count hcounter', heq keylen' count hcounter, keyStream_prefix f salt _ hle⟩

/-- **The derivation loop.** Over any pseudorandom function with an output, the loop ends, its counter
does not overflow, and what is left after the cut is the start of the blocks in a row; around it
`derive_key` only reserves the buffer. Over HMAC that reservation cannot fail. -/
theorem deriveKey_derivesBlocks :
    (∀ {h : Nat} [NeZero h] (f : Bytes → Vector UInt8 h) (profile : Profile) (salt : Bytes),
      (DerivesBlocks f salt fun keylen count => do
        let keyMaterial ← deriveLoop (fun msg => .ok (f msg)) profile salt keylen count.toNat 1 []
        pure (keyMaterial.take keylen)) ∧
      ∀ keylen (count : UInt32), blockCount h keylen < 2 ^ 32 - 1 →
        deriveKeyWith (fun msg => .ok (f msg)) profile salt keylen count.toNat = (do
          let capacity ← usizeAdd profile keylen 64
          withCapacity capacity
          pure (keyStream f salt count.toNat keylen))) ∧
      ∀ (env : Env) (isSha512 : Bool) (passphrase salt : Bytes),
        DerivesBlocks (env.crypto.hmac (prfAlg env isSha512).isSha512 passphrase) salt
          (MasterKey.deriveKey env isSha512 passphrase salt) := by
  refine ⟨?_, ?_⟩
  · intro h _ f profile salt
    refine ⟨.of_eq_keyStream ?_, ?_⟩
    · intro keylen count hcounter
      exact deriveLoop_take profile f salt count.toNat hcounter
    · intro keylen count hcounter
      exact deriveKeyWith_eq profile f salt count.toNat hcounter
  · intro env isSha512 passphrase salt
    refine .of_eq_keyStream ?_
    intro keylen count hcounter
    exact deriveKey_eq_keyStream env isSha512 passphrase salt hcounter count

/-- Three one-byte blocks of two rounds each, over the byte sum plus one. -/
theorem deriveKey_derivesBlocks_sum :
    (do
      let keyMaterial ← deriveLoop (fun msg => .ok #v[msg.foldl (· + ·) 1]) .debug [7] 3
        (2 : UInt32).toNat 1 []
      pure (keyMaterial.take 3)) = (Outcome.ok [3, 1, 7] : Outcome DpapiError Bytes) :=
  ((deriveKey_derivesBlocks.1 (fun msg => #v[msg.foldl (· + ·) 1]) .debug [7]).1.eq_take_blocks 3 3 2
    (by decide) (by decide)).trans (by decide +kernel)

end Computes

end DpapiForensic
