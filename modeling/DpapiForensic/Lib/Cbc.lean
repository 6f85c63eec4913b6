import DpapiForensic.Lib.Cipher

/-!
# Cipher block chaining

CBC over a block cipher: a block is masked with the ciphertext block before it, the first one with the IV.
On whole blocks it is a cipher of the kind `CbcCipher` describes, and one whose IV reaches no further than
the first block that comes out.
-/

namespace DpapiForensic

/-! ### Blocks -/

section Blocks

variable {n : Nat}

/-- The first `k` blocks of the data. -/
def toBlocks (n : Nat) : Nat → Bytes → List (Vector UInt8 n)
  | 0, _ => []
  | k + 1, data => Vector.ofFn (fun i => data.getD i 0) :: toBlocks n k (data.drop n)

def ofBlocks (blocks : List (Vector UInt8 n)) : Bytes := blocks.flatMap (·.toList)

@[simp] theorem length_toBlocks (k : Nat) (data : Bytes) : (toBlocks n k data).length = k := by
  induction k generalizing data with
  | zero => rfl
  | succ k ih => rw [toBlocks, List.length_cons, ih]

@[simp] theorem length_ofBlocks (blocks : List (Vector UInt8 n)) :
    (ofBlocks blocks).length = n * blocks.length := by
  induction blocks with
  | nil => rfl
  | cons b blocks ih =>
      rw [ofBlocks, List.flatMap_cons, List.length_append, Vector.length_toList, ← ofBlocks, ih,
        List.length_cons, Nat.mul_succ, Nat.add_comm]

theorem toList_firstBlock {data : Bytes} (h : n ≤ data.length) :
    (Vector.ofFn (n := n) fun i => data.getD i 0).toList = data.take n := by
  apply List.ext_getElem
  · simpa using h
  · intro i hi hi'
    have hlt : i < data.length := by simp at hi; omega
    simp [List.getElem?_eq_getElem hlt]

/-- Whole blocks put back together. -/
theorem ofBlocks_toBlocks {k : Nat} {data : Bytes} (h : data.length = n * k) :
    ofBlocks (toBlocks n k data) = data := by
  induction k generalizing data with
  | zero => rw [List.eq_nil_of_length_eq_zero h]; rfl
  | succ k ih =>
      rw [Nat.mul_succ] at h
      have hrest : (data.drop n).length = n * k := by rw [List.length_drop]; omega
      rw [toBlocks, ofBlocks, List.flatMap_cons, ← ofBlocks, ih hrest, toList_firstBlock (by omega),
        List.take_append_drop]

theorem toBlocks_ofBlocks (blocks : List (Vector UInt8 n)) :
    toBlocks n blocks.length (ofBlocks blocks) = blocks := by
  induction blocks with
  | nil => rfl
  | cons b blocks ih =>
      have hlen := b.length_toList
      have hone : n ≤ (ofBlocks (b :: blocks)).length := by
        rw [length_ofBlocks]
        exact Nat.le_mul_of_pos_right n (Nat.succ_pos _)
      have hfirst : (Vector.ofFn (n := n) fun i => (ofBlocks (b :: blocks)).getD i 0) = b := by
        apply Vector.toList_inj.mp
        rw [toList_firstBlock hone, ofBlocks, List.flatMap_cons, List.take_left' hlen]
      rw [List.length_cons, toBlocks, hfirst, ofBlocks, List.flatMap_cons, List.drop_left' hlen,
        ← ofBlocks, ih]

/-- Behind the first block stand the others. -/
theorem drop_ofBlocks (blocks : List (Vector UInt8 n)) :
    (ofBlocks blocks).drop n = ofBlocks blocks.tail := by
  cases blocks with
  | nil => rw [ofBlocks, List.flatMap_nil, List.drop_nil]; rfl
  | cons b blocks =>
      rw [ofBlocks, List.flatMap_cons, List.drop_left' b.length_toList]
      rfl

end Blocks

/-! ### The mode -/

/-- A block cipher: under a key, a map of blocks with an inverse. -/
structure BlockCipher (keyLen blockLen : Nat) where
  encrypt : Vector UInt8 keyLen → Vector UInt8 blockLen → Vector UInt8 blockLen
  decrypt : Vector UInt8 keyLen → Vector UInt8 blockLen → Vector UInt8 blockLen
  decrypt_encrypt : ∀ key block, decrypt key (encrypt key block) = block

def xorBlock {n : Nat} (a b : Vector UInt8 n) : Vector UInt8 n := Vector.zipWith (· ^^^ ·) a b

theorem xorBlock_cancel {n : Nat} (a b : Vector UInt8 n) : xorBlock (xorBlock a b) b = a := by
  ext i hi
  simp only [xorBlock, Vector.getElem_zipWith, UInt8.xor_assoc, UInt8.xor_self, UInt8.xor_zero]

namespace BlockCipher

variable {keyLen blockLen : Nat} (c : BlockCipher keyLen blockLen) (key : Vector UInt8 keyLen)

def encryptBlocks : Vector UInt8 blockLen → List (Vector UInt8 blockLen) →
    List (Vector UInt8 blockLen)
  | _, [] => []
  | prev, b :: blocks =>
      let out := c.encrypt key (xorBlock b prev)
      out :: encryptBlocks out blocks

def decryptBlocks : Vector UInt8 blockLen → List (Vector UInt8 blockLen) →
    List (Vector UInt8 blockLen)
  | _, [] => []
  | prev, b :: blocks => xorBlock (c.decrypt key b) prev :: decryptBlocks b blocks

theorem length_encryptBlocks (prev : Vector UInt8 blockLen) (blocks : List (Vector UInt8 blockLen)) :
    (c.encryptBlocks key prev blocks).length = blocks.length := by
  induction blocks generalizing prev with
  | nil => rfl
  | cons b blocks ih => rw [encryptBlocks, List.length_cons, List.length_cons, ih]

theorem length_decryptBlocks (prev : Vector UInt8 blockLen) (blocks : List (Vector UInt8 blockLen)) :
    (c.decryptBlocks key prev blocks).length = blocks.length := by
  induction blocks generalizing prev with
  | nil => rfl
  | cons b blocks ih => rw [decryptBlocks, List.length_cons, List.length_cons, ih]

theorem decryptBlocks_encryptBlocks (prev : Vector UInt8 blockLen)
    (blocks : List (Vector UInt8 blockLen)) :
    c.decryptBlocks key prev (c.encryptBlocks key prev blocks) = blocks := by
  induction blocks generalizing prev with
  | nil => rfl
  | cons b blocks ih => rw [encryptBlocks, decryptBlocks, ih, c.decrypt_encrypt, xorBlock_cancel]

theorem tail_decryptBlocks (prev prev' : Vector UInt8 blockLen)
    (blocks : List (Vector UInt8 blockLen)) :
    (c.decryptBlocks key prev blocks).tail = (c.decryptBlocks key prev' blocks).tail := by
  cases blocks <;> rfl

theorem length_ofBlocks_toBlocks {f : List (Vector UInt8 blockLen) → List (Vector UInt8 blockLen)}
    (hf : ∀ blocks, (f blocks).length = blocks.length) {data : Bytes} (h : blockLen ∣ data.length) :
    (ofBlocks (f (toBlocks blockLen (data.length / blockLen) data))).length = data.length := by
  rw [length_ofBlocks, hf, length_toBlocks, Nat.mul_div_cancel' h]

variable [NeZero blockLen]

/-- The cipher in CBC mode. -/
def cbc : CbcCipher keyLen blockLen where
  encrypt key iv plain :=
    ofBlocks (c.encryptBlocks key iv (toBlocks blockLen (plain.length / blockLen) plain))
  decrypt key iv cipher :=
    ofBlocks (c.decryptBlocks key iv (toBlocks blockLen (cipher.length / blockLen) cipher))
  length_encrypt key iv _ h := length_ofBlocks_toBlocks (c.length_encryptBlocks key iv) h
  length_decrypt key iv _ h := length_ofBlocks_toBlocks (c.length_decryptBlocks key iv) h
  decrypt_encrypt key iv plain h := by
    have hcount : blockLen * (c.encryptBlocks key iv
        (toBlocks blockLen (plain.length / blockLen) plain)).length / blockLen
          = (c.encryptBlocks key iv (toBlocks blockLen (plain.length / blockLen) plain)).length :=
      Nat.mul_div_cancel_left _ (NeZero.pos blockLen)
    rw [length_ofBlocks, hcount, toBlocks_ofBlocks, decryptBlocks_encryptBlocks,
      ofBlocks_toBlocks (Nat.mul_div_cancel' h).symm]

/-- The IV is felt in the first block alone. -/
theorem drop_decrypt_cbc (key : Vector UInt8 keyLen) (iv iv' : Vector UInt8 blockLen) (cipher : Bytes) :
    (c.cbc.decrypt key iv cipher).drop blockLen = (c.cbc.decrypt key iv' cipher).drop blockLen := by
  simp only [cbc, drop_ofBlocks]
  rw [c.tail_decryptBlocks key iv iv']

end BlockCipher

end DpapiForensic
