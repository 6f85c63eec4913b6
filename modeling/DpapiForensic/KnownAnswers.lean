import DpapiForensic.Env
import DpapiForensic.Lib.Cbc
import Mathlib.Logic.Equiv.Basic

/-!
# Primitives from known answers

A primitive known at finitely many inputs. A hash is a table. A cipher is a lawful one that exchanges
a plaintext's image with its known ciphertext, so that it stays invertible whatever it is told. The
repository's test vectors become environments of the model this way, without an implementation of
SHA-2 or AES.
-/

namespace DpapiForensic

section Ciphers

variable {keyLen blockLen nonceLen tagLen : Nat}

theorem length_swap {a b : Bytes} (h : a.length = b.length) (x : Bytes) :
    (Equiv.swap a b x).length = x.length := by
  rw [Equiv.swap_apply_def]
  split_ifs with ha hb
  · rw [ha, h]
  · rw [hb, h]
  · rfl

def CbcCipher.identity (keyLen blockLen : Nat) : CbcCipher keyLen blockLen where
  encrypt _ _ plain := plain
  decrypt _ _ cipher := cipher
  length_encrypt _ _ _ _ := rfl
  length_decrypt _ _ _ _ := rfl
  decrypt_encrypt _ _ _ _ := rfl

/-- A cipher with one known answer: under that key and IV it exchanges plaintext and ciphertext. -/
def CbcCipher.withAnswer (c : CbcCipher keyLen blockLen) (key : Vector UInt8 keyLen)
    (iv : Vector UInt8 blockLen) (plain cipher : Bytes) (h : plain.length = cipher.length) :
    CbcCipher keyLen blockLen where
  encrypt k v x := if k = key ∧ v = iv then Equiv.swap plain cipher x else c.encrypt k v x
  decrypt k v x := if k = key ∧ v = iv then Equiv.swap plain cipher x else c.decrypt k v x
  length_encrypt k v x hx := by
    split
    · exact length_swap h x
    · exact c.length_encrypt k v x hx
  length_decrypt k v x hx := by
    split
    · exact length_swap h x
    · exact c.length_decrypt k v x hx
  decrypt_encrypt k v x hx := by
    by_cases hkey : k = key ∧ v = iv
    · simp only [if_pos hkey, Equiv.swap_apply_self]
    · simp only [if_neg hkey, c.decrypt_encrypt k v x hx]

theorem CbcCipher.encrypt_withAnswer (c : CbcCipher keyLen blockLen) (key : Vector UInt8 keyLen)
    (iv : Vector UInt8 blockLen) {plain cipher : Bytes} (h : plain.length = cipher.length) :
    (c.withAnswer key iv plain cipher h).encrypt key iv plain = cipher := by
  simp only [withAnswer, and_self, if_true, Equiv.swap_apply_left]

def BlockCipher.identity (keyLen blockLen : Nat) : BlockCipher keyLen blockLen where
  encrypt _ block := block
  decrypt _ block := block
  decrypt_encrypt _ _ := rfl

/-- A block cipher with one known answer. -/
def BlockCipher.withAnswer (c : BlockCipher keyLen blockLen) (key : Vector UInt8 keyLen)
    (plain cipher : Vector UInt8 blockLen) : BlockCipher keyLen blockLen where
  encrypt k b :=
    if k = key then Equiv.swap (c.encrypt key plain) cipher (c.encrypt k b) else c.encrypt k b
  decrypt k b :=
    if k = key then c.decrypt k (Equiv.swap (c.encrypt key plain) cipher b) else c.decrypt k b
  decrypt_encrypt k b := by
    by_cases hkey : k = key
    · simp only [if_pos hkey, Equiv.swap_apply_self, c.decrypt_encrypt]
    · simp only [if_neg hkey, c.decrypt_encrypt]

def Aead.zeroTag (keyLen nonceLen tagLen : Nat) : Aead keyLen nonceLen tagLen where
  encrypt _ _ plain := plain ++ List.replicate tagLen 0
  decrypt _ _ cipher :=
    if cipher.drop (cipher.length - tagLen) = List.replicate tagLen 0 then
      some (cipher.take (cipher.length - tagLen))
    else none
  length_encrypt _ _ _ := by simp
  decrypt_encrypt _ _ _ := by simp

/-- An authenticated cipher with one known answer. -/
def Aead.withAnswer (c : Aead keyLen nonceLen tagLen) (key : Vector UInt8 keyLen)
    (nonce : Vector UInt8 nonceLen) (plain cipher : Bytes)
    (h : plain.length + tagLen = cipher.length) : Aead keyLen nonceLen tagLen where
  encrypt k v x :=
    if k = key ∧ v = nonce then Equiv.swap (c.encrypt key nonce plain) cipher (c.encrypt k v x)
    else c.encrypt k v x
  decrypt k v x :=
    if k = key ∧ v = nonce then c.decrypt k v (Equiv.swap (c.encrypt key nonce plain) cipher x)
    else c.decrypt k v x
  length_encrypt k v x := by
    split
    · rw [length_swap (by rw [c.length_encrypt, h]), c.length_encrypt]
    · exact c.length_encrypt k v x
  decrypt_encrypt k v x := by
    by_cases hkey : k = key ∧ v = nonce
    · simp only [if_pos hkey, Equiv.swap_apply_self, c.decrypt_encrypt]
    · simp only [if_neg hkey, c.decrypt_encrypt]

theorem Aead.encrypt_withAnswer (c : Aead keyLen nonceLen tagLen) (key : Vector UInt8 keyLen)
    (nonce : Vector UInt8 nonceLen) {plain cipher : Bytes}
    (h : plain.length + tagLen = cipher.length) :
    (c.withAnswer key nonce plain cipher h).encrypt key nonce plain = cipher := by
  simp only [withAnswer, and_self, if_true, Equiv.swap_apply_left]

end Ciphers

/-! ### Tables -/

abbrev DigestTable (n : Nat) := List (Bytes × Vector UInt8 n)

abbrev MacTable (n : Nat) := List ((Bytes × Bytes) × Vector UInt8 n)

structure KnownAnswers where
  sha1 : DigestTable 20 := []
  sha512 : DigestTable 64 := []
  hmacSha1 : MacTable 20 := []
  hmacSha512 : MacTable 64 := []
  aes256 : CbcCipher 32 16 := .identity 32 16
  tdesEde3 : CbcCipher 24 8 := .identity 24 8
  aes256Gcm : Aead 32 12 16 := .zeroTag 32 12 16

/-- The primitives that give the known answers, and zeros where nothing is known. -/
def KnownAnswers.crypto (known : KnownAnswers) : Crypto where
  sha1 msg := (known.sha1.lookup msg).getD (Vector.replicate 20 0)
  sha512 msg := (known.sha512.lookup msg).getD (Vector.replicate 64 0)
  hmacSha1 key msg := (known.hmacSha1.lookup (key, msg)).getD (Vector.replicate 20 0)
  hmacSha512 key msg := (known.hmacSha512.lookup (key, msg)).getD (Vector.replicate 64 0)
  aes256 := known.aes256
  tdesEde3 := known.tdesEde3
  aes256Gcm := known.aes256Gcm

/-- A release build with the linked tables and the known answers. No JSON is read. -/
def KnownAnswers.env (known : KnownAnswers) : Env where
  profile := .release
  nomicon := linkedTables
  crypto := known.crypto
  base64 := .standard
  jsonFromStr _ := .error "unknown"

/-! ### What the known blobs share -/

theorem version_one_supported : (1 : UInt32) = 1 ∨ (1 : UInt32) = 2 := Or.inl rfl

theorem fits_nulText : ([0, 0] : Bytes).length < 2 ^ 32 := by decide

theorem fits_zeros : (List.replicate 64 0 : Bytes).length < 2 ^ 32 := by decide

end DpapiForensic
