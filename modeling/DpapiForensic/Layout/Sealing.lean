import DpapiForensic.Layout.Protection

/-!
# Sealed plaintexts

When a blob is the protection of a plaintext, said of the blob alone: its ciphertext is the encryption
of the padded plaintext under the key its own fields derive, and its signature is one of the two that
cover its own signed region. A blob names its hash by a number, and a number the table does not know
stands for SHA-1, so a sealed blob need not be one that `Protection` mints.
-/

namespace DpapiForensic

/-- The hash that a blob's `algIdHash` stands for. -/
def BlobHash.ofAlgId (algId : UInt32) : BlobHash :=
  if algId = calgHmac then .hmac else if algId = calgSha512 then .sha512 else .sha1

@[simp] theorem BlobHash.ofAlgId_algId (h : BlobHash) : BlobHash.ofAlgId h.algId = h := by
  cases h <;> rfl

namespace WireBlob

variable (crypto : Crypto) (w : WireBlob) (masterKey : Bytes) (entropy : Option Bytes)

def keys : KeySource where
  hash := .ofAlgId w.algIdHash
  salt := w.salt.val
  masterKey := masterKey
  entropy := entropy

def Encrypts (plain : Bytes) : Prop :=
  ∃ c : BlobCipher, w.algIdEncrypt = c.algId ∧
    w.ciphertext.val = (c.cbc crypto).encrypt ((w.keys masterKey entropy).cipherKey crypto c)
      (Vector.replicate c.blockLen 0) (pkcs7Pad c.blockLen plain)

/-- The blob protects the plaintext under the master key and the entropy. -/
structure Seals (plain : Bytes) : Prop where
  encrypts : w.Encrypts crypto masterKey entropy plain
  signs : (w.keys masterKey entropy).Signs crypto w.hmac.val w.signedBytes w.sign.val

end WireBlob

/-- The data starts with a blob that protects the plaintext. Whatever follows it is ignored. -/
def IsSealed (crypto : Crypto) (masterKey : Bytes) (entropy : Option Bytes) (data plain : Bytes) :
    Prop :=
  ∃ (w : WireBlob) (rest : Bytes), data = w.bytes ++ rest ∧ w.Seals crypto masterKey entropy plain

end DpapiForensic
