import DpapiForensic.Layout.Blob
import DpapiForensic.Decrypt

/-!
# Protecting a plaintext

The inverse of decryption, as impacket documents the format: which hash module and which cipher a
blob names, how the cipher key follows from the master key, and the two forms its signature may take.
A `Protection` is everything that goes into a blob; `Protection.wire` is the blob.
-/

namespace DpapiForensic

inductive BlobCipher where
  | aes256
  | tdes
  deriving DecidableEq, Repr

namespace BlobCipher

def algId : BlobCipher → UInt32
  | aes256 => calgAes256
  | tdes => calg3des

def keyLen : BlobCipher → Nat
  | aes256 => 32
  | tdes => 24

def blockLen : BlobCipher → Nat
  | aes256 => 16
  | tdes => 8

theorem blockLen_pos (c : BlobCipher) : 0 < c.blockLen := by
  cases c <;> decide

theorem blockLen_lt (c : BlobCipher) : c.blockLen < 256 := by
  cases c <;> decide

def cbc (crypto : Crypto) : (c : BlobCipher) → CbcCipher c.keyLen c.blockLen
  | aes256 => crypto.aes256
  | tdes => crypto.tdesEde3

end BlobCipher

inductive BlobHash where
  | sha1
  | hmac
  | sha512
  deriving DecidableEq, Repr

namespace BlobHash

def algId : BlobHash → UInt32
  | sha1 => calgSha1
  | hmac => calgHmac
  | sha512 => calgSha512

/-- The hash module: SHA-512 for all but SHA-1. -/
def isSha512 : BlobHash → Bool
  | sha1 => false
  | hmac => true
  | sha512 => true

def deriveBlockLen : BlobHash → Nat
  | sha1 => 64
  | hmac => 64
  | sha512 => 128

def blockLen : BlobHash → Nat
  | sha1 => 64
  | hmac => 128
  | sha512 => 128

/-- The algorithm's row in the table, with the digest length left open. -/
def row (h : BlobHash) (digestLen : Nat) : HashAlg where
  isSha512 := h.isSha512
  digestLen := digestLen
  deriveBlockLen := h.deriveBlockLen
  hashBlockLen := h.blockLen

end BlobHash

/-- The two accepted signatures: HMAC spelled out over its two pads, with entropy and signed region
in the outer hash, or HMAC of the parts in a row. -/
inductive SignForm where
  | pads
  | standard
  deriving DecidableEq, Repr

/-! ### Keys and signatures -/

/-- SHA-1 of the master key, whatever the blob's hash. -/
def keyHash (crypto : Crypto) (masterKey : Bytes) : Bytes := (crypto.sha1 masterKey).toList

/-- A key zero-filled to a block and masked. -/
def maskedBlock (blockLen : Nat) (mask : UInt8) (key : Bytes) : Bytes :=
  (key ++ List.replicate (blockLen - key.length) 0).map (· ^^^ mask)

/-- How many bits of a byte are set. -/
def ones (b : UInt8) : Nat := ((List.range 8).map fun i => b.toNat / 2 ^ i % 2).sum

/-- A byte of a DES key: seven bits kept, the lowest chosen so that an odd number of the eight is set. -/
def oddParity (b : UInt8) : UInt8 :=
  let high := UInt8.ofNat (2 * (b.toNat / 2))
  if ones high % 2 = 0 then high + 1 else high

theorem forall_byte {P : UInt8 → Prop} (h : ∀ n < 256, P (UInt8.ofNat n)) (b : UInt8) : P b := by
  simpa using h b.toNat b.toNat_lt

theorem oddParity_spec (b : UInt8) :
    ones (oddParity b) % 2 = 1 ∧ (oddParity b).toNat / 2 = b.toNat / 2 := by
  apply forall_byte (P := fun b => ones (oddParity b) % 2 = 1 ∧
    (oddParity b).toNat / 2 = b.toNat / 2)
  decide +kernel

structure KeySource where
  hash : BlobHash
  salt : Bytes
  masterKey : Bytes
  entropy : Option Bytes

namespace KeySource

variable (crypto : Crypto) (k : KeySource) (c : BlobCipher)

/-- What the entropy adds to a message: its bytes, or nothing. -/
def entropyAdded : Bytes :=
  match k.entropy with
  | none => []
  | some entropy => entropy

def sessionKey : Bytes :=
  (crypto.hmac k.hash.isSha512 (keyHash crypto k.masterKey) (k.salt ++ k.entropyAdded)).toList

/-- Key bytes for the cipher: the session key when it has enough, else its expansion with the parity
of each byte made odd. -/
def keyMaterial : Bytes :=
  if c.keyLen ≤ (k.sessionKey crypto).length then k.sessionKey crypto
  else
    ((crypto.digest k.hash.isSha512
        (maskedBlock k.hash.deriveBlockLen 0x36 (k.sessionKey crypto))).toList ++
      (crypto.digest k.hash.isSha512
        (maskedBlock k.hash.deriveBlockLen 0x5c (k.sessionKey crypto))).toList).map oddParity

theorem length_sessionKey : (k.sessionKey crypto).length = macLen k.hash.isSha512 := by
  simp [sessionKey]

/-- Whatever the hash and the cipher, the derivation yields enough key bytes. -/
theorem keyLen_le_keyMaterial : c.keyLen ≤ (k.keyMaterial crypto c).length := by
  unfold keyMaterial
  split
  · assumption
  · simp only [List.length_map, List.length_append, Vector.length_toList]
    cases c <;> cases k.hash <;> decide

def cipherKey : Vector UInt8 c.keyLen :=
  ⟨((k.keyMaterial crypto c).take c.keyLen).toArray, by
    simpa using k.keyLen_le_keyMaterial crypto c⟩

def signature (form : SignForm) (hmac signed : Bytes) : Vector UInt8 (macLen k.hash.isSha512) :=
  match form with
  | .pads =>
      crypto.digest k.hash.isSha512
        (maskedBlock k.hash.blockLen 0x5c (keyHash crypto k.masterKey) ++
          (crypto.digest k.hash.isSha512
            (maskedBlock k.hash.blockLen 0x36 (keyHash crypto k.masterKey) ++ hmac)).toList ++
          k.entropyAdded ++ signed)
  | .standard =>
      crypto.hmac k.hash.isSha512 (keyHash crypto k.masterKey)
        (hmac ++ k.entropyAdded ++ signed)

def Signs (hmac signed sign : Bytes) : Prop :=
  ∃ form, (k.signature crypto form hmac signed).toList = sign

instance (hmac signed sign : Bytes) : Decidable (k.Signs crypto hmac signed sign) :=
  decidable_of_iff
    ((k.signature crypto .pads hmac signed).toList = sign ∨
      (k.signature crypto .standard hmac signed).toList = sign)
    ⟨fun h => h.elim (fun h => ⟨.pads, h⟩) fun h => ⟨.standard, h⟩, fun ⟨form, h⟩ => by
      cases form
      · exact Or.inl h
      · exact Or.inr h⟩

end KeySource

/-! ### Blobs -/

structure Protection where
  version : UInt32
  version_supported : version = 1 ∨ version = 2
  mkVersion : UInt32
  masterKeyGuid : Vector UInt8 16
  flags : UInt32
  description : Field
  cipher : BlobCipher
  cryptAlgoLen : UInt32
  salt : Field
  hmacKey : Field
  hash : BlobHash
  hashAlgoLen : UInt32
  hmac : Field
  form : SignForm
  masterKey : Bytes
  entropy : Option Bytes
  plaintext : Bytes
  fits : (pkcs7Pad cipher.blockLen plaintext).length < 2 ^ 32

namespace Protection

variable (crypto : Crypto) (p : Protection)

def keys : KeySource where
  hash := p.hash
  salt := p.salt.val
  masterKey := p.masterKey
  entropy := p.entropy

/-- CBC under a zero IV, of the padded plaintext. -/
def ciphertext : Bytes :=
  (p.cipher.cbc crypto).encrypt (p.keys.cipherKey crypto p.cipher)
    (Vector.replicate p.cipher.blockLen 0) (pkcs7Pad p.cipher.blockLen p.plaintext)

theorem length_plaintext_lt : p.plaintext.length < 2 ^ 32 := by
  have hfits := p.fits
  rw [pkcs7Pad, List.length_append] at hfits
  omega

theorem length_ciphertext :
    (p.ciphertext crypto).length = (pkcs7Pad p.cipher.blockLen p.plaintext).length :=
  (p.cipher.cbc crypto).length_encrypt _ _ _ (dvd_length_pkcs7Pad p.cipher.blockLen_pos _)

def unsigned : WireBlob where
  version := p.version
  version_supported := p.version_supported
  mkVersion := p.mkVersion
  masterKeyGuid := p.masterKeyGuid
  flags := p.flags
  description := p.description
  algIdEncrypt := p.cipher.algId
  cryptAlgoLen := p.cryptAlgoLen
  salt := p.salt
  hmacKey := p.hmacKey
  algIdHash := p.hash.algId
  hashAlgoLen := p.hashAlgoLen
  hmac := p.hmac
  ciphertext := ⟨p.ciphertext crypto, by rw [length_ciphertext]; exact p.fits⟩
  sign := ⟨[], fits_nil⟩

def signature : Vector UInt8 (macLen p.hash.isSha512) :=
  p.keys.signature crypto p.form p.hmac.val (p.unsigned crypto).signedBytes

theorem macLen_lt (isSha512 : Bool) : macLen isSha512 < 2 ^ 32 :=
  (macLen_le isSha512).trans_lt (by decide)

def wire : WireBlob :=
  { p.unsigned crypto with
    sign := ⟨(p.signature crypto).toList, by simpa using macLen_lt p.hash.isSha512⟩ }

end Protection

end DpapiForensic
