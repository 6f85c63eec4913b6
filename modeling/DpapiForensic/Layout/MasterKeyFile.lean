import DpapiForensic.MasterKey
import DpapiForensic.Layout.Protection

/-!
# The master-key file's format, and protecting a master key

The 128-byte header with its four declared lengths, the `MasterKey` sub-blob, and the inverse of
recovery: a master key goes in behind a salt and a truncated MAC, encrypted under key material that is
iterated out of the user's pre-key.
-/

namespace DpapiForensic

/-! ### The file -/

structure MasterKeyHeader where
  version : UInt32
  unk1 : UInt32
  unk2 : UInt32
  guid : Vector UInt8 72
  unknown : UInt32
  policy : UInt32
  flags : UInt32

structure DeclaredLengths where
  masterKey : UInt64
  backupKey : UInt64
  credHist : UInt64
  domainKey : UInt64

def MasterKeyHeader.bytes (header : MasterKeyHeader) (lens : DeclaredLengths) : Bytes :=
  le32 header.version ++ (le32 header.unk1 ++ (le32 header.unk2 ++ (header.guid.toList ++
    (le32 header.unknown ++ (le32 header.policy ++ (le32 header.flags ++ (le64 lens.masterKey ++
      (le64 lens.backupKey ++ (le64 lens.credHist ++ le64 lens.domainKey)))))))))

@[simp] theorem MasterKeyHeader.length_bytes (header : MasterKeyHeader) (lens : DeclaredLengths) :
    (header.bytes lens).length = 128 := by
  simp [bytes]

/-! ### The sub-blob -/

def MasterKey.bytes (mk : MasterKey) : Bytes :=
  le32 mk.version ++ (mk.salt.toList ++ (le32 mk.rounds ++ (le32 mk.algIdHash ++
    (le32 mk.algIdEncrypt ++ mk.data))))

/-- A master-key file: a header that declares the sub-blobs, and the sub-blobs. -/
structure WireMasterKeyFile where
  header : MasterKeyHeader
  masterKey : MasterKey
  backupKey : Bytes
  credHist : Bytes
  domainKey : Bytes

namespace WireMasterKeyFile

variable (w : WireMasterKeyFile)

def lengths : DeclaredLengths where
  masterKey := UInt64.ofNat w.masterKey.bytes.length
  backupKey := UInt64.ofNat w.backupKey.length
  credHist := UInt64.ofNat w.credHist.length
  domainKey := UInt64.ofNat w.domainKey.length

def bytes : Bytes :=
  w.header.bytes w.lengths ++
    (w.masterKey.bytes ++ (w.backupKey ++ (w.credHist ++ w.domainKey)))

end WireMasterKeyFile

/-! ### Protecting a master key -/

/-- The hash module of a master key: SHA-512 for SHA-512 only. -/
def BlobHash.masterKeyModule : BlobHash → Bool
  | sha1 => false
  | hmac => false
  | sha512 => true

/-- What the derivation of a master key relies on in the tables: the two modules, the two ciphers, and no
digest longer than SHA-512's. A digest may still be longer than what the module puts out: the linked tables
have 64 bytes for HMAC, whose module is SHA-1. Then no stored MAC ever passes. -/
structure Nomicon.MasterKeyRows (t : Nomicon) (digestLen : BlobHash → Nat) : Prop where
  sha1_row : ∃ row, t.hashAlgInfo calgSha1 = some row ∧ row.isSha512 = false ∧
    row.digestLen = digestLen .sha1
  hmac_row : ∃ row, t.hashAlgInfo calgHmac = some row ∧ row.digestLen = digestLen .hmac
  sha512_row : ∃ row, t.hashAlgInfo calgSha512 = some row ∧ row.isSha512 = true ∧
    row.digestLen = digestLen .sha512
  digestLen_le : ∀ h, digestLen h ≤ 64
  aes256_row : t.cipherAlgInfo calgAes256 = some ⟨32, 16⟩
  tdes_row : t.cipherAlgInfo calg3des = some ⟨24, 8⟩

structure MasterKeyProtection where
  header : MasterKeyHeader
  version : UInt32
  salt : Vector UInt8 16
  rounds : UInt32
  hash : BlobHash
  cipher : BlobCipher
  hmacSalt : Vector UInt8 16
  filler : Bytes
  masterKey : Vector UInt8 64
  backupKey : Bytes
  credHist : Bytes
  domainKey : Bytes
  sid : String
  password : String

namespace MasterKeyProtection

variable (crypto : Crypto) (digestLen : BlobHash → Nat) (p : MasterKeyProtection)

/-- The user's pre-key: the SID, with its NUL, under the hashed password. -/
def preKey : Vector UInt8 20 :=
  crypto.hmacSha1 (crypto.sha1 (utf16leBytes p.password)).toList (utf16leBytes p.sid ++ [0, 0])

def mac (key msg : Bytes) : Vector UInt8 (macLen p.hash.masterKeyModule) :=
  crypto.hmac p.hash.masterKeyModule key msg

def keyIv : Bytes :=
  keyStream (p.mac crypto (p.preKey crypto).toList) p.salt.toList p.rounds.toNat
    (p.cipher.keyLen + p.cipher.blockLen)

def cipherKey : Vector UInt8 p.cipher.keyLen :=
  ⟨((p.keyIv crypto).take p.cipher.keyLen).toArray, by simp [keyIv]⟩

def iv : Vector UInt8 p.cipher.blockLen :=
  ⟨((p.keyIv crypto).drop p.cipher.keyLen).toArray, by simp [keyIv]⟩

/-- The start of the MAC that guards the master key. -/
def storedHmac : Bytes :=
  (p.mac crypto (p.mac crypto (p.preKey crypto).toList p.hmacSalt.toList).toList
    p.masterKey.toList).toList.take (digestLen p.hash)

def cleartext : Bytes :=
  p.hmacSalt.toList ++ (p.storedHmac crypto digestLen ++ (p.filler ++ p.masterKey.toList))

def subBlob : MasterKey where
  version := p.version
  salt := p.salt
  rounds := p.rounds
  algIdHash := p.hash.algId
  algIdEncrypt := p.cipher.algId
  data := (p.cipher.cbc crypto).encrypt (p.cipherKey crypto) (p.iv crypto)
    (p.cleartext crypto digestLen)

def lengths : DeclaredLengths where
  masterKey := UInt64.ofNat (p.subBlob crypto digestLen).bytes.length
  backupKey := UInt64.ofNat p.backupKey.length
  credHist := UInt64.ofNat p.credHist.length
  domainKey := UInt64.ofNat p.domainKey.length

def file : Bytes :=
  p.header.bytes (p.lengths crypto digestLen) ++ ((p.subBlob crypto digestLen).bytes ++
    (p.backupKey ++ (p.credHist ++ p.domainKey)))

end MasterKeyProtection

end DpapiForensic
