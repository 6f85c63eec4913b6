import DpapiForensic.Lib.Base64
import DpapiForensic.Lib.Cipher

/-!
# What the code links against

The two crates call others: the RustCrypto primitives, the `forensicnomicon` tables, `base64` and
`serde_json`. None of these is in the repository, so they are parameters, gathered with the build
profile in one `Env`. What a primitive's own type already promises (a SHA-1 digest has 20 bytes, CBC
decryption inverts CBC encryption) is in its type here too; what the code relies on about the tables
is the hypothesis `Nomicon.IsImpacket`.
-/

namespace DpapiForensic

inductive DpapiError where
  | tooShort (needed got : Nat)
  | unsupportedVersion (version : UInt32)
  | notDpapiProvider (guid : String)
  | unsupportedAlgId (algId : UInt32)
  | invalidKeyLength
  | decryptionFailed
  | hmacMismatch
  | utf16Error
  | domainBackupUnsupported
  | base64Error
  | missingDpapiPrefix (shown : String)
  | unexpectedKeyLength (expected got : Nat)
  | invalidHex (reason : String)
  deriving DecidableEq, Repr

/-! ### The knowledge tables -/

/-- `forensicnomicon::dpapi::HashAlgInfo`, re-exported as `HashAlg`. -/
structure HashAlg where
  isSha512 : Bool
  digestLen : Nat
  deriveBlockLen : Nat
  hashBlockLen : Nat
  deriving DecidableEq, Repr

structure CipherAlg where
  keyLen : Nat
  ivLen : Nat
  deriving DecidableEq, Repr

def calgSha1 : UInt32 := 0x8004
def calgHmac : UInt32 := 0x8009
def calgSha512 : UInt32 := 0x800e
def calgAes256 : UInt32 := 0x6610
def calg3des : UInt32 := 0x6603

/-- `PROVIDER_GUID_BYTES`, the GUID the blobs of the repository's own tests carry. -/
def providerGuidBytes : Vector UInt8 16 :=
  #v[0xd0, 0x8c, 0x9d, 0xdf, 0x01, 0x15, 0xd1, 0x11, 0x8c, 0x7a, 0x00, 0xc0, 0x4f, 0xc2, 0x97, 0xeb]

def chromeCookieV10 : Bytes := [0x76, 0x31, 0x30]

def chromeCookieV20 : Bytes := [0x76, 0x32, 0x30]

/-- The `forensicnomicon` tables. -/
structure Nomicon where
  hashAlgInfo : UInt32 → Option HashAlg
  cipherAlgInfo : UInt32 → Option CipherAlg

/-- The tables hold impacket's rows and no others. The digest lengths, which impacket and the linked tables
do not agree on, are left open. -/
structure Nomicon.IsImpacket (t : Nomicon) : Prop where
  sha1_row : ∃ digestLen, t.hashAlgInfo calgSha1 = some ⟨false, digestLen, 64, 64⟩
  hmac_row : ∃ digestLen, t.hashAlgInfo calgHmac = some ⟨true, digestLen, 64, 128⟩
  sha512_row : ∃ digestLen, t.hashAlgInfo calgSha512 = some ⟨true, digestLen, 128, 128⟩
  no_other_hash : ∀ algId, algId ≠ calgSha1 → algId ≠ calgHmac → algId ≠ calgSha512 →
    t.hashAlgInfo algId = none
  aes256_row : t.cipherAlgInfo calgAes256 = some ⟨32, 16⟩
  tdes_row : t.cipherAlgInfo calg3des = some ⟨24, 8⟩
  no_other_cipher : ∀ algId, algId ≠ calgAes256 → algId ≠ calg3des → t.cipherAlgInfo algId = none

/-- The rows of `forensicnomicon` 1.0.0: impacket's `ALGORITHMS_DATA`, with 64 bytes of digest for the two
hashes of SHA-512, where impacket has 20 and 16. -/
def linkedTables : Nomicon where
  hashAlgInfo algId :=
    if algId = calgSha1 then some ⟨false, 20, 64, 64⟩
    else if algId = calgHmac then some ⟨true, 64, 64, 128⟩
    else if algId = calgSha512 then some ⟨true, 64, 128, 128⟩
    else none
  cipherAlgInfo algId :=
    if algId = calgAes256 then some ⟨32, 16⟩
    else if algId = calg3des then some ⟨24, 8⟩
    else none

theorem linkedTables_isImpacket : linkedTables.IsImpacket where
  sha1_row := ⟨20, rfl⟩
  hmac_row := ⟨64, rfl⟩
  sha512_row := ⟨64, rfl⟩
  no_other_hash algId h h' h'' := by simp [linkedTables, h, h', h'']
  aes256_row := rfl
  tdes_row := rfl
  no_other_cipher algId h h' := by simp [linkedTables, h, h']

/-! ### The primitives -/

/-- Output length of the selected hash module: SHA-512 or SHA-1. -/
def macLen : Bool → Nat
  | true => 64
  | false => 20

theorem macLen_le (isSha512 : Bool) : macLen isSha512 ≤ 64 := by
  cases isSha512 <;> decide

instance (isSha512 : Bool) : NeZero (macLen isSha512) := ⟨by cases isSha512 <;> decide⟩

/-- The RustCrypto primitives. HMAC takes a key of any length. -/
structure Crypto where
  sha1 : Bytes → Vector UInt8 20
  sha512 : Bytes → Vector UInt8 64
  hmacSha1 : Bytes → Bytes → Vector UInt8 20
  hmacSha512 : Bytes → Bytes → Vector UInt8 64
  aes256 : CbcCipher 32 16
  tdesEde3 : CbcCipher 24 8
  aes256Gcm : Aead 32 12 16

def Crypto.digest (crypto : Crypto) : (isSha512 : Bool) → Bytes → Vector UInt8 (macLen isSha512)
  | true, msg => crypto.sha512 msg
  | false, msg => crypto.sha1 msg

/-- `Hmac::<Sha512>` or `Hmac::<Sha1>` of a message under a key. -/
def Crypto.hmac (crypto : Crypto) :
    (isSha512 : Bool) → Bytes → Bytes → Vector UInt8 (macLen isSha512)
  | true, key, msg => crypto.hmacSha512 key msg
  | false, key, msg => crypto.hmacSha1 key msg

inductive JsonValue where
  | null
  | bool (b : Bool)
  | number (text : String)
  | string (s : String)
  | array (items : List JsonValue)
  | object (entries : List (String × JsonValue))

def JsonValue.get (key : String) : JsonValue → Option JsonValue
  | .object entries => entries.lookup key
  | _ => none

def JsonValue.asStr : JsonValue → Option String
  | .string s => some s
  | _ => none

/-- The build profile and the linked crates. `jsonFromStr` is `serde_json::from_str`, its error as
displayed. -/
structure Env where
  profile : Profile
  nomicon : Nomicon
  crypto : Crypto
  base64 : Base64
  jsonFromStr : String → Except String JsonValue

end DpapiForensic
