import DpapiForensic.Decrypt
import DpapiForensic.Lib.XorKdf

/-!
# Master-key files (`core/src/masterkey.rs`)

The reader, unlike the blob's, fails on a read past the end. Its four sub-blob lengths are full `u64`s,
and the sums they enter are computed with a bare `+`.
-/

namespace DpapiForensic

open Decrypt

namespace MasterKey

def headerLen : Nat := 128

def masterKeyLen : Nat := 64

end MasterKey

open MasterKey

structure MasterKeyFile where
  version : UInt32
  guid : String
  policy : UInt32
  flags : UInt32
  masterKey : Bytes
  backupKey : Bytes
  credHist : Bytes
  domainKey : Bytes
  deriving DecidableEq

/-- `MasterKey`, the sub-blob. -/
structure MasterKey where
  version : UInt32
  salt : Vector UInt8 16
  rounds : UInt32
  algIdHash : UInt32
  algIdEncrypt : UInt32
  data : Bytes
  deriving DecidableEq

namespace MasterKey

/-- The `n` bytes at the cursor, or the error that names what was needed. -/
def readArray (env : Env) (n : Nat) (data : Bytes) (pos : Nat) :
    Outcome DpapiError (Vector UInt8 n × Nat) := do
  let stop ← usizeAdd env.profile pos n
  let needed ← usizeAdd env.profile pos n
  let slice ← Outcome.okOr ((getRange data pos stop).bind (tryIntoArray n))
    (.tooShort needed data.length)
  let pos ← usizeAdd env.profile pos n
  pure (slice, pos)

def readU32 (env : Env) (data : Bytes) (pos : Nat) : Outcome DpapiError (UInt32 × Nat) := do
  let (slice, pos) ← readArray env 4 data pos
  pure (u32FromLe slice.toList, pos)

def readU64 (env : Env) (data : Bytes) (pos : Nat) : Outcome DpapiError (UInt64 × Nat) := do
  let (slice, pos) ← readArray env 8 data pos
  pure (u64FromLe slice.toList, pos)

/-- The closure `take`, with the cursor it captures. The error value is built before it is needed. -/
def takeSub (env : Env) (data : Bytes) (pos len : Nat) : Outcome DpapiError (Bytes × Nat) := do
  let stop ← usizeAdd env.profile pos len
  let needed ← usizeAdd env.profile pos len
  let slice ← Outcome.okOr (getRange data pos stop) (.tooShort needed data.length)
  let pos ← usizeAdd env.profile pos len
  pure (slice, pos)

end MasterKey

def parseMasterkeyFile (env : Env) (data : Bytes) : Outcome DpapiError MasterKeyFile := do
  Outcome.failIf (data.length < headerLen) (.tooShort headerLen data.length)
  let pos := 0
  let (version, pos) ← readU32 env data pos
  let (_unk1, pos) ← readU32 env data pos
  let (_unk2, pos) ← readU32 env data pos
  let stop ← usizeAdd env.profile pos 72
  let guidBytes ← sliceRange data pos stop
  let guid := decodeUtf16le guidBytes
  let pos ← usizeAdd env.profile pos 72
  let (_unknown, pos) ← readU32 env data pos
  let (policy, pos) ← readU32 env data pos
  let (flags, pos) ← readU32 env data pos
  let (masterKeyLen, pos) ← readU64 env data pos
  let (backupKeyLen, pos) ← readU64 env data pos
  let (credHistLen, pos) ← readU64 env data pos
  let (domainKeyLen, pos) ← readU64 env data pos
  debugAssert env.profile (pos = headerLen)
  let (masterKey, pos) ← takeSub env data pos masterKeyLen.toNat
  let (backupKey, pos) ← takeSub env data pos backupKeyLen.toNat
  let (credHist, pos) ← takeSub env data pos credHistLen.toNat
  let (domainKey, _pos) ← takeSub env data pos domainKeyLen.toNat
  pure { version, guid, policy, flags, masterKey, backupKey, credHist, domainKey }

def parseMasterKey (env : Env) (data : Bytes) : Outcome DpapiError MasterKey := do
  Outcome.failIf (data.length < 32) (.tooShort 32 data.length)
  let pos := 0
  let (version, pos) ← readU32 env data pos
  let stop ← usizeAdd env.profile pos 16
  let saltBytes ← sliceRange data pos stop
  let salt ← copyFromSlice 16 saltBytes
  let pos ← usizeAdd env.profile pos 16
  let (rounds, pos) ← readU32 env data pos
  let (algIdHash, pos) ← readU32 env data pos
  let (algIdEncrypt, pos) ← readU32 env data pos
  let payload ← sliceRange data pos data.length
  pure { version, salt, rounds, algIdHash, algIdEncrypt, data := payload }

namespace MasterKey

def usesSha512 (env : Env) (algIdHash : UInt32) : Outcome DpapiError Bool :=
  if algIdHash = calgHmac then .ok false
  else Outcome.okOr ((env.nomicon.hashAlgInfo algIdHash).map (·.isSha512))
    (.unsupportedAlgId algIdHash)

/-- The row `prf` selects its module by. -/
def prfAlg (env : Env) (isSha512 : Bool) : HashAlg :=
  hashAlg env (if isSha512 then calgSha512 else calgSha1)

def prf (env : Env) (isSha512 : Bool) (key msg : Bytes) :
    Outcome DpapiError (Vector UInt8 (macLen (prfAlg env isSha512).isSha512)) :=
  hmacHash env (prfAlg env isSha512) key msg

section DeriveKey

variable {h : Nat} (prf : Bytes → Outcome DpapiError (Vector UInt8 h))

/-- `for _ in 0..n`: xor the block with the function at itself, byte by byte. -/
def xorRounds : Nat → Vector UInt8 h → Outcome DpapiError (Vector UInt8 h)
  | 0, derived => pure derived
  | n + 1, derived => do
      let actual ← prf derived.toList
      xorRounds n (Vector.zipWith (· ^^^ ·) derived actual)

/-- `while key_material.len() < keylen`. The counter is a `u32`, and is advanced before its block. -/
def deriveLoop [NeZero h] (profile : Profile) (salt : Bytes) (keylen count i : Nat)
    (keyMaterial : Bytes) : Outcome DpapiError Bytes :=
  if keyMaterial.length < keylen then do
    let u := salt ++ be32 i
    let i ← wordAdd 32 profile i 1
    let derived ← prf u
    let derived ← xorRounds prf (count - 1) derived
    deriveLoop profile salt keylen count i (keyMaterial ++ derived.toList)
  else pure keyMaterial
termination_by keylen - keyMaterial.length
decreasing_by
  have := NeZero.pos h
  simp only [List.length_append, Vector.length_toList]
  omega

/-- `derive_key` over a PRF under the passphrase. -/
def deriveKeyWith [NeZero h] (profile : Profile) (salt : Bytes) (keylen count : Nat) :
    Outcome DpapiError Bytes := do
  let capacity ← usizeAdd profile keylen 64
  withCapacity capacity
  let keyMaterial ← deriveLoop prf profile salt keylen count 1 []
  pure (keyMaterial.take keylen)

end DeriveKey

def deriveKey (env : Env) (isSha512 : Bool) (passphrase salt : Bytes) (keylen : Nat)
    (count : UInt32) : Outcome DpapiError Bytes :=
  deriveKeyWith (prf env isSha512 passphrase) env.profile salt keylen count.toNat

def cbcDecryptNoPad {keyLen blockLen : Nat} (c : CbcCipher keyLen blockLen)
    (key iv ciphertext : Bytes) : Outcome DpapiError Bytes := do
  let dec ← Outcome.okOr (c.newFromSlices key iv) .invalidKeyLength
  Outcome.okOr (c.decryptPadded noPaddingUnpadBlocks dec ciphertext) .decryptionFailed

end MasterKey

def deriveMasterKeyFromPrekey (env : Env) (mk : MasterKey) (preKey : Bytes) :
    Outcome DpapiError (Vector UInt8 64) := do
  let isSha512 ← usesSha512 env mk.algIdHash
  let cipher ← Outcome.okOr (env.nomicon.cipherAlgInfo mk.algIdEncrypt)
    (.unsupportedAlgId mk.algIdEncrypt)
  let alg ← Outcome.okOr (env.nomicon.hashAlgInfo mk.algIdHash) (.unsupportedAlgId mk.algIdHash)
  let digestLen := alg.digestLen
  let keylen ← usizeAdd env.profile cipher.keyLen cipher.ivLen
  let derived ← MasterKey.deriveKey env isSha512 preKey mk.salt.toList keylen mk.rounds
  let cryptKey ← sliceRange derived 0 cipher.keyLen
  let ivStop ← usizeAdd env.profile cipher.keyLen cipher.ivLen
  let iv ← sliceRange derived cipher.keyLen ivStop
  let cleartext ←
    (if mk.algIdEncrypt = calgAes256 then cbcDecryptNoPad env.crypto.aes256 cryptKey iv mk.data
      else cbcDecryptNoPad env.crypto.tdesEde3 cryptKey iv mk.data)
  Outcome.failIf (cleartext.length < masterKeyLen) .decryptionFailed
  let hmacStop ← usizeAdd env.profile 16 digestLen
  Outcome.failIf (cleartext.length < hmacStop) .decryptionFailed
  let masterKeyBytes ← sliceRange cleartext (cleartext.length - masterKeyLen) cleartext.length
  let hmacSalt ← sliceRange cleartext 0 16
  let storedHmac ← sliceRange cleartext 16 hmacStop
  let hmacKey ← prf env isSha512 preKey hmacSalt
  let calcHmac ← prf env isSha512 hmacKey.toList masterKeyBytes
  Outcome.failIf (getRange calcHmac.toList 0 digestLen ≠ some storedHmac) .hmacMismatch
  copyFromSlice 64 masterKeyBytes

def utf16le (s : String) : Bytes := utf16leBytes s

def utf16leWithNul (s : String) : Bytes := utf16le s ++ [0, 0]

def prekeyFromSha1 (env : Env) (sid : String) (pwdSha1 : Vector UInt8 20) : Vector UInt8 20 :=
  env.crypto.hmacSha1 pwdSha1.toList (utf16leWithNul sid)

def prekeyFromPassword (env : Env) (sid password : String) : Vector UInt8 20 :=
  prekeyFromSha1 env sid (env.crypto.sha1 (utf16le password))

def deriveMasterKeyFromPassword (env : Env) (file : MasterKeyFile) (sid password : String) :
    Outcome DpapiError (Vector UInt8 64) := do
  let mk ← parseMasterKey env file.masterKey
  let preKey := prekeyFromPassword env sid password
  deriveMasterKeyFromPrekey env mk preKey.toList

def deriveMasterKeyFromDomainBackup (_domainKey _pvk : Bytes) :
    Outcome DpapiError (Vector UInt8 64) :=
  .err .domainBackupUnsupported

end DpapiForensic
