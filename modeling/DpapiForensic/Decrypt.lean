import DpapiForensic.Blob

/-!
# Blob decryption (`core/src/decrypt.rs`)

Impacket's `DPAPI_BLOB.decrypt`: the session key is a MAC under the SHA-1 of the master key, the
cipher key is derived from it, the IV is zero, and the trailing signature is accepted in either of
two forms.
-/

namespace DpapiForensic

/-- `hmac_hash`. HMAC takes a key of any length, so this never fails. -/
def hmacHash (env : Env) (alg : HashAlg) (key msg : Bytes) :
    Outcome DpapiError (Vector UInt8 (macLen alg.isSha512)) :=
  .ok (env.crypto.hmac alg.isSha512 key msg)

def decryptAes256Cbc (env : Env) (key iv ciphertext : Bytes) : Outcome DpapiError Bytes := do
  let decryptor ← Outcome.okOr (env.crypto.aes256.newFromSlices key iv) .invalidKeyLength
  Outcome.okOr (env.crypto.aes256.decryptPadded (pkcs7UnpadBlocks 16) decryptor ciphertext)
    .decryptionFailed

/-- `verify_hmac_sha1`. The expected code is compared whole, its length included. -/
def verifyHmacSha1 (env : Env) (key data expected : Bytes) : Outcome DpapiError Unit :=
  Outcome.failIf ((env.crypto.hmacSha1 key data).toList ≠ expected) .hmacMismatch

/-- `vec.resize(n, 0)`: cut to `n` bytes, or zero-filled up to them. -/
def resize (bytes : Bytes) (n : Nat) : Bytes := bytes.take n ++ List.replicate (n - bytes.length) 0

def xorBytes (mask : UInt8) (bytes : Bytes) : Bytes := bytes.map (· ^^^ mask)

def countOnes (b : UInt8) : Nat := ((List.range 8).filter fun i => b.toNat.testBit i).length

/-- One byte of `fixparity`: its high seven bits, and the low bit that makes the parity odd. -/
def fixparityByte (b : UInt8) : UInt8 :=
  let high7 := b >>> 1
  (high7 <<< 1) ||| (if countOnes high7 % 2 = 0 then 1 else 0)

def fixparity (key : Bytes) : Bytes := key.map fixparityByte

namespace Decrypt

def plainHash (env : Env) (alg : HashAlg) (msg : Bytes) : Bytes :=
  (env.crypto.digest alg.isSha512 msg).toList

/-- `derive_key`: the session key, re-MACed when longer than the derive block, and expanded through
the two pads when shorter than the cipher key. -/
def deriveKey (env : Env) (alg : HashAlg) (sessionKey : Bytes) (cipherKeyLen : Nat) : Bytes :=
  let derived :=
    if sessionKey.length > alg.deriveBlockLen then
      match hmacHash env alg sessionKey [] with
      | .ok mac => mac.toList
      | _ => []
    else sessionKey
  if derived.length < cipherKeyLen then
    let padded := resize derived alg.deriveBlockLen
    let ipad := xorBytes 0x36 (padded.take alg.deriveBlockLen)
    let opad := xorBytes 0x5c (padded.take alg.deriveBlockLen)
    fixparity (plainHash env alg ipad ++ plainHash env alg opad)
  else derived

def pkcsUnpad (data : Bytes) (blockLen : Nat) : Outcome DpapiError Bytes := do
  let last ← Outcome.okOr data.getLast? .decryptionFailed
  let pad := last.toNat
  Outcome.failIf (pad = 0 ∨ pad > blockLen ∨ pad > data.length) .decryptionFailed
  let tail ← sliceRange data (data.length - pad) data.length
  Outcome.failIf (tail.any fun b => b.toNat ≠ pad) .decryptionFailed
  sliceRange data 0 (data.length - pad)

def decrypt3desCbc (env : Env) (key iv ciphertext : Bytes) : Outcome DpapiError Bytes := do
  let dec ← Outcome.okOr (env.crypto.tdesEde3.newFromSlices key iv) .invalidKeyLength
  let out ← Outcome.okOr (env.crypto.tdesEde3.decryptPadded noPaddingUnpadBlocks dec ciphertext)
    .decryptionFailed
  pkcsUnpad out 8

def entropyBytes (entropy : Option Bytes) : Bytes := entropy.getD []

def verifyBlobSignature (env : Env) (alg : HashAlg) (keyHash : Bytes) (blob : DpapiBlob)
    (entropy : Option Bytes) : Outcome DpapiError Unit := do
  -- form 1: the pads by hand, over the key hash zero-filled to the hash block
  let size ← usizeAdd env.profile keyHash.length alg.hashBlockLen
  let keyHash2 := resize keyHash size
  let ipad := xorBytes 0x36 (keyHash2.take alg.hashBlockLen)
  let opad := xorBytes 0x5c (keyHash2.take alg.hashBlockLen)
  let innerDigest := plainHash env alg (ipad ++ blob.hmac)
  let calc1 := plainHash env alg (opad ++ innerDigest ++ entropyBytes entropy ++ blob.toSign)
  -- form 2: HMAC of the same parts
  let calc2 ← hmacHash env alg keyHash (blob.hmac ++ entropyBytes entropy ++ blob.toSign)
  if calc1 = blob.sign ∨ calc2.toList = blob.sign then pure () else .err .hmacMismatch

end Decrypt

open Decrypt

def decryptDpapiBlob (env : Env) (blob : DpapiBlob) (masterKey : Bytes) (entropy : Option Bytes) :
    Outcome DpapiError Bytes := do
  let alg := hashAlg env blob.algIdHash
  let cipher ← Outcome.okOr (env.nomicon.cipherAlgInfo blob.algIdEncrypt)
    (.unsupportedAlgId blob.algIdEncrypt)
  let keyHash := (env.crypto.sha1 masterKey).toList
  let saltMsg := blob.salt ++ entropyBytes entropy
  let sessionKey ← hmacHash env alg keyHash saltMsg
  let derived := deriveKey env alg sessionKey.toList cipher.keyLen
  Outcome.failIf (derived.length < cipher.keyLen) .invalidKeyLength
  let iv := List.replicate cipher.ivLen 0
  let key ← sliceRange derived 0 cipher.keyLen
  let cleartext ←
    (if blob.algIdEncrypt = calgAes256 then decryptAes256Cbc env key iv blob.ciphertext
      else decrypt3desCbc env key iv blob.ciphertext)
  verifyBlobSignature env alg keyHash blob entropy
  pure cleartext

end DpapiForensic
