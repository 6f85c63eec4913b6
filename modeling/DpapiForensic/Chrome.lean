import DpapiForensic.Decrypt

/-!
# Browser keys and cookies (`core/src/chrome.rs`)

`Local State` holds the cookie key as base64 of `DPAPI` and a blob; a cookie value is a three-byte
prefix, a nonce, and an AES-256-GCM ciphertext with its tag.
-/

namespace DpapiForensic

inductive ChromeCookieEncoding where
  | raw
  | dpapiBlob (blob : Bytes)
  | v10 (nonce : Vector UInt8 12) (ciphertext : Bytes)
  | v20 (nonce : Vector UInt8 12) (ciphertext : Bytes)
  deriving DecidableEq

/-- `b"DPAPI"`. -/
def dpapiPrefix : Bytes := [0x44, 0x50, 0x41, 0x50, 0x49]

def detectChromeCookieEncoding (data : Bytes) : Outcome DpapiError ChromeCookieEncoding := do
  if data.length > 15 ∧ chromeCookieV20 <+: data then
    let nonce ← copyFromSlice 12 (← sliceRange data 3 15)
    let ciphertext ← sliceRange data 15 data.length
    pure (.v20 nonce ciphertext)
  else if data.length > 15 ∧ chromeCookieV10 <+: data then
    let nonce ← copyFromSlice 12 (← sliceRange data 3 15)
    let ciphertext ← sliceRange data 15 data.length
    pure (.v10 nonce ciphertext)
  else if dpapiPrefix <+: data then
    let blob ← sliceRange data 5 data.length
    pure (.dpapiBlob blob)
  else pure .raw

def decryptV10Cookie (env : Env) (nonce : Vector UInt8 12) (ciphertext : Bytes)
    (key : Vector UInt8 32) : Outcome DpapiError Bytes :=
  Outcome.okOr (env.crypto.aes256Gcm.decrypt key nonce ciphertext) .decryptionFailed

def parseLocalStateEncryptedKey (env : Env) (encryptedKeyB64 : Bytes) :
    Outcome DpapiError Bytes := do
  let decoded ← Outcome.okOr (env.base64.decode encryptedKeyB64) .base64Error
  if dpapiPrefix <+: decoded then pure (decoded.drop dpapiPrefix.length)
  else .err (.missingDpapiPrefix (hexLower (decoded.take 8)))

def decryptLocalStateKey (env : Env) (blobBytes masterKey : Bytes) :
    Outcome DpapiError (Vector UInt8 32) := do
  let blob ← parseDpapiBlob env blobBytes
  let plaintext ← decryptDpapiBlob env blob masterKey none
  Outcome.okOr (tryIntoArray 32 plaintext) (.unexpectedKeyLength 32 plaintext.length)

end DpapiForensic
