import DpapiForensic.Decrypt

/-!
# Credential Manager files (`core/src/credential.rs`)

A `CredentialFile` wraps a DPAPI blob; the blob's cleartext is a `CREDENTIAL_BLOB`. The readers fall
back to 0 past the end, as the blob's do, but the sums of attacker-chosen lengths are checked.
-/

namespace DpapiForensic

structure Credential where
  target : String
  username : String
  secret : String
  lastWritten : UInt64
  deriving DecidableEq

namespace Credential

def readU32 (env : Env) (fallback : UInt32) (data : Bytes) (off : Nat) :
    Outcome DpapiError UInt32 := do
  let stop ← usizeAdd env.profile off 4
  pure (u32At fallback data off stop)

def readU64 (env : Env) (fallback : UInt64) (data : Bytes) (off : Nat) :
    Outcome DpapiError UInt64 := do
  let stop ← usizeAdd env.profile off 8
  pure (u64At fallback data off stop)

def readLenPrefixedUtf16 (env : Env) (fallback : UInt32) (data : Bytes) (pos : Nat) :
    Outcome DpapiError (String × Nat) := do
  let len ← readU32 env fallback data pos
  let start ← Outcome.okOr (checkedAdd pos 4) (.tooShort usizeMax data.length)
  let stop ← Outcome.okOr (checkedAdd start len.toNat) (.tooShort usizeMax data.length)
  let slice ← Outcome.okOr (getRange data start stop) (.tooShort stop data.length)
  pure (decodeUtf16le slice, stop)

end Credential

open Credential

/-- `parse_credential_file`, with the value an out-of-range `read_u32` falls back to. -/
def parseCredentialFileWith (env : Env) (fallback : UInt32) (data : Bytes) :
    Outcome DpapiError Bytes := do
  let headerLen := 12
  let size ← readU32 env fallback data 4
  let stop ← Outcome.okOr (checkedAdd headerLen size.toNat) (.tooShort usizeMax data.length)
  let blob ← Outcome.okOr (getRange data headerLen stop) (.tooShort stop data.length)
  pure blob

def parseCredentialFile (env : Env) (data : Bytes) : Outcome DpapiError Bytes :=
  parseCredentialFileWith env 0 data

/-- `parse_credential_blob`, with the values that out-of-range reads fall back to. -/
def parseCredentialBlobWith (env : Env) (fallback : UInt32) (fallback64 : UInt64) (data : Bytes) :
    Outcome DpapiError Credential := do
  let headerLen := 48
  Outcome.failIf (data.length < headerLen) (.tooShort headerLen data.length)
  let lastWritten ← readU64 env fallback64 data 20
  let pos := headerLen
  let (target, pos) ← readLenPrefixedUtf16 env fallback data pos
  let (_targetAlias, pos) ← readLenPrefixedUtf16 env fallback data pos
  let (_description, pos) ← readLenPrefixedUtf16 env fallback data pos
  let (secret, pos) ← readLenPrefixedUtf16 env fallback data pos
  let (username, _pos) ← readLenPrefixedUtf16 env fallback data pos
  pure { target, username, secret, lastWritten }

def parseCredentialBlob (env : Env) (data : Bytes) : Outcome DpapiError Credential :=
  parseCredentialBlobWith env 0 0 data

def decryptCredential (env : Env) (blobBytes masterKey : Bytes) :
    Outcome DpapiError Credential := do
  let blob ← parseDpapiBlob env blobBytes
  let cleartext ← decryptDpapiBlob env blob masterKey none
  parseCredentialBlob env cleartext

end DpapiForensic
