import DpapiForensic.Env
import DpapiForensic.Lib.Utf16

/-!
# The DPAPI blob parser (`core/src/blob.rs`)

`read_u32` falls back to 0 past the end of the data and advances all the same. The fallback is a
parameter of the model, `0` in the code, so that it can be said that no accepted parse depends on it.
-/

namespace DpapiForensic

/-- Two lowercase hexadecimal digits, `{b:02x}`. -/
def hexByte (b : UInt8) : String :=
  String.ofList [Nat.digitChar (b.toNat / 16), Nat.digitChar (b.toNat % 16)]

def hexLower (bytes : Bytes) : String := bytes.foldl (fun s b => s ++ hexByte b) ""

/-- `hash_alg`: the table's row, or SHA-1's for an unknown `algId`. -/
def hashAlg (env : Env) (algIdHash : UInt32) : HashAlg :=
  (env.nomicon.hashAlgInfo algIdHash).getD
    { isSha512 := false, digestLen := 20, deriveBlockLen := 64, hashBlockLen := 64 }

structure DpapiBlob where
  version : UInt32
  masterKeyGuid : Vector UInt8 16
  description : String
  algIdEncrypt : UInt32
  algIdHash : UInt32
  salt : Bytes
  hmacKey : Bytes
  hmac : Bytes
  ciphertext : Bytes
  sign : Bytes
  toSign : Bytes
  deriving DecidableEq

def decodeUtf16le (bytes : Bytes) : String :=
  if bytes.length < 2 then "" else trimEndNul (String.ofList (fromUtf16Lossy (unitsLe bytes)))

namespace Blob

def readU32 (env : Env) (fallback : UInt32) (data : Bytes) (pos : Nat) :
    Outcome DpapiError (UInt32 × Nat) := do
  let stop ← usizeAdd env.profile pos 4
  let v := u32At fallback data pos stop
  let pos ← usizeAdd env.profile pos 4
  pure (v, pos)

/-- `read_len_prefixed`. The error value is built before it is needed, so its sum is computed too. -/
def readLenPrefixed (env : Env) (fallback : UInt32) (data : Bytes) (pos : Nat) :
    Outcome DpapiError (Bytes × Nat) := do
  let (len, pos) ← readU32 env fallback data pos
  let stop ← usizeAdd env.profile pos len.toNat
  let needed ← usizeAdd env.profile pos len.toNat
  let slice ← Outcome.okOr (getRange data pos stop) (.tooShort needed data.length)
  let pos ← usizeAdd env.profile pos len.toNat
  pure (slice, pos)

/-- `data[pos..pos + 16].try_into()`. -/
def readGuid (env : Env) (data : Bytes) (pos : Nat) : Outcome DpapiError (Vector UInt8 16) := do
  let stop ← usizeAdd env.profile pos 16
  let slice ← sliceRange data pos stop
  match tryIntoArray 16 slice with
  | some guid => pure guid
  | none => do
      let needed ← usizeAdd env.profile pos 16
      .err (.tooShort needed data.length)

end Blob

open Blob

/-- `parse_dpapi_blob`, with the value an out-of-range `read_u32` falls back to. -/
def parseDpapiBlobWith (env : Env) (fallback : UInt32) (data : Bytes) :
    Outcome DpapiError DpapiBlob := do
  Outcome.failIf (data.length < 48) (.tooShort 48 data.length)
  let pos := 0
  let (version, pos) ← readU32 env fallback data pos
  Outcome.failIf (version ≠ 1 ∧ version ≠ 2) (.unsupportedVersion version)
  let providerGuid ← readGuid env data pos
  Outcome.failIf (providerGuid ≠ providerGuidBytes) (.notDpapiProvider (hexLower providerGuid.toList))
  let pos ← usizeAdd env.profile pos 16
  let (_mkVersion, pos) ← readU32 env fallback data pos
  let masterKeyGuid ← readGuid env data pos
  let pos ← usizeAdd env.profile pos 16
  let (_flags, pos) ← readU32 env fallback data pos
  let (descBytes, pos) ← readLenPrefixed env fallback data pos
  let description := decodeUtf16le descBytes
  let (algIdEncrypt, pos) ← readU32 env fallback data pos
  let (_cryptAlgoLen, pos) ← readU32 env fallback data pos
  let (salt, pos) ← readLenPrefixed env fallback data pos
  let (hmacKey, pos) ← readLenPrefixed env fallback data pos
  let (algIdHash, pos) ← readU32 env fallback data pos
  let (_hashAlgoLen, pos) ← readU32 env fallback data pos
  let (hmac, pos) ← readLenPrefixed env fallback data pos
  let (ciphertext, pos) ← readLenPrefixed env fallback data pos
  let signLenPos := pos
  let (sign, _pos) ← readLenPrefixed env fallback data pos
  Outcome.failIf (signLenPos < 20) (.tooShort 20 signLenPos)
  let toSign ← sliceRange data 20 signLenPos
  pure
    { version, masterKeyGuid, description, algIdEncrypt, algIdHash, salt, hmacKey, hmac, ciphertext,
      sign, toSign }

def parseDpapiBlob (env : Env) (data : Bytes) : Outcome DpapiError DpapiBlob :=
  parseDpapiBlobWith env 0 data

end DpapiForensic
