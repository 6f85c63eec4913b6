import DpapiForensic.Decrypt

/-!
# Vault policies and records (`core/src/vault.rs`)

A policy wraps a DPAPI blob that holds two AES keys; a record maps ids to attributes that are encrypted
under the first of them. The reader falls back to 0 past the end and its cursor saturates.
-/

namespace DpapiForensic

structure VaultVpolKeys where
  key1 : Bytes
  key2 : Bytes
  deriving DecidableEq

structure VcrdAttribute where
  id : UInt32
  iv : Bytes
  data : Bytes
  deriving DecidableEq

structure WebCredential where
  username : String
  resource : String
  password : String
  deriving DecidableEq

namespace Vault

def tooShort (got : Nat) : DpapiError := .tooShort usizeMax got

def readU32 (env : Env) (fallback : UInt32) (data : Bytes) (pos : Nat) :
    Outcome DpapiError (UInt32 × Nat) := do
  let stop ← usizeAdd env.profile pos 4
  let v := u32At fallback data pos stop
  pure (v, saturatingAdd pos 4)

def advance (pos n len : Nat) : Outcome DpapiError Nat := do
  let stop ← Outcome.okOr (checkedAdd pos n) (tooShort len)
  Outcome.failIf (stop > len) (.tooShort stop len)
  pure stop

/-- The `len` bytes at the cursor, with the end checked for overflow and against the data. -/
def takeBytes (data : Bytes) (pos len : Nat) : Outcome DpapiError (Bytes × Nat) := do
  let stop ← Outcome.okOr (checkedAdd pos len) (tooShort data.length)
  let slice ← Outcome.okOr (getRange data pos stop) (.tooShort stop data.length)
  pure (slice, stop)

def readBcryptKey (env : Env) (fallback : UInt32) (data : Bytes) (pos : Nat) :
    Outcome DpapiError (Bytes × Nat) := do
  let (_size, pos) ← readU32 env fallback data pos
  let (_version, pos) ← readU32 env fallback data pos
  let (_unknown2, pos) ← readU32 env fallback data pos
  let (_magic, pos) ← readU32 env fallback data pos
  let (_hver, pos) ← readU32 env fallback data pos
  let (cb, pos) ← readU32 env fallback data pos
  takeBytes data pos cb.toNat

def readIdLenUtf16 (env : Env) (fallback : UInt32) (data : Bytes) (pos : Nat) :
    Outcome DpapiError (String × Nat) := do
  let (_id, pos) ← readU32 env fallback data pos
  let (len, pos) ← readU32 env fallback data pos
  let (slice, pos) ← takeBytes data pos len.toNat
  pure (decodeUtf16le slice, pos)

end Vault

open Vault

/-! ### Policies -/

/-- `parse_vpol_file`, with the value an out-of-range `read_u32` falls back to. -/
def parseVpolFileWith (env : Env) (fallback : UInt32) (data : Bytes) :
    Outcome DpapiError Bytes := do
  let pos := 0
  let (_version, pos) ← readU32 env fallback data pos
  let pos := saturatingAdd pos 16
  let (descLen, pos) ← readU32 env fallback data pos
  let pos ← advance pos descLen.toNat data.length
  let pos ← advance pos 12 data.length
  let (_size, pos) ← readU32 env fallback data pos
  let pos ← advance pos 32 data.length
  let (keySize, pos) ← readU32 env fallback data pos
  let (blob, _stop) ← takeBytes data pos keySize.toNat
  pure blob

def parseVpolFile (env : Env) (data : Bytes) : Outcome DpapiError Bytes :=
  parseVpolFileWith env 0 data

/-- The two keys in a policy's cleartext, with the value an out-of-range `read_u32` falls back to. -/
def readVpolKeysWith (env : Env) (fallback : UInt32) (cleartext : Bytes) :
    Outcome DpapiError VaultVpolKeys := do
  let pos := 0
  let (key1, pos) ← readBcryptKey env fallback cleartext pos
  let (key2, _pos) ← readBcryptKey env fallback cleartext pos
  pure { key1, key2 }

def decryptVpolKeys (env : Env) (vpolBlob masterKey : Bytes) :
    Outcome DpapiError VaultVpolKeys := do
  let blob ← parseDpapiBlob env vpolBlob
  let cleartext ← decryptDpapiBlob env blob masterKey none
  readVpolKeysWith env 0 cleartext

/-! ### Records -/

namespace Vault

/-- `parse_attribute_payload`. An absent result is the error `()`. -/
def parseAttributePayload (env : Env) (attr : Bytes) : Outcome Unit (Bytes × Bytes) := do
  Outcome.failIf (attr.length ≤ 28) ()
  let idBytes ← Outcome.okOr (getRange attr 0 4) ()
  let id := u32FromLe idBytes
  let pos := 16
  let padBytes ← Outcome.okOr (getRange attr 16 22) ()
  let pos ← (if padBytes = List.replicate 6 0 then usizeAdd env.profile pos 6 else pure pos)
  let pos ← (if id ≥ 100 then usizeAdd env.profile pos 4 else pure pos)
  let stop ← usizeAdd env.profile pos 4
  let sizeBytes ← Outcome.okOr (getRange attr pos stop) ()
  let size := (u32FromLe sizeBytes).toNat
  let pos ← usizeAdd env.profile pos 4
  let ivPresent ← Outcome.okOr attr[pos]? ()
  let pos ← usizeAdd env.profile pos 1
  let stop ← usizeAdd env.profile pos 4
  let ivSizeBytes ← Outcome.okOr (getRange attr pos stop) ()
  let ivSize := (u32FromLe ivSizeBytes).toNat
  let pos ← usizeAdd env.profile pos 4
  let (iv, dataLen, pos) ←
    (if ivPresent ≠ 0 then do
      let stop ← usizeAdd env.profile pos ivSize
      let iv ← Outcome.okOr (getRange attr pos stop) ()
      let pos ← usizeAdd env.profile pos ivSize
      let rest ← usizeAdd env.profile ivSize 5
      let dataLen ← Outcome.okOr (checkedSub size rest) ()
      pure (iv, dataLen, pos)
    else do
      let dataLen ← Outcome.okOr (checkedSub size 1) ()
      pure ([], dataLen, pos))
  let stop ← usizeAdd env.profile pos dataLen
  let data ← Outcome.okOr (getRange attr pos stop) ()
  pure (iv, data)

/-- The loop over the map entries: `Id(4) Offset(4) Unknown1(4)`, from a cursor. -/
def readMapEntries (env : Env) (vcrd : Bytes) :
    Nat → Nat → Outcome DpapiError (List (UInt32 × Nat) × Nat)
  | 0, mp => pure ([], mp)
  | count + 1, mp => do
      let (id, mp) ← readU32 env 0 vcrd mp
      let (offset, mp) ← readU32 env 0 vcrd mp
      let (_unknown1, mp) ← readU32 env 0 vcrd mp
      let (offsets, mp) ← readMapEntries env vcrd count mp
      pure ((id, offset.toNat) :: offsets, mp)

/-- The loop over the attributes. Each runs to the next entry's offset, the last to the end. -/
def readAttributes (env : Env) (vcrd : Bytes) :
    List (UInt32 × Nat) → Outcome DpapiError (List VcrdAttribute)
  | [] => pure []
  | (id, start) :: rest => do
      let stop := (rest.head?.map (·.2)).getD vcrd.length
      let attrBytes ← Outcome.okOr (getRange vcrd start stop) (.tooShort stop vcrd.length)
      let payload ← Outcome.toOption (parseAttributePayload env attrBytes)
      let attrs ← readAttributes env vcrd rest
      match payload with
      | some (iv, data) => pure ({ id, iv, data } :: attrs)
      | none => pure attrs

/-- The same loop as it indexes: `for i in 0..count`, with `offsets[i]`. -/
def readAttributesIndexed (env : Env) (vcrd : Bytes) (offsets : List (UInt32 × Nat)) :
    Nat → Nat → Outcome DpapiError (List VcrdAttribute)
  | 0, _ => pure []
  | left + 1, i => do
      let (id, start) ← index offsets i
      let next ← usizeAdd env.profile i 1
      let stop := (offsets[next]?.map (·.2)).getD vcrd.length
      let attrBytes ← Outcome.okOr (getRange vcrd start stop) (.tooShort stop vcrd.length)
      let payload ← Outcome.toOption (parseAttributePayload env attrBytes)
      let attrs ← readAttributesIndexed env vcrd offsets left (i + 1)
      match payload with
      | some (iv, data) => pure ({ id, iv, data } :: attrs)
      | none => pure attrs

end Vault

/-- `parse_vcrd_attributes`, with what reserves the memory for its two vectors: 16 bytes for each entry of the
map, 56 for each attribute. -/
def parseVcrdAttributesWith (reserve : Nat → Outcome DpapiError Unit) (env : Env) (vcrd : Bytes) :
    Outcome DpapiError (List VcrdAttribute) := do
  let pos := 0
  let pos ← advance pos (16 + 4 + 8 + 4 + 4) vcrd.length
  let (fnLen, pos) ← readU32 env 0 vcrd pos
  let pos ← advance pos fnLen.toNat vcrd.length
  let (mapsSize, pos) ← readU32 env 0 vcrd pos
  let mapsStart := pos
  let mapsEnd ← Outcome.okOr (checkedAdd mapsStart mapsSize.toNat) (tooShort vcrd.length)
  let mapEntry := 12
  Outcome.failIf (mapsSize.toNat % mapEntry ≠ 0) (tooShort vcrd.length)
  let count := mapsSize.toNat / mapEntry
  reserve (16 * count)
  let (offsets, mp) ← readMapEntries env vcrd count mapsStart
  Outcome.failIf (mp > mapsEnd) (tooShort vcrd.length)
  reserve (56 * count)
  readAttributes env vcrd offsets

def parseVcrdAttributes (env : Env) (vcrd : Bytes) : Outcome DpapiError (List VcrdAttribute) :=
  parseVcrdAttributesWith withCapacity env vcrd

def decryptVcrdAttribute (env : Env) (attr : VcrdAttribute) (vpolKey : Bytes) :
    Outcome DpapiError Bytes := do
  let zeroIv := List.replicate 16 0
  let iv := if attr.iv.length = 16 then attr.iv else zeroIv
  let dec ← Outcome.okOr (env.crypto.aes256.newFromSlices vpolKey iv) .invalidKeyLength
  Outcome.okOr (env.crypto.aes256.decryptPadded noPaddingUnpadBlocks dec attr.data)
    .decryptionFailed

/-- `parse_internet_explorer`, with the value an out-of-range `read_u32` falls back to. -/
def parseInternetExplorerWith (env : Env) (fallback : UInt32) (cleartext : Bytes) :
    Outcome DpapiError WebCredential := do
  let pos := 12
  let (username, pos) ← readIdLenUtf16 env fallback cleartext pos
  let (resource, pos) ← readIdLenUtf16 env fallback cleartext pos
  let (password, _pos) ← readIdLenUtf16 env fallback cleartext pos
  pure { username, resource, password }

def parseInternetExplorer (env : Env) (cleartext : Bytes) : Outcome DpapiError WebCredential :=
  parseInternetExplorerWith env 0 cleartext

end DpapiForensic
