import DpapiForensic.Blob
import DpapiForensic.Lib.Format

/-!
# The blob's wire format

What a DPAPI blob is, as opposed to how it is read: its components, each within the width that
encodes it, and their serialisation. The signed region is everything between the provider GUID and
the length of the signature.
-/

namespace DpapiForensic

/-- The components of a DPAPI blob, in wire order. -/
@[ext]
structure WireBlob where
  version : UInt32
  version_supported : version = 1 ∨ version = 2
  mkVersion : UInt32
  masterKeyGuid : Vector UInt8 16
  flags : UInt32
  description : Field
  algIdEncrypt : UInt32
  cryptAlgoLen : UInt32
  salt : Field
  hmacKey : Field
  algIdHash : UInt32
  hashAlgoLen : UInt32
  hmac : Field
  ciphertext : Field
  sign : Field

namespace WireBlob

variable (w : WireBlob)

/-- The region the signature covers. -/
def signedBytes : Bytes :=
  le32 w.mkVersion ++ (w.masterKeyGuid.toList ++ (le32 w.flags ++ (lp w.description.val ++
    (le32 w.algIdEncrypt ++ (le32 w.cryptAlgoLen ++ (lp w.salt.val ++ (lp w.hmacKey.val ++
      (le32 w.algIdHash ++ (le32 w.hashAlgoLen ++ (lp w.hmac.val ++ lp w.ciphertext.val))))))))))

def bytes : Bytes :=
  le32 w.version ++ (providerGuidBytes.toList ++ (w.signedBytes ++ lp w.sign.val))

def toBlob : DpapiBlob where
  version := w.version
  masterKeyGuid := w.masterKeyGuid
  description := decodeUtf16le w.description.val
  algIdEncrypt := w.algIdEncrypt
  algIdHash := w.algIdHash
  salt := w.salt.val
  hmacKey := w.hmacKey.val
  hmac := w.hmac.val
  ciphertext := w.ciphertext.val
  sign := w.sign.val
  toSign := w.signedBytes

/-- The signed region is the serialisation from offset 20 up to the length of the signature. -/
theorem signedBytes_eq_slice :
    w.signedBytes = (w.bytes.take (w.bytes.length - (lp w.sign.val).length)).drop 20 := by
  have hlen : w.bytes.length - (lp w.sign.val).length
      = (le32 w.version ++ providerGuidBytes.toList ++ w.signedBytes).length := by
    simp only [bytes, List.length_append]
    omega
  have hsplit : w.bytes
      = (le32 w.version ++ providerGuidBytes.toList ++ w.signedBytes) ++ lp w.sign.val := by
    simp only [bytes, List.append_assoc]
  have hhead : (le32 w.version ++ providerGuidBytes.toList).length = 20 := by simp
  rw [hlen, hsplit, List.take_left, ← hhead, List.drop_left]

theorem isSlice_bytes : IsSlice w.bytes := by
  have h₁ := w.description.property
  have h₂ := w.salt.property
  have h₃ := w.hmacKey.property
  have h₄ := w.hmac.property
  have h₅ := w.ciphertext.property
  have h₆ := w.sign.property
  simp only [IsSlice, bytes, signedBytes, List.length_append, length_le32, length_lp,
    Vector.length_toList]
  omega

/-- The signed region determines every component it holds: the fields cannot be split otherwise. -/
theorem signedBytes_append_inj {w w' : WireBlob} {rest rest' : Bytes}
    (h : w.signedBytes ++ rest = w'.signedBytes ++ rest') :
    (w.mkVersion = w'.mkVersion ∧ w.masterKeyGuid = w'.masterKeyGuid ∧ w.flags = w'.flags ∧
      w.description = w'.description ∧ w.algIdEncrypt = w'.algIdEncrypt ∧
      w.cryptAlgoLen = w'.cryptAlgoLen ∧ w.salt = w'.salt ∧ w.hmacKey = w'.hmacKey ∧
      w.algIdHash = w'.algIdHash ∧ w.hashAlgoLen = w'.hashAlgoLen ∧ w.hmac = w'.hmac ∧
      w.ciphertext = w'.ciphertext) ∧ rest = rest' := by
  simp only [signedBytes, List.append_assoc] at h
  obtain ⟨hmkVersion, h⟩ := List.append_inj h (by simp)
  obtain ⟨hguid, h⟩ := List.append_inj h (by simp)
  obtain ⟨hflags, h⟩ := List.append_inj h (by simp)
  obtain ⟨hdescription, h⟩ := lp_append_inj h
  obtain ⟨hcrypt, h⟩ := List.append_inj h (by simp)
  obtain ⟨hcryptLen, h⟩ := List.append_inj h (by simp)
  obtain ⟨hsalt, h⟩ := lp_append_inj h
  obtain ⟨hhmacKey, h⟩ := lp_append_inj h
  obtain ⟨hhash, h⟩ := List.append_inj h (by simp)
  obtain ⟨hhashLen, h⟩ := List.append_inj h (by simp)
  obtain ⟨hhmac, h⟩ := lp_append_inj h
  obtain ⟨hciphertext, hrest⟩ := lp_append_inj h
  exact ⟨⟨le32_injective hmkVersion, Vector.toList_inj.mp hguid, le32_injective hflags, hdescription,
    le32_injective hcrypt, le32_injective hcryptLen, hsalt, hhmacKey, le32_injective hhash,
    le32_injective hhashLen, hhmac, hciphertext⟩, hrest⟩

theorem selfDelimiting : SelfDelimiting bytes := by
  intro w w' rest rest' h
  simp only [bytes, List.append_assoc] at h
  obtain ⟨hversion, h⟩ := List.append_inj h (by simp)
  obtain ⟨-, h⟩ := List.append_inj h (by simp)
  obtain ⟨⟨hmkVersion, hguid, hflags, hdescription, hcrypt, hcryptLen, hsalt, hhmacKey, hhash,
    hhashLen, hhmac, hciphertext⟩, h⟩ := signedBytes_append_inj h
  obtain ⟨hsign, hrest⟩ := lp_append_inj h
  exact ⟨WireBlob.ext (le32_injective hversion) hmkVersion hguid hflags hdescription hcrypt hcryptLen
    hsalt hhmacKey hhash hhashLen hhmac hciphertext hsign, hrest⟩

end WireBlob

end DpapiForensic
