import DpapiForensic.Layout.Protection
import DpapiForensic.Proof.Padding

/-!
# What decryption computes

`decrypt_dpapi_blob` in one equation: under impacket's tables and for a supported cipher, it opens the
ciphertext under the derived key and then checks the signature. The re-MAC branch of `derive_key` is
never taken, the key is never too short, and the only errors left are a ciphertext that does not
unpad and a signature that matches neither form.
-/

namespace DpapiForensic

open Decrypt

variable {env : Env}

/-! ### The signature is checked last -/

section Unchecked

/-- Decryption up to its signature check. -/
def Decrypt.unchecked (env : Env) (blob : DpapiBlob) (masterKey : Bytes) (entropy : Option Bytes) :
    Outcome DpapiError Bytes := do
  let alg := hashAlg env blob.algIdHash
  let cipher ← Outcome.okOr (env.nomicon.cipherAlgInfo blob.algIdEncrypt)
    (.unsupportedAlgId blob.algIdEncrypt)
  let sessionKey ← hmacHash env alg (env.crypto.sha1 masterKey).toList
    (blob.salt ++ entropyBytes entropy)
  let derived := deriveKey env alg sessionKey.toList cipher.keyLen
  Outcome.failIf (derived.length < cipher.keyLen) .invalidKeyLength
  let key ← sliceRange derived 0 cipher.keyLen
  if blob.algIdEncrypt = calgAes256 then
    decryptAes256Cbc env key (List.replicate cipher.ivLen 0) blob.ciphertext
  else decrypt3desCbc env key (List.replicate cipher.ivLen 0) blob.ciphertext

variable {blob : DpapiBlob} {masterKey plain plain' : Bytes} {entropy : Option Bytes}

theorem decryptDpapiBlob_eq_unchecked :
    decryptDpapiBlob env blob masterKey entropy = (do
      let plain ← unchecked env blob masterKey entropy
      verifyBlobSignature env (hashAlg env blob.algIdHash) (env.crypto.sha1 masterKey).toList blob
        entropy
      pure plain) := by
  simp only [decryptDpapiBlob, unchecked, bind_assoc]

theorem unchecked_of_decrypt (h : decryptDpapiBlob env blob masterKey entropy = .ok plain) :
    unchecked env blob masterKey entropy = .ok plain := by
  rw [decryptDpapiBlob_eq_unchecked] at h
  obtain ⟨plain', hplain, h⟩ := Outcome.bind_eq_ok_iff.mp h
  obtain ⟨_, -, h⟩ := Outcome.bind_eq_ok_iff.mp h
  rw [hplain, ← h, Outcome.pure_eq]

end Unchecked

/-! ### The tables -/

section Tables

theorem hashAlg_algId (himp : env.nomicon.IsImpacket) (h : BlobHash) :
    ∃ n, hashAlg env h.algId = h.row n := by
  cases h with
  | sha1 => exact himp.sha1_row.imp fun n hn => by rw [hashAlg, BlobHash.algId, hn]; rfl
  | hmac => exact himp.hmac_row.imp fun n hn => by rw [hashAlg, BlobHash.algId, hn]; rfl
  | sha512 => exact himp.sha512_row.imp fun n hn => by rw [hashAlg, BlobHash.algId, hn]; rfl

theorem exists_hashAlg_eq_row (himp : env.nomicon.IsImpacket) (algId : UInt32) :
    ∃ (h : BlobHash) (n : Nat), hashAlg env algId = h.row n := by
  by_cases h₁ : algId = calgSha1
  · exact ⟨.sha1, h₁ ▸ hashAlg_algId himp .sha1⟩
  by_cases h₂ : algId = calgHmac
  · exact ⟨.hmac, h₂ ▸ hashAlg_algId himp .hmac⟩
  by_cases h₃ : algId = calgSha512
  · exact ⟨.sha512, h₃ ▸ hashAlg_algId himp .sha512⟩
  refine ⟨.sha1, 20, ?_⟩
  rw [hashAlg, himp.no_other_hash algId h₁ h₂ h₃]
  rfl

theorem cipherAlgInfo_algId (himp : env.nomicon.IsImpacket) (c : BlobCipher) :
    env.nomicon.cipherAlgInfo c.algId = some ⟨c.keyLen, c.blockLen⟩ := by
  cases c with
  | aes256 => exact himp.aes256_row
  | tdes => exact himp.tdes_row

theorem exists_cipher_of_isSome (himp : env.nomicon.IsImpacket) {algId : UInt32}
    (h : (env.nomicon.cipherAlgInfo algId).isSome) : ∃ c : BlobCipher, algId = c.algId := by
  by_contra hne
  push Not at hne
  rw [himp.no_other_cipher algId (hne .aes256) (hne .tdes)] at h
  simp at h

end Tables

/-! ### Pads and keys -/

section Keys

variable {key : Bytes} {n : Nat} {mask : UInt8}

theorem xorBytes_take_resize (h : key.length ≤ n) :
    xorBytes mask ((resize key n).take n) = maskedBlock n mask key := by
  have hlen : (key ++ List.replicate (n - key.length) (0 : UInt8)).length ≤ n := by
    simp only [List.length_append, List.length_replicate]
    omega
  rw [resize, List.take_of_length_le h, List.take_of_length_le hlen, xorBytes, maskedBlock]

theorem xorBytes_take_resize_add (h : key.length ≤ n) :
    xorBytes mask ((resize key (key.length + n)).take n) = maskedBlock n mask key := by
  rw [resize, List.take_of_length_le (Nat.le_add_right _ _), Nat.add_sub_cancel_left,
    List.take_append, List.take_of_length_le h, List.take_replicate, Nat.min_eq_left (by omega),
    xorBytes, maskedBlock]

theorem macLen_le_deriveBlockLen (h : BlobHash) : macLen h.isSha512 ≤ h.deriveBlockLen := by
  cases h <;> decide

theorem macLen_false_le_blockLen (h : BlobHash) : macLen false ≤ h.blockLen := by
  cases h <;> decide

/-- The code sets the parity on the byte shifted down by one. -/
theorem fixparityByte_eq (b : UInt8) : fixparityByte b = oddParity b := by
  apply forall_byte (P := fun b => fixparityByte b = oddParity b)
  decide +kernel

theorem entropyBytes_eq (k : KeySource) : entropyBytes k.entropy = k.entropyAdded := by
  unfold entropyBytes KeySource.entropyAdded
  cases k.entropy with
  | none => rfl
  | some entropy => rfl

/-- The code's key derivation is the documented one: no session key is longer than its derive block. -/
theorem deriveKey_eq (env : Env) (k : KeySource) (c : BlobCipher) (digestLen : Nat) :
    deriveKey env (k.hash.row digestLen) (k.sessionKey env.crypto) c.keyLen
      = k.keyMaterial env.crypto c := by
  have hlen : (k.sessionKey env.crypto).length ≤ (k.hash.row digestLen).deriveBlockLen := by
    rw [k.length_sessionKey]
    exact macLen_le_deriveBlockLen k.hash
  simp only [deriveKey, if_neg (not_lt.mpr hlen), KeySource.keyMaterial,
    xorBytes_take_resize hlen]
  by_cases hlong : c.keyLen ≤ (k.sessionKey env.crypto).length
  · rw [if_neg (not_lt.mpr hlong), if_pos hlong]
  · rw [if_pos (not_le.mp hlong), if_neg hlong, fixparity, funext fixparityByte_eq]
    rfl

end Keys

/-! ### Opening the ciphertext -/

section Open

theorem decryptAes256Cbc_length_le {key iv ciphertext : Bytes} :
    Outcome.Oks (fun plain => plain.length ≤ ciphertext.length)
      (decryptAes256Cbc env key iv ciphertext) := by
  refine Outcome.Oks.bind_right fun d => ?_
  intro plain h
  exact CbcCipher.decryptPadded_length_le _ pkcs7UnpadBlocks_length_le (Outcome.okOr_eq_ok_iff.mp h)

theorem decrypt3desCbc_length_le {key iv ciphertext : Bytes} :
    Outcome.Oks (fun plain => plain.length ≤ ciphertext.length)
      (decrypt3desCbc env key iv ciphertext) := by
  refine Outcome.Oks.bind_right fun d => Outcome.Oks.bind fun out hout => ?_
  intro plain h
  have hle := CbcCipher.decryptPadded_length_le _ noPaddingUnpadBlocks_length_le
    (Outcome.okOr_eq_ok_iff.mp hout)
  exact (pkcsUnpad_length_le plain h).trans hle

def BlobCipher.openCbc (env : Env) :
    (c : BlobCipher) → (key iv ciphertext : Bytes) → Outcome DpapiError Bytes
  | .aes256, key, iv, ciphertext => decryptAes256Cbc env key iv ciphertext
  | .tdes, key, iv, ciphertext => decrypt3desCbc env key iv ciphertext

theorem BlobCipher.ite_eq_openCbc (c : BlobCipher) (key iv ciphertext : Bytes) :
    (if c.algId = calgAes256 then decryptAes256Cbc env key iv ciphertext
      else decrypt3desCbc env key iv ciphertext) = c.openCbc env key iv ciphertext := by
  cases c with
  | aes256 => exact if_pos rfl
  | tdes => exact if_neg (by decide)

/-- The two decryptors are one, each at its own cipher: CBC without padding, then the unpadder. -/
theorem BlobCipher.openCbc_eq (c : BlobCipher) (key iv ciphertext : Bytes) :
    c.openCbc env key iv ciphertext = (do
      let decryptor ← Outcome.okOr ((c.cbc env.crypto).newFromSlices key iv) .invalidKeyLength
      let out ← Outcome.okOr ((c.cbc env.crypto).decryptPadded noPaddingUnpadBlocks decryptor
        ciphertext) .decryptionFailed
      pkcsUnpad out c.blockLen) := by
  cases c with
  | aes256 =>
      refine congrArg (_ >>= ·) (funext fun decryptor => ?_)
      exact decryptPadded_pkcs7_eq (by decide) (by decide) env.crypto.aes256 decryptor ciphertext
  | tdes => rfl

theorem BlobCipher.openCbc_cases (c : BlobCipher) (key : Vector UInt8 c.keyLen)
    (iv : Vector UInt8 c.blockLen) (ciphertext : Bytes) :
    (∃ plain, c.openCbc env key.toList iv.toList ciphertext = .ok plain) ∨
      c.openCbc env key.toList iv.toList ciphertext = .err .decryptionFailed := by
  rw [c.openCbc_eq, CbcCipher.newFromSlices_toList, Outcome.okOr_some, Outcome.ok_bind]
  cases (c.cbc env.crypto).decryptPadded noPaddingUnpadBlocks (key, iv) ciphertext with
  | none => exact Or.inr rfl
  | some padded => exact pkcsUnpad_cases padded c.blockLen

/-- Opening undoes encryption of the padded plaintext, for both ciphers and their unpadders. -/
theorem BlobCipher.openCbc_encrypt (c : BlobCipher) (key : Vector UInt8 c.keyLen)
    (iv : Vector UInt8 c.blockLen) (plain : Bytes) :
    c.openCbc env key.toList iv.toList
      ((c.cbc env.crypto).encrypt key iv (pkcs7Pad c.blockLen plain)) = .ok plain := by
  have hpos := c.blockLen_pos
  rw [c.openCbc_eq, CbcCipher.newFromSlices_toList, Outcome.okOr_some, Outcome.ok_bind,
    (c.cbc env.crypto).decryptPadded_noPadding_encrypt (key, iv) (dvd_length_pkcs7Pad hpos plain),
    Outcome.okOr_some, Outcome.ok_bind]
  exact (pkcsUnpad_eq_ok_iff c.blockLen_lt).mpr (.pad hpos plain)

end Open

/-! ### The whole of it -/

section Decrypt

/-- Where the keys of a parsed blob come from, once its hash is known. -/
def DpapiBlob.keys (blob : DpapiBlob) (h : BlobHash) (masterKey : Bytes) (entropy : Option Bytes) :
    KeySource where
  hash := h
  salt := blob.salt
  masterKey := masterKey
  entropy := entropy

theorem verifyBlobSignature_eq (h : BlobHash) (digestLen : Nat) (blob : DpapiBlob)
    (masterKey : Bytes) (entropy : Option Bytes) :
    verifyBlobSignature env (h.row digestLen) (keyHash env.crypto masterKey) blob entropy
      = Outcome.failIf
          (¬(blob.keys h masterKey entropy).Signs env.crypto blob.hmac blob.toSign blob.sign)
          .hmacMismatch := by
  have hlen : (keyHash env.crypto masterKey).length ≤ h.blockLen := by
    rw [keyHash, Vector.length_toList]
    exact macLen_false_le_blockLen h
  have hsize : (keyHash env.crypto masterKey).length + h.blockLen < 2 ^ 64 := by
    cases h <;> simp [keyHash, BlobHash.blockLen]
  have hsigns : (blob.keys h masterKey entropy).Signs env.crypto blob.hmac blob.toSign blob.sign ↔
      ((blob.keys h masterKey entropy).signature env.crypto .pads blob.hmac blob.toSign).toList
        = blob.sign ∨
      ((blob.keys h masterKey entropy).signature env.crypto .standard blob.hmac blob.toSign).toList
        = blob.sign := by
    constructor
    · rintro ⟨form, hform⟩
      cases form
      · exact Or.inl hform
      · exact Or.inr hform
    · rintro (hform | hform)
      · exact ⟨.pads, hform⟩
      · exact ⟨.standard, hform⟩
  have hentropy : entropyBytes entropy = (blob.keys h masterKey entropy).entropyAdded :=
    entropyBytes_eq (blob.keys h masterKey entropy)
  rw [verifyBlobSignature, show (h.row digestLen).hashBlockLen = h.blockLen from rfl,
    usizeAdd_of_lt hsize, hentropy]
  simp only [Outcome.ok_bind, xorBytes_take_resize_add hlen, Outcome.failIf, hsigns]
  by_cases hform : ((blob.keys h masterKey entropy).signature env.crypto .pads blob.hmac
      blob.toSign).toList = blob.sign ∨
    ((blob.keys h masterKey entropy).signature env.crypto .standard blob.hmac
      blob.toSign).toList = blob.sign
  · rw [if_neg (not_not.mpr hform)]
    exact if_pos hform
  · rw [if_pos hform]
    exact if_neg hform

theorem decrypt_length_le {blob : DpapiBlob} {masterKey : Bytes} {entropy : Option Bytes} :
    Outcome.Oks (fun plain => plain.length ≤ blob.ciphertext.length)
      (decryptDpapiBlob env blob masterKey entropy) := by
  refine Outcome.Oks.bind_right fun cipher => Outcome.Oks.bind_right fun sessionKey => ?_
  refine Outcome.Oks.bind_right fun _ => Outcome.Oks.bind_right fun key => ?_
  refine Outcome.Oks.bind fun cleartext hcleartext => Outcome.Oks.bind_right fun _ => ?_
  rintro plain h
  obtain rfl := Outcome.ok.inj h
  split at hcleartext
  · exact decryptAes256Cbc_length_le _ hcleartext
  · exact decrypt3desCbc_length_le _ hcleartext

/-- **Decryption in one equation.** -/
theorem decryptDpapiBlob_eq (himp : env.nomicon.IsImpacket) {blob : DpapiBlob} {c : BlobCipher}
    {h : BlobHash} {digestLen : Nat} (hc : blob.algIdEncrypt = c.algId)
    (hh : hashAlg env blob.algIdHash = h.row digestLen) (masterKey : Bytes)
    (entropy : Option Bytes) :
    decryptDpapiBlob env blob masterKey entropy = (do
      let plain ← c.openCbc env
        ((blob.keys h masterKey entropy).cipherKey env.crypto c).toList
        (Vector.replicate c.blockLen 0).toList blob.ciphertext
      Outcome.failIf
        (¬(blob.keys h masterKey entropy).Signs env.crypto blob.hmac blob.toSign blob.sign)
        .hmacMismatch
      pure plain) := by
  have hkey := (blob.keys h masterKey entropy).keyLen_le_keyMaterial env.crypto c
  have hderive := deriveKey_eq env (blob.keys h masterKey entropy) c digestLen
  have hslice : (sliceRange ((blob.keys h masterKey entropy).keyMaterial env.crypto c) 0 c.keyLen :
      Outcome DpapiError Bytes)
      = .ok ((blob.keys h masterKey entropy).cipherKey env.crypto c).toList := by
    rw [sliceRange, getRange, if_pos ⟨Nat.zero_le _, hkey⟩]
    rfl
  have hiv : List.replicate c.blockLen (0 : UInt8) = (Vector.replicate c.blockLen 0).toList := by
    simp
  rw [decryptDpapiBlob, hc, cipherAlgInfo_algId himp, Outcome.okOr_some, Outcome.ok_bind, hh]
  simp only [hmacHash, Outcome.ok_bind, ← verifyBlobSignature_eq h digestLen]
  have hsession : (env.crypto.hmac (h.row digestLen).isSha512 (env.crypto.sha1 masterKey).toList
      (blob.salt ++ entropyBytes entropy)).toList
      = (blob.keys h masterKey entropy).sessionKey env.crypto := by
    rw [KeySource.sessionKey, ← entropyBytes_eq]
    rfl
  rw [hsession,
    show h.row digestLen = (blob.keys h masterKey entropy).hash.row digestLen from rfl, hderive,
    Outcome.failIf_of_not (not_lt.mpr hkey), Outcome.ok_bind, hslice, Outcome.ok_bind, hiv]
  rw [BlobCipher.ite_eq_openCbc]
  rfl

end Decrypt

end DpapiForensic
