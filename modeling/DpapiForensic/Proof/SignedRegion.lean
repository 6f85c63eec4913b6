import DpapiForensic.Proof.BlobRoundTrip

/-!
# The signed region binds what decryption uses

Two accepted inputs with the same signed region are split into the same fields, although the parser
reads the rest of either input too. What may differ is what lies outside the region: the version
before it, the signature and the trailing bytes after it. Decryption reads neither the version nor
the trailing bytes, and the signature only to accept or refuse.
-/

namespace DpapiForensic

open Decrypt

variable {env : Env}

theorem toBlob_congr_of_signedBytes {w w' : WireBlob} (h : w.signedBytes = w'.signedBytes) :
    w'.toBlob = { w.toBlob with version := w'.version, sign := w'.sign.val } := by
  obtain ⟨⟨-, hguid, -, hdescription, hcrypt, -, hsalt, hhmacKey, hhash, -, hhmac, hcipher⟩, -⟩ :=
    WireBlob.signedBytes_append_inj (congrArg (· ++ []) h)
  simp only [WireBlob.toBlob, hguid, hdescription, hcrypt, hsalt, hhmacKey, hhash, hhmac, hcipher, h]

/-- Up to the signature check, decryption depends on neither the version nor the signature. -/
theorem unchecked_version_sign (b : DpapiBlob) (version : UInt32) (sign masterKey : Bytes)
    (entropy : Option Bytes) :
    unchecked env { b with version := version, sign := sign } masterKey entropy
      = unchecked env b masterKey entropy := rfl

theorem decryptDpapiBlob_version (b : DpapiBlob) (version : UInt32) (masterKey : Bytes)
    (entropy : Option Bytes) :
    decryptDpapiBlob env { b with version := version } masterKey entropy
      = decryptDpapiBlob env b masterKey entropy := rfl

/-- An accepted input is 20 bytes, the signed region, the signature, and whatever follows. -/
theorem exists_split_of_parse {data : Slice} {b : DpapiBlob}
    (h : parseDpapiBlob env data.val = .ok b) :
    ∃ head rest, head.length = 20 ∧ data.val = head ++ b.toSign ++ lp b.sign ++ rest := by
  obtain ⟨w, hw, rfl⟩ := exists_wireBlob_of_parse data.property h
  obtain ⟨rest, hrest⟩ := bytesAt_zero_iff.mp hw
  refine ⟨le32 w.version ++ providerGuidBytes.toList, rest, by simp, ?_⟩
  rw [hrest]
  simp only [WireBlob.bytes, WireBlob.toBlob, List.append_assoc]

/-- **The signed region binds everything decryption uses.** -/
theorem signedRegion_binds (env : Env) (d₁ d₂ : Slice) (b₁ b₂ : DpapiBlob)
    (h₁ : parseDpapiBlob env d₁.val = .ok b₁) (h₂ : parseDpapiBlob env d₂.val = .ok b₂)
    (h : b₁.toSign = b₂.toSign) :
    (b₁.masterKeyGuid = b₂.masterKeyGuid ∧ b₁.description = b₂.description ∧
      b₁.algIdEncrypt = b₂.algIdEncrypt ∧ b₁.algIdHash = b₂.algIdHash ∧ b₁.salt = b₂.salt ∧
      b₁.hmacKey = b₂.hmacKey ∧ b₁.hmac = b₂.hmac ∧ b₁.ciphertext = b₂.ciphertext) ∧
    (∃ head₁ head₂ rest₁ rest₂, head₁.length = 20 ∧ head₂.length = 20 ∧
      d₁.val = head₁ ++ b₁.toSign ++ lp b₁.sign ++ rest₁ ∧
      d₂.val = head₂ ++ b₁.toSign ++ lp b₂.sign ++ rest₂) ∧
    (∀ masterKey entropy plain₁ plain₂, decryptDpapiBlob env b₁ masterKey entropy = .ok plain₁ →
      decryptDpapiBlob env b₂ masterKey entropy = .ok plain₂ → plain₁ = plain₂) ∧
    (b₁.sign = b₂.sign → ∀ masterKey entropy plain,
      decryptDpapiBlob env b₁ masterKey entropy = .ok plain ↔
        decryptDpapiBlob env b₂ masterKey entropy = .ok plain) := by
  obtain ⟨head₁, rest₁, hhead₁, hd₁⟩ := exists_split_of_parse h₁
  obtain ⟨head₂, rest₂, hhead₂, hd₂⟩ := exists_split_of_parse h₂
  obtain ⟨w₁, -, rfl⟩ := exists_wireBlob_of_parse d₁.property h₁
  obtain ⟨w₂, -, rfl⟩ := exists_wireBlob_of_parse d₂.property h₂
  have hblob : w₂.toBlob = { w₁.toBlob with version := w₂.version, sign := w₂.sign.val } :=
    toBlob_congr_of_signedBytes h
  refine ⟨?_, ⟨head₁, head₂, rest₁, rest₂, hhead₁, hhead₂, hd₁, ?_⟩, ?_, ?_⟩
  · rw [hblob]
    exact ⟨rfl, rfl, rfl, rfl, rfl, rfl, rfl, rfl⟩
  · rw [h]
    exact hd₂
  · intro masterKey entropy plain₁ plain₂ hp₁ hp₂
    have hu₁ := unchecked_of_decrypt hp₁
    have hu₂ := unchecked_of_decrypt hp₂
    rw [hblob, unchecked_version_sign, hu₁] at hu₂
    exact Outcome.ok.inj hu₂
  · intro hsign masterKey entropy plain
    have hsame : w₂.toBlob = { w₁.toBlob with version := w₂.version } := by
      rw [hblob]
      change _ = { w₁.toBlob with version := w₂.version, sign := w₁.sign.val }
      rw [show w₁.sign.val = w₂.sign.val from hsign]
    rw [hsame]
    exact Eq.congr_left (decryptDpapiBlob_version _ _ _ _).symm

/-- The Windows blob with its version field raised. The signature does not cover the version. -/
def vector1Raised : Protection := { vector1 with version := 2, version_supported := Or.inr rfl }

theorem signedRegion_binds_vector1 :
    decryptDpapiBlob vector1Answers.env (vector1.wire vector1Answers.env.crypto).toBlob
        vectorMasterKey none = .ok vector1.plaintext ↔
      decryptDpapiBlob vector1Answers.env (vector1Raised.wire vector1Answers.env.crypto).toBlob
        vectorMasterKey none = .ok vector1.plaintext := by
  have hraised : IsSlice ((vector1Raised.wire vector1Answers.env.crypto).bytes ++ [0]) := by
    unfold IsSlice
    decide +kernel
  exact (signedRegion_binds vector1Answers.env
    ⟨(vector1.wire vector1Answers.env.crypto).bytes, WireBlob.isSlice_bytes _⟩
    ⟨(vector1Raised.wire vector1Answers.env.crypto).bytes ++ [0], hraised⟩ _ _
    (parse_wire vector1) (parse_of_bytesAt hraised (bytesAt_zero_iff.mpr ⟨[0], rfl⟩)) rfl).2.2.2
    rfl vectorMasterKey none vector1.plaintext

end DpapiForensic
