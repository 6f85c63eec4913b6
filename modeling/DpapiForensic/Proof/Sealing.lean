import DpapiForensic.Layout.Sealing
import DpapiForensic.Proof.BlobRoundTrip

/-!
# What decrypts is what was sealed

Encryption is onto whole blocks, so a ciphertext that decrypts to padded data *is* the encryption of
that data. Decryption therefore yields a plaintext precisely when the blob is a protection of it: not
only does it undo protection, there is nothing else it accepts.
-/

namespace DpapiForensic

open Decrypt

variable {env : Env}

/-! ### The tables, once more -/

theorem hashAlg_eq_row (himp : env.nomicon.IsImpacket) (algId : UInt32) :
    ∃ digestLen, hashAlg env algId = (BlobHash.ofAlgId algId).row digestLen := by
  by_cases hhmac : algId = calgHmac
  · subst hhmac
    exact hashAlg_algId himp .hmac
  by_cases hsha512 : algId = calgSha512
  · subst hsha512
    exact hashAlg_algId himp .sha512
  by_cases hsha1 : algId = calgSha1
  · subst hsha1
    exact hashAlg_algId himp .sha1
  · refine ⟨20, ?_⟩
    rw [hashAlg, himp.no_other_hash algId hsha1 hhmac hsha512, BlobHash.ofAlgId, if_neg hhmac,
      if_neg hsha512]
    rfl

/-! ### Opening -/

section Open

variable (c : BlobCipher) {key : Vector UInt8 c.keyLen} {iv : Vector UInt8 c.blockLen}
  {ciphertext plain : Bytes}

/-- Opening succeeds on encryptions of padded plaintexts and on nothing else. -/
theorem BlobCipher.openCbc_eq_ok_iff :
    c.openCbc env key.toList iv.toList ciphertext = .ok plain ↔
      ciphertext = (c.cbc env.crypto).encrypt key iv (pkcs7Pad c.blockLen plain) := by
  constructor
  · intro h
    rw [c.openCbc_eq, CbcCipher.newFromSlices_toList, Outcome.okOr_some, Outcome.ok_bind] at h
    obtain ⟨out, hout, hunpad⟩ := Outcome.bind_eq_ok_iff.mp h
    have hout := Outcome.okOr_eq_ok_iff.mp hout
    have hpadded := (pkcsUnpad_eq_ok_iff c.blockLen_lt).mp hunpad
    unfold CbcCipher.decryptPadded at hout
    split at hout
    · cases hout
    rename_i hwhole
    have hdvd : c.blockLen ∣ ciphertext.length := Nat.dvd_of_mod_eq_zero (not_not.mp hwhole)
    obtain rfl : (c.cbc env.crypto).decrypt key iv ciphertext = out := Option.some.inj hout
    have hlen := (c.cbc env.crypto).length_decrypt key iv ciphertext hdvd
    calc ciphertext
        = (c.cbc env.crypto).encrypt key iv ((c.cbc env.crypto).decrypt key iv ciphertext) :=
          ((c.cbc env.crypto).encrypt_decrypt key iv hdvd).symm
      _ = (c.cbc env.crypto).encrypt key iv (pkcs7Pad c.blockLen plain) :=
          congrArg _ (hpadded.eq_pad (hlen ▸ hdvd))
  · rintro rfl
    exact c.openCbc_encrypt key iv plain

end Open

/-! ### Decryption -/

section Decrypt

variable {w : WireBlob} {masterKey plain : Bytes} {entropy : Option Bytes}

theorem decrypt_toBlob_eq_ok_iff (himp : env.nomicon.IsImpacket) :
    decryptDpapiBlob env w.toBlob masterKey entropy = .ok plain ↔
      w.Seals env.crypto masterKey entropy plain := by
  obtain ⟨digestLen, hhash⟩ := hashAlg_eq_row himp w.algIdHash
  -- with the cipher known, decryption is opening and one test
  have hknown : ∀ c : BlobCipher, w.algIdEncrypt = c.algId →
      (decryptDpapiBlob env w.toBlob masterKey entropy = .ok plain ↔
        w.ciphertext.val = (c.cbc env.crypto).encrypt ((w.keys masterKey entropy).cipherKey env.crypto c)
            (Vector.replicate c.blockLen 0) (pkcs7Pad c.blockLen plain) ∧
          (w.keys masterKey entropy).Signs env.crypto w.hmac.val w.signedBytes w.sign.val) := by
    intro c hc
    rw [decryptDpapiBlob_eq himp (show w.toBlob.algIdEncrypt = c.algId from hc) hhash,
      Outcome.bind_eq_ok_iff]
    constructor
    · rintro ⟨out, hopen, hchecked⟩
      obtain ⟨_, hsign, hout⟩ := Outcome.bind_eq_ok_iff.mp hchecked
      obtain rfl := Outcome.ok.inj hout
      exact ⟨c.openCbc_eq_ok_iff.mp hopen, not_not.mp (Outcome.failIf_eq_ok_iff.mp hsign)⟩
    · rintro ⟨hcipher, hsign⟩
      refine ⟨plain, c.openCbc_eq_ok_iff.mpr hcipher, ?_⟩
      exact Outcome.bind_of_ok (Outcome.failIf_of_not (not_not.mpr hsign)) rfl
  constructor
  · intro h
    have hsome : (env.nomicon.cipherAlgInfo w.algIdEncrypt).isSome := by
      obtain ⟨cipher, hcipher, -⟩ := Outcome.bind_eq_ok_iff.mp h
      exact Option.isSome_iff_exists.mpr ⟨cipher, Outcome.okOr_eq_ok_iff.mp hcipher⟩
    obtain ⟨c, hc⟩ := exists_cipher_of_isSome himp hsome
    obtain ⟨hcipher, hsign⟩ := (hknown c hc).mp h
    exact ⟨⟨c, hc, hcipher⟩, hsign⟩
  · rintro ⟨⟨c, hc, hcipher⟩, hsign⟩
    exact (hknown c hc).mpr ⟨hcipher, hsign⟩

/-- For a hash the table knows, what seals a plaintext is a minted blob. -/
theorem seals_iff_wire (h : BlobHash) (hh : w.algIdHash = h.algId) :
    w.Seals env.crypto masterKey entropy plain ↔
      ∃ p : Protection, p.wire env.crypto = w ∧ p.masterKey = masterKey ∧ p.entropy = entropy ∧
        p.plaintext = plain := by
  have hhash : BlobHash.ofAlgId w.algIdHash = h := by
    rw [hh, BlobHash.ofAlgId_algId]
  constructor
  · rintro ⟨⟨c, hc, hcipher⟩, ⟨form, hform⟩⟩
    have hfits : (pkcs7Pad c.blockLen plain).length < 2 ^ 32 := by
      have hlen := congrArg List.length hcipher
      rw [(c.cbc env.crypto).length_encrypt _ _ _ (dvd_length_pkcs7Pad c.blockLen_pos plain)] at hlen
      exact hlen ▸ w.ciphertext.property
    let p : Protection :=
      { w with cipher := c, hash := h, form, masterKey, entropy, plaintext := plain, fits := hfits }
    have hkeys : p.keys = w.keys masterKey entropy := by
      rw [WireBlob.keys, hhash]
      rfl
    have hciphertext : p.ciphertext env.crypto = w.ciphertext.val := by
      rw [hcipher, ← hkeys]
      rfl
    have hunsigned : p.unsigned env.crypto = { w with sign := ⟨[], fits_nil⟩ } :=
      WireBlob.ext rfl rfl rfl rfl rfl hc.symm rfl rfl rfl hh.symm rfl rfl
        (Subtype.ext hciphertext) rfl
    have hsign : (p.signature env.crypto).toList = w.sign.val := by
      rw [← hform, ← hkeys, Protection.signature, hunsigned]
      rfl
    refine ⟨p, ?_, rfl, rfl, rfl⟩
    exact WireBlob.ext rfl rfl rfl rfl rfl hc.symm rfl rfl rfl hh.symm rfl rfl
      (Subtype.ext hciphertext) (Subtype.ext hsign)
  · rintro ⟨p, rfl, rfl, rfl, rfl⟩
    have hkeys : (p.wire env.crypto).keys p.masterKey p.entropy = p.keys := by
      rw [WireBlob.keys, show BlobHash.ofAlgId (p.wire env.crypto).algIdHash = p.hash from
        BlobHash.ofAlgId_algId p.hash]
      rfl
    refine ⟨⟨p.cipher, rfl, ?_⟩, ?_⟩
    · rw [hkeys]
      rfl
    · rw [hkeys]
      exact signs_wire p

end Decrypt

/-! ### The data -/

section Data

variable {β : Type} {data masterKey plain : Bytes} {entropy : Option Bytes}

/-- What an opened blob is handed on to, runs on a sealed plaintext. -/
theorem open_bind_eq_ok_iff (himp : env.nomicon.IsImpacket) (hdata : IsSlice data)
    {f : Bytes → Outcome DpapiError β} {b : β} :
    (do
      let blob ← parseDpapiBlob env data
      let plain ← decryptDpapiBlob env blob masterKey entropy
      f plain) = .ok b ↔
      ∃ plain, IsSealed env.crypto masterKey entropy data plain ∧ f plain = .ok b := by
  constructor
  · intro h
    obtain ⟨blob, hblob, h⟩ := Outcome.bind_eq_ok_iff.mp h
    obtain ⟨plain, hplain, hf⟩ := Outcome.bind_eq_ok_iff.mp h
    obtain ⟨w, hw, rfl⟩ := exists_wireBlob_of_parse hdata hblob
    obtain ⟨rest, hrest⟩ := bytesAt_zero_iff.mp hw
    exact ⟨plain, ⟨w, rest, hrest, (decrypt_toBlob_eq_ok_iff himp).mp hplain⟩, hf⟩
  · rintro ⟨plain, ⟨w, rest, hrest, hseals⟩, hf⟩
    apply Outcome.bind_of_ok (parse_of_bytesAt hdata (bytesAt_zero_iff.mpr ⟨rest, hrest⟩))
    exact Outcome.bind_of_ok ((decrypt_toBlob_eq_ok_iff himp).mpr hseals) hf

/-- A plaintext is no longer than its ciphertext. -/
theorem WireBlob.Encrypts.length_le {crypto : Crypto} {w : WireBlob}
    (h : w.Encrypts crypto masterKey entropy plain) : plain.length ≤ w.ciphertext.val.length := by
  obtain ⟨c, -, hcipher⟩ := h
  have hlen := congrArg List.length hcipher
  rw [(c.cbc crypto).length_encrypt _ _ _ (dvd_length_pkcs7Pad c.blockLen_pos plain),
    pkcs7Pad_length] at hlen
  omega

theorem IsSealed.isSlice {crypto : Crypto} (h : IsSealed crypto masterKey entropy data plain) :
    IsSlice plain := by
  obtain ⟨w, _, -, hseals⟩ := h
  exact Nat.lt_of_le_of_lt hseals.encrypts.length_le (isSlice_field w.ciphertext)

theorem IsSealed.length_le {crypto : Crypto} (h : IsSealed crypto masterKey entropy data plain) :
    plain.length ≤ data.length := by
  obtain ⟨w, rest, rfl, hseals⟩ := h
  have hle := hseals.encrypts.length_le
  simp only [WireBlob.bytes, WireBlob.signedBytes, List.length_append, length_lp]
  omega

/-- An opened blob handed on to an exact parser: the sealed plaintext starts with a serialisation. -/
theorem open_parse_eq_ok_iff {ω : Type} (himp : env.nomicon.IsImpacket) (hdata : IsSlice data)
    {parse : Bytes → Outcome DpapiError β} {bytes : ω → Bytes} {value : ω → β}
    (hparse : ∀ {plain}, IsSlice plain → ∀ {b},
      parse plain = .ok b ↔ ∃ w, BytesAt plain 0 (bytes w) ∧ b = value w) {b : β} :
    (do
      let blob ← parseDpapiBlob env data
      let plain ← decryptDpapiBlob env blob masterKey entropy
      parse plain) = .ok b ↔
      ∃ w rest, IsSealed env.crypto masterKey entropy data (bytes w ++ rest) ∧ b = value w := by
  rw [open_bind_eq_ok_iff himp hdata]
  constructor
  · rintro ⟨plain, hsealed, hb⟩
    obtain ⟨w, hw, rfl⟩ := (hparse hsealed.isSlice).mp hb
    obtain ⟨rest, rfl⟩ := bytesAt_zero_iff.mp hw
    exact ⟨w, rest, hsealed, rfl⟩
  · rintro ⟨w, rest, hsealed, rfl⟩
    exact ⟨_, hsealed, (hparse hsealed.isSlice).mpr ⟨w, bytesAt_zero_iff.mpr ⟨rest, rfl⟩, rfl⟩⟩

/-- A minted blob, whatever follows it, is a sealed plaintext. -/
theorem isSealed_wire (p : Protection) (rest : Bytes) :
    IsSealed env.crypto p.masterKey p.entropy ((p.wire env.crypto).bytes ++ rest) p.plaintext :=
  ⟨p.wire env.crypto, rest, rfl, (seals_iff_wire p.hash rfl).mpr ⟨p, rfl, rfl, rfl, rfl⟩⟩

/-- **What decrypts is what was sealed.** A blob opens under a master key and an entropy precisely when
the data starts with a protection of the plaintext under these, and for a hash the table knows that
protection is a minted one. -/
theorem open_iff_sealed (env : Env) (himp : env.nomicon.IsImpacket) (data : Slice) (masterKey : Bytes)
    (entropy : Option Bytes) (plain : Bytes) :
    ((do
      let blob ← parseDpapiBlob env data.val
      decryptDpapiBlob env blob masterKey entropy) = .ok plain ↔
        IsSealed env.crypto masterKey entropy data.val plain) ∧
    ∀ (w : WireBlob) (h : BlobHash), w.algIdHash = h.algId →
      (w.Seals env.crypto masterKey entropy plain ↔
        ∃ p : Protection, p.wire env.crypto = w ∧ p.masterKey = masterKey ∧ p.entropy = entropy ∧
          p.plaintext = plain) := by
  refine ⟨?_, fun w => seals_iff_wire⟩
  have hopen := @open_bind_eq_ok_iff env Bytes data.val masterKey entropy himp data.property pure plain
  simp only [bind_pure] at hopen
  simpa only [Outcome.pure_eq, Outcome.ok.injEq, exists_eq_right] using hopen

end Data

/-- Two blobs sealed under an entropy: one of Windows, and one under triple DES with a key of odd parity. -/
theorem open_iff_sealed_vectors :
    IsSealed vector2Answers.env.crypto vectorMasterKey (some (beBytes 12 0x536f6d6520656e74726f7079))
        vector2Bytes (beBytes 16 0x536f6d65207465737420737472696e67) ∧
      IsSealed tdesAnswers.env.crypto vectorMasterKey (some (beBytes 6 0x706570706572)) tdesBytes
        (beBytes 16 0x536f6d65207465737420737472696e67) := by
  rw [← vector2_bytes, ← tdesBlob_bytes]
  constructor
  · apply (open_iff_sealed vector2Answers.env linkedTables_isImpacket
      ⟨_, (vector2.wire vector2Answers.env.crypto).isSlice_bytes⟩ vectorMasterKey vector2.entropy
      vector2.plaintext).1.mp
    rw [parse_wire, Outcome.ok_bind]
    exact decrypt_wire linkedTables_isImpacket vector2
  · apply (open_iff_sealed tdesAnswers.env linkedTables_isImpacket
      ⟨_, (tdesBlob.wire tdesAnswers.env.crypto).isSlice_bytes⟩ vectorMasterKey tdesBlob.entropy
      tdesBlob.plaintext).1.mp
    rw [parse_wire, Outcome.ok_bind]
    exact decrypt_wire linkedTables_isImpacket tdesBlob

end DpapiForensic
